import GrowthOs.Evidence.Documents

/-!
# The text of a title

A title is parsed twice: `_OnPageParser` collects its text with the references as they are written,
and `_TitleTextParser` reads that text again. It decodes the references, and pieces of text that
tags have kept apart may read as a tag.
-/

namespace GrowthOs.Evidence

open Library

namespace TitleTextParser

/-- An ignored tag is open. -/
def hides (parser : TitleTextParser) : Bool := !parser.ignoredTags.isEmpty

/-- What a document does to the parser of titles: what is visible of it stands behind the text, and
the tags that are open are as before. -/
structure Reads (casefold : Text → Text) (forest : Forest) (parser after : TitleTextParser) :
    Prop where
  ignored : after.ignoredTags = parser.ignoredTags
  text : after.parts.flatten =
    parser.parts.flatten ++ forest.visibleText casefold parser.hides

variable {casefold : Text → Text}

/-- A list without anything that matches stays as it is. -/
theorem close_last_none {α : Type} {matching : α → Bool} {openItems : List α}
    (h : ∀ a ∈ openItems, matching a = false) : closeLast matching openItems = openItems := by
  unfold closeLast
  rw [List.eraseP_of_forall_not fun a ha => by simp [h a (List.mem_reverse.mp ha)],
    List.reverse_reverse]

/-- An element is read with what is in it. -/
theorem reads_element {start finish : Text} {children : Forest}
    (htags : casefold start = casefold finish) {parser inner : TitleTextParser}
    (hparser : ∀ tag ∈ parser.ignoredTags, tag ∈ ignoredTextTags)
    (h : Reads casefold children (parser.handleStarttag casefold start) inner) :
    Reads casefold (.element start finish children .nil) parser
      (inner.handleEndtag casefold finish) := by
  have hvisible : Forest.visibleText casefold parser.hides (.element start finish children .nil) =
      children.visibleText casefold
        (parser.hides || ignoredTextTags.contains (casefold start)) := List.append_nil _
  obtain ⟨hignored, htext⟩ := h
  unfold handleStarttag at hignored htext
  by_cases hmem : casefold start ∈ ignoredTextTags
  · rw [if_pos hmem] at hignored htext
    refine ⟨?_, ?_⟩
    · show closeLast _ inner.ignoredTags = _
      rw [hignored, ← htags]
      exact close_last_concat (by simp) _
    · show inner.parts.flatten = _
      have hopen : (!(parser.ignoredTags ++ [casefold start]).isEmpty) = true := by
        rw [Bool.not_eq_true', List.isEmpty_eq_false_iff]
        exact List.append_ne_nil_of_right_ne_nil _ (List.cons_ne_nil _ _)
      rw [htext, hvisible]
      simp [hides, hmem, hopen]
  · rw [if_neg hmem] at hignored htext
    refine ⟨?_, ?_⟩
    · show closeLast _ inner.ignoredTags = _
      rw [hignored]
      -- No open tag has the name of an element that is not ignored.
      refine close_last_none fun tag htag => ?_
      rw [beq_eq_false_iff_ne]
      rintro rfl
      exact hmem (htags ▸ hparser _ htag)
    · show inner.parts.flatten = _
      rw [htext, hvisible]
      simp [hides, hmem]

/-- Two forests are read one after the other. -/
theorem Reads.append {first second both : Forest} {parser next after : TitleTextParser}
    (h : Reads casefold first parser next) (h' : Reads casefold second next after)
    (hvisible : both.visibleText casefold parser.hides =
      first.visibleText casefold parser.hides ++ second.visibleText casefold parser.hides) :
    Reads casefold both parser after := by
  have hhides : next.hides = parser.hides := by
    unfold hides
    rw [h.ignored]
  refine ⟨h'.ignored.trans h.ignored, ?_⟩
  rw [h'.text, hhides, h.text, hvisible, List.append_assoc]

/-- The parser of titles reads a well-nested document. -/
theorem reads_forest {forest : Forest} (h : forest.WellNested casefold) {parser : TitleTextParser}
    (hparser : ∀ tag ∈ parser.ignoredTags, tag ∈ ignoredTextTags) :
    Reads casefold forest parser (forest.events.foldl (handle casefold) parser) := by
  -- A start tag opens at most an ignored tag of the list.
  have hstart : ∀ {parser : TitleTextParser} (tag : Text),
      (∀ tag ∈ parser.ignoredTags, tag ∈ ignoredTextTags) →
      ∀ other ∈ (parser.handleStarttag casefold tag).ignoredTags, other ∈ ignoredTextTags := by
    intro parser tag hopen other hother
    unfold handleStarttag at hother
    split at hother
    · next hmem =>
        rcases List.mem_append.mp hother with hold | hnew
        · exact hopen other hold
        · rw [List.mem_singleton.mp hnew]
          exact hmem
    · exact hopen other hother
  induction forest generalizing parser with
  | nil => exact ⟨rfl, (List.append_nil _).symm⟩
  | text data rest ih =>
      have hreads : Reads casefold (.text data .nil) parser (parser.handleData data) := by
        unfold handleData
        by_cases hopen : parser.ignoredTags = []
        · rw [if_pos hopen]
          exact ⟨rfl, by simp [Forest.visibleText, hides, hopen]⟩
        · rw [if_neg hopen]
          exact ⟨rfl, by simp [Forest.visibleText, hides, hopen]⟩
      exact hreads.append (ih h (hreads.ignored ▸ hparser)) (by simp [Forest.visibleText])
  | selfClosing tag rest ih =>
      have hempty : Reads casefold .nil (parser.handleStarttag casefold tag)
          (parser.handleStarttag casefold tag) := ⟨rfl, (List.append_nil _).symm⟩
      have helement := @reads_element casefold tag tag .nil rfl _ _ hparser hempty
      have hreads : Reads casefold (.selfClosing tag .nil) parser
          ((parser.handleStarttag casefold tag).handleEndtag casefold tag) :=
        ⟨helement.ignored, helement.text.trans (by simp [Forest.visibleText])⟩
      exact hreads.append (ih h (hreads.ignored ▸ hparser)) (by simp [Forest.visibleText])
  | element start finish children rest ihc ihr =>
      obtain ⟨htags, hchildren, hrest⟩ := h
      have hreads := reads_element htags hparser (ihc hchildren (hstart start hparser))
      have hafter : Reads casefold (.element start finish children rest) parser _ :=
        hreads.append (ihr hrest (hreads.ignored ▸ hparser)) (by simp [Forest.visibleText])
      show Reads casefold _ parser
        ((children.events ++ .endtag finish :: rest.events).foldl (handle casefold)
          (parser.handleStarttag casefold start))
      rw [List.foldl_append]
      exact hafter

end TitleTextParser

/-- A title whose text reads as a well-nested document is what is visible of the document. -/
theorem title_of_forest {lib : PageLibrary} {parts : List Text} {forest : Forest}
    (hevents : lib.titleEvents parts.flatten = some forest.events)
    (hnested : forest.WellNested lib.casefold) :
    normalizeTitle lib parts =
      some (normalizeText (forest.visibleText lib.casefold false)) := by
  have hreads : TitleTextParser.Reads lib.casefold forest .new _ :=
    TitleTextParser.reads_forest hnested fun _ htag => absurd htag List.not_mem_nil
  unfold normalizeTitle
  rw [hevents, Option.map_some, hreads.text]
  rfl

/-- The pieces of a title: two hidden elements, one inside the other, and a hidden one behind
them. -/
def hiddenParts : List Text :=
  [Text.ofString "a<template>b<style>c</style>d</template>", Text.ofString "&amp;",
    Text.ofString "<i> e</i><script>f<b></script>"]

/-- What `HTMLParser` reads in it: no tag opens inside a script. -/
def hiddenTitle : Forest :=
  .text (Text.ofString "a") (.element (Text.ofString "template") (Text.ofString "template")
    (.text (Text.ofString "b") (.element (Text.ofString "style") (Text.ofString "style")
      (.text (Text.ofString "c") .nil) (.text (Text.ofString "d") .nil)))
    (.text (Text.ofString "&") (.element (Text.ofString "i") (Text.ofString "i")
      (.text (Text.ofString " e") .nil)
      (.element (Text.ofString "script") (Text.ofString "script")
        (.text (Text.ofString "f<b>") .nil) .nil))))

/-- The standard library on this title. -/
def titleLibrary : PageLibrary :=
  { sampleLibrary with
    titleEvents := fun title =>
      if title = hiddenParts.flatten then some hiddenTitle.events else none }

/-- A title with nested scripts and styles. -/
theorem title_of_forest_hidden :
    normalizeTitle titleLibrary hiddenParts = some (some (Text.ofString "a& e")) := by
  have hevents : titleLibrary.titleEvents hiddenParts.flatten = some hiddenTitle.events := by
    simp only [titleLibrary, if_true]
  have hwell : hiddenTitle.WellNested titleLibrary.casefold :=
    ⟨rfl, ⟨rfl, trivial, trivial⟩, rfl, trivial, rfl, trivial, trivial⟩
  exact (title_of_forest hevents hwell).trans (by decide +kernel)

end GrowthOs.Evidence
