import GrowthOs.Evidence.References
import Mathlib.Data.List.Nodup

/-!
# The headings of a tree

A well-nested document is a forest of elements and text. The handlers of `_OnPageParser` collect,
for every heading, the text below it that no ignored element hides. Read `h1_texts_of_forest` first.
-/

namespace GrowthOs.Evidence

open Library

/-- Elements and text that follow one another. An element keeps its tag as its start and as its end
write it. -/
inductive Forest where
  | nil
  | text (data : Text) (rest : Forest)
  | selfClosing (tag : Text) (rest : Forest)
  | element (start finish : Text) (children rest : Forest)

namespace Forest

/-- The events of a document, in its order. -/
def events : Forest → List HtmlEvent
  | nil => []
  | text data rest => .text (.data data) :: rest.events
  | selfClosing tag rest => .startendtag tag :: rest.events
  | element start finish children rest =>
      .starttag start :: (children.events ++ .endtag finish :: rest.events)

variable (casefold : Text → Text)

/-- The tags of every element are the same but for case. -/
def WellNested : Forest → Prop
  | nil => True
  | text _ rest => rest.WellNested
  | selfClosing _ rest => rest.WellNested
  | element start finish children rest =>
      casefold start = casefold finish ∧ children.WellNested ∧ rest.WellNested

/-- The text that no ignored element hides. `hidden` says that one is open around the document. -/
def visibleText (hidden : Bool) : Forest → Text
  | nil => []
  | text data rest => (if hidden then [] else data) ++ rest.visibleText hidden
  | selfClosing _ rest => rest.visibleText hidden
  | element start _ children rest =>
      children.visibleText (hidden || ignoredTextTags.contains (casefold start)) ++
        rest.visibleText hidden

/-- The visible text of every heading, in the order of their start tags. -/
def headings (hidden : Bool) : Forest → List Text
  | nil => []
  | text _ rest => rest.headings hidden
  | selfClosing tag rest =>
      (if casefold tag = h1Tag then [[]] else []) ++ rest.headings hidden
  | element start _ children rest =>
      (if casefold start = h1Tag then [children.visibleText casefold hidden] else []) ++
        children.headings (hidden || ignoredTextTags.contains (casefold start)) ++
        rest.headings hidden

/-- The text that a collector is made for, with its tag. -/
def collected (hidden : Bool) : Forest → List (Text × Text)
  | nil => []
  | text _ rest => rest.collected hidden
  | selfClosing tag rest =>
      (if casefold tag = titleTag ∨ casefold tag = h1Tag then [(casefold tag, [])] else []) ++
        rest.collected hidden
  | element start _ children rest =>
      (if casefold start = titleTag ∨ casefold start = h1Tag then
        [(casefold start, children.visibleText casefold hidden)] else []) ++
        children.collected (hidden || ignoredTextTags.contains (casefold start)) ++
        rest.collected hidden

/-- The headings are what is collected under their tag. -/
theorem headings_eq (hidden : Bool) (forest : Forest) : forest.headings casefold hidden =
    (forest.collected casefold hidden).filterMap fun found =>
      if found.1 = h1Tag then some found.2 else none := by
  have htitle : titleTag ≠ h1Tag := by decide
  have hone : ∀ tag shown : Text, (if tag = h1Tag then [shown] else []) =
      (if tag = titleTag ∨ tag = h1Tag then [(tag, shown)] else []).filterMap
        fun found => if found.1 = h1Tag then some found.2 else none := by
    intro tag shown
    by_cases hheading : tag = h1Tag
    · simp [hheading]
    · by_cases hother : tag = titleTag
      · simp [hother, htitle]
      · simp [hheading, hother]
  induction forest generalizing hidden with
  | nil => rfl
  | text data rest ih => exact ih hidden
  | selfClosing tag rest ih =>
      simp only [headings, collected, List.filterMap_append, ih, hone]
  | element start finish children rest ihc ihr =>
      simp only [headings, collected, List.filterMap_append, ihc, ihr, hone]

end Forest

/-- The tags of the collectors, with the text of each. -/
def OnPageParser.contents (parser : OnPageParser) : List (Text × Text) :=
  parser.textCollectors.map fun collector => (collector.tag, collector.parts.flatten)

/-- More text for the active collectors. -/
def extend (active : List Nat) (shown : Text) (contents : List (Text × Text)) :
    List (Text × Text) :=
  contents.mapIdx fun i found => (found.1, if i ∈ active then found.2 ++ shown else found.2)

/-- A content that is extended, by its index. -/
theorem getElem?_extend (active : List Nat) (shown : Text) (contents : List (Text × Text))
    (k : Nat) : (extend active shown contents)[k]? =
      (contents[k]?).map fun found => (found.1, if k ∈ active then found.2 ++ shown else found.2) :=
  List.getElem?_mapIdx

/-- Nothing is added. -/
theorem extend_nothing (active : List Nat) (contents : List (Text × Text)) :
    extend active [] contents = contents := by
  refine List.ext_getElem? fun k => ?_
  rw [getElem?_extend]
  cases contents[k]? with
  | none => rfl
  | some found => simp

/-- Two texts are added one after the other. -/
theorem extend_extend (active : List Nat) (shown more : Text) (contents : List (Text × Text)) :
    extend active more (extend active shown contents) = extend active (shown ++ more) contents := by
  refine List.ext_getElem? fun k => ?_
  rw [getElem?_extend, getElem?_extend, getElem?_extend, Option.map_map]
  refine congrArg (fun f => (contents[k]?).map f) (funext fun found => ?_)
  by_cases hk : k ∈ active
  · simp [hk]
  · simp [hk]

/-- Text for one collector more. -/
theorem extend_cons {index : Nat} {active : List Nat} (h : index ∉ active) (shown : Text)
    (contents : List (Text × Text)) :
    extend active shown (extend [index] shown contents) =
      extend (index :: active) shown contents := by
  refine List.ext_getElem? fun k => ?_
  rw [getElem?_extend, getElem?_extend, getElem?_extend, Option.map_map]
  refine congrArg (fun f => (contents[k]?).map f) (funext fun found => ?_)
  by_cases hk : k = index
  · subst hk
    simp [h]
  · simp [hk]

/-- New collectors stand behind those that are active. -/
theorem extend_append {active : List Nat} {contents : List (Text × Text)}
    (h : ∀ index ∈ active, index < contents.length) (shown : Text)
    (more : List (Text × Text)) :
    extend active shown (contents ++ more) = extend active shown contents ++ more := by
  unfold extend
  rw [List.mapIdx_append]
  refine congrArg (List.mapIdx _ contents ++ ·) ?_
  refine List.ext_getElem? fun k => ?_
  rw [List.getElem?_mapIdx]
  have hk : k + contents.length ∉ active := fun hmem => by
    have hbound := h _ hmem
    omega
  simp [hk]

/-- The last collector is active and takes the text. -/
theorem extend_last (active : List Nat) (contents : List (Text × Text)) (tag shown : Text) :
    extend (active ++ [contents.length]) shown (contents ++ [(tag, [])]) =
      extend active shown contents ++ [(tag, shown)] := by
  refine List.ext_getElem? fun k => ?_
  rw [getElem?_extend]
  rcases Nat.lt_trichotomy k contents.length with hk | rfl | hk
  · have hlength : k < (extend active shown contents).length := by
      rw [extend, List.length_mapIdx]
      exact hk
    rw [List.getElem?_append_left hk, List.getElem?_append_left hlength, getElem?_extend]
    have hne : k ≠ contents.length := Nat.ne_of_lt hk
    simp [hne]
  · have hlength : (extend active shown contents).length = contents.length := List.length_mapIdx
    rw [List.getElem?_concat_length, ← hlength, List.getElem?_concat_length, hlength]
    simp
  · have hnone : ∀ l : List (Text × Text), l.length = contents.length →
        ∀ last, (l ++ [last])[k]? = none := by
      intro l hl last
      rw [List.getElem?_eq_none_iff, List.length_append, hl]
      exact hk
    rw [hnone contents rfl, hnone (extend active shown contents) List.length_mapIdx]
    rfl

variable {casefold : Text → Text} {table : EntityTable}

/-- The active collectors exist and differ. -/
structure Standing (parser : OnPageParser) : Prop where
  below : ActiveBelow parser
  nodup : parser.activeCollectors.Nodup

/-- Every collector has a content. -/
theorem length_contents (parser : OnPageParser) :
    parser.contents.length = parser.textCollectors.length := List.length_map ..

/-- A part is added to one content. -/
theorem contents_add_part {data : Text} {parser after : OnPageParser} {index : Nat}
    (h : parser.addPart (fun _ => some data) index = some after) :
    after.contents = extend [index] data parser.contents := by
  refine List.ext_getElem? fun k => ?_
  obtain ⟨-, -, -, hother, hadded⟩ := add_part_some h
  unfold OnPageParser.contents
  rw [getElem?_extend, List.getElem?_map, List.getElem?_map]
  by_cases hk : k = index
  · subst hk
    cases hcollector : parser.textCollectors[k]? with
    | none =>
        have hnone : after.textCollectors[k]? = none := by
          unfold OnPageParser.addPart at h
          simp only [hcollector] at h
          cases h
          exact hcollector
        rw [hnone]
        rfl
    | some collector =>
        obtain ⟨text, htext, hafter⟩ := hadded collector hcollector
        cases htext
        rw [hafter]
        simp
  · rw [hother k hk, Option.map_map]
    refine congrArg (fun f => (parser.textCollectors[k]?).map f) (funext fun collector => ?_)
    simp [hk]

/-- The loop over the active collectors adds the text to each of them. -/
theorem contents_add_parts {data : Text} {indices : List Nat} (hnodup : indices.Nodup)
    {parser after : OnPageParser}
    (h : indices.foldlM (OnPageParser.addPart fun _ => some data) parser = some after) :
    after.contents = extend indices data parser.contents := by
  induction indices generalizing parser with
  | nil =>
      cases h
      refine List.ext_getElem? fun k => ?_
      rw [getElem?_extend]
      simp
  | cons index indices ih =>
      rw [List.foldlM_cons] at h
      obtain ⟨next, hnext, h⟩ := Option.bind_eq_some_iff.mp h
      obtain ⟨hindex, hnodup⟩ := List.nodup_cons.mp hnodup
      rw [ih hnodup h, contents_add_part hnext, extend_cons hindex]

variable (casefold table) in
/-- Text goes to the active collectors unless an ignored tag is open. -/
theorem handle_data_spec {parser : OnPageParser} (hnodup : parser.activeCollectors.Nodup)
    (data : Text) : ∃ after, parser.handle casefold table (.text (.data data)) = some after ∧
      after.activeCollectors = parser.activeCollectors ∧
      after.ignoredTags = parser.ignoredTags ∧
      after.contents = extend parser.activeCollectors
        (if !parser.ignoredTags.isEmpty then [] else data) parser.contents := by
  show ∃ after, OnPageParser.addParts (fun _ => some data) parser = some after ∧ _
  unfold OnPageParser.addParts
  by_cases hopen : parser.ignoredTags = []
  · rw [if_neg (not_not.mpr hopen)]
    obtain ⟨after, hafter⟩ :=
      add_parts_total (fun _ => ⟨data, rfl⟩) parser.activeCollectors parser
    obtain ⟨hactive, hignored, -, -⟩ := add_parts_other hafter
    refine ⟨after, hafter, hactive, hignored, ?_⟩
    rw [contents_add_parts hnodup hafter, hopen]
    rfl
  · rw [if_pos hopen]
    refine ⟨parser, rfl, rfl, rfl, ?_⟩
    rw [if_pos (by simp [hopen]), extend_nothing]

variable (casefold) in
/-- A start tag opens at most one collector and one ignored tag. -/
theorem handle_starttag_spec (parser : OnPageParser) (tag : Text) :
    (parser.handleStarttag casefold tag).activeCollectors = parser.activeCollectors ++
        (if casefold tag = titleTag ∨ casefold tag = h1Tag then [parser.contents.length] else []) ∧
      (parser.handleStarttag casefold tag).ignoredTags = parser.ignoredTags ++
        (if casefold tag ∈ ignoredTextTags then [casefold tag] else []) ∧
      (parser.handleStarttag casefold tag).contents = parser.contents ++
        if casefold tag = titleTag ∨ casefold tag = h1Tag then [(casefold tag, [])] else [] := by
  unfold OnPageParser.handleStarttag OnPageParser.contents
  by_cases hheading : casefold tag = titleTag ∨ casefold tag = h1Tag
  · by_cases hignored : casefold tag ∈ ignoredTextTags
    · simp [hheading, hignored]
    · simp [hheading, hignored]
  · by_cases hignored : casefold tag ∈ ignoredTextTags
    · simp [hheading, hignored]
    · simp [hheading, hignored]

/-- An end tag closes what the start tag of the element has opened, when that is the last that is
open. -/
theorem handle_endtag_spec {parser : OnPageParser} {tag : Text} {active : List Nat}
    {ignored : List Text} {k : Nat}
    (hactive : parser.activeCollectors = active ++
      if casefold tag = titleTag ∨ casefold tag = h1Tag then [k] else [])
    (hcollector : casefold tag = titleTag ∨ casefold tag = h1Tag →
      ∃ shown, parser.contents[k]? = some (casefold tag, shown))
    (hignored : parser.ignoredTags = ignored ++
      if casefold tag ∈ ignoredTextTags then [casefold tag] else []) :
    (parser.handleEndtag casefold tag).activeCollectors = active ∧
      (parser.handleEndtag casefold tag).ignoredTags = ignored ∧
      (parser.handleEndtag casefold tag).contents = parser.contents := by
  have hclosed : casefold tag ∈ ignoredTextTags →
      closeLast (· == casefold tag) parser.ignoredTags = ignored := by
    intro hmem
    rw [hignored, if_pos hmem]
    exact close_last_concat (by simp) ignored
  have hpopped : casefold tag = titleTag ∨ casefold tag = h1Tag →
      closeLast (fun index => (parser.textCollectors[index]?).map TextCollector.tag ==
        some (casefold tag)) parser.activeCollectors = active := by
    intro hheading
    rw [hactive, if_pos hheading]
    refine close_last_concat ?_ active
    obtain ⟨shown, hshown⟩ := hcollector hheading
    unfold OnPageParser.contents at hshown
    rw [List.getElem?_map] at hshown
    obtain ⟨collector, hfound, heq⟩ := Option.map_eq_some_iff.mp hshown
    rw [hfound, Option.map_some, (Prod.mk.inj heq).1]
    exact beq_self_eq_true _
  unfold OnPageParser.handleEndtag
  -- A tag is ignored, a heading, both or neither.
  by_cases hmem : casefold tag ∈ ignoredTextTags
  · by_cases hheading : casefold tag = titleTag ∨ casefold tag = h1Tag
    · simp only [hmem, hheading, if_true]
      exact ⟨hpopped hheading, hclosed hmem, rfl⟩
    · simp only [hmem, hheading, if_true, if_false]
      rw [if_neg hheading, List.append_nil] at hactive
      exact ⟨hactive, hclosed hmem, rfl⟩
  · rw [if_neg hmem, List.append_nil] at hignored
    by_cases hheading : casefold tag = titleTag ∨ casefold tag = h1Tag
    · simp only [hmem, hheading, if_true, if_false]
      exact ⟨hpopped hheading, hignored, rfl⟩
    · simp only [hmem, hheading, if_false]
      rw [if_neg hheading, List.append_nil] at hactive
      exact ⟨hactive, hignored, trivial⟩

/-! ## Whole documents -/

/-- A parser that keeps its active collectors keeps their contents. -/
theorem standing_of_same {parser after : OnPageParser} (h : Standing parser)
    (hactive : after.activeCollectors = parser.activeCollectors)
    (hlength : parser.contents.length ≤ after.contents.length) : Standing after := by
  rw [length_contents, length_contents] at hlength
  refine ⟨fun index hindex => ?_, hactive ▸ h.nodup⟩
  rw [hactive] at hindex
  exact (h.below index hindex).trans_le hlength

/-- So it does at a start tag. -/
theorem standing_start {parser : OnPageParser} (h : Standing parser) (tag : Text) :
    Standing (parser.handleStarttag casefold tag) := by
  obtain ⟨hactive, -, hcontents⟩ := handle_starttag_spec casefold parser tag
  have hlength := congrArg List.length hcontents
  rw [List.length_append, length_contents, length_contents] at hlength
  rw [length_contents] at hactive
  by_cases hheading : casefold tag = titleTag ∨ casefold tag = h1Tag
  · rw [if_pos hheading] at hactive hlength
    rw [List.length_singleton] at hlength
    refine ⟨fun index hindex => ?_, ?_⟩
    · rw [hactive] at hindex
      rw [hlength]
      rcases List.mem_append.mp hindex with hold | hnew
      · exact (h.below index hold).trans (Nat.lt_succ_self _)
      · rw [List.mem_singleton.mp hnew]
        exact Nat.lt_succ_self _
    · rw [hactive, List.nodup_append]
      refine ⟨h.nodup, List.nodup_singleton _, fun a ha b hb => ?_⟩
      rw [List.mem_singleton.mp hb]
      exact Nat.ne_of_lt (h.below a ha)
  · rw [if_neg hheading, List.append_nil] at hactive
    rw [if_neg hheading] at hlength
    refine standing_of_same h hactive ?_
    rw [length_contents, length_contents, hlength]
    exact Nat.le_add_right _ _

/-- And at an end tag. -/
theorem standing_end {parser : OnPageParser} (h : Standing parser) (tag : Text) :
    Standing (parser.handleEndtag casefold tag) := by
  have hclosed : ∀ {matching : Nat → Bool}, (closeLast matching parser.activeCollectors).Nodup := by
    intro matching
    rw [closeLast, List.nodup_reverse]
    exact (List.nodup_reverse.mpr h.nodup).sublist List.eraseP_sublist
  unfold OnPageParser.handleEndtag
  by_cases hignored : casefold tag ∈ ignoredTextTags
  all_goals
    simp only [hignored, if_true, if_false]
    split
    · exact ⟨fun index hindex => h.below index (mem_close_last hindex), hclosed⟩
    · exact ⟨h.below, h.nodup⟩

/-- And at every event. -/
theorem standing_of_handle {parser after : OnPageParser} (h : Standing parser) {event : HtmlEvent}
    (hafter : parser.handle casefold table event = some after) : Standing after := by
  cases event with
  | starttag tag =>
      cases hafter
      exact standing_start h tag
  | startendtag tag =>
      cases hafter
      exact standing_end (standing_start h tag) tag
  | endtag tag =>
      cases hafter
      exact standing_end h tag
  | text event =>
      change OnPageParser.handleText table event parser = some after at hafter
      rw [handle_text_eq, OnPageParser.addParts] at hafter
      split at hafter
      · cases hafter
        exact h
      · obtain ⟨hactive, -, hlength, -⟩ := add_parts_other hafter
        refine standing_of_same h hactive ?_
        rw [length_contents, length_contents, hlength]

/-- A new parser has no active collector. -/
theorem standing_new : Standing .new :=
  ⟨fun _ hindex => absurd hindex List.not_mem_nil, List.nodup_nil⟩

/-- Whatever a new parser has been fed, its active collectors exist and differ. -/
theorem standing_of_feed {events : List HtmlEvent} {parser : OnPageParser}
    (h : OnPageParser.new.feed casefold table events = some parser) : Standing parser := by
  have hrun : ∀ {parser after : OnPageParser}, Standing parser →
      parser.feed casefold table events = some after → Standing after := by
    clear h
    induction events with
    | nil =>
        intro parser after hparser h
        cases h
        exact hparser
    | cons event events ih =>
        intro parser after hparser h
        rw [OnPageParser.feed, List.foldlM_cons] at h
        obtain ⟨next, hnext, h⟩ := Option.bind_eq_some_iff.mp h
        exact ih (standing_of_handle hparser hnext) h
  exact hrun standing_new h

/-- An ignored tag is open. -/
def OnPageParser.hides (parser : OnPageParser) : Bool := !parser.ignoredTags.isEmpty

/-- What a document does to the parser: the stacks are as before, the active collectors have its
visible text more, and behind all collectors stand those of its titles and headings. -/
structure Reads (casefold : Text → Text) (forest : Forest) (parser after : OnPageParser) :
    Prop where
  active : after.activeCollectors = parser.activeCollectors
  ignored : after.ignoredTags = parser.ignoredTags
  contents : after.contents =
    extend parser.activeCollectors (forest.visibleText casefold parser.hides) parser.contents ++
      forest.collected casefold parser.hides

/-- A forest that is read leaves the active collectors standing. -/
theorem Reads.standing {forest : Forest} {parser after : OnPageParser}
    (h : Reads casefold forest parser after) (hparser : Standing parser) : Standing after := by
  refine standing_of_same hparser h.active ?_
  rw [h.contents, List.length_append, extend, List.length_mapIdx]
  exact Nat.le_add_right _ _

/-- An active collector has a content. -/
theorem Standing.below_contents {parser : OnPageParser} (h : Standing parser) :
    ∀ index ∈ parser.activeCollectors, index < parser.contents.length := by
  rw [length_contents]
  exact h.below

/-- An element reads as its children do between its tags. -/
theorem reads_element {start finish : Text} {children : Forest}
    (htags : casefold start = casefold finish) {parser inner : OnPageParser}
    (hparser : Standing parser)
    (h : Reads casefold children (parser.handleStarttag casefold start) inner) :
    Reads casefold (.element start finish children .nil) parser
      (inner.handleEndtag casefold finish) := by
  obtain ⟨hactive, hignored, hcontents⟩ := handle_starttag_spec casefold parser start
  have hhides : (parser.handleStarttag casefold start).hides =
      (parser.hides || ignoredTextTags.contains (casefold start)) := by
    unfold OnPageParser.hides
    rw [hignored]
    by_cases hmem : casefold start ∈ ignoredTextTags
    · simp [hmem]
    · simp [hmem]
  have hbelow := hparser.below_contents
  have hinner := h.contents
  rw [hhides, hactive, hcontents] at hinner
  have hopen : casefold start = titleTag ∨ casefold start = h1Tag →
      ignoredTextTags.contains (casefold start) = false := by
    intro hheading
    rcases hheading with hheading | hheading
    · rw [hheading]
      decide
    · rw [hheading]
      decide
  -- The collector of the element, if it has one, takes the visible text of its children.
  have hcollected : inner.contents = extend parser.activeCollectors
      (children.visibleText casefold (parser.hides || ignoredTextTags.contains (casefold start)))
        parser.contents ++
      ((if casefold start = titleTag ∨ casefold start = h1Tag then
        [(casefold start, children.visibleText casefold parser.hides)] else []) ++
      children.collected casefold
        (parser.hides || ignoredTextTags.contains (casefold start))) := by
    rw [hinner]
    by_cases hheading : casefold start = titleTag ∨ casefold start = h1Tag
    · rw [if_pos hheading, if_pos hheading, if_pos hheading, hopen hheading, Bool.or_false,
        extend_last, List.append_assoc]
    · rw [if_neg hheading, if_neg hheading, if_neg hheading, List.append_nil, List.append_nil,
        List.nil_append]
  have hend : (inner.handleEndtag casefold finish).activeCollectors = parser.activeCollectors ∧
      (inner.handleEndtag casefold finish).ignoredTags = parser.ignoredTags ∧
      (inner.handleEndtag casefold finish).contents = inner.contents :=
    handle_endtag_spec (k := parser.contents.length) (by rw [h.active, hactive, htags])
      (fun hheading => by
      rw [← htags] at hheading ⊢
      refine ⟨children.visibleText casefold parser.hides, ?_⟩
      have hlength : (extend parser.activeCollectors (children.visibleText casefold
          (parser.hides || ignoredTextTags.contains (casefold start))) parser.contents).length =
          parser.contents.length := List.length_mapIdx
      rw [hcollected, if_pos hheading, List.getElem?_append_right hlength.le, hlength,
        Nat.sub_self]
      rfl)
    (by rw [h.ignored, hignored, htags])
  refine ⟨hend.1, hend.2.1, ?_⟩
  rw [hend.2.2, hcollected]
  simp [Forest.visibleText, Forest.collected]

/-- A document behind another one. -/
theorem Reads.append {first second both : Forest} {parser next after : OnPageParser}
    (hparser : Standing parser) (h : Reads casefold first parser next)
    (h' : Reads casefold second next after)
    (hvisible : both.visibleText casefold parser.hides =
      first.visibleText casefold parser.hides ++ second.visibleText casefold parser.hides)
    (hcollected : both.collected casefold parser.hides =
      first.collected casefold parser.hides ++ second.collected casefold parser.hides) :
    Reads casefold both parser after := by
  have hhides : next.hides = parser.hides := by
    unfold OnPageParser.hides
    rw [h.ignored]
  refine ⟨h'.active.trans h.active, h'.ignored.trans h.ignored, ?_⟩
  rw [h'.contents, hhides, h.active, h.contents, hvisible, hcollected, extend_append,
    extend_extend, List.append_assoc]
  intro index hindex
  rw [extend, List.length_mapIdx]
  exact hparser.below_contents index hindex

variable (table) in
/-- The handlers of a well-nested document raise nothing, and read it. -/
theorem feed_forest {forest : Forest} (h : forest.WellNested casefold) {parser : OnPageParser}
    (hparser : Standing parser) : ∃ after, parser.feed casefold table forest.events = some after ∧
      Reads casefold forest parser after := by
  induction forest generalizing parser with
  | nil =>
      refine ⟨parser, rfl, rfl, rfl, ?_⟩
      show parser.contents = extend _ [] parser.contents ++ []
      rw [extend_nothing, List.append_nil]
  | text data rest ih =>
      obtain ⟨next, hnext, hactive, hignored, hcontents⟩ :=
        handle_data_spec casefold table hparser.nodup data
      have hreads : Reads casefold (.text data .nil) parser next := by
        refine ⟨hactive, hignored, ?_⟩
        rw [hcontents]
        simp [Forest.visibleText, Forest.collected, OnPageParser.hides]
      obtain ⟨after, hafter, hrest⟩ := ih h (hreads.standing hparser)
      refine ⟨after, ?_, hreads.append hparser hrest ?_ ?_⟩
      · show parser.feed casefold table (.text (.data data) :: rest.events) = _
        rw [OnPageParser.feed, List.foldlM_cons, hnext]
        exact hafter
      · simp [Forest.visibleText]
      · simp [Forest.collected]
  | selfClosing tag rest ih =>
      have hreads : Reads casefold (.selfClosing tag .nil) parser
          ((parser.handleStarttag casefold tag).handleEndtag casefold tag) := by
        have hempty : Reads casefold .nil (parser.handleStarttag casefold tag)
            (parser.handleStarttag casefold tag) := by
          refine ⟨rfl, rfl, ?_⟩
          show _ = extend _ [] _ ++ []
          rw [extend_nothing, List.append_nil]
        have helement : Reads casefold (.element tag tag .nil .nil) parser
            ((parser.handleStarttag casefold tag).handleEndtag casefold tag) :=
          reads_element rfl hparser hempty
        refine ⟨helement.active, helement.ignored, ?_⟩
        rw [helement.contents]
        simp [Forest.visibleText, Forest.collected]
      obtain ⟨after, hafter, hrest⟩ := ih h (hreads.standing hparser)
      refine ⟨after, hafter, hreads.append hparser hrest ?_ ?_⟩
      · simp [Forest.visibleText]
      · simp [Forest.collected]
  | element start finish children rest ihc ihr =>
      obtain ⟨htags, hchildren, hrest⟩ := h
      obtain ⟨inner, hinner, hreadsInner⟩ := ihc hchildren (standing_start hparser start)
      have hreads := reads_element htags hparser hreadsInner
      obtain ⟨after, hafter, hreadsRest⟩ := ihr hrest (hreads.standing hparser)
      refine ⟨after, ?_, hreads.append hparser hreadsRest ?_ ?_⟩
      · show (parser.handleStarttag casefold start).feed casefold table
          (children.events ++ .endtag finish :: rest.events) = _
        rw [feed_append, hinner]
        exact hafter
      · simp [Forest.visibleText]
      · simp [Forest.collected]

/-- The headings of a well-nested document are the texts below its `h1` elements that no ignored
element hides, in the order of their start tags and without the empty ones. Whatever the parser has
seen before, its stacks are the same before and behind a well-nested part. -/
theorem h1_texts_of_forest {forest : Forest} (h : forest.WellNested casefold) :
    (∃ parser, OnPageParser.new.feed casefold table forest.events = some parser ∧
      parser.h1Texts = (forest.headings casefold false).filterMap normalizeText) ∧
    ∀ before parser, OnPageParser.new.feed casefold table before = some parser →
      ∃ after, parser.feed casefold table forest.events = some after ∧
        after.activeCollectors = parser.activeCollectors ∧
        after.ignoredTags = parser.ignoredTags := by
  constructor
  · obtain ⟨parser, hparser, hreads⟩ :=
      feed_forest table h standing_new
    refine ⟨parser, hparser, ?_⟩
    have hcontents : parser.contents = forest.collected casefold false := hreads.contents
    have htexts : parser.h1Texts = parser.contents.filterMap fun found =>
        if found.1 = h1Tag then normalizeText found.2 else none := by
      unfold OnPageParser.h1Texts OnPageParser.contents
      rw [List.filterMap_map]
      rfl
    rw [htexts, hcontents, Forest.headings_eq, List.filterMap_filterMap]
    refine List.filterMap_congr fun found _ => ?_
    by_cases hheading : found.1 = h1Tag
    · simp [hheading]
    · simp [hheading]
  · intro before parser hbefore
    obtain ⟨after, hafter, hreads⟩ := feed_forest table h (standing_of_feed hbefore)
    exact ⟨after, hafter, hreads.active, hreads.ignored⟩

/-- A heading in another one, with a script between them. -/
def nestedHeadings : Forest :=
  .element (Text.ofString "h1") (Text.ofString "H1")
    (.text (Text.ofString "a") (.element (Text.ofString "SCRIPT") (Text.ofString "script")
      (.text (Text.ofString "b") .nil) (.element (Text.ofString "H1") (Text.ofString "h1")
        (.text (Text.ofString "  c ") (.selfClosing (Text.ofString "h1") .nil)) .nil))) .nil

/-- Two nested headings. -/
theorem h1_texts_of_forest_nested :
    ∃ parser, OnPageParser.new.feed Text.lower html5Table nestedHeadings.events = some parser ∧
      parser.h1Texts = [Text.ofString "a c", Text.ofString "c"] := by
  have hwell : nestedHeadings.WellNested Text.lower := by
    refine ⟨by decide +kernel, ⟨by decide +kernel, trivial, by decide +kernel, trivial, trivial⟩,
      trivial⟩
  obtain ⟨⟨parser, hfeed, htexts⟩, -⟩ := @h1_texts_of_forest Text.lower html5Table _ hwell
  exact ⟨parser, hfeed, htexts.trans (by decide +kernel)⟩

end GrowthOs.Evidence
