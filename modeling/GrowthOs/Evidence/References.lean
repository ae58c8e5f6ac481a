import GrowthOs.Evidence.OnPage
import GrowthOs.Library.ReferencePieces

/-!
# Character references in a heading

The parser reports the references of a heading one by one, without word of whether a semicolon
followed, and the handlers put one behind every reference. `h1_references_iff` says for which
headings the text that is collected is the decoded text all the same.
-/

namespace GrowthOs.Evidence

open Library

/-- White space that is collapsed was not visible. -/
theorem visible_collapse_space (s : Text) : Text.visible (collapseSpace s) = Text.visible s := by
  induction s with
  | nil => rfl
  | cons c s ih =>
      unfold collapseSpace
      split
      · next hc =>
          have hcons : Text.visible (c :: s) = Text.visible s := by simp [Text.visible, hc]
          rw [hcons]
          split
          · exact ih
          · exact ih
      · next hc =>
          have hc : Text.isSpace c = false := by simpa using hc
          have hcons : ∀ t, Text.visible (c :: t) = c :: Text.visible t := by
            intro t
            simp [Text.visible, hc]
          rw [hcons, hcons, ih]

/-- Nor was white space in front. -/
theorem visible_drop_while (s : Text) :
    Text.visible (s.dropWhile Text.isSpace) = Text.visible s := by
  induction s with
  | nil => rfl
  | cons c s ih =>
      cases hc : Text.isSpace c with
      | true => simpa [Text.visible, hc] using ih
      | false => rw [List.dropWhile_cons_of_neg (by simp [hc])]

/-- What is visible of a reversed text. -/
theorem visible_reverse (s : Text) : Text.visible s.reverse = (Text.visible s).reverse :=
  List.filter_reverse ..

/-- White space around a text is not visible. -/
theorem visible_strip (s : Text) : Text.visible (Text.strip Text.isSpace s) = Text.visible s := by
  rw [Text.strip, visible_reverse, visible_drop_while, visible_reverse, List.reverse_reverse,
    visible_drop_while]

/-- The visible characters of a normalized text. -/
def visibleOf (normalized : Option Text) : Text := normalized.elim [] Text.visible

/-- Normalization keeps what is visible. -/
theorem visible_normalize (s : Text) : visibleOf (normalizeText s) = Text.visible s := by
  rw [← visible_collapse_space s, ← visible_strip (collapseSpace s), normalizeText]
  split
  · next hnil =>
      rw [hnil]
      rfl
  · rfl

variable {casefold : Text → Text} {table : EntityTable}

/-- The active collectors exist. -/
def ActiveBelow (parser : OnPageParser) : Prop :=
  ∀ index ∈ parser.activeCollectors, index < parser.textCollectors.length

/-- The collector that another part is added to keeps its tag, the others are as before. -/
theorem add_part_some {part : Text → Option Text} {parser after : OnPageParser} {index : Nat}
    (h : parser.addPart part index = some after) :
    after.activeCollectors = parser.activeCollectors ∧ after.ignoredTags = parser.ignoredTags ∧
      after.textCollectors.length = parser.textCollectors.length ∧
      (∀ other, other ≠ index → after.textCollectors[other]? = parser.textCollectors[other]?) ∧
      ∀ collector, parser.textCollectors[index]? = some collector → ∃ text,
        part collector.tag = some text ∧
        after.textCollectors[index]? = some { collector with parts := collector.parts ++
          [text] } := by
  unfold OnPageParser.addPart at h
  split at h
  · next hnone =>
      cases h
      refine ⟨rfl, rfl, rfl, fun _ _ => rfl, fun collector hcollector => ?_⟩
      rw [hnone] at hcollector
      cases hcollector
  · next collector hcollector =>
      obtain ⟨text, htext, rfl⟩ := Option.map_eq_some_iff.mp h
      refine ⟨rfl, rfl, List.length_set, fun other hother => ?_, fun found hfound => ?_⟩
      · exact List.getElem?_set_ne hother.symm
      · rw [hcollector, Option.some.injEq] at hfound
        subst hfound
        refine ⟨text, htext, ?_⟩
        rw [List.getElem?_set_self]
        exact (List.getElem?_eq_some_iff.mp hcollector).1

/-- The loop leaves the collectors alone that it does not come to. -/
theorem add_parts_other {part : Text → Option Text} {indices : List Nat}
    {parser after : OnPageParser}
    (h : indices.foldlM (OnPageParser.addPart part) parser = some after) :
    after.activeCollectors = parser.activeCollectors ∧ after.ignoredTags = parser.ignoredTags ∧
      after.textCollectors.length = parser.textCollectors.length ∧
      ∀ k, k ∉ indices → after.textCollectors[k]? = parser.textCollectors[k]? := by
  induction indices generalizing parser with
  | nil =>
      cases h
      exact ⟨rfl, rfl, rfl, fun _ _ => rfl⟩
  | cons index indices ih =>
      rw [List.foldlM_cons] at h
      obtain ⟨next, hnext, h⟩ := Option.bind_eq_some_iff.mp h
      obtain ⟨hactive, hignored, hlength, hother, -⟩ := add_part_some hnext
      obtain ⟨hactive', hignored', hlength', hother'⟩ := ih h
      refine ⟨hactive'.trans hactive, hignored'.trans hignored, hlength'.trans hlength, ?_⟩
      intro k hk
      rw [List.mem_cons, not_or] at hk
      exact (hother' k hk.2).trans (hother k hk.1)

/-- A part that no tag raises for is added everywhere. -/
theorem add_parts_total {part : Text → Option Text} (hpart : ∀ tag, ∃ text, part tag = some text)
    (indices : List Nat) (parser : OnPageParser) :
    ∃ after, indices.foldlM (OnPageParser.addPart part) parser = some after := by
  induction indices generalizing parser with
  | nil => exact ⟨parser, rfl⟩
  | cons index indices ih =>
      have hnext : ∃ next, parser.addPart part index = some next := by
        unfold OnPageParser.addPart
        split
        · exact ⟨_, rfl⟩
        · next collector _ =>
            obtain ⟨text, htext⟩ := hpart collector.tag
            rw [htext]
            exact ⟨_, rfl⟩
      obtain ⟨next, hnext⟩ := hnext
      obtain ⟨after, hafter⟩ := ih next
      exact ⟨after, by rw [List.foldlM_cons, hnext]; exact hafter⟩

/-- What an event of text adds to a collector. -/
def partOf (table : EntityTable) : TextEvent → Text → Option Text
  | .data text => fun _ => some text
  | .entityref name => fun tag =>
      if tag = titleTag then some (0x26 :: (name ++ [0x3B]))
      else unescape table (0x26 :: (name ++ [0x3B]))
  | .charref name => fun tag =>
      if tag = titleTag then some (0x26 :: 0x23 :: (name ++ [0x3B]))
      else unescape table (0x26 :: 0x23 :: (name ++ [0x3B]))

/-- An event of a text adds its part to every collector. -/
theorem handle_text_eq (event : TextEvent) :
    OnPageParser.handleText table event = OnPageParser.addParts (partOf table event) := by
  cases event <;> rfl

/-- A heading gets the decoded part. -/
theorem part_of_h1 (event : TextEvent) : partOf table event h1Tag = event.decoded table := by
  have htag : h1Tag ≠ titleTag := by decide
  cases event with
  | data text => rfl
  | entityref name => simp only [partOf, htag, if_false, TextEvent.decoded]
  | charref name => simp only [partOf, htag, if_false, TextEvent.decoded]

/-- Where the part of a heading is known, that of every tag is. -/
theorem part_of_total {event : TextEvent} {text : Text} (h : event.decoded table = some text)
    (tag : Text) : ∃ part, partOf table event tag = some part := by
  cases event with
  | data text => exact ⟨_, rfl⟩
  | entityref name =>
      by_cases htag : tag = titleTag
      · exact ⟨_, if_pos htag⟩
      · exact ⟨text, (if_neg htag).trans h⟩
  | charref name =>
      by_cases htag : tag = titleTag
      · exact ⟨_, if_pos htag⟩
      · exact ⟨text, (if_neg htag).trans h⟩

/-- While a heading is the last open collector: it is at place `k` and has collected `text`. -/
structure Collecting (parser : OnPageParser) (earlier : List Nat) (k : Nat) (text : Text) :
    Prop where
  active : parser.activeCollectors = earlier ++ [k]
  others : k ∉ earlier
  ignored : parser.ignoredTags = []
  collector : ∃ parts, parser.textCollectors[k]? = some ⟨h1Tag, parts⟩ ∧ parts.flatten = text

/-- An event of text adds to the heading what it decodes to, or raises with the decoder. -/
theorem collecting_step {parser : OnPageParser} {earlier : List Nat} {k : Nat} {text : Text}
    (h : Collecting parser earlier k text) (event : TextEvent) :
    match event.decoded table with
    | none => OnPageParser.handleText table event parser = none
    | some more => ∃ after, OnPageParser.handleText table event parser = some after ∧
        after.textCollectors.length = parser.textCollectors.length ∧
        Collecting after earlier k (text ++ more) := by
  obtain ⟨parts, hcollector, hparts⟩ := h.collector
  -- The earlier collectors take the part first; none of them is this one.
  have hloop : OnPageParser.handleText table event parser =
      (earlier.foldlM (OnPageParser.addPart (partOf table event)) parser).bind fun next =>
        next.addPart (partOf table event) k := by
    rw [handle_text_eq, OnPageParser.addParts, if_neg (by simp [h.ignored]), h.active,
      List.foldlM_append]
    refine congrArg _ (funext fun next => ?_)
    rw [List.foldlM_cons]
    cases next.addPart (partOf table event) k <;> rfl
  rw [hloop]
  split
  · next hnone =>
      cases hearlier : earlier.foldlM (OnPageParser.addPart (partOf table event)) parser with
      | none => rfl
      | some next =>
          obtain ⟨-, -, -, hother⟩ := add_parts_other hearlier
          have hsame := (hother k h.others).trans hcollector
          rw [Option.bind_some, OnPageParser.addPart, hsame]
          simp only [part_of_h1, hnone, Option.map_none]
  · next more hmore =>
      obtain ⟨next, hearlier⟩ := add_parts_total (part_of_total hmore) earlier parser
      obtain ⟨hactive, hignored, hlength, hother⟩ := add_parts_other hearlier
      have hsame := (hother k h.others).trans hcollector
      have hlast : ∃ after, next.addPart (partOf table event) k = some after := by
        rw [OnPageParser.addPart, hsame]
        simp only [part_of_h1, hmore, Option.map_some]
        exact ⟨_, rfl⟩
      obtain ⟨after, hafter⟩ := hlast
      obtain ⟨hactive', hignored', hlength', -, hadded⟩ := add_part_some hafter
      obtain ⟨added, hpart, hcollected⟩ := hadded _ hsame
      rw [part_of_h1, hmore, Option.some.injEq] at hpart
      subst hpart
      rw [hearlier, Option.bind_some]
      refine ⟨after, hafter, hlength'.trans hlength, ?_⟩
      refine ⟨?_, h.others, ?_, parts ++ [more], hcollected, ?_⟩
      · rw [hactive', hactive, h.active]
      · rw [hignored', hignored, h.ignored]
      · rw [List.flatten_append, hparts]
        simp

/-- A run of text adds to the heading what its events decode to, or raises with the decoder. -/
theorem collecting_run {parser : OnPageParser} {earlier : List Nat} {k : Nat} {text : Text}
    (h : Collecting parser earlier k text) (events : List TextEvent) :
    match joinAll (events.map (TextEvent.decoded table)) with
    | none => parser.feed casefold table (events.map .text) = none
    | some more => ∃ after, parser.feed casefold table (events.map .text) = some after ∧
        after.textCollectors.length = parser.textCollectors.length ∧
        Collecting after earlier k (text ++ more) := by
  induction events generalizing parser text with
  | nil => exact ⟨parser, rfl, rfl, by rwa [List.append_nil]⟩
  | cons event events ih =>
      have hstep := @collecting_step table _ _ _ _ h event
      have hfeed : parser.feed casefold table ((event :: events).map .text) =
          (OnPageParser.handleText table event parser).bind fun next =>
            next.feed casefold table (events.map .text) := by
        rw [List.map_cons, OnPageParser.feed, List.foldlM_cons]
        rfl
      rw [hfeed, List.map_cons, join_all_cons]
      cases hevent : event.decoded table with
      | none =>
          rw [hevent] at hstep
          rw [show joinText none _ = none from rfl]
          show Option.bind _ _ = none
          rw [hstep]
          rfl
      | some first =>
          rw [hevent] at hstep
          obtain ⟨next, hnext, hlength, hcollecting⟩ := hstep
          have hrest := ih hcollecting
          rw [hnext, Option.bind_some, join_text_some]
          cases hevents : joinAll (events.map (TextEvent.decoded table)) with
          | none =>
              rw [hevents] at hrest
              exact hrest
          | some more =>
              rw [hevents] at hrest
              obtain ⟨after, hafter, hlength', hcollected⟩ := hrest
              refine ⟨after, hafter, hlength'.trans hlength, ?_⟩
              rwa [List.append_assoc] at hcollected

/-- The start of a heading outside of ignored text. -/
theorem collecting_start {parser : OnPageParser} (hbelow : ActiveBelow parser)
    (hopen : parser.ignoredTags = []) {start : Text} (hstart : casefold start = h1Tag) :
    Collecting (parser.handleStarttag casefold start) parser.activeCollectors
      parser.textCollectors.length [] ∧
      (parser.handleStarttag casefold start).textCollectors.length =
        parser.textCollectors.length + 1 := by
  have hignored : h1Tag ∉ ignoredTextTags := by decide
  have hstate : parser.handleStarttag casefold start =
      { parser with
        textCollectors := parser.textCollectors ++ [⟨h1Tag, []⟩]
        activeCollectors := parser.activeCollectors ++ [parser.textCollectors.length] } := by
    simp [OnPageParser.handleStarttag, hstart, hignored]
  rw [hstate]
  refine ⟨⟨rfl, fun hmem => ?_, hopen, [], ?_, rfl⟩, List.length_append⟩
  · exact Nat.lt_irrefl _ (hbelow _ hmem)
  · exact List.getElem?_concat_length

/-- The last item that matches is closed. -/
theorem close_last_concat {α : Type} {matching : α → Bool} {a : α} (ha : matching a = true)
    (items : List α) : closeLast matching (items ++ [a]) = items := by
  rw [closeLast, List.reverse_append, List.reverse_singleton, List.singleton_append,
    List.eraseP_cons_of_pos ha, List.reverse_reverse]

/-- The end of the heading. -/
theorem collecting_end {parser : OnPageParser} {earlier : List Nat} {k : Nat} {text : Text}
    (h : Collecting parser earlier k text) {finish : Text} (hfinish : casefold finish = h1Tag) :
    (parser.handleEndtag casefold finish).activeCollectors = earlier ∧
      (parser.handleEndtag casefold finish).textCollectors = parser.textCollectors := by
  obtain ⟨parts, hcollector, -⟩ := h.collector
  have hignored : h1Tag ∉ ignoredTextTags := by decide
  have hmatching : ((parser.textCollectors[k]?).map TextCollector.tag == some h1Tag) = true := by
    rw [hcollector]
    rfl
  simp only [OnPageParser.handleEndtag, hfinish, hignored, if_false, or_true, if_true, h.active]
  exact ⟨close_last_concat (by exact hmatching) earlier, trivial⟩

/-- No item is added. -/
theorem mem_close_last {α : Type} {matching : α → Bool} {items : List α} {a : α}
    (h : a ∈ closeLast matching items) : a ∈ items := by
  rw [closeLast, List.mem_reverse] at h
  exact List.mem_reverse.mp (List.mem_of_mem_eraseP h)

/-- What a handler may do to the collectors: those that are not active stay, and none becomes active
but a new one. -/
structure Advances (parser after : OnPageParser) : Prop where
  length : parser.textCollectors.length ≤ after.textCollectors.length
  active : ∀ index ∈ after.activeCollectors, index ∈ parser.activeCollectors ∨
    parser.textCollectors.length ≤ index ∧ index < after.textCollectors.length
  kept : ∀ k, k < parser.textCollectors.length → k ∉ parser.activeCollectors →
    after.textCollectors[k]? = parser.textCollectors[k]?

/-- Nothing has been read. -/
theorem Advances.refl (parser : OnPageParser) : Advances parser parser :=
  ⟨le_rfl, fun _ h => Or.inl h, fun _ _ _ => rfl⟩

/-- A parser advances on. -/
theorem Advances.trans {first second third : OnPageParser} (hfirst : Advances first second)
    (hsecond : Advances second third) : Advances first third := by
  refine ⟨hfirst.length.trans hsecond.length, ?_, ?_⟩
  · intro index hindex
    rcases hsecond.active index hindex with hindex | ⟨hnew, hbelow⟩
    · rcases hfirst.active index hindex with hold | ⟨hnew, hbelow⟩
      · exact Or.inl hold
      · exact Or.inr ⟨hnew, hbelow.trans_le hsecond.length⟩
    · exact Or.inr ⟨hfirst.length.trans hnew, hbelow⟩
  · intro k hk hclosed
    have hstill : k ∉ second.activeCollectors := by
      intro hmem
      rcases hfirst.active k hmem with hold | ⟨hnew, -⟩
      · exact hclosed hold
      · omega
    rw [hsecond.kept k (hk.trans_le hfirst.length) hstill, hfirst.kept k hk hclosed]

/-- A start tag advances it. -/
theorem start_advances (parser : OnPageParser) (tag : Text) :
    Advances parser (parser.handleStarttag casefold tag) := by
  have hcollect : Advances parser { parser with
      textCollectors := parser.textCollectors ++ [⟨casefold tag, []⟩]
      activeCollectors := parser.activeCollectors ++ [parser.textCollectors.length] } := by
    refine ⟨by simp, ?_, fun k hk _ => List.getElem?_append_left hk⟩
    intro index hindex
    rcases List.mem_append.mp hindex with hold | hnew
    · exact Or.inl hold
    · rw [List.mem_singleton] at hnew
      refine Or.inr ⟨hnew.ge, ?_⟩
      rw [List.length_append, hnew]
      exact Nat.lt_succ_self _
  unfold OnPageParser.handleStarttag
  by_cases hheading : casefold tag = titleTag ∨ casefold tag = h1Tag
  · simp only [if_pos hheading]
    split <;> exact ⟨hcollect.length, hcollect.active, hcollect.kept⟩
  · simp only [if_neg hheading]
    split <;> exact ⟨le_rfl, fun _ h => Or.inl h, fun _ _ _ => rfl⟩

/-- So does an end tag. -/
theorem end_advances (parser : OnPageParser) (tag : Text) :
    Advances parser (parser.handleEndtag casefold tag) := by
  unfold OnPageParser.handleEndtag
  by_cases hignored : casefold tag ∈ ignoredTextTags
  all_goals
    simp only [hignored, if_true, if_false]
    split
    · exact ⟨le_rfl, fun _ h => Or.inl (mem_close_last h), fun _ _ _ => rfl⟩
    · exact ⟨le_rfl, fun _ h => Or.inl h, fun _ _ _ => rfl⟩

/-- So does a text. -/
theorem text_advances {parser after : OnPageParser} {event : TextEvent}
    (h : OnPageParser.handleText table event parser = some after) : Advances parser after := by
  rw [handle_text_eq, OnPageParser.addParts] at h
  split at h
  · cases h
    exact .refl _
  · obtain ⟨hactive, -, hlength, hother⟩ := add_parts_other h
    exact ⟨hlength.ge, fun _ hmem => Or.inl (hactive ▸ hmem), fun k _ hk => hother k hk⟩

/-- So does every event. -/
theorem handle_advances {parser after : OnPageParser} {event : HtmlEvent}
    (h : parser.handle casefold table event = some after) : Advances parser after := by
  cases event with
  | starttag tag =>
      cases h
      exact start_advances parser tag
  | startendtag tag =>
      cases h
      exact (start_advances parser tag).trans (end_advances _ tag)
  | endtag tag =>
      cases h
      exact end_advances parser tag
  | text event => exact text_advances h

/-- What any events may do to the collectors. -/
theorem feed_advances {events : List HtmlEvent} {parser after : OnPageParser}
    (h : parser.feed casefold table events = some after) : Advances parser after := by
  induction events generalizing parser with
  | nil =>
      cases h
      exact .refl _
  | cons event events ih =>
      rw [OnPageParser.feed, List.foldlM_cons] at h
      obtain ⟨next, hnext, h⟩ := Option.bind_eq_some_iff.mp h
      exact (handle_advances hnext).trans (ih h)

/-- The active collectors of a parser that has been fed exist. -/
theorem active_below_of_feed {events : List HtmlEvent} {parser : OnPageParser}
    (h : OnPageParser.new.feed casefold table events = some parser) : ActiveBelow parser := by
  intro index hindex
  rcases (feed_advances h).active index hindex with hold | ⟨-, hbelow⟩
  · cases hold
  · exact hbelow

/-- Events are handled one after the other. -/
theorem feed_append (parser : OnPageParser) (first second : List HtmlEvent) :
    parser.feed casefold table (first ++ second) =
      (parser.feed casefold table first).bind fun next => next.feed casefold table second :=
  List.foldlM_append ..

/-! ## Headings -/

/-- The events of a heading add a collector with the decoded text of its references, or raise. -/
theorem feed_h1_element {parser : OnPageParser} (hbelow : ActiveBelow parser)
    (hopen : parser.ignoredTags = []) {start content finish : Text}
    (hstart : casefold start = h1Tag) (hfinish : casefold finish = h1Tag) :
    match joinAll ((parseText content).map (TextEvent.decoded table)) with
    | none => parser.feed casefold table (h1Element start content finish) = none
    | some text =>
        ∃ after, parser.feed casefold table (h1Element start content finish) = some after ∧
          after.activeCollectors = parser.activeCollectors ∧
          ∃ parts, after.textCollectors[parser.textCollectors.length]? = some ⟨h1Tag, parts⟩ ∧
            parts.flatten = text := by
  obtain ⟨hcollecting, -⟩ := collecting_start hbelow hopen hstart
  have hrun := @collecting_run casefold table _ _ _ _ hcollecting (parseText content)
  have hfeed : parser.feed casefold table (h1Element start content finish) =
      ((parser.handleStarttag casefold start).feed casefold table
        ((parseText content).map .text)).bind fun next =>
          some (next.handleEndtag casefold finish) := by
    rw [h1Element, OnPageParser.feed, List.foldlM_cons]
    exact feed_append _ _ _
  rw [hfeed]
  cases hjoined : joinAll ((parseText content).map (TextEvent.decoded table)) with
  | none =>
      rw [hjoined] at hrun
      show Option.bind _ _ = none
      rw [hrun]
      rfl
  | some text =>
      rw [hjoined] at hrun
      obtain ⟨next, hnext, -, hcollected⟩ := hrun
      obtain ⟨hactive, hcollectors⟩ := collecting_end hcollected hfinish
      obtain ⟨parts, hcollector, hparts⟩ := hcollected.collector
      refine ⟨next.handleEndtag casefold finish, by rw [hnext]; rfl, hactive, parts, ?_, hparts⟩
      rw [hcollectors]
      exact hcollector

/-- The law of character references for a heading that is met in some state: the handlers raise
where the decoder does, and after whatever follows the heading, its collector has the normalized
decoded text. -/
def DecodesHeading (casefold : Text → Text) (table : EntityTable) (parser : OnPageParser)
    (start content finish : Text) : Prop :=
  (parser.feed casefold table (h1Element start content finish) = none ↔
    unescape table content = none) ∧
  ∀ later after, parser.feed casefold table (h1Element start content finish ++ later) = some after →
    ∃ text collector, unescape table content = some text ∧
      after.textCollectors[parser.textCollectors.length]? = some collector ∧
      collector.tag = h1Tag ∧ normalizeText collector.parts.flatten = normalizeText text

/-- The law of a heading in terms of what its events decode to. -/
theorem decodes_heading_iff {parser : OnPageParser} (hbelow : ActiveBelow parser)
    (hopen : parser.ignoredTags = []) {start content finish : Text}
    (hstart : casefold start = h1Tag) (hfinish : casefold finish = h1Tag) :
    DecodesHeading casefold table parser start content finish ↔
      (joinAll ((parseText content).map (TextEvent.decoded table))).map normalizeText =
        (unescape table content).map normalizeText := by
  have helement := @feed_h1_element casefold table _ hbelow hopen start content finish
    hstart hfinish
  cases hjoined : joinAll ((parseText content).map (TextEvent.decoded table)) with
  | none =>
      rw [hjoined] at helement
      constructor
      · rintro ⟨hraises, -⟩
        rw [hraises.mp helement]
      · intro h
        have hnone : unescape table content = none := Option.map_eq_none_iff.mp h.symm
        refine ⟨⟨fun _ => hnone, fun _ => helement⟩, ?_⟩
        intro later after hfeed
        rw [feed_append, helement] at hfeed
        cases hfeed
  | some text =>
      rw [hjoined] at helement
      obtain ⟨next, hnext, hactive, parts, hcollector, rfl⟩ := helement
      -- The heading parses, and its collector holds the text that its references decode to.
      have hsome : parser.feed casefold table (h1Element start content finish) ≠ none := by
        rw [hnext]
        exact Option.some_ne_none _
      constructor
      · rintro ⟨-, hdecodes⟩
        obtain ⟨decoded, collector, hdecoded, hfound, -, hsame⟩ := hdecodes [] next
          (by rw [List.append_nil, hnext])
        rw [hcollector, Option.some.injEq] at hfound
        subst hfound
        rw [hdecoded]
        exact congrArg some hsame
      · intro h
        obtain ⟨decoded, hdecoded, hsame⟩ := Option.map_eq_some_iff.mp h.symm
        refine ⟨⟨fun hnone => absurd hnone hsome, fun hnone => ?_⟩, ?_⟩
        · rw [hdecoded] at hnone
          cases hnone
        · -- What follows the heading leaves its collector alone.
          intro later after hfeed
          rw [feed_append, hnext, Option.bind_some] at hfeed
          have hlast := (List.getElem?_eq_some_iff.mp hcollector).1
          have hclosed : parser.textCollectors.length ∉ next.activeCollectors := by
            rw [hactive]
            exact fun hmem => Nat.lt_irrefl _ (hbelow _ hmem)
          refine ⟨decoded, ⟨h1Tag, parts⟩, hdecoded, ?_, rfl, hsame.symm⟩
          rw [(feed_advances hfeed).kept _ hlast hclosed, hcollector]

/-- The text of a heading outside of ignored text is the decoded text of its content exactly where a
number that the parser reports raises, or no name goes without a semicolon that needs one and no
decimal number is followed by a letter that is a hexadecimal digit. -/
theorem h1_references_iff {before : List HtmlEvent} {parser : OnPageParser}
    (hbefore : OnPageParser.new.feed casefold html5Table before = some parser)
    (hopen : parser.ignoredTags = []) {start content finish : Text}
    (hstart : casefold start = h1Tag) (hfinish : casefold finish = h1Tag) :
    DecodesHeading casefold html5Table parser start content finish ↔
      raises content = true ∨ faithful html5Table content = true := by
  rw [decodes_heading_iff (active_below_of_feed hbefore) hopen hstart hfinish]
  exact parsed_text_iff visible_normalize content

/-- The heading `Tom &amp; Co`. -/
theorem h1_references_kept :
    DecodesHeading id html5Table .new h1Tag (Text.ofString "Tom &amp; Co") h1Tag := by
  have hfaithful : faithful html5Table (Text.ofString "Tom &amp; Co") = true := by decide +kernel
  exact (@h1_references_iff id [] .new rfl rfl h1Tag _ h1Tag rfl rfl).mpr (Or.inr hfaithful)

/-- The heading `AT&T` is collected as `AT&T;`. -/
theorem h1_bare_ampersand :
    ¬ DecodesHeading id html5Table .new h1Tag (Text.ofString "AT&T") h1Tag := by
  have hbelow : ActiveBelow .new := by
    intro index hmem
    cases hmem
  rw [@decodes_heading_iff id html5Table .new hbelow rfl h1Tag _ h1Tag rfl rfl]
  decide +kernel

end GrowthOs.Evidence
