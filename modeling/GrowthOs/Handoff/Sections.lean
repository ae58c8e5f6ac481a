import GrowthOs.Library.Text

/-!
# The sections of an assessment

`AUTO_MERGE_SECTION` and its search through the body of an issue. `SectionOf` says without the
search what a section is, and `found_iff_one_section` that the search finds a single block exactly
where one section stands in the body and no other line starts one.
-/

namespace GrowthOs.Handoff

open Library

/-- `[ \t]`. -/
def isPad (c : Nat) : Bool := c == 0x20 || c == 0x09

/-- `\n`. -/
def isFeed (c : Nat) : Bool := c == 0x0A

/-- The heading of an assessment. -/
def assessmentHeading : Text := Text.ofString "## Auto-merge assessment"

/-- The start of a fence. -/
def fence : Text := Text.ofString "```"

/-- The start of a block of JSON. -/
def jsonFence : Text := Text.ofString "```json"

/-- `[ \t]*\n`, and the text from its line feed on. -/
def restOfLine (s : Text) : Option Text :=
  match s.dropWhile isPad with
  | 0x0A :: rest => some (0x0A :: rest)
  | _ => none

/-- `## Auto-merge assessment[ \t]*\n+```json[ \t]*\n`, and the text after it. -/
def opening (s : Text) : Option Text :=
  if assessmentHeading.isPrefixOf s then
    (restOfLine (s.drop assessmentHeading.length)).bind fun after =>
      let after := after.dropWhile isFeed
      if jsonFence.isPrefixOf after then
        (restOfLine (after.drop jsonFence.length)).map (List.drop 1)
      else none
  else none

/-- `(?=\n+(?:## |\Z)|\Z)`. -/
def sectionEnds (s : Text) : Bool :=
  match s with
  | [] => true
  | 0x0A :: rest =>
      let after := rest.dropWhile isFeed
      after.isEmpty || (Text.ofString "## ").isPrefixOf after
  | _ => false

/-- `\n```[ \t]*(?=\n+(?:## |\Z)|\Z)`, and the text after it. -/
def closing (s : Text) : Option Text :=
  if (0x0A :: fence).isPrefixOf s then
    let after := (s.drop (fence.length + 1)).dropWhile isPad
    if sectionEnds after then some after else none
  else none

/-- `(.*?)` up to the first closing, and the text after that. -/
def lazyBlock : Text → Option (Text × Text)
  | [] => none
  | c :: rest =>
      match closing (c :: rest) with
      | some after => some ([], after)
      | none => (lazyBlock rest).map fun found => (c :: found.1, found.2)

/-- `AUTO_MERGE_SECTION` at the start of a line: the block and the text after the section. -/
def matchSection (s : Text) : Option (Text × Text) := (opening s).bind lazyBlock

/-- The search of `findall`. The next `skip` characters belong to the last match, and `start` says
that a line starts here. -/
def search (start : Bool) (skip : Nat) : Text → List Text
  | [] => []
  | c :: rest =>
      match skip with
      | skip + 1 => search (isFeed c) skip rest
      | 0 =>
          match if start then matchSection (c :: rest) else none with
          | some (block, after) => block :: search (isFeed c) (rest.length - after.length) rest
          | none => search (isFeed c) 0 rest

/-- `AUTO_MERGE_SECTION.findall`. -/
def findSections (body : Text) : List Text := search true 0 body

/-- A line that is the heading of an assessment, with nothing after it but white space. -/
def isHeadingLine (line : Text) : Bool :=
  assessmentHeading.isPrefixOf line &&
    (line.drop assessmentHeading.length).all fun c => isPad c || c == 0x0D

/-- The heading lines of a body. -/
def headingLines (body : Text) : List Text := (body.splitOn 0x0A).filter isHeadingLine

/-- What stands behind a section: nothing, or line feeds and then nothing or another heading of the
second level. -/
def MarksOff (after : Text) : Prop :=
  after = [] ∨ ∃ feeds next, after = feeds ++ next ∧ feeds ≠ [] ∧ (∀ c ∈ feeds, c = 0x0A) ∧
    (next = [] ∨ Text.ofString "## " <+: next)

/-- The text starts with a section: a heading line, line feeds, a fenced block of JSON and a line
that closes it. `after` stands behind the section. -/
def SectionOf (s block after : Text) : Prop :=
  ∃ headingPad feeds jsonPad closingPad : Text,
    s = assessmentHeading ++ headingPad ++ feeds ++ jsonFence ++ jsonPad ++
      0x0A :: (block ++ 0x0A :: (fence ++ closingPad ++ after)) ∧
    (∀ c ∈ headingPad ++ jsonPad ++ closingPad, isPad c = true) ∧
    feeds ≠ [] ∧ (∀ c ∈ feeds, c = 0x0A) ∧ MarksOff after

/-- A section starts here, wherever it ends. -/
def StartsSection (s : Text) : Prop := ∃ block after, SectionOf s block after

/-- A line starts behind this text. -/
def EndsLine (front : Text) : Prop := ∀ c ∈ front.getLast?, c = 0x0A

/-- One section stands in the body, with no fence inside its block, and no other line of the body
starts a section: not before it, where a section could reach up to its end, and not behind it. -/
def OneSection (body block : Text) : Prop :=
  ∃ before text after, body = before ++ text ∧ EndsLine before ∧ SectionOf text block after ∧
    ¬ 0x0A :: fence <:+: 0x0A :: block ∧
    (∀ front rest, before = front ++ rest → rest ≠ [] → EndsLine front →
      ¬ StartsSection (rest ++ text)) ∧
    ∀ front rest, after = front ++ rest → front ≠ [] → EndsLine front → ¬ StartsSection rest

/-- What stands before the first character that is not of a kind is dropped. -/
theorem drop_while_append {p : Nat → Bool} {front rest : Text} (hfront : ∀ c ∈ front, p c = true)
    (hrest : ∀ c ∈ rest.head?, p c = false) : (front ++ rest).dropWhile p = rest := by
  induction front with
  | nil =>
      cases rest with
      | nil => rfl
      | cons c rest =>
          have hfirst : ¬ p c = true := by simp [hrest c rfl]
          exact List.dropWhile_cons_of_neg hfirst
  | cons c front ih =>
      rw [List.cons_append, List.dropWhile_cons_of_pos (hfront c List.mem_cons_self)]
      exact ih fun d hd => hfront d (List.mem_cons_of_mem c hd)

/-- The end of a line, with blanks before it. -/
theorem rest_of_line_eq_some {s rest : Text} :
    restOfLine s = some rest ↔
      ∃ pad tail, s = pad ++ rest ∧ (∀ c ∈ pad, isPad c = true) ∧ rest = 0x0A :: tail := by
  constructor
  · intro h
    unfold restOfLine at h
    split at h
    · next tail hdrop =>
        cases h
        refine ⟨s.takeWhile isPad, tail, ?_, fun c hc => List.mem_takeWhile_imp hc, rfl⟩
        rw [← hdrop, List.takeWhile_append_dropWhile]
    · cases h
  · rintro ⟨pad, tail, rfl, hpad, rfl⟩
    have hdrop : (pad ++ 0x0A :: tail).dropWhile isPad = 0x0A :: tail :=
      drop_while_append hpad (by simp [isPad])
    simp only [restOfLine, hdrop]

/-- A match of the start of the expression, in its parts. -/
theorem opening_eq_some {s rest : Text} :
    opening s = some rest ↔ ∃ headingPad feeds jsonPad : Text,
      s = assessmentHeading ++ headingPad ++ feeds ++ jsonFence ++ jsonPad ++ 0x0A :: rest ∧
      (∀ c ∈ headingPad ++ jsonPad, isPad c = true) ∧ feeds ≠ [] ∧ ∀ c ∈ feeds, c = 0x0A := by
  constructor
  · intro h
    unfold opening at h
    split at h
    case isFalse => cases h
    case isTrue hheading =>
      obtain ⟨line, rfl⟩ := List.isPrefixOf_iff_prefix.mp hheading
      rw [List.drop_left, Option.bind_eq_some_iff] at h
      obtain ⟨lines, hlines, h⟩ := h
      obtain ⟨headingPad, tail, rfl, hheadingPad, rfl⟩ := rest_of_line_eq_some.mp hlines
      simp only at h
      split at h
      case isFalse => cases h
      case isTrue hjson =>
        obtain ⟨block, hblock⟩ := List.isPrefixOf_iff_prefix.mp hjson
        rw [← hblock, List.drop_left, Option.map_eq_some_iff] at h
        obtain ⟨last, hlast, hrest⟩ := h
        obtain ⟨jsonPad, after, rfl, hjsonPad, rfl⟩ := rest_of_line_eq_some.mp hlast
        rw [List.drop_one, List.tail_cons] at hrest
        subst hrest
        refine ⟨headingPad, (0x0A :: tail).takeWhile isFeed, jsonPad, ?_, ?_, ?_, ?_⟩
        · have hsplit : (0x0A :: tail).takeWhile isFeed ++
              (jsonFence ++ (jsonPad ++ 0x0A :: after)) = 0x0A :: tail := by
            rw [hblock, List.takeWhile_append_dropWhile]
          simp only [List.append_assoc]
          rw [hsplit]
        · exact fun c hc => (List.mem_append.mp hc).elim (hheadingPad c) (hjsonPad c)
        · simp [isFeed]
        · exact fun c hc => by simpa [isFeed] using List.mem_takeWhile_imp hc
  · rintro ⟨headingPad, feeds, jsonPad, rfl, hpads, hfeeds, honly⟩
    obtain ⟨feed, more, rfl⟩ := List.exists_cons_of_ne_nil hfeeds
    obtain rfl : feed = 0x0A := honly feed List.mem_cons_self
    have hheading : restOfLine (headingPad ++ (0x0A :: (more ++ (jsonFence ++ (jsonPad ++
        0x0A :: rest))))) = some (0x0A :: (more ++ (jsonFence ++ (jsonPad ++ 0x0A :: rest)))) :=
      rest_of_line_eq_some.mpr ⟨headingPad, _, rfl,
        fun c hc => hpads c (List.mem_append_left _ hc), rfl⟩
    have hjson : restOfLine (jsonPad ++ 0x0A :: rest) = some (0x0A :: rest) :=
      rest_of_line_eq_some.mpr ⟨jsonPad, _, rfl, fun c hc =>
        hpads c (List.mem_append_right _ hc), rfl⟩
    have hdrop : (0x0A :: (more ++ (jsonFence ++ (jsonPad ++ 0x0A :: rest)))).dropWhile isFeed =
        jsonFence ++ (jsonPad ++ 0x0A :: rest) :=
      @drop_while_append isFeed (0x0A :: more) _ (fun c hc => by simp [isFeed, honly c hc])
        (by intro c hc; cases hc; decide)
    simp only [List.append_assoc, List.cons_append, opening, List.isPrefixOf_iff_prefix,
      List.prefix_append, if_true, List.drop_left, hheading, Option.bind_some, hdrop, hjson,
      Option.map_some, List.drop_one, List.tail_cons]

/-- The look-ahead of the expression. -/
theorem section_ends_iff (s : Text) : sectionEnds s = true ↔ MarksOff s := by
  constructor
  · intro h
    unfold sectionEnds at h
    split at h
    · exact .inl rfl
    · next rest =>
        refine .inr ⟨0x0A :: rest.takeWhile isFeed, rest.dropWhile isFeed, ?_, List.cons_ne_nil _ _,
          ?_, ?_⟩
        · rw [List.cons_append, List.takeWhile_append_dropWhile]
        · intro c hc
          rcases List.mem_cons.mp hc with rfl | hmem
          · rfl
          · simpa [isFeed] using List.mem_takeWhile_imp hmem
        · simpa [List.isPrefixOf_iff_prefix] using h
    · cases h
  · rintro (rfl | ⟨feeds, next, rfl, hfeeds, honly, hnext⟩)
    · rfl
    · obtain ⟨feed, more, rfl⟩ := List.exists_cons_of_ne_nil hfeeds
      obtain rfl : feed = 0x0A := honly feed List.mem_cons_self
      have hdrop : (more ++ next).dropWhile isFeed = next := by
        refine drop_while_append (fun c hc => ?_) fun c hc => ?_
        · simp [isFeed, honly c (List.mem_cons_of_mem _ hc)]
        · rcases hnext with rfl | ⟨line, rfl⟩
          · cases hc
          · cases hc
            rfl
      simp only [List.cons_append, sectionEnds, hdrop, Bool.or_eq_true, List.isEmpty_iff,
        List.isPrefixOf_iff_prefix]
      exact hnext

/-- A match of the end of the expression, in its parts. -/
theorem closing_eq_some {s after : Text} :
    closing s = some after ↔
      ∃ pad, s = 0x0A :: (fence ++ pad ++ after) ∧ (∀ c ∈ pad, isPad c = true) ∧
      MarksOff after := by
  constructor
  · intro h
    unfold closing at h
    split at h
    case isFalse => cases h
    case isTrue hfence =>
      obtain ⟨rest, rfl⟩ := List.isPrefixOf_iff_prefix.mp hfence
      have hdrop : (0x0A :: fence ++ rest).drop (fence.length + 1) = rest := rfl
      simp only [hdrop] at h
      split at h
      case isFalse => cases h
      case isTrue hends =>
        cases h
        refine ⟨rest.takeWhile isPad, ?_, fun c hc => List.mem_takeWhile_imp hc,
          (section_ends_iff _).mp hends⟩
        rw [List.append_assoc, List.takeWhile_append_dropWhile]
        rfl
  · rintro ⟨pad, rfl, hpad, hends⟩
    have hdrop : (pad ++ after).dropWhile isPad = after := by
      refine drop_while_append hpad fun c hc => ?_
      rcases hends with rfl | ⟨feeds, next, rfl, hfeeds, honly, -⟩
      · cases hc
      · obtain ⟨feed, more, rfl⟩ := List.exists_cons_of_ne_nil hfeeds
        obtain rfl : feed = 0x0A := honly feed List.mem_cons_self
        cases hc
        rfl
    have hfence : 0x0A :: fence <+: 0x0A :: (fence ++ (pad ++ after)) := ⟨pad ++ after, rfl⟩
    have hlength : (0x0A :: (fence ++ (pad ++ after))).drop (fence.length + 1) = pad ++ after := rfl
    simp only [closing, List.append_assoc, List.isPrefixOf_iff_prefix, hfence, if_true,
      hlength, hdrop, (section_ends_iff after).mpr hends]

/-- A match of the rest of the expression, in its parts. -/
theorem lazy_split {s block after : Text} (h : lazyBlock s = some (block, after)) :
    ∃ pad, s = block ++ 0x0A :: (fence ++ pad ++ after) ∧ (∀ c ∈ pad, isPad c = true) ∧
      MarksOff after := by
  induction s generalizing block with
  | nil => cases h
  | cons c s ih =>
      unfold lazyBlock at h
      split at h
      · next hclosing =>
          cases h
          exact closing_eq_some.mp hclosing
      · obtain ⟨⟨found, rest⟩, hfound, hpair⟩ := Option.map_eq_some_iff.mp h
        cases hpair
        obtain ⟨pad, rfl, hpad, hafter⟩ := ih hfound
        exact ⟨pad, rfl, hpad, hafter⟩

/-- Where a line closes the block, the expression finds an end, there or before. -/
theorem lazy_is_some {pad after : Text} (hpad : ∀ c ∈ pad, isPad c = true) (hends : MarksOff after)
    (block : Text) : (lazyBlock (block ++ 0x0A :: (fence ++ pad ++ after))).isSome = true := by
  induction block with
  | nil =>
      rw [List.nil_append, lazyBlock, closing_eq_some.mpr ⟨pad, rfl, hpad, hends⟩]
      rfl
  | cons c block ih =>
      rw [List.cons_append, lazyBlock]
      split
      · rfl
      · rw [Option.isSome_map]
        exact ih

/-- And not before where no line of the block starts with a fence. -/
theorem lazy_eq_some {pad after : Text} (hpad : ∀ c ∈ pad, isPad c = true) (hends : MarksOff after)
    {block : Text} (hblock : ¬ 0x0A :: fence <:+: block) :
    lazyBlock (block ++ 0x0A :: (fence ++ pad ++ after)) = some (block, after) := by
  induction block with
  | nil => rw [List.nil_append, lazyBlock, closing_eq_some.mpr ⟨pad, rfl, hpad, hends⟩]
  | cons c block ih =>
      have hnone : closing (c :: (block ++ 0x0A :: (fence ++ pad ++ after))) = none := by
        refine Option.eq_none_iff_forall_ne_some.mpr fun rest hrest => ?_
        obtain ⟨other, heq, -, -⟩ := closing_eq_some.mp hrest
        -- A fence that starts in the block would end in it: no line feed is inside of a fence.
        rw [List.cons.injEq, List.append_assoc fence other] at heq
        obtain ⟨rfl, heq⟩ := heq
        rcases List.append_eq_append_iff.mp heq with ⟨more, hfence, htail⟩ | ⟨more, hmore, -⟩
        · cases more with
          | nil =>
              rw [List.append_nil] at hfence
              exact hblock ⟨[], [], by rw [hfence]; simp⟩
          | cons d more =>
              obtain rfl : 0x0A = d := (List.cons.inj htail).1
              have hmem : 0x0A ∈ fence := by
                rw [hfence]
                exact List.mem_append_right _ List.mem_cons_self
              exact absurd hmem (by decide)
        · exact hblock ⟨[], more, by rw [hmore]; rfl⟩
      rw [List.cons_append, lazyBlock, hnone,
        ih fun hwithin => hblock (hwithin.trans (List.suffix_cons c block).isInfix)]
      rfl

/-- What the expression matches is a section. -/
theorem section_of_match {s block after : Text} (h : matchSection s = some (block, after)) :
    SectionOf s block after := by
  obtain ⟨tail, hopening, hlazy⟩ := Option.bind_eq_some_iff.mp h
  obtain ⟨headingPad, feeds, jsonPad, rfl, hpads, hfeeds, honly⟩ := opening_eq_some.mp hopening
  obtain ⟨closingPad, rfl, hclosing, hends⟩ := lazy_split hlazy
  refine ⟨headingPad, feeds, jsonPad, closingPad, rfl, fun c hc => ?_, hfeeds, honly, hends⟩
  exact (List.mem_append.mp hc).elim (hpads c) (hclosing c)

/-- It matches where a section starts. -/
theorem match_eq_none_iff (s : Text) : matchSection s = none ↔ ¬ StartsSection s := by
  constructor
  · rintro hnone ⟨block, after, headingPad, feeds, jsonPad, closingPad, rfl, hpads,
      hfeeds, honly, hends⟩
    have hopening := (@opening_eq_some _ (block ++ 0x0A :: (fence ++ closingPad ++ after))).mpr
      ⟨headingPad, feeds, jsonPad, rfl, fun c hc => hpads c (List.mem_append_left _ hc),
        hfeeds, honly⟩
    rw [matchSection, hopening, Option.bind_some] at hnone
    have hsome := lazy_is_some (fun c hc => hpads c (List.mem_append_right _ hc)) hends block
    rw [hnone] at hsome
    cases hsome
  · intro hnone
    refine Option.eq_none_iff_forall_ne_some.mpr fun found hfound => ?_
    exact hnone ⟨found.1, found.2, section_of_match hfound⟩

/-- And a section without a fence inside its block is matched as a whole. -/
theorem match_of_section {s block after : Text} (h : SectionOf s block after)
    (hblock : ¬ 0x0A :: fence <:+: 0x0A :: block) : matchSection s = some (block, after) := by
  obtain ⟨headingPad, feeds, jsonPad, closingPad, rfl, hpads, hfeeds, honly, hends⟩ := h
  have hopening := (@opening_eq_some _ (block ++ 0x0A :: (fence ++ closingPad ++ after))).mpr
    ⟨headingPad, feeds, jsonPad, rfl, fun c hc => hpads c (List.mem_append_left _ hc),
      hfeeds, honly⟩
  rw [matchSection, hopening, Option.bind_some]
  refine lazy_eq_some (fun c hc => hpads c (List.mem_append_right _ hc)) hends fun hwithin => ?_
  exact hblock (hwithin.trans (List.suffix_cons 0x0A block).isInfix)

/-- A line starts behind this text, which itself starts at the start of a line or does not. -/
def LineStart (start : Bool) (front : Text) : Prop := (front = [] → start = true) ∧ EndsLine front

/-- The first character of a text says whether a line starts behind it. -/
theorem line_start_cons (start : Bool) (c : Nat) (front : Text) :
    LineStart start (c :: front) ↔ LineStart (isFeed c) front := by
  cases front with
  | nil => simp [LineStart, EndsLine, isFeed]
  | cons d front => simp [LineStart, EndsLine]

/-- At the start of a body every line counts. -/
theorem line_start_true (front : Text) : LineStart true front ↔ EndsLine front :=
  ⟨fun h => h.2, fun h => ⟨fun _ => rfl, h⟩⟩

/-- The search goes on behind a match. -/
theorem search_skip (start : Bool) (front rest : Text) :
    search start front.length (front ++ rest) =
      search ((front.getLast?.map isFeed).getD start) 0 rest := by
  induction front generalizing start with
  | nil => rfl
  | cons c front ih =>
      have hlast : (((c :: front).getLast?).map isFeed).getD start =
          (front.getLast?.map isFeed).getD (isFeed c) := by
        rw [List.getLast?_cons]
        cases front.getLast? <;> rfl
      rw [hlast, ← ih]
      rfl

/-- A section does not end with a line feed, so no line starts right behind it. -/
theorem search_behind {start : Bool} {c : Nat} {s block after : Text}
    (h : SectionOf (c :: s) block after) :
    search start (s.length - after.length) s = search false 0 after := by
  obtain ⟨headingPad, feeds, jsonPad, closingPad, heq, hpads, -⟩ := h
  obtain ⟨front, rfl⟩ : ∃ front, s = front ++ (fence ++ closingPad) ++ after := by
    refine ⟨assessmentHeading.tail ++ headingPad ++ feeds ++ jsonFence ++ jsonPad ++
      0x0A :: (block ++ [0x0A]), ?_⟩
    have htail := congrArg List.tail heq
    rw [List.tail_cons] at htail
    rw [htail]
    simp [assessmentHeading, Text.ofString]
  obtain ⟨last, hlast, hfeed⟩ :
      ∃ last, (front ++ (fence ++ closingPad)).getLast? = some last ∧ isFeed last = false := by
    have hnonempty : fence ++ closingPad ≠ [] := List.append_ne_nil_of_left_ne_nil (by decide) _
    refine ⟨(fence ++ closingPad).getLast hnonempty, ?_, ?_⟩
    · rw [List.getLast?_append, List.getLast?_eq_some_getLast hnonempty]
      rfl
    · have hfeeds : ∀ d ∈ fence ++ closingPad, isFeed d = false := by
        intro d hd
        rcases List.mem_append.mp hd with hfence | hpad
        · exact (show ∀ d ∈ fence, isFeed d = false by decide) d hfence
        · have hblank := hpads d (List.mem_append_right _ hpad)
          simp only [isPad, Bool.or_eq_true, beq_iff_eq] at hblank
          rcases hblank with rfl | rfl <;> rfl
      exact hfeeds _ (List.getLast_mem hnonempty)
  have hlength : (front ++ (fence ++ closingPad) ++ after).length - after.length =
      (front ++ (fence ++ closingPad)).length := by
    rw [List.length_append, Nat.add_sub_cancel]
  rw [hlength, search_skip, hlast]
  simp [hfeed]

/-- The search finds nothing exactly where no line starts a section. -/
theorem search_eq_nil {start : Bool} {s : Text} :
    search start 0 s = [] ↔
      ∀ front rest, s = front ++ rest → LineStart start front → ¬ StartsSection rest := by
  have hempty : ¬ StartsSection [] := (match_eq_none_iff []).mp rfl
  induction s generalizing start with
  | nil =>
      refine ⟨fun _ front rest heq _ => ?_, fun _ => rfl⟩
      rw [(List.append_eq_nil_iff.mp heq.symm).2]
      exact hempty
  | cons c s ih =>
      rw [search]
      split
      · next block after hmatch =>
          cases start with
          | false => cases hmatch
          | true =>
              refine ⟨nofun, fun h => ?_⟩
              exact absurd ⟨block, after, section_of_match hmatch⟩
                (h [] (c :: s) rfl ((line_start_true []).mpr nofun))
      · next hnone =>
          refine ih.trans ?_
          constructor
          · intro h front rest heq hfront
            cases front with
            | nil =>
                obtain rfl := heq
                rw [hfront.1 rfl, if_pos rfl] at hnone
                exact (match_eq_none_iff _).mp hnone
            | cons d front =>
                obtain ⟨rfl, rfl⟩ := List.cons.inj heq
                exact h front rest rfl ((line_start_cons _ _ _).mp hfront)
          · intro h front rest heq hfront
            exact h (c :: front) rest (congrArg (c :: ·) heq) ((line_start_cons _ _ _).mpr hfront)

/-- The search finds a section first exactly where no line before it starts one. -/
theorem search_eq_cons {start : Bool} {s block : Text} {more : List Text} :
    search start 0 s = block :: more ↔ ∃ before text after, s = before ++ text ∧
      LineStart start before ∧ matchSection text = some (block, after) ∧
      (∀ front rest, before = front ++ rest → rest ≠ [] → LineStart start front →
        ¬ StartsSection (rest ++ text)) ∧
      search false 0 after = more := by
  induction s generalizing start with
  | nil =>
      refine ⟨nofun, ?_⟩
      rintro ⟨before, text, after, heq, -, hmatch, -⟩
      rw [(List.append_eq_nil_iff.mp heq.symm).2] at hmatch
      cases hmatch
  | cons c s ih =>
      rw [search]
      split
      · next found behind hmatch =>
          cases start with
          | false => cases hmatch
          | true =>
              rw [if_pos rfl] at hmatch
              rw [search_behind (section_of_match hmatch), List.cons.injEq]
              constructor
              · rintro ⟨rfl, hmore⟩
                exact ⟨[], c :: s, behind, rfl, (line_start_true []).mpr nofun, hmatch,
                  fun front rest heq hrest => absurd (List.append_eq_nil_iff.mp heq.symm).2 hrest,
                  hmore⟩
              · rintro ⟨before, text, after, heq, -, hagain, hbefore, hmore⟩
                -- The text itself starts a section, so nothing stands before it.
                have hnil : before = [] := by
                  by_contra hne
                  refine hbefore [] before rfl hne ((line_start_true []).mpr nofun) ?_
                  rw [← heq]
                  exact ⟨found, behind, section_of_match hmatch⟩
                subst hnil
                obtain rfl : c :: s = text := heq
                cases hmatch.symm.trans hagain
                exact ⟨rfl, hmore⟩
      · next hnone =>
          refine ih.trans ?_
          constructor
          · rintro ⟨before, text, after, rfl, hstart, hmatch, hbefore, hmore⟩
            refine ⟨c :: before, text, after, rfl, (line_start_cons _ _ _).mpr hstart, hmatch,
              fun front rest heq hrest hfront => ?_, hmore⟩
            cases front with
            | nil =>
                obtain rfl : c :: before = rest := heq
                rw [hfront.1 rfl, if_pos rfl] at hnone
                exact (match_eq_none_iff _).mp hnone
            | cons d front =>
                obtain ⟨rfl, rfl⟩ := List.cons.inj heq
                exact hbefore front rest rfl hrest ((line_start_cons _ _ _).mp hfront)
          · rintro ⟨before, text, after, heq, hstart, hmatch, hbefore, hmore⟩
            cases before with
            | nil =>
                obtain rfl : c :: s = text := heq
                rw [hstart.1 rfl, if_pos rfl, hmatch] at hnone
                cases hnone
            | cons d before =>
                obtain ⟨rfl, rfl⟩ := List.cons.inj heq
                refine ⟨before, text, after, rfl, (line_start_cons _ _ _).mp hstart, hmatch,
                  fun front rest heq hrest hfront => ?_, hmore⟩
                exact hbefore (c :: front) rest (congrArg (c :: ·) heq) hrest
                  ((line_start_cons _ _ _).mpr hfront)

/-- A single block is found exactly where one section stands in the body. -/
theorem found_iff_one_section {body block : Text} (hblock : ¬ 0x0A :: fence <:+: 0x0A :: block) :
    findSections body = [block] ↔ OneSection body block := by
  have hbehind : ∀ {front : Text}, LineStart false front ↔ front ≠ [] ∧ EndsLine front :=
    ⟨fun h => ⟨fun hnil => Bool.noConfusion (h.1 hnil), h.2⟩,
      fun h => ⟨fun hnil => absurd hnil h.1, h.2⟩⟩
  rw [findSections, search_eq_cons]
  simp only [line_start_true]
  constructor
  · rintro ⟨before, text, after, rfl, hstart, hmatch, hbefore, hmore⟩
    refine ⟨before, text, after, rfl, hstart, section_of_match hmatch, hblock, hbefore, ?_⟩
    intro front rest heq hfront hline
    exact search_eq_nil.mp hmore front rest heq (hbehind.mpr ⟨hfront, hline⟩)
  · rintro ⟨before, text, after, rfl, hstart, hsection, -, hbefore, hafter⟩
    refine ⟨before, text, after, rfl, hstart, match_of_section hsection hblock, hbefore, ?_⟩
    refine search_eq_nil.mpr fun front rest heq hfront => ?_
    exact hafter front rest heq (hbehind.mp hfront).1 (hbehind.mp hfront).2

/-- A text between the start of a line and a line feed is a line. -/
theorem line_of_split {before line rest : Text} (hbefore : EndsLine before) (hline : 0x0A ∉ line) :
    line ∈ (before ++ (line ++ 0x0A :: rest)).splitOn 0x0A := by
  have hfirst : line ∈ (line ++ 0x0A :: rest).splitOn 0x0A := by
    rw [List.splitOn_append_cons_self_of_not_mem hline]
    exact List.mem_cons_self
  rcases List.eq_nil_or_concat before with rfl | ⟨front, last, rfl⟩
  · exact hfirst
  · obtain rfl : last = 0x0A := hbefore last (by simp)
    rw [List.concat_eq_append, List.append_assoc, List.singleton_append,
      List.splitOn_append_cons_self]
    exact List.mem_append_right _ hfirst

/-- The body of a section has a heading line. -/
theorem heading_line_of_section {body block : Text} (h : OneSection body block) :
    0 < (headingLines body).length := by
  obtain ⟨before, text, after, rfl, hstart, hsection, -⟩ := h
  obtain ⟨headingPad, feeds, jsonPad, closingPad, rfl, hpads, hfeeds, honly, -⟩ := hsection
  obtain ⟨feed, more, rfl⟩ := List.exists_cons_of_ne_nil hfeeds
  obtain rfl : feed = 0x0A := honly feed List.mem_cons_self
  have hheading : isHeadingLine (assessmentHeading ++ headingPad) = true := by
    have hpad : ∀ c ∈ headingPad, isPad c = true := fun c hc =>
      hpads c (List.mem_append_left _ (List.mem_append_left _ hc))
    rw [isHeadingLine, Bool.and_eq_true, List.isPrefixOf_iff_prefix, List.drop_left,
      List.all_eq_true]
    exact ⟨List.prefix_append _ _, fun c hc => by rw [hpad c hc, Bool.true_or]⟩
  have hline : 0x0A ∉ assessmentHeading ++ headingPad := by
    intro hmem
    rcases List.mem_append.mp hmem with hfirst | hpad
    · exact absurd hfirst (by decide)
    · exact absurd (hpads _ (List.mem_append_left _ (List.mem_append_left _ hpad))) (by decide)
  have hmem : assessmentHeading ++ headingPad ∈ headingLines (before ++ (assessmentHeading ++
      headingPad ++ 0x0A :: (more ++ jsonFence ++ jsonPad ++
        0x0A :: (block ++ 0x0A :: (fence ++ closingPad ++ after))))) :=
    List.mem_filter.mpr ⟨line_of_split hstart hline, hheading⟩
  simpa only [List.append_assoc, List.cons_append] using List.length_pos_of_mem hmem

end GrowthOs.Handoff
