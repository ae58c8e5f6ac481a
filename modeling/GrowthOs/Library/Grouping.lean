import Mathlib.Data.List.Induction
import Mathlib.Data.List.TakeWhile

/-!
# Grouping a record sequence under header lines

A sequence of items is cut into blocks. Some items are headers, and some of the others close
the header list of the block they occur in: a header that follows a closing item starts a new
block, and any other header joins the header list of the current block. Items before the first
header are dropped.

`grouping_eq_iff` compares two notions of closing item, one stricter than the other, and
`mem_headers_iff` says which headers are in force at an item.
-/

namespace GrowthOs.Library.Grouping

variable {I H B : Type*}

/-- A run of headers and what the items after it contribute. -/
structure Block (H B : Type*) where
  headers : List H
  entries : List B
  deriving DecidableEq, Repr

/-- The state of the scan: the finished blocks, the current one, and whether a closing item has
occurred since the last header. -/
structure State (H B : Type*) where
  done : List (Block H B)
  current : Option (Block H B)
  closed : Bool

/-- The blocks read so far, the current one last. -/
def State.blocks (state : State H B) : List (Block H B) := state.done ++ state.current.toList

section Scan

variable (header : I → Option H) (payload : I → Option B) (closes : I → Bool)

/-- Read one item. -/
def step (state : State H B) (item : I) : State H B :=
  match header item, state.current with
  | some h, none => ⟨state.done, some ⟨[h], []⟩, false⟩
  | some h, some block =>
      if state.closed then ⟨state.done ++ [block], some ⟨[h], []⟩, false⟩
      else ⟨state.done, some ⟨block.headers ++ [h], block.entries⟩, false⟩
  | none, none => state
  | none, some block =>
      ⟨state.done, some ⟨block.headers, block.entries ++ (payload item).toList⟩,
        state.closed || closes item⟩

/-- The state after reading `items`. -/
def scan (items : List I) : State H B := items.foldl (step header payload closes) ⟨[], none, false⟩

/-- The blocks of a sequence. -/
def grouping (items : List I) : List (Block H B) := (scan header payload closes items).blocks

/-- The items after the last header, in reverse order. -/
def sinceHeader (items : List I) : List I :=
  items.reverse.takeWhile fun item => (header item).isNone

/-- A header read after `before` starts a new block: it is the first header, or a closing item
occurs between the last header and it. -/
def StartsBlock (before : List I) : Prop :=
  (∀ item ∈ before, header item = none) ∨ ∃ item ∈ sinceHeader header before, closes item = true

end Scan

section Lemmas

variable {header : I → Option H} {payload : I → Option B} {closes : I → Bool}

/-- A split of a list that ends in `x` puts `x` at the split point or in the part after it. -/
theorem concat_eq_append_cons {xs ys zs : List I} {x y : I} (h : xs ++ [x] = ys ++ y :: zs) :
    (zs = [] ∧ xs = ys ∧ x = y) ∨ ∃ rest, zs = rest ++ [x] ∧ xs = ys ++ y :: rest := by
  rcases List.eq_nil_or_concat zs with rfl | ⟨rest, last, rfl⟩
  · obtain ⟨rfl, hlast⟩ := List.append_inj' h rfl
    exact Or.inl ⟨rfl, rfl, by simpa using hlast⟩
  · rw [List.concat_eq_append, ← List.cons_append, ← List.append_assoc] at h
    obtain ⟨rfl, hlast⟩ := List.append_inj' h rfl
    exact Or.inr ⟨rest, by simpa using hlast.symm, rfl⟩

/-- A list is scanned from the front. -/
@[simp] theorem scan_concat (items : List I) (item : I) :
    scan header payload closes (items ++ [item]) =
      step header payload closes (scan header payload closes items) item := by
  simp [scan]

/-- A header starts over. -/
theorem since_header_concat_header (items : List I) {item : I} (h : header item ≠ none) :
    sinceHeader header (items ++ [item]) = [] := by
  cases hh : header item with
  | none => exact absurd hh h
  | some _ => simp [sinceHeader, hh]

/-- An entry is added to those since the last header. -/
theorem since_header_concat_entry (items : List I) {item : I} (h : header item = none) :
    sinceHeader header (items ++ [item]) = item :: sinceHeader header items := by
  simp [sinceHeader, h]

/-- There is no current block exactly before the first header. -/
theorem scan_current_none_iff (items : List I) :
    (scan header payload closes items).current = none ↔
      ∀ item ∈ items, header item = none := by
  induction items using List.reverseRecOn with
  | nil => simp [scan]
  | append_singleton items item ih =>
      cases hitem : header item with
      | some h =>
          cases hcur : (scan header payload closes items).current with
          | none => simp [step, hitem, hcur, List.mem_append]
          | some block =>
              simp only [scan_concat, step, hitem, hcur]
              split <;> simp [hitem, List.mem_append]
      | none =>
          cases hcur : (scan header payload closes items).current with
          | none =>
              have hall := ih.mp hcur
              simp only [scan_concat, step, hitem, hcur, List.mem_append, List.mem_singleton,
                true_iff]
              rintro i (hi | rfl)
              · exact hall i hi
              · exact hitem
          | some block =>
              have hnot : ¬ ∀ item ∈ items, header item = none := fun hall => by
                simp [ih.mpr hall] at hcur
              simp only [scan_concat, step, hitem, hcur, reduceCtorEq, false_iff]
              exact fun hall => hnot fun i hi => hall i (by simp [hi])

/-- The flag of the scan says that a closing item occurs after the last header. -/
theorem scan_closed_iff (items : List I)
    (hcur : (scan header payload closes items).current ≠ none) :
    (scan header payload closes items).closed = true ↔
      ∃ item ∈ sinceHeader header items, closes item = true := by
  induction items using List.reverseRecOn with
  | nil => simp [scan] at hcur
  | append_singleton items item ih =>
      cases hitem : header item with
      | some h =>
          rw [since_header_concat_header items (by simp [hitem])]
          cases hprev : (scan header payload closes items).current with
          | none => simp [step, hitem, hprev]
          | some block =>
              simp only [scan_concat, step, hitem, hprev]
              split <;> simp
      | none =>
          rw [since_header_concat_entry items hitem]
          cases hprev : (scan header payload closes items).current with
          | none => simp [step, hitem, hprev] at hcur
          | some block =>
              have hprev' : (scan header payload closes items).current ≠ none := by simp [hprev]
              simp [step, hitem, hprev, ih hprev', or_comm]

variable (payload) in
/-- A header starts a new block exactly when the scan has no open block to extend. -/
theorem starts_block_iff_scan (before : List I) :
    StartsBlock header closes before ↔
      (scan header payload closes before).current = none ∨
        (scan header payload closes before).closed = true := by
  by_cases hcur : (scan header payload closes before).current = none
  · exact iff_of_true (Or.inl ((scan_current_none_iff before).mp hcur)) (Or.inl hcur)
  · have hsome : ¬ ∀ item ∈ before, header item = none :=
      fun hall => hcur ((scan_current_none_iff before).mpr hall)
    rw [StartsBlock, scan_closed_iff before hcur]
    simp [hcur, hsome]

/-- `h` is in force after `before`: some header item naming it occurs, and no header that starts
a block occurs after that item. -/
def InForce (header : I → Option H) (closes : I → Bool) (before : List I) (h : H) : Prop :=
  ∃ first item rest, before = first ++ item :: rest ∧ header item = some h ∧
    ∀ mid later tail, rest = mid ++ later :: tail → header later ≠ none →
      ¬ StartsBlock header closes (first ++ item :: mid)

/-- An entry leaves the headers in force. -/
theorem in_force_concat_entry {before : List I} {item : I} (hitem : header item = none) (h : H) :
    InForce header closes (before ++ [item]) h ↔ InForce header closes before h := by
  constructor
  · rintro ⟨first, start, rest, heq, hstart, hrest⟩
    rcases concat_eq_append_cons heq with ⟨-, -, rfl⟩ | ⟨rest, rfl, rfl⟩
    · simp [hitem] at hstart
    · refine ⟨first, start, rest, rfl, hstart, ?_⟩
      intro mid later tail hmid
      exact hrest mid later (tail ++ [item]) (by simp [hmid])
  · rintro ⟨first, start, rest, rfl, hstart, hrest⟩
    refine ⟨first, start, rest ++ [item], by simp, hstart, ?_⟩
    intro mid later tail hmid hlater
    rcases concat_eq_append_cons hmid with ⟨-, -, rfl⟩ | ⟨tail, -, hmid⟩
    · exact absurd hitem hlater
    · exact hrest mid later tail hmid hlater

/-- A header is in force from now on, with those of its block. -/
theorem in_force_concat_header {before : List I} {item : I} {g : H} (hitem : header item = some g)
    (h : H) :
    InForce header closes (before ++ [item]) h ↔
      h = g ∨ (InForce header closes before h ∧ ¬ StartsBlock header closes before) := by
  constructor
  · rintro ⟨first, start, rest, heq, hstart, hrest⟩
    rcases concat_eq_append_cons heq with ⟨-, -, rfl⟩ | ⟨rest, rfl, rfl⟩
    · exact Or.inl (by simpa [hitem] using hstart.symm)
    · refine Or.inr ⟨⟨first, start, rest, rfl, hstart, ?_⟩, ?_⟩
      · intro mid later tail hmid
        exact hrest mid later (tail ++ [item]) (by simp [hmid])
      · exact hrest rest item [] rfl (by simp [hitem])
  · rintro (rfl | ⟨⟨first, start, rest, rfl, hstart, hrest⟩, hopen⟩)
    · exact ⟨before, item, [], rfl, hitem, by simp⟩
    · refine ⟨first, start, rest ++ [item], by simp, hstart, ?_⟩
      intro mid later tail hmid hlater
      rcases concat_eq_append_cons hmid with ⟨-, rfl, -⟩ | ⟨tail, -, hmid⟩
      · exact hopen
      · exact hrest mid later tail hmid hlater

variable (header payload closes) in
/-- The headers of the current block are the headers in force. -/
theorem mem_headers_iff (before : List I) (h : H) :
    (∃ block ∈ (scan header payload closes before).current, h ∈ block.headers) ↔
      InForce header closes before h := by
  induction before using List.reverseRecOn with
  | nil => simp [scan, InForce]
  | append_singleton before item ih =>
      cases hitem : header item with
      | none =>
          rw [in_force_concat_entry hitem, ← ih]
          cases hcur : (scan header payload closes before).current <;> simp [step, hitem, hcur]
      | some g =>
          rw [in_force_concat_header hitem, ← ih, starts_block_iff_scan payload]
          cases hcur : (scan header payload closes before).current with
          | none => simp [step, hitem, hcur]
          | some block =>
              cases hclosed : (scan header payload closes before).closed <;>
                simp [step, hitem, hcur, hclosed, or_comm]

variable (header payload closes) in
/-- Once the header list of the current block is closed, later items leave that list alone. -/
theorem foldl_step_of_closed (after : List I) (done : List (Block H B)) (block : Block H B) :
    ∃ more later, (after.foldl (step header payload closes) ⟨done, some block, true⟩).blocks =
      done ++ ⟨block.headers, block.entries ++ more⟩ :: later := by
  -- A header finishes the block, and finished blocks stay where they are.
  have hdone : ∀ (items : List I) (state : State H B), ∃ later,
      (items.foldl (step header payload closes) state).blocks = state.done ++ later := by
    intro items
    induction items with
    | nil => exact fun state => ⟨_, rfl⟩
    | cons item items ih =>
        intro state
        obtain ⟨later, hlater⟩ := ih (step header payload closes state item)
        have hstep : ∃ more, (step header payload closes state item).done = state.done ++ more := by
          unfold step
          split
          · exact ⟨[], by simp⟩
          · split
            · exact ⟨_, rfl⟩
            · exact ⟨[], by simp⟩
          · exact ⟨[], by simp⟩
          · exact ⟨[], by simp⟩
        obtain ⟨more, hmore⟩ := hstep
        exact ⟨more ++ later, by rw [List.foldl_cons, hlater, hmore, List.append_assoc]⟩
  induction after generalizing block with
  | nil => exact ⟨[], [], by simp [State.blocks]⟩
  | cons item after ih =>
      cases hitem : header item with
      | none =>
          obtain ⟨more, later, h⟩ := ih ⟨block.headers, block.entries ++ (payload item).toList⟩
          refine ⟨(payload item).toList ++ more, later, ?_⟩
          simpa [step, hitem] using h
      | some h =>
          obtain ⟨later, hlater⟩ := hdone after ⟨done ++ [block], some ⟨[h], []⟩, false⟩
          exact ⟨[], later, by simpa [step, hitem] using hlater⟩

/-- What a closing item contributes stays in the block that is current there, right after what
the items before it contributed, and no later header joins that block. -/
theorem attribution {before : List I} (after : List I) {item : I} {b : B}
    (hitem : header item = none)
    (hcloses : closes item = true) (hpayload : payload item = some b)
    (hheader : ∃ i ∈ before, header i ≠ none) :
    ∃ done block more later, grouping header payload closes before = done ++ [block] ∧
      grouping header payload closes (before ++ item :: after) =
        done ++ ⟨block.headers, block.entries ++ b :: more⟩ :: later ∧
      ∀ h, h ∈ block.headers ↔ InForce header closes before h := by
  have hcur : (scan header payload closes before).current ≠ none := fun hnone => by
    obtain ⟨i, hi, hne⟩ := hheader
    exact hne ((scan_current_none_iff before).mp hnone i hi)
  obtain ⟨block, hblock⟩ := Option.ne_none_iff_exists'.mp hcur
  have hforce := mem_headers_iff header payload closes before
  obtain ⟨more, later, hblocks⟩ := foldl_step_of_closed header payload closes after
    (scan header payload closes before).done ⟨block.headers, block.entries ++ [b]⟩
  refine ⟨(scan header payload closes before).done, block, more, later, ?_, ?_, ?_⟩
  · simp [grouping, State.blocks, hblock]
  · rw [grouping, scan, List.foldl_append, List.foldl_cons, ← scan]
    simpa [step, hitem, hblock, hcloses, hpayload] using hblocks
  · intro h
    rw [← hforce h]
    simp [hblock]

/-- Before the first header no item contributes anything. -/
theorem grouping_of_no_header {before : List I} (after : List I)
    (hnone : ∀ item ∈ before, header item = none) :
    grouping header payload closes (before ++ after) = grouping header payload closes after := by
  induction before with
  | nil => rfl
  | cons item before ih =>
      have hitem : header item = none := hnone item (by simp)
      have hrest := ih fun i hi => hnone i (by simp [hi])
      simpa [grouping, scan, step, hitem] using hrest

/-! ## Two notions of closing item -/

/-- How many blocks have been read. -/
def State.count (state : State H B) : Nat := state.done.length + state.current.toList.length

/-- A state has as many blocks as it counts. -/
theorem State.blocks_length (state : State H B) : state.blocks.length = state.count := by
  simp [State.blocks, State.count]

/-- Both notions start a block at the same headers of `items`. -/
def SameStarts (header : I → Option H) (closes strict : I → Bool) (items : List I) : Prop :=
  ∀ before item after, items = before ++ item :: after → header item ≠ none →
    StartsBlock header closes before → StartsBlock header strict before

/-- Two notions of a start agree on one more item. -/
theorem same_starts_concat {strict : I → Bool} (items : List I) (item : I) :
    SameStarts header closes strict (items ++ [item]) ↔
      SameStarts header closes strict items ∧
        (header item ≠ none → StartsBlock header closes items →
          StartsBlock header strict items) := by
  constructor
  · intro h
    refine ⟨fun before i after heq => h before i (after ++ [item]) (by simp [heq]), ?_⟩
    exact h items item [] rfl
  · rintro ⟨hitems, hitem⟩ before i after heq hi
    rcases concat_eq_append_cons heq with ⟨-, rfl, rfl⟩ | ⟨after, -, heq⟩
    · exact hitem hi
    · exact hitems before i after heq hi

/-- What stands behind a header since then. -/
theorem since_header_append (first : List I) {item : I} (block : List I)
    (hitem : header item ≠ none)
    (hblock : ∀ i ∈ block, header i = none) :
    sinceHeader header (first ++ item :: block) = block.reverse := by
  induction block using List.reverseRecOn with
  | nil => exact since_header_concat_header first hitem
  | append_singleton block last ih =>
      rw [← List.cons_append, ← List.append_assoc,
        since_header_concat_entry _ (hblock last (by simp)), ih fun i hi => hblock i (by simp [hi])]
      simp

/-- `SameStarts` in terms of the items between two consecutive headers. -/
theorem same_starts_iff {strict : I → Bool} (items : List I) :
    SameStarts header closes strict items ↔
      ∀ first start block item rest, items = first ++ start :: (block ++ item :: rest) →
        header start ≠ none → (∀ i ∈ block, header i = none) → header item ≠ none →
        (∃ i ∈ block, closes i = true) → ∃ i ∈ block, strict i = true := by
  constructor
  · intro h first start block item rest heq hstart hblock hitem hcloses
    have hsame := h (first ++ start :: block) item rest (by simp [heq]) hitem
    simp only [StartsBlock, since_header_append first block hstart hblock, List.mem_reverse]
      at hsame
    rcases hsame (Or.inr hcloses) with hnone | hstrict
    · exact absurd (hnone start (by simp)) hstart
    · exact hstrict
  · intro h before item after heq hitem hstarts
    by_cases hnone : ∀ i ∈ before, header i = none
    · exact Or.inl hnone
    · -- Cut `before` at its last header.
      have hlast : ∃ first start block, before = first ++ start :: block ∧ header start ≠ none ∧
          ∀ i ∈ block, header i = none := by
        clear h heq hstarts
        induction before using List.reverseRecOn with
        | nil => simp at hnone
        | append_singleton before last ih =>
            by_cases hl : header last = none
            · obtain ⟨first, start, block, rfl, hstart, hblock⟩ := ih fun hall =>
                hnone fun i hi => by
                  rcases List.mem_append.mp hi with hi | hi
                  · exact hall i hi
                  · rwa [List.mem_singleton.mp hi]
              refine ⟨first, start, block ++ [last], by simp, hstart, fun i hi => ?_⟩
              rcases List.mem_append.mp hi with hi | hi
              · exact hblock i hi
              · rwa [List.mem_singleton.mp hi]
            · exact ⟨before, last, [], rfl, hl, by simp⟩
      obtain ⟨first, start, block, rfl, hstart, hblock⟩ := hlast
      simp only [StartsBlock, since_header_append first block hstart hblock, List.mem_reverse]
        at hstarts ⊢
      rcases hstarts with hall | hcloses
      · exact absurd hall hnone
      · exact Or.inr (h first start block item after (by simp [heq]) hstart hblock hitem hcloses)

/-- What the two scans have in common. The stricter one closes less often, so it has read at most
as many blocks, and fewer once the starts have differed. -/
structure Comparison (same : Prop) (strict loose : State H B) : Prop where
  closed : strict.closed = true → loose.closed = true
  current : strict.current = none ↔ loose.current = none
  count : strict.count ≤ loose.count
  agree : same → strict.done = loose.done ∧ strict.current = loose.current
  differ : ¬ same → strict.count < loose.count

variable (header payload) in
/-- Two scans with a stricter notion of closing are compared item by item. -/
theorem scan_comparison {strict : I → Bool} (hstrict : ∀ item, strict item → closes item)
    (items : List I) :
    Comparison (SameStarts header closes strict items) (scan header payload strict items)
      (scan header payload closes items) := by
  induction items using List.reverseRecOn with
  | nil =>
      have hsame : SameStarts header closes strict [] := fun before item after heq => by simp at heq
      exact ⟨by simp [scan], by simp [scan], by simp [scan], by simp [scan], absurd hsame⟩
  | append_singleton items item ih =>
      -- The scans agree up to this item, or the looser one has read more blocks already.
      obtain ⟨hclosed, hcurrent, hcount, hagree, hdiffer⟩ := ih
      rw [same_starts_concat, starts_block_iff_scan payload,
        starts_block_iff_scan payload, scan_concat, scan_concat]
      generalize scan header payload strict items = s at *
      generalize scan header payload closes items = t at *
      obtain ⟨sdone, scur, sclosed⟩ := s
      obtain ⟨tdone, tcur, tclosed⟩ := t
      simp only [State.count] at *
      cases hitem : header item with
      | none =>
          cases scur with
          | none =>
              obtain rfl : tcur = none := hcurrent.mp rfl
              constructor <;> simp_all [step, State.count]
          | some sblock =>
              cases tcur with
              | none => simp at hcurrent
              | some tblock =>
                  constructor <;> simp_all [step, State.count]
                  · rintro (h | h)
                    · exact Or.inl (hclosed h)
                    · exact Or.inr (hstrict item h)
      | some h =>
          cases scur with
          | none =>
              obtain rfl : tcur = none := hcurrent.mp rfl
              constructor <;> simp_all [step, State.count]
          | some sblock =>
              cases tcur with
              | none => simp at hcurrent
              | some tblock =>
                  cases sclosed <;> cases tclosed
                  · constructor <;> simp_all [step, State.count]
                  -- Only the looser scan starts a block here, and stays ahead from now on.
                  · have hless := Nat.lt_succ_of_le hcount
                    have hatMost := hless.le
                    constructor <;> simp_all [step, State.count]
                  · simp at hclosed
                  · constructor <;> simp_all [step, State.count]

variable (payload) in
/-- Grouping under a stricter notion of closing item gives the same blocks exactly when it starts
a block wherever the looser notion does. -/
theorem grouping_eq_iff {strict : I → Bool} (hstrict : ∀ item, strict item → closes item)
    (items : List I) :
    grouping header payload strict items = grouping header payload closes items ↔
      SameStarts header closes strict items := by
  have hcmp := scan_comparison header payload hstrict items
  constructor
  · intro heq
    by_contra hne
    have hlen := congrArg List.length heq
    rw [grouping, grouping, State.blocks_length, State.blocks_length] at hlen
    have := hcmp.differ hne
    omega
  · intro hsame
    obtain ⟨hdone, hcur⟩ := hcmp.agree hsame
    simp [grouping, State.blocks, hdone, hcur]

end Lemmas

end GrowthOs.Library.Grouping
