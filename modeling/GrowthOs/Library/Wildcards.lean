import Mathlib.Data.List.Basic

/-!
# Wildcard patterns

A pattern is a list of literals and wildcards, and a wildcard stands for any segment. `fill`
replaces the wildcards by segments, and `Glob` is the same relation by recursion on the pattern. The
lemmas are the moves of a matcher that walks pattern and text with two indices: it reads a literal,
it opens a wildcard, and it widens the segment of the wildcard that it opened last.
-/

namespace GrowthOs.Library

variable {α : Type*}

/-- The pattern with its wildcards replaced, the `i`-th one by `segment i`. -/
def fill (segment : Nat → List α) : List (Option α) → List α
  | [] => []
  | some a :: pattern => a :: fill segment pattern
  | none :: pattern => segment 0 ++ fill (fun i => segment (i + 1)) pattern

/-- The text is the pattern with its wildcards replaced. -/
def Glob : List (Option α) → List α → Prop
  | [], text => text = []
  | some a :: pattern, text => ∃ rest, text = a :: rest ∧ Glob pattern rest
  | none :: pattern, text => ∃ skipped, Glob pattern (text.drop skipped)

/-- Without wildcards there is nothing to fill in. -/
@[simp]
theorem fill_literals (segment : Nat → List α) (literals : List α) :
    fill segment (literals.map some) = literals := by
  induction literals with
  | nil => rfl
  | cons a literals ih => exact congrArg (a :: ·) ih

/-- A text matches where the wildcards can be filled in. -/
theorem glob_iff_fill {pattern : List (Option α)} {text : List α} :
    Glob pattern text ↔ ∃ segment, fill segment pattern = text := by
  induction pattern generalizing text with
  | nil => exact ⟨fun h => ⟨fun _ => [], h.symm⟩, fun ⟨_, h⟩ => h.symm⟩
  | cons token pattern ih =>
      cases token with
      | some a =>
          constructor
          · rintro ⟨rest, rfl, hrest⟩
            obtain ⟨segment, rfl⟩ := ih.mp hrest
            exact ⟨segment, rfl⟩
          · rintro ⟨segment, rfl⟩
            exact ⟨fill segment pattern, rfl, ih.mpr ⟨segment, rfl⟩⟩
      | none =>
          constructor
          · rintro ⟨skipped, hrest⟩
            obtain ⟨segment, hsegment⟩ := ih.mp hrest
            refine ⟨fun i => i.casesOn (text.take skipped) segment, ?_⟩
            show text.take skipped ++ fill segment pattern = text
            rw [hsegment, List.take_append_drop]
          · rintro ⟨segment, rfl⟩
            refine ⟨(segment 0).length, ih.mpr ⟨fun i => segment (i + 1), ?_⟩⟩
            show _ = (segment 0 ++ fill (fun i => segment (i + 1)) pattern).drop (segment 0).length
            rw [List.drop_left]

/-- A final wildcard accepts whatever is left. -/
theorem glob_open_iff {pattern : List (Option α)} {text : List α} :
    Glob (pattern ++ [none]) text ↔ ∃ segment, fill segment pattern <+: text := by
  induction pattern generalizing text with
  | nil =>
      refine iff_of_true ⟨text.length, ?_⟩ ⟨fun _ => [], List.nil_prefix⟩
      exact List.drop_length
  | cons token pattern ih =>
      cases token with
      | some a =>
          constructor
          · rintro ⟨rest, rfl, hrest⟩
            obtain ⟨segment, hsegment⟩ := ih.mp hrest
            exact ⟨segment, List.cons_prefix_cons.mpr ⟨rfl, hsegment⟩⟩
          · rintro ⟨segment, hprefix⟩
            obtain ⟨tail, rfl⟩ := hprefix
            exact ⟨fill segment pattern ++ tail, rfl, ih.mpr ⟨segment, List.prefix_append _ _⟩⟩
      | none =>
          constructor
          · rintro ⟨skipped, hrest⟩
            obtain ⟨segment, tail, htail⟩ := ih.mp hrest
            refine ⟨fun i => i.casesOn (text.take skipped) segment, tail, ?_⟩
            show (text.take skipped ++ fill segment pattern) ++ tail = text
            rw [List.append_assoc, htail, List.take_append_drop]
          · rintro ⟨segment, tail, htail⟩
            refine ⟨(segment 0).length, ih.mpr ⟨fun i => segment (i + 1), tail, ?_⟩⟩
            rw [← htail]
            show _ = ((segment 0 ++ fill (fun i => segment (i + 1)) pattern) ++ tail).drop _
            rw [List.append_assoc, List.drop_left]

/-- Only wildcards match the empty text. -/
theorem glob_nil_iff {pattern : List (Option α)} :
    Glob pattern [] ↔ pattern.all Option.isNone = true := by
  induction pattern with
  | nil => exact iff_of_true rfl rfl
  | cons token pattern ih =>
      cases token with
      | some a => exact iff_of_false (fun ⟨_, h, _⟩ => nomatch h) Bool.false_ne_true
      | none =>
          show (∃ skipped, Glob pattern (List.drop skipped [])) ↔ pattern.all Option.isNone = true
          simp only [List.drop_nil, exists_const]
          exact ih

/-! ## Positions -/

section

variable {pattern : List (Option α)} {text : List α} {i j k : Nat}

/-- The rest of the pattern matches the rest of the text. -/
def GlobAt (pattern : List (Option α)) (text : List α) (i j : Nat) : Prop :=
  Glob (pattern.drop i) (text.drop j)

/-- A literal matches itself. -/
theorem glob_at_literal {a : α} (hpattern : pattern[i]? = some (some a)) :
    GlobAt pattern text i j ↔ text[j]? = some a ∧ GlobAt pattern text (i + 1) (j + 1) := by
  obtain ⟨hi, hhere⟩ := List.getElem?_eq_some_iff.mp hpattern
  unfold GlobAt
  rw [List.drop_eq_getElem_cons hi, hhere]
  constructor
  · rintro ⟨rest, hrest, hglob⟩
    have hj : j < text.length := by
      by_contra hover
      rw [List.drop_eq_nil_of_le (by omega)] at hrest
      cases hrest
    rw [List.drop_eq_getElem_cons hj] at hrest
    obtain ⟨hhead, htail⟩ := List.cons.inj hrest
    exact ⟨by rw [List.getElem?_eq_getElem hj, hhead], htail ▸ hglob⟩
  · rintro ⟨hthere, hglob⟩
    obtain ⟨hj, hthere⟩ := List.getElem?_eq_some_iff.mp hthere
    exact ⟨text.drop (j + 1), by rw [List.drop_eq_getElem_cons hj, hthere], hglob⟩

/-- A wildcard matches any number of characters. -/
theorem glob_at_wildcard (hpattern : pattern[i]? = some none) :
    GlobAt pattern text i j ↔ ∃ k, j ≤ k ∧ GlobAt pattern text (i + 1) k := by
  obtain ⟨hi, hhere⟩ := List.getElem?_eq_some_iff.mp hpattern
  unfold GlobAt
  rw [List.drop_eq_getElem_cons hi, hhere]
  constructor
  · rintro ⟨skipped, hglob⟩
    rw [List.drop_drop] at hglob
    exact ⟨j + skipped, Nat.le_add_right j skipped, hglob⟩
  · rintro ⟨k, hjk, hglob⟩
    refine ⟨k - j, ?_⟩
    rw [List.drop_drop, Nat.add_sub_cancel' hjk]
    exact hglob

/-- Behind the pattern there is nothing to match. -/
theorem glob_at_end (hpattern : pattern[i]? = none) :
    GlobAt pattern text i j ↔ text.length ≤ j := by
  unfold GlobAt
  rw [List.drop_eq_nil_of_le (List.getElem?_eq_none_iff.mp hpattern)]
  exact List.drop_eq_nil_iff

/-- All tokens from `i` up to `i + n` are literals. -/
def Literals (pattern : List (Option α)) (i n : Nat) : Prop :=
  ∀ m < n, ∃ a, pattern[i + m]? = some (some a)

/-- One more literal. -/
theorem literals_succ {n : Nat} (h : Literals pattern i n) {a : α}
    (hnext : pattern[i + n]? = some (some a)) : Literals pattern i (n + 1) := by
  intro m hm
  by_cases hlast : m = n
  · exact ⟨a, hlast ▸ hnext⟩
  · exact h m (by omega)

/-- Literals take as many tokens of the text as they are. -/
theorem glob_at_literals {n : Nat} (hliterals : Literals pattern i n)
    (hglob : GlobAt pattern text i k) : GlobAt pattern text (i + n) (k + n) := by
  induction n with
  | zero => exact hglob
  | succ n ih =>
      obtain ⟨a, ha⟩ := hliterals n (Nat.lt_succ_self n)
      exact ((glob_at_literal ha).mp (ih fun m hm => hliterals m (by omega))).2

/-- A wildcard that is reached over literals from a later position can be opened earlier. -/
theorem glob_at_exchange {n : Nat} (hliterals : Literals pattern i n)
    (hpattern : pattern[i + n]? = some none) (hjk : j ≤ k) (hglob : GlobAt pattern text i k) :
    GlobAt pattern text (i + n) (j + n) := by
  obtain ⟨m, hkm, hrest⟩ := (glob_at_wildcard hpattern).mp (glob_at_literals hliterals hglob)
  exact (glob_at_wildcard hpattern).mpr ⟨m, by omega, hrest⟩

end

end GrowthOs.Library
