import Mathlib.Data.List.Basic
import Mathlib.Logic.Function.Basic

/-!
# Changes of fields

A record is the value of each of its fields. Two records are compared field by field, in an order
that names every field; what differs turns one into the other, and back. Along a history of records,
the changes between neighbours rebuild every record from the first one or from the last one.
-/

namespace GrowthOs.Library.FieldChanges

variable {F V : Type}

/-- A field that differs, with its old and its new value. -/
structure FieldChange (F V : Type) where
  field : F
  before : V
  after : V
  deriving DecidableEq

/-- The other direction of a change. -/
def FieldChange.reversed (change : FieldChange F V) : FieldChange F V :=
  ⟨change.field, change.after, change.before⟩

section

variable [DecidableEq V]

/-- The fields that differ, in their order. -/
def changes (order : List F) (previous current : F → V) : List (FieldChange F V) :=
  order.filterMap fun field =>
    if previous field ≠ current field then some ⟨field, previous field, current field⟩ else none

/-- The changes are those of the fields that differ. -/
theorem mem_changes {order : List F} {previous current : F → V} {change : FieldChange F V} :
    change ∈ changes order previous current ↔ change.field ∈ order ∧
      previous change.field ≠ current change.field ∧
      change.before = previous change.field ∧ change.after = current change.field := by
  unfold changes
  rw [List.mem_filterMap]
  constructor
  · rintro ⟨field, hfield, hchange⟩
    split at hchange
    · next hne =>
        cases hchange
        exact ⟨hfield, hne, rfl, rfl⟩
    · exact absurd hchange.symm (Option.some_ne_none _)
  · rintro ⟨hfield, hne, hbefore, hafter⟩
    refine ⟨change.field, hfield, ?_⟩
    rw [if_pos hne, ← hbefore, ← hafter]

/-- The fields of the changes are in the order of the fields, none of them twice. -/
theorem changes_sublist (order : List F) (previous current : F → V) :
    ((changes order previous current).map FieldChange.field).Sublist order := by
  unfold changes
  induction order with
  | nil => exact .slnil
  | cons field order ih =>
      rw [List.filterMap_cons]
      by_cases hsame : previous field = current field
      · simp only [hsame, ne_eq, not_true_eq_false, if_false]
        exact ih.cons field
      · simp only [ne_eq, hsame, not_false_eq_true, if_true]
        exact ih.cons_cons field

/-- Nothing changes exactly when every field is the same. -/
theorem changes_eq_nil {order : List F} (horder : ∀ field, field ∈ order)
    {previous current : F → V} :
    changes order previous current = [] ↔ previous = current := by
  constructor
  · intro hnil
    funext field
    by_contra hne
    have hmem : ⟨field, previous field, current field⟩ ∈ changes order previous current :=
      mem_changes.mpr ⟨horder field, hne, rfl, rfl⟩
    rw [hnil] at hmem
    exact List.not_mem_nil hmem
  · rintro rfl
    rw [List.eq_nil_iff_forall_not_mem]
    intro change hchange
    exact (mem_changes.mp hchange).2.1 rfl

/-- The changes back are the changes there, each of them reversed. -/
theorem changes_reversed (order : List F) (previous current : F → V) :
    changes order current previous = (changes order previous current).map FieldChange.reversed := by
  unfold changes
  rw [List.map_filterMap]
  refine List.filterMap_congr fun field _ => ?_
  by_cases hsame : previous field = current field
  · simp [hsame]
  · rw [if_pos hsame, if_pos (Ne.symm hsame)]
    rfl

/-- The changes between the neighbours of a history. -/
def historyChanges (order : List F) : (F → V) → List (F → V) → List (List (FieldChange F V))
  | _, [] => []
  | first, next :: later => changes order first next :: historyChanges order next later

/-- What has changed between the two ends of a history has changed between two neighbours. -/
theorem mem_history_changes {order : List F} {first : F → V} {later : List (F → V)}
    {change : FieldChange F V}
    (h : change ∈ changes order first (later.getLastD first)) :
    ∃ made ∈ historyChanges order first later, change.field ∈ made.map FieldChange.field := by
  induction later generalizing first change with
  | nil => exact absurd rfl (mem_changes.mp h).2.1
  | cons next later ih =>
      rw [List.getLastD_cons] at h
      obtain ⟨hfield, hne, -, -⟩ := mem_changes.mp h
      by_cases hfirst : first change.field = next change.field
      · have hlater : (⟨change.field, next change.field, later.getLastD next change.field⟩ :
            FieldChange F V) ∈ changes order next (later.getLastD next) :=
          mem_changes.mpr ⟨hfield, hfirst ▸ hne, rfl, rfl⟩
        obtain ⟨made, hmade, hmem⟩ := ih hlater
        exact ⟨made, List.mem_cons_of_mem _ hmade, hmem⟩
      · have hnext : (⟨change.field, first change.field, next change.field⟩ : FieldChange F V) ∈
            changes order first next := mem_changes.mpr ⟨hfield, hfirst, rfl, rfl⟩
        exact ⟨changes order first next, List.mem_cons_self, List.mem_map.mpr ⟨_, hnext, rfl⟩⟩

end

section

variable [DecidableEq F]

/-- A record with some changes made to it. -/
def patch (record : F → V) (made : List (FieldChange F V)) : F → V :=
  made.foldl (fun record change => Function.update record change.field change.after) record

/-- Changes are made one after the other. -/
theorem patch_append (record : F → V) (first second : List (FieldChange F V)) :
    patch record (first ++ second) = patch (patch record first) second := List.foldl_append

/-- What a record says of a field after some changes that agree with another record on what they
touch. -/
theorem patch_apply {made : List (FieldChange F V)} {target : F → V}
    (h : ∀ change ∈ made, change.after = target change.field) (record : F → V) (field : F) :
    patch record made field =
      if field ∈ made.map FieldChange.field then target field else record field := by
  induction made generalizing record with
  | nil => rfl
  | cons change made ih =>
      show patch (Function.update record change.field change.after) made field = _
      rw [ih fun other hother => h other (List.mem_cons_of_mem _ hother)]
      by_cases hlater : field ∈ made.map FieldChange.field
      · rw [if_pos hlater, List.map_cons, if_pos (List.mem_cons_of_mem _ hlater)]
      · rw [if_neg hlater, List.map_cons]
        by_cases hfield : field = change.field
        · rw [hfield, Function.update_self, if_pos List.mem_cons_self,
            h change List.mem_cons_self]
        · rw [Function.update_of_ne hfield, if_neg]
          intro hmem
          exact (List.mem_cons.mp hmem).elim hfield hlater

variable [DecidableEq V]

/-- The changes between two records turn the one into the other. -/
theorem patch_changes {order : List F} (horder : ∀ field, field ∈ order)
    (previous current : F → V) :
    patch previous (changes order previous current) = current := by
  funext field
  rw [patch_apply fun change hchange => (mem_changes.mp hchange).2.2.2]
  split
  · rfl
  · next hmem =>
      by_contra hne
      refine hmem (List.mem_map.mpr ⟨⟨field, previous field, current field⟩, ?_, rfl⟩)
      exact mem_changes.mpr ⟨horder field, hne, rfl, rfl⟩

/-- And the reversed ones turn it back. -/
theorem patch_reversed {order : List F} (horder : ∀ field, field ∈ order)
    (previous current : F → V) :
    patch current ((changes order previous current).map FieldChange.reversed) = previous := by
  rw [← changes_reversed]
  exact patch_changes horder current previous

/-! ## Histories -/

/-- Some sets of changes undone, the last set first. -/
def undone (history : List (List (FieldChange F V))) : List (FieldChange F V) :=
  (history.reverse.map fun made => made.map FieldChange.reversed).flatten

/-- The changes up to a place of a history turn its first record into the one at that place. -/
theorem patch_history {order : List F} (horder : ∀ field, field ∈ order) (first : F → V)
    (later : List (F → V)) (k : Nat) (hk : k ≤ later.length) :
    (first :: later)[k]? = some
    (patch first ((historyChanges order first later).take k).flatten) := by
  induction later generalizing first k with
  | nil =>
      rw [Nat.le_zero.mp hk]
      rfl
  | cons next later ih =>
      cases k with
      | zero => rfl
      | succ k =>
          rw [List.getElem?_cons_succ, ih next k (Nat.le_of_succ_le_succ hk)]
          rw [historyChanges, List.take_succ_cons, List.flatten_cons, patch_append,
            patch_changes horder]

/-- The changes behind a place of a history, undone, turn its last record back into the one at that
place. -/
theorem patch_undone {order : List F} (horder : ∀ field, field ∈ order) (first : F → V)
    (later : List (F → V)) (k : Nat) (hk : k ≤ later.length) :
    (first :: later)[k]? = some (patch (later.getLastD first)
      (undone ((historyChanges order first later).drop k))) := by
  induction later generalizing first k with
  | nil =>
      rw [Nat.le_zero.mp hk]
      rfl
  | cons next later ih =>
      rw [List.getLastD_cons]
      cases k with
      | succ k =>
          rw [List.getElem?_cons_succ, ih next k (Nat.le_of_succ_le_succ hk)]
          rfl
      | zero =>
          have hnext := ih next 0 (Nat.zero_le _)
          rw [List.getElem?_cons_zero, Option.some.injEq, List.drop_zero] at hnext
          have hundone : undone (historyChanges order first (next :: later)) =
              undone (historyChanges order next later) ++
                (changes order first next).map FieldChange.reversed := by
            simp [undone, historyChanges]
          rw [List.getElem?_cons_zero, List.drop_zero, hundone, patch_append, ← hnext,
            patch_reversed horder]

end

end GrowthOs.Library.FieldChanges
