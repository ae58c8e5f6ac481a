import Mathlib.Data.List.Nodup
import Mathlib.Data.List.Perm.Basic
import Mathlib.Order.Basic

/-!
# Pages of an arranged list

`Arranged` says that a list holds given items in a strict order, which leaves no choice:
`arranged_unique`. Consecutive pages of any size go through a list once: `pages_flatten`.
-/

namespace GrowthOs.Library

variable {α β : Type} {lt : α → α → Prop}

/-- The list holds the items in the order. -/
structure Arranged (lt : α → α → Prop) (items list : List α) : Prop where
  perm : list.Perm items
  order : list.Pairwise lt

/-- A collection is arranged in one way. -/
theorem arranged_unique {items list list' : List α} (hlt : ∀ a b, lt a b → ¬ lt b a)
    (h : Arranged lt items list) (h' : Arranged lt items list') : list = list' :=
  (h.perm.trans h'.perm.symm).eq_of_pairwise
    (fun a b _ _ hab hba => absurd hba (hlt a b hab)) h.order h'.order

/-- It is arranged without repetitions. -/
theorem Arranged.nodup {items list : List α} (hlt : ∀ a, ¬ lt a a) (h : Arranged lt items list) :
    list.Nodup :=
  h.order.imp fun hab => by
    rintro rfl
    exact hlt _ hab

/-- A page of a list. -/
def pageOf (list : List α) (limit offset : Nat) : List α := (list.drop offset).take limit

/-- The first pages of a list are the start of it. -/
theorem pages_take (list : List α) (size count : Nat) :
    ((List.range count).flatMap fun k => pageOf list size (k * size)) = list.take
    (count * size) := by
  induction count with
  | zero => simp
  | succ count ih =>
      rw [List.range_succ, List.flatMap_append, ih, Nat.succ_mul, List.take_add]
      simp [pageOf]

/-- Consecutive pages go through the list once. -/
theorem pages_flatten {list : List α} {size count : Nat} (h : list.length ≤ count * size) :
    ((List.range count).flatMap fun k => pageOf list size (k * size)) = list := by
  rw [pages_take, List.take_of_length_le h]

/-! ## Sorting by two keys -/

/-- The order of a key, and of a second one where the first is the same. -/
def byKeys (key : α → Int) (ident : α → Nat) (a b : α) : Prop :=
  key a < key b ∨ key a = key b ∧ ident a < ident b

/-- Keys put two items in one order. -/
theorem by_keys_asymm {key : α → Int} {ident : α → Nat} (a b : α) (h : byKeys key ident a b) :
    ¬ byKeys key ident b a := by
  unfold byKeys at h ⊢
  omega

/-- Sorting arranges items with different second keys. -/
theorem arranged_merge_sort {key : α → Int} {ident : α → Nat} {items : List α}
    (hident : (items.map ident).Nodup) :
    Arranged (byKeys key ident) items (items.mergeSort fun a b =>
      key a < key b || (key a = key b && ident a ≤ ident b)) := by
  have hperm := List.mergeSort_perm items fun a b =>
    key a < key b || (key a = key b && ident a ≤ ident b)
  refine ⟨hperm, ?_⟩
  have hle : (items.mergeSort fun a b =>
      key a < key b || (key a = key b && ident a ≤ ident b)).Pairwise fun a b =>
        key a < key b ∨ key a = key b ∧ ident a ≤ ident b := by
    refine (List.pairwise_mergeSort ?_ ?_ items).imp fun h => by simpa using h
    · intro a b c hab hbc
      simp only [Bool.or_eq_true, Bool.and_eq_true, decide_eq_true_eq] at hab hbc ⊢
      omega
    · intro a b
      simp only [Bool.or_eq_true, Bool.and_eq_true, decide_eq_true_eq]
      omega
  have hdistinct : (items.mergeSort fun a b =>
      key a < key b || (key a = key b && ident a ≤ ident b)).Pairwise fun a b =>
        ident a ≠ ident b :=
    List.pairwise_map.mp ((hperm.map ident).nodup_iff.mpr hident)
  refine List.Pairwise.imp₂ (fun a b hab hne => ?_) hle hdistinct
  unfold byKeys
  omega

end GrowthOs.Library
