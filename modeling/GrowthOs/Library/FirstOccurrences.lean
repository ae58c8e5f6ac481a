import Mathlib.Data.List.Nodup
import Mathlib.Data.List.Perm.Basic

/-!
# First occurrences

The items of a list, each once, in the order in which they first occur. `FirstOccurrences` says so,
`first_occurrences_unique` that it leaves no choice, and `collect` computes them item by item.
-/

namespace GrowthOs.Library

variable {α : Type} [DecidableEq α]

/-- The items of `xs`, each once, in the order in which they first occur. -/
structure FirstOccurrences (xs firsts : List α) : Prop where
  mem : ∀ a, a ∈ firsts ↔ a ∈ xs
  order : firsts.Pairwise fun a b => xs.idxOf a < xs.idxOf b

/-- Add the items of a list that are not there yet. -/
def collect : List α → List α → List α
  | [], firsts => firsts
  | x :: xs, firsts => collect xs (if x ∈ firsts then firsts else firsts ++ [x])

/-- First occurrences are listed once. -/
theorem FirstOccurrences.nodup {xs firsts : List α} (h : FirstOccurrences xs firsts) :
    firsts.Nodup :=
  h.order.imp fun hlt => by
    rintro rfl
    exact Nat.lt_irrefl _ hlt

/-- A list has one list of first occurrences. -/
theorem first_occurrences_unique {xs firsts firsts' : List α} (h : FirstOccurrences xs firsts)
    (h' : FirstOccurrences xs firsts') : firsts = firsts' := by
  have hperm : firsts.Perm firsts' :=
    (List.perm_ext_iff_of_nodup h.nodup h'.nodup).mpr fun a => (h.mem a).trans (h'.mem a).symm
  exact hperm.eq_of_pairwise (fun a b _ _ hab hba => absurd hab (Nat.lt_asymm hba)) h.order h'.order

/-- One more item. -/
theorem FirstOccurrences.push {xs firsts : List α} (h : FirstOccurrences xs firsts) (x : α) :
    FirstOccurrences (xs ++ [x]) (if x ∈ firsts then firsts else firsts ++ [x]) := by
  have hsame : ∀ a, a ∈ firsts → (xs ++ [x]).idxOf a = xs.idxOf a := fun a ha =>
    List.idxOf_append_of_mem ((h.mem a).mp ha)
  have horder : firsts.Pairwise fun a b => (xs ++ [x]).idxOf a < (xs ++ [x]).idxOf b := by
    refine List.Pairwise.imp_of_mem (fun ha hb hlt => ?_) h.order
    rw [hsame _ ha, hsame _ hb]
    exact hlt
  split
  · rename_i hx
    refine ⟨fun a => ?_, horder⟩
    rw [h.mem a, List.mem_append, List.mem_singleton]
    exact ⟨.inl, fun ha => ha.elim id fun hax => hax ▸ (h.mem x).mp hx⟩
  · rename_i hx
    have hxs : x ∉ xs := fun hmem => hx ((h.mem x).mpr hmem)
    refine ⟨fun a => ?_, ?_⟩
    · rw [List.mem_append, List.mem_append, h.mem a]
    · rw [List.pairwise_append]
      refine ⟨horder, List.pairwise_singleton _ x, fun a ha b hb => ?_⟩
      rw [List.mem_singleton.mp hb, hsame a ha, List.idxOf_append_of_notMem hxs]
      have hlt : xs.idxOf a < xs.length := List.idxOf_lt_length_iff.mpr ((h.mem a).mp ha)
      omega

/-- Collecting adds those of the rest. -/
theorem collect_spec {done firsts : List α} (h : FirstOccurrences done firsts) (xs : List α) :
    FirstOccurrences (done ++ xs) (collect xs firsts) := by
  induction xs generalizing done firsts with
  | nil =>
      rw [List.append_nil]
      exact h
  | cons x xs ih =>
      have hrest := ih (h.push x)
      rw [List.append_assoc] at hrest
      exact hrest

/-- Collecting lists them. -/
theorem first_occurrences_collect (xs : List α) : FirstOccurrences xs (collect xs []) := by
  have hnone : FirstOccurrences ([] : List α) [] := ⟨fun _ => Iff.rfl, .nil⟩
  exact collect_spec hnone xs

end GrowthOs.Library
