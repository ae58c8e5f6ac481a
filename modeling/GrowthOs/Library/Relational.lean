import Mathlib.Logic.Function.Basic
import Mathlib.Data.List.Nodup

/-!
# Relational databases with constraints

A schema names its tables, the primary key of a row, when two rows of a table violate a unique
constraint, the check constraints, and the foreign keys. A database holds a list of rows a table,
in the order of their insertion. A write inserts a row or replaces one.

`Stands d w` says that the write `w`, not yet applied, still fits the database `d`. It is what a
row lock and a unique index guarantee for a pending write while other writes are applied.
-/

namespace GrowthOs.Library

/-- The tables of a database and their constraints. -/
structure Schema where
  Table : Type
  tableEq : DecidableEq Table
  Row : Table → Type
  /-- The primary key. -/
  ident : {t : Table} → Row t → Nat
  /-- Two rows with different primary keys violate a unique constraint. -/
  clash : {t : Table} → Row t → Row t → Bool
  /-- The check constraints. -/
  check : {t : Table} → Row t → Bool
  /-- The foreign keys: a table and a candidate key that one of its rows must have. -/
  parents : {t : Table} → Row t → List (Table × List Nat)
  /-- The candidate keys that foreign keys refer to. -/
  candidates : {t : Table} → Row t → List (List Nat)
  clash_symm : ∀ {t : Table} (r r' : Row t), clash r r' = clash r' r

attribute [instance] Schema.tableEq

variable {S : Schema}

/-- The rows of every table. -/
abbrev Database (S : Schema) : Type := (t : S.Table) → List (S.Row t)

/-- A row written to a table. `old` is the version that it replaces, none for an insertion. -/
structure Write (S : Schema) where
  table : S.Table
  old : Option (S.Row table)
  new : S.Row table

/-- The rows of a table after a write to it. -/
def Write.rows (w : Write S) (rows : List (S.Row w.table)) : List (S.Row w.table) :=
  match w.old with
  | none => rows ++ [w.new]
  | some _ => rows.map fun r => if S.ident r = S.ident w.new then w.new else r

/-- Apply a write. -/
def Write.apply (w : Write S) (d : Database S) : Database S :=
  Function.update d w.table (w.rows (d w.table))

/-- Apply the writes of a transaction. -/
def applyAll (ws : List (Write S)) (d : Database S) : Database S :=
  ws.foldl (fun d w => w.apply d) d

/-- The foreign keys of a write that have to be checked: those of an inserted row, and those that
an update changes. -/
def Write.newParents (w : Write S) : List (S.Table × List Nat) :=
  (S.parents w.new).filter fun p => w.old.all fun old => p ∉ S.parents old

/-- No constraint refuses the write. -/
def admits (d : Database S) (w : Write S) : Bool :=
  S.check w.new &&
    ((d w.table).all fun r =>
      if S.ident r = S.ident w.new then w.old.isSome else !S.clash r w.new) &&
    w.newParents.all fun p => (d p.1).any fun r => p.2 ∈ S.candidates r

/-- Two writes wait for one another: they write the same row, or rows that violate a unique
constraint together. -/
inductive Conflicts : Write S → Write S → Prop where
  | intro {t : S.Table} {old old' : Option (S.Row t)} {new new' : S.Row t}
      (h : S.ident new = S.ident new' ∨ S.clash new new' = true) :
      Conflicts ⟨t, old, new⟩ ⟨t, old', new'⟩

/-- The write fits the database: the version that it replaces is the current one, or it has a new
primary key, and it violates no unique constraint. -/
structure Stands (d : Database S) (w : Write S) : Prop where
  check : S.check w.new = true
  replaces : ∀ old ∈ w.old, old ∈ d w.table ∧ S.ident old = S.ident w.new
  inserts : w.old = none → ∀ r ∈ d w.table, S.ident r ≠ S.ident w.new
  unique : ∀ r ∈ d w.table, S.ident r ≠ S.ident w.new → S.clash r w.new = false

/-- A table whose rows have different primary keys and violate no constraint. -/
structure TableConsistent {t : S.Table} (rows : List (S.Row t)) : Prop where
  nodup : (rows.map S.ident).Nodup
  unique : ∀ r ∈ rows, ∀ r' ∈ rows, S.ident r ≠ S.ident r' → S.clash r r' = false
  check : ∀ r ∈ rows, S.check r = true

/-- Every table satisfies its primary key, unique and check constraints. -/
def Consistent (d : Database S) : Prop := ∀ t, TableConsistent (d t)

/-- Rows with one primary key are one row. -/
theorem eq_of_ident_eq {t : S.Table} {rows : List (S.Row t)} (h : TableConsistent rows)
    {r r' : S.Row t} (hr : r ∈ rows) (hr' : r' ∈ rows) (hident : S.ident r = S.ident r') : r = r' :=
  List.inj_on_of_nodup_map h.nodup hr hr' hident

/-- Rows that violate a unique constraint together are one row. -/
theorem eq_of_clash {t : S.Table} {rows : List (S.Row t)} (h : TableConsistent rows)
    {r r' : S.Row t} (hr : r ∈ rows) (hr' : r' ∈ rows) (hclash : S.clash r r' = true) : r = r' := by
  by_contra hne
  have hident : S.ident r ≠ S.ident r' := fun heq => hne (eq_of_ident_eq h hr hr' heq)
  exact absurd hclash (Bool.eq_false_iff.mp (h.unique r hr r' hr' hident))

/-- A row that is inserted violates no unique constraint. -/
theorem not_clash_of_insert {d : Database S} {w : Write S} (h : Stands d w) (hnew : w.old = none)
    {r : S.Row w.table} (hr : r ∈ d w.table) : ¬ S.clash r w.new = true :=
  Bool.eq_false_iff.mp (h.unique r hr (h.inserts hnew r hr))

/-- No writes. -/
@[simp] theorem apply_all_nil (d : Database S) : applyAll [] d = d := rfl

/-- The first write, and the others. -/
@[simp] theorem apply_all_cons (w : Write S) (ws : List (Write S)) (d : Database S) :
    applyAll (w :: ws) d = applyAll ws (w.apply d) := rfl

/-- A write changes its own table. -/
theorem apply_self (w : Write S) (d : Database S) : w.apply d w.table = w.rows (d w.table) :=
  Function.update_self ..

/-- It leaves the others. -/
theorem apply_of_ne {w : Write S} {t : S.Table} (d : Database S) (h : t ≠ w.table) :
    w.apply d t = d t :=
  Function.update_of_ne h ..

/-- Tables that are not written keep their rows. -/
theorem apply_all_of_not_written {ws : List (Write S)} {t : S.Table} (d : Database S)
    (h : ∀ w ∈ ws, t ≠ w.table) : applyAll ws d t = d t := by
  induction ws generalizing d with
  | nil => rfl
  | cons w ws ih =>
      rw [apply_all_cons, ih _ fun w' hw' => h w' (by simp [hw']), apply_of_ne d (h w (by simp))]

/-- A row that stands behind the writes stood there before, or one of them has written it. -/
theorem mem_of_apply_all {ws : List (Write S)} {d : Database S} {t : S.Table} {row : S.Row t}
    (h : row ∈ applyAll ws d t) : row ∈ d t ∨ ∃ old, (⟨t, old, row⟩ : Write S) ∈ ws := by
  induction ws generalizing d with
  | nil => exact .inl h
  | cons w ws ih =>
      rw [apply_all_cons] at h
      rcases ih h with hrow | ⟨old, hw⟩
      · by_cases ht : t = w.table
        · subst ht
          rw [apply_self] at hrow
          obtain ⟨table, old, new⟩ := w
          cases old with
          | none =>
              rcases List.mem_append.mp hrow with hrow | hrow
              · exact .inl hrow
              · rw [List.mem_singleton.mp hrow]
                exact .inr ⟨none, List.mem_cons_self⟩
          | some old =>
              obtain ⟨stored, hstored, heq⟩ := List.mem_map.mp hrow
              split at heq
              · rw [← heq]
                exact .inr ⟨some old, List.mem_cons_self⟩
              · rw [← heq]
                exact .inl hstored
        · rw [apply_of_ne _ ht] at hrow
          exact .inl hrow
      · exact .inr ⟨old, List.mem_cons_of_mem w hw⟩

/-- A write that fits leaves, beside the written row, the rows with another primary key. -/
theorem mem_rows_iff {w : Write S} {d : Database S} (h : Stands d w) {r : S.Row w.table} :
    r ∈ w.rows (d w.table) ↔ r = w.new ∨ (r ∈ d w.table ∧ S.ident r ≠ S.ident w.new) := by
  cases hold : w.old with
  | none =>
      have hne := h.inserts hold
      simp only [Write.rows, hold, List.mem_append, List.mem_singleton]
      constructor
      · rintro (hr | rfl)
        · exact Or.inr ⟨hr, hne r hr⟩
        · exact Or.inl rfl
      · rintro (rfl | ⟨hr, -⟩)
        · exact Or.inr rfl
        · exact Or.inl hr
  | some old =>
      obtain ⟨hmem, hident⟩ := h.replaces old hold
      simp only [Write.rows, hold, List.mem_map]
      constructor
      · rintro ⟨r', hr', rfl⟩
        by_cases heq : S.ident r' = S.ident w.new
        · exact Or.inl (if_pos heq)
        · rw [if_neg heq]
          exact Or.inr ⟨hr', heq⟩
      · rintro (rfl | ⟨hr, hne⟩)
        · exact ⟨old, hmem, if_pos hident⟩
        · exact ⟨r, hr, if_neg hne⟩

/-- A transaction that writes a table once leaves the rows of that write. -/
theorem apply_all_written {ws : List (Write S)} {w : Write S} (d : Database S)
    (htables : ws.Pairwise fun w w' => w.table ≠ w'.table) (hw : w ∈ ws) :
    applyAll ws d w.table = w.rows (d w.table) := by
  induction ws generalizing d with
  | nil => cases hw
  | cons w' ws ih =>
      obtain ⟨hne, htables⟩ := List.pairwise_cons.mp htables
      rw [apply_all_cons]
      rcases List.mem_cons.mp hw with rfl | hw
      · rw [apply_all_of_not_written _ hne, apply_self]
      · rw [ih _ htables hw, apply_of_ne d (hne w hw).symm]

/-- A write that fits keeps every constraint. -/
theorem consistent_apply {d : Database S} {w : Write S} (hd : Consistent d) (hw : Stands d w) :
    Consistent (w.apply d) := by
  intro t
  by_cases ht : t = w.table
  · subst ht
    rw [apply_self]
    obtain ⟨hnodup, hunique, hcheck⟩ := hd w.table
    refine ⟨?_, ?_, ?_⟩
    · cases hold : w.old with
      | none =>
          -- An insert brings a new identifier.
          have hfresh : S.ident w.new ∉ (d w.table).map S.ident := by
            rw [List.mem_map]
            rintro ⟨r, hr, heq⟩
            exact hw.inserts hold r hr heq
          simp only [Write.rows, hold, List.map_append, List.map_cons, List.map_nil]
          exact hnodup.append (List.nodup_singleton _) (List.disjoint_singleton.mpr hfresh)
      | some old =>
          -- An update replaces a row by one of the same identifier.
          have hsame : ∀ r : S.Row w.table,
              S.ident (if S.ident r = S.ident w.new then w.new else r) = S.ident r := by
            intro r
            split
            · rename_i heq
              exact heq.symm
            · rfl
          simp only [Write.rows, hold, List.map_map, Function.comp_def, hsame]
          exact hnodup
    · intro r hr r' hr' hne
      rw [mem_rows_iff hw] at hr hr'
      rcases hr with rfl | ⟨hr, hrne⟩
      · rcases hr' with rfl | ⟨hr', hrne'⟩
        · exact absurd rfl hne
        · rw [S.clash_symm]
          exact hw.unique r' hr' hrne'
      · rcases hr' with rfl | ⟨hr', -⟩
        · exact hw.unique r hr hrne
        · exact hunique r hr r' hr' hne
    · intro r hr
      rw [mem_rows_iff hw] at hr
      rcases hr with rfl | ⟨hr, -⟩
      · exact hw.check
      · exact hcheck r hr
  · rw [apply_of_ne d ht]
    exact hd t

/-! ## Pending writes -/

/-- Two writes conflict with each other. -/
theorem conflicts_symm {w w' : Write S} (h : Conflicts w w') : Conflicts w' w := by
  obtain ⟨hrow⟩ := h
  refine ⟨?_⟩
  rcases hrow with hident | hclash
  · exact Or.inl hident.symm
  · exact Or.inr (by rwa [S.clash_symm])

/-- Writes to different tables do not wait for one another. -/
theorem not_conflicts_of_table_ne {w w' : Write S} (h : w.table ≠ w'.table) : ¬ Conflicts w w' := by
  rintro ⟨-⟩
  exact h rfl

/-- A pending write still fits after a write that does not conflict with it. -/
theorem stands_apply {d : Database S} {w w' : Write S} (hw : Stands d w) (hw' : Stands d w')
    (hfree : ¬ Conflicts w w') : Stands (w'.apply d) w := by
  obtain ⟨t, old, new⟩ := w
  obtain ⟨t', old', new'⟩ := w'
  by_cases ht : t = t'
  · subst ht
    have hrows : ∀ r, r ∈ (Write.mk t old' new').apply d t ↔
        r = new' ∨ (r ∈ d t ∧ S.ident r ≠ S.ident new') := fun r => by
      rw [apply_self ⟨t, old', new'⟩ d]
      exact mem_rows_iff hw'
    have hident : S.ident new' ≠ S.ident new := fun heq => hfree ⟨Or.inl heq.symm⟩
    have hclash : S.clash new' new = false := by
      cases hval : S.clash new' new with
      | false => rfl
      | true => exact absurd ⟨Or.inr (by rwa [S.clash_symm])⟩ hfree
    refine ⟨hw.check, ?_, ?_, ?_⟩
    · intro r hr
      obtain ⟨hmem, hsame⟩ := hw.replaces r hr
      refine ⟨(hrows r).mpr (Or.inr ⟨hmem, ?_⟩), hsame⟩
      rw [hsame]
      exact hident.symm
    · intro hnone r hr
      rcases (hrows r).mp hr with rfl | ⟨hr, -⟩
      · exact hident
      · exact hw.inserts hnone r hr
    · intro r hr hne
      rcases (hrows r).mp hr with rfl | ⟨hr, -⟩
      · exact hclash
      · exact hw.unique r hr hne
  · have hsame : (Write.mk t' old' new').apply d t = d t := apply_of_ne d ht
    obtain ⟨hcheck, hreplaces, hinserts, hunique⟩ := hw
    simp only at hreplaces hinserts hunique
    rw [← hsame] at hreplaces hinserts hunique
    exact ⟨hcheck, hreplaces, hinserts, hunique⟩

/-- The writes of one transaction do not conflict with each other. -/
def Separate (ws : List (Write S)) : Prop := ws.Pairwise fun w w' => ¬ Conflicts w w'

/-- Applying a transaction keeps every constraint. -/
theorem consistent_apply_all {d : Database S} {ws : List (Write S)} (hd : Consistent d)
    (hws : ∀ w ∈ ws, Stands d w) (hsep : Separate ws) : Consistent (applyAll ws d) := by
  induction ws generalizing d with
  | nil => exact hd
  | cons w ws ih =>
      obtain ⟨hw, hsep⟩ := List.pairwise_cons.mp hsep
      refine ih (consistent_apply hd (hws w (by simp))) (fun w' hw' => ?_) hsep
      exact stands_apply (hws w' (by simp [hw'])) (hws w (by simp)) fun hc =>
        hw w' hw' (conflicts_symm hc)

/-- A pending write still fits after a transaction that does not conflict with it. -/
theorem stands_apply_all {d : Database S} {w : Write S} {ws : List (Write S)} (hw : Stands d w)
    (hws : ∀ w' ∈ ws, Stands d w') (hsep : Separate ws)
    (hfree : ∀ w' ∈ ws, ¬ Conflicts w w') : Stands (applyAll ws d) w := by
  induction ws generalizing d with
  | nil => exact hw
  | cons w' ws ih =>
      obtain ⟨hw', hsep⟩ := List.pairwise_cons.mp hsep
      have hfits := hws w' (by simp)
      refine ih (stands_apply hw hfits (hfree w' (by simp))) (fun w'' hw'' => ?_) hsep
        fun w'' hw'' => hfree w'' (by simp [hw''])
      exact stands_apply (hws w'' (by simp [hw''])) hfits fun hc => hw' w'' hw'' (conflicts_symm hc)

end GrowthOs.Library
