import GrowthOs.Db.Session
import Mathlib.Data.List.Sort

/-!
# Pages, changes of loaded rows, and handlers

The statements that the repositories of `repositories.py` and `execution_repository.py` share: pages
of a table in a fixed order with the number of all rows, updates of the columns of a loaded row that
have changed, and the handlers of `services.py`.
-/

namespace GrowthOs.Db

open Library

/-- `created_at`. -/
def rowCreatedAt : {t : Table} → t.Row → Nat
  | .tenants, r => r.createdAt
  | .workspaces, r => r.createdAt
  | .businessProfiles, r => r.createdAt
  | .growthGoals, r => r.createdAt
  | .autonomyPolicies, r => r.createdAt
  | .competitors, r => r.createdAt
  | .memberships, r => r.createdAt
  | .sites, r => r.createdAt
  | .connectors, r => r.createdAt
  | .jobs, r => r.createdAt
  | .runs, r => r.createdAt
  | .proposals, r => r.createdAt
  | .decisions, r => r.createdAt
  | .auditEvents, r => r.createdAt

/-- `onupdate=func.now()` of `updated_at`. Decisions and audit events have no such column. -/
def rowTouch (time : Nat) : {t : Table} → t.Row → t.Row
  | .tenants, r => { r with updatedAt := time }
  | .workspaces, r => { r with updatedAt := time }
  | .businessProfiles, r => { r with updatedAt := time }
  | .growthGoals, r => { r with updatedAt := time }
  | .autonomyPolicies, r => { r with updatedAt := time }
  | .competitors, r => { r with updatedAt := time }
  | .memberships, r => { r with updatedAt := time }
  | .sites, r => { r with updatedAt := time }
  | .connectors, r => { r with updatedAt := time }
  | .jobs, r => { r with updatedAt := time }
  | .runs, r => { r with updatedAt := time }
  | .proposals, r => { r with updatedAt := time }
  | .decisions, r => r
  | .auditEvents, r => r

/-- The time of an update is no identifier. -/
@[simp] theorem row_id_touch (time : Nat) {t : Table} (row : t.Row) :
    rowId (rowTouch time row) = rowId row := by
  cases t <;> rfl

/-- Nor is it the tenant. -/
@[simp] theorem row_tenant_touch (time : Nat) {t : Table} (row : t.Row) :
    rowTenant (rowTouch time row) = rowTenant row := by
  cases t <;> rfl

/-- `limit` and `offset`. -/
structure PageRequest where
  limit : Nat
  offset : Nat
  deriving DecidableEq, Repr

/-- `order_by(key, model.id)`. -/
def orderBy {t : Table} (key : t.Row → Int) (rows : List t.Row) : List t.Row :=
  rows.mergeSort fun r r' => key r < key r' || (key r = key r' && rowId r ≤ rowId r')

/-- `order_by(model.created_at, model.id)`. -/
def byCreation {t : Table} (row : t.Row) : Int := rowCreatedAt row

/-- One page of the rows with a condition, and the number of all of them. -/
def listPage (t : Table) (condition : t.Row → Bool) (key : t.Row → Int) (page : PageRequest) :
    Service (List t.Row × Nat) := do
  let items ← statement (.select fun d =>
    ((orderBy key ((d t).filter condition)).drop page.offset).take page.limit)
  let total ← statement (.select fun d => ((d t).filter condition).length)
  pure (items, total)

/-! ## Changes -/

/-- New values for columns of a loaded row. The session only writes the columns whose value is not
the loaded one. -/
structure Change (Row : Type) where
  /-- Some column has another value than the loaded row. -/
  dirty : Row → Bool
  /-- Set the columns that differ from the loaded row in the current one. -/
  apply : Row → Row → Row

namespace Change

variable {Row α : Type}

/-- `setattr` of one column, if the mapping has a value for it. -/
def column [DecidableEq α] (get : Row → α) (set : α → Row → Row) (value : Option α) :
    Change Row where
  dirty loaded := value.any fun v => get loaded ≠ v
  apply loaded current := match value with
    | some v => if get loaded ≠ v then set v current else current
    | none => current

/-- The columns of two changes. -/
def and (c c' : Change Row) : Change Row where
  dirty loaded := c.dirty loaded || c'.dirty loaded
  apply loaded current := c'.apply loaded (c.apply loaded current)

end Change

/-- Two changes are applied one after the other. -/
theorem Change.apply_and {Row : Type} (c c' : Change Row) (loaded current : Row) :
    (c.and c').apply loaded current = c'.apply loaded (c.apply loaded current) := rfl

/-- A column that is not dirty is not written. -/
theorem Change.apply_column_clean {Row α : Type} [DecidableEq α] {get : Row → α}
    {set : α → Row → Row} {value : Option α} {loaded : Row}
    (h : (Change.column get set value).dirty loaded = false) (current : Row) :
    (Change.column get set value).apply loaded current = current := by
  cases value with
  | none => rfl
  | some v => exact if_neg (by simpa [Change.column] using h)

/-- A change that keeps the primary key and the tenant of a row. -/
structure Change.Keeps {t : Table} (change : Change t.Row) : Prop where
  id : ∀ loaded current : t.Row, rowId (change.apply loaded current) = rowId current
  tenant : ∀ loaded current : t.Row, rowTenant (change.apply loaded current) = rowTenant current

/-- A column is left as it is, or set. -/
theorem Change.apply_column {Row α : Type} [DecidableEq α] (get : Row → α) (set : α → Row → Row)
    (value : Option α) (loaded current : Row) :
    (Change.column get set value).apply loaded current = current ∨
      ∃ v, (Change.column get set value).apply loaded current = set v current := by
  unfold Change.column
  cases value with
  | none => exact Or.inl rfl
  | some v =>
      by_cases hv : get loaded ≠ v
      · exact Or.inr ⟨v, if_pos hv⟩
      · exact Or.inl (if_neg hv)

/-- A change of another column keeps the identifier and the tenant. -/
theorem Change.keeps_column {t : Table} {α : Type} [DecidableEq α] {get : t.Row → α}
    {set : α → t.Row → t.Row} {value : Option α}
    (hset : ∀ v row, rowId (set v row) = rowId row ∧ rowTenant (set v row) = rowTenant row) :
    Change.Keeps (Change.column get set value) := by
  refine ⟨fun loaded current => ?_, fun loaded current => ?_⟩
  · rcases Change.apply_column get set value loaded current with heq | ⟨v, heq⟩
    · rw [heq]
    · rw [heq, (hset v current).1]
  · rcases Change.apply_column get set value loaded current with heq | ⟨v, heq⟩
    · rw [heq]
    · rw [heq, (hset v current).2]

/-- So do two changes that keep them. -/
theorem Change.Keeps.and {t : Table} {c c' : Change t.Row} (h : c.Keeps) (h' : c'.Keeps) :
    (c.and c').Keeps :=
  ⟨fun loaded current => (h'.id loaded _).trans (h.id loaded current),
    fun loaded current => (h'.tenant loaded _).trans (h.tenant loaded current)⟩

/-- The flush of a loaded row: an update, unless no column has changed. -/
def flushChange (t : Table) (loaded : t.Row) (change : Change t.Row) : Service Unit :=
  if change.dirty loaded then
    updateLoaded t (rowId loaded) fun time current => rowTouch time (change.apply loaded current)
  else pure ()

/-- `except IntegrityError` followed by `except Exception`: both roll back. -/
def rollbackOnError {α : Type} (body : Service α) : Service α :=
  body.handle fun
    | .database .integrity => do
        rollback
        .raise .conflict
    | error => do
        rollback
        .raise error

end GrowthOs.Db
