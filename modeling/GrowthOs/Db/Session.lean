import GrowthOs.Db.Models
import GrowthOs.Library.Program

/-!
# Repository sessions

The statements that the repositories issue, as programs that raise the exceptions of
`api/errors.py`, of the database, and of the session itself.

The session writes its objects when it flushes, grouped by class in the order of the class names,
so a service that adds several objects issues their statements in that order.
-/

namespace GrowthOs.Db

open Library

/-- What a service raises. `database` is a failure of a statement, and the last two are the
exceptions of the session for a row that has disappeared. -/
inductive ServiceError where
  | notFound
  | conflict
  | invalidStateTransition (message : String)
  | database (error : DbError)
  | invalidRequest
  | staleData
  deriving DecidableEq, Repr

/-- A coroutine of a service. -/
abbrev Service (α : Type) := Program schema ServiceError α

/-- `TenantContext`. -/
structure TenantContext where
  tenantId : Uuid
  deriving DecidableEq, Repr

/-- Issue a statement. -/
def statement {α : Type} (s : Statement schema α) : Service α :=
  Program.execute ServiceError.database s

/-- `uuid4()`. -/
def uuid4 : Service Uuid := statement .uuid4

/-- `session.scalar(select(model).where(…))`. -/
def scalar (t : Table) (condition : t.Row → Bool) : Service (Option t.Row) :=
  statement (.select fun d => (d t).find? condition)

/-- `get_owned`: the row with this identifier if the tenant owns it. -/
def getOwned (t : Table) (context : TenantContext) (resourceId : Uuid) : Service (Option t.Row) :=
  scalar t fun r => rowId r = resourceId && rowTenant r = context.tenantId

/-- The row that a query found, or `NotFoundError`. -/
def required {α : Type} : Option α → Service α
  | some row => pure row
  | none => .raise .notFound

/-- `get_owned` of a service. -/
def requireOwned (t : Table) (context : TenantContext) (resourceId : Uuid) : Service t.Row := do
  required (← getOwned t context resourceId)

/-- The insertion of one object. -/
def insert (t : Table) (row : Nat → t.Row) : Service Unit := statement (.insert t row)

/-- The update of one object that the session has loaded. -/
def updateLoaded (t : Table) (id : Uuid) (set : Nat → t.Row → t.Row) : Service Unit := do
  let found ← statement (.update t id (fun _ => true) set)
  if found then pure () else .raise .staleData

/-- `repository.commit()` after the flush. -/
def commit : Service Unit := statement .commit

/-- `repository.rollback()`. -/
def rollback : Service Unit := statement .rollback

/-- `repository.refresh(entity)`. -/
def refresh (t : Table) (id : Uuid) : Service t.Row := do
  match ← scalar t fun r => rowId r = id with
  | some row => pure row
  | none => .raise .invalidRequest

/-- `except IntegrityError`: the handler rolls back before it continues. -/
def onIntegrityError {α : Type} (body handler : Service α) : Service α :=
  body.handle fun
    | .database .integrity => do rollback; handler
    | error => .raise error

end GrowthOs.Db
