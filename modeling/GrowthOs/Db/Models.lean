import GrowthOs.Library.Relational
import GrowthOs.Execution.Lifecycle

/-!
# The database schema

`db/models.py`: the rows of every table with their unique, check and foreign key constraints. A
row has one field a column. Identifiers are numbers, and so are points of time.

A unique constraint that contains the primary key holds of any two rows, so `clash` leaves it out.
-/

namespace GrowthOs.Db

open Library Execution

/-- `UUID`. -/
abbrev Uuid := Nat

/-- `MembershipRole`. -/
inductive MembershipRole where
  | owner
  | admin
  | member
  | viewer
  deriving DecidableEq, Repr

/-- `ConnectorStatus`. -/
inductive ConnectorStatus where
  | notConfigured
  | connected
  | degraded
  | disconnected
  deriving DecidableEq, Repr

/-- `RiskLevel`. -/
inductive RiskLevel where
  | readOnly
  | low
  | medium
  | high
  deriving DecidableEq, Repr

/-- `ProposalStatus`. -/
inductive ProposalStatus where
  | awaitingApproval
  | approved
  | rejected
  deriving DecidableEq, Repr

/-- `ApprovalDecisionValue`. -/
inductive ApprovalDecisionValue where
  | approved
  | rejected
  deriving DecidableEq, Repr

/-- `AutonomyLevel`. -/
inductive AutonomyLevel where
  | observeOnly
  | recommendOnly
  | approvalRequired
  | lowRiskAuto
  deriving DecidableEq, Repr

/-- `Tenant`. -/
structure Tenant where
  id : Uuid
  createdAt : Nat
  updatedAt : Nat
  name : String
  deriving DecidableEq, Repr

/-- `Workspace`. -/
structure Workspace where
  id : Uuid
  createdAt : Nat
  updatedAt : Nat
  tenantId : Uuid
  name : String
  deriving DecidableEq, Repr

/-- `WorkspaceBusinessProfile`. -/
structure WorkspaceBusinessProfile where
  id : Uuid
  createdAt : Nat
  updatedAt : Nat
  tenantId : Uuid
  workspaceId : Uuid
  companyName : String
  businessDescription : Option String
  productsServices : Option String
  targetAudience : Option String
  positioning : Option String
  brandVoice : Option String
  deriving DecidableEq, Repr

/-- `WorkspacePrimaryGrowthGoal`. The target date is a day number. -/
structure WorkspacePrimaryGrowthGoal where
  id : Uuid
  createdAt : Nat
  updatedAt : Nat
  tenantId : Uuid
  workspaceId : Uuid
  objective : String
  successDefinition : Option String
  targetDate : Option Nat
  deriving DecidableEq, Repr

/-- `WorkspaceAutonomyPolicy`. -/
structure WorkspaceAutonomyPolicy where
  id : Uuid
  createdAt : Nat
  updatedAt : Nat
  tenantId : Uuid
  workspaceId : Uuid
  level : AutonomyLevel
  isPaused : Bool
  deriving DecidableEq, Repr

/-- `WorkspaceCompetitor`. -/
structure WorkspaceCompetitor where
  id : Uuid
  createdAt : Nat
  updatedAt : Nat
  tenantId : Uuid
  workspaceId : Uuid
  name : String
  websiteUrl : Option String
  notes : Option String
  deriving DecidableEq, Repr

/-- `Membership`. -/
structure Membership where
  id : Uuid
  createdAt : Nat
  updatedAt : Nat
  tenantId : Uuid
  workspaceId : Uuid
  userId : Uuid
  role : MembershipRole
  deriving DecidableEq, Repr

/-- `Site`. An update can ask for a null name, which the not-null constraint refuses. -/
structure Site where
  id : Uuid
  createdAt : Nat
  updatedAt : Nat
  tenantId : Uuid
  workspaceId : Uuid
  name : Option String
  url : String
  deriving DecidableEq, Repr

/-- `Connector`. -/
structure Connector where
  id : Uuid
  createdAt : Nat
  updatedAt : Nat
  tenantId : Uuid
  workspaceId : Uuid
  siteId : Uuid
  kind : String
  status : ConnectorStatus
  deriving DecidableEq, Repr

/-- `ExecutionJob`. -/
structure ExecutionJob where
  id : Uuid
  createdAt : Nat
  updatedAt : Nat
  tenantId : Uuid
  workspaceId : Uuid
  kind : String
  idempotencyKey : String
  status : ExecutionStatus
  deriving DecidableEq, Repr

/-- `ExecutionRun`. -/
structure ExecutionRun where
  id : Uuid
  createdAt : Nat
  updatedAt : Nat
  tenantId : Uuid
  jobId : Uuid
  status : ExecutionStatus
  attemptNumber : Int
  maxAttempts : Int
  retryDelaySeconds : Int
  lastErrorCode : Option String
  deriving DecidableEq, Repr

/-- `ActionProposal`. -/
structure ActionProposal where
  id : Uuid
  createdAt : Nat
  updatedAt : Nat
  tenantId : Uuid
  jobId : Uuid
  actionType : String
  description : String
  riskLevel : RiskLevel
  requiresApproval : Bool
  status : ProposalStatus
  deriving DecidableEq, Repr

/-- `ApprovalDecision`. -/
structure ApprovalDecision where
  id : Uuid
  tenantId : Uuid
  proposalId : Uuid
  decision : ApprovalDecisionValue
  decidedBy : Uuid
  reason : Option String
  createdAt : Nat
  deriving DecidableEq, Repr

/-- The JSON object in the `details` column of an audit event, by its keys. -/
inductive AuditDetails where
  /-- No key. -/
  | empty
  /-- `prior_status`, `target_status`, `run_id`. -/
  | transition (priorStatus targetStatus : ExecutionStatus) (runId : Uuid)
  /-- `prior_run_id`, `new_run_id`, `prior_attempt_number`, `new_attempt_number`. -/
  | retry (priorRunId newRunId : Uuid) (priorAttemptNumber newAttemptNumber : Int)
  /-- `decision_id`. -/
  | decision (decisionId : Uuid)
  /-- `workspace_id`, `changed_fields`. -/
  | changedFields (workspaceId : Uuid) (fields : List String)
  deriving DecidableEq, Repr

/-- `AuditEvent`. -/
structure AuditEvent where
  id : Uuid
  tenantId : Uuid
  eventType : String
  resourceType : String
  resourceId : Uuid
  actorId : Option Uuid
  details : AuditDetails
  createdAt : Nat
  deriving DecidableEq, Repr

/-- The tables. -/
inductive Table where
  | tenants
  | workspaces
  | businessProfiles
  | growthGoals
  | autonomyPolicies
  | competitors
  | memberships
  | sites
  | connectors
  | jobs
  | runs
  | proposals
  | decisions
  | auditEvents
  deriving DecidableEq, Repr

/-- The rows of a table. -/
@[reducible] def Table.Row : Table → Type
  | .tenants => Tenant
  | .workspaces => Workspace
  | .businessProfiles => WorkspaceBusinessProfile
  | .growthGoals => WorkspacePrimaryGrowthGoal
  | .autonomyPolicies => WorkspaceAutonomyPolicy
  | .competitors => WorkspaceCompetitor
  | .memberships => Membership
  | .sites => Site
  | .connectors => Connector
  | .jobs => ExecutionJob
  | .runs => ExecutionRun
  | .proposals => ActionProposal
  | .decisions => ApprovalDecision
  | .auditEvents => AuditEvent

/-- The primary key. -/
def rowId : {t : Table} → t.Row → Uuid
  | .tenants, r => r.id
  | .workspaces, r => r.id
  | .businessProfiles, r => r.id
  | .growthGoals, r => r.id
  | .autonomyPolicies, r => r.id
  | .competitors, r => r.id
  | .memberships, r => r.id
  | .sites, r => r.id
  | .connectors, r => r.id
  | .jobs, r => r.id
  | .runs, r => r.id
  | .proposals, r => r.id
  | .decisions, r => r.id
  | .auditEvents, r => r.id

/-- The tenant that owns a row. A tenant owns its own row. -/
def rowTenant : {t : Table} → t.Row → Uuid
  | .tenants, r => r.id
  | .workspaces, r => r.tenantId
  | .businessProfiles, r => r.tenantId
  | .growthGoals, r => r.tenantId
  | .autonomyPolicies, r => r.tenantId
  | .competitors, r => r.tenantId
  | .memberships, r => r.tenantId
  | .sites, r => r.tenantId
  | .connectors, r => r.tenantId
  | .jobs, r => r.tenantId
  | .runs, r => r.tenantId
  | .proposals, r => r.tenantId
  | .decisions, r => r.tenantId
  | .auditEvents, r => r.tenantId

/-- The columns beside the tenant of the unique constraint of a table that does not contain the
primary key, if it has one. -/
def uniqueColumns : {t : Table} → t.Row → Option (List Uuid × List Int × List String)
  | .tenants, _ => none
  | .workspaces, r => some ([], [], [r.name])
  | .businessProfiles, r => some ([r.workspaceId], [], [])
  | .growthGoals, r => some ([r.workspaceId], [], [])
  | .autonomyPolicies, r => some ([r.workspaceId], [], [])
  | .competitors, r => some ([r.workspaceId], [], [r.name])
  | .memberships, r => some ([r.workspaceId, r.userId], [], [])
  | .sites, r => some ([r.workspaceId], [], [r.url])
  | .connectors, r => some ([r.workspaceId, r.siteId], [], [r.kind])
  | .jobs, r => some ([], [], [r.idempotencyKey])
  | .runs, r => some ([r.jobId], [r.attemptNumber], [])
  | .proposals, _ => none
  | .decisions, r => some ([r.proposalId], [], [])
  | .auditEvents, _ => none

/-- Two rows agree on the tenant and on the columns of a unique constraint. -/
def rowClash {t : Table} (r r' : t.Row) : Bool :=
  rowTenant r = rowTenant r' && uniqueColumns r ≠ none && uniqueColumns r = uniqueColumns r'

/-- Two rows clash where their unique columns agree. -/
theorem row_clash_iff {t : Table} (r r' : t.Row) :
    rowClash r r' = true ↔ rowTenant r = rowTenant r' ∧ uniqueColumns r ≠ none ∧
      uniqueColumns r = uniqueColumns r' := by
  simp [rowClash, and_assoc]

/-- They clash with each other. -/
theorem row_clash_symm {t : Table} (r r' : t.Row) : rowClash r r' = rowClash r' r := by
  rw [Bool.eq_iff_iff, row_clash_iff, row_clash_iff]
  constructor
  · rintro ⟨htenant, hsome, hcolumns⟩
    exact ⟨htenant.symm, hcolumns ▸ hsome, hcolumns.symm⟩
  · rintro ⟨htenant, hsome, hcolumns⟩
    exact ⟨htenant.symm, hcolumns ▸ hsome, hcolumns.symm⟩

/-- Rows of different tenants never violate a unique constraint together. -/
theorem tenant_eq_of_row_clash {t : Table} {r r' : t.Row} (h : rowClash r r' = true) :
    rowTenant r = rowTenant r' :=
  ((row_clash_iff r r').mp h).1

/-- `value = trim(value)`. -/
def isTrimmed (value : String) : Bool :=
  value.toList.head? != some ' ' && value.toList.getLast? != some ' '

/-- The check constraints, and the not-null constraint of a site's name. -/
def rowCheck : {t : Table} → t.Row → Bool
  | .sites, r => r.name.isSome
  | .competitors, r =>
      1 ≤ r.name.length && r.name.length ≤ 200 && isTrimmed r.name &&
        r.websiteUrl.all (fun url => url.length ≤ 2048) &&
        r.notes.all fun notes => 1 ≤ notes.length && notes.length ≤ 4000 && isTrimmed notes
  | .runs, r =>
      1 ≤ r.attemptNumber && 1 ≤ r.maxAttempts && r.maxAttempts ≤ 10 &&
        r.attemptNumber ≤ r.maxAttempts && 0 ≤ r.retryDelaySeconds &&
        r.retryDelaySeconds ≤ 86400
  | .proposals, r => r.riskLevel != .high || r.requiresApproval
  | _, _ => true

/-- The foreign keys. -/
def rowParents : {t : Table} → t.Row → List (Table × List Uuid)
  | .tenants, _ => []
  | .workspaces, r => [(.tenants, [r.tenantId])]
  | .businessProfiles, r => [(.workspaces, [r.workspaceId, r.tenantId])]
  | .growthGoals, r => [(.workspaces, [r.workspaceId, r.tenantId])]
  | .autonomyPolicies, r => [(.workspaces, [r.workspaceId, r.tenantId])]
  | .competitors, r => [(.workspaces, [r.workspaceId, r.tenantId])]
  | .memberships, r => [(.workspaces, [r.workspaceId, r.tenantId])]
  | .sites, r => [(.workspaces, [r.workspaceId, r.tenantId])]
  | .connectors, r => [(.sites, [r.siteId, r.workspaceId, r.tenantId])]
  | .jobs, r => [(.workspaces, [r.workspaceId, r.tenantId])]
  | .runs, r => [(.jobs, [r.jobId, r.tenantId])]
  | .proposals, r => [(.jobs, [r.jobId, r.tenantId])]
  | .decisions, r => [(.proposals, [r.proposalId, r.tenantId])]
  | .auditEvents, r => [(.tenants, [r.tenantId])]

/-- The keys that foreign keys refer to. -/
def rowCandidates : {t : Table} → t.Row → List (List Uuid)
  | .tenants, r => [[r.id]]
  | .workspaces, r => [[r.id, r.tenantId]]
  | .sites, r => [[r.id, r.workspaceId, r.tenantId]]
  | .jobs, r => [[r.id, r.tenantId]]
  | .proposals, r => [[r.id, r.tenantId]]
  | _, _ => []

/-- The schema. -/
@[reducible] def schema : Schema where
  Table := Table
  tableEq := inferInstance
  Row := Table.Row
  ident := rowId
  clash := rowClash
  check := rowCheck
  parents := rowParents
  candidates := rowCandidates
  clash_symm := row_clash_symm

end GrowthOs.Db
