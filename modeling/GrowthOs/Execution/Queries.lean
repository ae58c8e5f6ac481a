import GrowthOs.Db.Queries
import GrowthOs.Execution.Service

/-!
# The queries of the execution service

`execution_service.py`: the operations that read jobs, runs, proposals and audit events.
-/

namespace GrowthOs.Execution

open Library Db

/-- `get_job`. -/
def getJob (context : TenantContext) (jobId : Uuid) : Service JobResult := do
  let job ← requireOwned .jobs context jobId
  let run ← requiredRun context job.id
  pure ⟨job, run, false⟩

/-- The value passes the filter, if there is one. -/
def passes {α : Type} [DecidableEq α] (filter : Option α) (value : α) : Bool :=
  filter.all fun wanted => value = wanted

/-- The filters of `list_jobs`. -/
structure JobFilter where
  workspaceId : Option Uuid
  status : Option ExecutionStatus
  kind : Option String
  deriving DecidableEq, Repr

/-- The predicate of `list_jobs_with_latest_runs`. -/
def JobFilter.condition (filter : JobFilter) (context : TenantContext) (job : ExecutionJob) :
    Bool :=
  job.tenantId = context.tenantId && passes filter.workspaceId job.workspaceId &&
    passes filter.status job.status && passes filter.kind job.kind

/-- The runs of the jobs of a page, by job and from the latest on. -/
def runsOfPage (runs : List ExecutionRun) (tenantId : Uuid) (jobs : List ExecutionJob) :
    List ExecutionRun :=
  (runs.filter fun run => run.tenantId = tenantId && run.jobId ∈ jobs.map (·.id)).mergeSort
    fun run run' => run.jobId < run'.jobId ||
      (run.jobId = run'.jobId && run'.attemptNumber ≤ run.attemptNumber)

/-- `list_jobs_with_latest_runs`. -/
def listJobsWithLatestRuns (context : TenantContext) (filter : JobFilter) (page : PageRequest) :
    Service (List (ExecutionJob × Option ExecutionRun) × Nat) := do
  let (jobs, total) ← listPage .jobs (filter.condition context) byCreation page
  if jobs = [] then pure ([], total)
  else do
    let runs ← statement (.select fun d => runsOfPage (d .runs) context.tenantId jobs)
    pure (jobs.map fun job => (job, runs.find? fun run => run.jobId = job.id), total)

/-- The results of a page of jobs. A job without a run is an error. -/
def jobResults : List (ExecutionJob × Option ExecutionRun) → Service (List JobResult)
  | [] => pure []
  | (_, none) :: _ => .raise .notFound
  | (job, some run) :: rest => do
      let results ← jobResults rest
      pure (⟨job, run, false⟩ :: results)

/-- The check of an optional filter by a row that the tenant has to own. -/
def requireFilter (t : Table) (context : TenantContext) : Option Uuid → Service Unit
  | some id => do
      let _ ← requireOwned t context id
      pure ()
  | none => pure ()

/-- `list_jobs`. -/
def listJobs (context : TenantContext) (filter : JobFilter) (page : PageRequest) :
    Service (List JobResult × Nat) := do
  requireFilter .workspaces context filter.workspaceId
  let (jobs, total) ← listJobsWithLatestRuns context filter page
  let results ← jobResults jobs
  pure (results, total)

/-- `list_runs`, in the order of the attempts. -/
def listRuns (context : TenantContext) (jobId : Uuid) (page : PageRequest) :
    Service (List ExecutionRun × Nat) := do
  let _ ← requireOwned .jobs context jobId
  listPage .runs (fun run => run.tenantId = context.tenantId && run.jobId = jobId)
    (·.attemptNumber) page

/-- The filters of `list_proposals`. -/
structure ProposalFilter where
  jobId : Option Uuid
  status : Option ProposalStatus
  riskLevel : Option RiskLevel
  requiresApproval : Option Bool
  deriving DecidableEq, Repr

/-- The predicate of `list_proposals`. -/
def ProposalFilter.condition (filter : ProposalFilter) (context : TenantContext)
    (proposal : ActionProposal) : Bool :=
  proposal.tenantId = context.tenantId && passes filter.jobId proposal.jobId &&
    passes filter.status proposal.status && passes filter.riskLevel proposal.riskLevel &&
    passes filter.requiresApproval proposal.requiresApproval

/-- `list_proposals`. -/
def listProposals (context : TenantContext) (filter : ProposalFilter) (page : PageRequest) :
    Service (List ActionProposal × Nat) := do
  requireFilter .jobs context filter.jobId
  listPage .proposals (filter.condition context) byCreation page

/-- The filters of `list_audit_events`. -/
structure AuditFilter where
  eventType : Option String
  resourceType : Option String
  resourceId : Option Uuid
  actorId : Option Uuid
  deriving DecidableEq, Repr

/-- The predicate of `list_audit_events`. An event without an actor fails every filter by actor. -/
def AuditFilter.condition (filter : AuditFilter) (context : TenantContext) (event : AuditEvent) :
    Bool :=
  event.tenantId = context.tenantId && passes filter.eventType event.eventType &&
    passes filter.resourceType event.resourceType && passes filter.resourceId event.resourceId &&
    filter.actorId.all fun actorId => event.actorId = some actorId

/-- `list_audit_events`. -/
def listAuditEvents (context : TenantContext) (filter : AuditFilter) (page : PageRequest) :
    Service (List AuditEvent × Nat) :=
  listPage .auditEvents (filter.condition context) byCreation page

end GrowthOs.Execution
