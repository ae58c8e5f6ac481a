import GrowthOs.Execution.Repository

/-!
# The execution service

`execution_service.py`: the operations on jobs, runs, proposals and decisions.
-/

namespace GrowthOs.Execution

open Library Db

/-- `JobResult`. -/
structure JobResult where
  job : ExecutionJob
  latestRun : ExecutionRun
  created : Bool
  deriving DecidableEq, Repr

/-- The default message of `InvalidStateTransitionError`. -/
def invalidTransition : ServiceError := .invalidStateTransition "Invalid state transition"

/-- `_audit`. -/
def audit (context : TenantContext) (id : Uuid) (eventType resourceType : String)
    (resourceId : Uuid) (actorId : Option Uuid) (details : AuditDetails) (time : Nat) :
    AuditEvent :=
  ⟨id, context.tenantId, eventType, resourceType, resourceId, actorId, details, time⟩

/-- The event of a created job. -/
def createdEvent : String := "execution_job.created"

/-- The event of a transition. -/
def transitionedEvent : String := "execution_job.transitioned"

/-- The event of a retry. -/
def retryReservedEvent : String := "execution_job.retry_reserved"

/-- The resource type of a job. -/
def jobResource : String := "execution_job"

/-- The resource type of a proposal. -/
def proposalResource : String := "action_proposal"

/-- `_required_run`. -/
def requiredRun (context : TenantContext) (jobId : Uuid) : Service ExecutionRun := do
  required (← latestRun context jobId)

/-- The arguments of `create_job`. -/
structure JobRequest where
  workspaceId : Uuid
  kind : String
  idempotencyKey : String
  maxAttempts : Int
  retryDelaySeconds : Int
  deriving DecidableEq, Repr

/-- `_idempotent_job_result`. -/
def idempotentJobResult (context : TenantContext) (job : ExecutionJob) (request : JobRequest) :
    Service JobResult := do
  let run ← requiredRun context job.id
  if job.workspaceId ≠ request.workspaceId ∨ job.kind ≠ request.kind ∨
      run.maxAttempts ≠ request.maxAttempts ∨
      run.retryDelaySeconds ≠ request.retryDelaySeconds then
    .raise .conflict
  else pure ⟨job, run, false⟩

/-- The job that `create_job` inserts. -/
def newJob (context : TenantContext) (id : Uuid) (request : JobRequest) (time : Nat) :
    ExecutionJob :=
  ⟨id, time, time, context.tenantId, request.workspaceId, request.kind, request.idempotencyKey,
    .queued⟩

/-- The first run of a job. -/
def firstRun (context : TenantContext) (id jobId : Uuid) (request : JobRequest) (time : Nat) :
    ExecutionRun :=
  ⟨id, time, time, context.tenantId, jobId, .queued, 1, request.maxAttempts,
    request.retryDelaySeconds, none⟩

/-- `create_job`. -/
def createJob (context : TenantContext) (request : JobRequest) : Service JobResult := do
  match ← getJobByIdempotencyKey context request.idempotencyKey with
  | some existing => idempotentJobResult context existing request
  | none => do
      let _ ← requireOwned .workspaces context request.workspaceId
      let jobId ← uuid4
      let runId ← uuid4
      let auditId ← uuid4
      let stored ← onIntegrityError
        (do
          insert .auditEvents (audit context auditId createdEvent jobResource jobId none .empty)
          insert .jobs (newJob context jobId request)
          insert .runs (firstRun context runId jobId request)
          commit
          pure none)
        (do
          match ← getJobByIdempotencyKey context request.idempotencyKey with
          | none => .raise .conflict
          | some winner => return some (← idempotentJobResult context winner request))
      match stored with
      | some result => pure result
      | none => do
          let job ← refresh .jobs jobId
          let run ← refresh .runs runId
          pure ⟨job, run, true⟩

/-- `transition_job`. -/
def transitionJob (context : TenantContext) (jobId : Uuid)
    (expectedStatus targetStatus : ExecutionStatus) (actorId : Option Uuid) : Service JobResult :=
  if !validateTransition expectedStatus targetStatus then .raise invalidTransition
  else do
    let job ← requireOwned .jobs context jobId
    let run ← requiredRun context job.id
    if job.status ≠ expectedStatus ∨ run.status ≠ expectedStatus then .raise invalidTransition
    else do
      let jobUpdated ← compareAndSetJobStatus context job.id expectedStatus targetStatus
      if !jobUpdated then do
        rollback
        .raise invalidTransition
      else do
        let runUpdated ← compareAndSetRunStatus context run.id expectedStatus targetStatus
        if !runUpdated then do
          rollback
          .raise invalidTransition
        else do
          let auditId ← uuid4
          onIntegrityError
            (do
              insert .auditEvents (audit context auditId transitionedEvent jobResource job.id
                actorId (.transition expectedStatus targetStatus run.id))
              commit)
            (.raise invalidTransition)
          let job ← refresh .jobs job.id
          let run ← refresh .runs run.id
          pure ⟨job, run, false⟩

/-- The run that `reserve_retry` inserts after `prior`. -/
def nextRun (context : TenantContext) (id jobId : Uuid) (prior : ExecutionRun) (time : Nat) :
    ExecutionRun :=
  ⟨id, time, time, context.tenantId, jobId, .queued, prior.attemptNumber + 1, prior.maxAttempts,
    prior.retryDelaySeconds, none⟩

/-- `reserve_retry`. -/
def reserveRetry (context : TenantContext) (jobId : Uuid) (expectedAttemptNumber : Int)
    (actorId : Option Uuid) : Service JobResult := do
  let job ← requireOwned .jobs context jobId
  let prior ← requiredRun context job.id
  if job.status ≠ .failed ∨ prior.status ≠ .failed ∨
      prior.attemptNumber ≠ expectedAttemptNumber ∨ prior.attemptNumber ≥ prior.maxAttempts then
    .raise invalidTransition
  else do
    let jobUpdated ← compareAndSetJobStatus context job.id .failed .queued
    if !jobUpdated then do
      rollback
      .raise invalidTransition
    else do
      let newRunId ← uuid4
      let auditId ← uuid4
      onIntegrityError
        (do
          insertRun (nextRun context newRunId job.id prior)
          insert .auditEvents (audit context auditId retryReservedEvent jobResource job.id actorId
            (.retry prior.id newRunId prior.attemptNumber (prior.attemptNumber + 1)))
          commit)
        (.raise invalidTransition)
      let job ← refresh .jobs job.id
      let run ← refresh .runs newRunId
      pure ⟨job, run, false⟩

/-- The arguments of `create_proposal`. -/
structure ProposalRequest where
  jobId : Uuid
  actionType : String
  description : String
  riskLevel : RiskLevel
  requiresApproval : Bool
  deriving DecidableEq, Repr

/-- The proposal that `create_proposal` inserts. -/
def newProposal (context : TenantContext) (id : Uuid) (request : ProposalRequest) (time : Nat) :
    ActionProposal :=
  ⟨id, time, time, context.tenantId, request.jobId, request.actionType, request.description,
    request.riskLevel, request.requiresApproval,
    if request.requiresApproval then .awaitingApproval else .approved⟩

/-- `create_proposal`. -/
def createProposal (context : TenantContext) (request : ProposalRequest) :
    Service ActionProposal := do
  let _ ← requireOwned .jobs context request.jobId
  if request.riskLevel = .high ∧ !request.requiresApproval then
    .raise (.invalidStateTransition "High-risk actions require explicit approval")
  else do
    let proposalId ← uuid4
    let auditId ← uuid4
    onIntegrityError
      (do
        insert .proposals (newProposal context proposalId request)
        insert .auditEvents (audit context auditId "action_proposal.created" proposalResource
          proposalId none .empty)
        commit)
      (.raise .conflict)
    refresh .proposals proposalId

/-- `ProposalStatus(decision.value)`. -/
def decidedStatus : ApprovalDecisionValue → ProposalStatus
  | .approved => .approved
  | .rejected => .rejected

/-- `f"action_proposal.{decision.value}"`. -/
def decidedEvent : ApprovalDecisionValue → String
  | .approved => "action_proposal.approved"
  | .rejected => "action_proposal.rejected"

/-- The error of a proposal that has a decision. -/
def alreadyFinalized : ServiceError :=
  .invalidStateTransition "Proposal has already been finalized"

/-- `decide_proposal`. -/
def decideProposal (context : TenantContext) (proposalId : Uuid)
    (decision : ApprovalDecisionValue) (decidedBy : Uuid) (reason : Option String) :
    Service ApprovalDecision := do
  let proposal ← requireOwned .proposals context proposalId
  if proposal.status ≠ .awaitingApproval then .raise alreadyFinalized
  else do
    let recordId ← uuid4
    let auditId ← uuid4
    onIntegrityError
      (do
        updateLoaded .proposals proposal.id fun time proposal =>
          { proposal with status := decidedStatus decision, updatedAt := time }
        insert .decisions fun time =>
          ⟨recordId, context.tenantId, proposal.id, decision, decidedBy, reason, time⟩
        insert .auditEvents (audit context auditId (decidedEvent decision) proposalResource
          proposal.id (some decidedBy) (.decision recordId))
        commit)
      (.raise alreadyFinalized)
    refresh .decisions recordId

end GrowthOs.Execution
