import GrowthOs.Execution.Transactions
import GrowthOs.Db.Rules

/-!
# Requests to the execution service

The requests that write jobs, runs, proposals and decisions, and what each of them commits.
`Answered` is the contract of one request, whatever other requests do in the meantime.
-/

namespace GrowthOs.Execution

open Library Db

/-- The requests. -/
inductive Request where
  | createJob (context : TenantContext) (request : JobRequest)
  | transitionJob (context : TenantContext) (jobId : Uuid)
      (expectedStatus targetStatus : ExecutionStatus) (actorId : Option Uuid)
  | reserveRetry (context : TenantContext) (jobId : Uuid) (expectedAttemptNumber : Int)
      (actorId : Option Uuid)
  | createProposal (context : TenantContext) (request : ProposalRequest)
  | decideProposal (context : TenantContext) (proposalId : Uuid)
      (decision : ApprovalDecisionValue) (decidedBy : Uuid) (reason : Option String)
  deriving DecidableEq, Repr

/-- What the requests return. -/
inductive Response where
  | job (result : JobResult)
  | proposal (proposal : ActionProposal)
  | decision (decision : ApprovalDecision)
  deriving DecidableEq, Repr

/-- Serve a request. -/
def serve : Request → Service Response
  | .createJob context request => do return .job (← createJob context request)
  | .transitionJob context jobId expectedStatus targetStatus actorId => do
      return .job (← transitionJob context jobId expectedStatus targetStatus actorId)
  | .reserveRetry context jobId expectedAttemptNumber actorId => do
      return .job (← reserveRetry context jobId expectedAttemptNumber actorId)
  | .createProposal context request => do return .proposal (← createProposal context request)
  | .decideProposal context proposalId decision decidedBy reason => do
      return .decision (← decideProposal context proposalId decision decidedBy reason)

/-- The writes that a request commits when it succeeds. -/
inductive Committed : Request → List (Write schema) → Prop where
  | createJob {context : TenantContext} {request : JobRequest} (jobId runId auditId : Uuid)
      (t t' t'' : Nat) :
      Committed (.createJob context request)
        [⟨.auditEvents, none, audit context auditId createdEvent jobResource jobId none .empty t⟩,
          ⟨.jobs, none, newJob context jobId request t'⟩,
          ⟨.runs, none, firstRun context runId jobId request t''⟩]
  | transitionJob {context : TenantContext} {jobId : Uuid}
      {expectedStatus targetStatus : ExecutionStatus} {actorId : Option Uuid}
      (allowed : targetStatus ∈ allowedTransitions expectedStatus) {job : ExecutionJob}
      (jobIs : job.id = jobId ∧ job.tenantId = context.tenantId ∧ job.status = expectedStatus)
      {run : ExecutionRun}
      (runIs : run.jobId = jobId ∧ run.tenantId = context.tenantId ∧ run.status = expectedStatus)
      (auditId : Uuid) (t t' t'' : Nat) :
      Committed (.transitionJob context jobId expectedStatus targetStatus actorId)
        [⟨.jobs, some job, { job with status := targetStatus, updatedAt := t }⟩,
          ⟨.runs, some run, { run with status := targetStatus, updatedAt := t' }⟩,
          ⟨.auditEvents, none, audit context auditId transitionedEvent jobResource jobId actorId
            (.transition expectedStatus targetStatus run.id) t''⟩]
  | reserveRetry {context : TenantContext} {jobId : Uuid} {expectedAttemptNumber : Int}
      {actorId : Option Uuid} {job : ExecutionJob}
      (jobIs : job.id = jobId ∧ job.tenantId = context.tenantId ∧ job.status = .failed)
      {prior : ExecutionRun} (priorIs : prior.jobId = jobId ∧ prior.tenantId = context.tenantId ∧
        prior.attemptNumber = expectedAttemptNumber)
      (runId auditId : Uuid) (t t' t'' : Nat) :
      Committed (.reserveRetry context jobId expectedAttemptNumber actorId)
        [⟨.jobs, some job, { job with status := .queued, updatedAt := t }⟩,
          ⟨.runs, none, nextRun context runId jobId prior t'⟩,
          ⟨.auditEvents, none, audit context auditId retryReservedEvent jobResource jobId actorId
            (.retry prior.id runId prior.attemptNumber (prior.attemptNumber + 1)) t''⟩]
  | createProposal {context : TenantContext} {request : ProposalRequest}
      (proposalId auditId : Uuid) (t t' : Nat) :
      Committed (.createProposal context request)
        [⟨.proposals, none, newProposal context proposalId request t⟩,
          ⟨.auditEvents, none, audit context auditId "action_proposal.created" proposalResource
            proposalId none .empty t'⟩]
  | decideProposal {context : TenantContext} {proposalId : Uuid}
      {decision : ApprovalDecisionValue} {decidedBy : Uuid} {reason : Option String}
      {proposal : ActionProposal}
      (proposalIs : proposal.id = proposalId ∧ proposal.tenantId = context.tenantId ∧
        proposal.status = .awaitingApproval)
      (recordId auditId : Uuid) (t t' t'' : Nat) :
      Committed (.decideProposal context proposalId decision decidedBy reason)
        [⟨.proposals, some proposal,
            { proposal with status := decidedStatus decision, updatedAt := t }⟩,
          ⟨.decisions, none,
            ⟨recordId, context.tenantId, proposalId, decision, decidedBy, reason, t'⟩⟩,
          ⟨.auditEvents, none, audit context auditId (decidedEvent decision) proposalResource
            proposalId (some decidedBy) (.decision recordId) t''⟩]

/-- A written row is in the database, or a later version of it. -/
def Kept : Write schema → Database schema → Prop
  | ⟨.jobs, _, job⟩, d => ∃ job' ∈ d .jobs, LaterJob job job'
  | ⟨.runs, _, run⟩, d => ∃ run' ∈ d .runs, LaterRun run run'
  | ⟨.proposals, _, proposal⟩, d => ∃ proposal' ∈ d .proposals, LaterProposal proposal proposal'
  | ⟨.decisions, _, decision⟩, d => decision ∈ d .decisions
  | ⟨.auditEvents, _, event⟩, d => event ∈ d .auditEvents
  | _, _ => True

/-- The response repeats an earlier one. -/
def Response.replayed : Request → Response → Prop
  | .createJob _ _, .job result => result.created = false
  | _, _ => False

/-- The job has this tenant and idempotency key. -/
def HasKey (context : TenantContext) (idempotencyKey : String) (job : ExecutionJob) : Prop :=
  job.tenantId = context.tenantId ∧ job.idempotencyKey = idempotencyKey

/-- The job was created by a request with these arguments. -/
def CreatedBy (d : Database schema) (job : ExecutionJob) (request : JobRequest) : Prop :=
  job.workspaceId = request.workspaceId ∧ job.kind = request.kind ∧
    ∀ run ∈ runsOf d job.id, run.maxAttempts = request.maxAttempts ∧
      run.retryDelaySeconds = request.retryDelaySeconds

/-- The answer to a `create_job` when the job exists: the job itself if the arguments are the same,
and a conflict otherwise. -/
inductive ReplayOf (d : Database schema) (job : ExecutionJob) (request : JobRequest) :
    Except ServiceError Response → Prop where
  | same (created : CreatedBy d job request) {result : JobResult} (id : result.job.id = job.id)
      (notCreated : result.created = false) : ReplayOf d job request (.ok (.job result))
  | conflict (created : ¬ CreatedBy d job request) : ReplayOf d job request (.error .conflict)
  | failed : ReplayOf d job request (.error (.database .operational))

/-- The contract of a request. `arrived` is the committed database when it arrived. -/
structure Answered (request : Request) (arrived : Database schema)
    (result : Except ServiceError Response) (s : Session schema) : Prop where
  seen : Invariant s.seen
  known : ∀ d ∈ arrived :: s.refused, Invariant d ∧ Evolves d s.seen
  written : s.written = [] ∨ Committed request s.written
  kept : ∀ w ∈ s.written, Kept w s.seen
  success : ∀ response, result = .ok response → (s.written = [] ↔ response.replayed request)
  error : ∀ e, result = .error e → s.written = [] ∨ e = .database .operational
  failed : result = .error (.database .operational) → s.failed = true
  replay : ∀ context jobRequest, request = .createJob context jobRequest →
    ∀ d ∈ arrived :: s.refused, ∀ job ∈ d .jobs, HasKey context jobRequest.idempotencyKey job →
      s.written = [] ∧ ReplayOf d job jobRequest result
  late : ∀ context jobRequest, request = .createJob context jobRequest → s.written = [] →
    result ≠ .error .notFound → ∀ job ∈ s.seen .jobs,
      HasKey context jobRequest.idempotencyKey job → ReplayOf s.seen job jobRequest result

end GrowthOs.Execution
