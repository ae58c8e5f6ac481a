import GrowthOs.Execution.Service
import GrowthOs.Library.Interleaving
import Mathlib.Data.Set.Insert

/-!
# The invariant of jobs, runs, proposals and their history

`JobOk` ties a job to its runs and to its audit events, and `ProposalOk` a proposal to its
decisions. `Invariant` asks both of the whole database. `Evolves` says what no transaction ever
undoes: identifying columns, final statuses, decisions and audit events stay.
-/

namespace GrowthOs.Execution

open Library Db

/-- The runs of a job. -/
def runsOf (d : Database schema) (jobId : Uuid) : Set ExecutionRun :=
  {run | run ∈ d .runs ∧ run.jobId = jobId}

/-- An audit event about this job. -/
def isJobEvent (jobId : Uuid) (event : AuditEvent) : Bool :=
  event.resourceType = jobResource && event.resourceId = jobId

/-- The audit events of a job in the order of their commits. -/
def eventsOf (d : Database schema) (jobId : Uuid) : List AuditEvent :=
  (d .auditEvents).filter (isJobEvent jobId)

/-- The job has the attempts 1 to `n`, each once. The last one has the status of the job, the
others have failed, and all carry the tenant of the job and the same limits. -/
structure Attempts (runs : Set ExecutionRun) (job : ExecutionJob) (n : Int) : Prop where
  pos : 1 ≤ n
  numbers : ∀ k, (∃ run ∈ runs, run.attemptNumber = k) ↔ 1 ≤ k ∧ k ≤ n
  unique : ∀ run ∈ runs, ∀ run' ∈ runs, run.attemptNumber = run'.attemptNumber → run = run'
  latest : ∀ run ∈ runs, run.attemptNumber = n → run.status = job.status
  earlier : ∀ run ∈ runs, run.attemptNumber ≠ n → run.status = .failed
  tenant : ∀ run ∈ runs, run.tenantId = job.tenantId
  limits : ∀ run ∈ runs, ∀ run' ∈ runs, run.maxAttempts = run'.maxAttempts ∧
    run.retryDelaySeconds = run'.retryDelaySeconds

/-- An event ends a visit of a status at an attempt and starts the next one. It is a transition or
a retry, and it names the run of the attempt. -/
inductive Ends (runs : Set ExecutionRun) (event : AuditEvent) :
    ExecutionStatus → Int → ExecutionStatus → Int → Prop where
  | transitioned {prior target : ExecutionStatus} {k : Int} {runId : Uuid}
      (type : event.eventType = transitionedEvent)
      (details : event.details = .transition prior target runId)
      (current : ∃ r ∈ runs, r.id = runId ∧ r.attemptNumber = k)
      (allowed : target ∈ allowedTransitions prior) : Ends runs event prior k target k
  | retried {k : Int} {priorId newId : Uuid} (type : event.eventType = retryReservedEvent)
      (details : event.details = .retry priorId newId k (k + 1))
      (current : ∃ r ∈ runs, r.id = priorId ∧ r.attemptNumber = k)
      (next : ∃ r ∈ runs, r.id = newId ∧ r.attemptNumber = k + 1) :
      Ends runs event .failed k .queued (k + 1)

/-- The events of a job replay to a status and an attempt: a creation, then events each of which
ends the visit that the previous one has started. -/
inductive Replays (runs : Set ExecutionRun) :
    List AuditEvent → ExecutionStatus → Int → Prop where
  | created {event : AuditEvent} (type : event.eventType = createdEvent) :
      Replays runs [event] .queued 1
  | next {events : List AuditEvent} {status status' : ExecutionStatus} {k k' : Int}
      {event : AuditEvent} (before : Replays runs events status k)
      (ends : Ends runs event status k status' k') : Replays runs (events ++ [event]) status' k'

/-- A job agrees with its runs and its history. -/
def JobOk (runs : Set ExecutionRun) (events : List AuditEvent) (job : ExecutionJob) : Prop :=
  ∃ n, Attempts runs job n ∧ Replays runs events job.status n

/-- The set of runs after a run is written. -/
def putRun (runs : Set ExecutionRun) (run : ExecutionRun) : Set ExecutionRun :=
  {r | r = run ∨ (r ∈ runs ∧ r.id ≠ run.id)}

/-- `runs'` has every run of `runs` with the same identifier and attempt number. -/
def KeepsAttempts (runs runs' : Set ExecutionRun) : Prop :=
  ∀ r ∈ runs, ∃ r' ∈ runs', r'.id = r.id ∧ r'.attemptNumber = r.attemptNumber

/-- An event ends alike when attempts are added. -/
theorem Ends.mono {runs runs' : Set ExecutionRun} (hkeeps : KeepsAttempts runs runs')
    {event : AuditEvent} {status status' : ExecutionStatus} {k k' : Int}
    (h : Ends runs event status k status' k') : Ends runs' event status k status' k' := by
  have hcurrent : ∀ {id : Uuid} {k : Int}, (∃ r ∈ runs, r.id = id ∧ r.attemptNumber = k) →
      ∃ r ∈ runs', r.id = id ∧ r.attemptNumber = k := by
    rintro id k ⟨r, hr, rfl, rfl⟩
    exact hkeeps r hr
  cases h with
  | transitioned type details current allowed =>
      exact .transitioned type details (hcurrent current) allowed
  | retried type details current next =>
      exact .retried type details (hcurrent current) (hcurrent next)

/-- So does a replay of events. -/
theorem Replays.mono {runs runs' : Set ExecutionRun} (hkeeps : KeepsAttempts runs runs')
    {events : List AuditEvent} {status : ExecutionStatus} {n : Int}
    (h : Replays runs events status n) : Replays runs' events status n := by
  induction h with
  | created type => exact .created type
  | next _ ends ih => exact .next ih (ends.mono hkeeps)

/-- A run whose status is not failed is the latest one, and has the status of the job. -/
theorem Attempts.eq_latest {runs : Set ExecutionRun} {job : ExecutionJob} {n : Int}
    (h : Attempts runs job n) {run : ExecutionRun} (hrun : run ∈ runs)
    (hstatus : run.status ≠ .failed) : run.attemptNumber = n := by
  by_contra hne
  exact hstatus (h.earlier run hrun hne)

/-- A run that changes no identifying column. -/
structure SameAttempt (run run' : ExecutionRun) : Prop where
  id : run'.id = run.id
  tenantId : run'.tenantId = run.tenantId
  jobId : run'.jobId = run.jobId
  attemptNumber : run'.attemptNumber = run.attemptNumber
  maxAttempts : run'.maxAttempts = run.maxAttempts
  retryDelaySeconds : run'.retryDelaySeconds = run.retryDelaySeconds

/-- Every run after the update of one run comes from a run before it. -/
theorem put_run_source {runs : Set ExecutionRun} {run run' : ExecutionRun} (hrun : run ∈ runs)
    (hsame : SameAttempt run run') {r : ExecutionRun} (hr : r ∈ putRun runs run') :
    ∃ source ∈ runs, SameAttempt source r ∧
      (r = run' ∧ source = run ∨ r = source ∧ r.id ≠ run.id) := by
  rcases hr with rfl | ⟨hr, hne⟩
  · exact ⟨run, hrun, hsame, Or.inl ⟨rfl, rfl⟩⟩
  · rw [hsame.id] at hne
    exact ⟨r, hr, ⟨rfl, rfl, rfl, rfl, rfl, rfl⟩, Or.inr ⟨rfl, hne⟩⟩

/-- The update of a run keeps every attempt. -/
theorem keeps_attempts_put_run {runs : Set ExecutionRun} {run run' : ExecutionRun}
    (hids : ∀ r ∈ runs, r.id = run.id → r = run) (hsame : SameAttempt run run') :
    KeepsAttempts runs (putRun runs run') := by
  intro r hr
  by_cases hid : r.id = run.id
  · rw [hids r hr hid]
    exact ⟨run', Or.inl rfl, hsame.id, hsame.attemptNumber⟩
  · exact ⟨r, Or.inr ⟨hr, hsame.id ▸ hid⟩, rfl, rfl⟩

/-- The transaction of `transition_job` keeps a job in agreement. -/
theorem job_ok_transition {runs : Set ExecutionRun} {events : List AuditEvent}
    {job job' : ExecutionJob} {run run' : ExecutionRun} {event : AuditEvent}
    {prior target : ExecutionStatus} (h : JobOk runs events job) (hrun : run ∈ runs)
    (hids : ∀ r ∈ runs, r.id = run.id → r = run) (hjobStatus : job.status = prior)
    (hrunStatus : run.status = prior) (hallowed : target ∈ allowedTransitions prior)
    (htenant : job'.tenantId = job.tenantId) (hjob' : job'.status = target)
    (hsame : SameAttempt run run') (hrun' : run'.status = target)
    (htype : event.eventType = transitionedEvent)
    (hdetails : event.details = .transition prior target run.id) :
    JobOk (putRun runs run') (events ++ [event]) job' := by
  obtain ⟨n, hattempts, hreplays⟩ := h
  have hkeeps := keeps_attempts_put_run hids hsame
  -- A failed run has no transition, and every run but the last has failed, so this is the last one.
  have hprior : prior ≠ .failed := by
    rintro rfl
    simp [allowedTransitions] at hallowed
  have hn : run.attemptNumber = n := hattempts.eq_latest hrun (hrunStatus ▸ hprior)
  refine ⟨n, ⟨hattempts.pos, ?_, ?_, ?_, ?_, ?_, ?_⟩, ?_⟩
  · intro k
    rw [← hattempts.numbers k]
    constructor
    · rintro ⟨r, hr, rfl⟩
      obtain ⟨source, hsource, hsames, -⟩ := put_run_source hrun hsame hr
      exact ⟨source, hsource, hsames.attemptNumber.symm⟩
    · rintro ⟨r, hr, rfl⟩
      obtain ⟨r', hr', -, hnumber⟩ := hkeeps r hr
      exact ⟨r', hr', hnumber⟩
  · intro r hr r' hr' heq
    obtain ⟨source, hsource, hsames, hcase⟩ := put_run_source hrun hsame hr
    obtain ⟨source', hsource', hsames', hcase'⟩ := put_run_source hrun hsame hr'
    have hsources : source = source' := hattempts.unique source hsource source' hsource' (by
      rw [← hsames.attemptNumber, ← hsames'.attemptNumber, heq])
    subst hsources
    rcases hcase with ⟨rfl, rfl⟩ | ⟨rfl, hne⟩
    · rcases hcase' with ⟨rfl, -⟩ | ⟨rfl, hne'⟩
      · rfl
      · exact absurd rfl hne'
    · rcases hcase' with ⟨rfl, rfl⟩ | ⟨rfl, -⟩
      · exact absurd rfl hne
      · rfl
  · intro r hr hnumber
    obtain ⟨source, hsource, hsames, hcase⟩ := put_run_source hrun hsame hr
    rcases hcase with ⟨rfl, -⟩ | ⟨rfl, hne⟩
    · rw [hrun', hjob']
    · have heq := hattempts.unique r hsource run hrun (by rw [hnumber, hn])
      exact absurd (congrArg ExecutionRun.id heq) hne
  · intro r hr hnumber
    obtain ⟨source, hsource, hsames, hcase⟩ := put_run_source hrun hsame hr
    rcases hcase with ⟨rfl, rfl⟩ | ⟨rfl, -⟩
    · exact absurd (hsames.attemptNumber.trans hn) hnumber
    · exact hattempts.earlier r hsource hnumber
  · intro r hr
    obtain ⟨source, hsource, hsames, -⟩ := put_run_source hrun hsame hr
    rw [hsames.tenantId, htenant]
    exact hattempts.tenant source hsource
  · intro r hr r' hr'
    obtain ⟨source, hsource, hsames, -⟩ := put_run_source hrun hsame hr
    obtain ⟨source', hsource', hsames', -⟩ := put_run_source hrun hsame hr'
    rw [hsames.maxAttempts, hsames.retryDelaySeconds, hsames'.maxAttempts,
      hsames'.retryDelaySeconds]
    exact hattempts.limits source hsource source' hsource'
  · rw [hjob']
    rw [hjobStatus] at hreplays
    obtain ⟨r, hr, hid, hnumber⟩ := hkeeps run hrun
    exact .next (hreplays.mono hkeeps)
      (.transitioned htype hdetails ⟨r, hr, hid, hnumber.trans hn⟩ hallowed)

/-- The transaction of `reserve_retry` keeps a job in agreement. The attempt that it inserts does
not exist yet, so the attempt before it is the latest. -/
theorem job_ok_retry {runs : Set ExecutionRun} {events : List AuditEvent} {job job' : ExecutionJob}
    {prior run : ExecutionRun} {event : AuditEvent} (h : JobOk runs events job)
    (hprior : prior ∈ runs) (hstatus : job.status = .failed)
    (hid : ∀ r ∈ runs, r.id ≠ run.id)
    (hnew : ∀ r ∈ runs, r.attemptNumber ≠ run.attemptNumber)
    (htenant : job'.tenantId = job.tenantId) (hjob' : job'.status = .queued)
    (hrun : run.status = .queued) (hrunTenant : run.tenantId = job.tenantId)
    (hnumber : run.attemptNumber = prior.attemptNumber + 1)
    (hlimits : run.maxAttempts = prior.maxAttempts ∧
      run.retryDelaySeconds = prior.retryDelaySeconds)
    (htype : event.eventType = retryReservedEvent)
    (hdetails : event.details =
      .retry prior.id run.id prior.attemptNumber (prior.attemptNumber + 1)) :
    JobOk (putRun runs run) (events ++ [event]) job' := by
  obtain ⟨n, hattempts, hreplays⟩ := h
  have hput : ∀ r, r ∈ putRun runs run ↔ r = run ∨ r ∈ runs := fun r => by
    constructor
    · rintro (rfl | ⟨hr, -⟩)
      · exact Or.inl rfl
      · exact Or.inr hr
    · rintro (rfl | hr)
      · exact Or.inl rfl
      · exact Or.inr ⟨hr, hid r hr⟩
  -- The new attempt number was free, so the prior run is the last one.
  have hn : prior.attemptNumber = n := by
    have hrange := (hattempts.numbers prior.attemptNumber).mp ⟨prior, hprior, rfl⟩
    by_contra hne
    obtain ⟨r, hr, heq⟩ := (hattempts.numbers (prior.attemptNumber + 1)).mpr (by omega)
    exact hnew r hr (heq.trans hnumber.symm)
  have hbound : ∀ r ∈ runs, 1 ≤ r.attemptNumber ∧ r.attemptNumber ≤ n := fun r hr =>
    (hattempts.numbers r.attemptNumber).mp ⟨r, hr, rfl⟩
  have hkeeps : KeepsAttempts runs (putRun runs run) := fun r hr =>
    ⟨r, (hput r).mpr (Or.inr hr), rfl, rfl⟩
  -- The last run carries the status of the job, which is failed; the earlier ones failed before.
  have hfailed : ∀ r ∈ runs, r.status = .failed := fun r hr => by
    by_cases hlast : r.attemptNumber = n
    · rw [hattempts.latest r hr hlast, hstatus]
    · exact hattempts.earlier r hr hlast
  have hpos := hattempts.pos
  refine ⟨n + 1, ⟨by omega, ?_, ?_, ?_, ?_, ?_, ?_⟩, ?_⟩
  · intro k
    constructor
    · rintro ⟨r, hr, rfl⟩
      rcases (hput r).mp hr with rfl | hr
      · omega
      · have := hbound r hr
        omega
    · intro hk
      by_cases hlast : k = n + 1
      · exact ⟨run, (hput run).mpr (Or.inl rfl), by omega⟩
      · obtain ⟨r, hr, heq⟩ := (hattempts.numbers k).mpr (by omega)
        exact ⟨r, (hput r).mpr (Or.inr hr), heq⟩
  · intro r hr r' hr' heq
    rcases (hput r).mp hr with hr | hr
    · rcases (hput r').mp hr' with hr' | hr'
      · rw [hr, hr']
      · exact absurd (heq.symm.trans (congrArg _ hr)) (hnew r' hr')
    · rcases (hput r').mp hr' with hr' | hr'
      · exact absurd (heq.trans (congrArg _ hr')) (hnew r hr)
      · exact hattempts.unique r hr r' hr' heq
  · intro r hr hlast
    rcases (hput r).mp hr with rfl | hr
    · rw [hrun, hjob']
    · have := hbound r hr
      omega
  · intro r hr hlast
    rcases (hput r).mp hr with rfl | hr
    · omega
    · exact hfailed r hr
  · intro r hr
    rw [htenant]
    rcases (hput r).mp hr with rfl | hr
    · exact hrunTenant
    · exact hattempts.tenant r hr
  · -- The new run copies the limits of the prior one.
    have hprior' : ∀ r ∈ putRun runs run, r.maxAttempts = prior.maxAttempts ∧
        r.retryDelaySeconds = prior.retryDelaySeconds := fun r hr => by
      rcases (hput r).mp hr with rfl | hr
      · exact hlimits
      · exact hattempts.limits r hr prior hprior
    intro r hr r' hr'
    have h1 := hprior' r hr
    have h2 := hprior' r' hr'
    exact ⟨h1.1.trans h2.1.symm, h1.2.trans h2.2.symm⟩
  · rw [hjob']
    rw [hstatus] at hreplays
    rw [hn] at hdetails
    exact .next (hreplays.mono hkeeps) (.retried htype hdetails
      ⟨prior, (hput prior).mpr (Or.inr hprior), rfl, hn⟩
      ⟨run, (hput run).mpr (Or.inl rfl), rfl, by omega⟩)

/-- The transaction of `create_job` starts a job in agreement. -/
theorem job_ok_create {job : ExecutionJob} {run : ExecutionRun} {event : AuditEvent}
    (hjob : job.status = .queued) (hrun : run.status = .queued)
    (htenant : run.tenantId = job.tenantId) (hnumber : run.attemptNumber = 1)
    (htype : event.eventType = createdEvent) : JobOk {run} [event] job := by
  refine ⟨1, ⟨le_refl _, ?_, ?_, ?_, ?_, ?_, ?_⟩, ?_⟩
  · intro k
    simp only [Set.mem_singleton_iff, exists_eq_left, hnumber]
    omega
  · rintro r rfl r' rfl -
    rfl
  · rintro r rfl -
    rw [hrun, hjob]
  · rintro r rfl hne
    exact absurd hnumber hne
  · rintro r rfl
    exact htenant
  · rintro r rfl r' rfl
    exact ⟨rfl, rfl⟩
  · rw [hjob]
    exact .created htype

/-- The decisions on a proposal. -/
def decisionsOf (d : Database schema) (proposalId : Uuid) : Set ApprovalDecision :=
  {decision | decision ∈ d .decisions ∧ decision.proposalId = proposalId}

/-- A proposal that needs no approval is approved without a decision. One that needs approval has
left the awaiting status if and only if it has a decision, which then says its status. -/
structure ProposalOk (decisions : Set ApprovalDecision) (proposal : ActionProposal) : Prop where
  exempt : proposal.requiresApproval = false →
    proposal.status = .approved ∧ ∀ decision, decision ∉ decisions
  decided : ∀ decision ∈ decisions, proposal.status = decidedStatus decision.decision
  awaiting : proposal.requiresApproval = true → proposal.status ≠ .awaitingApproval →
    ∃ decision, decision ∈ decisions
  tenant : ∀ decision ∈ decisions, decision.tenantId = proposal.tenantId

/-- A decision is never to wait. -/
theorem decided_status_ne_awaiting (decision : ApprovalDecisionValue) :
    decidedStatus decision ≠ .awaitingApproval := by
  cases decision <;> decide

/-- The transaction of `create_proposal` starts a proposal in agreement. -/
theorem proposal_ok_create (context : TenantContext) (id : Uuid) (request : ProposalRequest)
    (time : Nat) {decisions : Set ApprovalDecision} (hnone : ∀ decision, decision ∉ decisions) :
    ProposalOk decisions (newProposal context id request time) := by
  refine ⟨?_, fun decision h => absurd h (hnone decision), ?_, fun decision h =>
    absurd h (hnone decision)⟩
  · intro hexempt
    replace hexempt : request.requiresApproval = false := hexempt
    exact ⟨by simp [newProposal, hexempt], hnone⟩
  · intro hrequires hstatus
    replace hrequires : request.requiresApproval = true := hrequires
    exact absurd (by simp [newProposal, hrequires]) hstatus

/-! ## The database -/

/-- Jobs agree with their runs and events, proposals with their decisions, and none of these rows
stands alone. -/
structure Invariant (d : Database schema) : Prop where
  runs : ∀ run ∈ d .runs, ∃ job ∈ d .jobs, job.id = run.jobId
  events : ∀ event ∈ d .auditEvents, event.resourceType = jobResource →
    ∃ job ∈ d .jobs, job.id = event.resourceId
  jobs : ∀ job ∈ d .jobs, JobOk (runsOf d job.id) (eventsOf d job.id) job
  decisions : ∀ decision ∈ d .decisions, ∃ proposal ∈ d .proposals,
    proposal.id = decision.proposalId
  proposals : ∀ proposal ∈ d .proposals, ProposalOk (decisionsOf d proposal.id) proposal

/-- Every row has a later version that `R` relates to it. -/
def Carried {α : Type} (R : α → α → Prop) (rows rows' : List α) : Prop :=
  ∀ row ∈ rows, ∃ row' ∈ rows', R row row'

/-- Rows are carried to themselves. -/
theorem carried_refl {α : Type} {R : α → α → Prop} (hrefl : ∀ row, R row row) (rows : List α) :
    Carried R rows rows :=
  fun row hrow => ⟨row, hrow, hrefl row⟩

/-- They are carried on. -/
theorem carried_trans {α : Type} {R : α → α → Prop} {rows rows' rows'' : List α}
    (h : Carried R rows rows') (h' : Carried R rows' rows'')
    (htrans : ∀ row row' row'', R row row' → R row' row'' → R row row'') :
    Carried R rows rows'' := by
  intro row hrow
  obtain ⟨row', hrow', hR⟩ := h row hrow
  obtain ⟨row'', hrow'', hR'⟩ := h' row' hrow'
  exact ⟨row'', hrow'', htrans row row' row'' hR hR'⟩

/-- A row is carried by the write that replaces it, or stays. -/
theorem carried_put {α : Type} {R : α → α → Prop} (hrefl : ∀ row, R row row) {key : α → Uuid}
    {rows rows' : List α} {new : α}
    (hput : ∀ row, row ∈ rows' ↔ row = new ∨ (row ∈ rows ∧ key row ≠ key new))
    (hnew : ∀ row ∈ rows, key row = key new → R row new) : Carried R rows rows' := by
  intro row hrow
  by_cases hkey : key row = key new
  · exact ⟨new, (hput new).mpr (Or.inl rfl), hnew row hrow hkey⟩
  · exact ⟨row, (hput row).mpr (Or.inr ⟨hrow, hkey⟩), hrefl row⟩

/-- The statuses that neither a transition nor a retry leaves. -/
def finalStatuses : List ExecutionStatus := [.rejected, .succeeded, .cancelled]

/-- A later version of a job. -/
structure LaterJob (job job' : ExecutionJob) : Prop where
  id : job'.id = job.id
  tenantId : job'.tenantId = job.tenantId
  workspaceId : job'.workspaceId = job.workspaceId
  kind : job'.kind = job.kind
  idempotencyKey : job'.idempotencyKey = job.idempotencyKey
  final : job.status ∈ finalStatuses → job'.status = job.status

/-- A later version of a run. -/
structure LaterRun (run run' : ExecutionRun) : Prop extends SameAttempt run run' where
  terminal : run.status ∈ terminalStatuses → run'.status = run.status

/-- A later version of a proposal. -/
structure LaterProposal (proposal proposal' : ActionProposal) : Prop where
  id : proposal'.id = proposal.id
  tenantId : proposal'.tenantId = proposal.tenantId
  requiresApproval : proposal'.requiresApproval = proposal.requiresApproval
  final : proposal.status ≠ .awaitingApproval → proposal'.status = proposal.status

/-- A job is later than itself. -/
theorem LaterJob.refl (job : ExecutionJob) : LaterJob job job :=
  ⟨rfl, rfl, rfl, rfl, rfl, fun _ => rfl⟩

/-- A later job of a later one. -/
theorem LaterJob.trans {job job' job'' : ExecutionJob} (h : LaterJob job job')
    (h' : LaterJob job' job'') : LaterJob job job'' := by
  refine ⟨h'.id.trans h.id, h'.tenantId.trans h.tenantId, h'.workspaceId.trans h.workspaceId,
    h'.kind.trans h.kind, h'.idempotencyKey.trans h.idempotencyKey, fun hfinal => ?_⟩
  have hsame := h.final hfinal
  rw [h'.final (hsame ▸ hfinal), hsame]

/-- A run is of its own attempt. -/
theorem SameAttempt.refl (run : ExecutionRun) : SameAttempt run run :=
  ⟨rfl, rfl, rfl, rfl, rfl, rfl⟩

/-- Three runs of one attempt. -/
theorem SameAttempt.trans {run run' run'' : ExecutionRun} (h : SameAttempt run run')
    (h' : SameAttempt run' run'') : SameAttempt run run'' :=
  ⟨h'.id.trans h.id, h'.tenantId.trans h.tenantId, h'.jobId.trans h.jobId,
    h'.attemptNumber.trans h.attemptNumber, h'.maxAttempts.trans h.maxAttempts,
    h'.retryDelaySeconds.trans h.retryDelaySeconds⟩

/-- A run is later than itself. -/
theorem LaterRun.refl (run : ExecutionRun) : LaterRun run run := ⟨.refl run, fun _ => rfl⟩

/-- A later run of a later one. -/
theorem LaterRun.trans {run run' run'' : ExecutionRun} (h : LaterRun run run')
    (h' : LaterRun run' run'') : LaterRun run run'' := by
  refine ⟨h.toSameAttempt.trans h'.toSameAttempt, fun hterminal => ?_⟩
  have hsame := h.terminal hterminal
  rw [h'.terminal (hsame ▸ hterminal), hsame]

/-- A proposal is later than itself. -/
theorem LaterProposal.refl (proposal : ActionProposal) : LaterProposal proposal proposal :=
  ⟨rfl, rfl, rfl, fun _ => rfl⟩

/-- A later proposal of a later one. -/
theorem LaterProposal.trans {proposal proposal' proposal'' : ActionProposal}
    (h : LaterProposal proposal proposal') (h' : LaterProposal proposal' proposal'') :
    LaterProposal proposal proposal'' := by
  refine ⟨h'.id.trans h.id, h'.tenantId.trans h.tenantId,
    h'.requiresApproval.trans h.requiresApproval, fun hfinal => ?_⟩
  have hsame := h.final hfinal
  rw [h'.final (hsame ▸ hfinal), hsame]

/-- What no transaction undoes. -/
structure Evolves (d d' : Database schema) : Prop where
  jobs : Carried LaterJob (d .jobs) (d' .jobs)
  runs : Carried LaterRun (d .runs) (d' .runs)
  proposals : Carried LaterProposal (d .proposals) (d' .proposals)
  decisions : d .decisions <+: d' .decisions
  auditEvents : d .auditEvents <+: d' .auditEvents

/-- A database evolves into itself. -/
theorem Evolves.refl (d : Database schema) : Evolves d d :=
  ⟨carried_refl LaterJob.refl _, carried_refl LaterRun.refl _, carried_refl LaterProposal.refl _,
    List.prefix_rfl, List.prefix_rfl⟩

/-- It evolves on. -/
theorem Evolves.trans {d d' d'' : Database schema} (h : Evolves d d') (h' : Evolves d' d'') :
    Evolves d d'' :=
  ⟨carried_trans h.jobs h'.jobs fun _ _ _ => LaterJob.trans, carried_trans h.runs h'.runs
    fun _ _ _ => LaterRun.trans,
    carried_trans h.proposals h'.proposals fun _ _ _ => LaterProposal.trans,
    h.decisions.trans h'.decisions, h.auditEvents.trans h'.auditEvents⟩

/-- The rules of the execution operations. -/
def executionRules : Rules schema := ⟨Invariant, Evolves, Evolves.refl, Evolves.trans⟩

end GrowthOs.Execution
