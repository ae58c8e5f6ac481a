import GrowthOs.Execution.Invariant

/-!
# The transactions of the execution service

Every operation on jobs writes one job, one run and one audit event, and every operation on
proposals one proposal, at most one decision, and one audit event. Such a transaction keeps the
invariant of the database when the job or the proposal that it writes agrees with its new rows.

The `commit` theorems take the pending writes of an operation at its commit. The database may have
evolved since the operation read it: what they use of it is what the pending writes guarantee.
-/

namespace GrowthOs.Execution

open Library Db

/-- The rows of a table after one row is written. -/
def Puts (t : Table) (d d' : Database schema) (new : t.Row) : Prop :=
  ∀ row, row ∈ d' t ↔ row = new ∨ (row ∈ d t ∧ rowId row ≠ rowId new)

section Jobs

variable {d d' : Database schema} {job : ExecutionJob} {run : ExecutionRun} {event : AuditEvent}

/-- The runs of the written job. -/
theorem runs_of_written (hruns : Puts .runs d d' run) (hrun : run.jobId = job.id) :
    runsOf d' job.id = putRun (runsOf d job.id) run := by
  ext r
  show (r ∈ d' .runs ∧ r.jobId = job.id) ↔
    r = run ∨ ((r ∈ d .runs ∧ r.jobId = job.id) ∧ r.id ≠ run.id)
  rw [hruns r]
  constructor
  · rintro ⟨rfl | ⟨hr, hne⟩, hjob⟩
    · exact Or.inl rfl
    · exact Or.inr ⟨⟨hr, hjob⟩, hne⟩
  · rintro (rfl | ⟨⟨hr, hjob⟩, hne⟩)
    · exact ⟨Or.inl rfl, hrun⟩
    · exact ⟨Or.inr ⟨hr, hne⟩, hjob⟩

/-- The runs of another job. -/
theorem runs_of_other (hruns : Puts .runs d d' run) (hrun : run.jobId = job.id)
    (hown : ∀ r ∈ d .runs, r.id = run.id → r.jobId = job.id) {jobId : Uuid}
    (hne : jobId ≠ job.id) : runsOf d' jobId = runsOf d jobId := by
  ext r
  show (r ∈ d' .runs ∧ r.jobId = jobId) ↔ (r ∈ d .runs ∧ r.jobId = jobId)
  rw [hruns r]
  constructor
  · rintro ⟨rfl | ⟨hr, -⟩, rfl⟩
    · exact absurd hrun hne
    · exact ⟨hr, rfl⟩
  · rintro ⟨hr, rfl⟩
    exact ⟨Or.inr ⟨hr, fun hid => hne (hown r hr hid)⟩, rfl⟩

/-- The events of the written job. -/
theorem events_of_written (haudit : d' .auditEvents = d .auditEvents ++ [event])
    (htype : event.resourceType = jobResource) (hresource : event.resourceId = job.id) :
    eventsOf d' job.id = eventsOf d job.id ++ [event] := by
  unfold eventsOf
  rw [haudit, List.filter_append]
  simp [isJobEvent, htype, hresource]

/-- The events of another job. -/
theorem events_of_other (haudit : d' .auditEvents = d .auditEvents ++ [event]) {jobId : Uuid}
    (hother : isJobEvent jobId event = false) : eventsOf d' jobId = eventsOf d jobId := by
  unfold eventsOf
  rw [haudit, List.filter_append]
  simp [hother]

/-- A transaction on a job keeps the invariant. -/
theorem invariant_of_job (hd : Invariant d) (hjobs : Puts .jobs d d' job)
    (hruns : Puts .runs d d' run) (haudit : d' .auditEvents = d .auditEvents ++ [event])
    (hproposals : d' .proposals = d .proposals) (hdecisions : d' .decisions = d .decisions)
    (hrun : run.jobId = job.id) (htype : event.resourceType = jobResource)
    (hresource : event.resourceId = job.id)
    (hown : ∀ r ∈ d .runs, r.id = run.id → r.jobId = job.id)
    (hok : JobOk (putRun (runsOf d job.id) run) (eventsOf d job.id ++ [event]) job) :
    Invariant d' := by
  have hkept : ∀ {id : Uuid}, (∃ j ∈ d .jobs, j.id = id) → ∃ j ∈ d' .jobs, j.id = id := by
    rintro id ⟨j, hj, rfl⟩
    by_cases hid : j.id = job.id
    · exact ⟨job, (hjobs job).mpr (Or.inl rfl), hid.symm⟩
    · exact ⟨j, (hjobs j).mpr (Or.inr ⟨hj, hid⟩), rfl⟩
  refine ⟨?_, ?_, ?_, ?_, ?_⟩
  · intro r hr
    rcases (hruns r).mp hr with rfl | ⟨hr, -⟩
    · exact ⟨job, (hjobs job).mpr (Or.inl rfl), hrun.symm⟩
    · exact hkept (hd.runs r hr)
  · intro e he hjobEvent
    rw [haudit, List.mem_append, List.mem_singleton] at he
    rcases he with he | rfl
    · exact hkept (hd.events e he hjobEvent)
    · exact ⟨job, (hjobs job).mpr (Or.inl rfl), hresource.symm⟩
  · intro j hj
    rcases (hjobs j).mp hj with rfl | ⟨hj, hne⟩
    · rw [runs_of_written hruns hrun, events_of_written haudit htype hresource]
      exact hok
    · replace hne : j.id ≠ job.id := hne
      have hother : isJobEvent j.id event = false := by
        simp only [isJobEvent, htype, hresource, decide_true, Bool.true_and,
          decide_eq_false_iff_not]
        exact fun heq => hne heq.symm
      rw [runs_of_other hruns hrun hown hne, events_of_other haudit hother]
      exact hd.jobs j hj
  · rw [hproposals, hdecisions]
    exact hd.decisions
  · unfold decisionsOf
    rw [hproposals, hdecisions]
    exact hd.proposals

/-- A transaction on a job evolves the database when it writes later versions. -/
theorem evolves_of_job (hjobs : Puts .jobs d d' job) (hruns : Puts .runs d d' run)
    (haudit : d' .auditEvents = d .auditEvents ++ [event])
    (hproposals : d' .proposals = d .proposals) (hdecisions : d' .decisions = d .decisions)
    (hjob : ∀ j ∈ d .jobs, j.id = job.id → LaterJob j job)
    (hrun : ∀ r ∈ d .runs, r.id = run.id → LaterRun r run) : Evolves d d' := by
  refine ⟨carried_put LaterJob.refl hjobs hjob, carried_put LaterRun.refl hruns hrun, ?_, ?_, ?_⟩
  · rw [hproposals]
    exact carried_refl LaterProposal.refl _
  · rewrite [hdecisions]
    exact List.prefix_rfl
  · rw [haudit]
    exact List.prefix_append _ _

end Jobs

section Proposals

variable {d d' : Database schema} {proposal : ActionProposal} {added : List ApprovalDecision}
  {event : AuditEvent}

/-- A transaction on a proposal keeps the invariant. -/
theorem invariant_of_proposal (hd : Invariant d) (hproposals : Puts .proposals d d' proposal)
    (hdecisions : d' .decisions = d .decisions ++ added)
    (haudit : d' .auditEvents = d .auditEvents ++ [event]) (hjobs : d' .jobs = d .jobs)
    (hruns : d' .runs = d .runs) (htype : event.resourceType = proposalResource)
    (hadded : ∀ decision ∈ added, decision.proposalId = proposal.id)
    (hok : ProposalOk {x | x ∈ decisionsOf d proposal.id ∨ x ∈ added} proposal) : Invariant d' := by
  have hkept : ∀ {id : Uuid}, (∃ p ∈ d .proposals, p.id = id) → ∃ p ∈ d' .proposals, p.id = id := by
    rintro id ⟨p, hp, rfl⟩
    by_cases hid : p.id = proposal.id
    · exact ⟨proposal, (hproposals proposal).mpr (Or.inl rfl), hid.symm⟩
    · exact ⟨p, (hproposals p).mpr (Or.inr ⟨hp, hid⟩), rfl⟩
  -- The event is one of the proposal, so the history of no job changes.
  have hnotJob : event.resourceType ≠ jobResource := by
    rw [htype]
    decide
  have hevents : ∀ jobId, eventsOf d' jobId = eventsOf d jobId := fun jobId =>
    events_of_other haudit (by simp [isJobEvent, hnotJob])
  have hmem : ∀ {id : Uuid} {x : ApprovalDecision}, x ∈ decisionsOf d' id ↔
      x ∈ decisionsOf d id ∨ (x ∈ added ∧ x.proposalId = id) := fun {id x} => by
    show (x ∈ d' .decisions ∧ x.proposalId = id) ↔ _
    rw [hdecisions, List.mem_append, or_and_right]
    rfl
  refine ⟨?_, ?_, ?_, ?_, ?_⟩
  · rw [hruns, hjobs]
    exact hd.runs
  · intro e he hjobEvent
    rw [hjobs]
    rw [haudit, List.mem_append, List.mem_singleton] at he
    rcases he with he | rfl
    · exact hd.events e he hjobEvent
    · exact absurd hjobEvent hnotJob
  · intro job hjob
    rw [hjobs] at hjob
    rw [hevents, show runsOf d' job.id = runsOf d job.id by unfold runsOf; rw [hruns]]
    exact hd.jobs job hjob
  · intro x hx
    rw [hdecisions, List.mem_append] at hx
    rcases hx with hx | hx
    · exact hkept (hd.decisions x hx)
    · exact ⟨proposal, (hproposals proposal).mpr (Or.inl rfl), (hadded x hx).symm⟩
  · intro p hp
    rcases (hproposals p).mp hp with rfl | ⟨hp, hne⟩
    · have hset : decisionsOf d' p.id = {x | x ∈ decisionsOf d p.id ∨ x ∈ added} := by
        ext x
        rw [hmem]
        constructor
        · rintro (hx | ⟨hx, -⟩)
          · exact Or.inl hx
          · exact Or.inr hx
        · rintro (hx | hx)
          · exact Or.inl hx
          · exact Or.inr ⟨hx, hadded x hx⟩
      rw [hset]
      exact hok
    · have hset : decisionsOf d' p.id = decisionsOf d p.id := by
        ext x
        rw [hmem]
        constructor
        · rintro (hx | ⟨hx, hid⟩)
          · exact hx
          · exact absurd (hid.symm.trans (hadded x hx)) hne
        · exact Or.inl
      rw [hset]
      exact hd.proposals p hp

/-- A transaction on a proposal evolves the database when it writes a later version. -/
theorem evolves_of_proposal (hproposals : Puts .proposals d d' proposal)
    (hdecisions : d' .decisions = d .decisions ++ added)
    (haudit : d' .auditEvents = d .auditEvents ++ [event]) (hjobs : d' .jobs = d .jobs)
    (hruns : d' .runs = d .runs)
    (hproposal : ∀ p ∈ d .proposals, p.id = proposal.id → LaterProposal p proposal) :
    Evolves d d' := by
  refine ⟨?_, ?_, carried_put LaterProposal.refl hproposals hproposal, ?_, ?_⟩
  · rw [hjobs]
    exact carried_refl LaterJob.refl _
  · rw [hruns]
    exact carried_refl LaterRun.refl _
  · rw [hdecisions]
    exact List.prefix_append _ _
  · rw [haudit]
    exact List.prefix_append _ _

end Proposals

section Commits

variable {s : Session schema} {d : Database schema}

/-- A written table at the commit. -/
theorem puts_of_pending (hd : executionRules.Relies s d) {t : Table} {old : Option t.Row}
    {new : t.Row} (hw : ⟨t, old, new⟩ ∈ s.pending) : Puts t d (s.view d) new :=
  fun _ => mem_view_iff hd hw

/-- A table with an insertion at the commit. -/
theorem append_of_pending (hd : executionRules.Relies s d) {t : Table} {new : t.Row}
    (hw : ⟨t, none, new⟩ ∈ s.pending) : s.view d t = d t ++ [new] :=
  view_insert hd hw rfl

/-- The only row with the primary key of a replaced row is that row. -/
theorem eq_of_pending (hd : executionRules.Relies s d) {t : Table} {old new : t.Row}
    (hw : ⟨t, some old, new⟩ ∈ s.pending) :
    old ∈ d t ∧ ∀ row ∈ d t, rowId row = rowId new → row = old := by
  obtain ⟨hold, hident⟩ := (hd.stands _ hw).replaces old rfl
  exact ⟨hold, fun row hrow hid =>
    eq_of_ident_eq (hd.consistent t) hrow hold (hid.trans hident.symm)⟩

/-- The job after a transition. -/
theorem later_job_of_transition {job : ExecutionJob} {target : ExecutionStatus}
    (hallowed : target ∈ allowedTransitions job.status) (time : Nat) :
    LaterJob job { job with status := target, updatedAt := time } := by
  refine ⟨rfl, rfl, rfl, rfl, rfl, fun hfinal => ?_⟩
  cases hstatus : job.status <;> simp [hstatus, allowedTransitions,
    finalStatuses] at hallowed hfinal

/-- The run after a transition. -/
theorem later_run_of_transition {run : ExecutionRun} {target : ExecutionStatus}
    (hallowed : target ∈ allowedTransitions run.status) (time : Nat) :
    LaterRun run { run with status := target, updatedAt := time } := by
  refine ⟨⟨rfl, rfl, rfl, rfl, rfl, rfl⟩, fun hterminal => ?_⟩
  rw [(terminal_iff run.status).mp hterminal] at hallowed
  cases hallowed

/-- The commit of `create_job`. -/
theorem commit_create_job (hd : executionRules.Relies s d) {context : TenantContext}
    {request : JobRequest} {jobId runId auditId : Uuid} {t t' t'' : Nat}
    (hpending : s.pending =
      [⟨.auditEvents, none, audit context auditId createdEvent jobResource jobId none .empty t⟩,
        ⟨.jobs, none, newJob context jobId request t'⟩,
        ⟨.runs, none, firstRun context runId jobId request t''⟩]) :
    Invariant (s.view d) ∧ Evolves d (s.view d) := by
  have haudit : ⟨.auditEvents, none,
      audit context auditId createdEvent jobResource jobId none .empty t⟩ ∈ s.pending := by
    rw [hpending]
    exact .head _
  have hjob : ⟨.jobs, none, newJob context jobId request t'⟩ ∈ s.pending := by
    rw [hpending]
    exact .tail _ (.head _)
  have hrun : ⟨.runs, none, firstRun context runId jobId request t''⟩ ∈ s.pending := by
    rw [hpending]
    exact .tail _ (.tail _ (.head _))
  have hnewJob : ∀ j ∈ d .jobs, j.id ≠ jobId := (hd.stands _ hjob).inserts rfl
  have hnewRun : ∀ r ∈ d .runs, r.id ≠ runId := (hd.stands _ hrun).inserts rfl
  -- No run and no event belongs to a job that does not exist.
  have hruns : runsOf d jobId = ∅ := by
    refine Set.eq_empty_of_forall_notMem fun r hr => ?_
    obtain ⟨j, hj, hid⟩ := hd.invariant.runs r hr.1
    exact hnewJob j hj (hid.trans hr.2)
  have hevents : eventsOf d jobId = [] := by
    refine List.filter_eq_nil_iff.mpr fun e he hevent => ?_
    simp only [isJobEvent, Bool.and_eq_true, decide_eq_true_eq] at hevent
    obtain ⟨j, hj, hid⟩ := hd.invariant.events e he hevent.1
    exact hnewJob j hj (hid.trans hevent.2)
  have hput : putRun ∅ (firstRun context runId jobId request t'') =
      {firstRun context runId jobId request t''} := by
    ext r
    simp [putRun]
  have hproposals : s.view d .proposals = d .proposals :=
    view_of_not_written (by rw [hpending]; simp)
  have hdecisions : s.view d .decisions = d .decisions :=
    view_of_not_written (by rw [hpending]; simp)
  refine ⟨invariant_of_job hd.invariant (puts_of_pending hd hjob) (puts_of_pending hd hrun)
    (append_of_pending hd haudit) hproposals hdecisions rfl rfl rfl ?_ ?_,
    evolves_of_job (puts_of_pending hd hjob) (puts_of_pending hd hrun)
      (append_of_pending hd haudit) hproposals hdecisions ?_ ?_⟩
  · exact fun r hr hid => absurd hid (hnewRun r hr)
  · show JobOk (putRun (runsOf d jobId) _) (eventsOf d jobId ++ _) _
    rw [hruns, hevents, hput]
    exact job_ok_create rfl rfl rfl rfl rfl
  · exact fun j hj hid => absurd hid (hnewJob j hj)
  · exact fun r hr hid => absurd hid (hnewRun r hr)

/-- The commit of `transition_job`. -/
theorem commit_transition_job (hd : executionRules.Relies s d) {context : TenantContext}
    {job : ExecutionJob} {run : ExecutionRun} {prior target : ExecutionStatus} {auditId : Uuid}
    {actorId : Option Uuid} {t t' t'' : Nat}
    (hpending : s.pending =
      [⟨.jobs, some job, { job with status := target, updatedAt := t }⟩,
        ⟨.runs, some run, { run with status := target, updatedAt := t' }⟩,
        ⟨.auditEvents, none, audit context auditId transitionedEvent jobResource job.id actorId
          (.transition prior target run.id) t''⟩])
    (hallowed : target ∈ allowedTransitions prior) (hjobStatus : job.status = prior)
    (hrunStatus : run.status = prior) (hrunJob : run.jobId = job.id) :
    Invariant (s.view d) ∧ Evolves d (s.view d) := by
  have hjob : ⟨.jobs, some job, { job with status := target, updatedAt := t }⟩ ∈ s.pending := by
    rw [hpending]
    exact .head _
  have hrun : ⟨.runs, some run, { run with status := target, updatedAt := t' }⟩ ∈ s.pending := by
    rw [hpending]
    exact .tail _ (.head _)
  have haudit : ⟨.auditEvents, none, audit context auditId transitionedEvent jobResource job.id
      actorId (.transition prior target run.id) t''⟩ ∈ s.pending := by
    rw [hpending]
    exact .tail _ (.tail _ (.head _))
  obtain ⟨hjobMem, hjobOnly⟩ := eq_of_pending hd hjob
  obtain ⟨hrunMem, hrunOnly⟩ := eq_of_pending hd hrun
  have hproposals : s.view d .proposals = d .proposals :=
    view_of_not_written (by rw [hpending]; simp)
  have hdecisions : s.view d .decisions = d .decisions :=
    view_of_not_written (by rw [hpending]; simp)
  refine ⟨invariant_of_job hd.invariant (puts_of_pending hd hjob) (puts_of_pending hd hrun)
    (append_of_pending hd haudit) hproposals hdecisions hrunJob rfl rfl ?_ ?_,
    evolves_of_job (puts_of_pending hd hjob) (puts_of_pending hd hrun)
      (append_of_pending hd haudit) hproposals hdecisions ?_ ?_⟩
  · intro r hr hid
    rw [hrunOnly r hr hid]
    exact hrunJob
  · exact job_ok_transition (hd.invariant.jobs job hjobMem) ⟨hrunMem, hrunJob⟩
      (fun r hr hid => hrunOnly r hr.1 hid) hjobStatus hrunStatus hallowed rfl rfl
      ⟨rfl, rfl, rfl, rfl, rfl, rfl⟩ rfl rfl rfl
  · intro j hj hid
    rw [hjobOnly j hj hid]
    exact later_job_of_transition (hjobStatus ▸ hallowed) t
  · intro r hr hid
    rw [hrunOnly r hr hid]
    exact later_run_of_transition (hrunStatus ▸ hallowed) t'

/-- The commit of `reserve_retry`. -/
theorem commit_reserve_retry (hd : executionRules.Relies s d) {context : TenantContext}
    {job : ExecutionJob} {prior : ExecutionRun} {runId auditId : Uuid} {actorId : Option Uuid}
    {t t' t'' : Nat}
    (hpending : s.pending =
      [⟨.jobs, some job, { job with status := .queued, updatedAt := t }⟩,
        ⟨.runs, none, nextRun context runId job.id prior t'⟩,
        ⟨.auditEvents, none, audit context auditId retryReservedEvent jobResource job.id actorId
          (.retry prior.id runId prior.attemptNumber (prior.attemptNumber + 1)) t''⟩])
    (hstatus : job.status = .failed) (htenant : job.tenantId = context.tenantId)
    (hprior : ∃ r ∈ runsOf d job.id, SameAttempt prior r) :
    Invariant (s.view d) ∧ Evolves d (s.view d) := by
  have hjob : ⟨.jobs, some job, { job with status := .queued, updatedAt := t }⟩ ∈ s.pending := by
    rw [hpending]
    exact .head _
  have hrun : ⟨.runs, none, nextRun context runId job.id prior t'⟩ ∈ s.pending := by
    rw [hpending]
    exact .tail _ (.head _)
  have haudit : ⟨.auditEvents, none, audit context auditId retryReservedEvent jobResource job.id
      actorId (.retry prior.id runId prior.attemptNumber (prior.attemptNumber + 1)) t''⟩ ∈
        s.pending := by
    rw [hpending]
    exact .tail _ (.tail _ (.head _))
  obtain ⟨hjobMem, hjobOnly⟩ := eq_of_pending hd hjob
  obtain ⟨r, hr, hsame⟩ := hprior
  have hnewRun : ∀ r ∈ d .runs, r.id ≠ runId := (hd.stands _ hrun).inserts rfl
  have hok := hd.invariant.jobs job hjobMem
  -- The unique constraint on the attempts of a job refuses an attempt that exists.
  have hattempt : ∀ r ∈ runsOf d job.id, r.attemptNumber ≠ prior.attemptNumber + 1 := by
    intro r hr heq
    have hclash : @rowClash .runs r (nextRun context runId job.id prior t') = true := by
      obtain ⟨n, hattempts, -⟩ := hok
      have hjobId : r.jobId = job.id := hr.2
      have htenants : r.tenantId = context.tenantId := (hattempts.tenant r hr).trans htenant
      simp [rowClash, rowTenant, uniqueColumns, nextRun, htenants, hjobId, heq]
    exact not_clash_of_insert (hd.stands _ hrun) rfl hr.1 hclash
  have hproposals : s.view d .proposals = d .proposals :=
    view_of_not_written (by rw [hpending]; simp)
  have hdecisions : s.view d .decisions = d .decisions :=
    view_of_not_written (by rw [hpending]; simp)
  refine ⟨invariant_of_job hd.invariant (puts_of_pending hd hjob) (puts_of_pending hd hrun)
    (append_of_pending hd haudit) hproposals hdecisions rfl rfl rfl ?_ ?_,
    evolves_of_job (puts_of_pending hd hjob) (puts_of_pending hd hrun)
      (append_of_pending hd haudit) hproposals hdecisions ?_ ?_⟩
  · exact fun r hr hid => absurd hid (hnewRun r hr)
  · refine job_ok_retry hok hr hstatus (fun r hr => hnewRun r hr.1) hattempt rfl rfl rfl
      htenant.symm ?_ ?_ rfl ?_
    · rw [hsame.attemptNumber]
      rfl
    · exact ⟨hsame.maxAttempts.symm, hsame.retryDelaySeconds.symm⟩
    · rw [hsame.id, hsame.attemptNumber]
      rfl
  · intro j hj hid
    rw [hjobOnly j hj hid]
    refine ⟨rfl, rfl, rfl, rfl, rfl, fun hfinal => ?_⟩
    rw [hstatus] at hfinal
    simp [finalStatuses] at hfinal
  · exact fun r hr hid => absurd hid (hnewRun r hr)

/-- The commit of `create_proposal`. -/
theorem commit_create_proposal (hd : executionRules.Relies s d) {context : TenantContext}
    {request : ProposalRequest} {proposalId auditId : Uuid} {t t' : Nat}
    (hpending : s.pending =
      [⟨.proposals, none, newProposal context proposalId request t⟩,
        ⟨.auditEvents, none, audit context auditId "action_proposal.created" proposalResource
          proposalId none .empty t'⟩]) :
    Invariant (s.view d) ∧ Evolves d (s.view d) := by
  have hproposal : ⟨.proposals, none, newProposal context proposalId request t⟩ ∈ s.pending := by
    rw [hpending]
    exact .head _
  have haudit : ⟨.auditEvents, none, audit context auditId "action_proposal.created"
      proposalResource proposalId none .empty t'⟩ ∈ s.pending := by
    rw [hpending]
    exact .tail _ (.head _)
  have hnew : ∀ p ∈ d .proposals, p.id ≠ proposalId := (hd.stands _ hproposal).inserts rfl
  have hnone : ∀ x, x ∉ decisionsOf d proposalId := fun x hx => by
    obtain ⟨p, hp, hid⟩ := hd.invariant.decisions x hx.1
    exact hnew p hp (hid.trans hx.2)
  have hdecisions : s.view d .decisions = d .decisions ++ [] := by
    rw [List.append_nil]
    exact view_of_not_written (by rw [hpending]; simp)
  have hjobs : s.view d .jobs = d .jobs := view_of_not_written (by rw [hpending]; simp)
  have hruns : s.view d .runs = d .runs := view_of_not_written (by rw [hpending]; simp)
  refine ⟨invariant_of_proposal hd.invariant (puts_of_pending hd hproposal) hdecisions
    (append_of_pending hd haudit) hjobs hruns rfl (by simp) ?_,
    evolves_of_proposal (puts_of_pending hd hproposal) hdecisions (append_of_pending hd haudit)
      hjobs hruns ?_⟩
  · refine proposal_ok_create context proposalId request t fun x hx => ?_
    rcases hx with hx | hx
    · exact hnone x hx
    · cases hx
  · exact fun p hp hid => absurd hid (hnew p hp)

/-- The commit of `decide_proposal`. The update of the proposal is unconditional, but the unique
constraint on its decisions admits none beside the new one, so it still awaits its decision. -/
theorem commit_decide_proposal (hd : executionRules.Relies s d) {context : TenantContext}
    {proposal : ActionProposal} {decision : ApprovalDecisionValue} {decidedBy : Uuid}
    {reason : Option String} {recordId auditId : Uuid} {t t' t'' : Nat}
    (hpending : s.pending =
      [⟨.proposals, some proposal,
          { proposal with status := decidedStatus decision, updatedAt := t }⟩,
        ⟨.decisions, none,
          ⟨recordId, context.tenantId, proposal.id, decision, decidedBy, reason, t'⟩⟩,
        ⟨.auditEvents, none, audit context auditId (decidedEvent decision) proposalResource
          proposal.id (some decidedBy) (.decision recordId) t''⟩])
    (htenant : proposal.tenantId = context.tenantId)
    (hrequires : proposal.requiresApproval = true) :
    Invariant (s.view d) ∧ Evolves d (s.view d) ∧ proposal.status = .awaitingApproval := by
  have hproposal : ⟨.proposals, some proposal,
      { proposal with status := decidedStatus decision, updatedAt := t }⟩ ∈ s.pending := by
    rw [hpending]
    exact .head _
  have hrecord : ⟨.decisions, none, ⟨recordId, context.tenantId, proposal.id, decision, decidedBy,
      reason, t'⟩⟩ ∈ s.pending := by
    rw [hpending]
    exact .tail _ (.head _)
  have haudit : ⟨.auditEvents, none, audit context auditId (decidedEvent decision)
      proposalResource proposal.id (some decidedBy) (.decision recordId) t''⟩ ∈ s.pending := by
    rw [hpending]
    exact .tail _ (.tail _ (.head _))
  obtain ⟨hmem, honly⟩ := eq_of_pending hd hproposal
  have hok := hd.invariant.proposals proposal hmem
  -- The unique column of the decisions admits one decision a proposal, so there was none before.
  have hnone : ∀ x, x ∉ decisionsOf d proposal.id := fun x hx => by
    have hproposalId : x.proposalId = proposal.id := hx.2
    have htenants : x.tenantId = context.tenantId := (hok.tenant x hx).trans htenant
    have hclash : @rowClash .decisions x ⟨recordId, context.tenantId, proposal.id, decision,
        decidedBy, reason, t'⟩ = true := by
      simp [rowClash, rowTenant, uniqueColumns, htenants, hproposalId]
    exact not_clash_of_insert (hd.stands _ hrecord) rfl hx.1 hclash
  -- A proposal that needs approval and awaits none has a decision.
  have hawaiting : proposal.status = .awaitingApproval := by
    by_contra hstatus
    obtain ⟨x, hx⟩ := hok.awaiting hrequires hstatus
    exact hnone x hx
  have hjobs : s.view d .jobs = d .jobs := view_of_not_written (by rw [hpending]; simp)
  have hruns : s.view d .runs = d .runs := view_of_not_written (by rw [hpending]; simp)
  refine ⟨invariant_of_proposal hd.invariant (puts_of_pending hd hproposal)
    (append_of_pending hd hrecord) (append_of_pending hd haudit) hjobs hruns rfl (by simp) ?_,
    evolves_of_proposal (puts_of_pending hd hproposal) (append_of_pending hd hrecord)
      (append_of_pending hd haudit) hjobs hruns ?_, hawaiting⟩
  · have honlyRecord : ∀ x ∈ ({x | x ∈ decisionsOf d proposal.id ∨ x ∈ [⟨recordId,
        context.tenantId, proposal.id, decision, decidedBy, reason, t'⟩]} : Set ApprovalDecision),
        x = ⟨recordId, context.tenantId, proposal.id, decision, decidedBy, reason, t'⟩ := by
      rintro x (hx | hx)
      · exact absurd hx (hnone x)
      · exact List.mem_singleton.mp hx
    refine ⟨fun hexempt => ?_, fun x hx => ?_, fun _ _ => ⟨_, Or.inr (.head _)⟩, fun x hx => ?_⟩
    · rw [show proposal.requiresApproval = false from hexempt] at hrequires
      cases hrequires
    · rw [honlyRecord x hx]
    · rw [honlyRecord x hx]
      exact htenant.symm
  · intro p hp hid
    rw [honly p hp hid]
    exact ⟨rfl, rfl, rfl, fun hstatus => absurd hawaiting hstatus⟩

end Commits

end GrowthOs.Execution
