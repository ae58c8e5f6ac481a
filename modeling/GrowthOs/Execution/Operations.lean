import GrowthOs.Execution.Contract

/-!
# The operations meet the contract
-/

namespace GrowthOs.Execution

open Library Db

variable {arrived : Database schema} {s : Session schema}

/-- A failure of the connection before the commit of a request other than `create_job`. -/
theorem fails_answered {request : Request} {α : Type} {wrap : α → Response}
    (hrequest : ∀ context jobRequest, request ≠ .createJob context jobRequest) :
    Fails arrived fun result s' => Answered request arrived (result.map wrap) s' :=
  fun _ h hfailed => answered_error h hrequest fun _ => hfailed

section Transition

variable {context : TenantContext} {jobId : Uuid} {prior target : ExecutionStatus}
  {actorId : Option Uuid}

/-- The audit event of a transition and the commit. -/
theorem wp_transition_commit {job : ExecutionJob} {run : ExecutionRun} {t t' : Nat}
    (h : Uncommitted arrived s)
    (hpending : s.pending =
      [⟨.jobs, some job, { job with status := target, updatedAt := t }⟩,
        ⟨.runs, some run, { run with status := target, updatedAt := t' }⟩])
    (hallowed : target ∈ allowedTransitions prior)
    (hjob : job.tenantId = context.tenantId ∧ job.status = prior)
    (hrun : run.jobId = job.id ∧ run.tenantId = context.tenantId ∧ run.status = prior)
    {auditId : Uuid} {Q : Except ServiceError Unit → Session schema → Prop}
    (hfails : Fails arrived Q)
    (hrefused : ∀ s', Uncommitted arrived s' → Q (.error invalidTransition) s')
    (hok : ∀ s', Stored (.transitionJob context job.id prior target actorId) arrived s' →
      s'.pending = [] →
      ⟨.jobs, some job, { job with status := target, updatedAt := t }⟩ ∈ s'.written →
      ⟨.runs, some run, { run with status := target, updatedAt := t' }⟩ ∈ s'.written →
      Q (.ok ()) s') :
    executionRules.wp
      (onIntegrityError
        (do
          insert .auditEvents (audit context auditId transitionedEvent jobResource job.id actorId
            (.transition prior target run.id))
          commit)
        (.raise invalidTransition)) s Q := by
  refine Uncommitted.wp_on_integrity_error hfails (fun s' h' _ => hrefused s' h')
    (each_bind (h.wp_insert (by simp [hpending]) hfails ?_ fun s' h' => h'))
  intro time s' h' hpending' _
  rw [hpending] at hpending'
  refine h'.wp_commit (.transitionJob context job.id prior target actorId) hfails (fun d hd => ?_)
    fun s'' h'' hnone hwritten => ?_
  · obtain ⟨hinvariant, hevolves⟩ :=
      commit_transition_job hd hpending' hallowed hjob.2 hrun.2.2 hrun.1
    refine ⟨hinvariant, hevolves, ?_, by simp⟩
    rw [hpending']
    exact .transitionJob hallowed ⟨rfl, hjob⟩ hrun auditId t t' time
  · rw [hpending'] at hwritten
    refine hok s'' h'' hnone ?_ ?_
    · rw [hwritten]
      exact .head _
    · rw [hwritten]
      exact .tail _ (.head _)

/-- `transition_job` meets the contract. -/
theorem wp_transition_job (h : Uncommitted arrived s) (hpending : s.pending = []) :
    executionRules.wp (transitionJob context jobId prior target actorId) s
      fun result s' => Answered (.transitionJob context jobId prior target actorId) arrived
        (result.map .job) s' := by
  have hfails : Fails arrived fun (result : Except ServiceError JobResult) s' =>
      Answered (.transitionJob context jobId prior target actorId) arrived (result.map .job) s' :=
    fails_answered (by simp)
  have hinvalid : ∀ s', Uncommitted arrived s' →
      Answered (.transitionJob context jobId prior target actorId) arrived
        (.error invalidTransition) s' :=
    fun s' h' => answered_error h' (by simp) (by simp [invalidTransition])
  unfold transitionJob
  cases hvalid : validateTransition prior target with
  | false => exact hinvalid s h
  | true =>
      have hallowed : target ∈ allowedTransitions prior := by simpa
        [validateTransition] using hvalid
      refine each_bind (h.wp_require_owned hpending hfails (fun job s1 h1 hp1 _ _ hid _ => ?_)
        fun s' h' _ => answered_error h' (by simp) (by simp))
      refine each_bind (h1.wp_required_run hp1 hfails (fun run s2 h2 hp2 hd2 hrun _ => ?_)
        fun s' h' _ _ => answered_error h' (by simp) (by simp))
      refine each_ite (fun _ => hinvalid s2 h2) fun hstatus => ?_
      -- The compare-and-set of the job.
      refine each_bind (h2.wp_update (by simp [hp2]) (fun _ _ => rfl) hfails ?_
        (fun s' h' => answered_error h' (by simp) (by simp)) fun s' h' => ?_)
      swap
      · exact each_bind (h'.wp_rollback hfails fun s'' h'' _ _ => hinvalid s'' h'')
      intro t old s3 h3 hp3 hd3 _ holdId hold
      rw [hp2, List.nil_append] at hp3
      simp only [Bool.and_eq_true, decide_eq_true_eq] at hold
      -- The compare-and-set of the run.
      refine each_bind (h3.wp_update (by simp [hp3]) (fun _ _ => rfl) hfails ?_
        (fun s' h' => answered_error h' (by simp) (by simp)) fun s' h' => ?_)
      swap
      · exact each_bind (h'.wp_rollback hfails fun s'' h'' _ _ => hinvalid s'' h'')
      intro t' oldRun s4 h4 hp4 hd4 holdRun holdRunId holdRunStatus
      rw [hp3] at hp4
      simp only [Bool.and_eq_true, decide_eq_true_eq] at holdRunStatus
      have hsame := same_attempt_of_id (hd3.evolves.trans hd4.evolves) hd4.consistent hrun.1 holdRun
        holdRunId
      have hjobId : old.id = job.id := holdId
      have hrunJob : oldRun.jobId = old.id := hsame.jobId.trans (hrun.2.trans holdId.symm)
      replace hid : job.id = jobId := hid
      subst hid
      refine each_bind (h4.wp_uuid4 hfails fun auditId s5 h5 hp5 _ => ?_)
      rw [hp4] at hp5
      rw [← hjobId] at hfails hinvalid
      rw [← hjobId, ← hsame.id]
      refine each_bind (wp_transition_commit h5 hp5 hallowed hold ⟨hrunJob, holdRunStatus⟩
        hfails hinvalid fun s6 h6 hp6 hjobRow hrunRow => ?_)
      have hlost : ∀ s', Stored (.transitionJob context old.id prior target actorId) arrived s' →
          s'.failed = true →
          Answered (.transitionJob context old.id prior target actorId) arrived
            (.error (.database .operational)) s' := fun s' h' hfailed =>
        answered_stored_failed h' hfailed
      refine each_bind (h6.wp_refresh hp6 (by simp) hjobRow rfl hlost
        fun job' s7 h7 hp7 hw7 _ => ?_)
      rw [← hw7] at hrunRow
      refine each_bind (h7.wp_refresh hp7 (by simp) hrunRow rfl hlost
        fun run' s8 h8 _ _ _ => ?_)
      exact answered_stored h8 (by simp [Response.replayed])

end Transition

section Retry

variable {context : TenantContext} {jobId : Uuid} {expectedAttemptNumber : Int}
  {actorId : Option Uuid}

/-- The run and the audit event of a retry and the commit. -/
theorem wp_retry_commit {job : ExecutionJob} {prior : ExecutionRun} {t : Nat}
    (h : Uncommitted arrived s)
    (hpending : s.pending = [⟨.jobs, some job, { job with status := .queued, updatedAt := t }⟩])
    (hjob : job.tenantId = context.tenantId ∧ job.status = .failed)
    (hprior : prior.jobId = job.id ∧ prior.tenantId = context.tenantId ∧
      prior.attemptNumber = expectedAttemptNumber)
    (hread : ∃ r ∈ s.seen .runs, SameAttempt prior r)
    {runId auditId : Uuid} {Q : Except ServiceError Unit → Session schema → Prop}
    (hfails : Fails arrived Q)
    (hrefused : ∀ s', Uncommitted arrived s' → Q (.error invalidTransition) s')
    (hok : ∀ s' t', Stored (.reserveRetry context job.id expectedAttemptNumber actorId) arrived s' →
      s'.pending = [] →
      ⟨.jobs, some job, { job with status := .queued, updatedAt := t }⟩ ∈ s'.written →
      ⟨.runs, none, nextRun context runId job.id prior t'⟩ ∈ s'.written →
      Q (.ok ()) s') :
    executionRules.wp
      (onIntegrityError
        (do
          insertRun (nextRun context runId job.id prior)
          insert .auditEvents (audit context auditId retryReservedEvent jobResource job.id actorId
            (.retry prior.id runId prior.attemptNumber (prior.attemptNumber + 1)))
          commit)
        (.raise invalidTransition)) s Q := by
  refine Uncommitted.wp_on_integrity_error hfails (fun s' h' _ => hrefused s' h')
    (each_bind (h.wp_insert (by simp [hpending]) hfails ?_ fun s' h' => h'))
  intro t' s1 h1 hp1 hd1
  rw [hpending] at hp1
  refine each_bind (h1.wp_insert (by simp [hp1]) hfails ?_ fun s' h' => h')
  intro t'' s2 h2 hp2 hd2
  rw [hp1] at hp2
  refine h2.wp_commit (.reserveRetry context job.id expectedAttemptNumber actorId) hfails
    (fun d hd => ?_) fun s' h' hnone hwritten => ?_
  · obtain ⟨r, hr, hsame⟩ :=
      run_kept (hd1.evolves.trans (hd2.evolves.trans hd.evolves)) hread
    obtain ⟨hinvariant, hevolves⟩ := commit_reserve_retry hd hp2 hjob.2 hjob.1
      ⟨r, ⟨hr, hsame.jobId.trans hprior.1⟩, hsame⟩
    refine ⟨hinvariant, hevolves, ?_, by simp⟩
    rw [hp2]
    exact .reserveRetry ⟨rfl, hjob⟩ hprior runId auditId t t' t''
  · rw [hp2] at hwritten
    refine hok s' t' h' hnone ?_ ?_
    · rw [hwritten]
      exact .head _
    · rw [hwritten]
      exact .tail _ (.head _)

/-- `reserve_retry` meets the contract. -/
theorem wp_reserve_retry (h : Uncommitted arrived s) (hpending : s.pending = []) :
    executionRules.wp (reserveRetry context jobId expectedAttemptNumber actorId) s
      fun result s' => Answered (.reserveRetry context jobId expectedAttemptNumber actorId) arrived
        (result.map .job) s' := by
  have hfails : Fails arrived fun (result : Except ServiceError JobResult) s' =>
      Answered (.reserveRetry context jobId expectedAttemptNumber actorId) arrived
        (result.map .job) s' :=
    fails_answered (by simp)
  have hinvalid : ∀ s', Uncommitted arrived s' →
      Answered (.reserveRetry context jobId expectedAttemptNumber actorId) arrived
        (.error invalidTransition) s' :=
    fun s' h' => answered_error h' (by simp) (by simp [invalidTransition])
  unfold reserveRetry
  refine each_bind (h.wp_require_owned hpending hfails (fun job s1 h1 hp1 _ _ hid _ => ?_)
    fun s' h' _ => answered_error h' (by simp) (by simp))
  refine each_bind (h1.wp_required_run hp1 hfails (fun prior s2 h2 hp2 _ hprior htenant => ?_)
    fun s' h' _ _ => answered_error h' (by simp) (by simp))
  refine each_ite (fun _ => hinvalid s2 h2) fun hstatus => ?_
  have hnumber : prior.attemptNumber = expectedAttemptNumber := by
    by_contra hne
    exact hstatus (Or.inr (Or.inr (Or.inl hne)))
  -- The compare-and-set of the job.
  refine each_bind (h2.wp_update (by simp [hp2]) (fun _ _ => rfl) hfails ?_
    (fun s' h' => answered_error h' (by simp) (by simp)) fun s' h' => ?_)
  swap
  · exact each_bind (h'.wp_rollback hfails fun s'' h'' _ _ => hinvalid s'' h'')
  intro t old s3 h3 hp3 hd3 _ holdId hold
  rw [hp2, List.nil_append] at hp3
  simp only [Bool.and_eq_true, decide_eq_true_eq] at hold
  have hjobId : old.id = job.id := holdId
  replace hid : job.id = jobId := hid
  subst hid
  refine each_bind (h3.wp_uuid4 hfails fun newRunId s4 h4 hp4 hd4 => ?_)
  refine each_bind (h4.wp_uuid4 hfails fun auditId s5 h5 hp5 hd5 => ?_)
  rw [hp4, hp3] at hp5
  have hread : ∃ r ∈ s5.seen .runs, SameAttempt prior r :=
    run_kept (hd3.evolves.trans (hd4.evolves.trans hd5.evolves)) ⟨prior, hprior.1, .refl prior⟩
  rw [← hjobId] at hfails hinvalid
  rw [← hjobId]
  refine each_bind (wp_retry_commit h5 hp5 hold
    ⟨hprior.2.trans hjobId.symm, htenant, hnumber⟩ hread hfails hinvalid
    fun s6 t' h6 hp6 hjobRow hrunRow => ?_)
  have hlost : ∀ s', Stored
      (.reserveRetry context old.id expectedAttemptNumber actorId) arrived s' →
      s'.failed = true →
      Answered (.reserveRetry context old.id expectedAttemptNumber actorId) arrived
        (.error (.database .operational)) s' := fun s' h' hfailed =>
    answered_stored_failed h' hfailed
  refine each_bind (h6.wp_refresh hp6 (by simp) hjobRow rfl hlost
    fun job' s7 h7 hp7 hw7 _ => ?_)
  rw [← hw7] at hrunRow
  refine each_bind (h7.wp_refresh hp7 (by simp) hrunRow rfl hlost
    fun run' s8 h8 _ _ _ => ?_)
  exact answered_stored h8 (by simp [Response.replayed])

end Retry

section CreateProposal

variable {context : TenantContext} {request : ProposalRequest}

/-- `create_proposal` meets the contract. -/
theorem wp_create_proposal (h : Uncommitted arrived s) (hpending : s.pending = []) :
    executionRules.wp (createProposal context request) s
      fun result s' => Answered (.createProposal context request) arrived
        (result.map .proposal) s' := by
  have hfails : Fails arrived fun (result : Except ServiceError ActionProposal) s' =>
      Answered (.createProposal context request) arrived (result.map .proposal) s' :=
    fails_answered (by simp)
  unfold createProposal
  refine each_bind (h.wp_require_owned hpending hfails (fun job s1 h1 hp1 _ _ _ _ => ?_)
    fun s' h' _ => answered_error h' (by simp) (by simp))
  refine each_ite (fun _ => answered_error h1 (by simp) (by simp)) fun _ => ?_
  refine each_bind (h1.wp_uuid4 hfails fun proposalId s2 h2 hp2 _ => ?_)
  refine each_bind (h2.wp_uuid4 hfails fun auditId s3 h3 hp3 _ => ?_)
  rw [hp2, hp1] at hp3
  refine each_bind (Uncommitted.wp_on_integrity_error hfails
    (fun s' h' _ => answered_error h' (by simp) (by simp))
    (each_bind (h3.wp_insert (by simp [hp3]) hfails ?_ fun s' h' => h')))
  intro t s4 h4 hp4 _
  rw [hp3, List.nil_append] at hp4
  refine each_bind (h4.wp_insert (by simp [hp4]) hfails ?_ fun s' h' => h')
  intro t' s5 h5 hp5 _
  rw [hp4] at hp5
  refine h5.wp_commit (.createProposal context request) hfails (fun d hd => ?_)
    fun s6 h6 hp6 hw6 => ?_
  · obtain ⟨hinvariant, hevolves⟩ := commit_create_proposal hd hp5
    refine ⟨hinvariant, hevolves, ?_, by simp⟩
    rw [hp5]
    exact .createProposal proposalId auditId t t'
  · have hrow : ⟨.proposals, none, newProposal context proposalId request t⟩ ∈ s6.written := by
      rw [hw6, hp5]
      exact .head _
    refine h6.wp_refresh hp6 (by simp) hrow rfl (fun s' h' hfailed => ?_)
      fun proposal s7 h7 _ _ _ => ?_
    · exact answered_stored_failed h' hfailed
    · exact answered_stored h7 (by simp [Response.replayed])

end CreateProposal

section DecideProposal

variable {context : TenantContext} {proposalId : Uuid} {decision : ApprovalDecisionValue}
  {decidedBy : Uuid} {reason : Option String}

/-- `decide_proposal` meets the contract. -/
theorem wp_decide_proposal (h : Uncommitted arrived s) (hpending : s.pending = []) :
    executionRules.wp (decideProposal context proposalId decision decidedBy reason) s
      fun result s' => Answered (.decideProposal context proposalId decision decidedBy reason)
        arrived (result.map .decision) s' := by
  have hfails : Fails arrived fun (result : Except ServiceError ApprovalDecision) s' =>
      Answered (.decideProposal context proposalId decision decidedBy reason) arrived
        (result.map .decision) s' :=
    fails_answered (by simp)
  have hfinal : ∀ s', Uncommitted arrived s' →
      Answered (.decideProposal context proposalId decision decidedBy reason) arrived
        (.error alreadyFinalized) s' :=
    fun s' h' => answered_error h' (by simp) (by simp [alreadyFinalized])
  unfold decideProposal
  refine each_bind (h.wp_require_owned hpending hfails
    (fun proposal s1 h1 hp1 hd1 hproposal hid htenant => ?_)
    fun s' h' _ => answered_error h' (by simp) (by simp))
  refine each_ite (fun _ => hfinal s1 h1) fun hstatus => ?_
  -- A proposal that awaits its decision requires one.
  have hrequires : proposal.requiresApproval = true := by
    cases hexempt : proposal.requiresApproval with
    | true => rfl
    | false =>
        have happroved := ((hd1.invariant.proposals proposal hproposal).exempt hexempt).1
        exact absurd (by rw [happroved]; decide) hstatus
  replace hid : proposal.id = proposalId := hid
  subst hid
  refine each_bind (h1.wp_uuid4 hfails fun recordId s2 h2 hp2 hd2 => ?_)
  refine each_bind (h2.wp_uuid4 hfails fun auditId s3 h3 hp3 hd3 => ?_)
  rw [hp2, hp1] at hp3
  refine each_bind (Uncommitted.wp_on_integrity_error hfails (fun s' h' _ => hfinal s' h')
    (each_bind (h3.wp_update_loaded (by simp [hp3]) (fun _ _ => rfl) hfails ?_
      (fun s' h' => h') fun s' h' => answered_error h' (by simp) (by simp))))
  intro t old s4 h4 hp4 hd4 hold holdId
  rw [hp3, List.nil_append] at hp4
  have hlater : LaterProposal proposal old := by
    obtain ⟨p, hp, hlater⟩ :=
      (hd2.evolves.trans (hd3.evolves.trans hd4.evolves)).proposals proposal hproposal
    rwa [eq_of_ident_eq (hd4.consistent .proposals) hold hp (holdId.trans hlater.id.symm)]
  refine each_bind (h4.wp_insert (by simp [hp4]) hfails ?_ fun s' h' => h')
  intro t' s5 h5 hp5 _
  rw [hp4] at hp5
  refine each_bind (h5.wp_insert (by simp [hp5]) hfails ?_ fun s' h' => h')
  intro t'' s6 h6 hp6 _
  rw [hp5] at hp6
  have hproposalId : proposal.id = old.id := hlater.id.symm
  rw [hproposalId] at hp6 hfails ⊢
  refine h6.wp_commit (.decideProposal context old.id decision decidedBy reason) hfails
    (fun d hd => ?_) fun s7 h7 hp7 hw7 => ?_
  · obtain ⟨hinvariant, hevolves, hawaiting⟩ := commit_decide_proposal hd hp6
      (hlater.tenantId.trans htenant) (hlater.requiresApproval.trans hrequires)
    refine ⟨hinvariant, hevolves, ?_, by simp⟩
    rw [hp6]
    exact .decideProposal ⟨rfl, hlater.tenantId.trans htenant, hawaiting⟩ recordId auditId t t' t''
  · have hrow : ⟨.decisions, none, ⟨recordId, context.tenantId, old.id, decision, decidedBy,
        reason, t'⟩⟩ ∈ s7.written := by
      rw [hw7, hp6]
      exact .tail _ (.head _)
    refine h7.wp_refresh hp7 (by simp) hrow rfl (fun s' h' hfailed => ?_)
      fun record s8 h8 _ _ _ => ?_
    · exact answered_stored_failed h' hfailed
    · exact answered_stored h8 (by simp [Response.replayed])

end DecideProposal

end GrowthOs.Execution
