import GrowthOs.Execution.Operations

/-!
# `create_job` meets the contract

The answer to a repeated request compares its arguments with the columns of the job and with the
limits of its latest run. Neither changes while the job lives, so the comparison has one outcome
from the creation of the job on, whichever way the request has found the job.
-/

namespace GrowthOs.Execution

open Library Db

variable {arrived d d' : Database schema} {s : Session schema} {context : TenantContext}
  {request : JobRequest} {job job' : ExecutionJob}

/-- At most one job has a key. -/
theorem job_eq_of_key (hd : Consistent d) {key : String} (hjob : job ∈ d .jobs)
    (hjob' : job' ∈ d .jobs) (hkey : HasKey context key job) (hkey' : HasKey context key job') :
    job = job' := by
  have hclash : @rowClash .jobs job job' = true := by
    rw [row_clash_iff]
    refine ⟨hkey.1.trans hkey'.1.symm, by simp [uniqueColumns], ?_⟩
    show some ([], [], [job.idempotencyKey]) = some ([], [], [job'.idempotencyKey])
    rw [hkey.2, hkey'.2]
  exact eq_of_clash (hd .jobs) hjob hjob' hclash

/-- A job keeps its key. -/
theorem has_key_of_later {key : String} (h : LaterJob job job') (hkey : HasKey context key job) :
    HasKey context key job' :=
  ⟨h.tenantId.trans hkey.1, h.idempotencyKey.trans hkey.2⟩

/-- The job with a key at which a database has evolved. -/
theorem later_job_of_key (hevolves : Evolves d d') (hd' : Consistent d') {key : String}
    (hjob : job ∈ d .jobs) (hkey : HasKey context key job) (hjob' : job' ∈ d' .jobs)
    (hkey' : HasKey context key job') : LaterJob job job' := by
  obtain ⟨later, hlaterMem, hlater⟩ := hevolves.jobs job hjob
  rwa [job_eq_of_key hd' hjob' hlaterMem hkey' (has_key_of_later hlater hkey)]

/-- A job has a run, of its tenant. -/
theorem exists_run (hd : Invariant d) (hjob : job ∈ d .jobs) :
    ∃ run ∈ runsOf d job.id, run.tenantId = job.tenantId := by
  obtain ⟨n, hattempts, -⟩ := hd.jobs job hjob
  obtain ⟨run, hrun, -⟩ := (hattempts.numbers 1).mpr ⟨le_refl _, hattempts.pos⟩
  exact ⟨run, hrun, hattempts.tenant run hrun⟩

/-- Any run of a job tells the limits of all its runs. -/
theorem created_by_iff (hd : Invariant d) (hjob : job ∈ d .jobs) {run : ExecutionRun}
    (hrun : run ∈ runsOf d job.id) :
    CreatedBy d job request ↔ job.workspaceId = request.workspaceId ∧ job.kind = request.kind ∧
      run.maxAttempts = request.maxAttempts ∧
      run.retryDelaySeconds = request.retryDelaySeconds := by
  obtain ⟨n, hattempts, -⟩ := hd.jobs job hjob
  constructor
  · rintro ⟨hworkspace, hkind, hlimits⟩
    exact ⟨hworkspace, hkind, hlimits run hrun⟩
  · rintro ⟨hworkspace, hkind, hmax, hdelay⟩
    refine ⟨hworkspace, hkind, fun run' hrun' => ?_⟩
    have hsame := hattempts.limits run' hrun' run hrun
    exact ⟨hsame.1.trans hmax, hsame.2.trans hdelay⟩

/-- Transitions and retries do not change the arguments with which a job was created. -/
theorem created_by_of_evolves (hd : Invariant d) (hd' : Invariant d') (hevolves : Evolves d d')
    (hjob : job ∈ d .jobs) (hjob' : job' ∈ d' .jobs) (hlater : LaterJob job job') :
    CreatedBy d job request ↔ CreatedBy d' job' request := by
  obtain ⟨run, hrun, -⟩ := exists_run hd hjob
  obtain ⟨run', hrun', hlaterRun⟩ := hevolves.runs run hrun.1
  have hmem : run' ∈ runsOf d' job'.id :=
    ⟨hrun', hlaterRun.jobId.trans (hrun.2.trans hlater.id.symm)⟩
  rw [created_by_iff hd hjob hrun, created_by_iff hd' hjob' hmem, hlater.workspaceId, hlater.kind,
    hlaterRun.maxAttempts, hlaterRun.retryDelaySeconds]

/-- No job had the key before, if none has it now. -/
theorem Uncommitted.no_key (h : Uncommitted arrived s) {key : String}
    (hnone : ∀ job ∈ s.seen .jobs, ¬ HasKey context key job) :
    ∀ d ∈ arrived :: s.refused, ∀ job ∈ d .jobs, ¬ HasKey context key job := by
  intro d hd job hjob hkey
  obtain ⟨job', hjob', hlater⟩ := (h.known d hd).2.jobs job hjob
  exact hnone job' hjob' (has_key_of_later hlater hkey)

/-- A failure of the connection before the commit. -/
theorem fails_create :
    Fails arrived fun (result : Except ServiceError JobResult) s' =>
      Answered (.createJob context request) arrived (result.map .job) s' := by
  intro s' h hfailed
  refine ⟨h.seen, h.known, Or.inl h.written, by simp [h.written], ?_, fun _ _ => Or.inl h.written,
    fun _ => hfailed, ?_, fun _ _ _ _ _ _ _ _ => .failed⟩
  · intro response heq
    cases heq
  · intro context' jobRequest heq d hd job hjob hkey
    exact ⟨h.written, .failed⟩

/-- An error before the commit, when no job has the key. -/
theorem answered_create_error (h : Uncommitted arrived s) {e : ServiceError}
    (hnone : ∀ d ∈ arrived :: s.refused, ∀ job ∈ d .jobs,
      ¬ HasKey context request.idempotencyKey job)
    (hlate : e = .notFound ∨
      ∀ job ∈ s.seen .jobs, ¬ HasKey context request.idempotencyKey job)
    (he : e ≠ .database .operational) :
    Answered (.createJob context request) arrived (.error e) s := by
  refine ⟨h.seen, h.known, Or.inl h.written, by simp [h.written], ?_, fun _ _ => Or.inl h.written,
    fun heq => absurd (Except.error.inj heq) he, ?_, ?_⟩
  · intro response heq
    cases heq
  · intro context' jobRequest heq d hd job hjob hkey
    obtain ⟨rfl, rfl⟩ : context = context' ∧ request = jobRequest := by simpa using heq
    exact absurd hkey (hnone d hd job hjob)
  · intro context' jobRequest heq _ hfound job hjob hkey
    obtain ⟨rfl, rfl⟩ : context = context' ∧ request = jobRequest := by simpa using heq
    rcases hlate with rfl | habsent
    · exact absurd rfl hfound
    · exact absurd hkey (habsent job hjob)

/-- The answer of a request that has found a job with its key. -/
theorem answered_replay (h : Uncommitted arrived s) {result : Except ServiceError Response}
    (hresult : result = .error .conflict ∨
      ∃ found : JobResult, result = .ok (.job found) ∧ found.created = false)
    (hreplay : ∀ d ∈ s.seen :: arrived :: s.refused, ∀ job ∈ d .jobs,
      HasKey context request.idempotencyKey job → ReplayOf d job request result) :
    Answered (.createJob context request) arrived result s := by
  refine ⟨h.seen, h.known, Or.inl h.written, by simp [h.written], ?_, fun _ _ =>
    Or.inl h.written, ?_, ?_, ?_⟩
  · intro response heq
    rcases hresult with rfl | ⟨found, rfl, hfound⟩
    · cases heq
    · obtain rfl := Except.ok.inj heq
      exact iff_of_true h.written hfound
  · intro heq
    rcases hresult with rfl | ⟨found, rfl, -⟩
    · cases heq
    · cases heq
  · intro context' jobRequest heq d hd job hjob hkey
    obtain ⟨rfl, rfl⟩ : context = context' ∧ request = jobRequest := by simpa using heq
    exact ⟨h.written, hreplay d (.tail _ hd) job hjob hkey⟩
  · intro context' jobRequest heq _ _ job hjob hkey
    obtain ⟨rfl, rfl⟩ : context = context' ∧ request = jobRequest := by simpa using heq
    exact hreplay s.seen (.head _) job hjob hkey

/-- `_idempotent_job_result` meets the contract of `create_job`. -/
theorem wp_idempotent_job_result (h : Uncommitted arrived s) (hpending : s.pending = [])
    (hjob : job ∈ s.seen .jobs)
    (hkey : HasKey context request.idempotencyKey job) :
    executionRules.wp (idempotentJobResult context job request) s
      fun result s' => Answered (.createJob context request) arrived (result.map .job) s' := by
  refine each_bind (h.wp_required_run hpending fails_create
    (fun run s1 h1 _ hd1 hrun _ => ?_) fun s1 _ hd1 habsent => ?_)
  · -- The job at the read of its run.
    obtain ⟨job1, hjob1, hlater⟩ := hd1.evolves.jobs job hjob
    have hrun1 : run ∈ runsOf s1.seen job1.id := ⟨hrun.1, hrun.2.trans hlater.id.symm⟩
    have hkey1 := has_key_of_later hlater hkey
    have hcreated : CreatedBy s1.seen job1 request ↔ _ := created_by_iff hd1.invariant hjob1 hrun1
    rw [hlater.workspaceId, hlater.kind] at hcreated
    have htransfer : ∀ d ∈ s1.seen :: arrived :: s1.refused, ∀ j ∈ d .jobs,
        HasKey context request.idempotencyKey j →
          job.id = j.id ∧ (CreatedBy d j request ↔ CreatedBy s1.seen job1 request) := by
      intro d hd j hj hjkey
      obtain ⟨hinvariant, hevolves⟩ : Invariant d ∧ Evolves d s1.seen := by
        rcases List.mem_cons.mp hd with rfl | hd
        · exact ⟨hd1.invariant, .refl _⟩
        · exact h1.known d hd
      have hjlater := later_job_of_key hevolves hd1.consistent hj hjkey hjob1 hkey1
      exact ⟨hlater.id.symm.trans hjlater.id,
        created_by_of_evolves hinvariant hd1.invariant hevolves hj hjob1 hjlater⟩
    refine each_ite (fun hdiffers => ?_) fun hsame => ?_
    · refine answered_replay h1 (Or.inl rfl) fun d hd j hj hjkey => .conflict ?_
      rw [(htransfer d hd j hj hjkey).2, hcreated]
      tauto
    · refine answered_replay h1 (Or.inr ⟨_, rfl, rfl⟩) fun d hd j hj hjkey => ?_
      obtain ⟨hid, hiff⟩ := htransfer d hd j hj hjkey
      refine .same ?_ hid rfl
      rw [hiff, hcreated]
      tauto
  · -- A job is never without a run.
    obtain ⟨job1, hjob1, hlater⟩ := hd1.evolves.jobs job hjob
    obtain ⟨run, hrun, htenant⟩ := exists_run hd1.invariant hjob1
    exact absurd (htenant.trans (hlater.tenantId.trans hkey.1))
      (habsent run ⟨hrun.1, hrun.2.trans hlater.id⟩)

/-- A committed job has the only row with its key, so no job had it before. -/
theorem no_key_at_commit (hd : executionRules.Relies s d) {jobId : Uuid} {time : Nat}
    (hw : ⟨.jobs, none, newJob context jobId request time⟩ ∈ s.pending) :
    ∀ job ∈ d .jobs, ¬ HasKey context request.idempotencyKey job := by
  intro job hjob hkey
  have hclash : @rowClash .jobs job (newJob context jobId request time) = true := by
    rw [row_clash_iff]
    refine ⟨hkey.1, by simp [uniqueColumns], ?_⟩
    show some ([], [], [job.idempotencyKey]) = some ([], [], [request.idempotencyKey])
    rw [hkey.2]
  exact not_clash_of_insert (hd.stands _ hw) rfl hjob hclash

/-- A lookup by a key that finds no job shows that none has it. -/
theorem no_key_of_absent {jobs : List ExecutionJob} {key : String}
    (habsent : ∀ job ∈ jobs,
      (job.tenantId = context.tenantId && job.idempotencyKey = key) = false) :
    ∀ job ∈ jobs, ¬ HasKey context key job := by
  intro job hjob hkey
  have hfalse := habsent job hjob
  simp [hkey.1, hkey.2] at hfalse

/-- `create_job` meets the contract. -/
theorem wp_create_job (h : Uncommitted arrived s) (hpending : s.pending = []) :
    executionRules.wp (createJob context request) s
      fun result s' => Answered (.createJob context request) arrived (result.map .job) s' := by
  unfold createJob
  refine each_bind (h.wp_scalar hpending fails_create
    (fun existing s1 h1 hp1 _ hexisting hkey => ?_) fun s1 h1 hp1 _ habsent => ?_)
  · simp only [Bool.and_eq_true, decide_eq_true_eq] at hkey
    exact wp_idempotent_job_result h1 hp1 hexisting hkey
  have hnone : ∀ job ∈ s1.seen .jobs, ¬ HasKey context request.idempotencyKey job :=
    no_key_of_absent habsent
  refine each_bind (h1.wp_require_owned hp1 fails_create (fun workspace s2 h2 hp2 _ _ _ _ => ?_)
    fun s' h' hrefused => answered_create_error h' ?_ (Or.inl rfl) (by simp))
  swap
  · rw [hrefused]
    exact h1.no_key hnone
  refine each_bind (h2.wp_uuid4 fails_create fun jobId s3 h3 hp3 _ => ?_)
  refine each_bind (h3.wp_uuid4 fails_create fun runId s4 h4 hp4 _ => ?_)
  refine each_bind (h4.wp_uuid4 fails_create fun auditId s5 h5 hp5 _ => ?_)
  rw [hp4, hp3, hp2] at hp5
  refine each_bind (Uncommitted.wp_on_integrity_error fails_create (fun s6 h6 hp6 => ?_)
    (each_bind (h5.wp_insert (by simp [hp5]) fails_create ?_ fun s' h' => h')))
  · -- The loser of a race looks for the winner.
    refine each_bind (h6.wp_scalar hp6 fails_create
      (fun winner s7 h7 hp7 _ hwinner hkey => ?_) fun s7 h7 _ _ habsent => ?_)
    · simp only [Bool.and_eq_true, decide_eq_true_eq] at hkey
      refine each_bind (each_post (wp_idempotent_job_result h7 hp7 hwinner hkey)
        fun result s' hresult => ?_)
      cases result with
      | ok found => exact hresult
      | error e => exact hresult
    · have hnone : ∀ job ∈ s7.seen .jobs, ¬ HasKey context request.idempotencyKey job :=
        no_key_of_absent habsent
      exact answered_create_error h7 (h7.no_key hnone) (Or.inr hnone) (by simp)
  intro t s6 h6 hp6 _
  rw [hp5, List.nil_append] at hp6
  refine each_bind (h6.wp_insert (by simp [hp6]) fails_create ?_ fun s' h' => h')
  intro t' s7 h7 hp7 _
  rw [hp6] at hp7
  refine each_bind (h7.wp_insert (by simp [hp7]) fails_create ?_ fun s' h' => h')
  intro t'' s8 h8 hp8 _
  rw [hp7] at hp8
  -- The job, its first run and their event are pending together and committed at once.
  have hjobRow : ⟨.jobs, none, newJob context jobId request t'⟩ ∈ s8.pending := by
    rw [hp8]
    exact .tail _ (.head _)
  have hrunRow : ⟨.runs, none, firstRun context runId jobId request t''⟩ ∈ s8.pending := by
    rw [hp8]
    exact .tail _ (.tail _ (.head _))
  refine each_bind (h8.wp_commit (.createJob context request) fails_create (fun d hd => ?_)
    fun s9 h9 hp9 hw9 => ?_)
  · obtain ⟨hinvariant, hevolves⟩ := commit_create_job hd hp8
    refine ⟨hinvariant, hevolves, ?_, fun context' jobRequest heq => ?_⟩
    · rw [hp8]
      exact .createJob jobId runId auditId t t' t''
    · obtain ⟨rfl, rfl⟩ : context = context' ∧ request = jobRequest := by simpa using heq
      exact no_key_at_commit hd hjobRow
  · rw [← hw9] at hjobRow hrunRow
    refine each_bind (h9.wp_refresh hp9 (by simp) hjobRow rfl
      (fun s' h' hfailed => answered_stored_failed h' hfailed) fun job s10 h10 hp10 hw10 _ => ?_)
    rw [← hw10] at hrunRow
    refine each_bind (h10.wp_refresh hp10 (by simp) hrunRow rfl
      (fun s' h' hfailed => answered_stored_failed h' hfailed) fun run s11 h11 _ _ _ => ?_)
    exact answered_stored h11 (by simp [Response.replayed])

/-! ## Every request -/

/-- Every request meets the contract. -/
theorem serves_answered : Serves executionRules serve Answered := by
  refine ⟨fun request d hd => ?_, fun request d result s h => ?_⟩
  · have hstart : Uncommitted d (.start d) := by
      refine ⟨rfl, hd, fun d' hd' => ?_⟩
      obtain rfl : d' = d := by simpa [Session.start] using hd'
      exact ⟨hd, .refl d'⟩
    cases request with
    | createJob context request =>
        refine each_bind (each_post (wp_create_job hstart rfl) fun result s h => ?_)
        cases result <;> exact h
    | transitionJob context jobId expectedStatus targetStatus actorId =>
        refine each_bind (each_post (wp_transition_job hstart rfl) fun result s h => ?_)
        cases result <;> exact h
    | reserveRetry context jobId expectedAttemptNumber actorId =>
        refine each_bind (each_post (wp_reserve_retry hstart rfl) fun result s h => ?_)
        cases result <;> exact h
    | createProposal context request =>
        refine each_bind (each_post (wp_create_proposal hstart rfl) fun result s h => ?_)
        cases result <;> exact h
    | decideProposal context proposalId decision decidedBy reason =>
        refine each_bind (each_post (wp_decide_proposal hstart rfl) fun result s h => ?_)
        cases result <;> exact h
  · exact ⟨h.seen, h.known, h.written, h.kept, h.success, h.error, h.failed, h.replay, h.late⟩

end GrowthOs.Execution
