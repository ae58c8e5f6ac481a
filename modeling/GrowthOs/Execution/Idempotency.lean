import GrowthOs.Db.Tenancy
import GrowthOs.Execution.Attempts

/-!
# Repeated creations of a job
-/

namespace GrowthOs.Execution

open Library Db Ownership

variable {owners : Uuid → Bool} {context : TenantContext} {request : JobRequest}
  {s : Session schema}

/-- The latest run of a job is a run of the tenant. -/
theorem latest_run_of_own {fresh : Uuid → Prop} {view view' : Database schema}
    (howner : owners context.tenantId = true) (htwin : (tenancy owners).Twin fresh view view')
    (jobId : Uuid) : latestRunOf (view .runs) context.tenantId jobId =
      latestRunOf (view' .runs) context.tenantId jobId := by
  have hrows : ∀ view : Database schema, latestRunOf (view .runs) context.tenantId jobId =
      latestRunOf ((tenancy owners).own view .runs) context.tenantId jobId := by
    intro view
    unfold latestRunOf own
    rw [List.filter_filter]
    refine congrArg (List.argmax _) (List.filter_congr fun run _ => ?_)
    by_cases htenant : run.tenantId = context.tenantId
    · simp [rowTenant, htenant, howner]
    · simp [htenant]
  rw [hrows view, hrows view', htwin.own]

/-- The answer from the job of a key only appends. -/
theorem appends_idempotent_job_result (howner : owners context.tenantId = true)
    {job : ExecutionJob} :
    TenantAppends owners (idempotentJobResult context job request) s fun _ _ => True := by
  refine each_bind (each_bind (appends_statement
    (fun _ _ _ _ _ htwin => latest_run_of_own howner htwin job.id)
    (fun _ _ => trivial) fun found s' _ => ?_))
  cases found with
  | none => exact trivial
  | some run => exact each_ite (fun _ => trivial) fun _ => trivial

/-- So does the lookup of the key. -/
theorem appends_get_job_by_idempotency_key {key : String}
    {Q : Except ServiceError (Option ExecutionJob) → Session schema → Prop}
    (howner : owners context.tenantId = true) (herror : ∀ e s', Q (.error e) s')
    (hok : ∀ found s', (∀ id ∈ s.drawn, id ∈ s'.drawn) → Q (.ok found) s') :
    TenantAppends owners (getJobByIdempotencyKey context key) s Q := by
  refine appends_scalar (fun job hjob => Or.inl ?_) herror hok
  simp only [Bool.and_eq_true, decide_eq_true_eq] at hjob
  show owners job.tenantId = true
  rw [hjob.1]
  exact howner

/-- `create_job` looks for rows of its tenant and inserts rows of its tenant. -/
theorem appends_create_job (howner : owners context.tenantId = true) :
    TenantAppends owners (createJob context request) s fun _ _ => True := by
  have herror : ∀ (e : ServiceError) (s' : Session schema), True := fun _ _ => trivial
  unfold createJob
  refine each_bind (appends_get_job_by_idempotency_key howner herror fun existing s1 h1 => ?_)
  cases existing with
  | some existing => exact appends_idempotent_job_result howner
  | none =>
      refine each_bind (appends_require_owned howner herror fun _ s2 h2 => ?_)
      refine each_bind (appends_uuid4 herror fun jobId s3 h3 hjob3 => ?_)
      refine each_bind (appends_uuid4 herror fun runId s4 h4 hrun4 => ?_)
      refine each_bind (appends_uuid4 herror fun auditId s5 h5 haudit5 => ?_)
      have hjob5 := h5 _ (h4 _ hjob3)
      have hrun5 := h5 _ hrun4
      refine each_bind (appends_on_integrity_error herror (fun s6 => ?_)
        (each_bind (appends_insert (fun _ => ⟨howner, haudit5⟩) herror fun s6 h6 => ?_)))
      · refine each_bind (appends_get_job_by_idempotency_key howner herror fun winner s7 _ => ?_)
        cases winner with
        | none => exact trivial
        | some winner =>
            refine each_bind (each_post (appends_idempotent_job_result howner)
              fun result s8 _ => ?_)
            cases result <;> exact trivial
      refine each_bind (appends_insert (fun _ => ⟨howner, h6 _ hjob5⟩) herror fun s7 h7 => ?_)
      refine each_bind (appends_insert (fun _ => ⟨howner, h7 _ (h6 _ hrun5)⟩) herror
        fun s8 h8 => ?_)
      refine each_bind (appends_statement (fun _ => trivial) herror fun _ s9 h9 => ?_)
      refine each_bind (appends_refresh (h9 _ (h8 _ (h7 _ (h6 _ hjob5)))) herror
        fun job s10 h10 => ?_)
      exact each_bind (appends_refresh (h10 _ (h9 _ (h8 _ (h7 _ (h6 _ hrun5))))) herror
        fun run s11 _ => trivial)

/-- Every client with a `create_job` looks for rows of its tenant and inserts rows of its tenant. -/
structure Creating (c : Client schema ServiceError Response Request) (tenantId : Uuid) : Prop where
  program : TenantAppends (fun id => id = tenantId) c.program c.session fun _ _ => True
  pending : ∀ w ∈ c.session.pending,
    Appended (tenancy fun id => id = tenantId) c.session.drawn w

/-- A client of a creation is in one of its stages. -/
theorem creating_of_served {sys : System schema ServiceError Response Request} (h : Served sys)
    {c : Client schema ServiceError Response Request} (hc : c ∈ sys.clients)
    (hrequest : c.request = .createJob context request) : Creating c context.tenantId := by
  obtain ⟨d, hd, hsteps⟩ := h
  have hall : ∀ c ∈ sys.clients, ∀ context request, c.request = .createJob context request →
      Creating c context.tenantId := by
    refine client_of_steps ?_ ?_ ?_ hsteps (by simp)
    · rintro _ d context request rfl
      refine ⟨each_bind (each_post (appends_create_job (by simp)) fun result s' _ => ?_),
        by simp [Session.start]⟩
      cases result <;> exact trivial
    · intro c d β statement next answer s' hprogram hanswers ih context request hrequest
      obtain ⟨hsafe, hpending⟩ := ih context request hrequest
      rw [hprogram] at hsafe
      obtain ⟨hstatement, hnext⟩ := hsafe d trivial
      refine ⟨hnext answer s' hanswers trivial, fun w hw => ?_⟩
      obtain ⟨hinserts, hmine, hdrawn⟩ := appended_of_answers hpending hstatement hanswers w hw
      exact ⟨hinserts, hmine, Session.drawn_of_answers hanswers _ hdrawn⟩
    · intro c result hdone ih context request hrequest
      refine ⟨?_, by simp⟩
      rw [hdone]
      exact trivial
  exact hall c hc context request hrequest

/-- Creations of two tenants do not affect one another: the commit of one changes neither the rows
of the tenant of the other nor its next answer, and it does not make it wait. The identifiers that
the one has drawn are not in use by other tenants. -/
theorem unaffected_of_served {sys : System schema ServiceError Response Request} (h : Served sys)
    {c other : Client schema ServiceError Response Request} (hc : c ∈ sys.clients)
    (hother : other ∈ sys.clients) {context' : TenantContext} {request' : JobRequest}
    (hrequest : c.request = .createJob context request)
    (hrequest' : other.request = .createJob context' request')
    (htenants : context.tenantId ≠ context'.tenantId)
    (hfresh : (tenancy fun id => id = context.tenantId).Apart (· ∈ c.session.drawn)
      (other.session.view sys.committed)) :
    (tenancy fun id => id = context.tenantId).own (other.session.view sys.committed) =
        (tenancy fun id => id = context.tenantId).own sys.committed ∧
      ∀ {β : Type} (statement : Statement schema β)
        (next : Except DbError β → Program schema ServiceError Response),
        c.program = .perform statement next →
        Unaffected sys.committed c.session other.session statement := by
  have hsound := sound_of_served h
  obtain ⟨-, htidy, hstands, -⟩ := hsound.clients c hc
  obtain ⟨-, htidy', hstands', -⟩ := hsound.clients other hother
  obtain ⟨hprogram, hpending⟩ := creating_of_served h hc hrequest
  obtain ⟨-, hpending'⟩ := creating_of_served h hother hrequest'
  have hne : c ≠ other := by
    rintro rfl
    rw [hrequest] at hrequest'
    cases hrequest'
    exact htenants rfl
  have hsymm : Std.Symm fun c c' : Client schema ServiceError Response Request =>
      Compatible c.session c'.session := ⟨fun _ _ => compatible_symm⟩
  have hcompatible : Compatible c.session other.session :=
    hsound.separate.forall hc hother hne
  obtain ⟨hown, hstatements⟩ := unaffected_of_appends
    (fun hmine => by
      simp only [decide_eq_true_eq, decide_eq_false_iff_not] at hmine ⊢
      rw [hmine]
      exact htenants.symm)
    hsound.consistent hstands (separate_of_tidy htidy) hstands' (separate_of_tidy htidy')
    hcompatible hpending hpending' hfresh
  refine ⟨hown, fun statement next heq => hstatements statement ?_⟩
  rw [heq] at hprogram
  exact (hprogram sys.committed trivial).1

/-! ## Repetitions -/

/-- The arguments that a repetition has to share with the first creation of a job. -/
def SameArguments (first later : JobRequest) : Prop :=
  first.workspaceId = later.workspaceId ∧ first.kind = later.kind ∧
    first.maxAttempts = later.maxAttempts ∧ first.retryDelaySeconds = later.retryDelaySeconds

/-- The answer to a repetition: the job of the first creation if the arguments are the same, a
conflict if one of them differs. Only a failure of the connection prevents it. -/
inductive Repeated (first later : JobRequest) (jobId : Uuid) (s : Session schema) :
    Except ServiceError Response → Prop where
  | same (arguments : SameArguments first later) {result : JobResult} (id : result.job.id = jobId)
      (notCreated : result.created = false) : Repeated first later jobId s (.ok (.job result))
  | conflict (arguments : ¬ SameArguments first later) :
      Repeated first later jobId s (.error .conflict)
  | failed (connection : s.failed = true) :
      Repeated first later jobId s (.error (.database .operational))

/-- The job of a first creation is in the database, with the arguments of that creation. -/
def Created (d : Database schema) (context : TenantContext) (first : JobRequest) (jobId : Uuid) :
    Prop :=
  ∃ job ∈ d .jobs, job.id = jobId ∧ HasKey context first.idempotencyKey job ∧
    ∀ later : JobRequest, CreatedBy d job later ↔ SameArguments first later

/-- The rows that a creation commits are its job and the limits of its run. -/
theorem created_of_committed {ws : List (Write schema)}
    (hws : Committed (.createJob context request) ws) :
    ∃ job : ExecutionJob, ⟨.jobs, none, job⟩ ∈ ws ∧ HasKey context request.idempotencyKey job ∧
      ∀ d, Invariant d → (∀ w ∈ ws, Kept w d) → Created d context request job.id := by
  cases hws with
  | createJob jobId runId auditId t t' t'' =>
      refine ⟨newJob context jobId request t', by simp, ⟨rfl, rfl⟩, fun d hd hkept => ?_⟩
      obtain ⟨job, hjob, hlater⟩ := hkept ⟨.jobs, none, newJob context jobId request t'⟩ (by simp)
      obtain ⟨run, hrun, hlaterRun⟩ :=
        hkept ⟨.runs, none, firstRun context runId jobId request t''⟩ (by simp)
      have hmem : run ∈ runsOf d job.id := ⟨hrun, hlaterRun.jobId.trans hlater.id.symm⟩
      refine ⟨job, hjob, hlater.id, ⟨hlater.tenantId, hlater.idempotencyKey⟩, fun later => ?_⟩
      rw [created_by_iff hd hjob hmem, hlater.workspaceId, hlater.kind, hlaterRun.maxAttempts,
        hlaterRun.retryDelaySeconds]
      exact Iff.rfl

/-- The answer to a repetition, in the terms of the first creation. -/
theorem repeated_of_replay {d d' : Database schema} {job : ExecutionJob} {first later : JobRequest}
    {jobId : Uuid} {result : Except ServiceError Response} (hd : Invariant d) (hd' : Invariant d')
    (hconsistent : Consistent d') (hevolves : Evolves d d') (hjob : job ∈ d .jobs)
    (hid : job.id = jobId) (hcreated : Created d' context first jobId)
    (hfailed : result = .error (.database .operational) → s.failed = true)
    (h : ReplayOf d job later result) : Repeated first later jobId s result := by
  obtain ⟨job', hjob', hid', -, hsame⟩ := hcreated
  have hlater : LaterJob job job' := by
    obtain ⟨found, hfound, hlater⟩ := hevolves.jobs job hjob
    rwa [eq_of_ident_eq (hconsistent .jobs) hjob' hfound
      (hid'.trans (hid.symm.trans hlater.id.symm))]
  have hiff := (created_by_of_evolves hd hd' hevolves hjob hjob' hlater).trans (hsame later)
  cases h with
  | same created id notCreated => exact .same (hiff.mp created) (id.trans hid) notCreated
  | conflict created => exact .conflict fun hsame => created (hiff.mpr hsame)
  | failed => exact .failed (hfailed rfl)

/-- What a repetition of a creation finds and answers. `d` is a database that it has seen: the
committed one when it arrived, one at which it was refused, or its last one. -/
structure Repeats (first : JobRequest) (jobId : Uuid)
    (c : Client schema ServiceError Response Request)
    (later : JobRequest) (result : Except ServiceError Response) : Prop where
  replay : (∃ d ∈ c.arrived :: c.session.refused, ∃ job ∈ d .jobs, job.id = jobId) →
    c.session.written = [] ∧ Repeated first later jobId c.session result
  late : (∃ job ∈ c.session.seen .jobs, job.id = jobId) → c.session.written = [] →
    result = .error .notFound ∨ Repeated first later jobId c.session result

/-- A job with the identifier of the first creation has its key. -/
theorem has_key_of_created {d d' : Database schema} {job : ExecutionJob} {first : JobRequest}
    {jobId : Uuid} (hconsistent : Consistent d') (hevolves : Evolves d d')
    (hcreated : Created d' context first jobId) (hjob : job ∈ d .jobs) (hid : job.id = jobId) :
    HasKey context first.idempotencyKey job := by
  obtain ⟨job', hjob', hid', hkey, -⟩ := hcreated
  obtain ⟨found, hfound, hlater⟩ := hevolves.jobs job hjob
  obtain rfl := eq_of_ident_eq (hconsistent .jobs) hjob' hfound
    (hid'.trans (hid.symm.trans hlater.id.symm))
  exact ⟨hlater.tenantId.symm.trans hkey.1, hlater.idempotencyKey.symm.trans hkey.2⟩

/-- A later creation with the same key repeats the first. -/
theorem repeats_of_served {sys : System schema ServiceError Response Request} (h : Served sys)
    {first later : JobRequest} {jobId : Uuid} (hcreated : Created sys.committed context first jobId)
    {c : Client schema ServiceError Response Request} (hc : c ∈ sys.clients)
    (hrequest : c.request = .createJob context later)
    (hkey : later.idempotencyKey = first.idempotencyKey)
    {result : Except ServiceError Response} (hdone : c.program = .done result) :
    Repeats first jobId c later result := by
  have hsound := sound_of_served h
  obtain ⟨hseen, -⟩ := hsound.clients c hc
  have hanswered := post_of_sound hsound hc hdone
  refine ⟨?_, ?_⟩
  · rintro ⟨d, hd, job, hjob, hid⟩
    obtain ⟨hinvariant, hevolves⟩ := hanswered.known d hd
    have hcommitted : Evolves d sys.committed := hevolves.trans hseen
    have hjobKey := has_key_of_created hsound.consistent hcommitted hcreated hjob hid
    obtain ⟨hwritten, hreplay⟩ :=
      hanswered.replay context later hrequest d hd job hjob (hkey ▸ hjobKey)
    exact ⟨hwritten, repeated_of_replay hinvariant hsound.invariant hsound.consistent hcommitted
      hjob hid hcreated hanswered.failed hreplay⟩
  · rintro ⟨job, hjob, hid⟩ hwritten
    by_cases hfound : result = .error .notFound
    · exact Or.inl hfound
    · have hjobKey := has_key_of_created hsound.consistent hseen hcreated hjob hid
      have hreplay := hanswered.late context later hrequest hwritten hfound job hjob
        (hkey ▸ hjobKey)
      exact Or.inr (repeated_of_replay hanswered.seen hsound.invariant hsound.consistent hseen
        hjob hid hcreated hanswered.failed hreplay)

/-- The job of a creation that has committed stays in the database. -/
theorem created_of_served {sys : System schema ServiceError Response Request} (h : Served sys)
    {first : Client schema ServiceError Response Request} (hfirst : first ∈ sys.clients)
    (hrequest : first.request = .createJob context request)
    (hwritten : first.session.written ≠ []) :
    ∃ job : ExecutionJob, ⟨.jobs, none, job⟩ ∈ first.session.written ∧
      ∀ sys', Relation.ReflTransGen (Step serve) sys sys' →
        Created sys'.committed context request job.id := by
  have hsound := sound_of_served h
  obtain ⟨result, s, hanswered, hsame, hevolves⟩ := exists_post_of_sound hsound hfirst
  rw [hsame.symm] at hwritten ⊢
  rw [hrequest] at hanswered
  obtain ⟨job, hjob, -, hcreated⟩ :=
    created_of_committed (hanswered.written.resolve_left hwritten)
  refine ⟨job, hjob, fun sys' hsteps => ?_⟩
  obtain ⟨hsound', hevolves'⟩ := sound_of_steps serves_answered hsound hsteps
  exact hcreated _ hsound'.invariant fun w hw =>
    kept_of_evolves (hanswered.kept w hw) (hevolves.trans hevolves')

/-- At most one job has the key of a tenant. After a creation has committed, a repetition commits
nothing and answers with its job, or with a conflict if an argument differs, whether it arrives
later, or is refused because of that job, or finds that job while it is underway. Creations of
different tenants do not affect one another. -/
theorem create_job_idempotent {sys : System schema ServiceError Response Request} (h : Served sys) :
    (∀ job ∈ sys.committed .jobs, ∀ job' ∈ sys.committed .jobs, job.tenantId = job'.tenantId →
      job.idempotencyKey = job'.idempotencyKey → job = job') ∧
    (∀ first ∈ sys.clients, ∀ context request, first.request = .createJob context request →
      first.session.written ≠ [] →
      ∃ job : ExecutionJob, ⟨.jobs, none, job⟩ ∈ first.session.written ∧
        ∀ sys', Relation.ReflTransGen (Step serve) sys sys' →
          Created sys'.committed context request job.id ∧
          ∀ c ∈ sys'.clients, ∀ later result, c.request = .createJob context later →
            later.idempotencyKey = request.idempotencyKey → c.program = .done result →
            Repeats request job.id c later result ∧
            (c ∈ sys'.clients.drop sys.clients.length →
              c.session.written = [] ∧ Repeated request later job.id c.session result)) ∧
    ∀ c ∈ sys.clients, ∀ other ∈ sys.clients, ∀ context context' request request',
      c.request = .createJob context request → other.request = .createJob context' request' →
      context.tenantId ≠ context'.tenantId →
      (tenancy fun id => id = context.tenantId).Apart (· ∈ c.session.drawn)
        (other.session.view sys.committed) →
      (tenancy fun id => id = context.tenantId).own (other.session.view sys.committed) =
          (tenancy fun id => id = context.tenantId).own sys.committed ∧
        ∀ {β : Type} (statement : Statement schema β)
          (next : Except DbError β → Program schema ServiceError Response),
          c.program = .perform statement next →
          Unaffected sys.committed c.session other.session statement := by
  refine ⟨?_, ?_, ?_⟩
  · intro job hjob job' hjob' htenant hkey
    exact @job_eq_of_key sys.committed ⟨job'.tenantId⟩ job job' (sound_of_served h).consistent
      job'.idempotencyKey hjob hjob' ⟨htenant, hkey⟩ ⟨rfl, rfl⟩
  · intro first hfirst context request hrequest hwritten
    obtain ⟨job, hjob, hcreated⟩ := created_of_served h hfirst hrequest hwritten
    refine ⟨job, hjob, fun sys' hsteps => ⟨hcreated sys' hsteps,
      fun c hc later result hlater hkey hdone => ?_⟩⟩
    have hserved' : Served sys' := by
      obtain ⟨d, hd, hbefore⟩ := h
      exact ⟨d, hd, hbefore.trans hsteps⟩
    have hrepeats := repeats_of_served hserved' (hcreated sys' hsteps) hc hlater hkey hdone
    refine ⟨hrepeats, fun hdrop => ?_⟩
    -- The job is in the database when the request arrives.
    have harrived : ∃ found ∈ c.arrived .jobs, found.id = job.id :=
      @arrived_of_drop schema _ _ _ _ (fun d => ∃ found ∈ d .jobs, found.id = job.id) _ _ hsteps
        (fun sys'' hsteps => by
          obtain ⟨found, hfound, hid, -⟩ := hcreated sys'' hsteps
          exact ⟨found, hfound, hid⟩) c hdrop
    obtain ⟨found, hfound, hid⟩ := harrived
    exact hrepeats.replay ⟨c.arrived, .head _, found, hfound, hid⟩
  · intro c hc other hother context context' request request' hrequest hrequest' htenants hfresh
    exact unaffected_of_served h hc hother hrequest hrequest' htenants hfresh

/-- The creation of the job once more, after the retry. -/
def repetition : Except ServiceError Response × Session schema × Nat :=
  (serve (.createJob newContext newRequest)).run countingSupply retriedState.2
    (.start retriedState.1.committed)

/-- The sample system has a client. -/
theorem retried_system_nonempty : 0 < retriedSystem.clients.length := by decide +kernel

/-- The client of the first creation. -/
def firstClient : Client schema ServiceError Response Request :=
  retriedSystem.clients.get ⟨0, retried_system_nonempty⟩

/-- It has committed. -/
theorem first_client_written : firstClient.session.written.isEmpty = false := by decide +kernel

/-- The theorem on the request of the sample. -/
theorem repeated_creation_idempotent :
    (∃ jobId, Repeated newRequest newRequest jobId
      { repetition.2.1 with pending := [] } repetition.1) ∧ repetition.1.isOk = true := by
  refine ⟨?_, by decide +kernel⟩
  obtain ⟨job, -, hrepeated⟩ := (create_job_idempotent retried_system_served).2.1 firstClient
    (List.get_mem _ _) newContext newRequest (by decide +kernel)
    (by simpa using first_client_written)
  have hidle : Idle retriedSystem := by
    unfold retriedSystem retriedState
    exact serve_all_idle serve countingSupply newDatabase retriedRequests
  obtain ⟨-, hclients⟩ := hrepeated _
    (serve_alone_steps serve countingSupply hidle (.createJob newContext newRequest)).1
  have hclient := mem_drop_serve_alone serve countingSupply retriedState
    (.createJob newContext newRequest)
  obtain ⟨-, hlater⟩ := hclients _ (List.mem_of_mem_drop hclient) newRequest _ rfl rfl rfl
  exact ⟨job.id, (hlater hclient).2⟩

end GrowthOs.Execution
