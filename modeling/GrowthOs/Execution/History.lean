import GrowthOs.Execution.Attempts

/-!
# The history of a job

The audit events of a job are its history: they replay to its current status and attempt, and they
are what the successful requests have committed, one each.
-/

namespace GrowthOs.Execution

open Library Db

section Replays

variable {runs runs' : Set ExecutionRun} {events later : List AuditEvent}
  {status status' : ExecutionStatus} {k k' : Int}

/-- A replay has an event. -/
theorem replays_ne_nil (h : Replays runs events status k) : events ≠ [] := by
  cases h with
  | created => simp
  | next => simp

/-- An event tells the status that follows it. -/
theorem ends_unique {event : AuditEvent} {s : ExecutionStatus} {n : Int}
    {t t' : ExecutionStatus} {m m' : Int} (h : Ends runs event s n t m)
    (h' : Ends runs' event s n t' m') : t = t' ∧ m = m' := by
  cases h with
  | transitioned type details current allowed =>
      cases h' with
      | transitioned type' details' current' allowed' =>
          rw [details] at details'
          cases details'
          exact ⟨rfl, rfl⟩
      | retried type' details' current' next' =>
          rw [details] at details'
          cases details'
  | retried type details current next =>
      cases h' with
      | transitioned type' details' current' allowed' =>
          rw [details] at details'
          cases details'
      | retried => exact ⟨rfl, rfl⟩

/-- A history replays to one status and attempt. -/
theorem replays_unique (h : Replays runs events status k) (h' : Replays runs' events status' k') :
    status = status' ∧ k = k' := by
  induction h generalizing status' k' with
  | @created event type =>
      generalize hevents : [event] = list at h'
      cases h' with
      | created => exact ⟨rfl, rfl⟩
      | next before ends =>
          have hlength := congrArg List.length hevents
          simp only [List.length_append, List.length_singleton] at hlength
          exact absurd (List.length_eq_zero_iff.mp (by omega)) (replays_ne_nil before)
  | @next events s t n m event before ends ih =>
      generalize hevents : events ++ [event] = list at h'
      cases h' with
      | created =>
          have hlength := congrArg List.length hevents
          simp only [List.length_append, List.length_singleton] at hlength
          exact absurd (List.length_eq_zero_iff.mp (by omega)) (replays_ne_nil before)
      | next before' ends' =>
          obtain ⟨rfl, heq⟩ := List.append_inj' hevents rfl
          obtain rfl := List.singleton_inj.mp heq
          obtain ⟨rfl, rfl⟩ := ih before'
          exact ends_unique ends ends'

/-- The first part of a history is a history, and the next event ends its last visit. -/
theorem replays_split (h : Replays runs (events ++ later) status k) (hne : events ≠ []) :
    ∃ s n, Replays runs events s n ∧
      ∀ event rest, later = event :: rest → ∃ t m, Ends runs event s n t m := by
  generalize hall : events ++ later = all at h
  induction h generalizing later with
  | @created event type =>
      obtain ⟨rfl, rfl⟩ : events = [event] ∧ later = [] := by
        rcases List.append_eq_singleton_iff.mp hall with ⟨hnil, -⟩ | hcase
        · exact absurd hnil hne
        · exact hcase
      exact ⟨.queued, 1, .created type, by simp⟩
  | @next before s t n m event hbefore ends ih =>
      rcases List.eq_nil_or_concat later with rfl | ⟨first, last, rfl⟩
      · rw [List.append_nil] at hall
        exact ⟨t, m, hall ▸ .next hbefore ends, by simp⟩
      · rw [List.concat_eq_append, ← List.append_assoc] at hall
        rw [List.concat_eq_append]
        obtain ⟨hbeforeEq, hlast⟩ := List.append_inj' hall rfl
        obtain rfl := List.singleton_inj.mp hlast
        obtain ⟨s', n', hreplays, hnext⟩ := ih hbeforeEq
        refine ⟨s', n', hreplays, fun e rest heq => ?_⟩
        cases first with
        | nil =>
            obtain ⟨rfl, -⟩ := List.cons_eq_cons.mp heq
            rw [List.append_nil] at hbeforeEq
            obtain ⟨rfl, rfl⟩ := replays_unique (hbeforeEq ▸ hreplays) hbefore
            exact ⟨t, m, ends⟩
        | cons head tail =>
            obtain ⟨rfl, -⟩ := List.cons_eq_cons.mp heq
            exact hnext head tail rfl

end Replays

/-- The audit events that a client has committed. -/
def eventsBy (c : Client schema ServiceError Response Request) : List AuditEvent :=
  @inserted schema Table.auditEvents c.session.written

/-- The event of a request. -/
def Request.eventType : Request → String
  | .createJob _ _ => createdEvent
  | .transitionJob _ _ _ _ _ => transitionedEvent
  | .reserveRetry _ _ _ _ => retryReservedEvent
  | .createProposal _ _ => "action_proposal.created"
  | .decideProposal _ _ decision _ _ => decidedEvent decision

/-- The resource that a request changes. -/
def Request.resourceId : Request → Option Uuid
  | .createJob _ _ => none
  | .transitionJob _ jobId _ _ _ => some jobId
  | .reserveRetry _ jobId _ _ => some jobId
  | .createProposal _ _ => none
  | .decideProposal _ proposalId _ _ _ => some proposalId

/-- Every committed transaction inserts exactly one audit event, about the resource it changes. -/
theorem inserted_of_committed {request : Request} {ws : List (Write schema)}
    (h : Committed request ws) :
    ∃ event : AuditEvent, @inserted schema Table.auditEvents ws = [event] ∧
      event.eventType = request.eventType ∧ ∀ id ∈ request.resourceId, event.resourceId = id := by
  cases h <;> exact ⟨_, rfl, rfl, by simp [Request.resourceId, audit]⟩

/-- No request updates an audit event. -/
theorem insert_of_committed {request : Request} {ws : List (Write schema)}
    (h : Committed request ws) : ∀ w ∈ ws, w.table = Table.auditEvents → w.old = none := by
  cases h <;> simp

/-- What a client has committed so far is nothing or the transaction of its request. -/
theorem written_of_served {sys : System schema ServiceError Response Request} (h : Served sys)
    {c : Client schema ServiceError Response Request} (hc : c ∈ sys.clients) :
    c.session.written = [] ∨ Committed c.request c.session.written := by
  obtain ⟨result, s, hanswered, hwritten, -⟩ := exists_post_of_sound (sound_of_served h) hc
  rw [← hwritten]
  exact hanswered.written

/-- The number of events that a request commits is one if it succeeds, and none if it is rejected,
conflicts or repeats an earlier one. -/
structure OneEvent (c : Client schema ServiceError Response Request)
    (result : Except ServiceError Response) : Prop where
  success : ∀ response, result = .ok response → ¬ response.replayed c.request →
    ∃ event, eventsBy c = [event] ∧ event.eventType = c.request.eventType ∧
      ∀ id ∈ c.request.resourceId, event.resourceId = id
  replayed : ∀ response, result = .ok response → response.replayed c.request → eventsBy c = []
  error : ∀ e, result = .error e → e ≠ .database .operational → eventsBy c = []

/-- An answered request has at most one event. -/
theorem one_event_of_answered {c : Client schema ServiceError Response Request}
    {result : Except ServiceError Response}
    (h : Answered c.request c.arrived result c.session) : OneEvent c result := by
  refine ⟨fun response hresult hnew => ?_, fun response hresult hreplayed => ?_,
    fun e hresult he => ?_⟩
  · rcases h.written with hnil | hcommitted
    · exact absurd ((h.success response hresult).mp hnil) hnew
    · exact inserted_of_committed hcommitted
  · rw [eventsBy, (h.success response hresult).mpr hreplayed]
    rfl
  · rcases h.error e hresult with hnil | hoperational
    · rw [eventsBy, hnil]
      rfl
    · exact absurd hoperational he

/-- The events of a job are those that the clients have committed. -/
theorem events_perm {sys : System schema ServiceError Response Request} (h : Served sys)
    (jobId : Uuid) : (eventsOf sys.committed jobId).Perm
      (sys.clients.flatMap fun c => (eventsBy c).filter (isJobEvent jobId)) := by
  obtain ⟨d, hd, hsteps⟩ := h
  have hinserts : ∀ sys' : System schema ServiceError Response Request,
      Relation.ReflTransGen (Step serve) ⟨d, []⟩ sys' → ∀ c ∈ sys'.clients,
      ∀ w ∈ c.session.written, w.table = Table.auditEvents → w.old = none := by
    intro sys' hsteps' c hc w hw htable
    rcases written_of_served ⟨d, hd, hsteps'⟩ hc with hnil | hcommitted
    · rw [hnil] at hw
      cases hw
    · exact insert_of_committed hcommitted w hw htable
  have hperm := (committed_perm hsteps hinserts).filter (isJobEvent jobId)
  have hnone : (d .auditEvents).filter (isJobEvent jobId) = [] := by
    refine List.filter_eq_nil_iff.mpr fun event hevent hjob => ?_
    simp only [isJobEvent, Bool.and_eq_true, decide_eq_true_eq] at hjob
    exact hd.events event hevent hjob.1
  rw [List.filter_append, hnone, List.nil_append, List.filter_flatMap] at hperm
  exact hperm

/-! ## Histories -/

/-- The status and the attempt of a job are those of its history. -/
def HistoryAgrees (d : Database schema) (job : ExecutionJob) : Prop :=
  ∃ n : Nat, RunsAgree (runList d job.id) job n ∧
    Replays (runsOf d job.id) (eventsOf d job.id) job.status n

/-- How the history of a job goes on: the next event ends the visit of the status that the job has
now, at its last attempt. No event ends the visit of a final status. -/
structure GoesOn (d d' : Database schema) (job job' : ExecutionJob) (later : List AuditEvent) :
    Prop where
  id : job'.id = job.id
  events : eventsOf d' job.id = eventsOf d job.id ++ later
  same : later = [] → job'.status = job.status
  next : ∀ event rest, later = event :: rest → ∀ n : Nat,
    RunsAgree (runList d job.id) job n →
    ∃ t m, Ends (runsOf d' job.id) event job.status n t m
  final : job.status ∈ finalStatuses → later = []

/-- The events of a job agree with it. -/
theorem history_agrees {d : Database schema} (hconsistent : Consistent d) (hd : Invariant d)
    {job : ExecutionJob} (hjob : job ∈ d .jobs) : HistoryAgrees d job := by
  obtain ⟨k, hattempts, hreplays⟩ := hd.jobs job hjob
  refine ⟨k.toNat, runs_agree_of_attempts hconsistent hattempts, ?_⟩
  rwa [Int.toNat_of_nonneg (by have := hattempts.pos; omega)]

/-- The number of attempts of a job is the length of its list of runs. -/
theorem runs_agree_unique {runs : List ExecutionRun} {job : ExecutionJob} {n n' : Nat}
    (h : RunsAgree runs job n) (h' : RunsAgree runs job n') : n = n' := by
  have hlength := (h.numbers.symm.trans h'.numbers).length_eq
  simpa using hlength

/-- No event ends the visit of a final status. -/
theorem not_ends_of_final {runs : Set ExecutionRun} {event : AuditEvent}
    {status status' : ExecutionStatus} {k k' : Int} (hfinal : status ∈ finalStatuses) :
    ¬ Ends runs event status k status' k' := by
  intro hends
  cases hends with
  | transitioned type details current allowed =>
      cases status <;> simp [finalStatuses, allowedTransitions] at hfinal allowed
  | retried => simp [finalStatuses] at hfinal

/-- The history of a job goes on. -/
theorem goes_on_of_evolves {d d' : Database schema} (hconsistent : Consistent d)
    (hconsistent' : Consistent d') (hd : Invariant d) (hd' : Invariant d')
    (hevolves : Evolves d d') {job : ExecutionJob} (hjob : job ∈ d .jobs) :
    ∃ job' ∈ d' .jobs, ∃ later, GoesOn d d' job job' later := by
  obtain ⟨job', hjob', hlater⟩ := hevolves.jobs job hjob
  obtain ⟨added, hadded⟩ := hevolves.auditEvents
  have hevents : eventsOf d' job.id =
      eventsOf d job.id ++ added.filter (isJobEvent job.id) := by
    rw [eventsOf, ← hadded, List.filter_append]
    rfl
  obtain ⟨n, hruns, hreplays⟩ := history_agrees hconsistent hd hjob
  obtain ⟨n', -, hreplays'⟩ := history_agrees hconsistent' hd' hjob'
  rw [hlater.id, hevents] at hreplays'
  obtain ⟨s, m, hfirst, hnext⟩ := replays_split hreplays' (replays_ne_nil hreplays)
  obtain ⟨rfl, rfl⟩ := replays_unique hreplays hfirst
  refine ⟨job', hjob', _, ⟨hlater.id, hevents, fun hnil => ?_, fun event rest heq n' hruns' => ?_,
    fun hfinal => ?_⟩⟩
  · rw [hnil, List.append_nil] at hreplays'
    exact (replays_unique hreplays' hreplays).1
  · obtain rfl := runs_agree_unique hruns hruns'
    exact hnext event rest heq
  · cases hlist : added.filter (isJobEvent job.id) with
    | nil => rfl
    | cons event rest =>
        obtain ⟨t, m, hends⟩ := hnext event rest hlist
        exact absurd hends (not_ends_of_final hfinal)

/-- In every reachable state the audit events of every job are its history, and the clients have
committed exactly these events, one for each request that succeeds. Whatever happens later, the
next event of the job ends the visit of its current status, and neither a final status nor a failed
attempt is ever left. -/
theorem job_history {sys : System schema ServiceError Response Request} (h : Served sys) :
    (∀ job ∈ sys.committed .jobs, HistoryAgrees sys.committed job) ∧
    (∀ jobId, (eventsOf sys.committed jobId).Perm
      (sys.clients.flatMap fun c => (eventsBy c).filter (isJobEvent jobId))) ∧
    (∀ c ∈ sys.clients, ∀ result, c.program = .done result → OneEvent c result) ∧
    ∀ sys', Relation.ReflTransGen (Step serve) sys sys' →
      (∀ job ∈ sys.committed .jobs, ∃ job' ∈ sys'.committed .jobs, ∃ later,
        GoesOn sys.committed sys'.committed job job' later) ∧
      ∀ run ∈ sys.committed .runs, run.status = .failed →
        ∃ run' ∈ sys'.committed .runs, run'.id = run.id ∧ run'.status = .failed := by
  have hsound := sound_of_served h
  refine ⟨fun job hjob => history_agrees hsound.consistent hsound.invariant hjob, events_perm h,
    fun c hc result hdone => one_event_of_answered (post_of_sound hsound hc hdone),
    fun sys' hsteps => ?_⟩
  obtain ⟨hsound', hevolves⟩ := sound_of_steps serves_answered hsound hsteps
  refine ⟨fun job hjob => goes_on_of_evolves hsound.consistent hsound'.consistent
    hsound.invariant hsound'.invariant hevolves hjob, fun run hrun hfailed => ?_⟩
  obtain ⟨run', hrun', hlater⟩ := hevolves.runs run hrun
  refine ⟨run', hrun', hlater.id, ?_⟩
  rw [hlater.terminal (by simp [hfailed, terminalStatuses]), hfailed]

/-- The history of the job with two runs. -/
theorem retried_job_history : HistoryAgrees retriedSystem.committed retriedJob ∧
    (eventsOf retriedSystem.committed retriedJob.id).map (·.eventType) =
      [createdEvent, transitionedEvent, transitionedEvent, retryReservedEvent, transitionedEvent,
        transitionedEvent] :=
  ⟨(job_history retried_system_served).1 retriedJob retried_job_mem, by decide +kernel⟩

end GrowthOs.Execution
