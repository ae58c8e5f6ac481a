import GrowthOs.Execution.Requests

/-!
# Every request is answered as its contract says

The rules of `Library.Interleaving` applied to each operation: its commit keeps the invariant of
the database, whatever other requests have committed since the operation read it, and it ends in
`Answered`.
-/

namespace GrowthOs.Execution

open Library Db

variable {arrived d : Database schema} {s s' : Session schema} {request : Request}

/-- The session has committed nothing. The database has evolved from the one at which the request
arrived, and from those at which a statement was refused. -/
structure Uncommitted (arrived : Database schema) (s : Session schema) : Prop where
  written : s.written = []
  seen : Invariant s.seen
  known : ∀ d ∈ arrived :: s.refused, Invariant d ∧ Evolves d s.seen

/-- A step that neither commits nor changes what is refused keeps the transaction open. -/
theorem Uncommitted.step (h : Uncommitted arrived s) (hd : executionRules.Relies s d)
    (hwritten : s'.written = s.written) (hrefused : s'.refused = s.refused)
    (hseen : s'.seen = d) : Uncommitted arrived s' := by
  refine ⟨hwritten.trans h.written, hseen ▸ hd.invariant, fun d' hd' => ?_⟩
  rw [hrefused] at hd'
  obtain ⟨hinvariant, hevolves⟩ := h.known d' hd'
  exact ⟨hinvariant, hseen ▸ hevolves.trans hd.evolves⟩

/-- So does a read. -/
theorem Uncommitted.read (h : Uncommitted arrived s) (hd : executionRules.Relies s d) :
    Uncommitted arrived { s with seen := d } :=
  h.step hd rfl rfl rfl

/-- So does a write. -/
theorem Uncommitted.write (h : Uncommitted arrived s) (hd : executionRules.Relies s d)
    (w : Write schema) : Uncommitted arrived { s with pending := s.pending ++ [w], seen := d } :=
  h.step hd rfl rfl rfl

/-- So does a rollback. -/
theorem Uncommitted.rolledBack (h : Uncommitted arrived s) (hd : executionRules.Relies s d) :
    Uncommitted arrived (s.rolledBack d) :=
  h.step hd rfl rfl rfl

/-- So does a failed statement. -/
theorem Uncommitted.interrupted (h : Uncommitted arrived s) (hd : executionRules.Relies s d) :
    Uncommitted arrived (s.interrupted d) :=
  h.step hd rfl rfl rfl

/-- So does a refused one. -/
theorem Uncommitted.refuse (h : Uncommitted arrived s) (hd : executionRules.Relies s d) :
    Uncommitted arrived (s.refuse d) := by
  refine ⟨h.written, hd.invariant, fun d' hd' => ?_⟩
  have hcase : d' ∈ arrived :: s.refused ∨ d' = d := by
    simpa [Session.refuse, or_assoc] using hd'
  rcases hcase with hd' | rfl
  · obtain ⟨hinvariant, hevolves⟩ := h.known d' hd'
    exact ⟨hinvariant, hevolves.trans hd.evolves⟩
  · exact ⟨hd.invariant, Evolves.refl _⟩

/-- The session has committed the writes of the request. -/
structure Stored (request : Request) (arrived : Database schema) (s : Session schema) : Prop where
  seen : Invariant s.seen
  known : ∀ d ∈ arrived :: s.refused, Invariant d ∧ Evolves d s.seen
  written : Committed request s.written
  kept : ∀ w ∈ s.written, Kept w s.seen
  first : ∀ context jobRequest, request = .createJob context jobRequest →
    ∀ d ∈ arrived :: s.refused, ∀ job ∈ d .jobs, ¬ HasKey context jobRequest.idempotencyKey job

/-- A commit of a request is not empty. -/
theorem committed_ne_nil {ws : List (Write schema)} (h : Committed request ws) : ws ≠ [] := by
  cases h <;> simp

/-- Rows that are in the database stay there, in later versions. -/
theorem kept_of_evolves {w : Write schema} {d d' : Database schema} (h : Kept w d)
    (hevolves : Evolves d d') : Kept w d' := by
  obtain ⟨t, old, new⟩ := w
  cases t with
  | jobs =>
      obtain ⟨job, hjob, hlater⟩ := h
      obtain ⟨job', hjob', hlater'⟩ := hevolves.jobs job hjob
      exact ⟨job', hjob', hlater.trans hlater'⟩
  | runs =>
      obtain ⟨run, hrun, hlater⟩ := h
      obtain ⟨run', hrun', hlater'⟩ := hevolves.runs run hrun
      exact ⟨run', hrun', hlater.trans hlater'⟩
  | proposals =>
      obtain ⟨proposal, hproposal, hlater⟩ := h
      obtain ⟨proposal', hproposal', hlater'⟩ := hevolves.proposals proposal hproposal
      exact ⟨proposal', hproposal', hlater.trans hlater'⟩
  | decisions => exact hevolves.decisions.subset h
  | auditEvents => exact hevolves.auditEvents.subset h
  | _ => exact trivial

/-- The written rows are in the database after the commit. -/
theorem kept_of_pending (hd : executionRules.Relies s d) {w : Write schema} (hw : w ∈ s.pending) :
    Kept w (s.view d) := by
  obtain ⟨t, old, new⟩ := w
  have hmem : new ∈ s.view d t := (puts_of_pending hd hw new).mpr (Or.inl rfl)
  cases t with
  | jobs => exact ⟨new, hmem, .refl new⟩
  | runs => exact ⟨new, hmem, .refl new⟩
  | proposals => exact ⟨new, hmem, .refl new⟩
  | decisions => exact hmem
  | auditEvents => exact hmem
  | _ => exact trivial

/-- A step after the commit keeps what is stored. -/
theorem Stored.step (h : Stored request arrived s) (hd : executionRules.Relies s d)
    (hwritten : s'.written = s.written) (hrefused : s'.refused = s.refused)
    (hseen : s'.seen = d) : Stored request arrived s' := by
  obtain ⟨-, hknown, hcommitted, hkept, hfirst⟩ := h
  rw [← hwritten] at hcommitted hkept
  rw [← hrefused] at hknown hfirst
  refine ⟨hseen ▸ hd.invariant, fun d' hd' => ?_, hcommitted,
    fun w hw => hseen ▸ kept_of_evolves (hkept w hw) hd.evolves, hfirst⟩
  obtain ⟨hinvariant, hevolves⟩ := hknown d' hd'
  exact ⟨hinvariant, hseen ▸ hevolves.trans hd.evolves⟩

/-- So does a read. -/
theorem Stored.read (h : Stored request arrived s) (hd : executionRules.Relies s d) :
    Stored request arrived { s with seen := d } :=
  h.step hd rfl rfl rfl

/-- So does a failed statement. -/
theorem Stored.interrupted (h : Stored request arrived s) (hd : executionRules.Relies s d) :
    Stored request arrived (s.interrupted d) :=
  h.step hd rfl rfl rfl

/-- A request other than `create_job` may fail before its commit. -/
theorem answered_error (h : Uncommitted arrived s) {e : ServiceError}
    (hrequest : ∀ context jobRequest, request ≠ .createJob context jobRequest)
    (hfailed : e = .database .operational → s.failed = true) :
    Answered request arrived (.error e) s where
  seen := h.seen
  known := h.known
  written := Or.inl h.written
  kept := by simp [h.written]
  success := fun _ heq => by cases heq
  error := fun _ _ => Or.inl h.written
  failed := fun heq => hfailed (Except.error.inj heq)
  replay := fun context jobRequest heq => absurd heq (hrequest context jobRequest)
  late := fun context jobRequest heq => absurd heq (hrequest context jobRequest)

/-- The connection may fail after the commit. -/
theorem answered_stored_failed (h : Stored request arrived s) (hfailed : s.failed = true) :
    Answered request arrived (.error (.database .operational)) s where
  seen := h.seen
  known := h.known
  written := Or.inr h.written
  kept := h.kept
  success := fun _ heq => by cases heq
  error := fun _ heq => Or.inr (Except.error.inj heq).symm
  failed := fun _ => hfailed
  replay := fun context jobRequest heq d hd job hjob hkey =>
    absurd hkey (h.first context jobRequest heq d hd job hjob)
  late := fun _ _ _ hnil => absurd hnil (committed_ne_nil h.written)

/-- A request succeeds after its commit. -/
theorem answered_stored (h : Stored request arrived s) {response : Response}
    (hnew : ¬ response.replayed request) : Answered request arrived (.ok response) s where
  seen := h.seen
  known := h.known
  written := Or.inr h.written
  kept := h.kept
  success := fun response' heq => by
    obtain rfl := Except.ok.inj heq
    exact iff_of_false (committed_ne_nil h.written) hnew
  error := fun _ heq => by cases heq
  failed := fun heq => by cases heq
  replay := fun context jobRequest heq d hd job hjob hkey =>
    absurd hkey (h.first context jobRequest heq d hd job hjob)
  late := fun _ _ _ hnil => absurd hnil (committed_ne_nil h.written)

/-! ## The rules of an open transaction -/

/-- Without pending writes a session sees the database. -/
theorem view_of_pending_nil (h : s.pending = []) (d : Database schema) : s.view d = d := by
  rw [Session.view, h]
  rfl

/-- The postcondition admits a failure of the connection before the commit. -/
def Fails {α : Type} (arrived : Database schema)
    (Q : Except ServiceError α → Session schema → Prop) : Prop :=
  ∀ s, Uncommitted arrived s → s.failed = true → Q (.error (.database .operational)) s

namespace Uncommitted

/-- The rule for a fresh identifier. -/
theorem wp_uuid4 {Q : Except ServiceError Uuid → Session schema → Prop} (h : Uncommitted arrived s)
    (hfails : Fails arrived Q)
    (hok : ∀ id s', Uncommitted arrived s' → s'.pending = s.pending →
      executionRules.Relies s s'.seen → Q (.ok id) s') :
    executionRules.wp uuid4 s Q :=
  Db.wp_uuid4 fun _ hd =>
    ⟨fun id => hok id _ (h.step hd rfl rfl rfl) rfl hd, hfails _ (h.interrupted hd) rfl⟩

/-- The rule for the query of one row. -/
theorem wp_scalar {t : Table} {condition : t.Row → Bool}
    {Q : Except ServiceError (Option t.Row) → Session schema → Prop} (h : Uncommitted arrived s)
    (hpending : s.pending = []) (hfails : Fails arrived Q)
    (hsome : ∀ row s', Uncommitted arrived s' → s'.pending = [] →
      executionRules.Relies s s'.seen → row ∈ s'.seen t → condition row = true →
      Q (.ok (some row)) s')
    (hnone : ∀ s', Uncommitted arrived s' → s'.pending = [] → executionRules.Relies s s'.seen →
      (∀ row ∈ s'.seen t, condition row = false) → Q (.ok none) s') :
    executionRules.wp (scalar t condition) s Q := by
  refine Db.wp_scalar fun d hd => ⟨fun row hrow => ?_, ?_, hfails _ (h.interrupted hd) rfl⟩
  · rw [view_of_pending_nil hpending] at hrow
    exact hsome row _ (h.read hd) hpending hd hrow
  · rw [view_of_pending_nil hpending]
    exact hnone _ (h.read hd) hpending hd

/-- The rule for a row of the tenant that is required. -/
theorem wp_require_owned {t : Table} {context : TenantContext} {id : Uuid}
    {Q : Except ServiceError t.Row → Session schema → Prop} (h : Uncommitted arrived s)
    (hpending : s.pending = []) (hfails : Fails arrived Q)
    (hok : ∀ row s', Uncommitted arrived s' → s'.pending = [] →
      executionRules.Relies s s'.seen → row ∈ s'.seen t → rowId row = id →
      rowTenant row = context.tenantId → Q (.ok row) s')
    (hnone : ∀ s', Uncommitted arrived s' → s'.refused = s.refused → Q (.error .notFound) s') :
    executionRules.wp (requireOwned t context id) s Q := by
  refine Db.wp_require_owned fun d hd =>
    ⟨fun row hrow => ?_, fun _ => hnone _ (h.read hd) rfl, hfails _ (h.interrupted hd) rfl⟩
  rw [view_of_pending_nil hpending] at hrow
  exact hok row _ (h.read hd) hpending hd hrow

/-- `_required_run` finds a run of the job. -/
theorem wp_required_run {context : TenantContext} {jobId : Uuid}
    {Q : Except ServiceError ExecutionRun → Session schema → Prop} (h : Uncommitted arrived s)
    (hpending : s.pending = []) (hfails : Fails arrived Q)
    (hok : ∀ run s', Uncommitted arrived s' → s'.pending = [] →
      executionRules.Relies s s'.seen → run ∈ runsOf s'.seen jobId →
      run.tenantId = context.tenantId → Q (.ok run) s')
    (hnone : ∀ s', Uncommitted arrived s' → executionRules.Relies s s'.seen →
      (∀ run ∈ runsOf s'.seen jobId, run.tenantId ≠ context.tenantId) →
      Q (.error .notFound) s') :
    executionRules.wp (requiredRun context jobId) s Q := by
  refine each_bind (Rules.wp_select fun d hd =>
    ⟨wp_required (fun run hrun => ?_) (fun habsent => ?_), hfails _ (h.interrupted hd) rfl⟩)
  · rw [view_of_pending_nil hpending] at hrun
    have hmem := List.argmax_mem hrun
    simp only [List.mem_filter, Bool.and_eq_true, decide_eq_true_eq] at hmem
    obtain ⟨hrun, htenant, hjob⟩ := hmem
    exact hok run _ (h.read hd) hpending hd ⟨hrun, hjob⟩ htenant
  · rw [view_of_pending_nil hpending] at habsent
    refine hnone _ (h.read hd) hd fun run hrun htenant => ?_
    have hempty := List.argmax_eq_none.mp habsent
    have hmem : run ∈ ([] : List ExecutionRun) := by
      rw [← hempty]
      simpa [hrun.2, htenant] using hrun.1
    cases hmem

/-- The rule for an update of a table without pending writes. -/
theorem wp_update {t : Table} {id : Uuid} {condition : t.Row → Bool} {set : Nat → t.Row → t.Row}
    {Q : Except ServiceError Bool → Session schema → Prop} (h : Uncommitted arrived s)
    (hfresh : ∀ w ∈ s.pending, t ≠ w.table) (hset : ∀ time row, rowId (set time row) = rowId row)
    (hfails : Fails arrived Q)
    (hok : ∀ time old s', Uncommitted arrived s' →
      s'.pending = s.pending ++ [⟨t, some old, set time old⟩] → executionRules.Relies s s'.seen →
      old ∈ s'.seen t → rowId old = id → condition old = true → Q (.ok true) s')
    (hrefused : ∀ s', Uncommitted arrived s' → Q (.error (.database .integrity)) s')
    (hnone : ∀ s', Uncommitted arrived s' → Q (.ok false) s') :
    executionRules.wp (statement (.update t id condition set)) s Q :=
  Db.wp_update hfresh hset fun _ hd =>
    ⟨fun time old hold hid hcondition =>
        ⟨hok time old _ (h.write hd _) rfl hd hold hid hcondition, hrefused _ (h.refuse hd)⟩,
      fun _ => hnone _ (h.read hd), hfails _ (h.interrupted hd) rfl⟩

/-- The rule for an update of a row that has been loaded. -/
theorem wp_update_loaded {t : Table} {id : Uuid} {set : Nat → t.Row → t.Row}
    {Q : Except ServiceError Unit → Session schema → Prop} (h : Uncommitted arrived s)
    (hfresh : ∀ w ∈ s.pending, t ≠ w.table) (hset : ∀ time row, rowId (set time row) = rowId row)
    (hfails : Fails arrived Q)
    (hok : ∀ time old s', Uncommitted arrived s' →
      s'.pending = s.pending ++ [⟨t, some old, set time old⟩] → executionRules.Relies s s'.seen →
      old ∈ s'.seen t → rowId old = id → Q (.ok ()) s')
    (hrefused : ∀ s', Uncommitted arrived s' → Q (.error (.database .integrity)) s')
    (hnone : ∀ s', Uncommitted arrived s' → Q (.error .staleData) s') :
    executionRules.wp (updateLoaded t id set) s Q :=
  Db.wp_update_loaded hfresh hset fun _ hd =>
    ⟨fun time old hold hid =>
        ⟨hok time old _ (h.write hd _) rfl hd hold hid, hrefused _ (h.refuse hd)⟩,
      fun _ => hnone _ (h.read hd), hfails _ (h.interrupted hd) rfl⟩

/-- The rule for an insertion. -/
theorem wp_insert {t : Table} {row : Nat → t.Row}
    {Q : Except ServiceError Unit → Session schema → Prop} (h : Uncommitted arrived s)
    (hfresh : ∀ w ∈ s.pending, t ≠ w.table) (hfails : Fails arrived Q)
    (hok : ∀ time s', Uncommitted arrived s' →
      s'.pending = s.pending ++ [⟨t, none, row time⟩] → executionRules.Relies s s'.seen →
      Q (.ok ()) s')
    (hrefused : ∀ s', Uncommitted arrived s' → Q (.error (.database .integrity)) s') :
    executionRules.wp (insert t row) s Q :=
  Db.wp_insert hfresh fun _ hd =>
    ⟨fun time => hok time _ (h.write hd _) rfl hd, hrefused _ (h.refuse hd),
      hfails _ (h.interrupted hd) rfl⟩

/-- The rule for a rollback. -/
theorem wp_rollback {Q : Except ServiceError Unit → Session schema → Prop}
    (h : Uncommitted arrived s) (hfails : Fails arrived Q)
    (hok : ∀ s', Uncommitted arrived s' → s'.pending = [] → executionRules.Relies s s'.seen →
      Q (.ok ()) s') : executionRules.wp rollback s Q :=
  Rules.wp_rollback fun _ hd =>
    ⟨hok _ (h.rolledBack hd) rfl hd, hfails _ (h.interrupted hd) rfl⟩

/-- The commit of the writes of a request. -/
theorem wp_commit {Q : Except ServiceError Unit → Session schema → Prop}
    (h : Uncommitted arrived s) (request : Request) (hfails : Fails arrived Q)
    (hcommit : ∀ d, executionRules.Relies s d → Invariant (s.view d) ∧ Evolves d (s.view d) ∧
      Committed request s.pending ∧
      ∀ context jobRequest, request = .createJob context jobRequest →
        ∀ job ∈ d .jobs, ¬ HasKey context jobRequest.idempotencyKey job)
    (hok : ∀ s', Stored request arrived s' → s'.pending = [] → s'.written = s.pending →
      Q (.ok ()) s') : executionRules.wp commit s Q := by
  refine Db.wp_commit fun d hd _ => ?_
  obtain ⟨hinvariant, hevolves, hcommitted, hfirst⟩ := hcommit d hd
  have hwritten : (s.committed d).written = s.pending := by
    show s.written ++ s.pending = s.pending
    rw [h.written, List.nil_append]
  refine ⟨hinvariant, hevolves,
    hok _ ⟨hinvariant, fun d' hd' => ?_, hwritten ▸ hcommitted, fun w hw => ?_, ?_⟩ rfl hwritten,
    hfails _ (h.interrupted hd) rfl⟩
  · obtain ⟨hinvariant', hevolves'⟩ := h.known d' hd'
    exact ⟨hinvariant', (hevolves'.trans hd.evolves).trans hevolves⟩
  · exact kept_of_pending hd (hwritten ▸ hw)
  · -- A job with the key would still be there at the commit.
    intro context jobRequest heq d' hd' job hjob hkey
    obtain ⟨job', hjob', hlater⟩ := ((h.known d' hd').2.trans hd.evolves).jobs job hjob
    exact hfirst context jobRequest heq job' hjob'
      ⟨hlater.tenantId.trans hkey.1, hlater.idempotencyKey.trans hkey.2⟩

/-- `except IntegrityError`: the handler starts after a rollback, and nothing is committed. -/
theorem wp_on_integrity_error {α : Type} {body handler : Service α}
    {Q : Except ServiceError α → Session schema → Prop} (hfails : Fails arrived Q)
    (hhandler : ∀ s', Uncommitted arrived s' → s'.pending = [] → executionRules.wp handler s' Q)
    (h : executionRules.wp body s fun result s' => match result with
      | .error (.database .integrity) => Uncommitted arrived s'
      | result => Q result s') :
    executionRules.wp (onIntegrityError body handler) s Q := by
  refine Db.wp_on_integrity_error (each_post h fun result s' hresult => ?_)
  match result, hresult with
  | .ok a, hQ => exact hQ
  | .error (.database .integrity), huncommitted =>
      exact fun d hd => ⟨hhandler _ (huncommitted.rolledBack hd) rfl,
        hfails _ (huncommitted.interrupted hd) rfl⟩
  | .error .notFound, hQ => exact hQ
  | .error .conflict, hQ => exact hQ
  | .error (.invalidStateTransition message), hQ => exact hQ
  | .error (.database .operational), hQ => exact hQ
  | .error .invalidRequest, hQ => exact hQ
  | .error .staleData, hQ => exact hQ

end Uncommitted

/-- A row that the request has committed has a later version. -/
theorem Stored.row (h : Stored request arrived s) (hd : executionRules.Relies s d) {t : Table}
    (ht : t ∈ [Table.jobs, .runs, .proposals, .decisions]) {old : Option t.Row} {new : t.Row}
    (hw : ⟨t, old, new⟩ ∈ s.written) : ∃ row ∈ d t, rowId row = rowId new := by
  have hkept := kept_of_evolves (h.kept _ hw) hd.evolves
  cases t with
  | jobs =>
      obtain ⟨job, hjob, hlater⟩ := hkept
      exact ⟨job, hjob, hlater.id⟩
  | runs =>
      obtain ⟨run, hrun, hlater⟩ := hkept
      exact ⟨run, hrun, hlater.id⟩
  | proposals =>
      obtain ⟨proposal, hproposal, hlater⟩ := hkept
      exact ⟨proposal, hproposal, hlater.id⟩
  | decisions => exact ⟨new, hkept, rfl⟩
  | _ => simp at ht

/-- A refresh of a row that the request has committed. -/
theorem Stored.wp_refresh {t : Table} {id : Uuid}
    {Q : Except ServiceError t.Row → Session schema → Prop} (h : Stored request arrived s)
    (hpending : s.pending = []) (ht : t ∈ [Table.jobs, .runs, .proposals, .decisions])
    {old : Option t.Row} {new : t.Row} (hw : ⟨t, old, new⟩ ∈ s.written) (hid : rowId new = id)
    (hfails : ∀ s', Stored request arrived s' → s'.failed = true →
      Q (.error (.database .operational)) s')
    (hok : ∀ row s', Stored request arrived s' → s'.pending = [] → s'.written = s.written →
      rowId row = id → Q (.ok row) s') :
    executionRules.wp (refresh t id) s Q := by
  refine Db.wp_refresh fun d hd => ?_
  rw [view_of_pending_nil hpending]
  exact ⟨hid ▸ h.row hd ht hw, fun row _ hid => hok row _ (h.read hd) hpending rfl hid,
    hfails _ (h.interrupted hd) rfl⟩

/-- A run that was read stays. -/
theorem run_kept {run : ExecutionRun} {d d' : Database schema} (hevolves : Evolves d d')
    (h : ∃ r ∈ d .runs, SameAttempt run r) : ∃ r ∈ d' .runs, SameAttempt run r := by
  obtain ⟨r, hr, hsame⟩ := h
  obtain ⟨r', hr', hlater⟩ := hevolves.runs r hr
  exact ⟨r', hr', hsame.trans hlater.toSameAttempt⟩

/-- The row with the identifier of a run that was read is that run. -/
theorem same_attempt_of_id {d d' : Database schema} (hevolves : Evolves d d')
    (hconsistent : Consistent d') {run old : ExecutionRun} (hrun : run ∈ d .runs)
    (hold : old ∈ d' .runs) (hid : old.id = run.id) : SameAttempt run old := by
  obtain ⟨r, hr, hsame⟩ := run_kept hevolves ⟨run, hrun, .refl run⟩
  rwa [eq_of_ident_eq (hconsistent .runs) hold hr (hid.trans hsame.id.symm)]

end GrowthOs.Execution
