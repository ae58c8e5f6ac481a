import GrowthOs.Handoff.Quiet

/-!
# Where a Ctrl-C ends up

A Ctrl-C that no other handler takes reaches the handler of `run_watch`, which records `STOPPED`.
The conditions here are about the answers that raise one, at their places in the script: `StopsIdle`
lets a Ctrl-C reach that handler only from a record that is not active, and `StopsIdleTask` also
bounds the Ctrl-C that the handler of a recovery hands on. What the scripts of a round make of a
Ctrl-C is `passes_reconcile_stale_run`, `passes_handle_task_interrupt` and
`safe_under_handle_recovery_interrupt`; `safe_under_watch_round` takes them to the round.
-/

namespace GrowthOs.Handoff

open Library

variable {W : Type} {idle : W → Prop}

/-- The command raises a Ctrl-C where only the handler of `run_watch` takes it. -/
def ReachesStop (command : Command)
    (next : Except Raised (Answer command) → Controller (Option HandoffEntry))
    (answer : Except Raised (Answer command)) : Prop :=
  answer = .error .keyboardInterrupt ∧ next answer = guardRound (fail .keyboardInterrupt)

/-- The handler of a Ctrl-C in a recovery reads the record and hands the Ctrl-C on to the handler of
`run_watch`. -/
def HandsOnStop (command : Command)
    (next : Except Raised (Answer command) → Controller (Option HandoffEntry))
    (answer : Except Raised (Answer command)) : Prop :=
  (∃ recovery, .perform command next = guardRound (do
    handleRecoveryInterrupt recovery
    pure true)) ∧ next answer = guardRound (fail .keyboardInterrupt)

/-- A Ctrl-C reaches the handler of `run_watch` only where the world is idle. -/
def StopsIdle (idle : W → Prop) : Condition Answer Raised (Option HandoffEntry) W :=
  fun command next answer w => ReachesStop command next answer → idle w

/-- The same for a Ctrl-C that the handler of a recovery hands on. -/
def StopsIdleTask (idle : W → Prop) : Condition Answer Raised (Option HandoffEntry) W :=
  fun command next answer w =>
    (ReachesStop command next answer ∨ HandsOnStop command next answer) → idle w

/-- A condition on a round as one on its body. -/
def inRound (allowed : Condition Answer Raised (Option HandoffEntry) W) :
    Condition Answer Raised Bool W :=
  fun command next answer w => allowed command (fun answer => guardRound (next answer)) answer w

/-- What the body of a round raises last is what reaches the handler. -/
theorem bounds_stops_idle : (inRound (StopsIdle idle)).Bounds .keyboardInterrupt idle := by
  intro command next w hnext hmeets
  refine hmeets ⟨rfl, ?_⟩
  show guardRound (next (.error .keyboardInterrupt)) = _
  rw [hnext]
  rfl

/-- The same under the stronger condition. -/
theorem bounds_stops_idle_task : (inRound (StopsIdleTask idle)).Bounds .keyboardInterrupt idle := by
  intro command next w hnext hmeets
  refine hmeets (.inl ⟨rfl, ?_⟩)
  show guardRound (next (.error .keyboardInterrupt)) = _
  rw [hnext]
  rfl

section

variable {α β : Type} {context : StatusContext}

/-- The script hands a Ctrl-C on wherever a command raises it. -/
abbrev PassesStop (p : Controller α) : Prop := Passes .keyboardInterrupt p

/-- A command. -/
theorem passes_call (command : Command) : PassesStop (call command) := passes_issue _ command

/-- An exception of the controller itself. -/
theorem passes_fail {e : Raised} (h : e ≠ .keyboardInterrupt) :
    PassesStop (fail e : Controller α) := passes_raise h

/-- `write_status`. -/
theorem passes_write (state : HandoffState) (update : StatusUpdate) :
    PassesStop (writeStatus state update) :=
  passes_bind (passes_call _) fun _ => passes_call _

/-- `recovery_blocked_error`. -/
theorem passes_fail_blocked (codexPid : Option Int) (detail : String) :
    PassesStop (failBlocked context codexPid detail : Controller α) :=
  passes_bind (passes_write _ _) fun _ => passes_fail nofun

/-- `heartbeat_is_stale`. -/
theorem passes_heartbeat_is_stale (value : Option String) (timeout : Option Rat) :
    PassesStop (heartbeatIsStale value timeout) := by
  unfold heartbeatIsStale
  split
  · refine passes_ite (passes_fail nofun) (passes_bind (passes_call _) fun age => ?_)
    cases age with
    | unparsable | naive => exact passes_fail nofun
    | seconds age => exact passes_pure _ _
  · exact passes_fail nofun

/-- A recorded process group that is still running. -/
theorem passes_stop_orphan (status : Status) (pid : Int) :
    PassesStop (stopOrphan status context pid) := by
  refine passes_bind (passes_call _) fun running => ?_
  refine passes_bind (passes_ite (passes_call _) (passes_pure _ _)) fun identity => ?_
  refine passes_ite (passes_fail_blocked _ _) ?_
  refine passes_bind (passes_heartbeat_is_stale _ _) fun stale => ?_
  exact passes_ite (passes_fail nofun) (passes_call _)

/-- The recorded child. -/
theorem passes_reconcile_child (status : Status) : PassesStop (reconcileChild status context) := by
  unfold reconcileChild
  cases status.codexPid with
  | none => exact passes_pure _ _
  | some pid =>
      refine passes_ite (passes_ite ?_ ?_) (passes_pure _ _)
      · refine passes_bind (passes_call _) fun running => ?_
        refine passes_bind (passes_ite (passes_stop_orphan status pid) (passes_pure _ _)) fun _ =>
          ?_
        exact passes_pure _ _
      · refine passes_bind (passes_call _) fun running => ?_
        exact passes_ite (passes_fail_blocked _ _) (passes_pure _ _)

/-- `replace_label`. -/
theorem passes_replace_label (number : Int) (added removed : String) :
    PassesStop (replaceLabel number added removed) :=
  passes_bind (passes_call _) fun _ => passes_call _

/-- `record_issue_failure`. -/
theorem passes_record_issue_failure (number : Int) (title : String) (error : Raised) :
    PassesStop (recordIssueFailure number title error) :=
  passes_bind (passes_write _ _) fun _ =>
    passes_bind (passes_replace_label _ _ _) fun _ => passes_call _

variable (setting : Setting)

/-- `load_recovery_issue`. -/
theorem passes_load_recovery_issue : PassesStop (loadRecoveryIssue setting context) := by
  refine passes_bind (passes_call _) fun payload => ?_
  cases payload with
  | none => exact passes_fail nofun
  | some payload => exact passes_ite (passes_pure _ _) (passes_fail nofun)

/-- A staged commit with a clean working tree. -/
theorem passes_recover_pending_commit (status : Status) :
    PassesStop (recoverPendingCommit status context) := by
  have hrevision : PassesStop headRevision :=
    passes_bind (passes_call _) fun _ => passes_bind (passes_call _) fun _ =>
      passes_bind (passes_call _) fun _ => passes_bind (passes_call _) fun _ => passes_pure _ _
  refine passes_bind hrevision fun revision => ?_
  exact passes_ite (passes_bind (passes_write _ _) fun _ => passes_pure _ _) (passes_fail nofun)

/-- A task that left no changes and no commit. -/
theorem passes_fail_without_changes : PassesStop (failWithoutChanges setting context) :=
  passes_bind (passes_write _ _) fun _ =>
    passes_bind (passes_load_recovery_issue setting) fun _ =>
      passes_bind (passes_record_issue_failure _ _ _) fun _ => passes_fail nofun

/-- The end of `reconcile_stale_run`. -/
theorem passes_reconcile_changes (status : Status) (stoppedChild hasChanges : Bool) :
    PassesStop (reconcileChanges setting status context stoppedChild hasChanges) := by
  have hrefused : ∀ {update : StatusUpdate} {detail : String}, PassesStop (do
      writeStatus .recoveryConfirmationRequired update
      fail (.runtimeError detail) : Controller StatusContext) :=
    passes_bind (passes_write _ _) fun _ => passes_fail nofun
  refine passes_ite (passes_recover_pending_commit status) ?_
  refine passes_ite (passes_fail_without_changes setting) ?_
  refine passes_ite hrefused (passes_ite hrefused ?_)
  exact passes_bind (passes_write _ _) fun _ => passes_pure _ _

/-- `reconcile_stale_run` of an active record. -/
theorem passes_reconcile_task (status : Status) :
    PassesStop (reconcileTask setting status context) := by
  have hbase : PassesStop (checkStoppedBase status context) :=
    passes_bind (passes_call _) fun _ => passes_ite (passes_fail_blocked _ _) (passes_pure _ _)
  refine passes_ite (passes_fail nofun) (passes_bind (passes_reconcile_child status)
    fun stopped => ?_)
  refine passes_bind (passes_call _) fun branch => passes_ite (passes_fail_blocked _ _) ?_
  refine passes_bind (passes_ite hbase (passes_pure _ _)) fun _ => ?_
  exact passes_bind (passes_call _) fun _ => passes_reconcile_changes setting status _ _

/-- `reconcile_stale_run`. -/
theorem passes_reconcile_stale_run : PassesStop (reconcileStaleRun setting) := by
  refine passes_bind (passes_call _) fun file => ?_
  cases file with
  | missing => exact passes_pure _ _
  | unreadable => exact passes_fail nofun
  | record status =>
      refine passes_ite (passes_pure _ _) ?_
      cases status.context with
      | none => exact passes_fail nofun
      | some context =>
          exact passes_bind (passes_reconcile_task setting status) fun _ => passes_pure _ _

end

/-- An error to raise that is no Ctrl-C. -/
def NoInterrupt (recovery : Option Raised) : Prop := recovery ≠ some .keyboardInterrupt

/-- The handlers raise a `RecoverableChangesError`. -/
theorem passes_preserve (context : StatusContext) (text : String) :
    PassesStop (do
      writeStatus .recoverableChanges (.of context {})
      pure (some (Raised.recoverableChangesError text)) : Controller (Option Raised)) :=
  passes_bind (passes_write _ _) fun _ => passes_pure _ _

/-- That is what they return to be raised. -/
theorem yields_preserve (context : StatusContext) (text : String) :
    Yields (fun recovery => ∃ text, recovery = some (.recoverableChangesError text)) (do
      writeStatus .recoverableChanges (.of context {})
      pure (some (Raised.recoverableChangesError text)) : Controller (Option Raised)) :=
  yields_bind _ fun _ => ⟨text, rfl⟩

/-- `recoverable_finalization_error`. -/
theorem passes_recoverable_finalization_error (number : Int) (error : Raised) :
    PassesStop (recoverableFinalizationError number error) := by
  refine passes_bind (passes_call _) fun file => ?_
  cases file with
  | missing | unreadable => exact passes_pure _ _
  | record status =>
      refine passes_ite (passes_pure _ _) (passes_ite (passes_pure _ _) ?_)
      cases status.context with
      | none => exact passes_pure _ _
      | some context => exact passes_preserve context _

/-- What `recoverable_finalization_error` returns is no Ctrl-C. -/
theorem yields_recoverable_finalization_error (number : Int) (error : Raised) :
    Yields NoInterrupt (recoverableFinalizationError number error) := by
  refine yields_bind _ fun file => ?_
  cases file with
  | missing | unreadable => exact nofun
  | record status =>
      refine yields_ite nofun (yields_ite nofun ?_)
      cases status.context with
      | none => exact nofun
      | some context => exact yields_bind _ fun _ => nofun

/-- `recoverable_interruption_error`. -/
theorem passes_recoverable_interruption_error (context : StatusContext) (error : Raised) :
    PassesStop (recoverableInterruptionError context error) := by
  refine passes_bind (passes_call _) fun file => ?_
  cases file with
  | missing | unreadable => exact passes_pure _ _
  | record status => exact passes_ite (passes_preserve context _) (passes_pure _ _)

/-- What `recoverable_interruption_error` returns is no Ctrl-C. -/
theorem yields_recoverable_interruption_error (context : StatusContext) (error : Raised) :
    Yields NoInterrupt (recoverableInterruptionError context error) := by
  refine yields_bind _ fun file => ?_
  cases file with
  | missing | unreadable => exact nofun
  | record status => exact yields_ite (yields_bind _ fun _ => nofun) nofun

/-- `recorded_status_context`. -/
theorem passes_recorded_status_context (issue : Issue) :
    PassesStop (recordedStatusContext issue) := by
  refine passes_bind (passes_call _) fun file => ?_
  cases file with
  | missing | unreadable => exact passes_pure _ _
  | record status => exact passes_ite (passes_pure _ _) (passes_pure _ _)

/-- The handler of an `Exception` of `process_issue`. -/
theorem passes_handle_task_error (issue : Issue) {error : Raised}
    (herror : error ≠ .keyboardInterrupt) : PassesStop (handleTaskError issue error) := by
  refine passes_bind_of_yields (passes_recoverable_finalization_error _ _)
    (yields_recoverable_finalization_error _ _) fun recovery hrecovery => ?_
  cases recovery with
  | some recovery => exact passes_fail fun h => hrecovery (congrArg some h)
  | none => exact passes_bind (passes_record_issue_failure _ _ _) fun _ => passes_fail herror

/-- The recovery error of `run_watch` at a Ctrl-C of `process_issue`. -/
theorem passes_task_interruption (issue : Issue) : PassesStop (taskInterruption issue) := by
  refine passes_bind (passes_recoverable_finalization_error _ _) fun recovery => ?_
  cases recovery with
  | some recovery => exact passes_pure _ _
  | none =>
      refine passes_bind (passes_recorded_status_context issue) fun recorded => ?_
      cases recorded with
      | some context => exact passes_recoverable_interruption_error context _
      | none => exact passes_pure _ _

/-- It is no Ctrl-C. -/
theorem yields_task_interruption (issue : Issue) : Yields NoInterrupt (taskInterruption issue) := by
  refine yields_bind_of_yields (yields_recoverable_finalization_error _ _)
    fun recovery hrecovery => ?_
  cases recovery with
  | some recovery => exact hrecovery
  | none =>
      refine yields_bind _ fun recorded => ?_
      cases recorded with
      | some context => exact yields_recoverable_interruption_error context _
      | none => exact nofun

/-- The handler of a Ctrl-C of `process_issue` takes it, and lets a second one through. -/
theorem passes_handle_task_interrupt (issue : Issue) : PassesStop (handleTaskInterrupt issue) := by
  refine passes_bind_of_yields (passes_task_interruption issue) (yields_task_interruption issue)
    fun recovery hrecovery => ?_
  cases recovery with
  | some recovery => exact passes_fail fun h => hrecovery (congrArg some h)
  | none => exact passes_record_issue_failure _ _ _

/-! ## A round -/

section

variable {exec : Exec Answer Raised W} {I J : W → Prop} {w : W} {setting : Setting}

/-- How a script of a round ends: a Ctrl-C that it hands on leaves the world ready for `STOPPED`. -/
def StopsAt {α : Type} (J ready : W → Prop) (result : Except Raised α) (w : W) : Prop :=
  J w ∧ (result = .error .keyboardInterrupt → ready w)

/-- A round ends where its body and the handler of Ctrl-C do, up to the release of the lock. -/
theorem safe_under_watch_round {allowed : Condition Answer Raised (Option HandoffEntry) W}
    {ready : W → Prop} (hbody : SafeUnder exec (inRound allowed) I (watchBody setting) w
      (StopsAt J ready))
    (hstop : ∀ w, ready w → Safe exec I (stopWatch .keyboardInterrupt) w fun _ w' => J w')
    (hJ : ∀ w, J w → I w)
    (hrelease : ∀ w answer w', J w → exec .releaseLock w answer w' → J w') :
    SafeUnder exec allowed I (watchRound setting) w fun _ w' => J w' := by
  refine safe_under_and_then (safe_under_post (Q := fun _ w' => J w') ?_ fun result w₁ hI hw₁ =>
    safe_under_of_safe (safe_round_end hJ hrelease result hw₁))
  refine safe_under_and_then (safe_under_post hbody fun result w₁ hI hw₁ => safe_under_of_safe ?_)
  cases result with
  | ok goesOn => exact ⟨hI, hw₁.1⟩
  | error e =>
      cases e with
      | keyboardInterrupt => exact hstop w₁ (hw₁.2 rfl)
      | calledProcessError | jsonDecodeError | runtimeError | valueError | recoverableChangesError
      | activeOrphanError | otherException => exact safe_raise hI hw₁.1

/-- The handler of a Ctrl-C in a recovery hands it on only where the world is idle: a second Ctrl-C
is bounded as the last answer, and the first one at the read of the record. -/
theorem safe_under_handle_recovery_interrupt {recovery : StatusContext}
    (h : Safe exec I (do
      handleRecoveryInterrupt recovery
      pure true : Controller Bool) w fun _ w' => J w') :
    SafeUnder exec (inRound (StopsIdleTask idle)) I (do
      handleRecoveryInterrupt recovery
      pure true : Controller Bool) w (StopsAt J idle) := by
  refine ⟨h.1, fun answer w' hexec hmeets => ?_⟩
  have hrest := h.2 answer w' hexec
  cases answer with
  | error e =>
      refine ⟨hrest.1, hrest.2, fun hresult => ?_⟩
      obtain rfl : e = .keyboardInterrupt := Except.error.inj hresult
      exact bounds_stops_idle_task _ _ w' rfl hmeets
  | ok file =>
      cases file with
      | missing | unreadable =>
          exact ⟨hrest.1, hrest.2, fun _ => hmeets (.inr ⟨⟨recovery, rfl⟩, rfl⟩)⟩
      | record status =>
          have hrest : Safe exec I (((if status.interruptible then _ else _ :
            Controller (Option Raised)).andThen _).andThen _) w' fun _ w' => J w' := hrest
          show SafeUnder exec _ I (((if status.interruptible then _ else _ :
            Controller (Option Raised)).andThen _).andThen _) w' _
          by_cases hpreserved : status.interruptible = true
          · rw [if_pos hpreserved] at hrest ⊢
            refine safe_under_of_passes
              (passes_bind (passes_bind_of_yields (passes_preserve recovery _)
              (yields_preserve recovery _) fun recovered hrecovered => ?_) fun _ => passes_pure _ _)
              hrest bounds_stops_idle_task
            obtain ⟨text, rfl⟩ := hrecovered
            exact passes_fail nofun
          · rw [if_neg hpreserved] at hrest ⊢
            refine ⟨hrest.1, hrest.2, fun _ => hmeets (.inr ⟨⟨recovery, rfl⟩, ?_⟩)⟩
            show guardRound (((if status.interruptible then _ else _ :
              Controller (Option Raised)).andThen _).andThen _) = _
            rw [if_neg hpreserved]
            rfl

end

end GrowthOs.Handoff
