import GrowthOs.Handoff.Interruptions

/-!
# The commit window

`commit_with_recovery_checkpoint` records a `STAGED` checkpoint, commits, and records `COMMITTED`.
It can be interrupted at every command, its exceptions meet the handlers of its callers, and later
reconciliations can be blocked. `commit_window_iff` says when the next `reconcile_stale_run` still
recovers the commit: nothing may rewrite the `COMMITTING` record in between.
-/

namespace GrowthOs.Handoff

open Library

/-- What a command does to the status file. A write is atomic, and everything else is answered in
any way. -/
def fileExec : Exec Answer Raised StatusFile
  | .readStatus, file, answer, file' => file' = file ∧ ∀ read, answer = .ok read → read = file
  | .writeStatus status, file, answer, file' =>
      file' = .record status ∨ file' = file ∧ ∃ e, answer = .error e
  | _, file, _, file' => file' = file

/-- What Git says of a checkout. -/
structure GitView where
  revision : HeadRevision
  branch : String
  changes : List StatusEntry

/-- The answers for a status file and a checkout that nobody else changes. What is not asked of them
is answered in any way. -/
def answerView (others : (command : Command) → Except Raised (Answer command)) (view : GitView) :
    (command : Command) → StatusFile → Except Raised (Answer command) × StatusFile
  | .readStatus, file => (.ok file, file)
  | .writeStatus status, _ => (.ok (), .record status)
  | .gitHead, file => (.ok view.revision.head, file)
  | .gitHeadParent, file => (.ok view.revision.parent, file)
  | .gitHeadSubject, file => (.ok view.revision.subject, file)
  | .gitHeadTree, file => (.ok view.revision.tree, file)
  | .gitCurrentBranch, file => (.ok view.branch, file)
  | .gitStatus, file => (.ok view.changes, file)
  | command, file => (others command, file)

/-- The issue of a task. -/
def StatusContext.issueWith (context : StatusContext) (body login : Option String) : Issue :=
  ⟨context.issue, context.title, body, login⟩

/-- The handler around the loop of `run_watch`. -/
def watchHandler (e : Raised) : Controller Unit := do
  let _ ← stopWatch e
  pure ()

/-- The callers of `commit_with_recovery_checkpoint`: the task of an issue, or its recovery, in
`run_once` or in `run_watch`. `confirm_recovery` recovers as `run_once` does. -/
inductive WindowCaller where
  | onceTask (body login : Option String)
  | watchTask (body login : Option String)
  | onceRecovery
  | watchRecovery
  deriving DecidableEq, Repr

/-- What a caller does with an exception of `commit_with_recovery_checkpoint`. -/
def WindowCaller.handles (context : StatusContext) : WindowCaller → Raised → Controller Unit
  | .onceTask body login, e => onceTaskHandler (context.issueWith body login) e
  | .watchTask body login, e =>
      (watchTaskHandler (context.issueWith body login) e).handle watchHandler
  | .onceRecovery, e => recoveryHandler context e
  | .watchRecovery, e =>
      ((recoveryHandler context e).handle (watchRecoveryHandler context)).handle watchHandler

/-- An interruption of `commit_with_recovery_checkpoint`: a crash at any command, or an exception,
of which a crash can also cut off the handlers. `left` is the status file that the function leaves,
`ended` the one that the process leaves. -/
inductive Interrupted (setting : Setting) (context : StatusContext) (subject : String)
    (start : StatusFile) : (left ended : StatusFile) → Prop where
  | crash {left : StatusFile}
      (cut : CutOff fileExec (commitWithRecoveryCheckpoint setting context subject) start left) :
      Interrupted setting context subject start left left
  | raised {left ended : StatusFile} (caller : WindowCaller) (e : Raised)
      (raises : Ends fileExec (commitWithRecoveryCheckpoint setting context subject) start
        (.error e) left)
      (handled : CutOff fileExec (caller.handles context e) left ended) :
      Interrupted setting context subject start left ended

/-- A reconciliation that leaves `RECOVERY_BLOCKED`. -/
def BlockedReconciliation (setting : Setting) (file blocked : StatusFile) : Prop :=
  CutOff fileExec (reconcileStaleRun setting) file blocked ∧
    ∃ status, blocked = .record status ∧ status.state = .recoveryBlocked

/-- HEAD is exactly the pending commit that the checkpoint of the record describes. -/
structure Status.DescribesHead (status : Status) (context : StatusContext)
    (revision : HeadRevision) : Prop where
  pending : status.finalizationCheckpoint = some .staged ∨
    status.finalizationCheckpoint = some .committed
  proven : status.provesCommit context revision = true
  recorded : status.finalizationCheckpoint = some .committed →
    status.commitSha = some revision.head

/-- `reconcile_stale_run` recovers the task as `COMMITTED`, with HEAD as its commit. -/
def RecoversCommit (setting : Setting)
    (others : (command : Command) → Except Raised (Answer command)) (context : StatusContext)
    (view : GitView) (status : Status) : Prop :=
  ∃ recovered : Status, (reconcileStaleRun setting).eval (answerView others view) (.record status) =
      (.ok (some context), .record recovered) ∧
    recovered.state = .recoverableChanges ∧
    recovered.finalizationCheckpoint = some .committed ∧
    recovered.commitSha = some view.revision.head

/-- The condition for it. `left` is the record that `commit_with_recovery_checkpoint` leaves,
`found` the one that the next reconciliation reads. -/
structure CommitCondition (context : StatusContext) (view : GitView) (left found : Status) :
    Prop where
  branch : view.branch = context.branch
  named : context.title ≠ "" ∧ context.branch ≠ "" ∧ context.startedAt ≠ ""
  kept : left.state = .committing ∧ found = left ∧ view.changes = [] ∨
    left.state = .committed ∧ found.state.active = true

/-- A command that does not write the status file. -/
def Command.Leaves (command : Command) : Prop := ∀ status, command ≠ .writeStatus status

/-- A command that does not write the status file leaves it. -/
theorem file_exec_leaves {command : Command} {answer : Except Raised (Answer command)}
    {file file' : StatusFile} (hcommand : command.Leaves)
    (hexec : fileExec command file answer file') : file' = file := by
  cases command with
  | writeStatus status => exact absurd rfl (hcommand status)
  | readStatus => exact hexec.1
  | _ => exact hexec

/-- The commands of a kind do not write it. -/
theorem leaves_of_kind {command : Command} {kind : CommandKind} (h : command.kind = some kind) :
    command.Leaves := by
  intro status heq
  subst heq
  cases h

/-- The scripts that do not write the status file. -/
abbrev LeavingPart (γ : Type) (p : Controller γ) : Prop := Only Command.Leaves p

/-- A script of such parts does not either. -/
theorem leaves_of_steps {α : Type} {p : Controller α} (h : Composed LeavingPart p) :
    Only Command.Leaves p := only_composed h id

/-- Every kind is allowed in it. -/
theorem leaving_allows {kind : CommandKind} : Allows LeavingPart kind :=
  fun _ hkind => only_call (leaves_of_kind hkind)

section

variable {α β : Type} {I : StatusFile → Prop} {file : StatusFile}

/-- A script that does not write the file, in front of another. -/
theorem safe_file_bind {p : Controller β} {k : β → Controller α} (hp : Only Command.Leaves p)
    (hI : I file) (hk : ∀ b, Safe fileExec I (k b) file fun _ _ => True) :
    Safe fileExec I (p >>= k) file fun _ _ => True := by
  have hkept : Safe fileExec I p file fun _ file' => file' = file :=
    safe_of_only hp (fun _ hw => hw ▸ hI)
      (fun _ _ _ _ hc hw hexec => (file_exec_leaves hc hexec).trans hw) rfl
  refine safe_bind (safe_post hkept fun result file' _ hfile => ?_)
  subst hfile
  cases result with
  | ok b => exact hk b
  | error e => trivial

/-- Such a script alone. -/
theorem safe_file_leaves {p : Controller α} (hp : Only Command.Leaves p) (hI : I file) :
    Safe fileExec I p file fun _ _ => True := by
  have hkept : Safe fileExec I p file fun _ file' => I file' :=
    safe_of_only hp (fun _ hw => hw)
      (fun _ _ _ _ hc hw hexec => (file_exec_leaves hc hexec).symm ▸ hw) hI
  exact safe_post hkept fun _ _ _ _ => trivial

/-- What is read is the status file. -/
theorem safe_file_read {k : StatusFile → Controller α} (hI : I file)
    (hk : Safe fileExec I (k file) file fun _ _ => True) :
    Safe fileExec I (call .readStatus >>= k) file fun _ _ => True := by
  refine safe_bind (safe_issue hI fun answer file' hexec => ?_)
  obtain ⟨rfl, hread⟩ := hexec
  refine ⟨hI, ?_⟩
  cases answer with
  | ok read =>
      obtain rfl : read = file' := hread read rfl
      exact hk
  | error e => trivial

/-- A call of `write_status` leaves the file or writes its payload. -/
theorem safe_file_write {state : HandoffState} {update : StatusUpdate} {k : Unit → Controller α}
    (hI : I file) (hwritten : I (.record (update.payload state file.previous)))
    (hk : I (.record (update.payload state file.previous)) →
      Safe fileExec I (k ()) (.record (update.payload state file.previous)) fun _ _ => True) :
    Safe fileExec I (writeStatus state update >>= k) file fun _ _ => True := by
  have hwrite : Safe fileExec I (writeStatus state update) file fun result file' =>
      result = .ok () → file' = .record (update.payload state file.previous) := by
    refine safe_bind (safe_issue hI fun answer file' hexec => ?_)
    obtain ⟨rfl, hread⟩ := hexec
    refine ⟨hI, ?_⟩
    cases answer with
    | error e => exact fun h => nomatch h
    | ok read =>
        obtain rfl : read = file' := hread read rfl
        refine safe_issue hI fun answer file'' hexec => ?_
        obtain rfl | ⟨rfl, e, rfl⟩ := hexec
        · exact ⟨hwritten, fun _ => rfl⟩
        · exact ⟨hI, fun h => nomatch h⟩
  refine safe_bind (safe_post hwrite fun result file' hfile hresult => ?_)
  cases result with
  | ok _ =>
      obtain rfl := hresult rfl
      exact hk hwritten
  | error e => trivial

/-- Two scripts that keep a property of the file. -/
theorem safe_file_then {p : Controller β} {k : β → Controller α}
    (hp : Safe fileExec I p file fun _ _ => True)
    (hk : ∀ b file', I file' → Safe fileExec I (k b) file' fun _ _ => True) :
    Safe fileExec I (p >>= k) file fun _ _ => True := by
  refine safe_bind (safe_post hp fun result file' hI _ => ?_)
  cases result with
  | ok b => exact hk b file' hI
  | error e => trivial

/-- A handler that keeps it. -/
theorem safe_file_handle {p : Controller α} {handler : Raised → Controller α}
    (hp : Safe fileExec I p file fun _ _ => True)
    (hhandler : ∀ e file', I file' → Safe fileExec I (handler e) file' fun _ _ => True) :
    Safe fileExec I (p.handle handler) file fun _ _ => True := by
  refine safe_handle (safe_post hp fun result file' hI _ => ?_)
  cases result with
  | ok a => trivial
  | error e => exact hhandler e file' hI

end

/-- A record that describes the task, without a child. -/
structure TaskRecord (context : StatusContext) (status : Status) : Prop where
  issue : status.issue = some context.issue
  title : status.title = some context.title
  branch : status.branch = some context.branch
  startedAt : status.startedAt = some context.startedAt
  childless : status.codexPid = none

/-- The records of `commit_with_recovery_checkpoint`: the one that it starts from, and those of its
three checkpoints. -/
inductive WindowRecord (status : Status) : Prop where
  | verifying (state : status.state = .verifying)
      (opened : status.finalizationCheckpoint ≠ some .committed)
  | staging (state : status.state = .committing)
      (checkpoint : status.finalizationCheckpoint = some .staging)
      (manifest : status.hasTrustedManifest = true)
  | staged (state : status.state = .committing)
      (checkpoint : status.finalizationCheckpoint = some .staged)
      (manifest : status.hasTrustedManifest = true)
  | committed (state : status.state = .committed)
      (checkpoint : status.finalizationCheckpoint = some .committed)
      (manifest : status.hasTrustedManifest = true)

/-- The status file has such a record. -/
def Windowed (context : StatusContext) (file : StatusFile) : Prop :=
  ∃ status, file = .record status ∧ TaskRecord context status ∧ WindowRecord status

/-- `commit_with_recovery_checkpoint` leaves one of its records wherever it is cut off. -/
theorem safe_commit_window (setting : Setting) (context : StatusContext) (subject : String)
    {file : StatusFile} (hfile : Windowed context file) :
    Safe fileExec (Windowed context) (commitWithRecoveryCheckpoint setting context subject) file
      fun _ _ => True := by
  unfold commitWithRecoveryCheckpoint
  refine safe_file_bind (only_call (leaves_of_kind rfl)) hfile fun base => ?_
  split
  · exact safe_raise hfile trivial
  refine safe_file_bind (leaves_of_steps (steps_current_paths leaving_allows)) hfile fun paths => ?_
  split
  · exact safe_raise hfile trivial
  rename_i hpaths
  refine safe_file_bind
    (leaves_of_steps (steps_recovery_content_snapshot setting leaving_allows paths))
    hfile fun content => ?_
  have hmanifest : ∀ snapshot : Option String, ((some paths).any (· ≠ []) &&
      (snapshot.isSome || (some content).isSome)) = true := by
    intro snapshot
    simp [hpaths]
  have htask : ∀ state update previous, update.codexPid = none →
      TaskRecord context ((StatusUpdate.of context update).payload state previous) :=
    fun _ _ _ h => ⟨rfl, rfl, rfl, rfl, h⟩
  -- The `STAGING` checkpoint.
  refine safe_file_write hfile ⟨_, rfl, htask _ _ _ rfl, .staging rfl rfl (hmanifest _)⟩
    fun hstaging => ?_
  refine safe_file_bind (only_call (leaves_of_kind rfl)) hstaging fun _ => ?_
  refine safe_file_bind (only_call (leaves_of_kind rfl)) hstaging fun tree => ?_
  split
  · exact safe_raise hstaging trivial
  -- The `STAGED` checkpoint.
  refine safe_file_write hstaging ⟨_, rfl, htask _ _ _ rfl, .staged rfl rfl (hmanifest _)⟩
    fun hstaged => ?_
  refine safe_file_bind (only_call (leaves_of_kind rfl)) hstaged fun _ => ?_
  refine safe_file_bind (only_call (leaves_of_kind rfl)) hstaged fun commit => ?_
  split
  · exact safe_raise hstaged trivial
  -- The `COMMITTED` checkpoint.
  exact safe_file_write hstaged ⟨_, rfl, htask _ _ _ rfl, .committed rfl rfl (hmanifest _)⟩
    fun hcommitted => safe_pure hcommitted trivial

/-- The states that a handler or a blocked reconciliation writes over those of the window. -/
def HandoffState.rewritten : HandoffState → Bool
  | .recoverableChanges | .recoveryBlocked | .failed | .stopped => true
  | _ => false

/-- The record is still in the status file, or only its state has been rewritten. -/
def Restated (status : Status) (file : StatusFile) : Prop :=
  ∃ state : HandoffState, (state = status.state ∨ state.rewritten = true) ∧
    file = .record { status with state := state }

section

variable {context found : StatusContext} {left status : Status} {file : StatusFile}

/-- Another state describes the same task. -/
theorem TaskRecord.restated (h : TaskRecord context status) (state : HandoffState) :
    TaskRecord context { status with state := state } :=
  ⟨h.issue, h.title, h.branch, h.startedAt, h.childless⟩

/-- The task that the record proves. -/
theorem TaskRecord.context_eq (h : TaskRecord context status) :
    status.context = if context.title ≠ "" ∧ context.branch ≠ "" ∧ context.startedAt ≠ "" then
      some context else none := by
  unfold Status.context
  rw [h.issue, h.title, h.branch, h.startedAt]
  rfl

/-- The context of a record of the task is the task. -/
theorem TaskRecord.eq_of_context (h : TaskRecord context status)
    (hfound : status.context = some found) : found = context := by
  rw [h.context_eq] at hfound
  split at hfound
  · exact (Option.some.inj hfound).symm
  · cases hfound

/-- A write that names the task again, or names no task, keeps all of its record but the state. -/
theorem TaskRecord.payload_eq (h : TaskRecord context status) (state : HandoffState) :
    (StatusUpdate.of context {}).payload state (some status) = { status with state := state } ∧
      StatusUpdate.payload {} state (some status) = { status with state := state } ∧
      StatusUpdate.payload { issue := some context.issue, title := some context.title } state
        (some status) = { status with state := state } := by
  obtain ⟨hissue, htitle, hbranch, hstarted, hchild⟩ := h
  cases status
  dsimp only at hissue htitle hbranch hstarted hchild
  subst hissue htitle hbranch hstarted hchild
  exact ⟨rfl, rfl, rfl⟩

/-- A record is what it was. -/
theorem restated_self (status : Status) : Restated status (.record status) :=
  ⟨status.state, .inl rfl, rfl⟩

/-- What a handler writes over a restated record. -/
theorem restated_write (htask : TaskRecord context left) (hfile : Restated left file)
    {state : HandoffState} (hstate : state.rewritten = true) :
    Restated left (.record ((StatusUpdate.of context {}).payload state file.previous)) ∧
      Restated left (.record (StatusUpdate.payload {} state file.previous)) ∧
      Restated left (.record (StatusUpdate.payload
        { issue := some context.issue, title := some context.title } state file.previous)) := by
  obtain ⟨old, -, rfl⟩ := hfile
  obtain ⟨hof, hnone, hissue⟩ := (htask.restated old).payload_eq state
  refine ⟨⟨state, .inr hstate, ?_⟩, ⟨state, .inr hstate, ?_⟩, ⟨state, .inr hstate, ?_⟩⟩
  · exact congrArg StatusFile.record hof
  · exact congrArg StatusFile.record hnone
  · exact congrArg StatusFile.record hissue

variable (htask : TaskRecord context left)
include htask

/-- An error of a finalization rewrites at most the state. -/
theorem safe_recoverable_finalization_error (number : Int) (error : Raised)
    (hfile : Restated left file) : Safe fileExec (Restated left)
      (recoverableFinalizationError number error) file fun _ _ => True := by
  unfold recoverableFinalizationError
  refine safe_file_read hfile ?_
  obtain ⟨state, hstate, rfl⟩ := hfile
  dsimp only
  split
  · exact safe_pure ⟨state, hstate, rfl⟩ trivial
  split
  · exact safe_pure ⟨state, hstate, rfl⟩ trivial
  cases hcontext : Status.context { left with state := state } with
  | none => exact safe_pure ⟨state, hstate, rfl⟩ trivial
  | some found =>
      obtain rfl := (htask.restated state).eq_of_context hcontext
      exact safe_file_write ⟨state, hstate, rfl⟩
        (restated_write htask ⟨state, hstate, rfl⟩ rfl).1 fun hwritten => safe_pure hwritten trivial

/-- So does an interruption. -/
theorem safe_recoverable_interruption_error (error : Raised) (hfile : Restated left file) :
    Safe fileExec (Restated left) (recoverableInterruptionError context error) file
      fun _ _ => True := by
  unfold recoverableInterruptionError
  refine safe_file_read hfile ?_
  obtain ⟨state, hstate, rfl⟩ := hfile
  dsimp only
  split
  · exact safe_file_write ⟨state, hstate, rfl⟩
      (restated_write htask ⟨state, hstate, rfl⟩ rfl).1 fun hwritten => safe_pure hwritten trivial
  · exact safe_pure ⟨state, hstate, rfl⟩ trivial

/-- So does the record of a failure. -/
theorem safe_record_issue_failure (error : Raised) (hfile : Restated left file) :
    Safe fileExec (Restated left) (recordIssueFailure context.issue context.title error) file
      fun _ _ => True := by
  unfold recordIssueFailure
  refine safe_file_write hfile (restated_write htask hfile rfl).2.2 fun hwritten => ?_
  refine safe_file_bind
    (leaves_of_steps (steps_replace_label leaving_allows _ _ (by decide))) hwritten
    fun _ => ?_
  exact safe_file_leaves (only_call (leaves_of_kind rfl)) hwritten

variable (body login : Option String)

/-- So does the handler of an error. -/
theorem safe_handle_task_error (error : Raised) (hfile : Restated left file) :
    Safe fileExec (Restated left) (handleTaskError (context.issueWith body login) error) file
      fun _ _ => True := by
  unfold handleTaskError
  refine safe_file_then (safe_recoverable_finalization_error htask _ _ hfile)
    fun recovery file' hfile' => ?_
  cases recovery with
  | some recovery => exact safe_raise hfile' trivial
  | none =>
      exact safe_file_then (safe_record_issue_failure htask _ hfile') fun _ _ hfailed =>
        safe_raise hfailed trivial

/-- So does the first part of that of a Ctrl-C. -/
theorem safe_task_interruption (hfile : Restated left file) :
    Safe fileExec (Restated left) (taskInterruption (context.issueWith body login)) file
      fun _ _ => True := by
  unfold taskInterruption
  refine safe_file_then (safe_recoverable_finalization_error htask _ _ hfile)
    fun recovery file' hfile' => ?_
  cases recovery with
  | some recovery => exact safe_pure hfile' trivial
  | none =>
      -- The recorded context is that of the task.
      unfold recordedStatusContext
      refine safe_and_then (safe_and_then (safe_issue hfile' fun answer file'' hexec => ?_))
      obtain ⟨rfl, hread⟩ := hexec
      refine ⟨hfile', ?_⟩
      cases answer with
      | error e => exact ⟨hfile', hfile', trivial⟩
      | ok read =>
          obtain rfl : read = file'' := hread read rfl
          obtain ⟨state, hstate, rfl⟩ := hfile'
          have hkept : Restated left (.record { left with state := state }) := ⟨state, hstate, rfl⟩
          dsimp only
          split
          · cases hcontext : Status.context { left with state := state } with
            | none => exact ⟨hkept, hkept, trivial⟩
            | some found =>
                obtain rfl := (htask.restated state).eq_of_context hcontext
                exact ⟨hkept, safe_recoverable_interruption_error htask _ hkept⟩
          · exact ⟨hkept, hkept, trivial⟩

/-- So does the whole of it. -/
theorem safe_handle_task_interrupt (hfile : Restated left file) :
    Safe fileExec (Restated left) (handleTaskInterrupt (context.issueWith body login)) file
      fun _ _ => True := by
  unfold handleTaskInterrupt
  refine safe_file_then (safe_task_interruption htask body login hfile)
    fun recovery file' hfile' => ?_
  cases recovery with
  | some recovery => exact safe_raise hfile' trivial
  | none => exact safe_record_issue_failure htask _ hfile'

omit body login in
/-- So does the handler of `run_watch`. -/
theorem safe_watch_handler (e : Raised) (hfile : Restated left file) :
    Safe fileExec (Restated left) (watchHandler e) file fun _ _ => True := by
  unfold watchHandler
  refine safe_file_then ?_ fun _ file' hfile' => safe_pure hfile' trivial
  cases e with
  | keyboardInterrupt =>
      exact safe_file_write hfile (restated_write htask hfile rfl).2.1 fun hwritten =>
        safe_pure hwritten trivial
  | _ => exact safe_raise hfile trivial

omit body login in
/-- So does the handler of `recover_changes`. -/
theorem safe_recovery_handler (e : Raised) (hfile : Restated left file) :
    Safe fileExec (Restated left) (recoveryHandler context e) file fun _ _ => True := by
  have hpreserve : ∀ e : Raised, Safe fileExec (Restated left) (do
      writeStatus .recoverableChanges (.of context {})
      fail (.recoverableChangesError e.text) : Controller Unit) file fun _ _ => True :=
    fun e => safe_file_write hfile (restated_write htask hfile rfl).1 fun hwritten =>
      safe_raise hwritten trivial
  cases e with
  | keyboardInterrupt => exact safe_raise hfile trivial
  | _ => exact hpreserve _

omit body login in
/-- So does that of `run_watch` around it. -/
theorem safe_watch_recovery_handler (e : Raised) (hfile : Restated left file) :
    Safe fileExec (Restated left) (watchRecoveryHandler context e) file fun _ _ => True := by
  cases e with
  | keyboardInterrupt =>
      refine safe_file_then (safe_recoverable_interruption_error htask _ hfile)
        fun error file' hfile' => ?_
      cases error with
      | some error => exact safe_raise hfile' trivial
      | none => exact safe_raise hfile' trivial
  | _ => exact safe_raise hfile trivial

omit body login in
/-- Every handler keeps the record, or rewrites its state only. -/
theorem safe_handles (caller : WindowCaller) (e : Raised) (hfile : Restated left file) :
    Safe fileExec (Restated left) (caller.handles context e) file fun _ _ => True := by
  cases caller with
  | onceTask body login =>
      show Safe _ _ (onceTaskHandler _ e) _ _
      cases e with
      | recoverableChangesError text => exact safe_raise hfile trivial
      | keyboardInterrupt => exact safe_raise hfile trivial
      | _ => exact safe_handle_task_error htask body login _ hfile
  | watchTask body login =>
      refine safe_file_handle ?_ fun e file' hfile' => safe_watch_handler htask e hfile'
      cases e with
      | recoverableChangesError text => exact safe_raise hfile trivial
      | keyboardInterrupt => exact safe_handle_task_interrupt htask body login hfile
      | _ => exact safe_handle_task_error htask body login _ hfile
  | onceRecovery => exact safe_recovery_handler htask e hfile
  | watchRecovery =>
      refine safe_file_handle ?_ fun e file' hfile' => safe_watch_handler htask e hfile'
      exact safe_file_handle (safe_recovery_handler htask e hfile) fun e file' hfile' =>
        safe_watch_recovery_handler htask e hfile'

end

/-- What a reconciliation of the record leaves when it leaves `RECOVERY_BLOCKED`. -/
def BlockedFrom (status : Status) (file : StatusFile) : Prop :=
  ∀ later, file = .record later → later.state = .recoveryBlocked →
    later = { status with state := .recoveryBlocked }

section

variable {setting : Setting} {context : StatusContext} {left status : Status}

/-- A write of another state is no blocked reconciliation. -/
theorem blocked_from_write {state : HandoffState} {update : StatusUpdate}
    {previous : Option Status} (h : state ≠ .recoveryBlocked) :
    BlockedFrom status (.record (update.payload state previous)) := by
  intro other heq hstate
  obtain rfl := StatusFile.record.inj heq
  exact absurd hstate h

/-- A record comes from itself. -/
theorem blocked_from_self : BlockedFrom status (.record status) := by
  intro later heq hstate
  obtain rfl := StatusFile.record.inj heq
  exact hstate ▸ rfl

/-- Without a recorded child there is nothing to stop. -/
theorem reconcile_child_none (h : status.codexPid = none) :
    reconcileChild status context = pure false := by
  unfold reconcileChild
  rw [h]

/-- `reconcile_stale_run` keeps the record of a childless task but its state, if it is blocked. -/
theorem safe_blocked_reconciliation (htask : TaskRecord context status) :
    Safe fileExec (BlockedFrom status) (reconcileStaleRun setting) (.record status)
      fun _ _ => True := by
  have hI : BlockedFrom status (.record status) := blocked_from_self
  -- Writing RECOVERY_BLOCKED keeps every other field of the record.
  have hblocked : BlockedFrom status (.record ((StatusUpdate.of context {}).payload .recoveryBlocked
      (some status))) := by
    intro later heq hstate
    obtain rfl := StatusFile.record.inj heq
    exact (htask.payload_eq .recoveryBlocked).1
  unfold reconcileStaleRun
  refine safe_file_read hI ?_
  dsimp only
  split
  · exact safe_pure hI trivial
  cases hcontext : status.context with
  | none => exact safe_raise hI trivial
  | some found =>
  obtain rfl := htask.eq_of_context hcontext
  refine safe_file_then ?_ fun _ file' hfile' => safe_pure hfile' trivial
  unfold reconcileTask
  rw [reconcile_child_none htask.childless, htask.childless]
  split
  · exact safe_raise hI trivial
  show Safe _ _ (call .gitCurrentBranch >>= _) _ _
  refine safe_file_bind (only_call (leaves_of_kind rfl)) hI fun branch => ?_
  split
  · exact safe_file_write hI hblocked fun hwritten => safe_raise hwritten trivial
  show Safe _ _ (call .gitStatus >>= _) _ _
  refine safe_file_bind (only_call (leaves_of_kind rfl)) hI fun entries => ?_
  unfold reconcileChanges
  split
  · -- The pending commit.
    refine safe_file_bind (leaves_of_steps (steps_head_revision leaving_allows)) hI
      fun revision => ?_
    split
    · exact safe_file_write hI (blocked_from_write (by decide)) fun hwritten =>
        safe_pure hwritten trivial
    · exact safe_raise hI trivial
  split
  · -- Neither changes nor a commit.
    refine safe_file_write hI hblocked fun hwritten => ?_
    refine safe_file_bind
      (leaves_of_steps (steps_load_recovery_issue setting leaving_allows)) hwritten
      fun payload => ?_
    refine safe_file_then (safe_file_write hwritten (blocked_from_write (by decide))
      fun hfailed => ?_) fun _ file' hfile' => safe_raise hfile' trivial
    refine safe_file_bind
      (leaves_of_steps (steps_replace_label leaving_allows _ _ (by decide))) hfailed
      fun _ => ?_
    exact safe_file_leaves (only_call (leaves_of_kind rfl)) hfailed
  split
  · exact safe_file_write hI (blocked_from_write (by decide)) fun hwritten =>
      safe_raise hwritten trivial
  split
  · exact safe_file_write hI (blocked_from_write (by decide)) fun hwritten =>
      safe_raise hwritten trivial
  · exact safe_file_write hI (blocked_from_write (by decide)) fun hwritten =>
      safe_pure hwritten trivial

/-! ## The next reconciliation -/

variable {others : (command : Command) → Except Raised (Answer command)} {view : GitView}

/-- The next reconciliation of an active record that names its task. -/
theorem eval_reconcile_active (htask : TaskRecord context status)
    (hactive : status.state.active = true)
    (hnamed : context.title ≠ "" ∧ context.branch ≠ "" ∧ context.startedAt ≠ "") :
    (reconcileStaleRun setting).eval (answerView others view) (.record status) =
      (reconcileTask setting status context >>=
        fun recovered => pure (some recovered) : Controller (Option StatusContext)).eval
          (answerView others view) (.record status) := by
  have hproven : status.context = some context := by
    rw [htask.context_eq, if_pos hnamed]
  have hrunning : ¬ (!status.state.active) = true := by
    rw [hactive]
    decide
  show (if !status.state.active then _ else _ : Controller _).eval _ _ = _
  rw [if_neg hrunning, hproven]
  rfl

/-- The branch decides whether it looks at the changes. -/
theorem eval_reconcile_task_view (htask : TaskRecord context status)
    (hstate : status.state ≠ .recoveryConfirmationRequired) :
    (reconcileTask setting status context).eval (answerView others view) (.record status) =
      (if view.branch ≠ context.branch then
          failBlocked context status.codexPid ("Cannot prove recovery branch identity: status " ++
            "records " ++ context.branch ++ ", checkout is " ++ view.branch)
        else reconcileChanges setting status context false (view.changes ≠ []) :
          Controller StatusContext).eval (answerView others view) (.record status) := by
  unfold reconcileTask
  rw [if_neg hstate, reconcile_child_none htask.childless]
  show (if view.branch ≠ context.branch then _ else _ : Controller StatusContext).eval _ _ = _
  split
  · rfl
  · rfl

/-- A staged commit is recovered from a `COMMITTING` record and a clean working tree only. -/
theorem recovers_staged_iff (hstaged : status.finalizationCheckpoint = some .staged)
    (hproven : status.provesCommit context view.revision = true) :
    (∃ recovered : Status, (reconcileChanges setting status context false
        (view.changes ≠ [])).eval (answerView others view) (.record status) =
          (.ok context, .record recovered) ∧ recovered.state = .recoverableChanges ∧
        recovered.finalizationCheckpoint = some .committed ∧
        recovered.commitSha = some view.revision.head) ↔
      status.state = .committing ∧ view.changes = [] := by
  have hcommit : status.hasCommit = false := by
    unfold Status.hasCommit
    rw [hstaged]
    rfl
  unfold reconcileChanges
  rw [hcommit]
  by_cases hclean : view.changes = []
  · rw [decide_eq_false (not_not.mpr hclean)]
    by_cases hstate : status.state = .committing
    · refine iff_of_true ?_ ⟨hstate, hclean⟩
      rw [if_pos ⟨hstate, rfl, hstaged⟩]
      have heval : (recoverPendingCommit status context).eval (answerView others view)
          (.record status) = (.ok context, .record ((StatusUpdate.of context
            { finalizationCheckpoint := some .committed
              commitSha := some view.revision.head }).payload .recoverableChanges
                (some status))) := by
        show (if status.provesCommit context view.revision = true then _ else _ :
          Controller StatusContext).eval _ _ = _
        rw [if_pos hproven]
        rfl
      exact ⟨_, heval, rfl, rfl, rfl⟩
    · -- The record is no longer `COMMITTING`: the task fails.
      refine iff_of_false ?_ fun h => hstate h.1
      rintro ⟨recovered, heval, -⟩
      rw [if_neg fun h => hstate h.1] at heval
      have heval : (failWithoutChanges setting context).eval (answerView others view)
          (.record status) = (.ok context, .record recovered) := heval
      obtain ⟨e, he⟩ : ∃ e, ((failWithoutChanges setting context).eval (answerView others view)
          (.record status)).1 = .error e :=
        eval_bind_raises (fun _ _ => eval_bind_raises
          (fun _ _ => eval_bind_raises (fun _ _ => ⟨_, rfl⟩) _) _) _
      rw [heval] at he
      cases he
  -- With changes the record keeps its checkpoint or the reconciliation raises.
  · rw [decide_eq_true hclean]
    refine iff_of_false ?_ fun h => hclean h.2
    rintro ⟨recovered, heval, -, hcheckpoint, -⟩
    rw [if_neg fun h => nomatch h.2.1] at heval
    cases hmanifest : status.hasTrustedManifest with
    | false =>
        rw [hmanifest] at heval
        have hraised : ((Except.error _, _) : Except Raised StatusContext × StatusFile) =
          (.ok context, .record recovered) := heval
        cases hraised
    | true =>
        rw [hmanifest] at heval
        have hkept : ((.ok context, .record ((StatusUpdate.of context {}).payload
          .recoverableChanges (some status))) : Except Raised StatusContext × StatusFile) =
            (.ok context, .record recovered) := heval
        cases hkept
        have hcommitted : status.finalizationCheckpoint = some .committed := hcheckpoint
        rw [hcommitted] at hstaged
        cases hstaged

/-- A recorded commit is recovered. -/
theorem recovers_committed (hcommitted : status.finalizationCheckpoint = some .committed)
    (hrecorded : status.commitSha = some view.revision.head)
    (hmanifest : status.hasTrustedManifest = true) :
    ∃ recovered : Status, (reconcileChanges setting status context false
        (view.changes ≠ [])).eval (answerView others view) (.record status) =
          (.ok context, .record recovered) ∧ recovered.state = .recoverableChanges ∧
        recovered.finalizationCheckpoint = some .committed ∧
        recovered.commitSha = some view.revision.head := by
  have hcommit : status.hasCommit = true := by
    unfold Status.hasCommit
    rw [hcommitted]
    rfl
  unfold reconcileChanges
  rw [hcommit, hmanifest]
  generalize decide (view.changes ≠ []) = hasChanges
  have hpending : ¬ (status.state = .committing ∧ (!hasChanges) = true ∧
      status.finalizationCheckpoint = some .staged) := by
    rintro ⟨-, -, hstaged⟩
    rw [hcommitted] at hstaged
    cases hstaged
  rw [if_neg hpending]
  refine ⟨(StatusUpdate.of context {}).payload .recoverableChanges (some status), ?_, rfl,
    hcommitted, hrecorded⟩
  cases hasChanges with
  | false => rfl
  | true => rfl

/-- What the changes are taken for is what the reconciliation returns. -/
theorem eval_reconciled {p : Controller StatusContext} {file recovered : StatusFile} :
    (p >>= fun found => pure (some found) : Controller (Option StatusContext)).eval
        (answerView others view) file = (.ok (some context), recovered) ↔
      p.eval (answerView others view) file = (.ok context, recovered) := by
  generalize hresult : p.eval (answerView others view) file = ended
  obtain ⟨result, file'⟩ := ended
  cases result with
  | ok found =>
      rw [eval_bind_ok hresult]
      show (Except.ok (some found), file') = _ ↔ _
      simp
  | error e =>
      rw [eval_bind_error hresult]
      simp

/-- Which records the next reconciliation recovers as `COMMITTED`. -/
theorem recovers_commit_iff (htask : TaskRecord context status)
    (hstate : status.state ≠ .recoveryConfirmationRequired)
    (hmanifest : status.finalizationCheckpoint = some .committed →
      status.hasTrustedManifest = true)
    (hdescribes : status.DescribesHead context view.revision) :
    RecoversCommit setting others context view status ↔ status.state.active = true ∧
      (context.title ≠ "" ∧ context.branch ≠ "" ∧ context.startedAt ≠ "") ∧
      view.branch = context.branch ∧
      (status.state = .committing ∧ view.changes = [] ∨
        status.finalizationCheckpoint = some .committed) := by
  unfold RecoversCommit
  by_cases hactive : status.state.active = true
  · by_cases hnamed : context.title ≠ "" ∧ context.branch ≠ "" ∧ context.startedAt ≠ ""
    · rw [eval_reconcile_active htask hactive hnamed,
        eval_bind_congr (eval_reconcile_task_view htask hstate)]
      by_cases hbranch : view.branch = context.branch
      · rw [if_neg fun h => h hbranch]
        simp only [eval_reconciled]
        rw [and_iff_right hactive, and_iff_right hnamed, and_iff_right hbranch]
        cases hdescribes.pending with
        | inl hstaged =>
            refine (recovers_staged_iff hstaged hdescribes.proven).trans ⟨.inl, fun h => ?_⟩
            refine h.resolve_right fun hcommitted => ?_
            rw [hstaged] at hcommitted
            cases hcommitted
        | inr hcommitted =>
            exact iff_of_true (recovers_committed hcommitted (hdescribes.recorded hcommitted)
              (hmanifest hcommitted)) (.inr hcommitted)
      · refine iff_of_false ?_ fun h => hbranch h.2.2.1
        rintro ⟨recovered, heval, -⟩
        rw [if_pos hbranch] at heval
        cases heval
    · refine iff_of_false ?_ fun h => hnamed h.2.1
      rintro ⟨recovered, heval, -⟩
      have heval : (if !status.state.active then _ else _ : Controller _).eval _ _ = _ := heval
      rw [if_neg (by simp [hactive]), htask.context_eq, if_neg hnamed] at heval
      cases heval
  · refine iff_of_false ?_ fun h => hactive h.1
    rintro ⟨recovered, heval, -⟩
    have heval : (if !status.state.active then _ else _ : Controller _).eval _ _ = _ := heval
    rw [if_pos (by simp [hactive])] at heval
    cases heval

/-- The record that the window leaves, and the file that its process leaves. -/
theorem interrupted_record {subject : String} {previous : Option Status} {ended : StatusFile}
    (hopen : previous.bind (·.finalizationCheckpoint) ≠ some .committed)
    (hinterrupted : Interrupted setting context subject
      (.record ((StatusUpdate.of context {}).payload .verifying previous)) (.record left) ended) :
    TaskRecord context left ∧ WindowRecord left ∧ Restated left ended := by
  have hstart : Windowed context (.record ((StatusUpdate.of context {}).payload .verifying
      previous)) := ⟨_, rfl, ⟨rfl, rfl, rfl, rfl, rfl⟩, .verifying rfl hopen⟩
  have hwindow : ∀ {file}, CutOff fileExec (commitWithRecoveryCheckpoint setting context subject)
      (.record ((StatusUpdate.of context {}).payload .verifying previous)) file →
      Windowed context file := fun hcut =>
    safe_cut_off (safe_commit_window setting context subject hstart) hcut
  have hrecord : Windowed context (.record left) →
      TaskRecord context left ∧ WindowRecord left := by
    rintro ⟨status, heq, htask, hform⟩
    obtain rfl := StatusFile.record.inj heq
    exact ⟨htask, hform⟩
  cases hinterrupted with
  | crash cut =>
      obtain ⟨htask, hform⟩ := hrecord (hwindow cut)
      exact ⟨htask, hform, restated_self left⟩
  | raised caller e raises handled =>
      obtain ⟨htask, hform⟩ := hrecord (hwindow (cut_off_of_ends raises))
      exact ⟨htask, hform, safe_cut_off (safe_handles htask caller e (restated_self left)) handled⟩

/-- Blocked reconciliations rewrite the state only. -/
theorem restated_of_blocked {ended found : StatusFile} (htask : TaskRecord context left)
    (hended : Restated left ended)
    (hblocked : Relation.ReflTransGen (BlockedReconciliation setting) ended found) :
    Restated left found := by
  induction hblocked with
  | refl => exact hended
  | tail _ hstep ih =>
      obtain ⟨state, -, rfl⟩ := ih
      obtain ⟨hcut, status, rfl, hstate⟩ := hstep
      have hfrom : BlockedFrom { left with state := state } (.record status) :=
        safe_cut_off (safe_blocked_reconciliation (htask.restated state)) hcut
      rw [hfrom status rfl hstate]
      exact ⟨.recoveryBlocked, .inr rfl, rfl⟩

/-- The commit window. `commit_with_recovery_checkpoint` runs from the record of a verified task
that its callers give it, and is interrupted at any command by a crash, or by an exception that its
caller handles; then any number of reconciliations are blocked. If HEAD is then the pending commit
that the checkpoint describes, the next reconciliation recovers it as `COMMITTED` exactly under the
condition: the branch is checked out, and either the record is still the `COMMITTING` one that the
window left and the working tree is clean, or the window had recorded `COMMITTED` and the state is
still active. -/
theorem commit_window_iff (setting : Setting)
    (others : (command : Command) → Except Raised (Answer command)) (context : StatusContext)
    (subject : String) (previous : Option Status)
    (hopen : previous.bind (·.finalizationCheckpoint) ≠ some .committed) {left found : Status}
    {ended : StatusFile} (hinterrupted : Interrupted setting context subject
      (.record ((StatusUpdate.of context {}).payload .verifying previous)) (.record left) ended)
    (hblocked : Relation.ReflTransGen (BlockedReconciliation setting) ended (.record found))
    (view : GitView) (hdescribes : found.DescribesHead context view.revision) :
    RecoversCommit setting others context view found ↔
      CommitCondition context view left found := by
  obtain ⟨htask, hform, hended⟩ := interrupted_record hopen hinterrupted
  obtain ⟨state, hstate, heq⟩ := restated_of_blocked htask hended hblocked
  obtain rfl := StatusFile.record.inj heq
  -- A blocked reconciliation either keeps the status or rewrites it to RECOVERABLE_CHANGES.
  have hother : state ≠ .recoveryConfirmationRequired ∧
      (state = .committing → state = left.state) := by
    cases hstate with
    | inl hsame =>
        subst hsame
        refine ⟨fun hconfirm => ?_, fun _ => rfl⟩
        cases hform with
        | verifying h | staging h | staged h | committed h =>
            rw [h] at hconfirm
            cases hconfirm
    | inr hrewritten =>
        refine ⟨fun hconfirm => ?_, fun hcommitting => ?_⟩
        · rw [hconfirm] at hrewritten
          cases hrewritten
        · rw [hcommitting] at hrewritten
          cases hrewritten
  -- Every record of the window but the opening one carries the manifest.
  have hmanifest : left.finalizationCheckpoint = some .committed →
      left.hasTrustedManifest = true := by
    intro hcommitted
    cases hform with
    | verifying _ hopened => exact absurd hcommitted hopened
    | staging _ _ hmanifest | staged _ _ hmanifest | committed _ _ hmanifest => exact hmanifest
  rw [recovers_commit_iff (htask.restated state) hother.1 hmanifest hdescribes]
  show state.active = true ∧ _ ∧ _ ∧ (state = .committing ∧ view.changes = [] ∨
    left.finalizationCheckpoint = some .committed) ↔ _
  constructor
  · rintro ⟨hactive, hnamed, hbranch, hkept⟩
    refine ⟨hbranch, hnamed, ?_⟩
    cases hkept with
    | inl hcommitting =>
        obtain ⟨rfl, hclean⟩ := hcommitting
        have hsame := hother.2 rfl
        refine .inl ⟨hsame.symm, ?_, hclean⟩
        rw [hsame]
    | inr hcommitted =>
        refine .inr ⟨?_, hactive⟩
        cases hform with
        | verifying _ hopened => exact absurd hcommitted hopened
        | staging _ hcheckpoint | staged _ hcheckpoint =>
            rw [hcommitted] at hcheckpoint
            cases hcheckpoint
        | committed hleft => exact hleft
  · rintro ⟨hbranch, hnamed, hkept⟩
    cases hkept with
    | inl hcommitting =>
        obtain ⟨hleft, hsame, hclean⟩ := hcommitting
        have hstate : state = .committing := (congrArg Status.state hsame).trans hleft
        exact ⟨hstate ▸ rfl, hnamed, hbranch, .inl ⟨hstate, hclean⟩⟩
    | inr hcommitted =>
        obtain ⟨hleft, hactive⟩ := hcommitted
        refine ⟨hactive, hnamed, hbranch, .inr ?_⟩
        cases hform with
        | verifying h | staging h | staged h =>
            rw [hleft] at h
            cases h
        | committed _ hcheckpoint => exact hcheckpoint

end

/-- A setting whose digests can be computed. -/
def windowSetting : Setting := { sampleSetting with digest := fun _ => "c51d" }

/-- The task of issue 7. -/
def windowTask : StatusContext :=
  ⟨7, "task", "codex/issue-7-task", "2026-07-17T09:00:00+00:00"⟩

/-- The record of its verification. -/
def windowStart : Status := (StatusUpdate.of windowTask {}).payload .verifying none

/-- The record of its staged commit. -/
def windowStaged : Status :=
  (StatusUpdate.of windowTask
    { finalizationCheckpoint := some .staged,
      pendingTreeSha := some "4b825dc" }).payload .committing
      (some ((StatusUpdate.of windowTask
        { preCommitSha := some "a9d3e41"
          pendingCommitSubject := some (resolveSubject 7)
          finalizationCheckpoint := some .staging
          recoverablePaths := some ["README.md"]
          recoverableContentSnapshot := some "c51d"
          recoverableBaseSha := some "a9d3e41" }).payload .committing (some windowStart)))

/-- The answers to its window. HEAD cannot be read once the commit has been made. -/
def windowAnswer : (command : Command) → StatusFile → Except Raised (Answer command) × StatusFile
  | .readStatus, file => (.ok file, file)
  | .writeStatus status, _ => (.ok (), .record status)
  | .gitStatus, file => (.ok [⟨" M", "README.md", none⟩], file)
  | .gitHead, file =>
      (if file = .record windowStaged then .error (.calledProcessError "git rev-parse: interrupted")
        else .ok "a9d3e41", file)
  | command, file => (sampleAnswer command, file)

/-- The sample answers are what commands do. -/
theorem window_answer_exec (command : Command) (file : StatusFile) :
    fileExec command file (windowAnswer command file).1 (windowAnswer command file).2 := by
  cases command with
  | readStatus => exact ⟨rfl, fun read h => (Except.ok.inj h).symm⟩
  | writeStatus status => exact .inl rfl
  | _ => rfl

/-- The checkout with its commit. -/
def windowView : GitView where
  revision := ⟨"6b1f0c2", "a9d3e41", "codex: resolve issue #7", "4b825dc"⟩
  branch := "codex/issue-7-task"
  changes := []

/-- The window raises after its commit. -/
theorem window_raises : Ends fileExec
    (commitWithRecoveryCheckpoint windowSetting windowTask (resolveSubject 7)) (.record windowStart)
      (.error (.calledProcessError "git rev-parse: interrupted")) (.record windowStaged) := by
  have hends := ends_eval window_answer_exec
    (commitWithRecoveryCheckpoint windowSetting windowTask (resolveSubject 7)) (.record windowStart)
  have heval : (commitWithRecoveryCheckpoint windowSetting windowTask (resolveSubject 7)).eval
      windowAnswer (.record windowStart) =
        (.error (.calledProcessError "git rev-parse: interrupted"), .record windowStaged) := by
    decide +kernel
  rw [heval] at hends
  exact hends

/-- The record of the staged commit describes the commit of the sample. -/
theorem window_describes {state : HandoffState} :
    Status.DescribesHead { windowStaged with state := state } windowTask windowView.revision := by
  have hproven : windowStaged.provesCommit windowTask windowView.revision = true := by
    decide +kernel
  exact ⟨.inl rfl, hproven, fun h => nomatch h⟩

/-- A crash after the commit is recovered. -/
theorem commit_window_crash :
    Interrupted windowSetting windowTask (resolveSubject 7) (.record windowStart)
      (.record windowStaged) (.record windowStaged) ∧
    RecoversCommit windowSetting sampleAnswer windowTask windowView windowStaged := by
  have hcrash : Interrupted windowSetting windowTask (resolveSubject 7) (.record windowStart)
      (.record windowStaged) (.record windowStaged) := .crash (cut_off_of_ends window_raises)
  refine ⟨hcrash, (commit_window_iff windowSetting sampleAnswer windowTask _ none
    (fun h => nomatch h)
    hcrash .refl windowView window_describes).mpr ⟨rfl, by decide, .inl ⟨rfl, rfl, rfl⟩⟩⟩

/-- The exception of the same command meets the handler of `run_once`, which rewrites the state. The
next reconciliation finds the commit at HEAD and marks the task `FAILED`. -/
theorem commit_window_failed : ∃ found,
    Interrupted windowSetting windowTask (resolveSubject 7) (.record windowStart)
      (.record windowStaged) (.record found) ∧
    found.DescribesHead windowTask windowView.revision ∧
    ¬ RecoversCommit windowSetting sampleAnswer windowTask windowView found ∧
    ((reconcileStaleRun windowSetting).eval (answerView sampleAnswer windowView)
      (.record found)).2.hasState .failed = true := by
  refine ⟨{ windowStaged with state := .recoverableChanges }, ?_, window_describes, ?_, ?_⟩
  · refine .raised (.onceTask none none) _ window_raises ?_
    have hends := ends_eval window_answer_exec
      (WindowCaller.handles windowTask (.onceTask none none)
      (.calledProcessError "git rev-parse: interrupted")) (.record windowStaged)
    have heval : ((WindowCaller.handles windowTask (.onceTask none none)
        (.calledProcessError "git rev-parse: interrupted")).eval windowAnswer
          (.record windowStaged)).2 =
        .record { windowStaged with state := .recoverableChanges } := by
      decide +kernel
    rw [heval] at hends
    exact cut_off_of_ends hends
  · rintro ⟨recovered, heval, -⟩
    have hfailed : ((reconcileStaleRun windowSetting).eval (answerView sampleAnswer windowView)
        (.record { windowStaged with state := .recoverableChanges })).1 ≠
          .ok (some windowTask) := by
      decide +kernel
    exact hfailed (congrArg Prod.fst heval)
  · decide +kernel

end GrowthOs.Handoff
