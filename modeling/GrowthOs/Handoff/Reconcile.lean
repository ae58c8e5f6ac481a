import GrowthOs.Handoff.Finalize

/-!
# Reconciliation

`reconcile_stale_run`: what a new run makes of the status that an earlier one left behind, and
`recover_changes` and `confirm_recovery`, which resume its task.
-/

namespace GrowthOs.Handoff

open Library

/-- The states of `reconcile_stale_run` in which a child may be running. -/
def HandoffState.mayHaveChild : HandoffState → Bool
  | .implementing | .fixing | .reviewing | .recoveryBlocked => true
  | _ => false

/-- The record describes its child by a process group that it leads and an identity. -/
def Status.instrumented (status : Status) (pid : Int) : Bool :=
  status.childProcessGroup == some pid && status.childProcessIdentity.isSome

/-- `recovery_blocked_error`, raised. -/
def failBlocked {α : Type} (context : StatusContext) (codexPid : Option Int) (detail : String) :
    Controller α := do
  writeStatus .recoveryBlocked (.of context { codexPid })
  fail (.runtimeError detail)

/-- `heartbeat_is_stale`. -/
def heartbeatIsStale (value : Option String) (timeout : Option Rat) : Controller Bool :=
  match value, timeout with
  | some value, some timeout =>
      if timeout ≤ 0 then
        fail (.runtimeError "Cannot prove the orphaned child inactivity deadline")
      else do
        match ← call (.heartbeatAge value) with
        | .unparsable => fail (.runtimeError "Cannot parse the orphaned child heartbeat")
        | .naive => fail (.runtimeError "Orphaned child heartbeat is not timezone-aware")
        | .seconds age => pure (timeout ≤ age)
  | _, _ => fail (.runtimeError "Cannot prove the orphaned child inactivity deadline")

/-- `reconcile_stale_run` with a recorded process group that is still running. -/
def stopOrphan (status : Status) (context : StatusContext) (pid : Int) : Controller Unit := do
  let leaderRunning ← call (.pidIsRunning pid)
  let identity ← (if leaderRunning then call (.processGroupIdentity pid) else pure none)
  if !leaderRunning || identity ≠ status.childProcessIdentity then
    failBlocked context (some pid) ("Recovery blocked: a live recorded process group has no " ++
      "provable leader identity; no signal was sent")
  else do
    let stale ← heartbeatIsStale status.lastChildOutputAt status.childInactivityTimeout
    if !stale then
      fail (.activeOrphanError ("Recorded Codex process group " ++ toString pid ++
        " is still active; refusing recovery"))
    else call (.terminateOrphanProcessGroup pid)

/-- The part of `reconcile_stale_run` about the recorded child: whether
`stopped_child_scope_is_proven`. -/
def reconcileChild (status : Status) (context : StatusContext) : Controller Bool :=
  match status.codexPid with
  | none => pure false
  | some pid =>
      if status.state.mayHaveChild then
        if status.instrumented pid then do
          let groupRunning ← call (.processGroupIsRunning pid)
          (if groupRunning then stopOrphan status context pid else pure ())
          pure true
        else do
          let running ← call (.pidIsRunning pid)
          if running then
            failBlocked context (some pid)
              "Cannot prove live orphaned Codex process-group identity"
          else pure false
      else pure false

section

variable (setting : Setting)

/-- The checks of `load_recovery_issue`. -/
def recoveryIssueMatches (context : StatusContext) (payload : IssuePayload) : Bool :=
  payload.number == some context.issue && payload.title == some context.title &&
    payload.state == some "OPEN" &&
    payload.login.map setting.lower == some (setting.lower setting.owner)

/-- `load_recovery_issue`. -/
def loadRecoveryIssue (context : StatusContext) : Controller IssuePayload := do
  match ← call (.ghIssueView context.issue) with
  | some payload =>
      if recoveryIssueMatches setting context payload then pure payload
      else fail (.runtimeError "Cannot prove recovery task ownership from GitHub")
  | none => fail (.runtimeError "Cannot prove recovery task ownership from GitHub")

/-- `record_issue_failure`. -/
def recordIssueFailure (number : Int) (title : String) (error : Raised) : Controller Unit := do
  writeStatus .failed { issue := some number, title := some title }
  replaceLabel number "codex-failed" "codex-running"
  call (.ghIssueComment number ("Local Codex controller failed:\n\n```text\n" ++
    textTail 3000 error.text ++ "\n```"))

/-- `allowed_subjects`. -/
def allowedSubjects (number : Int) : List String :=
  [resolveSubject number, fixSubject 1 number, fixSubject 2 number]

/-- `expected_subject`. -/
def expectedSubject (context : StatusContext) (recorded : Option String) : String :=
  match recorded with
  | some subject =>
      if subject ∈ allowedSubjects context.issue then subject else resolveSubject context.issue
  | none => resolveSubject context.issue

/-- The revision at HEAD, as `reconcile_stale_run` reads it. -/
structure HeadRevision where
  head : String
  parent : String
  subject : String
  tree : String
  deriving DecidableEq, Repr

/-- The reads of the commit proof. -/
def headRevision : Controller HeadRevision := do
  let head ← call .gitHead
  let parent ← call .gitHeadParent
  let subject ← call .gitHeadSubject
  let tree ← call .gitHeadTree
  pure { head, parent, subject, tree }

/-- The revision is the pending commit that the record describes. -/
def Status.provesCommit (status : Status) (context : StatusContext) (revision : HeadRevision) :
    Bool :=
  revision.head != "" && status.preCommitSha == some revision.parent && revision.parent != "" &&
    revision.subject == expectedSubject context status.pendingCommitSubject &&
    status.pendingTreeSha == some revision.tree && revision.tree != ""

/-- `reconcile_stale_run` at a staged commit with a clean working tree. -/
def recoverPendingCommit (status : Status) (context : StatusContext) :
    Controller StatusContext := do
  let revision ← headRevision
  if status.provesCommit context revision then do
    writeStatus .recoverableChanges (.of context
      { finalizationCheckpoint := some .committed, commitSha := some revision.head })
    pure context
  else
    fail (.runtimeError "Cannot prove the commit created by an interrupted finalization")

/-- `reconcile_stale_run` of a task that left no changes and no commit. -/
def failWithoutChanges (context : StatusContext) : Controller StatusContext := do
  let failure := Raised.runtimeError "Interrupted Codex implementation left no working-tree changes"
  writeStatus .recoveryBlocked (.of context {})
  let payload ← loadRecoveryIssue setting context
  recordIssueFailure context.issue (payload.title.getD context.title) failure
  fail failure

/-- The end of `reconcile_stale_run`, once the child is stopped and the branch is proven. -/
def reconcileChanges (status : Status) (context : StatusContext) (stoppedChild hasChanges : Bool) :
    Controller StatusContext :=
  if status.state = .committing ∧ !hasChanges ∧
      status.finalizationCheckpoint = some .staged then
    recoverPendingCommit status context
  else if !hasChanges && !status.hasCommit then failWithoutChanges setting context
  else if hasChanges && !stoppedChild && !status.hasTrustedManifest then do
    writeStatus .recoveryConfirmationRequired (.of context {})
    fail (.runtimeError ("Legacy preserved work lacks attributable content provenance; explicit " ++
      "operator confirmation is required"))
  else if hasChanges && stoppedChild then do
    writeStatus .recoveryConfirmationRequired (.of context { codexPid := status.codexPid })
    fail (.runtimeError ("Stopped child work lacks a final durable content manifest; explicit " ++
      "operator confirmation is required"))
  else do
    writeStatus .recoverableChanges (.of context {})
    pure context

/-- The base of the stopped child: `reconcile_stale_run` refuses another HEAD. -/
def checkStoppedBase (status : Status) (context : StatusContext) : Controller Unit := do
  let head ← call .gitHead
  if status.recoverableBaseSha ≠ some head ∨ head = "" then
    failBlocked context status.codexPid "Cannot prove the stopped Codex child's task base HEAD"
  else pure ()

/-- `reconcile_stale_run` of an active record. -/
def reconcileTask (status : Status) (context : StatusContext) : Controller StatusContext := do
  if status.state = .recoveryConfirmationRequired then
    fail (.runtimeError
      "Recovery requires explicit operator confirmation via --confirm-recovery")
  else do
    let stoppedChild ← reconcileChild status context
    let branch ← call .gitCurrentBranch
    if branch ≠ context.branch then
      failBlocked context status.codexPid ("Cannot prove recovery branch identity: status " ++
        "records " ++ context.branch ++ ", checkout is " ++ branch)
    else do
      (if stoppedChild then checkStoppedBase status context else pure ())
      let entries ← call .gitStatus
      reconcileChanges setting status context stoppedChild (entries ≠ [])

/-- `reconcile_stale_run`. -/
def reconcileStaleRun : Controller (Option StatusContext) := do
  match ← call .readStatus with
  | .missing => pure none
  | .unreadable =>
      fail (.runtimeError "Handoff status is unreadable; refusing startup recovery")
  | .record status =>
      if !status.state.active then pure none
      else
        match status.context with
        | none => fail (.runtimeError "Stale implementation status cannot prove task ownership")
        | some context => do
            let recovered ← reconcileTask setting status context
            pure (some recovered)

/-! ## Recovery -/

/-- `recover_changes` at an exception of `finalize_changes`. -/
def recoveryHandler (context : StatusContext) : Raised → Controller Unit
  | .keyboardInterrupt => fail .keyboardInterrupt
  | e => do
      writeStatus .recoverableChanges (.of context {})
      fail (.recoverableChangesError e.text)

/-- `recover_changes`. -/
def recoverChanges (context : StatusContext) : Controller Unit := do
  let issue ← loadRecoveryIssue setting context
  commentOnce context.issue "recovery-started"
    "Recovering preserved task changes without rerunning implementation."
  (finalizeChanges setting (issue.title.getD context.title) context false true).handle
    (recoveryHandler context)

/-- The recorded PID or the recorded process group is running. -/
def recordedChildIsRunning (status : Status) : Controller Bool := do
  let pidRunning ← (match status.codexPid with
    | some pid => call (.pidIsRunning pid)
    | none => pure false)
  if pidRunning then pure true
  else
    match status.childProcessGroup with
    | some group => call (.processGroupIsRunning group)
    | none => pure false

/-- The child of the record has stopped, or `confirm_recovery` refuses it. -/
def confirmStoppedChild (status : Status) : Controller Unit := do
  let running ← recordedChildIsRunning status
  if running then
    if status.codexPid.any status.instrumented then
      fail (.runtimeError "Cannot prove the confirmed Codex child process group is stopped")
    else fail (.runtimeError "Legacy recovery still records a live process or process group")
  else pure ()

/-- The checkout that `confirm_recovery` requires. -/
def confirmCheckout (status : Status) (context : StatusContext) : Controller Unit := do
  let branch ← call .gitCurrentBranch
  if branch ≠ context.branch then
    fail (.runtimeError "Cannot prove the recovery confirmation branch")
  else
    match status.recoverableBaseSha with
    | none => pure ()
    | some base => do
        let head ← call .gitHead
        if head ≠ base then
          fail (.runtimeError "Cannot prove the recovery confirmation base HEAD")
        else pure ()

/-- `confirm_recovery` of a record that awaits confirmation. -/
def confirmTask (status : Status) (context : StatusContext) : Controller Unit := do
  let _ ← loadRecoveryIssue setting context
  confirmStoppedChild status
  confirmCheckout status context
  let (paths, snapshot) ← capturedRecoveryScope setting
  if paths = none ∨ snapshot = some "" then
    fail (.runtimeError "Recovery confirmation found no preserved working-tree changes")
  else do
    writeStatus .recoverableChanges (.of context
      { recoverablePaths := paths, recoverableSnapshot := snapshot })
    recoverChanges setting context

/-- `confirm_recovery` while it holds the lock. -/
def confirmRecordedTask : Controller Unit := do
  match ← call .readStatus with
  | .record status =>
      if status.state ≠ .recoveryConfirmationRequired then
        fail (.runtimeError "No recovery is awaiting explicit operator confirmation")
      else
        match status.context with
        | none =>
            fail (.runtimeError "Cannot prove the recovery confirmation task context")
        | some context => confirmTask setting status context
  | _ => fail (.runtimeError "Recovery confirmation status is unreadable")

end

end GrowthOs.Handoff
