import GrowthOs.Handoff.Reconcile

/-!
# The runs of the controller

`process_issue`, the handlers of its exceptions, `run_once`, `run_watch` and `confirm_recovery`, as
the entries of one service.
-/

namespace GrowthOs.Handoff

open Library

/-- Drop the leading and trailing hyphens: `.strip("-")`. -/
def stripHyphens (text : List Char) : List Char :=
  ((text.dropWhile (· == '-')).reverse.dropWhile (· == '-')).reverse

/-- `re.sub(r"[^a-z0-9]+", "-", …)`: one hyphen for every run of other characters. -/
def hyphenate : List Char → List Char
  | [] => []
  | c :: rest =>
      if isLowerAlnum c then c :: hyphenate rest
      else
        match hyphenate rest with
        | '-' :: tail => '-' :: tail
        | tail => '-' :: tail

section

variable (setting : Setting)

/-- `slugify`. -/
def slugify (text : String) : String :=
  let slug := (stripHyphens (hyphenate (setting.lower text).toList)).take 48
  let slug := if slug = [] then "task".toList else slug
  String.ofList ((slug.reverse.dropWhile (· == '-')).reverse)

/-- `prepare_task_branch`. -/
def prepareTaskBranch (branch : String) : Controller Unit := do
  call .gitFetchMain
  call .gitCheckoutMain
  call .gitPullMain
  let localBranch ← call (.gitBranchList branch)
  (if localBranch ≠ "" then call (.gitBranchDelete branch) else pure ())
  let remoteBranch ← call (.gitLsRemote branch)
  if remoteBranch ≠ [] then
    fail (.runtimeError ("Remote task branch already exists: " ++ branch ++
      ". Refusing to overwrite it automatically."))
  else call (.gitCheckoutNew branch)

/-- `reset_noop_branch`. -/
def resetNoopBranch (branch : String) : Controller Unit := do
  call .gitCheckoutMain
  call (.gitBranchDelete branch)

/-- Preserve the changes of a stopped implementation: `RECOVERABLE_CHANGES`, if there are any. -/
def preserveChanges (context : StatusContext) (message : String) (otherwise : Raised) :
    Controller Unit := do
  let (paths, snapshot) ← capturedRecoveryScope setting
  if paths = none then fail otherwise
  else do
    writeStatus .recoverableChanges (.of context
      { recoverablePaths := paths, recoverableSnapshot := snapshot })
    fail (.recoverableChangesError message)

/-- The implementation step of `process_issue`: the tail of the output of its child. -/
def implement (context : StatusContext) : Controller String := do
  let (returnCode, tail) ← (runCodexStream setting context .implementing).handle fun
    | .keyboardInterrupt => do
        preserveChanges setting context
          "Controller interrupted; preserved task changes require recovery" .keyboardInterrupt
        fail .keyboardInterrupt
    | e => fail e
  if returnCode ≠ 0 then do
    preserveChanges setting context
      ("Codex exited with " ++ toString returnCode ++ "; preserved task changes require recovery")
      (.runtimeError ("Codex exited with " ++ toString returnCode ++ ":\n" ++ textTail 3000 tail))
    pure tail
  else pure tail

/-- `status_context` of `process_issue`. -/
def issueContext (issue : Issue) (startedAt : String) : StatusContext :=
  { issue := issue.number
    title := issue.title
    branch := "codex/issue-" ++ toString issue.number ++ "-" ++ slugify setting issue.title
    startedAt }

/-- `process_issue`. -/
def processIssue (issue : Issue) : Controller Unit := do
  let startedAt ← call .nowIso
  let context := issueContext setting issue startedAt
  writeStatus .syncing (.of context { resetRecovery := true })
  replaceLabel issue.number "codex-running" "codex-ready"
  call (.ghIssueComment issue.number ("Local Codex controller started this task on branch `" ++
    context.branch ++ "`."))
  prepareTaskBranch context.branch
  let tail ← implement setting context
  let changed ← call .gitStatus
  if changed = [] then do
    resetNoopBranch context.branch
    fail (.runtimeError ("Codex returned successfully but produced no repository changes for an " ++
      "implementation task. The controller treats this as a failed handoff so the task can be " ++
      "reviewed/requeued instead of being falsely marked complete.\n\nCodex output:\n" ++
      textTail 3000 tail))
  else finalizeChanges setting issue.title context true false

/-- `recoverable_states` of `recoverable_finalization_error`. -/
def HandoffState.recoverable : HandoffState → Bool
  | .verifying | .committing | .committed | .pushing | .pushed | .prCreated | .reviewing
  | .reviewPassed => true
  | _ => false

/-- `recoverable_finalization_error`: the error to raise in place of `error`. -/
def recoverableFinalizationError (number : Int) (error : Raised) : Controller (Option Raised) := do
  match ← call .readStatus with
  | .record status =>
      if status.issue ≠ some number then pure none
      else if !status.state.recoverable || (!status.hasTrustedManifest && !status.hasCommit) then
        pure none
      else
        match status.context with
        | none => pure none
        | some context => do
            writeStatus .recoverableChanges (.of context {})
            pure (some (.recoverableChangesError
              ("Finalization stopped; preserved task work requires recovery: " ++
                textTail 700 error.text)))
  | _ => pure none

/-- The checkpoints of `recoverable_interruption_error`. -/
def Checkpoint.durable : Checkpoint → Bool
  | .staging | .staged | .committed | .pushed | .prCreated => true
  | .other _ => false

/-- A record that `recoverable_interruption_error` preserves. -/
def Status.interruptible (status : Status) : Bool :=
  status.hasTrustedManifest || status.finalizationCheckpoint.any (·.durable)

/-- `recoverable_interruption_error`. -/
def recoverableInterruptionError (context : StatusContext) (error : Raised) :
    Controller (Option Raised) := do
  match ← call .readStatus with
  | .record status =>
      if status.interruptible then do
        writeStatus .recoverableChanges (.of context {})
        pure (some (.recoverableChangesError
          ("Controller interrupted; preserved task work requires recovery: " ++
            textTail 700 error.text)))
      else pure none
  | _ => pure none

/-- `recorded_status_context`. -/
def recordedStatusContext (issue : Issue) : Controller (Option StatusContext) := do
  match ← call .readStatus with
  | .record status =>
      if status.issue = some issue.number ∧ status.title = some issue.title then pure status.context
      else pure none
  | _ => pure none

/-- `run_once` and `run_watch` at an `Exception` of `process_issue`. -/
def handleTaskError (issue : Issue) (error : Raised) : Controller Unit := do
  match ← recoverableFinalizationError issue.number error with
  | some recovery => fail recovery
  | none => do
      recordIssueFailure issue.number issue.title error
      fail error

/-- The recovery error of `run_watch` at a `KeyboardInterrupt` of `process_issue`. -/
def taskInterruption (issue : Issue) : Controller (Option Raised) := do
  match ← recoverableFinalizationError issue.number .keyboardInterrupt with
  | some recovery => pure (some recovery)
  | none =>
      match ← recordedStatusContext issue with
      | some context => recoverableInterruptionError context .keyboardInterrupt
      | none => pure none

/-- `run_watch` at a `KeyboardInterrupt` of `process_issue`. -/
def handleTaskInterrupt (issue : Issue) : Controller Unit := do
  match ← taskInterruption issue with
  | some recovery => fail recovery
  | none =>
      recordIssueFailure issue.number issue.title
        (.runtimeError "Controller interrupted during task processing")

/-- `clean_tree_required`. -/
def cleanTreeRequired : Controller Unit := do
  let entries ← call .gitStatus
  if entries ≠ [] then
    fail (.runtimeError
      "Working tree is not clean. Commit/stash changes before running the controller.")
  else pure ()

/-- `next_issue`. -/
def nextIssue : Controller (Option Issue) := do
  match ← call .ghReadyIssues with
  | [] => pure none
  | issue :: _ =>
      if setting.lower (issue.login.getD "") ≠ setting.lower setting.owner then
        fail (.runtimeError ("Refusing issue #" ++ toString issue.number ++ ": author is not " ++
          setting.owner))
      else pure (some issue)

/-- `run_once` at an exception of `process_issue`. -/
def onceTaskHandler (issue : Issue) : Raised → Controller Unit
  | .recoverableChangesError text => fail (.recoverableChangesError text)
  | .keyboardInterrupt => fail .keyboardInterrupt
  | e => handleTaskError issue e

/-- `run_once` while it holds the lock. -/
def runOnceLocked : Controller Unit := do
  match ← reconcileStaleRun setting with
  | some recovery => recoverChanges setting recovery
  | none => do
      cleanTreeRequired
      match ← nextIssue setting with
      | none => writeStatus .idle {}
      | some issue => (processIssue setting issue).handle (onceTaskHandler issue)

/-- The start of `run_once`, `run_watch` and `confirm_recovery`. -/
def startController : Controller Unit := do
  call .ensureTools
  call .ensureLabels
  call .acquireLock

/-! ## run_watch -/

/-- `run_watch` at a `KeyboardInterrupt` of the recovery that it resumes. -/
def handleRecoveryInterrupt (recovery : StatusContext) : Controller Unit := do
  match ← recoverableInterruptionError recovery .keyboardInterrupt with
  | some error => fail error
  | none => fail .keyboardInterrupt

/-- `run_watch` at an exception of `recover_changes`. -/
def watchRecoveryHandler (recovery : StatusContext) : Raised → Controller Unit
  | .keyboardInterrupt => handleRecoveryInterrupt recovery
  | e => fail e

/-- `run_watch` with a recovery to resume. -/
def watchRecovery (recovery : StatusContext) : Controller Unit :=
  (recoverChanges setting recovery).handle (watchRecoveryHandler recovery)

/-- `run_watch` at an exception of `process_issue`. -/
def watchTaskHandler (issue : Issue) : Raised → Controller Unit
  | .recoverableChangesError text => fail (.recoverableChangesError text)
  | .keyboardInterrupt => handleTaskInterrupt issue
  | e => handleTaskError issue e

/-- `process_issue` in the loop of `run_watch`: whether the loop goes on. -/
def watchIssue (issue : Issue) : Controller Bool :=
  (processIssue setting issue).andThen fun
    | .ok () => pure true
    | .error e => do
        watchTaskHandler issue e
        pure false

/-- `run_watch` without a task to recover: whether the loop goes on. -/
def watchForIssue : Controller Bool := do
  cleanTreeRequired
  match ← nextIssue setting with
  | none => do
      writeStatus .idle {}
      call .sleep
      pure true
  | some issue => watchIssue setting issue

/-- The body of the loop of `run_watch`: whether the loop goes on. -/
def watchBody : Controller Bool :=
  (reconcileStaleRun setting).andThen fun
    | .ok (some recovery) => do
        watchRecovery setting recovery
        pure true
    | .ok none => watchForIssue setting
    | .error (.activeOrphanError _) => do
        call .sleep
        pure true
    | .error e => fail e

/-- The handler of `run_watch`: `Controller stopped by operator`. -/
def stopWatch : Raised → Controller Bool
  | .keyboardInterrupt => do
      writeStatus .stopped {}
      pure false
  | e => fail e

/-- The entries of the controller. `watching` is the next round of the loop of `run_watch`. -/
inductive HandoffEntry where
  | once
  | watch
  | watching
  | confirm
  deriving DecidableEq, Repr

/-- The end of a round of the loop of `run_watch`: the loop goes on, or its `finally` releases the
lock. -/
def endRound : Except Raised Bool → Controller (Option HandoffEntry)
  | .ok true => pure (some .watching)
  | result => (call .releaseLock).andThen fun
      | .ok () => .done (result.map fun _ => none)
      | .error e => fail e

/-- The `try … except … finally` of `run_watch` around the body of its loop. -/
def guardRound (body : Controller Bool) : Controller (Option HandoffEntry) :=
  (body.handle stopWatch).andThen endRound

/-- A round of the loop of `run_watch`. -/
def watchRound : Controller (Option HandoffEntry) := guardRound (watchBody setting)

/-- The script of an entry: `run_once`, `run_watch` and `confirm_recovery`. -/
def handoffScript : HandoffEntry → Controller (Option HandoffEntry)
  | .once => do
      startController
      (runOnceLocked setting).finally_ (call .releaseLock)
      pure none
  | .watch => do
      startController
      watchRound setting
  | .watching => watchRound setting
  | .confirm => do
      startController
      (confirmRecordedTask setting).finally_ (call .releaseLock)
      pure none

/-- What the controller runs in: what its commands do to a world, what the start of an entry does to
it, what happens to it while the controller does not run, and where it can crash. -/
structure Surroundings (W : Type) where
  exec : Exec Answer Raised W
  opening : HandoffEntry → W → W
  drift : W → W → Prop
  mayCrash : W → Prop

/-- The controller in its surroundings. -/
def controller {W : Type} (around : Surroundings W) :
    ScriptService Command Answer Raised HandoffEntry W :=
  { script := handoffScript setting
    exec := around.exec
    opening := around.opening
    drift := around.drift
    mayCrash := around.mayCrash }

end

end GrowthOs.Handoff
