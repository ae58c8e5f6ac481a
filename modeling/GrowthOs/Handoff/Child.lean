import GrowthOs.Handoff.Scope
import Mathlib.Data.List.Infix

/-!
# Children, labels and comments

`run_codex_stream` with the supervision of its child process group, the roles of the child, the
local verification, and the labels and comments of an issue.
-/

namespace GrowthOs.Handoff

open Library

variable (setting : Setting)

/-- `DEFAULT_CHILD_INACTIVITY_TIMEOUT`. -/
def childInactivityTimeout : Rat := 1800

/-- `state in {"IMPLEMENTING", "FIXING"}`. -/
def HandoffState.writesWorkspace (state : HandoffState) : Bool :=
  state == .implementing || state == .fixing

/-- The checkpoint of a heartbeat. -/
def writeHeartbeat (context : StatusContext) (state : HandoffState) (pid : Int)
    (heartbeat : String) : Controller Unit :=
  writeStatus state (.of context
    { codexPid := some pid, lastChildOutputAt := some heartbeat })

/-- The end of a child: its process group is terminated before the scope is captured and
recorded. -/
def captureChild (context : StatusContext) (state : HandoffState) (pid : Int) :
    Controller Unit := do
  call (.terminateProcessGroup pid)
  let (paths, snapshot) ← capturedRecoveryScope setting
  writeStatus state (.of context { recoverablePaths := paths, recoverableSnapshot := snapshot })

/-- `run_codex_stream` after `Popen`, up to its `finally`. -/
def superviseCodex (context : StatusContext) (state : HandoffState) (base : String) (pid : Int) :
    Controller (Int × String) := do
  let heartbeat ← call .nowIso
  let identity ← call (.processGroupIdentity pid)
  if identity = none then
    fail (.runtimeError "Could not record Codex child process-group identity")
  else do
    let (paths, snapshot) ← capturedRecoveryScope setting
    writeStatus state (.of context
      { codexPid := some pid
        lastChildOutputAt := some heartbeat
        recoverablePaths := paths
        recoverableSnapshot := snapshot
        childProcessGroup := some pid
        childProcessIdentity := identity
        childInactivityTimeout := some childInactivityTimeout
        recoverableBaseSha := some base
        resetRecovery := state.writesWorkspace })
    call (.releaseGate pid)
    let child ← call (.superviseChild pid)
    let _ ← forEach (writeHeartbeat context state pid) child.heartbeats
    captureChild setting context state pid
    pure (child.returnCode, child.tail)

/-- `run_codex_stream`. Its `finally` captures the scope unless that has been done. -/
def runCodexStream (context : StatusContext) (state : HandoffState) :
    Controller (Int × String) := do
  let base ← call .gitHead
  if base = "" then fail (.runtimeError "Could not record Codex child base HEAD")
  else do
    writeStatus .launching (.of context
      { recoverableBaseSha := some base, resetRecovery := state.writesWorkspace })
    let pid ← call (.spawn state)
    (superviseCodex setting context state base pid).handle fun e => do
      captureChild setting context state pid
      fail e

/-- `label(issue_number, add=…)`. -/
def addLabel (number : Int) (name : String) : Controller Unit := call (.ghAddLabel number name)

/-- `label(issue_number, add=…, remove=…)`. -/
def replaceLabel (number : Int) (add remove : String) : Controller Unit := do
  call (.ghAddLabel number add)
  call (.ghRemoveLabel number remove)

/-- `marker in body`. -/
def hasMarker (marker body : String) : Bool := decide (marker.toList <:+: body.toList)

/-- `comment_once`. -/
def commentOnce (number : Int) (event text : String) : Controller Unit := do
  let marker := "<!-- growth-os-codex-handoff:" ++ event ++ " -->"
  match ← call (.ghIssueComments number) with
  | none => fail (.runtimeError "GitHub returned invalid issue comments for audit deduplication")
  | some bodies =>
      if bodies.any (hasMarker marker) then pure ()
      else call (.ghIssueComment number (text ++ "\n\n" ++ marker))

/-! ## Verification, review and fixes -/

/-- The names of `VERIFICATION_COMMANDS`. -/
def verificationCommands : List String :=
  ["Ruff lint", "Ruff format", "strict mypy", "pytest", "pip-audit", "Alembic upgrade SQL",
    "Alembic downgrade SQL", "git diff validation"]

/-- The loop body of `run_verification`. -/
def verifyWith (logFile name : String) : Controller Unit := do
  let returnCode ← call (.runVerificationCommand name)
  if returnCode ≠ 0 then
    fail (.runtimeError ("Local verification failed during " ++ name ++ " with exit code " ++
      toString returnCode ++ ". See " ++ logFile ++ "."))
  else pure ()

/-- `run_verification`. -/
def runVerification (context : StatusContext) (passNumber : Nat) : Controller Unit := do
  writeStatus .verifying (.of context {})
  let _ ← forEach (verifyWith (".git/codex-handoff-logs/verify-" ++ toString context.issue ++ "-" ++
    toString passNumber ++ ".log")) verificationCommands
  pure ()

/-- `text[-n:]`. -/
def textTail (n : Nat) (text : String) : String :=
  String.ofList (text.toList.drop (text.length - n))

/-- `run_reviewer`. -/
def runReviewer (context : StatusContext) : Controller ReviewVerdict := do
  let (returnCode, tail) ← runCodexStream setting context .reviewing
  if returnCode ≠ 0 then
    fail (.runtimeError ("Reviewer exited with " ++ toString returnCode ++ ":\n" ++
      textTail 3000 tail))
  else call .loadReviewResult

/-- `run_fixer`. -/
def runFixer (context : StatusContext) : Controller Unit := do
  let (returnCode, tail) ← runCodexStream setting context .fixing
  if returnCode ≠ 0 then do
    let (paths, snapshot) ← capturedRecoveryScope setting
    if paths = none then
      fail (.runtimeError ("Fixer exited with " ++ toString returnCode ++ ":\n" ++
      textTail 3000 tail))
    else do
      writeStatus .recoverableChanges (.of context
        { recoverablePaths := paths, recoverableSnapshot := snapshot })
      fail (.recoverableChangesError ("Fixer exited with " ++ toString returnCode ++
        "; preserved task changes require recovery"))
  else do
    let entries ← call .gitStatus
    if entries = [] then fail (.runtimeError "Reviewer fixer produced no changes") else pure ()

end GrowthOs.Handoff
