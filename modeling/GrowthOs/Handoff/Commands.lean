import GrowthOs.Handoff.Status
import GrowthOs.Library.Scripts

/-!
# The commands of the controller

Everything that `devtools/codex_handoff.py` asks of its surroundings: the status file, Git, GitHub,
the child processes and the clock. A command returns its answer or raises. A parameter of a command
is what the source passes to it, and its answer what the source reads from it.
-/

namespace GrowthOs.Handoff

open Library

/-- The exceptions, with their text. `RecoverableChangesError` and `ActiveOrphanError` are
`RuntimeError`s of their own. -/
inductive Raised where
  | calledProcessError (text : String)
  | jsonDecodeError (text : String)
  | runtimeError (text : String)
  | valueError (text : String)
  | recoverableChangesError (text : String)
  | activeOrphanError (text : String)
  | otherException (text : String)
  | keyboardInterrupt
  deriving DecidableEq, Repr

/-- `str(exc)`. -/
def Raised.text : Raised → String
  | .calledProcessError text | .jsonDecodeError text | .runtimeError text | .valueError text
  | .recoverableChangesError text | .activeOrphanError text | .otherException text => text
  | .keyboardInterrupt => ""

/-- `Issue` of `next_issue`. -/
structure Issue where
  number : Int
  title : String
  body : Option String
  login : Option String
  deriving DecidableEq, Repr

/-- The payload of `gh issue view`. A field is `none` when it does not have its type. -/
structure IssuePayload where
  number : Option Int
  title : Option String
  body : Option String
  login : Option String
  state : Option String
  deriving DecidableEq, Repr

/-- The payload of `gh pr view`. A label is `none` when it has no name. -/
structure PrMetadata where
  number : Option Int
  url : Option String
  state : Option String
  isDraft : Option Bool
  mergeable : Option String
  baseRefName : Option String
  headRefName : Option String
  headRefOid : Option String
  reviewDecision : Option String
  labels : Option (List (Option String))
  deriving DecidableEq, Repr

/-- The payload of `gh pr view --json state,mergeCommit,url`. -/
structure MergeStatus where
  state : Option String
  mergeSha : Option String
  deriving DecidableEq, Repr

/-- An item of `gh pr list --json url,isDraft`. -/
structure PrItem where
  url : Option String
  isDraft : Option Bool
  deriving DecidableEq, Repr

/-- `reviewThreads` of a pull request. A node is `none` when it has no flag. -/
structure ReviewThreads where
  nodes : List (Option Bool)
  hasNextPage : Bool
  deriving DecidableEq, Repr

/-- `verdict` of a `ReviewResult`. -/
inductive ReviewVerdict where
  | pass
  | changesRequested
  deriving DecidableEq, Repr

/-- What `lstat` and a read find at a path. -/
inductive FileState where
  | missing
  | symlink (mode : Nat) (target : String)
  | file (mode : Nat) (content : String)
  | other (mode : Nat)
  deriving DecidableEq, Repr

/-- What the two snapshot functions hash. -/
inductive Snapshot where
  | recovery (head : String) (status : List StatusEntry)
      (files : List (String × String × FileState))
  | content (files : List (String × FileState))
  deriving DecidableEq, Repr

/-- The age of a heartbeat, or why it has none. -/
inductive HeartbeatAge where
  | unparsable
  | naive
  | seconds (age : Rat)
  deriving DecidableEq, Repr

/-- The supervision of a child until it exits or exceeds its inactivity timeout: the times of its
heartbeat checkpoints, its return code and the tail of its output. -/
structure ChildRun where
  heartbeats : List String
  returnCode : Int
  tail : String
  deriving DecidableEq, Repr

/-- The commands. -/
inductive Command where
  | ensureTools
  | ensureLabels
  | acquireLock
  | releaseLock
  | sleep
  | nowIso
  -- The status file.
  | readStatus
  | writeStatus (status : Status)
  -- Git.
  | gitHead
  | gitHeadParent
  | gitHeadSubject
  | gitHeadTree
  | gitCurrentBranch
  | gitStatus
  | gitLsFilesStage (path : String)
  | lstat (path : String)
  | gitAddAll
  | gitWriteTree
  | gitCommit (subject : String)
  | gitPush
  | gitPushUpstream (branch : String)
  | gitFetchMain
  | gitCheckoutMain
  | gitPullMain
  | gitBranchList (branch : String)
  | gitBranchDelete (branch : String)
  | gitLsRemote (branch : String)
  | gitCheckoutNew (branch : String)
  | gitDiffNames
  -- GitHub.
  | ghReadyIssues
  | ghIssueView (number : Int)
  | ghIssueComments (number : Int)
  | ghIssueComment (number : Int) (text : String)
  | ghAddLabel (number : Int) (label : String)
  | ghRemoveLabel (number : Int) (label : String)
  | ghPrList (branch : String)
  | ghPrCreate (branch title body : String)
  | ghPrView (url : String)
  | ghMergeStatus (url : String)
  | ghReviewThreads (number : Int)
  | ghPrReady (url : String)
  | ghPrMerge (url matchHeadCommit : String)
  | ghPrAddLabel (url label : String)
  -- Processes.
  | spawn (state : HandoffState)
  | processGroupIdentity (pid : Int)
  | pidIsRunning (pid : Int)
  | processGroupIsRunning (group : Int)
  | releaseGate (pid : Int)
  | superviseChild (pid : Int)
  | terminateProcessGroup (pid : Int)
  | terminateOrphanProcessGroup (group : Int)
  | heartbeatAge (value : String)
  | runVerificationCommand (name : String)
  | loadReviewResult
  deriving DecidableEq, Repr

/-- What a command returns. A missing object stands for a payload of another type. -/
@[reducible] def Answer : Command → Type
  | .ensureTools | .ensureLabels | .acquireLock | .releaseLock | .sleep => Unit
  | .nowIso => String
  | .readStatus => StatusFile
  | .writeStatus _ => Unit
  | .gitHead | .gitHeadParent | .gitHeadSubject | .gitHeadTree | .gitCurrentBranch => String
  | .gitStatus => List StatusEntry
  | .gitLsFilesStage _ => String
  | .lstat _ => FileState
  | .gitAddAll => Unit
  | .gitWriteTree => String
  | .gitCommit _ | .gitPush | .gitPushUpstream _ | .gitFetchMain | .gitCheckoutMain |
      .gitPullMain =>
      Unit
  | .gitBranchList _ => String
  | .gitBranchDelete _ => Unit
  | .gitLsRemote _ => List (List String)
  | .gitCheckoutNew _ => Unit
  | .gitDiffNames => List String
  | .ghReadyIssues => List Issue
  | .ghIssueView _ => Option IssuePayload
  | .ghIssueComments _ => Option (List String)
  | .ghIssueComment _ _ | .ghAddLabel _ _ | .ghRemoveLabel _ _ => Unit
  | .ghPrList _ => Option (List PrItem)
  | .ghPrCreate _ _ _ => String
  | .ghPrView _ => Option PrMetadata
  | .ghMergeStatus _ => Option MergeStatus
  | .ghReviewThreads _ => Option ReviewThreads
  | .ghPrReady _ | .ghPrMerge _ _ | .ghPrAddLabel _ _ => Unit
  | .spawn _ => Int
  | .processGroupIdentity _ => Option String
  | .pidIsRunning _ | .processGroupIsRunning _ => Bool
  | .releaseGate _ => Unit
  | .superviseChild _ => ChildRun
  | .terminateProcessGroup _ | .terminateOrphanProcessGroup _ => Unit
  | .heartbeatAge _ => HeartbeatAge
  | .runVerificationCommand _ => Int
  | .loadReviewResult => ReviewVerdict

/-- A function of the controller. -/
abbrev Controller (α : Type) := Script Answer Raised α

/-- Issue a command. -/
def call (command : Command) : Controller (Answer command) := Script.issue command

/-- Raise an exception. -/
def fail {α : Type} (e : Raised) : Controller α := Script.raise e

/-- `write_status`. -/
def writeStatus (state : HandoffState) (update : StatusUpdate) : Controller Unit := do
  let file ← call .readStatus
  call (.writeStatus (update.payload state file.previous))

end GrowthOs.Handoff
