import Mathlib.Data.List.Sort
import Mathlib.Data.String.Basic

/-!
# The status file

The record that `write_status` of `devtools/codex_handoff.py` keeps in `.git`: the only memory of
the controller between two processes. A field is `none` when its key is absent or null, or when its
value does not have the type that every reader requires of it.
-/

namespace GrowthOs.Handoff

/-- The states that the controller writes, and any other text. -/
inductive HandoffState where
  | idle
  | stopped
  | syncing
  | launching
  | implementing
  | fixing
  | reviewing
  | recoverableChanges
  | recoveryBlocked
  | recoveryConfirmationRequired
  | verifying
  | committing
  | committed
  | pushing
  | pushed
  | prCreated
  | reviewPassed
  | merging
  | merged
  | mergeBlocked
  | failed
  | other (text : String)
  deriving DecidableEq, Repr

/-- The values of `finalization_checkpoint`, and any other text. -/
inductive Checkpoint where
  | staging
  | staged
  | committed
  | pushed
  | prCreated
  | other (text : String)
  deriving DecidableEq, Repr

/-- `StatusContext`. -/
structure StatusContext where
  issue : Int
  title : String
  branch : String
  startedAt : String
  deriving DecidableEq, Repr

/-- A status record. -/
structure Status where
  state : HandoffState
  issue : Option Int
  title : Option String
  branch : Option String
  startedAt : Option String
  codexPid : Option Int
  lastChildOutputAt : Option String
  prUrl : Option String
  recoverablePaths : Option (List String)
  recoverableSnapshot : Option String
  recoverableContentSnapshot : Option String
  finalizationCheckpoint : Option Checkpoint
  commitSha : Option String
  preCommitSha : Option String
  pendingCommitSubject : Option String
  recoverableBaseSha : Option String
  pendingTreeSha : Option String
  childProcessGroup : Option Int
  childProcessIdentity : Option String
  childInactivityTimeout : Option Rat
  deriving DecidableEq, Repr

/-- The content of the status file. A JSON value that is not an object counts as a record without
fields. -/
inductive StatusFile where
  | missing
  | unreadable
  | record (status : Status)
  deriving DecidableEq, Repr

/-- `previous` of `write_status`. -/
def StatusFile.previous : StatusFile → Option Status
  | .record status => some status
  | _ => none

/-- The keyword arguments of `write_status`. -/
structure StatusUpdate where
  issue : Option Int := none
  title : Option String := none
  branch : Option String := none
  startedAt : Option String := none
  codexPid : Option Int := none
  lastChildOutputAt : Option String := none
  prUrl : Option String := none
  recoverablePaths : Option (List String) := none
  recoverableSnapshot : Option String := none
  recoverableContentSnapshot : Option String := none
  finalizationCheckpoint : Option Checkpoint := none
  commitSha : Option String := none
  preCommitSha : Option String := none
  pendingCommitSubject : Option String := none
  recoverableBaseSha : Option String := none
  pendingTreeSha : Option String := none
  childProcessGroup : Option Int := none
  childProcessIdentity : Option String := none
  childInactivityTimeout : Option Rat := none
  resetRecovery : Bool := false

/-- `**status_context`. -/
def StatusUpdate.of (context : StatusContext) (update : StatusUpdate) : StatusUpdate :=
  { update with
    issue := some context.issue
    title := some context.title
    branch := some context.branch
    startedAt := some context.startedAt }

/-- The `payload` of `write_status`. An argument that is not given keeps the previous value, except
the PID of the child, which is cleared. -/
def StatusUpdate.payload (update : StatusUpdate) (state : HandoffState) (previous : Option Status) :
    Status :=
  let recovery := if update.resetRecovery then none else previous
  { state
    issue := update.issue <|> previous.bind (·.issue)
    title := update.title <|> previous.bind (·.title)
    branch := update.branch <|> previous.bind (·.branch)
    startedAt := update.startedAt <|> previous.bind (·.startedAt)
    codexPid := update.codexPid
    lastChildOutputAt := update.lastChildOutputAt <|> recovery.bind (·.lastChildOutputAt)
    prUrl := update.prUrl <|> recovery.bind (·.prUrl)
    recoverablePaths := update.recoverablePaths <|> recovery.bind (·.recoverablePaths)
    recoverableSnapshot := update.recoverableSnapshot <|> recovery.bind (·.recoverableSnapshot)
    recoverableContentSnapshot :=
      update.recoverableContentSnapshot <|> recovery.bind (·.recoverableContentSnapshot)
    finalizationCheckpoint :=
      update.finalizationCheckpoint <|> recovery.bind (·.finalizationCheckpoint)
    commitSha := update.commitSha <|> recovery.bind (·.commitSha)
    preCommitSha := update.preCommitSha <|> recovery.bind (·.preCommitSha)
    pendingCommitSubject := update.pendingCommitSubject <|> recovery.bind (·.pendingCommitSubject)
    recoverableBaseSha := update.recoverableBaseSha <|> recovery.bind (·.recoverableBaseSha)
    pendingTreeSha := update.pendingTreeSha <|> recovery.bind (·.pendingTreeSha)
    childProcessGroup := update.childProcessGroup <|> recovery.bind (·.childProcessGroup)
    childProcessIdentity := update.childProcessIdentity <|> recovery.bind (·.childProcessIdentity)
    childInactivityTimeout :=
      update.childInactivityTimeout <|> recovery.bind (·.childInactivityTimeout) }

/-- The states that `reconcile_stale_run` treats as active. -/
def HandoffState.active : HandoffState → Bool
  | .implementing | .fixing | .recoverableChanges | .committing | .committed | .pushing | .pushed
  | .prCreated | .verifying | .reviewing | .reviewPassed | .recoveryBlocked
  | .recoveryConfirmationRequired | .launching | .syncing => true
  | _ => false

/-- The task of a record, if it names one: `type(issue) is int` and three non-empty strings. -/
def Status.context (status : Status) : Option StatusContext := do
  let issue ← status.issue
  let title ← status.title
  let branch ← status.branch
  let startedAt ← status.startedAt
  if title ≠ "" ∧ branch ≠ "" ∧ startedAt ≠ "" then some ⟨issue, title, branch, startedAt⟩
  else none

/-- `has_trusted_manifest`. -/
def Status.hasTrustedManifest (status : Status) : Bool :=
  status.recoverablePaths.any (· ≠ []) &&
    (status.recoverableSnapshot.isSome || status.recoverableContentSnapshot.isSome)

/-- The checkpoint is `COMMITTED`, `PUSHED` or `PR_CREATED`. -/
def Checkpoint.hasCommit : Checkpoint → Bool
  | .committed | .pushed | .prCreated => true
  | _ => false

/-- The record has one of these checkpoints. -/
def Status.hasCommit (status : Status) : Bool := status.finalizationCheckpoint.any (·.hasCommit)

/-- `completed` of `finalize_changes`. -/
def completedOf (checkpoint : Option Checkpoint) : Nat :=
  match checkpoint with
  | some .committed => 1
  | some .pushed => 2
  | some .prCreated => 3
  | _ => 0

/-- A line of `git status --porcelain=v1 -z`: its two status letters, its path, and the source path
of a rename or a copy. -/
structure StatusEntry where
  code : String
  path : String
  source : Option String
  deriving DecidableEq, Repr

/-- `working_tree_paths`: the sorted set of the paths of the entries. -/
def workingTreePaths (entries : List StatusEntry) : List String :=
  (entries.flatMap fun entry => entry.path :: entry.source.toList).dedup.mergeSort fun p q => p ≤ q

end GrowthOs.Handoff
