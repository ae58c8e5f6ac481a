import GrowthOs.Handoff.Commands

/-!
# The scope of a recovery

`recovery_snapshot`, `recovery_content_snapshot`, `captured_recovery_scope` and
`validate_recovery_scope`: the manifest of the preserved files, and its comparison with the working
tree.
-/

namespace GrowthOs.Handoff

open Library

/-- `AutoMergeAssessment`. -/
structure AutoMergeAssessment where
  risk : String
  roadmapAuthorized : Bool
  reversible : Bool
  productionDeployment : Bool
  externalCustomerSideEffect : Bool
  stopCategories : List String
  deriving DecidableEq, Repr

/-- What the controller is configured with or takes from elsewhere: the owner of the repository,
`str.lower`, the SHA-256 digest of what a snapshot function feeds to it, and
`parse_auto_merge_assessment`, which raises a `ValueError` with a text. -/
structure Setting where
  owner : String
  lower : String → String
  digest : Snapshot → String
  parseAutoMergeAssessment : String → Except String AutoMergeAssessment

/-- `path.is_absolute() or ".." in path.parts`. -/
def isUnsafePath (path : String) : Bool :=
  path.toList.head? == some '/' || (path.toList.splitOn '/').any (· == ['.', '.'])

/-- Run a script on every element of a list, in its order. -/
def forEach {α β : Type} (f : α → Controller β) : List α → Controller (List β)
  | [] => pure []
  | a :: rest => do
      let b ← f a
      let bs ← forEach f rest
      pure (b :: bs)

/-- `sorted(paths)`. -/
def sortedPaths (paths : List String) : List String := paths.mergeSort fun p q => p ≤ q

/-- The loop body of `recovery_snapshot`. -/
def snapshotFile (path : String) : Controller (String × String × FileState) := do
  if isUnsafePath path then fail (.runtimeError "Cannot snapshot an unsafe recovery path")
  else do
    let index ← call (.gitLsFilesStage path)
    let file ← call (.lstat path)
    pure (path, index, file)

/-- The loop body of `recovery_content_snapshot`. -/
def contentFile (path : String) : Controller (String × FileState) := do
  if isUnsafePath path then fail (.runtimeError "Cannot snapshot an unsafe recovery path")
  else do
    let file ← call (.lstat path)
    pure (path, file)

section

variable (setting : Setting)

/-- `recovery_snapshot`. -/
def recoverySnapshot (paths : List String) : Controller String := do
  let head ← call .gitHead
  if head = "" then fail (.runtimeError "Cannot snapshot recovery base HEAD")
  else do
    let status ← call .gitStatus
    let files ← forEach snapshotFile (sortedPaths paths)
    pure (setting.digest (.recovery head status files))

/-- `recovery_content_snapshot`. -/
def recoveryContentSnapshot (paths : List String) : Controller String := do
  let files ← forEach contentFile (sortedPaths paths)
  pure (setting.digest (.content files))

/-- `working_tree_paths`. -/
def currentPaths : Controller (List String) := do
  let entries ← call .gitStatus
  pure (workingTreePaths entries)

/-- `captured_recovery_scope`. -/
def capturedRecoveryScope : Controller (Option (List String) × Option String) := do
  let paths ← currentPaths
  if paths = [] then pure (none, none)
  else do
    let snapshot ← recoverySnapshot setting paths
    pure (some paths, some snapshot)

/-- The error of `validate_recovery_scope` when the tree is not the recorded one. -/
def scopeError : Raised :=
  .runtimeError "Cannot prove recovery working-tree scope; refusing to stage preserved changes"

/-- `exact_snapshot_matches`. -/
def exactSnapshotMatches (status : Status) (expected : List String) : Controller Bool :=
  match status.recoverableSnapshot with
  | none => pure false
  | some recorded => do
      let current ← recoverySnapshot setting expected
      pure (current = recorded)

/-- `staged_content_matches`. -/
def stagedContentMatches (status : Status) (expected : List String) : Controller Bool :=
  if status.finalizationCheckpoint = some .staging ∨
      status.finalizationCheckpoint = some .staged then
    match status.recoverableContentSnapshot, status.recoverableBaseSha with
    | some recorded, some base => do
        let head ← call .gitHead
        if head = base then do
          let current ← recoveryContentSnapshot setting expected
          pure (current = recorded)
        else pure false
    | _, _ => pure false
  else pure false

/-- `validate_recovery_scope`. -/
def validateRecoveryScope : Controller Unit := do
  match ← call .readStatus with
  | .record status =>
      match status.recoverablePaths with
      | none => fail (.runtimeError ("Legacy recovery has no child-captured content manifest; " ++
          "explicit operator confirmation is required"))
      | some expected =>
          if status.recoverableSnapshot = none ∧ status.recoverableContentSnapshot = none then
            fail (.runtimeError ("Legacy recovery has no child-captured content manifest; " ++
              "explicit operator confirmation is required"))
          else if expected = [] ∨ "" ∈ expected then fail scopeError
          else do
            let paths ← currentPaths
            if paths = sortedPaths expected.dedup then do
              let exactMatches ← exactSnapshotMatches setting status expected
              let stagedMatches ← stagedContentMatches setting status expected
              if !exactMatches && !stagedMatches then fail scopeError else pure ()
            else fail scopeError
  | _ => fail (.runtimeError "Cannot prove recovery working-tree scope")

end

end GrowthOs.Handoff
