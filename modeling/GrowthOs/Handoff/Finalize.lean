import GrowthOs.Handoff.Merge

/-!
# Finalization

`commit_with_recovery_checkpoint`, `run_review_fix_loop` and `finalize_changes`: from preserved
changes to a reviewed pull request, with a checkpoint in the status file around every step.
-/

namespace GrowthOs.Handoff

open Library

/-- `MAX_FIX_ROUNDS`. -/
def maxFixRounds : Nat := 2

/-- The subject of the first commit of a task. -/
def resolveSubject (number : Int) : String := "codex: resolve issue #" ++ toString number

/-- The subject of the commit of a fix round. -/
def fixSubject (round : Nat) (number : Int) : String :=
  "codex: address review round " ++ toString round ++ " for #" ++ toString number

/-- `mark_pr_review_passed`. -/
def markPrReviewPassed (url : String) : Controller Unit := call (.ghPrAddLabel url reviewedLabel)

section

variable (setting : Setting)

/-- `commit_with_recovery_checkpoint`. -/
def commitWithRecoveryCheckpoint (context : StatusContext) (subject : String) :
    Controller String := do
  let base ← call .gitHead
  if base = "" then fail (.runtimeError "Could not record the pre-commit recovery checkpoint")
  else do
    let paths ← currentPaths
    if paths = [] then
      fail (.runtimeError "Cannot record an empty pre-staging recovery checkpoint")
    else do
      let content ← recoveryContentSnapshot setting paths
      writeStatus .committing (.of context
        { preCommitSha := some base
          pendingCommitSubject := some subject
          finalizationCheckpoint := some .staging
          recoverablePaths := some paths
          recoverableContentSnapshot := some content
          recoverableBaseSha := some base })
      call .gitAddAll
      let tree ← call .gitWriteTree
      if tree = "" then
        fail (.runtimeError "Could not record the staged tree recovery checkpoint")
      else do
        writeStatus .committing (.of context
          { finalizationCheckpoint := some .staged, pendingTreeSha := some tree })
        call (.gitCommit subject)
        let commit ← call .gitHead
        if commit = "" then
          fail (.runtimeError "Could not record the commit recovery checkpoint")
        else do
          writeStatus .committed (.of context
            { finalizationCheckpoint := some .committed, commitSha := some commit })
          pure commit

/-- `commit_review_fix`. -/
def commitReviewFix (context : StatusContext) (round : Nat) : Controller Unit := do
  let commit ← commitWithRecoveryCheckpoint setting context (fixSubject round context.issue)
  call .gitPush
  writeStatus .pushed (.of context
    { finalizationCheckpoint := some .pushed, commitSha := some commit })

/-- The loop of `run_review_fix_loop` over its review rounds. -/
def reviewRounds (context : StatusContext) : List Nat → Controller Unit
  | [] => fail (.otherException "unreachable review loop state")
  | round :: rest => do
      match ← runReviewer setting context with
      | .pass => pure ()
      | .changesRequested =>
          if maxFixRounds < round then
            fail (.runtimeError "Reviewer still found defects after two fix rounds")
          else do
            runFixer setting context
            runVerification context (round + 1)
            commitReviewFix setting context round
            reviewRounds context rest

/-- `run_review_fix_loop`. -/
def runReviewFixLoop (context : StatusContext) : Controller Unit :=
  reviewRounds setting context ((List.range (maxFixRounds + 1)).map (· + 1))

/-- `find_draft_pr`. -/
def findDraftPr (branch : String) : Controller (Option String) := do
  match ← call (.ghPrList branch) with
  | some [] => pure none
  | some [item] =>
      match item.isDraft, item.url with
      | some true, some url => pure (some url)
      | _, _ => fail (.runtimeError "Existing recovery PR is not a proven draft PR")
  | _ => fail (.runtimeError "Cannot uniquely identify the recovery draft PR")

/-- `remote_branch_head`. A line of the output is the list of its fields. -/
def remoteBranchHead (branch : String) : Controller (Option String) := do
  match ← call (.gitLsRemote branch) with
  | [] => pure none
  | [[sha, ref]] =>
      if ref = "refs/heads/" ++ branch then pure (some sha)
      else fail (.runtimeError "Cannot uniquely prove the remote recovery branch head")
  | _ => fail (.runtimeError "Cannot uniquely prove the remote recovery branch head")

/-- The fields that `validate_committed_recovery_checkpoint` expects of the pull request. -/
def PrMetadata.isRecordedDraft (metadata : PrMetadata) (url branch commit : String) : Bool :=
  metadata.url == some url && metadata.state == some "OPEN" && metadata.isDraft == some true &&
    metadata.baseRefName == some "main" && metadata.headRefName == some branch &&
    metadata.headRefOid == some commit

/-- The part of `validate_committed_recovery_checkpoint` about the remote branch. -/
def validatePushedCheckpoint (branch commit : String) : Controller Unit := do
  let remote ← remoteBranchHead branch
  if remote ≠ some commit then
    fail (.runtimeError "Recovery push checkpoint does not match the remote branch head")
  else pure ()

/-- The part of `validate_committed_recovery_checkpoint` about the pull request. -/
def validatePrCheckpoint (prUrl : Option String) (branch commit : String) : Controller Unit :=
  match prUrl with
  | none => fail (.runtimeError "Recovery draft PR checkpoint is missing")
  | some url =>
      if url = "" then fail (.runtimeError "Recovery draft PR checkpoint is missing")
      else do
        let metadata ← prMetadata url
        if metadata.isRecordedDraft url branch commit then pure ()
        else
          fail (.runtimeError "Recovery draft PR checkpoint does not match its recorded revision")

/-- `validate_committed_recovery_checkpoint`. -/
def validateCommittedRecoveryCheckpoint (commitSha prUrl : Option String) (branch : String)
    (completed : Nat) : Controller Unit :=
  match commitSha with
  | none => fail (.runtimeError "Recovery commit checkpoint is missing")
  | some commit =>
      if commit = "" then fail (.runtimeError "Recovery commit checkpoint is missing")
      else do
        let head ← call .gitHead
        if head ≠ commit then
          fail (.runtimeError "Recovery commit checkpoint does not match the current HEAD")
        else do
          (if 2 ≤ completed then validatePushedCheckpoint branch commit else pure ())
          (if 3 ≤ completed then validatePrCheckpoint prUrl branch commit else pure ())

/-! ## finalize_changes -/

/-- The status that `finalize_changes` resumes from: `{}` unless it is recovering. -/
def recoveredStatus (recovering : Bool) : Controller (Option Status) :=
  if recovering then do
    match ← call .readStatus with
    | .record status => pure (some status)
    | .missing => pure none
    | .unreadable => fail (.jsonDecodeError "Expecting value: line 1 column 1 (char 0)")
  else pure none

/-- The checks of a recovery before it runs verification. -/
def validateRecovery (commitSha prUrl : Option String) (branch : String) (completed : Nat) :
    Controller Unit :=
  if completed = 0 then validateRecoveryScope setting
  else do
    let paths ← currentPaths
    if paths ≠ [] then
      fail (.runtimeError "Cannot resume finalization with uncommitted working-tree changes")
    else validateCommittedRecoveryCheckpoint commitSha prUrl branch completed

/-- The checks of a recovery after verification. -/
def revalidateRecovery (completed : Nat) : Controller Unit :=
  if completed = 0 then validateRecoveryScope setting
  else do
    let paths ← currentPaths
    if paths ≠ [] then
      fail (.runtimeError "Recovery verification dirtied a committed checkpoint")
    else pure ()

/-- The commit of `finalize_changes`, or the one that its checkpoint records. -/
def ensureCommit (context : StatusContext) (commitSha : Option String) (completed : Nat) :
    Controller String :=
  if completed = 0 then
    commitWithRecoveryCheckpoint setting context (resolveSubject context.issue)
  else
    match commitSha with
    | some commit => pure commit
    | none => fail (.runtimeError "Recovery commit checkpoint is invalid")

/-- The push of `finalize_changes`. -/
def ensurePush (context : StatusContext) (commit : String) (completed : Nat) : Controller Unit :=
  if completed < 2 then do
    writeStatus .pushing (.of context {})
    call (.gitPushUpstream context.branch)
    writeStatus .pushed (.of context
      { finalizationCheckpoint := some .pushed, commitSha := some commit })
  else pure ()

/-- `pr_body`. -/
def prBody (number : Int) : String :=
  "Automated local Codex handoff for #" ++ toString number ++ ".\n\nCloses #" ++ toString number ++
    ".\n\nThis PR was created by the self-hosted controller. It is intentionally a draft. " ++
    "It must pass independent review and the bounded merge policy before merge. " ++
    "No production deployment is authorized."

/-- The draft pull request of `finalize_changes`, created unless a recovery finds it. -/
def ensureDraftPr (title : String) (context : StatusContext) (recordedPr : Option String)
    (completed : Nat) (recovering : Bool) : Controller String := do
  let found ← (if recovering then findDraftPr context.branch else pure none)
  if 3 ≤ completed ∧ (recordedPr = none ∨ found ≠ recordedPr) then
    fail (.runtimeError "Recovery draft PR checkpoint cannot be proven")
  else
    match found with
    | some url => pure url
    | none => do
        let url ← call (.ghPrCreate context.branch title (prBody context.issue))
        if url = "" then fail (.runtimeError "GitHub did not return the created draft PR URL")
        else pure url

/-- The outcome of the merge step of `finalize_changes`, which a recovery skips. -/
def mergeOutcome (context : StatusContext) (url reviewedHead : String) (allowMerge : Bool) :
    Controller MergeOutcome :=
  if allowMerge then
    mergeReviewedPr setting context.issue context.branch url reviewedHead context
  else pure (.blocked ["Recovery never auto-merges preserved work"])

/-- The end of `finalize_changes` after a merge. -/
def recordMerged (context : StatusContext) (url : String) (sha : Option String) :
    Controller Unit := do
  writeStatus .merged (.of context { prUrl := some url })
  commentOnce context.issue "auto-merge-completed" ("Bounded auto-merge completed at `" ++
    sha.getD "None" ++ "`: " ++ url)
  addLabel context.issue "codex-merged"

/-- The end of `finalize_changes` without a merge. -/
def recordBlocked (context : StatusContext) (url : String) (reasons : List String) :
    Controller Unit := do
  writeStatus .mergeBlocked (.of context { prUrl := some url })
  commentOnce context.issue "auto-merge-stopped"
    ("Auto-merge stopped safely; reviewed PR remains open: " ++ "; ".intercalate reasons)
  addLabel context.issue "codex-merge-blocked"

/-- The end of `finalize_changes`. -/
def recordOutcome (context : StatusContext) (url : String) (outcome : MergeOutcome) :
    Controller Unit := do
  (if outcome.merged then recordMerged context url outcome.sha
    else recordBlocked context url outcome.reasons)
  replaceLabel context.issue "codex-pr-open" "codex-running"

/-- `finalize_changes` after a passed review. -/
def recordReviewPassed (context : StatusContext) (url : String) : Controller Unit := do
  markPrReviewPassed url
  writeStatus .reviewPassed (.of context { prUrl := some url })
  commentOnce context.issue "independent-review-passed"
    ("Independent review passed with zero findings: " ++ url)
  addLabel context.issue reviewedLabel

/-- `finalize_changes` from the independent review on. -/
def reviewAndMerge (context : StatusContext) (url : String) (allowMerge : Bool) :
    Controller Unit := do
  runReviewFixLoop setting context
  recordReviewPassed context url
  let reviewedHead ← call .gitHead
  if reviewedHead = "" then
    fail (.runtimeError "Could not resolve the exact reviewed HEAD commit")
  else do
    let outcome ← mergeOutcome setting context url reviewedHead allowMerge
    recordOutcome context url outcome

/-- `finalize_changes` from the commit on. -/
def publishChanges (title : String) (context : StatusContext) (status : Option Status)
    (allowMerge recovering : Bool) : Controller Unit := do
  let completed := completedOf (status.bind (·.finalizationCheckpoint))
  let commit ← ensureCommit setting context (status.bind (·.commitSha)) completed
  ensurePush context commit completed
  let url ← ensureDraftPr title context (status.bind (·.prUrl)) (max completed 2) recovering
  writeStatus .prCreated (.of context
    { prUrl := some url, finalizationCheckpoint := some .prCreated, commitSha := some commit })
  commentOnce context.issue "draft-pr-opened"
    ("Codex opened a draft PR for independent review: " ++ url)
  reviewAndMerge setting context url allowMerge

/-- `finalize_changes`. -/
def finalizeChanges (title : String) (context : StatusContext) (allowMerge recovering : Bool) :
    Controller Unit := do
  let status ← recoveredStatus recovering
  let completed := completedOf (status.bind (·.finalizationCheckpoint))
  (if recovering then
    validateRecovery setting (status.bind (·.commitSha)) (status.bind (·.prUrl)) context.branch
      completed
  else pure ())
  runVerification context 1
  (if recovering then revalidateRecovery setting completed else pure ())
  publishChanges setting title context status allowMerge recovering

end

end GrowthOs.Handoff
