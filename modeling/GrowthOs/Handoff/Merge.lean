import GrowthOs.Handoff.MergePolicy

/-!
# The merge of a reviewed pull request

`merge_reviewed_pr` with the queries that it makes.
-/

namespace GrowthOs.Handoff

open Library

/-- `MergeOutcome`. -/
structure MergeOutcome where
  merged : Bool
  reasons : List String
  sha : Option String
  deriving DecidableEq, Repr

/-- An outcome that leaves the pull request open. -/
def MergeOutcome.blocked (reasons : List String) : MergeOutcome := ⟨false, reasons, none⟩

/-- `_pr_metadata`. -/
def prMetadata (url : String) : Controller PrMetadata := do
  match ← call (.ghPrView url) with
  | some metadata => pure metadata
  | none => fail (.runtimeError "GitHub returned invalid PR metadata")

/-- `_has_unresolved_review_threads`. -/
def hasUnresolvedReviewThreads (number : Int) : Controller Bool := do
  match ← call (.ghReviewThreads number) with
  | some threads => pure (threads.hasNextPage || threads.nodes.any (· ≠ some true))
  | none => fail (.runtimeError "GitHub returned invalid review-thread metadata")

/-- The unresolved threads of a pull request with a valid number. -/
def unresolvedThreads (number : Option Int) (reason : String) : Controller (List String) :=
  match number with
  | none => pure []
  | some number => do
      let unresolved ← hasUnresolvedReviewThreads number
      pure (if unresolved then [reason] else [])

section

variable (setting : Setting)

/-- The checks of `_current_issue_for_merge`: the body of the issue, or the text of a
`ValueError`. -/
def currentIssueContract (number : Int) (payload : Option IssuePayload) : Except String String :=
  match payload with
  | none => .error "current issue metadata is invalid"
  | some payload =>
      if payload.number ≠ some number then .error "current issue metadata is invalid"
      else if payload.login.map setting.lower ≠ some (setting.lower setting.owner) then
        .error "current issue author is not authorized"
      else if payload.state ≠ some "OPEN" then .error "current issue is no longer open"
      else match payload.title, payload.body with
        | some _, some body => .ok body
        | _, _ => .error "current issue contract is invalid"

/-- `_current_issue_for_merge`, with the `except ValueError` of `merge_reviewed_pr`. -/
def currentIssueForMerge (number : Int) : Controller (Except String String) :=
  (do
    let payload ← call (.ghIssueView number)
    pure (currentIssueContract setting number payload)).handle fun
    -- A `JSONDecodeError` of `gh issue view` is a `ValueError` as well.
    | .jsonDecodeError text | .valueError text => pure (.error text)
    | e => fail e

/-- `_merge_status`. -/
def mergeStatus (url : String) : Controller MergeStatus := do
  match ← call (.ghMergeStatus url) with
  | some status => pure status
  | none => fail (.runtimeError "GitHub returned invalid merge status")

/-- The outcome that a merge status confirms. -/
def confirmedOutcome (status : MergeStatus) : Option MergeOutcome :=
  match status.state, status.mergeSha with
  | some "MERGED", some sha => some ⟨true, [], some sha⟩
  | _, _ => none

/-- The handler of a `CalledProcessError` of `gh pr merge`. -/
def rejectedMerge (url : String) (error : Raised) : Controller MergeOutcome := do
  let status ← (mergeStatus url).handle fun
    | .jsonDecodeError _ | .calledProcessError _ => fail error
    | e => fail e
  if status.state = some "OPEN" then
    pure (.blocked ["exact-head merge was rejected while the reviewed PR remains open"])
  else match confirmedOutcome status with
    | some outcome => pure outcome
    | none => fail error

/-- The `gh pr merge` of `merge_reviewed_pr` and what follows it. -/
def exactHeadMerge (url reviewedHead : String) : Controller MergeOutcome :=
  ((call (.ghPrMerge url reviewedHead)).andThen fun
    | .ok () => do
        let status ← mergeStatus url
        match confirmedOutcome status with
        | some outcome => pure outcome
        | none =>
            fail (.runtimeError "GitHub did not confirm the merged PR and merge commit SHA")
    | .error (.calledProcessError text) => rejectedMerge url (.calledProcessError text)
    | .error e => fail e)

/-- The second validation of `merge_reviewed_pr`, after the pull request has been marked ready. -/
def finalMergeReasons (number : Int) (branch url reviewedHead : String)
    (changedPaths : List String) : Controller (List String) := do
  match ← currentIssueForMerge setting number with
  | .error text => pure [text]
  | .ok body => do
      let metadata ← prMetadata url
      let threads ← unresolvedThreads metadata.number
        "PR has unresolved review threads at final validation"
      pure (autoMergePolicyReasons setting body changedPaths ++
        validatePrForMerge metadata branch reviewedHead ++
        (if metadata.isDraft ≠ some false then ["PR is still a draft at final validation"] else
          []) ++
        threads)

/-- The first validation of `merge_reviewed_pr`: its reasons, and whether the pull request is a
draft. -/
def firstMergeReasons (number : Int) (branch url reviewedHead : String)
    (changedPaths : List String) : Controller (List String × Bool) := do
  match ← currentIssueForMerge setting number with
  | .error text => pure ([text], false)
  | .ok body =>
      let reasons := autoMergePolicyReasons setting body changedPaths
      if reasons ≠ [] then pure (reasons, false)
      else do
        let metadata ← prMetadata url
        let threads ← unresolvedThreads metadata.number "PR has unresolved review threads"
        pure (validatePrForMerge metadata branch reviewedHead ++ threads,
          metadata.isDraft == some true)

/-- `merge_reviewed_pr`. -/
def mergeReviewedPr (number : Int) (branch url reviewedHead : String) (context : StatusContext) :
    Controller MergeOutcome := do
  let names ← call .gitDiffNames
  let changedPaths := names.filter (· ≠ "")
  let (reasons, isDraft) ← firstMergeReasons setting number branch url reviewedHead changedPaths
  if reasons ≠ [] then pure (.blocked reasons)
  else do
    (if isDraft then call (.ghPrReady url) else pure ())
    let reasons ← finalMergeReasons setting number branch url reviewedHead changedPaths
    if reasons ≠ [] then pure (.blocked reasons)
    else do
      writeStatus .merging (.of context { prUrl := some url })
      exactHeadMerge url reviewedHead

end

end GrowthOs.Handoff
