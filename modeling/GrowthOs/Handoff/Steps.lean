import GrowthOs.Handoff.Watch

/-!
# The steps of the controller

What the functions of the controller are put together from, whatever the answers are: the kinds of
the commands that they issue, and the calls of `write_status` that they make. A result about the
controller follows from what a step of each kind keeps.
-/

namespace GrowthOs.Handoff

open Library

/-- A state that the ordinary steps of a task write. -/
def HandoffState.quiet : HandoffState → Bool
  | .merging | .merged | .idle | .stopped | .other _ => false
  | _ => true

/-- What a command is for. -/
inductive CommandKind where
  | control
  | read
  | child
  | verify
  | stage
  | push
  | branch
  | note
  | requeue
  | openPr
  | editPr
  | mergePr
  | select
  deriving DecidableEq, Repr

/-- The kind of a command. A status write is a step of its own. -/
def Command.kind : Command → Option CommandKind
  | .writeStatus _ => none
  | .ensureTools | .ensureLabels | .acquireLock | .releaseLock | .sleep => some .control
  | .nowIso | .readStatus | .gitHead | .gitHeadParent | .gitHeadSubject | .gitHeadTree
  | .gitCurrentBranch | .gitStatus | .gitLsFilesStage _ | .lstat _ | .gitWriteTree
  | .gitBranchList _ | .gitLsRemote _ | .gitDiffNames | .ghIssueView _ | .ghIssueComments _
  | .ghPrList _ | .ghPrView _ | .ghMergeStatus _ | .ghReviewThreads _ | .processGroupIdentity _
  | .pidIsRunning _ | .processGroupIsRunning _ | .heartbeatAge _ | .loadReviewResult => some .read
  | .spawn _ | .releaseGate _ | .superviseChild _ | .terminateProcessGroup _
  | .terminateOrphanProcessGroup _ => some .child
  | .runVerificationCommand _ => some .verify
  | .gitAddAll | .gitCommit _ => some .stage
  | .gitPush | .gitPushUpstream _ => some .push
  | .gitFetchMain | .gitCheckoutMain | .gitPullMain | .gitBranchDelete _ | .gitCheckoutNew _ =>
      some .branch
  | .ghIssueComment _ _ | .ghRemoveLabel _ _ => some .note
  | .ghAddLabel _ label => some (if label = "codex-ready" then .requeue else .note)
  | .ghPrCreate _ _ _ => some .openPr
  | .ghPrReady _ | .ghPrAddLabel _ _ => some .editPr
  | .ghPrMerge _ _ => some .mergePr
  | .ghReadyIssues => some .select

/-- A family of scripts that allows every command of a kind as a part. -/
def Allows (P : (γ : Type) → Controller γ → Prop) (kind : CommandKind) : Prop :=
  ∀ command : Command, command.kind = some kind → P (Answer command) (call command)

variable {P : (γ : Type) → Controller γ → Prop} {α β : Type}

/-- The family allows the status writes of a task that record no child. -/
def AllowsWrites (P : (γ : Type) → Controller γ → Prop) (context : StatusContext) : Prop :=
  ∀ (state : HandoffState) (update : StatusUpdate), state.quiet = true → update.codexPid = none →
    P Unit (writeStatus state (.of context update))

/-- The states of a record that names a child in a run of it. -/
def HandoffState.supervises : HandoffState → Bool
  | .implementing | .fixing | .reviewing => true
  | _ => false

/-- The runs of a child are put together from the family. -/
def AllowsChildren (P : (γ : Type) → Controller γ → Prop) (setting : Setting)
    (context : StatusContext) : Prop :=
  ∀ state : HandoffState, state.supervises = true →
    Composed P (runCodexStream setting context state)

/-- An event of `comment_once`: `[a-z0-9-]+`. -/
def auditEvent (event : String) : Bool :=
  !event.isEmpty && event.toList.all fun c => isLowerAlnum c || c == '-'

/-- The text does not end as the marker of an event does. -/
def PlainComment (text : String) : Prop := text.toList.getLast? ≠ some '>'

/-- The family allows the labels and the comments of the controller. -/
structure AllowsNotes (P : (γ : Type) → Controller γ → Prop) : Prop where
  addLabel : ∀ (number : Int) (name : String), name ≠ "codex-ready" →
    P Unit (call (.ghAddLabel number name))
  removeLabel : ∀ (number : Int) (name : String), P Unit (call (.ghRemoveLabel number name))
  commentOnce : ∀ (number : Int) (event text : String), auditEvent event = true →
    Composed P (commentOnce number event text)
  comment : ∀ (number : Int) (text : String), PlainComment text →
    P Unit (call (.ghIssueComment number text))

/-- A command of an allowed kind is a step. -/
theorem steps_call {command : Command} {kind : CommandKind} (hkind : command.kind = some kind)
    (h : Allows P kind) : Composed P (call command) := .part (h command hkind)

/-- So is a `write_status` that is allowed. -/
theorem steps_write {state : HandoffState} {update : StatusUpdate}
    (h : P Unit (writeStatus state update)) : Composed P (writeStatus state update) := .part h

/-- An exception of the controller takes no step. -/
theorem steps_fail (e : Raised) : Composed P (fail e : Controller α) := composed_raise e

/-- A loop takes the steps of its body. -/
theorem steps_for_each {f : α → Controller β} {list : List α} (h : ∀ a, Composed P (f a)) :
    Composed P (forEach f list) := by
  induction list with
  | nil => exact composed_pure _
  | cons a rest ih =>
      exact composed_bind (h a) fun b => composed_bind ih fun bs => composed_pure _

variable (setting : Setting) {context : StatusContext}

section

variable (hread : Allows P .read)
include hread

/-- An entry of the recovery snapshot is put together from reads. -/
theorem steps_snapshot_file (path : String) : Composed P (snapshotFile path) := by
  unfold snapshotFile
  refine composed_ite (steps_fail _) (composed_bind (steps_call rfl hread) fun index => ?_)
  exact composed_bind (steps_call rfl hread) fun file => composed_pure _

/-- So is an entry of the content snapshot. -/
theorem steps_content_file (path : String) : Composed P (contentFile path) := by
  unfold contentFile
  exact composed_ite (steps_fail _)
    (composed_bind (steps_call rfl hread) fun file => composed_pure _)

/-- `recovery_snapshot` reads the revision, the status of Git and every path. -/
theorem steps_recovery_snapshot (paths : List String) :
    Composed P (recoverySnapshot setting paths) := by
  unfold recoverySnapshot
  refine composed_bind (steps_call rfl hread) fun head => composed_ite (steps_fail _) ?_
  refine composed_bind (steps_call rfl hread) fun status => ?_
  exact composed_bind (steps_for_each (steps_snapshot_file hread)) fun files => composed_pure _

/-- `recovery_content_snapshot` reads every path. -/
theorem steps_recovery_content_snapshot (paths : List String) :
    Composed P (recoveryContentSnapshot setting paths) :=
  composed_bind (steps_for_each (steps_content_file hread)) fun _ => composed_pure _

/-- The paths of the working tree are one read. -/
theorem steps_current_paths : Composed P currentPaths :=
  composed_bind (steps_call rfl hread) fun _ => composed_pure _

/-- `captured_recovery_scope` reads the paths and takes their snapshot. -/
theorem steps_captured_recovery_scope : Composed P (capturedRecoveryScope setting) := by
  unfold capturedRecoveryScope
  refine composed_bind (steps_current_paths hread) fun paths => composed_ite (composed_pure _) ?_
  exact composed_bind (steps_recovery_snapshot setting hread paths) fun snapshot => composed_pure _

/-- The comparison with the recorded digest only reads. -/
theorem steps_exact_snapshot_matches (status : Status) (expected : List String) :
    Composed P (exactSnapshotMatches setting status expected) := by
  unfold exactSnapshotMatches
  cases status.recoverableSnapshot with
  | none => exact composed_pure _
  | some recorded =>
      exact composed_bind (steps_recovery_snapshot setting hread expected) fun _ => composed_pure _

/-- So does the comparison of the staged content. -/
theorem steps_staged_content_matches (status : Status) (expected : List String) :
    Composed P (stagedContentMatches setting status expected) := by
  unfold stagedContentMatches
  refine composed_ite ?_ (composed_pure _)
  cases status.recoverableContentSnapshot with
  | none => exact composed_pure _
  | some recorded =>
      cases status.recoverableBaseSha with
      | none => exact composed_pure _
      | some base =>
          refine composed_bind (steps_call rfl hread) fun head => composed_ite ?_ (composed_pure _)
          exact composed_bind (steps_recovery_content_snapshot setting hread expected) fun _ =>
            composed_pure _

/-- `validate_recovery_scope` only reads. -/
theorem steps_validate_recovery_scope : Composed P (validateRecoveryScope setting) := by
  unfold validateRecoveryScope
  refine composed_bind (steps_call rfl hread) fun file => ?_
  cases file with
  | missing | unreadable => exact steps_fail _
  | record status =>
      dsimp only
      cases status.recoverablePaths with
      | none => exact steps_fail _
      | some expected =>
          refine composed_ite (steps_fail _) (composed_ite (steps_fail _) ?_)
          refine composed_bind (steps_current_paths hread) fun paths =>
            composed_ite ?_ (steps_fail _)
          refine composed_bind (steps_exact_snapshot_matches setting hread status expected)
            fun _ => ?_
          refine composed_bind (steps_staged_content_matches setting hread status expected)
            fun _ => ?_
          exact composed_ite (steps_fail _) (composed_pure _)

end

section

variable (hread : Allows P .read)
include hread

omit hread in
/-- A status under which a child runs is quiet. -/
theorem quiet_of_supervises {state : HandoffState} (h : state.supervises = true) :
    state.quiet = true := by
  cases state with
  | implementing | fixing | reviewing => rfl
  | _ => cases h

section

variable (hchild : Allows P .child)
  (hwrite : ∀ (state : HandoffState) (update : StatusUpdate), state.quiet = true →
    P Unit (writeStatus state (.of context update)))
include hchild hwrite

/-- The capture of a child reads, and writes the status of the task. -/
theorem steps_capture_child {state : HandoffState} (h : state.quiet = true) (pid : Int) :
    Composed P (captureChild setting context state pid) :=
  composed_bind (steps_call rfl hchild) fun _ =>
    composed_bind (steps_captured_recovery_scope setting hread) fun _ =>
      steps_write (hwrite _ _ h)

/-- A supervised child is spawned, watched and captured under a quiet status. -/
theorem steps_supervise_codex {state : HandoffState} (h : state.quiet = true) (base : String)
    (pid : Int) : Composed P (superviseCodex setting context state base pid) := by
  unfold superviseCodex
  refine composed_bind (steps_call rfl hread) fun heartbeat => ?_
  refine composed_bind (steps_call rfl hread) fun identity => composed_ite (steps_fail _) ?_
  refine composed_bind (steps_captured_recovery_scope setting hread) fun scope => ?_
  refine composed_bind (steps_write (hwrite _ _ h)) fun _ => ?_
  refine composed_bind (steps_call rfl hchild) fun _ => ?_
  refine composed_bind (steps_call rfl hchild) fun child => ?_
  refine composed_bind (steps_for_each fun heartbeat => steps_write (hwrite _ _ h)) fun _ => ?_
  exact composed_bind (steps_capture_child setting hread hchild hwrite h pid) fun _ =>
    composed_pure _

/-- The part of `run_codex_stream` from the start of the child on. -/
theorem steps_supervised {state : HandoffState} (h : state.quiet = true)
    (base : String) (pid : Int) :
    Composed P ((superviseCodex setting context state base pid).handle fun e => do
      captureChild setting context state pid
      fail e) :=
  composed_handle (steps_supervise_codex setting hread hchild hwrite h base pid) fun _ =>
    composed_bind (steps_capture_child setting hread hchild hwrite h pid) fun _ => steps_fail _

/-- The writes of a child's run include those that record it. -/
theorem steps_run_codex_stream : AllowsChildren P setting context := by
  intro state hstate
  have h : state.quiet = true := quiet_of_supervises hstate
  unfold runCodexStream
  refine composed_bind (steps_call rfl hread) fun base => composed_ite (steps_fail _) ?_
  refine composed_bind (steps_write (hwrite _ _ rfl)) fun _ => ?_
  exact composed_bind (steps_call rfl hchild) fun pid =>
    steps_supervised setting hread hchild hwrite h base pid

end

/-- `run_reviewer` supervises one child. -/
theorem steps_run_reviewer (hchildren : AllowsChildren P setting context) :
    Composed P (runReviewer setting context) := by
  unfold runReviewer
  refine composed_bind (hchildren _ rfl) fun output => ?_
  exact composed_ite (steps_fail _) (steps_call rfl hread)

/-- `run_fixer` runs its child, and then only reads the scope and preserves it. -/
theorem run_fixer_eq (hwrite : AllowsWrites P context) : ∃ k : Int × String → Controller Unit,
    runFixer setting context = (runCodexStream setting context .fixing >>= k) ∧
      ∀ output, Composed P (k output) := by
  refine ⟨_, rfl, fun output => composed_ite ?_ ?_⟩
  · refine composed_bind (steps_captured_recovery_scope setting hread) fun scope => ?_
    exact composed_ite (steps_fail _)
      (composed_bind (steps_write (hwrite _ _ rfl rfl)) fun _ => steps_fail _)
  · exact composed_bind (steps_call rfl hread) fun entries =>
      composed_ite (steps_fail _) (composed_pure _)

/-- `run_fixer` supervises one child after its write. -/
theorem steps_run_fixer (hwrite : AllowsWrites P context)
    (hchildren : AllowsChildren P setting context) : Composed P (runFixer setting context) := by
  obtain ⟨k, heq, hk⟩ := run_fixer_eq setting hread hwrite
  rw [heq]
  exact composed_bind (hchildren _ rfl) hk

end

/-- `run_verification` writes its status and runs the verification commands. -/
theorem steps_run_verification (hverify : Allows P .verify)
    (hwrite : AllowsWrites P context)
    (passNumber : Nat) : Composed P (runVerification context passNumber) := by
  unfold runVerification
  refine composed_bind (steps_write (hwrite _ _ rfl rfl)) fun _ =>
    composed_bind (steps_for_each fun name => ?_) fun _ => composed_pure _
  exact composed_bind (steps_call rfl hverify) fun returnCode =>
    composed_ite (steps_fail _) (composed_pure _)

/-- `comment_once` reads the comments and may add one. -/
theorem steps_comment_once (hnote : Allows P .note) (hread : Allows P .read) (number : Int)
    (event text : String) : Composed P (commentOnce number event text) := by
  unfold commentOnce
  refine composed_bind (steps_call rfl hread) fun comments => ?_
  cases comments with
  | none => exact steps_fail _
  | some bodies => exact composed_ite (composed_pure _) (steps_call rfl hnote)

/-- A family that allows every label and every comment. -/
theorem allows_notes (hnote : Allows P .note) (hread : Allows P .read) : AllowsNotes P where
  addLabel number name h := hnote (.ghAddLabel number name) (congrArg some (if_neg h))
  removeLabel number name := hnote (.ghRemoveLabel number name) rfl
  commentOnce number event text _ := steps_comment_once hnote hread number event text
  comment number text _ := hnote (.ghIssueComment number text) rfl

/-- A comment that ends in plain text. -/
theorem plain_comment (text : String) {final : String}
    (h : final.toList ≠ [] ∧ final.toList.getLast? ≠ some '>') : PlainComment (text ++ final) := by
  unfold PlainComment
  rw [String.toList_append, List.getLast?_append_of_ne_nil _ h.1]
  exact h.2

/-- `replace_label` takes notes, and never marks an issue as ready. -/
theorem steps_replace_label (hnote : Allows P .note) (number : Int) {add : String} (remove : String)
    (h : add ≠ "codex-ready") : Composed P (replaceLabel number add remove) :=
  composed_bind (steps_call (congrArg some (if_neg h)) hnote) fun _ => steps_call rfl hnote

/-- The same from the allowance for notes. -/
theorem AllowsNotes.replaceLabel (hnote : AllowsNotes P) (number : Int) {add : String}
    (remove : String) (h : add ≠ "codex-ready") : Composed P (replaceLabel number add remove) :=
  composed_bind (.part (hnote.addLabel number add h)) fun _ =>
    .part (hnote.removeLabel number remove)

section

variable (hread : Allows P .read)
include hread

/-- `find_draft_pr` reads the pull requests of the branch. -/
theorem steps_find_draft_pr (branch : String) : Composed P (findDraftPr branch) := by
  unfold findDraftPr
  refine composed_bind (steps_call rfl hread) fun items => ?_
  split
  · exact composed_pure _
  · split
    · exact composed_pure _
    · exact steps_fail _
  · exact steps_fail _

/-- `_pr_metadata` is a read. -/
theorem steps_pr_metadata (url : String) : Composed P (prMetadata url) := by
  unfold prMetadata
  refine composed_bind (steps_call rfl hread) fun metadata => ?_
  cases metadata with
  | none => exact steps_fail _
  | some metadata => exact composed_pure _

/-- The check of the pushed branch reads its head. -/
theorem steps_validate_pushed_checkpoint (branch commit : String) :
    Composed P (validatePushedCheckpoint branch commit) := by
  unfold validatePushedCheckpoint remoteBranchHead
  refine composed_bind (composed_bind (steps_call rfl hread) fun lines => ?_) fun remote =>
    composed_ite (steps_fail _) (composed_pure _)
  split
  · exact composed_pure _
  · exact composed_ite (composed_pure _) (steps_fail _)
  · exact steps_fail _

/-- The check of the pull request reads it. -/
theorem steps_validate_pr_checkpoint (prUrl : Option String) (branch commit : String) :
    Composed P (validatePrCheckpoint prUrl branch commit) := by
  unfold validatePrCheckpoint
  cases prUrl with
  | none => exact steps_fail _
  | some url =>
      refine composed_ite (steps_fail _) ?_
      refine composed_bind (steps_pr_metadata hread url) fun metadata => ?_
      exact composed_ite (composed_pure _) (steps_fail _)

/-- `validate_committed_recovery_checkpoint` only reads. -/
theorem steps_validate_committed_recovery_checkpoint (commitSha prUrl : Option String)
    (branch : String) (completed : Nat) :
    Composed P (validateCommittedRecoveryCheckpoint commitSha prUrl branch completed) := by
  unfold validateCommittedRecoveryCheckpoint
  cases commitSha with
  | none => exact steps_fail _
  | some commit =>
      refine composed_ite (steps_fail _) (composed_bind (steps_call rfl hread) fun head => ?_)
      refine composed_ite (steps_fail _) (composed_bind ?_ fun _ => ?_)
      · exact composed_ite (steps_validate_pushed_checkpoint hread branch commit) (composed_pure _)
      · exact composed_ite (steps_validate_pr_checkpoint hread prUrl branch commit)
          (composed_pure _)

/-- A recovery reads the status file again. -/
theorem steps_recovered_status (recovering : Bool) : Composed P (recoveredStatus recovering) := by
  unfold recoveredStatus
  refine composed_ite (composed_bind (steps_call rfl hread) fun file => ?_) (composed_pure _)
  cases file with
  | missing => exact composed_pure _
  | unreadable => exact steps_fail _
  | record status => exact composed_pure _

/-- The validation of a recovery only reads, for every completed stage. -/
theorem steps_validate_recovery (commitSha prUrl : Option String) (branch : String)
    (completed : Nat) : Composed P (validateRecovery setting commitSha prUrl branch completed) := by
  unfold validateRecovery
  refine composed_ite (steps_validate_recovery_scope setting hread) ?_
  refine composed_bind (steps_current_paths hread) fun paths => composed_ite (steps_fail _) ?_
  exact steps_validate_committed_recovery_checkpoint hread commitSha prUrl branch completed

/-- So does the second validation, in front of the commit. -/
theorem steps_revalidate_recovery (completed : Nat) :
    Composed P (revalidateRecovery setting completed) := by
  unfold revalidateRecovery
  refine composed_ite (steps_validate_recovery_scope setting hread) ?_
  exact composed_bind (steps_current_paths hread) fun paths =>
    composed_ite (steps_fail _) (composed_pure _)

/-- The review threads are read. -/
theorem steps_unresolved_threads (number : Option Int) (reason : String) :
    Composed P (unresolvedThreads number reason) := by
  unfold unresolvedThreads hasUnresolvedReviewThreads
  cases number with
  | none => exact composed_pure _
  | some number =>
      refine composed_bind (composed_bind (steps_call rfl hread) fun threads => ?_) fun _ =>
        composed_pure _
      cases threads with
      | none => exact steps_fail _
      | some threads => exact composed_pure _

/-- The authorisation of a merge. -/
theorem steps_current_issue (number : Int) :
    Composed P (currentIssueForMerge setting number) := by
  refine composed_handle (composed_bind (steps_call rfl hread) fun _ => composed_pure _) fun e => ?_
  cases e with
  | jsonDecodeError | valueError => exact composed_pure _
  | _ => exact steps_fail _

/-- The first evaluation of a merge only reads. -/
theorem steps_first_merge_reasons (number : Int) (branch url reviewedHead : String)
    (changedPaths : List String) :
    Composed P (firstMergeReasons setting number branch url reviewedHead changedPaths) := by
  unfold firstMergeReasons
  refine composed_bind (steps_current_issue setting hread number) fun contract => ?_
  cases contract with
  | error text => exact composed_pure _
  | ok body =>
      refine composed_ite (composed_pure _) ?_
      refine composed_bind (steps_pr_metadata hread url) fun metadata => ?_
      exact composed_bind (steps_unresolved_threads hread _ _) fun _ => composed_pure _

/-- So does the last one. -/
theorem steps_final_merge_reasons (number : Int) (branch url reviewedHead : String)
    (changedPaths : List String) :
    Composed P (finalMergeReasons setting number branch url reviewedHead changedPaths) := by
  unfold finalMergeReasons
  refine composed_bind (steps_current_issue setting hread number) fun contract => ?_
  cases contract with
  | error text => exact composed_pure _
  | ok body =>
      refine composed_bind (steps_pr_metadata hread url) fun metadata => ?_
      exact composed_bind (steps_unresolved_threads hread _ _) fun _ => composed_pure _

/-- `_merge_status` is a read. -/
theorem steps_merge_status (url : String) : Composed P (mergeStatus url) := by
  unfold mergeStatus
  refine composed_bind (steps_call rfl hread) fun status => ?_
  cases status with
  | none => exact steps_fail _
  | some status => exact composed_pure _

/-- The merge of the exact head is the merge command and reads after it. -/
theorem steps_exact_head_merge (hmerge : Allows P .mergePr) (url reviewedHead : String) :
    Composed P (exactHeadMerge url reviewedHead) := by
  unfold exactHeadMerge
  refine .andThen (steps_call rfl hmerge) fun result => ?_
  cases result with
  | ok _ =>
      refine composed_bind (steps_merge_status hread url) fun status => ?_
      split
      · exact composed_pure _
      · exact steps_fail _
  | error e =>
      cases e with
      | calledProcessError text =>
          refine composed_bind (composed_handle (steps_merge_status hread url) fun e => ?_)
            fun status => composed_ite (composed_pure _) ?_
          · cases e with
            | jsonDecodeError | calledProcessError => exact steps_fail _
            | keyboardInterrupt | runtimeError | valueError | recoverableChangesError
            | activeOrphanError | otherException => exact steps_fail _
          · split
            · exact composed_pure _
            · exact steps_fail _
      | keyboardInterrupt | jsonDecodeError | runtimeError | valueError | recoverableChangesError
      | activeOrphanError | otherException => exact steps_fail _

end

section

variable (hread : Allows P .read) (hwrite : AllowsWrites P context)
include hwrite

/-- A push follows the check of the pushed branch. -/
theorem steps_ensure_push (hpush : Allows P .push) (commit : String) (completed : Nat) :
    Composed P (ensurePush context commit completed) := by
  unfold ensurePush
  refine composed_ite (composed_bind (steps_write (hwrite _ _ rfl rfl)) fun _ => ?_)
    (composed_pure _)
  exact composed_bind (steps_call rfl hpush) fun _ => steps_write (hwrite _ _ rfl rfl)

include hread

/-- `commit_with_recovery_checkpoint` writes the checkpoint of the commit behind the staging. -/
theorem steps_commit_with_recovery_checkpoint (hstage : Allows P .stage) (subject : String) :
    Composed P (commitWithRecoveryCheckpoint setting context subject) := by
  unfold commitWithRecoveryCheckpoint
  refine composed_bind (steps_call rfl hread) fun base => composed_ite (steps_fail _) ?_
  refine composed_bind (steps_current_paths hread) fun paths => composed_ite (steps_fail _) ?_
  refine composed_bind (steps_recovery_content_snapshot setting hread paths) fun content => ?_
  refine composed_bind (steps_write (hwrite _ _ rfl rfl)) fun _ => ?_
  refine composed_bind (steps_call rfl hstage) fun _ => ?_
  refine composed_bind (steps_call rfl hread) fun tree => composed_ite (steps_fail _) ?_
  refine composed_bind (steps_write (hwrite _ _ rfl rfl)) fun _ => ?_
  refine composed_bind (steps_call rfl hstage) fun _ => ?_
  refine composed_bind (steps_call rfl hread) fun commit => composed_ite (steps_fail _) ?_
  exact composed_bind (steps_write (hwrite _ _ rfl rfl)) fun _ => composed_pure _

/-- A finalization stages and commits, or the checkpoint tells it the commit. -/
theorem steps_ensure_commit (hstage : Allows P .stage) (commitSha : Option String)
    (completed : Nat) :
    Composed P (ensureCommit setting context commitSha completed) := by
  unfold ensureCommit
  refine composed_ite
    (steps_commit_with_recovery_checkpoint setting hread hwrite hstage _) ?_
  cases commitSha with
  | none => exact steps_fail _
  | some commit => exact composed_pure _

/-- `commit_review_fix` commits and pushes the changes of a fix round. -/
theorem steps_commit_review_fix (hstage : Allows P .stage) (hpush : Allows P .push) (round : Nat) :
    Composed P (commitReviewFix setting context round) :=
  composed_bind (steps_commit_with_recovery_checkpoint setting hread hwrite hstage _) fun _ =>
    composed_bind (steps_call rfl hpush) fun _ => steps_write (hwrite _ _ rfl rfl)

/-- A round of the review loop reviews, fixes, verifies, commits and pushes. -/
theorem steps_review_rounds (hchildren : AllowsChildren P setting context)
    (hverify : Allows P .verify) (hstage : Allows P .stage) (hpush : Allows P .push)
    (rounds : List Nat) : Composed P (reviewRounds setting context rounds) := by
  induction rounds with
  | nil => exact steps_fail _
  | cons round rest ih =>
      refine composed_bind (steps_run_reviewer setting hread hchildren) fun verdict => ?_
      cases verdict with
      | pass => exact composed_pure _
      | changesRequested =>
          refine composed_ite (steps_fail _) ?_
          refine composed_bind (steps_run_fixer setting hread hwrite hchildren) fun _ => ?_
          refine composed_bind (steps_run_verification hverify hwrite _) fun _ => ?_
          exact composed_bind (steps_commit_review_fix setting hread hwrite hstage hpush round)
            fun _ => ih

omit hread in
/-- A blocked merge is noted on the issue and recorded. -/
theorem steps_record_blocked (hnote : AllowsNotes P) (url : String) (reasons : List String) :
    Composed P (recordBlocked context url reasons) :=
  composed_bind (steps_write (hwrite _ _ rfl rfl)) fun _ =>
    composed_bind (hnote.commentOnce _ _ _ (by decide)) fun _ =>
      .part (hnote.addLabel _ _ (by decide))

omit hread in
/-- A passed review is recorded, and the pull request is marked. -/
theorem steps_record_review_passed (hedit : Allows P .editPr) (hnote : AllowsNotes P)
    (url : String) :
    Composed P (recordReviewPassed context url) :=
  composed_bind (steps_call rfl hedit) fun _ =>
    composed_bind (steps_write (hwrite _ _ rfl rfl)) fun _ =>
    composed_bind (hnote.commentOnce _ _ _ (by decide)) fun _ =>
      .part (hnote.addLabel _ _ (by decide))

end

/-- The draft pull request is found or created. -/
theorem steps_ensure_draft_pr (hread : Allows P .read) (hopen : Allows P .openPr) (title : String)
    (recordedPr : Option String) (completed : Nat) (recovering : Bool) :
    Composed P (ensureDraftPr title context recordedPr completed recovering) := by
  unfold ensureDraftPr
  refine composed_bind (composed_ite (steps_find_draft_pr hread _) (composed_pure _)) fun found =>
    composed_ite (steps_fail _) ?_
  cases found with
  | some url => exact composed_pure _
  | none =>
      exact composed_bind (steps_call rfl hopen) fun url =>
        composed_ite (steps_fail _) (composed_pure _)

/-- The parts of a task after its pull request, with those of a merge where one is allowed. -/
structure ReviewSteps (P : (γ : Type) → Controller γ → Prop) (setting : Setting)
    (context : StatusContext) (allowMerge : Bool) : Prop where
  read : Allows P .read
  children : AllowsChildren P setting context
  verify : Allows P .verify
  stage : Allows P .stage
  push : Allows P .push
  editPr : Allows P .editPr
  note : AllowsNotes P
  write : AllowsWrites P context
  merge : allowMerge = true → Allows P .mergePr ∧
    ∀ (state : HandoffState) (update : StatusUpdate), update.codexPid = none →
      P Unit (writeStatus state (.of context update))

/-- The parts of a task. -/
structure TaskSteps (P : (γ : Type) → Controller γ → Prop) (setting : Setting)
    (context : StatusContext) (allowMerge : Bool) : Prop
    extends ReviewSteps P setting context allowMerge where
  openPr : Allows P .openPr

section

variable {allowMerge : Bool} (h : ReviewSteps P setting context allowMerge)
include h

/-- `merge_reviewed_pr` is taken apart only where a merge is allowed. -/
theorem steps_merge_reviewed_pr (hallowed : allowMerge = true) (number : Int)
    (branch url reviewedHead : String) :
    Composed P (mergeReviewedPr setting number branch url reviewedHead context) := by
  obtain ⟨hmerge, hwrite⟩ := h.merge hallowed
  unfold mergeReviewedPr
  refine composed_bind (steps_call rfl h.read) fun names => ?_
  refine composed_bind (steps_first_merge_reasons setting h.read _ _ _ _ _) fun first => ?_
  refine composed_ite (composed_pure _) ?_
  refine composed_bind (composed_ite (steps_call rfl h.editPr) (composed_pure _)) fun _ => ?_
  refine composed_bind (steps_final_merge_reasons setting h.read _ _ _ _ _) fun reasons => ?_
  refine composed_ite (composed_pure _) (composed_bind (steps_write (hwrite _ _ rfl)) fun _ => ?_)
  exact steps_exact_head_merge h.read hmerge url reviewedHead

/-- A merge is recorded only where it is allowed. -/
theorem steps_record_merged (hallowed : allowMerge = true) (url : String) (sha : Option String) :
    Composed P (recordMerged context url sha) :=
  composed_bind (steps_write ((h.merge hallowed).2 _ _ rfl)) fun _ =>
    composed_bind (h.note.commentOnce _ _ _ (by decide)) fun _ =>
      .part (h.note.addLabel _ _ (by decide))

/-- The outcome of a merge is recorded by its kind. -/
theorem steps_record_outcome (url : String) (outcome : MergeOutcome)
    (hmerged : outcome.merged = true → allowMerge = true) :
    Composed P (recordOutcome context url outcome) := by
  unfold recordOutcome
  refine composed_bind ?_ fun _ => h.note.replaceLabel _ _ (by decide)
  split
  · rename_i houtcome
    exact steps_record_merged setting h (hmerged houtcome) url _
  · exact steps_record_blocked h.write h.note url _

/-- The review, the evaluation of the merge and the record of its outcome. -/
theorem steps_review_and_merge (url : String) :
    Composed P (reviewAndMerge setting context url allowMerge) := by
  unfold reviewAndMerge mergeOutcome
  refine composed_bind
    (steps_review_rounds setting h.read h.write h.children h.verify h.stage h.push _)
    fun _ => ?_
  refine composed_bind (steps_record_review_passed h.write h.editPr h.note url) fun _ => ?_
  refine composed_bind (steps_call rfl h.read) fun head => composed_ite (steps_fail _) ?_
  cases hallowed : allowMerge with
  | true =>
      subst hallowed
      exact composed_bind (steps_merge_reviewed_pr setting h rfl _ _ _ _) fun outcome =>
        steps_record_outcome setting h url outcome fun _ => rfl
  | false =>
      subst hallowed
      show Composed P (recordOutcome context url (.blocked _))
      exact steps_record_outcome setting h url _ fun hmerged => hmerged

end

section

variable {allowMerge : Bool} (h : TaskSteps P setting context allowMerge)
include h

/-- The part of `finalize_changes` behind the verification. -/
theorem steps_publish_changes (title : String) (status : Option Status) (recovering : Bool) :
    Composed P (publishChanges setting title context status allowMerge recovering) := by
  unfold publishChanges
  refine composed_bind (steps_ensure_commit setting h.read h.write h.stage _ _) fun commit => ?_
  refine composed_bind (steps_ensure_push h.write h.push commit _) fun _ => ?_
  refine composed_bind (steps_ensure_draft_pr h.read h.openPr title _ _ _) fun url => ?_
  refine composed_bind (steps_write (h.write _ _ rfl rfl)) fun _ => ?_
  refine composed_bind (h.note.commentOnce _ _ _ (by decide)) fun _ => ?_
  exact steps_review_and_merge setting h.toReviewSteps url

/-- `finalize_changes` takes the steps of a task. -/
theorem steps_finalize_changes (title : String) (recovering : Bool) :
    Composed P (finalizeChanges setting title context allowMerge recovering) := by
  unfold finalizeChanges
  refine composed_bind (steps_recovered_status h.read recovering) fun status => ?_
  refine composed_bind (composed_ite (steps_validate_recovery setting h.read _ _ _ _)
    (composed_pure _)) fun _ => ?_
  refine composed_bind (steps_run_verification h.verify h.write 1) fun _ => ?_
  refine composed_bind (composed_ite (steps_revalidate_recovery setting h.read _)
    (composed_pure _)) fun _ => ?_
  exact steps_publish_changes setting h title status recovering

end

/-- A state in which a record waits for its recovery. -/
def HandoffState.held : HandoffState → Bool
  | .recoverableChanges | .recoveryBlocked | .recoveryConfirmationRequired => true
  | _ => false

/-- A status that holds a task is quiet. -/
theorem quiet_of_held {state : HandoffState} (h : state.held = true) : state.quiet = true := by
  cases state with
  | recoverableChanges | recoveryBlocked | recoveryConfirmationRequired => rfl
  | _ => cases h

/-- `record_issue_failure` writes `FAILED` and notes it on the issue. -/
theorem steps_record_issue_failure (hnote : AllowsNotes P) {number : Int} {title : String}
    (hfail : P Unit (writeStatus .failed { issue := some number, title := some title }))
    (error : Raised) :
    Composed P (recordIssueFailure number title error) :=
  composed_bind (steps_write hfail) fun _ =>
    composed_bind (hnote.replaceLabel _ _ (by decide)) fun _ =>
      .part (hnote.comment _ _ (plain_comment _ (by decide)))

/-- `heartbeat_is_stale` reads the clock. -/
theorem steps_heartbeat_is_stale (hread : Allows P .read) (value : Option String)
    (timeout : Option Rat) :
    Composed P (heartbeatIsStale value timeout) := by
  unfold heartbeatIsStale
  split
  · refine composed_ite (steps_fail _) (composed_bind (steps_call rfl hread) fun age => ?_)
    cases age with
    | unparsable | naive => exact steps_fail _
    | seconds age => exact composed_pure _
  · exact steps_fail _

/-- `git rev-parse HEAD` is a read. -/
theorem steps_head_revision (hread : Allows P .read) : Composed P headRevision := by
  unfold headRevision
  refine composed_bind (steps_call rfl hread) fun _ => ?_
  refine composed_bind (steps_call rfl hread) fun _ => ?_
  exact composed_bind (steps_call rfl hread) fun _ =>
    composed_bind (steps_call rfl hread) fun _ => composed_pure _

/-- `load_recovery_issue` is a read with checks. -/
theorem steps_load_recovery_issue (hread : Allows P .read) :
    Composed P (loadRecoveryIssue setting context) := by
  unfold loadRecoveryIssue
  refine composed_bind (steps_call rfl hread) fun payload => ?_
  cases payload with
  | none => exact steps_fail _
  | some payload => exact composed_ite (composed_pure _) (steps_fail _)

section

variable (hread : Allows P .read)
  (hkeep : ∀ (state : HandoffState) (codexPid : Option Int), state.held = true →
    P Unit (writeStatus state (.of context { codexPid })))
include hkeep

/-- `recovery_blocked_error` writes `RECOVERY_BLOCKED` and raises. -/
theorem steps_fail_blocked (codexPid : Option Int) (detail : String) :
    Composed P (failBlocked context codexPid detail : Controller α) :=
  composed_bind (steps_write (hkeep _ _ rfl)) fun _ => steps_fail _

include hread

/-- An orphan is looked at and ended by the commands about children. -/
theorem steps_stop_orphan (hchild : Allows P .child) (status : Status) (pid : Int) :
    Composed P (stopOrphan status context pid) := by
  unfold stopOrphan
  refine composed_bind (steps_call rfl hread) fun leaderRunning => ?_
  refine composed_bind (composed_ite (steps_call rfl hread) (composed_pure _)) fun identity => ?_
  refine composed_ite (steps_fail_blocked hkeep _ _) ?_
  refine composed_bind (steps_heartbeat_is_stale hread _ _) fun stale => ?_
  exact composed_ite (steps_fail _) (steps_call rfl hchild)

/-- The same for a recorded child, running or not. -/
theorem steps_reconcile_child (hchild : Allows P .child) (status : Status) :
    Composed P (reconcileChild status context) := by
  unfold reconcileChild
  cases status.codexPid with
  | none => exact composed_pure _
  | some pid =>
      refine composed_ite (composed_ite ?_ ?_) (composed_pure _)
      · refine composed_bind (steps_call rfl hread) fun groupRunning => ?_
        exact composed_bind (composed_ite (steps_stop_orphan hread hkeep hchild status pid)
          (composed_pure _)) fun _ => composed_pure _
      · refine composed_bind (steps_call rfl hread) fun running => ?_
        exact composed_ite (steps_fail_blocked hkeep _ _) (composed_pure _)

/-- A stopped task is checked against its base by reads. -/
theorem steps_check_stopped_base (status : Status) :
    Composed P (checkStoppedBase status context) := by
  unfold checkStoppedBase
  refine composed_bind (steps_call rfl hread) fun head => ?_
  exact composed_ite (steps_fail_blocked hkeep _ _) (composed_pure _)

/-- A task that left no changes fails, with its notes. -/
theorem steps_fail_without_changes (hnote : AllowsNotes P)
    (hfail : ∀ title, P Unit
      (writeStatus .failed { issue := some context.issue, title := some title })) :
    Composed P (failWithoutChanges setting context) := by
  unfold failWithoutChanges
  refine composed_bind (steps_write (hkeep _ _ rfl)) fun _ => ?_
  refine composed_bind (steps_load_recovery_issue setting hread) fun payload => ?_
  exact composed_bind (steps_record_issue_failure hnote (hfail _) _) fun _ => steps_fail _

/-- The steps of `reconcile_stale_run` at the changes of a task. Only the proof of a staged commit
changes the checkpoint. -/
theorem steps_reconcile_changes (hnote : AllowsNotes P)
    (hfail : ∀ title, P Unit
      (writeStatus .failed { issue := some context.issue, title := some title }))
    {status : Status} (hpending : status.finalizationCheckpoint = some .staged → ∀ sha,
      P Unit (writeStatus .recoverableChanges (.of context
        { finalizationCheckpoint := some .committed, commitSha := some sha })))
    (stoppedChild hasChanges : Bool) :
    Composed P (reconcileChanges setting status context stoppedChild hasChanges) := by
  unfold reconcileChanges
  split
  · rename_i hstaged
    unfold recoverPendingCommit
    refine composed_bind (steps_head_revision hread) fun revision =>
      composed_ite ?_ (steps_fail _)
    exact composed_bind (steps_write (hpending hstaged.2.2 _)) fun _ => composed_pure _
  · refine composed_ite (steps_fail_without_changes setting hread hkeep hnote hfail) ?_
    refine composed_ite (composed_bind (steps_write (hkeep _ none rfl)) fun _ => steps_fail _) ?_
    refine composed_ite (composed_bind (steps_write (hkeep _ _ rfl)) fun _ => steps_fail _) ?_
    exact composed_bind (steps_write (hkeep _ none rfl)) fun _ => composed_pure _

/-- The reconciliation of a task holds the record, fails it or hands it on to recovery. -/
theorem steps_reconcile_task (hchild : Allows P .child) (hnote : AllowsNotes P)
    (hfail : ∀ title, P Unit
      (writeStatus .failed { issue := some context.issue, title := some title }))
    {status : Status} (hpending : status.finalizationCheckpoint = some .staged → ∀ sha,
      P Unit (writeStatus .recoverableChanges (.of context
        { finalizationCheckpoint := some .committed, commitSha := some sha }))) :
    Composed P (reconcileTask setting status context) := by
  unfold reconcileTask
  refine composed_ite (steps_fail _) ?_
  refine composed_bind (steps_reconcile_child hread hkeep hchild status) fun stopped => ?_
  refine composed_bind (steps_call rfl hread) fun branch =>
    composed_ite (steps_fail_blocked hkeep _ _) ?_
  refine composed_bind (composed_ite (steps_check_stopped_base hread hkeep status)
    (composed_pure _)) fun _ => ?_
  exact composed_bind (steps_call rfl hread) fun entries =>
    steps_reconcile_changes setting hread hkeep hnote hfail hpending _ _

end

/-- `recover_changes` reads the issue and comments on it before it finalizes. -/
theorem steps_recover_changes (h : TaskSteps P setting context false) :
    Composed P (recoverChanges setting context) := by
  unfold recoverChanges
  refine composed_bind (steps_load_recovery_issue setting h.read) fun issue => ?_
  refine composed_bind (h.note.commentOnce _ _ _ (by decide)) fun _ => ?_
  refine composed_handle (steps_finalize_changes setting h _ true) fun e => ?_
  have hpreserve : ∀ e : Raised, Composed P (do
      writeStatus .recoverableChanges (.of context {})
      fail (.recoverableChangesError e.text) : Controller Unit) :=
    fun e => composed_bind (steps_write (h.write _ _ rfl rfl)) fun _ => steps_fail _
  cases e with
  | keyboardInterrupt => exact steps_fail _
  | calledProcessError | jsonDecodeError | runtimeError | valueError | recoverableChangesError
  | activeOrphanError | otherException => exact hpreserve _

/-- `confirm_recovery` reads whether the child has stopped. -/
theorem steps_confirm_stopped_child (hread : Allows P .read) (status : Status) :
    Composed P (confirmStoppedChild status) := by
  unfold confirmStoppedChild recordedChildIsRunning
  refine composed_bind (composed_bind ?_ fun pidRunning => composed_ite (composed_pure _) ?_)
    fun running => composed_ite (composed_ite (steps_fail _) (steps_fail _)) (composed_pure _)
  · cases status.codexPid with
    | none => exact composed_pure _
    | some pid => exact steps_call rfl hread
  · cases status.childProcessGroup with
    | none => exact composed_pure _
    | some group => exact steps_call rfl hread

/-- It reads the branch and its base. -/
theorem steps_confirm_checkout (hread : Allows P .read) (status : Status) :
    Composed P (confirmCheckout status context) := by
  unfold confirmCheckout
  refine composed_bind (steps_call rfl hread) fun branch => composed_ite (steps_fail _) ?_
  cases status.recoverableBaseSha with
  | none => exact composed_pure _
  | some base =>
      exact composed_bind (steps_call rfl hread) fun head =>
        composed_ite (steps_fail _) (composed_pure _)

/-- It captures the changes and finalizes them without a merge. -/
theorem steps_confirm_task (h : TaskSteps P setting context false) (status : Status) :
    Composed P (confirmTask setting status context) := by
  unfold confirmTask
  refine composed_bind (steps_load_recovery_issue setting h.read) fun _ => ?_
  refine composed_bind (steps_confirm_stopped_child h.read status) fun _ => ?_
  refine composed_bind (steps_confirm_checkout h.read status) fun _ => ?_
  refine composed_bind (steps_captured_recovery_scope setting h.read) fun scope =>
    composed_ite (steps_fail _) ?_
  exact composed_bind (steps_write (h.write _ _ rfl rfl)) fun _ => steps_recover_changes setting h

/-! ## Runs -/

/-- The start of a controller takes the lock and prepares the repository. -/
theorem steps_start_controller (hcontrol : Allows P .control) : Composed P startController :=
  composed_bind (steps_call rfl hcontrol) fun _ =>
    composed_bind (steps_call rfl hcontrol) fun _ => steps_call rfl hcontrol

/-- `prepare_task_branch` reads and switches branches. -/
theorem steps_prepare_task_branch (hread : Allows P .read) (hbranch : Allows P .branch)
    (branch : String) :
    Composed P (prepareTaskBranch branch) := by
  unfold prepareTaskBranch
  refine composed_bind (steps_call rfl hbranch) fun _ => ?_
  refine composed_bind (steps_call rfl hbranch) fun _ => ?_
  refine composed_bind (steps_call rfl hbranch) fun _ => ?_
  refine composed_bind (steps_call rfl hread) fun localBranch => ?_
  refine composed_bind (composed_ite (steps_call rfl hbranch) (composed_pure _)) fun _ => ?_
  refine composed_bind (steps_call rfl hread) fun remoteBranch => ?_
  exact composed_ite (steps_fail _) (steps_call rfl hbranch)

section

variable (hread : Allows P .read) (hwrite : AllowsWrites P context)
include hread hwrite

/-- What a child leaves is captured and recorded, or the exception goes on. -/
theorem steps_preserve_changes (message : String) (otherwise : Raised) :
    Composed P (preserveChanges setting context message otherwise) := by
  unfold preserveChanges
  refine composed_bind (steps_captured_recovery_scope setting hread) fun scope => ?_
  exact composed_ite (steps_fail _)
    (composed_bind (steps_write (hwrite _ _ rfl rfl)) fun _ => steps_fail _)

/-- The implementation supervises one child and captures what it leaves. -/
theorem steps_implement (hchildren : AllowsChildren P setting context) :
    Composed P (implement setting context) := by
  unfold implement
  refine composed_bind (composed_handle (hchildren _ rfl) fun e => ?_) fun output =>
    composed_ite ?_ (composed_pure _)
  · cases e with
    | keyboardInterrupt =>
        exact composed_bind (steps_preserve_changes setting hread hwrite _ _) fun _ => steps_fail _
    | calledProcessError | jsonDecodeError | runtimeError | valueError | recoverableChangesError
    | activeOrphanError | otherException => exact steps_fail _
  · exact composed_bind (steps_preserve_changes setting hread hwrite _ _) fun _ => composed_pure _

end

/-- `process_issue` writes `SYNCING` first, and then goes on with the task. -/
theorem process_issue_eq (issue : Issue) : ∃ k : String → Controller Unit,
    processIssue setting issue = (call .nowIso >>= fun startedAt =>
      writeStatus .syncing
      (.of (issueContext setting issue startedAt) { resetRecovery := true }) >>=
        fun _ => k startedAt) ∧
    ∀ {P : (γ : Type) → Controller γ → Prop} (startedAt : String),
      TaskSteps P setting (issueContext setting issue startedAt) true → Allows P .branch →
        Composed P (k startedAt) := by
  refine ⟨_, rfl, fun startedAt h hbranch => ?_⟩
  refine composed_bind (h.note.replaceLabel _ _ (by decide)) fun _ => ?_
  refine composed_bind (.part (h.note.comment _ _ (plain_comment _ (by decide)))) fun _ => ?_
  refine composed_bind (steps_prepare_task_branch h.read hbranch _) fun _ => ?_
  refine composed_bind (steps_implement setting h.read h.write h.children) fun tail => ?_
  refine composed_bind (steps_call rfl h.read) fun changed => composed_ite ?_ ?_
  · refine composed_bind (composed_bind (steps_call rfl hbranch) fun _ => steps_call rfl hbranch)
      fun _ => steps_fail _
  · exact steps_finalize_changes setting h _ false

/-- `next_issue` selects. -/
theorem steps_next_issue (hselect : Allows P .select) : Composed P (nextIssue setting) := by
  unfold nextIssue
  refine composed_bind (steps_call rfl hselect) fun issues => ?_
  cases issues with
  | nil => exact composed_pure _
  | cons issue rest => exact composed_ite (steps_fail _) (composed_pure _)

/-- `clean_tree_required` is a read. -/
theorem steps_clean_tree_required (hread : Allows P .read) : Composed P cleanTreeRequired :=
  composed_bind (steps_call rfl hread) fun _ => composed_ite (steps_fail _) (composed_pure _)

/-- `recorded_status_context` reads the status file. -/
theorem steps_recorded_status_context (hread : Allows P .read) (issue : Issue) :
    Composed P (recordedStatusContext issue) := by
  unfold recordedStatusContext
  refine composed_bind (steps_call rfl hread) fun file => ?_
  cases file with
  | missing | unreadable => exact composed_pure _
  | record status => exact composed_ite (composed_pure _) (composed_pure _)

section

variable (hread : Allows P .read) (hnote : AllowsNotes P)
  (hpreserve : ∀ context, P Unit (writeStatus .recoverableChanges (.of context {})))
  (hfail : ∀ number title, P Unit
    (writeStatus .failed { issue := some number, title := some title }))
include hread hpreserve

/-- An error of a finalization holds the record of the task, or leaves it. -/
theorem steps_recoverable_finalization_error (number : Int) (error : Raised) :
    Composed P (recoverableFinalizationError number error) := by
  unfold recoverableFinalizationError
  refine composed_bind (steps_call rfl hread) fun file => ?_
  cases file with
  | missing | unreadable => exact composed_pure _
  | record status =>
      refine composed_ite (composed_pure _) (composed_ite (composed_pure _) ?_)
      cases status.context with
      | none => exact composed_pure _
      | some context =>
          exact composed_bind (steps_write (hpreserve _)) fun _ => composed_pure _

/-- So does an interruption. -/
theorem steps_recoverable_interruption_error (error : Raised) :
    Composed P (recoverableInterruptionError context error) := by
  unfold recoverableInterruptionError
  refine composed_bind (steps_call rfl hread) fun file => ?_
  cases file with
  | missing | unreadable => exact composed_pure _
  | record status =>
      exact composed_ite
        (composed_bind (steps_write (hpreserve _)) fun _ => composed_pure _)
        (composed_pure _)

/-- The handler of a Ctrl-C in a recovery. -/
theorem steps_handle_recovery_interrupt : Composed P (handleRecoveryInterrupt context) := by
  refine composed_bind (steps_recoverable_interruption_error hread hpreserve _) fun error => ?_
  cases error with
  | none => exact steps_fail _
  | some error => exact steps_fail _

/-- The recovery of `run_watch` takes the steps of a task that may not be merged. -/
theorem steps_watch_recovery (h : TaskSteps P setting context false) :
    Composed P (watchRecovery setting context) := by
  unfold watchRecovery
  refine composed_handle (steps_recover_changes setting h) fun e => ?_
  cases e with
  | keyboardInterrupt => exact steps_handle_recovery_interrupt hread hpreserve
  | calledProcessError | jsonDecodeError | runtimeError | valueError | recoverableChangesError
  | activeOrphanError | otherException => exact steps_fail _

include hnote hfail

/-- An error of a task holds its record or fails it. -/
theorem steps_handle_task_error (issue : Issue) (error : Raised) :
    Composed P (handleTaskError issue error) := by
  unfold handleTaskError
  refine composed_bind (steps_recoverable_finalization_error hread hpreserve _ _) fun recovery => ?_
  cases recovery with
  | some recovery => exact steps_fail _
  | none =>
      exact composed_bind (steps_record_issue_failure hnote (hfail _ _) _) fun _ => steps_fail _

/-- A Ctrl-C of a task holds its record or stops the watch. -/
theorem steps_handle_task_interrupt (issue : Issue) :
    Composed P (handleTaskInterrupt issue) := by
  unfold handleTaskInterrupt taskInterruption
  refine composed_bind (composed_bind (steps_recoverable_finalization_error hread hpreserve _ _)
    fun recovery => ?_) fun interruption => ?_
  · cases recovery with
    | some recovery => exact composed_pure _
    | none =>
        refine composed_bind (steps_recorded_status_context hread issue) fun context => ?_
        cases context with
        | none => exact composed_pure _
        | some context => exact steps_recoverable_interruption_error hread hpreserve _
  · cases interruption with
    | some recovery => exact steps_fail _
    | none => exact steps_record_issue_failure hnote (hfail _ _) _

omit hpreserve in
/-- `reconcile_stale_run` keeps, holds or fails the recorded task, or hands on its pending
commit. -/
theorem steps_reconcile_stale_run (hchild : Allows P .child)
    (hkeep : ∀ (context : StatusContext) (state : HandoffState) (codexPid : Option Int),
      state.held = true → P Unit (writeStatus state (.of context { codexPid })))
    (hpending : ∀ (context : StatusContext) (sha : String), P Unit (writeStatus .recoverableChanges
      (.of context { finalizationCheckpoint := some .committed, commitSha := some sha }))) :
    Composed P (reconcileStaleRun setting) := by
  unfold reconcileStaleRun
  refine composed_bind (steps_call rfl hread) fun file => ?_
  cases file with
  | missing => exact composed_pure _
  | unreadable => exact steps_fail _
  | record status =>
      refine composed_ite (composed_pure _) ?_
      cases status.context with
      | none => exact steps_fail _
      | some context =>
          exact composed_bind (steps_reconcile_task setting hread (hkeep context) hchild hnote
            (fun _ => hfail _ _) fun _ => hpending context) fun _ => composed_pure _

end

/-- The parts of the controller. -/
structure ServiceSteps (P : (γ : Type) → Controller γ → Prop) (setting : Setting) : Prop where
  control : Allows P .control
  select : Allows P .select
  branch : Allows P .branch
  read : Allows P .read
  child : Allows P .child
  note : AllowsNotes P
  write : ∀ (state : HandoffState) (update : StatusUpdate), P Unit (writeStatus state update)
  task : ∀ (context : StatusContext) (allowMerge : Bool), TaskSteps P setting context allowMerge

section

variable (h : ServiceSteps P setting)
include h

/-- `process_issue` takes the steps of its task from the selection on. -/
theorem steps_process_issue (issue : Issue) : Composed P (processIssue setting issue) := by
  obtain ⟨k, heq, hk⟩ := process_issue_eq setting issue
  rw [heq]
  refine composed_bind (steps_call rfl h.read) fun startedAt => ?_
  refine composed_bind (steps_write (h.write _ _)) fun _ => ?_
  exact hk startedAt (h.task _ true) h.branch

/-- The reconciliation takes the steps of any task. -/
theorem steps_reconcile : Composed P (reconcileStaleRun setting) :=
  steps_reconcile_stale_run setting h.read h.note (fun _ _ => h.write _ _) h.child
    (fun _ _ _ _ => h.write _ _) fun _ _ => h.write _ _

/-- So does the handler of an error of `process_issue`. -/
theorem steps_task_error (issue : Issue) (error : Raised) :
    Composed P (handleTaskError issue error) :=
  steps_handle_task_error h.read h.note (fun _ => h.write _ _) (fun _ _ => h.write _ _) issue error

/-- So does the handler of its Ctrl-C. -/
theorem steps_task_interrupt (issue : Issue) : Composed P (handleTaskInterrupt issue) :=
  steps_handle_task_interrupt h.read h.note (fun _ => h.write _ _) (fun _ _ => h.write _ _) issue

/-- `run_once` reconciles, recovers or takes a task. -/
theorem steps_run_once_locked : Composed P (runOnceLocked setting) := by
  unfold runOnceLocked
  refine composed_bind (steps_reconcile setting h) fun recovery => ?_
  cases recovery with
  | some recovery => exact steps_recover_changes setting (h.task recovery false)
  | none =>
  refine composed_bind (steps_clean_tree_required h.read) fun _ => ?_
  refine composed_bind (steps_next_issue setting h.select) fun selected => ?_
  cases selected with
  | none => exact steps_write (h.write _ _)
  | some issue =>
  refine composed_handle (steps_process_issue setting h issue) fun e => ?_
  cases e with
  | recoverableChangesError | keyboardInterrupt => exact steps_fail _
  | calledProcessError | jsonDecodeError | runtimeError | valueError | activeOrphanError
  | otherException => exact steps_task_error setting h issue _

/-- A task of `run_watch`, with its handlers. -/
theorem steps_watch_issue (issue : Issue) : Composed P (watchIssue setting issue) := by
  refine .andThen (steps_process_issue setting h issue) fun result => ?_
  cases result with
  | ok _ => exact composed_pure _
  | error e =>
      cases e with
      | recoverableChangesError => exact steps_fail _
      | keyboardInterrupt =>
          exact composed_bind (steps_task_interrupt setting h issue) fun _ => composed_pure _
      | calledProcessError | jsonDecodeError | runtimeError | valueError | activeOrphanError
      | otherException =>
          exact composed_bind (steps_task_error setting h issue _) fun _ => composed_pure _

/-- A round of `run_watch` without a recovery waits or takes a task. -/
theorem steps_watch_for_issue : Composed P (watchForIssue setting) := by
  unfold watchForIssue
  refine composed_bind (steps_clean_tree_required h.read) fun _ => ?_
  refine composed_bind (steps_next_issue setting h.select) fun selected => ?_
  cases selected with
  | none =>
      exact composed_bind (steps_write (h.write _ _)) fun _ =>
        composed_bind (steps_call rfl h.control) fun _ => composed_pure _
  | some issue => exact steps_watch_issue setting h issue

/-- The body of a round reconciles before it recovers or selects. -/
theorem steps_watch_body : Composed P (watchBody setting) := by
  refine .andThen (steps_reconcile setting h) fun result => ?_
  cases result with
  | ok recovery =>
      cases recovery with
      | some recovery =>
          exact composed_bind (steps_watch_recovery setting h.read (fun _ => h.write _ _)
            (h.task recovery false)) fun _ => composed_pure _
      | none => exact steps_watch_for_issue setting h
  | error e =>
      cases e with
      | activeOrphanError =>
          exact composed_bind (steps_call rfl h.control) fun _ => composed_pure _
      | calledProcessError | jsonDecodeError | runtimeError | valueError | recoverableChangesError
      | otherException | keyboardInterrupt => exact steps_fail _

/-- A round also takes the steps of its handlers. -/
theorem steps_watch_round : Composed P (watchRound setting) := by
  refine .andThen (composed_handle (steps_watch_body setting h) fun e => ?_) fun result => ?_
  · cases e with
    | keyboardInterrupt =>
        exact composed_bind (steps_write (h.write _ _)) fun _ => composed_pure _
    | calledProcessError | jsonDecodeError | runtimeError | valueError | recoverableChangesError
    | activeOrphanError | otherException => exact steps_fail _
  · have hend : ∀ {k : Except Raised Unit → Controller (Option HandoffEntry)},
        (∀ released, ∃ ended, k released = .done ended) →
        Composed P ((call .releaseLock).andThen k) := by
      intro k hk
      refine .andThen (steps_call rfl h.control) fun released => ?_
      obtain ⟨ended, hended⟩ := hk released
      rw [hended]
      exact .done ended
    cases result with
    | error e =>
        refine hend fun released => ?_
        cases released with
        | ok _ => exact ⟨_, rfl⟩
        | error e => exact ⟨_, rfl⟩
    | ok goesOn =>
        cases goesOn with
        | true => exact composed_pure _
        | false =>
            refine hend fun released => ?_
            cases released with
            | ok _ => exact ⟨_, rfl⟩
            | error e => exact ⟨_, rfl⟩

/-- `confirm_recovery` takes the steps of a task that may not be merged. -/
theorem steps_confirm_recorded_task : Composed P (confirmRecordedTask setting) := by
  unfold confirmRecordedTask
  refine composed_bind (steps_call rfl h.read) fun file => ?_
  cases file with
  | missing | unreadable => exact steps_fail _
  | record status =>
      refine composed_ite (steps_fail _) ?_
      cases status.context with
      | none => exact steps_fail _
      | some context => exact steps_confirm_task setting (h.task context false) status

/-- Every entry is put together from the parts of the controller. -/
theorem steps_handoff_script (entry : HandoffEntry) : Composed P (handoffScript setting entry) := by
  have hlocked : ∀ {p : Controller Unit}, Composed P p → Composed P (do
      p.finally_ (call .releaseLock)
      pure none : Controller (Option HandoffEntry)) :=
    fun hp => composed_bind (.andThen hp fun _ => composed_bind (steps_call rfl h.control) fun _ =>
      .done _) fun _ => composed_pure _
  cases entry with
  | once =>
      exact composed_bind (steps_start_controller h.control) fun _ =>
        hlocked (steps_run_once_locked setting h)
  | watch =>
      exact composed_bind (steps_start_controller h.control) fun _ => steps_watch_round setting h
  | watching => exact steps_watch_round setting h
  | confirm =>
      exact composed_bind (steps_start_controller h.control) fun _ =>
        hlocked (steps_confirm_recorded_task setting h)

end

end GrowthOs.Handoff
