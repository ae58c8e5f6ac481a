import GrowthOs.Handoff.Steps

/-!
# The commands of a task

Which commands the functions of the controller can issue, whatever the answers are. A quiet command
neither merges nor selects an issue, and writes none of the four states that only single places of
the source write: `MERGING` and `MERGED`, `IDLE` and `STOPPED`.
-/

namespace GrowthOs.Handoff

open Library

/-- A command of an ordinary step of a task. -/
def Command.Quiet : Command → Prop
  | .ghPrMerge _ _ | .ghReadyIssues => False
  | .writeStatus status => status.state.quiet = true
  | _ => True

/-- The commands of one command. -/
theorem only_call {P : Command → Prop} {command : Command} (h : P command) :
    Only P (call command) := only_issue h

/-- An exception issues none. -/
theorem only_fail {P : Command → Prop} {α : Type} (e : Raised) :
    Only P (fail e : Controller α) := only_raise e

/-- A quiet status is written quietly. -/
theorem quiet_write {state : HandoffState} {update : StatusUpdate} (h : state.quiet = true) :
    Only Command.Quiet (writeStatus state update) :=
  only_bind (only_call trivial) fun _ => only_call h

/-- The commands of a loop are those of its body. -/
theorem only_for_each {P : Command → Prop} {α β : Type} {f : α → Controller β} {list : List α}
    (h : ∀ a, Only P (f a)) : Only P (forEach f list) := by
  induction list with
  | nil => exact only_pure _
  | cons a rest ih => exact only_bind (h a) fun b => only_bind ih fun bs => only_pure _

/-- A kind of which every command is quiet. -/
def CommandKind.Quiet : CommandKind → Prop
  | .mergePr | .select => False
  | _ => True

/-- A command of a quiet kind is quiet. -/
theorem quiet_of_kind {command : Command} {kind : CommandKind} (hkind : command.kind = some kind)
    (h : kind.Quiet) : command.Quiet := by
  cases command with
  | writeStatus status => cases hkind
  | ghPrMerge url head =>
      cases hkind
      exact h
  | ghReadyIssues =>
      cases hkind
      exact h
  | _ => trivial

/-- The scripts that issue quiet commands. -/
abbrev QuietPart (γ : Type) (p : Controller γ) : Prop := Only Command.Quiet p

/-- Quiet parts make a quiet script. -/
theorem quiet_of_steps {α : Type} {p : Controller α} (h : Composed QuietPart p) :
    Only Command.Quiet p := only_composed h id

/-- Quiet kinds are allowed. -/
theorem quiet_allows {kind : CommandKind} (h : kind.Quiet) : Allows QuietPart kind :=
  fun _ hkind => only_call (quiet_of_kind hkind h)

/-- The statuses of a task are quiet. -/
theorem quiet_writes (context : StatusContext) : AllowsWrites QuietPart context :=
  fun _ _ h _ => quiet_write h

/-- So are its children. -/
theorem quiet_children (setting : Setting) (context : StatusContext) :
    AllowsChildren QuietPart setting context :=
  steps_run_codex_stream setting (quiet_allows trivial) (quiet_allows trivial)
    fun _ _ h => quiet_write h

/-- So are notes on its issue. -/
theorem quiet_notes : AllowsNotes QuietPart :=
  allows_notes (quiet_allows trivial) (quiet_allows trivial)

/-- The steps of a task that does not merge are quiet. -/
theorem quiet_task_steps (setting : Setting) (context : StatusContext) :
    TaskSteps QuietPart setting context false where
  read := quiet_allows trivial
  children := quiet_children setting context
  verify := quiet_allows trivial
  stage := quiet_allows trivial
  push := quiet_allows trivial
  openPr := quiet_allows trivial
  editPr := quiet_allows trivial
  note := quiet_notes
  write := quiet_writes context
  merge h := nomatch h

section

variable (setting : Setting)

/-- `run_codex_stream` is quiet. -/
theorem quiet_run_codex_stream (context : StatusContext) {state : HandoffState}
    (h : state.supervises = true) : Only Command.Quiet (runCodexStream setting context state) :=
  quiet_of_steps (quiet_children setting context state h)

/-- A label is quiet. -/
theorem quiet_add_label (number : Int) (name : String) :
    Only Command.Quiet (addLabel number name) := only_call trivial

/-- So is the exchange of one. -/
theorem quiet_replace_label (number : Int) (add remove : String) :
    Only Command.Quiet (replaceLabel number add remove) :=
  only_bind (only_call trivial) fun _ => only_call trivial

/-- So is `comment_once`. -/
theorem quiet_comment_once (number : Int) (event text : String) :
    Only Command.Quiet (commentOnce number event text) :=
  quiet_of_steps (steps_comment_once (quiet_allows trivial)
    (quiet_allows trivial) number event text)

/-- So is `run_verification`. -/
theorem quiet_run_verification (context : StatusContext) (passNumber : Nat) :
    Only Command.Quiet (runVerification context passNumber) :=
  quiet_of_steps (steps_run_verification (quiet_allows trivial) (quiet_writes context) passNumber)

/-- So is `run_fixer`. -/
theorem quiet_run_fixer (context : StatusContext) :
    Only Command.Quiet (runFixer setting context) :=
  quiet_of_steps (steps_run_fixer setting (quiet_allows trivial) (quiet_writes context)
    (quiet_children setting context))

/-- So is `commit_review_fix`. -/
theorem quiet_commit_review_fix (context : StatusContext) (round : Nat) :
    Only Command.Quiet (commitReviewFix setting context round) :=
  quiet_of_steps (steps_commit_review_fix setting (quiet_allows trivial) (quiet_writes context)
    (quiet_allows trivial) (quiet_allows trivial) round)

/-- So are the rounds of a review. -/
theorem quiet_review_rounds (context : StatusContext) (rounds : List Nat) :
    Only Command.Quiet (reviewRounds setting context rounds) :=
  quiet_of_steps
    (steps_review_rounds setting (quiet_allows trivial) (quiet_writes context)
      (quiet_children setting context) (quiet_allows trivial) (quiet_allows trivial)
      (quiet_allows trivial) rounds)

/-- `_pr_metadata` looks at one pull request. -/
theorem only_pr_metadata {P : Command → Prop} {url : String} (hpr : P (.ghPrView url)) :
    Only P (prMetadata url) := by
  unfold prMetadata
  refine only_bind (only_call hpr) fun metadata => ?_
  cases metadata with
  | none => exact only_fail _
  | some metadata => exact only_pure _

/-- The second reading of a record is quiet. -/
theorem quiet_recovered_status (recovering : Bool) :
    Only Command.Quiet (recoveredStatus recovering) :=
  quiet_of_steps (steps_recovered_status (quiet_allows trivial) recovering)

/-- So is the commit of a finalization. -/
theorem quiet_ensure_commit (context : StatusContext) (commitSha : Option String)
    (completed : Nat) : Only Command.Quiet (ensureCommit setting context commitSha completed) :=
  quiet_of_steps (steps_ensure_commit setting (quiet_allows trivial) (quiet_writes context)
    (quiet_allows trivial) commitSha completed)

/-- So is its push. -/
theorem quiet_ensure_push (context : StatusContext) (commit : String) (completed : Nat) :
    Only Command.Quiet (ensurePush context commit completed) :=
  quiet_of_steps (steps_ensure_push (quiet_writes context) (quiet_allows trivial) commit completed)

/-- So is its draft pull request. -/
theorem quiet_ensure_draft_pr (title : String) (context : StatusContext)
    (recordedPr : Option String) (completed : Nat) (recovering : Bool) :
    Only Command.Quiet (ensureDraftPr title context recordedPr completed recovering) :=
  quiet_of_steps (steps_ensure_draft_pr (quiet_allows trivial)
    (quiet_allows trivial) title recordedPr completed recovering)

/-- So is the record of a blocked merge. -/
theorem quiet_record_blocked (context : StatusContext) (url : String) (reasons : List String) :
    Only Command.Quiet (recordBlocked context url reasons) :=
  quiet_of_steps (steps_record_blocked (quiet_writes context) quiet_notes url reasons)

/-- So is that of a passed review. -/
theorem quiet_record_review_passed (context : StatusContext) (url : String) :
    Only Command.Quiet (recordReviewPassed context url) :=
  quiet_of_steps (steps_record_review_passed (quiet_writes context)
    (quiet_allows trivial) quiet_notes url)

/-- The review threads are one look at a pull request. -/
theorem only_unresolved_threads {P : Command → Prop} {number : Option Int} {reason : String}
    (hthreads : ∀ n, P (.ghReviewThreads n)) : Only P (unresolvedThreads number reason) := by
  unfold unresolvedThreads hasUnresolvedReviewThreads
  cases number with
  | none => exact only_pure _
  | some number =>
      refine only_bind (only_bind (only_call (hthreads number)) fun threads => ?_) fun _ =>
        only_pure _
      cases threads with
      | none => exact only_fail _
      | some threads => exact only_pure _

variable {number : Int} {branch url head : String} {changedPaths : List String}
  {P : Command → Prop}

/-- The authorisation of a merge. -/
theorem only_current_issue (hissue : P (.ghIssueView number)) :
    Only P (currentIssueForMerge setting number) := by
  refine only_handle (only_bind (only_call hissue) fun _ => only_pure _) fun e => ?_
  cases e with
  | jsonDecodeError | valueError => exact only_pure _
  | _ => exact only_fail _

/-- The first evaluation of a merge looks at the issue, the pull request and its threads. -/
theorem only_first_merge_reasons (hissue : P (.ghIssueView number)) (hpr : P (.ghPrView url))
    (hthreads : ∀ n, P (.ghReviewThreads n)) :
    Only P (firstMergeReasons setting number branch url head changedPaths) := by
  unfold firstMergeReasons
  refine only_bind (only_current_issue setting hissue) fun contract => ?_
  cases contract with
  | error text => exact only_pure _
  | ok body =>
      refine only_ite (only_pure _) (only_bind (only_pr_metadata hpr) fun metadata => ?_)
      exact only_bind (only_unresolved_threads hthreads) fun _ => only_pure _

/-- So does the last one. -/
theorem only_final_merge_reasons (hissue : P (.ghIssueView number)) (hpr : P (.ghPrView url))
    (hthreads : ∀ n, P (.ghReviewThreads n)) :
    Only P (finalMergeReasons setting number branch url head changedPaths) := by
  unfold finalMergeReasons
  refine only_bind (only_current_issue setting hissue) fun contract => ?_
  cases contract with
  | error text => exact only_pure _
  | ok body =>
      refine only_bind (only_pr_metadata hpr) fun metadata => ?_
      exact only_bind (only_unresolved_threads hthreads) fun _ => only_pure _

/-- The reconciliation of a task is quiet. -/
theorem quiet_reconcile_task (status : Status) (context : StatusContext) :
    Only Command.Quiet (reconcileTask setting status context) :=
  quiet_of_steps (steps_reconcile_task setting (quiet_allows trivial)
    (fun _ _ h => quiet_write (quiet_of_held h)) (quiet_allows trivial) quiet_notes
    (fun _ => quiet_write rfl) fun _ _ => quiet_write rfl)

/-- So is `reconcile_stale_run`. -/
theorem quiet_reconcile_stale_run : Only Command.Quiet (reconcileStaleRun setting) :=
  quiet_of_steps
    (steps_reconcile_stale_run setting (quiet_allows trivial) quiet_notes
      (fun _ _ => quiet_write rfl) (quiet_allows trivial)
      (fun _ _ _ h => quiet_write (quiet_of_held h)) fun _ _ => quiet_write rfl)

/-- So is `recover_changes`, which never merges. -/
theorem quiet_recover_changes (context : StatusContext) :
    Only Command.Quiet (recoverChanges setting context) :=
  quiet_of_steps (steps_recover_changes setting (quiet_task_steps setting context))

/-- So is `confirm_recovery`. -/
theorem quiet_confirm_recorded_task : Only Command.Quiet (confirmRecordedTask setting) := by
  unfold confirmRecordedTask
  refine only_bind (only_call trivial) fun file => ?_
  cases file with
  | missing | unreadable => exact only_fail _
  | record status =>
      refine only_ite (only_fail _) ?_
      cases status.context with
      | none => exact only_fail _
      | some context =>
          exact quiet_of_steps
            (steps_confirm_task setting (quiet_task_steps setting context) status)

/-! ## Runs -/

/-- So is the start of a controller. -/
theorem quiet_start_controller : Only Command.Quiet startController :=
  quiet_of_steps (steps_start_controller (quiet_allows trivial))

/-- So is `prepare_task_branch`. -/
theorem quiet_prepare_task_branch (branch : String) :
    Only Command.Quiet (prepareTaskBranch branch) :=
  quiet_of_steps (steps_prepare_task_branch (quiet_allows trivial) (quiet_allows trivial) branch)

/-- So is the implementation of a task. -/
theorem quiet_implement (context : StatusContext) :
    Only Command.Quiet (implement setting context) :=
  quiet_of_steps (steps_implement setting (quiet_allows trivial) (quiet_writes context)
    (quiet_children setting context))

/-- So is the handler of an error. -/
theorem quiet_handle_task_error (issue : Issue) (error : Raised) :
    Only Command.Quiet (handleTaskError issue error) :=
  quiet_of_steps (steps_handle_task_error (quiet_allows trivial) quiet_notes
    (fun _ => quiet_write rfl) (fun _ _ => quiet_write rfl) issue error)

/-- So is that of a Ctrl-C. -/
theorem quiet_handle_task_interrupt (issue : Issue) :
    Only Command.Quiet (handleTaskInterrupt issue) :=
  quiet_of_steps (steps_handle_task_interrupt (quiet_allows trivial) quiet_notes
    (fun _ => quiet_write rfl) (fun _ _ => quiet_write rfl) issue)

/-- The handler of a Ctrl-C in a recovery. -/
theorem quiet_handle_recovery_interrupt (recovery : StatusContext) :
    Only Command.Quiet (handleRecoveryInterrupt recovery) :=
  quiet_of_steps (steps_handle_recovery_interrupt (quiet_allows trivial) fun _ => quiet_write rfl)

/-- So is the recovery of `run_watch`. -/
theorem quiet_watch_recovery (recovery : StatusContext) :
    Only Command.Quiet (watchRecovery setting recovery) :=
  quiet_of_steps (steps_watch_recovery setting (quiet_allows trivial) (fun _ => quiet_write rfl)
    (quiet_task_steps setting recovery))

/-- So is `clean_tree_required`. -/
theorem quiet_clean_tree_required : Only Command.Quiet cleanTreeRequired :=
  quiet_of_steps (steps_clean_tree_required (quiet_allows trivial))

variable {setting} in
/-- How a round of the loop of `run_watch` ends: with the release of the lock, unless it goes on. -/
theorem safe_round_end {W : Type} {exec : Exec Answer Raised W} {I J : W → Prop} {w : W}
    (hJ : ∀ w, J w → I w)
    (hrelease : ∀ w answer w', J w → exec .releaseLock w answer w' → J w')
    (result : Except Raised Bool) (hw : J w) :
    Safe exec I (endRound result) w fun _ w' => J w' := by
  have hreleased : Safe exec I (call .releaseLock) w fun _ w' => J w' :=
    safe_issue (hJ w hw) fun answer w₂ hexec =>
      ⟨hJ w₂ (hrelease w answer w₂ hw hexec), hrelease w answer w₂ hw hexec⟩
  have hend : ∀ {k : Except Raised Unit → Controller (Option HandoffEntry)},
      (∀ e, k (.error e) = fail e) → (∃ ended, k (.ok ()) = .done ended) →
      Safe exec I ((call .releaseLock).andThen k) w fun _ w' => J w' := by
    intro k herror hok
    refine safe_and_then (safe_post hreleased fun released w₂ hI hw₂ => ?_)
    cases released with
    | ok _ =>
        obtain ⟨ended, hended⟩ := hok
        rw [hended]
        exact ⟨hI, hw₂⟩
    | error e =>
        rw [herror]
        exact safe_raise hI hw₂
  cases result with
  | error e => exact hend (fun _ => rfl) ⟨_, rfl⟩
  | ok goesOn =>
      cases goesOn with
      | false => exact hend (fun _ => rfl) ⟨_, rfl⟩
      | true => exact safe_pure (hJ w hw) hw

variable {setting} in
/-- A round of the loop of `run_watch` ends where its body and the handler of Ctrl-C do, up to the
release of the lock. -/
theorem safe_watch_round_of_body {W : Type} {exec : Exec Answer Raised W} {I J : W → Prop} {w : W}
    (hbody : Safe exec I ((watchBody setting).handle stopWatch) w fun _ w' => J w')
    (hJ : ∀ w, J w → I w)
    (hrelease : ∀ w answer w', J w → exec .releaseLock w answer w' → J w') :
    Safe exec I (watchRound setting) w fun _ w' => J w' :=
  safe_and_then (safe_post hbody fun result _ _ hw₁ => safe_round_end hJ hrelease result hw₁)

end

end GrowthOs.Handoff
