import GrowthOs.Handoff.MergeGuard

/-!
# The merge guard of a run

`merge_guard`: every run of the controller obeys `MergeRule`, whatever it is answered and wherever
it crashes and is started again.
-/

namespace GrowthOs.Handoff

open Library

section

variable {W : Type} {setting : Setting} {exec : Exec Answer Raised W} {w : W × Journal}

/-- No merge since the last start of an entry. -/
def Unmerged (h : Journal) : Prop := ∀ c ∈ round h, ¬ c.Merges

/-- Without a merge a history stays unmerged. -/
theorem Unmerged.extend {h h' : Journal} (hunmerged : Unmerged h)
    (hext : Extends Command.NoMerge h h') : Unmerged h' := by
  intro c hc hmerges
  cases mem_round_extends hext hc with
  | inl hquiet => cases c <;> first | exact hquiet | exact hmerges
  | inr hold => exact hunmerged c hold hmerges

/-- And stays in its task. -/
theorem InTask.extend {number : Int} {branch : String} {h h' : Journal}
    (htask : InTask number branch h) (hext : Extends Command.NoMerge h h') :
    InTask number branch h' := by
  obtain ⟨hunmerged, status, hmem, hstatus⟩ := htask
  exact ⟨Unmerged.extend hunmerged hext, status, round_subset_extends hext hmem, hstatus⟩

/-- Quiet scripts keep the guard. -/
theorem safe_quiet {α : Type} {p : Controller α} (hp : Only Command.Quiet p)
    (hw : Obedient (MergeRule setting) w) :
    Safe (recordedExec HandoffEntry exec) (Obedient (MergeRule setting)) p w
      fun _ w' => Extends Command.NoMerge w.2 w'.2 :=
  safe_of_unruled (only_mono hp quiet_no_merge) no_merge_rule hw

/-- A quiet script in front of another. -/
theorem safe_after_quiet {α β : Type} {p : Controller β} {f : β → Controller α}
    (hp : Only Command.Quiet p) (hw : Obedient (MergeRule setting) w)
    (hf : ∀ b w', Obedient (MergeRule setting) w' → Extends Command.NoMerge w.2 w'.2 →
      Safe (recordedExec HandoffEntry exec) (Obedient (MergeRule setting)) (f b) w'
        fun _ _ => True) :
    Safe (recordedExec HandoffEntry exec) (Obedient (MergeRule setting)) (p >>= f) w
      fun _ _ => True :=
  safe_after_unruled (only_mono hp quiet_no_merge) no_merge_rule hw hf fun _ _ _ => trivial

/-- A quiet script whose result does not matter. -/
theorem safe_to_end {α : Type} {p : Controller α} (hp : Only Command.Quiet p)
    (hw : Obedient (MergeRule setting) w) :
    Safe (recordedExec HandoffEntry exec) (Obedient (MergeRule setting)) p w fun _ _ => True :=
  safe_post (safe_quiet hp hw) fun _ _ _ _ => trivial

/-- The reviewer merges nothing, and its verdict is the last one. -/
theorem safe_run_reviewer {context : StatusContext} (hw : Obedient (MergeRule setting) w) :
    Safe (recordedExec HandoffEntry exec) (Obedient (MergeRule setting))
      (runReviewer setting context) w
      fun result w' => Extends Command.NoMerge w.2 w'.2 ∧ ∀ verdict, result = .ok verdict →
        LastAnswer Command.Reviews .loadReviewResult (.ok verdict) w'.2 := by
  refine safe_bind (safe_post (safe_quiet (quiet_run_codex_stream setting context rfl) hw)
    fun result w₁ hw₁ hext => ?_)
  cases result with
  | error e => exact ⟨hext, fun verdict h => nomatch h⟩
  | ok output =>
  show Safe _ _ (if output.1 ≠ 0 then _ else _) w₁ _
  split
  · exact safe_raise hw₁ ⟨hext, fun verdict h => nomatch h⟩
  · refine safe_recorded_issue hw₁ (no_merge_rule _ _ trivial) fun answer world => ?_
    refine ⟨extends_trans hext (extends_answered trivial), fun verdict h => ?_⟩
    rw [h]
    exact last_answer_here

/-- `run_review_fix_loop` returns only after the reviewer has passed the work. -/
theorem safe_review_rounds {context : StatusContext} (rounds : List Nat)
    (hw : Obedient (MergeRule setting) w) :
    Safe (recordedExec HandoffEntry exec) (Obedient (MergeRule setting))
      (reviewRounds setting context rounds) w
      fun result w' => Extends Command.NoMerge w.2 w'.2 ∧ (result = .ok () →
        LastAnswer Command.Reviews .loadReviewResult (.ok .pass) w'.2) := by
  induction rounds generalizing w with
  | nil => exact safe_raise hw ⟨extends_refl, fun h => nomatch h⟩
  | cons round rest ih =>
  refine safe_bind (safe_post (safe_run_reviewer hw) fun result w₁ hw₁ hreview => ?_)
  obtain ⟨hext₁, hverdict⟩ := hreview
  cases result with
  | error e => exact ⟨hext₁, fun h => nomatch h⟩
  | ok verdict =>
  cases verdict with
  | pass => exact safe_pure hw₁ ⟨hext₁, fun _ => hverdict _ rfl⟩
  | changesRequested =>
  show Safe _ _ (if maxFixRounds < round then _ else _) w₁ _
  split
  · exact safe_raise hw₁ ⟨hext₁, fun h => nomatch h⟩
  · refine safe_bind (safe_post (safe_quiet (quiet_run_fixer setting context) hw₁)
      fun result w₂ hw₂ hext₂ => ?_)
    cases result with
    | error e => exact ⟨extends_trans hext₁ hext₂, fun h => nomatch h⟩
    | ok _ =>
    refine safe_bind (safe_post (safe_quiet (quiet_run_verification context _) hw₂)
      fun result w₃ hw₃ hext₃ => ?_)
    have hext₁₃ := extends_trans hext₁ (extends_trans hext₂ hext₃)
    cases result with
    | error e => exact ⟨hext₁₃, fun h => nomatch h⟩
    | ok _ =>
    refine safe_bind (safe_post (safe_quiet (quiet_commit_review_fix setting context round) hw₃)
      fun result w₄ hw₄ hext₄ => ?_)
    cases result with
    | error e => exact ⟨extends_trans hext₁₃ hext₄, fun h => nomatch h⟩
    | ok _ =>
    refine safe_post (ih hw₄) fun result w₅ _ hrest => ?_
    exact ⟨extends_trans hext₁₃ (extends_trans hext₄ hrest.1), hrest.2⟩

/-- What `finalize_changes` records after the merge step keeps the guard. -/
theorem safe_record_outcome {context : StatusContext} {url head : String} {outcome : MergeOutcome}
    (hw : Obedient (MergeRule setting) w)
    (houtcome : OutcomeConfirmed url head (.ok outcome) w.2) :
    Safe (recordedExec HandoffEntry exec) (Obedient (MergeRule setting))
      (recordOutcome context url outcome) w fun _ _ => True := by
  unfold recordOutcome
  split
  · rename_i hmerged
    obtain ⟨status, sha, hlast, hstate, hsha, _, hmerge⟩ := houtcome outcome rfl hmerged
    have hconfirmed : MergeConfirmed w.2 := ⟨url, status, sha, hlast, hstate, hsha, head, hmerge⟩
    refine safe_bind (safe_bind (safe_bind ?_))
    refine safe_post (safe_recorded_issue hw (no_merge_rule _ _ trivial)
      (Q := fun _ w' => MergeConfirmed w'.2) fun answer world => ?_)
      fun result w₁ hw₁ hconfirmed₁ => ?_
    · obtain ⟨url, status, sha, hlast, hstate, hsha, head, hmerge⟩ := hconfirmed
      exact ⟨url, status, sha, last_answer_answered hlast id, hstate, hsha, head,
        List.mem_cons_of_mem _ hmerge⟩
    cases result with
    | error e => trivial
    | ok file =>
    refine safe_post (safe_recorded_issue hw₁ (fun _ => hconfirmed₁) (Q := fun _ _ => True)
      fun answer world => trivial) fun result w₂ hw₂ _ => ?_
    cases result with
    | error e => trivial
    | ok _ =>
    have hreport : Only Command.Quiet (do
        commentOnce context.issue "auto-merge-completed" ("Bounded auto-merge completed at `" ++
          outcome.sha.getD "None" ++ "`: " ++ url)
        addLabel context.issue "codex-merged") :=
      only_bind (quiet_comment_once _ _ _) fun _ => quiet_add_label _ _
    refine safe_post (safe_quiet hreport hw₂) fun result w₃ hw₃ _ => ?_
    cases result with
    | error e => trivial
    | ok _ => exact safe_to_end (quiet_replace_label _ _ _) hw₃
  · exact safe_after_quiet (quiet_record_blocked context url _) hw
      fun _ w₁ hw₁ _ => safe_to_end (quiet_replace_label _ _ _) hw₁

omit w in
/-- The commands between a passed review and the merge step. -/
theorem marks_review (context : StatusContext) (url : String) :
    Only Command.MarksReview (recordReviewPassed context url) := by
  unfold recordReviewPassed markPrReviewPassed writeStatus commentOnce addLabel
  refine only_bind (only_call trivial) fun _ => only_bind ?_ fun _ => only_bind ?_ fun _ =>
    only_call trivial
  · exact only_bind (only_call trivial) fun _ => only_call rfl
  · refine only_bind (only_call trivial) fun comments => ?_
    cases comments with
    | none => exact only_fail _
    | some bodies => exact only_ite (only_pure _) (only_call trivial)

/-- The merge step of a task whose review has passed. -/
theorem safe_merge_step {context : StatusContext} {url head : String}
    (hw : Obedient (MergeRule setting) w) (htask : InTask context.issue context.branch w.2)
    (hhead : ReviewedHead head w.2) :
    Safe (recordedExec HandoffEntry exec) (Obedient (MergeRule setting))
      (mergeOutcome setting context url head true >>= recordOutcome context url) w
      fun _ _ => True := by
  refine safe_bind (safe_post (safe_merge_reviewed_pr no_merge_rule hw
    fun h' evidence hext hpermits => ?_) fun result w' hw' houtcome => ?_)
  · have hquiet : Extends Command.NoMerge w.2 h' := extends_mono hext fun c hc =>
      hc.elim (fun hdiff => by cases c <;> first | exact hdiff.elim | trivial)
        (evaluates_no_merge c)
    obtain ⟨later, earlier, heq, hlater, hreview⟩ := hhead
    obtain ⟨new, hnew, hwithin⟩ := hext
    refine ⟨context.issue, context.branch, htask.extend hquiet, ?_, evidence, hpermits⟩
    refine ⟨new ++ later, earlier, by rw [hnew, heq, List.append_assoc], ?_, hreview⟩
    refine within_append (within_mono hwithin fun c hc => ?_) hlater
    cases c <;> first | exact ⟨id, id⟩ | exact (hc.elim id id).elim
  · cases result with
    | error e => trivial
    | ok outcome => exact safe_record_outcome hw' houtcome

/-- `finalize_changes` from the review on, in a task. -/
theorem safe_review_and_merge {context : StatusContext} {url : String}
    (hw : Obedient (MergeRule setting) w) (htask : InTask context.issue context.branch w.2) :
    Safe (recordedExec HandoffEntry exec) (Obedient (MergeRule setting))
      (reviewAndMerge setting context url true) w fun _ _ => True := by
  refine safe_bind (safe_post (safe_review_rounds _ hw) fun result w₁ hw₁ hreview => ?_)
  obtain ⟨hext₁, hpassed⟩ := hreview
  cases result with
  | error e => trivial
  | ok _ =>
  refine safe_after_unruled (marks_review context url)
    (fun c h hc => no_merge_rule c h (marks_review_no_merge c hc)) hw₁
    (fun _ w₂ hw₂ hext₂ => ?_) fun _ _ _ => trivial
  have hpassed₂ : LastAnswer Command.Reviews .loadReviewResult (.ok .pass) w₂.2 :=
    last_answer_extends (hpassed rfl) hext₂ fun c hc hsame => by
      cases c <;> first | exact hc | exact hsame
  have htask₂ : InTask context.issue context.branch w₂.2 :=
    htask.extend (extends_trans hext₁ (extends_mono hext₂ marks_review_no_merge))
  refine safe_bind (safe_post (safe_recorded_issue hw₂ (no_merge_rule _ _ trivial)
    (Q := fun result w' => w'.2 = .answered .gitHead result :: w₂.2)
    fun answer world => rfl) fun result w₃ hw₃ hhistory => ?_)
  cases result with
  | error e => trivial
  | ok head =>
  show Safe _ _ (if head = "" then _ else _) w₃ _
  split
  · exact safe_raise hw₃ trivial
  · refine safe_merge_step hw₃ ?_ ?_
    · rw [hhistory]
      exact htask₂.extend (extends_answered trivial)
    · exact ⟨[], w₂.2, hhistory, within_nil, hpassed₂⟩

/-- `finalize_changes` of a task. -/
theorem safe_finalize_changes {title : String} {context : StatusContext}
    (hw : Obedient (MergeRule setting) w) (htask : InTask context.issue context.branch w.2) :
    Safe (recordedExec HandoffEntry exec) (Obedient (MergeRule setting))
      (finalizeChanges setting title context true false) w fun _ _ => True := by
  refine safe_after_quiet (quiet_recovered_status false) hw fun status w₁ hw₁ hext₁ => ?_
  refine safe_after_quiet (only_pure ()) hw₁ fun _ w₂ hw₂ hext₂ => ?_
  refine safe_after_quiet (quiet_run_verification context 1) hw₂ fun _ w₃ hw₃ hext₃ => ?_
  refine safe_after_quiet (only_pure ()) hw₃ fun _ w₄ hw₄ hext₄ => ?_
  refine safe_after_quiet (quiet_ensure_commit setting context _ _) hw₄
    fun commit w₅ hw₅ hext₅ => ?_
  refine safe_after_quiet (quiet_ensure_push context commit _) hw₅ fun _ w₆ hw₆ hext₆ => ?_
  refine safe_after_quiet (quiet_ensure_draft_pr title context _ _ _) hw₆
    fun url w₇ hw₇ hext₇ => ?_
  refine safe_after_quiet (quiet_write rfl) hw₇ fun _ w₈ hw₈ hext₈ => ?_
  refine safe_after_quiet (quiet_comment_once _ _ _) hw₈ fun _ w₉ hw₉ hext₉ => ?_
  have hext₄' := extends_trans hext₁ (extends_trans hext₂ (extends_trans hext₃ hext₄))
  have hext₇' := extends_trans hext₄' (extends_trans hext₅ (extends_trans hext₆ hext₇))
  exact safe_review_and_merge hw₉
    (htask.extend (extends_trans hext₇' (extends_trans hext₈ hext₉)))

/-- `process_issue` keeps the guard when nothing has been merged since the start of the entry. -/
theorem safe_process_issue {issue : Issue} (hw : Obedient (MergeRule setting) w)
    (hunmerged : Unmerged w.2) :
    Safe (recordedExec HandoffEntry exec) (Obedient (MergeRule setting))
      (processIssue setting issue) w fun _ _ => True := by
  refine safe_after_quiet (only_call trivial) hw fun startedAt w₁ hw₁ hext₁ => ?_
  refine safe_bind (safe_bind (safe_post (safe_quiet (only_call trivial) hw₁)
    fun result w₂ hw₂ hext₂ => ?_))
  cases result with
  | error e => trivial
  | ok file =>
  -- The record that starts the task.
  refine safe_post (safe_recorded_issue hw₂ (no_merge_rule _ _ fun h => nomatch h)
    (Q := fun _ w' => InTask issue.number (issueContext setting issue startedAt).branch w'.2)
    fun answer world => ?_) fun result w₃ hw₃ htask => ?_
  · have hunmerged₂ := (hunmerged.extend hext₁).extend hext₂
    exact ⟨hunmerged₂.extend (extends_answered fun h => nomatch h), _, List.mem_cons_self, rfl,
      rfl, rfl⟩
  cases result with
  | error e => trivial
  | ok _ =>
  refine safe_after_quiet (quiet_replace_label _ _ _) hw₃ fun _ w₄ hw₄ hext₄ => ?_
  refine safe_after_quiet (only_call trivial) hw₄ fun _ w₅ hw₅ hext₅ => ?_
  refine safe_after_quiet (quiet_prepare_task_branch _) hw₅ fun _ w₆ hw₆ hext₆ => ?_
  refine safe_after_quiet (quiet_implement setting _) hw₆ fun tail w₇ hw₇ hext₇ => ?_
  refine safe_after_quiet (only_call trivial) hw₇ fun changed w₈ hw₈ hext₈ => ?_
  have hext₆' := extends_trans hext₄ (extends_trans hext₅ hext₆)
  have hext₈' := extends_trans hext₆' (extends_trans hext₇ hext₈)
  split
  · refine safe_to_end (only_bind ?_ fun _ => only_fail _) hw₈
    exact only_bind (only_call trivial) fun _ => only_call trivial
  · exact safe_finalize_changes hw₈ (htask.extend hext₈')

/-- The handler of `run_once` is quiet. -/
theorem quiet_once_failure (issue : Issue) (e : Raised) :
    Only Command.Quiet (onceTaskHandler issue e) := by
  cases e with
  | recoverableChangesError text => exact only_fail _
  | keyboardInterrupt => exact only_fail _
  | calledProcessError | jsonDecodeError | runtimeError | valueError | activeOrphanError
  | otherException => exact quiet_handle_task_error issue _

/-- The selection of an issue merges nothing. -/
theorem safe_next_issue {α : Type} {f : Option Issue → Controller α}
    (hw : Obedient (MergeRule setting) w)
    (hf : ∀ issue w', Obedient (MergeRule setting) w' → Extends Command.NoMerge w.2 w'.2 →
      Safe (recordedExec HandoffEntry exec) (Obedient (MergeRule setting)) (f issue) w'
        fun _ _ => True) :
    Safe (recordedExec HandoffEntry exec) (Obedient (MergeRule setting))
      (nextIssue setting >>= f) w fun _ _ => True := by
  have hnext : Only Command.NoMerge (nextIssue setting) := by
    unfold nextIssue
    refine only_bind (only_call trivial) fun issues => ?_
    cases issues with
    | nil => exact only_pure _
    | cons issue _ => exact only_ite (only_fail _) (only_pure _)
  exact safe_after_unruled hnext no_merge_rule hw hf fun _ _ _ => trivial

/-- `run_once` obeys the rule. -/
theorem safe_run_once_locked (hw : Obedient (MergeRule setting) w) (hunmerged : Unmerged w.2) :
    Safe (recordedExec HandoffEntry exec) (Obedient (MergeRule setting)) (runOnceLocked setting) w
      fun _ _ => True := by
  refine safe_after_quiet (quiet_reconcile_stale_run setting) hw fun recovery w₁ hw₁ hext₁ => ?_
  cases recovery with
  | some recovery => exact safe_to_end (quiet_recover_changes setting recovery) hw₁
  | none =>
  refine safe_after_quiet quiet_clean_tree_required hw₁ fun _ w₂ hw₂ hext₂ => ?_
  refine safe_next_issue hw₂ fun issue w₃ hw₃ hext₃ => ?_
  have hunmerged₃ : Unmerged w₃.2 :=
    hunmerged.extend (extends_trans hext₁ (extends_trans hext₂ hext₃))
  cases issue with
  | none =>
      have hidle : Only Command.NoMerge (writeStatus .idle {}) :=
        only_bind (only_call trivial) fun _ => only_call fun h => nomatch h
      exact safe_post (safe_of_unruled hidle no_merge_rule hw₃) fun _ _ _ _ => trivial
  | some issue =>
      refine safe_handle (safe_post (safe_process_issue hw₃ hunmerged₃) fun result w₄ hw₄ _ => ?_)
      cases result with
      | ok _ => trivial
      | error e => exact safe_to_end (quiet_once_failure issue e) hw₄

/-- So does a task of `run_watch`. -/
theorem safe_watch_issue {issue : Issue} (hw : Obedient (MergeRule setting) w)
    (hunmerged : Unmerged w.2) :
    Safe (recordedExec HandoffEntry exec) (Obedient (MergeRule setting)) (watchIssue setting issue)
      w fun _ _ => True := by
  refine safe_and_then (safe_post (safe_process_issue hw hunmerged) fun result w₁ hw₁ _ => ?_)
  cases result with
  | ok _ => exact safe_pure hw₁ trivial
  | error e =>
      cases e with
      | recoverableChangesError text => exact safe_raise hw₁ trivial
      | keyboardInterrupt =>
          exact safe_after_quiet (quiet_handle_task_interrupt issue) hw₁
            fun _ w₂ hw₂ _ => safe_pure hw₂ trivial
      | calledProcessError | jsonDecodeError | runtimeError | valueError | activeOrphanError
      | otherException =>
          exact safe_after_quiet (quiet_handle_task_error issue _) hw₁
            fun _ w₂ hw₂ _ => safe_pure hw₂ trivial

/-- So does the body of a round. -/
theorem safe_watch_body (hw : Obedient (MergeRule setting) w) (hunmerged : Unmerged w.2) :
    Safe (recordedExec HandoffEntry exec) (Obedient (MergeRule setting)) (watchBody setting) w
      fun _ _ => True := by
  refine safe_and_then (safe_post (safe_quiet (quiet_reconcile_stale_run setting) hw)
    fun result w₁ hw₁ hext₁ => ?_)
  cases result with
  | error e =>
      cases e with
      | activeOrphanError text =>
          exact safe_after_quiet (only_call trivial) hw₁ fun _ w₂ hw₂ _ => safe_pure hw₂ trivial
      | calledProcessError | jsonDecodeError | runtimeError | valueError | recoverableChangesError
      | otherException | keyboardInterrupt => exact safe_raise hw₁ trivial
  | ok recovery =>
  cases recovery with
  | some recovery =>
      exact safe_after_quiet (quiet_watch_recovery setting recovery) hw₁
        fun _ w₂ hw₂ _ => safe_pure hw₂ trivial
  | none =>
  refine safe_after_quiet quiet_clean_tree_required hw₁ fun _ w₂ hw₂ hext₂ => ?_
  refine safe_next_issue hw₂ fun issue w₃ hw₃ hext₃ => ?_
  have hunmerged₃ : Unmerged w₃.2 :=
    hunmerged.extend (extends_trans hext₁ (extends_trans hext₂ hext₃))
  cases issue with
  | none =>
      have hidle : Only Command.NoMerge (do
          writeStatus .idle {}
          call .sleep
          pure true : Controller Bool) :=
        only_bind (only_bind (only_call trivial) fun _ => only_call fun h => nomatch h)
          fun _ => only_bind (only_call trivial) fun _ => only_pure _
      exact safe_post (safe_of_unruled hidle no_merge_rule hw₃) fun _ _ _ _ => trivial
  | some issue => exact safe_watch_issue hw₃ hunmerged₃

/-- So does the round. -/
theorem safe_watch_round (hw : Obedient (MergeRule setting) w) (hunmerged : Unmerged w.2) :
    Safe (recordedExec HandoffEntry exec) (Obedient (MergeRule setting)) (watchRound setting) w
      fun _ _ => True := by
  have hstop : ∀ e, Only Command.NoMerge (stopWatch e) := by
    intro e
    cases e with
    | keyboardInterrupt =>
        exact only_bind (only_bind (only_call trivial) fun _ => only_call fun h => nomatch h)
          fun _ => only_pure _
    | calledProcessError | jsonDecodeError | runtimeError | valueError | recoverableChangesError
    | activeOrphanError | otherException => exact only_fail _
  have hbody : Safe (recordedExec HandoffEntry exec) (Obedient (MergeRule setting))
      ((watchBody setting).handle stopWatch) w fun _ w' => Obedient (MergeRule setting) w' := by
    refine safe_handle (safe_post (safe_watch_body hw hunmerged) fun result w₁ hw₁ _ => ?_)
    cases result with
    | ok goesOn => exact hw₁
    | error e =>
        exact safe_post (safe_of_unruled (hstop e) no_merge_rule hw₁) fun _ w₂ hw₂ _ => hw₂
  refine safe_post (safe_watch_round_of_body hbody (fun _ h => h) fun w₁ answer w₂ hw₁ hexec => ?_)
    fun _ _ _ _ => trivial
  obtain ⟨_, hrecord⟩ := hexec
  show Obeys _ w₂.2
  rw [hrecord]
  exact obeys_answered hw₁ (no_merge_rule _ _ trivial)

/-- Every entry keeps the guard. -/
theorem safe_handoff_script (entry : HandoffEntry) (hw : Obedient (MergeRule setting) w)
    (hunmerged : Unmerged w.2) :
    Safe (recordedExec HandoffEntry exec) (Obedient (MergeRule setting))
      (handoffScript setting entry) w fun _ _ => True := by
  cases entry with
  | once =>
      refine safe_after_quiet quiet_start_controller hw fun _ w₁ hw₁ hext => ?_
      refine safe_bind (safe_finally (safe_post (safe_run_once_locked hw₁ (hunmerged.extend hext))
        fun result w₂ hw₂ _ => ?_))
      refine safe_post (safe_quiet (only_call trivial) hw₂) fun released w₃ hw₃ _ => ?_
      cases released with
      | error e => trivial
      | ok _ =>
          cases result with
          | error e => trivial
          | ok _ => exact safe_pure hw₃ trivial
  | watch =>
      exact safe_after_quiet quiet_start_controller hw
        fun _ w₁ hw₁ hext => safe_watch_round hw₁ (hunmerged.extend hext)
  | watching => exact safe_watch_round hw hunmerged
  | confirm =>
      refine safe_to_end (only_bind quiet_start_controller fun _ => ?_) hw
      exact only_bind (only_finally (quiet_confirm_recorded_task setting) (only_call trivial))
        fun _ => only_pure _

end

/-- The merge guard. In every run of the controller every `gh pr merge` obeys `MergeRule`: it is the
first since `process_issue` started the task, it follows a passed review and the fetches that permit
it, and it names the reviewed commit. A recovery never merges, and `merge_reviewed_pr` returns
`merged=True` only after GitHub has reported the merge with its commit. -/
theorem merge_guard {W : Type} (setting : Setting) (around : Surroundings W) :
    (∀ w s, (controller setting around).recorded.Reaches (w, []) s →
      Obeys (MergeRule setting) s.1.2) ∧
    (∀ context, Only Command.NoMerge (recoverChanges setting context)) ∧
    Only Command.NoMerge (handoffScript setting .confirm) ∧
    ∀ number branch url head context w,
      Safe (recordedExec HandoffEntry around.exec) (fun _ => True)
        (mergeReviewedPr setting number branch url head context) w
        fun result w' => OutcomeConfirmed url head result w'.2 := by
  refine ⟨fun w s hrun => ?_, fun context => ?_, ?_, ?_⟩
  · have hstart : Obedient (MergeRule setting) (w, ([] : Journal)) := obeys_nil
    refine ScriptService.invariant_of_reaches (I := Obedient (MergeRule setting))
      (J := Obedient (MergeRule setting)) ?_ ?_ ?_ ?_ hstart hrun
    · intro entry w hw
      refine safe_post (safe_handoff_script entry (obeys_opened entry hw) ?_) fun _ _ hw' _ => hw'
      intro c hc
      cases hc
    · exact fun w hw _ => hw
    · intro w w' hw hdrift
      obtain ⟨_, hsame⟩ := hdrift
      show Obeys (MergeRule setting) w'.2
      rw [hsame]
      exact hw
    · exact fun w hw => hw
  · exact only_mono (quiet_recover_changes setting context) quiet_no_merge
  · refine only_bind (only_mono quiet_start_controller quiet_no_merge) fun _ => ?_
    refine only_bind (only_finally ?_ (only_call trivial)) fun _ => only_pure _
    exact only_mono (quiet_confirm_recorded_task setting) quiet_no_merge
  · intro number branch url head context w
    have hobedient : Obedient (fun _ _ => True) w := fun _ _ _ _ _ => trivial
    exact safe_mono (safe_merge_reviewed_pr (fun _ _ _ => trivial) hobedient
      fun _ _ _ _ => trivial) fun _ _ => trivial

/-! ## A run that merges -/

/-- The body of an issue with an assessment. -/
def sampleBody : String :=
  "## Auto-merge assessment\n\n```json\n\x7b\"risk\": \"low\", \"roadmap_authorized\": true, " ++
    "\"reversible\": true, \"production_deployment\": false, " ++
    "\"external_customer_side_effect\": false, \"stop_categories\": []\x7d\n```\n"

/-- A setting that knows this assessment. -/
def sampleSetting : Setting where
  owner := "rajeshkamalwar"
  lower text := String.ofList (text.toList.map Char.toLower)
  digest snapshot := reprStr snapshot
  parseAutoMergeAssessment body :=
    if body = sampleBody then .ok ⟨"low", true, true, false, false, []⟩
    else .error "exactly one Auto-merge assessment JSON block is required"

/-- The answers of an undisturbed run for issue 7. -/
def sampleAnswer : (c : Command) → Except Raised (Answer c)
  | .ensureTools | .ensureLabels | .acquireLock | .releaseLock | .sleep => .ok ()
  | .nowIso => .ok "2026-07-17T09:00:00+00:00"
  | .readStatus => .ok .missing
  | .writeStatus _ => .ok ()
  | .gitHead => .ok "6b1f0c2"
  | .gitHeadParent => .ok "a9d3e41"
  | .gitHeadSubject => .ok "codex: resolve issue #7"
  | .gitHeadTree => .ok "4b825dc"
  | .gitCurrentBranch => .ok "codex/issue-7-task"
  | .gitStatus => .ok []
  | .gitLsFilesStage _ => .ok ""
  | .lstat _ => .ok (.file 0o100644 "text")
  | .gitAddAll => .ok ()
  | .gitWriteTree => .ok "4b825dc"
  | .gitCommit _ | .gitPush | .gitPushUpstream _ | .gitFetchMain | .gitCheckoutMain
  | .gitPullMain => .ok ()
  | .gitBranchList _ => .ok ""
  | .gitBranchDelete _ => .ok ()
  | .gitLsRemote _ => .ok []
  | .gitCheckoutNew _ => .ok ()
  | .gitDiffNames => .ok ["README.md"]
  | .ghReadyIssues => .ok [⟨7, "task", some sampleBody, some "rajeshkamalwar"⟩]
  | .ghIssueView _ =>
      .ok (some ⟨some 7, some "task", some sampleBody, some "rajeshkamalwar", some "OPEN"⟩)
  | .ghIssueComments _ => .ok (some [])
  | .ghIssueComment _ _ | .ghAddLabel _ _ | .ghRemoveLabel _ _ => .ok ()
  | .ghPrList _ => .ok (some [])
  | .ghPrCreate _ _ _ => .ok "https://github.com/rajeshkamalwar/Growth-OS/pull/8"
  | .ghPrView url => .ok (some
      { number := some 8
        url := some url
        state := some "OPEN"
        isDraft := some false
        mergeable := some "MERGEABLE"
        baseRefName := some "main"
        headRefName := some "codex/issue-7-task"
        headRefOid := some "6b1f0c2"
        reviewDecision := some ""
        labels := some [some reviewedLabel] })
  | .ghMergeStatus _ => .ok (some ⟨some "MERGED", some "d00df00"⟩)
  | .ghReviewThreads _ => .ok (some ⟨[], false⟩)
  | .ghPrReady _ | .ghPrMerge _ _ | .ghPrAddLabel _ _ => .ok ()
  | .spawn _ => .ok 4242
  | .processGroupIdentity _ => .ok (some "4242 Fri Jul 17 09:00:00 2026")
  | .pidIsRunning _ | .processGroupIsRunning _ => .ok false
  | .releaseGate _ => .ok ()
  | .superviseChild _ => .ok ⟨[], 0, "done"⟩
  | .terminateProcessGroup _ | .terminateOrphanProcessGroup _ => .ok ()
  | .heartbeatAge _ => .ok (.seconds 1)
  | .runVerificationCommand _ => .ok 0
  | .loadReviewResult => .ok .pass

/-- The working tree has the changes of the child until they are committed. -/
def sampleTree (h : Journal) : List StatusEntry :=
  if (round h).contains (.spawn .implementing) &&
      !(round h).contains (.gitCommit (resolveSubject 7)) then [⟨" M", "README.md", none⟩]
  else []

/-- The answer to a command after a history. -/
def sampleRespond (c : Command) (w : Unit × Journal) :
    Except Raised (Answer c) × (Unit × Journal) :=
  let answer : Except Raised (Answer c) := match c with
    | .gitStatus => .ok (sampleTree w.2)
    | c => sampleAnswer c
  (answer, ((), .answered c answer :: w.2))

/-- The last command is `gh pr merge`. -/
def endsInMerge : Unit × Journal → Bool
  | (_, .answered (.ghPrMerge _ _) _ :: _) => true
  | _ => false

/-- Surroundings that answer anything. -/
def anything : Surroundings Unit where
  exec _ _ _ _ := True
  opening _ w := w
  drift _ _ := True
  mayCrash _ := True

/-- The guard on a run of `run_once` that merges the pull request of issue 7. -/
theorem merge_guard_sample :
    ∃ s, (controller sampleSetting anything).recorded.Reaches ((), []) s ∧
      endsInMerge s.1 = true ∧ Obeys (MergeRule sampleSetting) s.1.2 := by
  have hstart : (controller sampleSetting anything).recorded.Reaches ((), []) (((), []), none) :=
    .refl
  have hrun := @ScriptService.reaches_play _ _ _ _ _ (controller sampleSetting anything).recorded
    sampleRespond endsInMerge _ _ (fun _ _ => ⟨trivial, rfl⟩) hstart .once
  refine ⟨_, hrun, ?_, (merge_guard sampleSetting anything).1 _ _ hrun⟩
  decide +kernel

end GrowthOs.Handoff
