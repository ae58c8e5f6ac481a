import GrowthOs.Handoff.MergeRuns
import GrowthOs.Handoff.OperatorStop

/-!
# Interrupted tasks

Whether a task that is cut off is reconciled before another issue is selected. The world is the
status file with what has happened to the task; every command may raise, before or after its effect,
and the controller may crash at any command. `Undisturbed` and `stopsIdleTask` leave out the two
interruptions that the source does not survive, and `interrupted_tasks_reconciled` is the result for
all others.
-/

namespace GrowthOs.Handoff

open Library

/-- The record is in this state. -/
def StatusFile.hasState (file : StatusFile) (state : HandoffState) : Bool :=
  match file with
  | .record status => status.state == state
  | _ => false

/-- `reconcile_stale_run` treats the record as active. -/
def StatusFile.active : StatusFile → Bool
  | .record status => status.state.active
  | _ => false

/-- The states that end a task. -/
def HandoffState.terminal : HandoffState → Bool
  | .merged | .mergeBlocked | .failed => true
  | _ => false

/-- The status file, and what has happened: whether a task has been started and has not ended,
whether a merge has been requested whose outcome GitHub has not confirmed, whether its request was
rejected; and the two faults, an issue selected over an unfinished task and a failure recorded over
an unconfirmed merge. -/
structure TaskWorld where
  file : StatusFile
  unfinished : Bool
  unconfirmed : Bool
  rejected : Bool
  skipped : Bool
  lost : Bool
  deriving DecidableEq, Repr

/-- The world of a status file. An active record describes a task that has not ended. -/
def TaskWorld.start (file : StatusFile) : TaskWorld :=
  { file
    unfinished := file.active
    unconfirmed := false
    rejected := false
    skipped := false
    lost := false }

/-- The world after a record has been written. -/
def TaskWorld.wrote (w : TaskWorld) (status : Status) : TaskWorld :=
  { w with
    file := .record status
    unfinished := status.state == .syncing || (w.unfinished && !status.state.terminal)
    lost := w.lost || (status.state == .failed && w.unconfirmed) }

/-- The world after an issue has been selected. -/
def TaskWorld.selected (w : TaskWorld) :
    TaskWorld := { w with skipped := w.skipped || w.unfinished }

/-- The exception is the rejection of a command by `gh`. -/
def Raised.isRejection : Raised → Bool
  | .calledProcessError _ => true
  | _ => false

/-- The world after a merge has been requested. -/
def TaskWorld.requested (w : TaskWorld) (answer : Except Raised Unit) : TaskWorld :=
  { w with
    unconfirmed := true
    rejected := match answer with
      | .ok _ => false
      | .error e => e.isRejection }

/-- The status confirms the outcome of a merge request: it has merged, or it was rejected and the
pull request is still open. -/
def TaskWorld.settledBy (w : TaskWorld) (status : MergeStatus) : Bool :=
  (confirmedOutcome status).isSome || (w.rejected && status.state == some "OPEN")

/-- The world after GitHub has reported on a merge. -/
def TaskWorld.reported (w : TaskWorld) : Except Raised (Option MergeStatus) → TaskWorld
  | .ok (some status) => { w with unconfirmed := w.unconfirmed && !w.settledBy status }
  | _ => w

/-- The effect of a command that gets an answer. -/
def TaskWorld.after (w : TaskWorld) :
    (command : Command) → Except Raised (Answer command) → TaskWorld
  | .writeStatus status, _ => w.wrote status
  | .ghReadyIssues, _ => w.selected
  | .ghPrMerge _ _, answer => w.requested answer
  | .ghMergeStatus _, answer => w.reported answer
  | _, _ => w

/-- The status file is read as it is. -/
def TaskWorld.answers (w : TaskWorld) : (command : Command) → Except Raised (Answer command) → Prop
  | .readStatus, .ok file => file = w.file
  | _, _ => True

/-- A command has its effect, whether it then returns or raises, or it raises without an effect. -/
def taskExec : Exec Answer Raised TaskWorld := fun command w answer w' =>
  (w' = w.after command answer ∧ w.answers command answer) ∨ (w' = w ∧ ∃ e, answer = .error e)

/-- The surroundings of a task: it can be interrupted and crash anywhere. -/
def taskSurroundings : Surroundings TaskWorld where
  exec := taskExec
  opening _ w := w
  drift w w' := w' = w
  mayCrash _ := True

/-- The merge step goes on: no command raises, except that `gh pr merge` may be rejected, and GitHub
settles the outcome. -/
def TaskWorld.goesOn (w : TaskWorld) :
    (command : Command) → Except Raised (Answer command) → Prop
  | .ghPrMerge _ _, answer => ∀ e, answer = .error e → e.isRejection = true
  | .ghMergeStatus _, answer => ∃ status, answer = .ok (some status) ∧ w.settledBy status = true
  | _, answer => ∃ a, answer = .ok a

/-- Nothing interrupts a task whose record is `MERGING`. -/
def Undisturbed (command : Command) (w : TaskWorld) (answer : Except Raised (Answer command))
    (w' : TaskWorld) : Prop :=
  w'.file.hasState .merging = true → w.goesOn command answer

/-- A Ctrl-C reaches the handler of `run_watch`, at once or handed on by that of a recovery, only
from a record that is not active. -/
abbrev stopsIdleTask : Condition Answer Raised (Option HandoffEntry) TaskWorld :=
  StopsIdleTask fun w => w.file.active = false

/-- The surroundings whose steps all meet the condition. A crash needs a record that is not
`MERGING`. -/
def undisturbed : Surroundings TaskWorld where
  exec command w answer w' := taskExec command w answer w' ∧ Undisturbed command w answer w'
  opening _ w := w
  drift w w' := w' = w
  mayCrash w := w.file.hasState .merging = false

/-- The record of an unfinished task is active, and no fault has happened. -/
structure Reconcilable (w : TaskWorld) : Prop where
  active : w.unfinished = true → w.file.active = true
  confirmed : w.unconfirmed = false
  notSkipped : w.skipped = false
  notLost : w.lost = false

/-- The record is `MERGING`, and no fault has happened. -/
structure Merging (w : TaskWorld) : Prop where
  merging : w.file.hasState .merging = true
  notSkipped : w.skipped = false
  notLost : w.lost = false

/-- The task has ended. -/
structure Ended (w : TaskWorld) : Prop extends Reconcilable w where
  finished : w.unfinished = false

/-- The invariant of a running controller. -/
def TaskInvariant (w : TaskWorld) : Prop := Reconcilable w ∨ Merging w

variable {w w' : TaskWorld} {setting : Setting}

/-- A record that is not active describes a task that has ended. -/
theorem Reconcilable.ended (hw : Reconcilable w) (h : w.file.active = false) : Ended w := by
  refine ⟨hw, ?_⟩
  by_contra hunfinished
  have hactive := hw.active ((Bool.not_eq_false _).mp hunfinished)
  rw [h] at hactive
  cases hactive

/-- A quiet state is active or ends the task. -/
theorem quiet_state {state : HandoffState} (h : state.quiet = true) :
    state.active = true ∨ (state.terminal = true ∧ state ≠ .syncing) := by
  cases state <;> first | exact .inl rfl | exact .inr ⟨rfl, nofun⟩ | cases h

/-- A record that is active or ends the task. -/
theorem reconcilable_wrote {status : Status} (hw : Reconcilable w)
    (hstatus : status.state.active = true ∨ (status.state.terminal = true ∧
      status.state ≠ .syncing)) : Reconcilable (w.wrote status) := by
  refine ⟨fun hunfinished => ?_, hw.confirmed, hw.notSkipped, ?_⟩
  · cases hstatus with
    | inl hactive => exact hactive
    | inr hterminal =>
        have hcontinues : (status.state == .syncing || (w.unfinished && !status.state.terminal)) =
            true := hunfinished
        simp [hterminal.1, hterminal.2] at hcontinues
  · show (w.lost || (status.state == .failed && w.unconfirmed)) = false
    rw [hw.notLost, hw.confirmed]
    simp

/-- A record over a finished task. -/
theorem reconcilable_wrote_finished {status : Status} (hw : Reconcilable w)
    (hfinished : w.unfinished = false) (hstate : status.state ≠ .syncing) :
    Reconcilable (w.wrote status) := by
  refine ⟨fun hunfinished => ?_, hw.confirmed, hw.notSkipped, ?_⟩
  · have hcontinues : (status.state == .syncing || (w.unfinished && !status.state.terminal)) =
        true := hunfinished
    simp [hfinished, hstate] at hcontinues
  · show (w.lost || (status.state == .failed && w.unconfirmed)) = false
    rw [hw.notLost, hw.confirmed]
    simp

/-- Quiet commands keep the record reconcilable. -/
theorem reconcilable_quiet {c : Command} {answer : Except Raised (Answer c)} (hc : c.Quiet)
    (hw : Reconcilable w) (hexec : taskExec c w answer w') : Reconcilable w' := by
  cases hexec with
  | inr hnothing => exact hnothing.1 ▸ hw
  | inl heffect =>
      obtain ⟨rfl, _⟩ := heffect
      cases c with
      | writeStatus status => exact reconcilable_wrote hw (quiet_state hc)
      | ghReadyIssues => exact hc.elim
      | ghPrMerge url head => exact hc.elim
      | ghMergeStatus url =>
          show Reconcilable (w.reported answer)
          unfold TaskWorld.reported
          split
          · refine ⟨hw.active, ?_, hw.notSkipped, hw.notLost⟩
            show (w.unconfirmed && _) = false
            rw [hw.confirmed, Bool.false_and]
          · exact hw
      | _ => exact hw

/-- A quiet script keeps the task reconcilable. -/
theorem safe_task_quiet {α : Type} {p : Controller α} (hp : Only Command.Quiet p)
    (hw : Reconcilable w) :
    Safe undisturbed.exec TaskInvariant p w fun _ w' => Reconcilable w' :=
  safe_of_only hp (fun _ => .inl) (fun _ _ _ _ hc hw hexec => reconcilable_quiet hc hw hexec.1) hw

/-- A script after a quiet one. -/
theorem safe_task_after {α β : Type} {p : Controller β} {f : β → Controller α}
    {Q : Except Raised α → TaskWorld → Prop} (hp : Only Command.Quiet p) (hw : Reconcilable w)
    (hf : ∀ b w', Reconcilable w' → Safe undisturbed.exec TaskInvariant (f b) w' Q)
    (hQ : ∀ e w', Reconcilable w' → Q (.error e) w') :
    Safe undisturbed.exec TaskInvariant (p >>= f) w Q := by
  refine safe_bind (safe_post (safe_task_quiet hp hw) fun result w' _ hw' => ?_)
  cases result with
  | ok b => exact hf b w' hw'
  | error e => exact hQ e w' hw'

/-- Where the merge step can end: the record is reconcilable, or it is `MERGING` and the outcome of
the merge is confirmed. -/
def MergeEnded (w : TaskWorld) : Prop := Reconcilable w ∨ (Merging w ∧ w.unconfirmed = false)

/-- A record that ends the task is written whenever the merge step has ended. -/
theorem safe_write_terminal {state : HandoffState} {update : StatusUpdate}
    (hterminal : state.terminal = true) (hw : MergeEnded w) :
    Safe undisturbed.exec TaskInvariant (writeStatus state update) w
      fun _ w' => Reconcilable w' := by
  have hstate : state ≠ .syncing := by
    rintro rfl
    cases hterminal
  cases hw with
  | inl hw =>
      refine safe_task_after (only_call trivial) hw (fun file w₁ hw₁ => ?_) fun _ _ hw₁ => hw₁
      refine safe_issue (.inl hw₁) fun answer w₂ hexec => ?_
      have hw₂ : Reconcilable w₂ := by
        cases hexec.1 with
        | inl heffect => exact heffect.1 ▸ reconcilable_wrote hw₁ (.inr ⟨hterminal, hstate⟩)
        | inr hnothing => exact hnothing.1 ▸ hw₁
      exact ⟨.inl hw₂, hw₂⟩
  | inr hw =>
  obtain ⟨hmerging, hconfirmed⟩ := hw
  refine safe_bind (safe_issue (.inr hmerging) fun answer w₁ hexec => ?_)
  have hsame : w₁ = w := by
    cases hexec.1 with
    | inl heffect => exact heffect.1
    | inr hnothing => exact hnothing.1
  subst hsame
  refine ⟨.inr hmerging, ?_⟩
  obtain ⟨file, rfl⟩ := hexec.2 hmerging.merging
  refine safe_issue (.inr hmerging) fun answer w₂ hexec => ?_
  have hw₂ : Reconcilable w₂ := by
    cases hexec.1 with
    | inl heffect =>
        rw [heffect.1]
        refine ⟨fun hunfinished => ?_, hconfirmed, hmerging.notSkipped, ?_⟩
        · have hcontinues : (state == .syncing || (w₁.unfinished && !state.terminal)) = true :=
            hunfinished
          simp [hterminal, hstate] at hcontinues
        · show (w₁.lost || (state == .failed && w₁.unconfirmed)) = false
          rw [hmerging.notLost, hconfirmed]
          simp
    | inr hnothing =>
        -- Without its effect the write leaves the record `MERGING`, so it has not raised.
        obtain ⟨rfl, e, rfl⟩ := hnothing
        obtain ⟨_, hanswer⟩ := hexec.2 hmerging.merging
        cases hanswer
  exact ⟨.inl hw₂, hw₂⟩

/-- `MERGING` is written, or the task stays reconcilable. -/
theorem safe_write_merging {update : StatusUpdate} (hw : Reconcilable w) :
    Safe undisturbed.exec TaskInvariant (writeStatus .merging update) w
      fun result w' => match result with
        | .ok _ => Merging w'
        | .error _ => Reconcilable w' := by
  refine safe_task_after (only_call trivial) hw (fun file w₁ hw₁ => ?_) fun _ _ hw₁ => hw₁
  refine safe_issue (.inl hw₁) fun answer w₂ hexec => ?_
  cases hexec.1 with
  | inl heffect =>
      obtain ⟨rfl, _⟩ := heffect
      have hmerging : Merging (w₁.wrote (update.payload .merging file.previous)) := by
        refine ⟨rfl, hw₁.notSkipped, ?_⟩
        show (w₁.lost || (HandoffState.merging == .failed && w₁.unconfirmed)) = false
        rw [hw₁.notLost]
        rfl
      obtain ⟨_, rfl⟩ := hexec.2 rfl
      exact ⟨.inr hmerging, hmerging⟩
  | inr hnothing =>
      obtain ⟨rfl, e, rfl⟩ := hnothing
      exact ⟨.inl hw₁, hw₁⟩

/-- `_merge_status` of a record that is `MERGING`: GitHub settles the outcome. -/
theorem safe_task_merge_status {url : String} (hw : Merging w) :
    Safe undisturbed.exec TaskInvariant (mergeStatus url) w
      fun result w' => ∃ status, result = .ok status ∧ w.settledBy status = true ∧ Merging w' ∧
        w'.unconfirmed = false := by
  refine safe_bind (safe_issue (.inr hw) fun answer w₁ hexec => ?_)
  have hfile : w₁.file = w.file := by
    cases hexec.1 with
    | inl heffect =>
        rw [heffect.1]
        show (w.reported answer).file = w.file
        unfold TaskWorld.reported
        split <;> rfl
    | inr hnothing => rw [hnothing.1]
  have hmerging : w₁.file.hasState .merging = true := hfile ▸ hw.merging
  obtain ⟨status, rfl, hsettled⟩ := hexec.2 hmerging
  cases hexec.1 with
  | inr hnothing =>
      obtain ⟨_, _, hanswer⟩ := hnothing
      cases hanswer
  | inl heffect =>
      obtain ⟨rfl, _⟩ := heffect
      have hw₁ : Merging (w.after (.ghMergeStatus url) (.ok (some status))) :=
        ⟨hmerging, hw.notSkipped, hw.notLost⟩
      refine ⟨.inr hw₁, safe_pure (.inr hw₁) ⟨status, rfl, hsettled, hw₁, ?_⟩⟩
      show (w.unconfirmed && !w.settledBy status) = false
      rw [hsettled]
      simp

/-- In the merge step the merge ends with an outcome that is confirmed. -/
theorem safe_task_exact_head_merge {url head : String} (hw : Merging w) :
    Safe undisturbed.exec TaskInvariant (exactHeadMerge url head) w
      fun result w' => ∃ outcome, result = .ok outcome ∧ Merging w' ∧ w'.unconfirmed = false := by
  refine safe_and_then (safe_issue (.inr hw) fun answer w₁ hexec => ?_)
  have hw₁ : Merging w₁ ∧ ∀ a, answer = .ok a → w₁.rejected = false := by
    cases hexec.1 with
    | inl heffect =>
        obtain ⟨rfl, _⟩ := heffect
        refine ⟨⟨hw.merging, hw.notSkipped, hw.notLost⟩, ?_⟩
        rintro a rfl
        rfl
    | inr hnothing =>
        obtain ⟨rfl, e, rfl⟩ := hnothing
        exact ⟨hw, nofun⟩
  obtain ⟨hw₁, haccepted⟩ := hw₁
  refine ⟨.inr hw₁, ?_⟩
  -- In the merge step a command that raises is a merge that GitHub rejects.
  have hrejection := hexec.2 hw₁.merging
  cases answer with
  | ok a =>
      refine safe_bind (safe_post (safe_task_merge_status hw₁) fun result w₂ hI hstatus => ?_)
      obtain ⟨status, rfl, hsettled, hw₂, hconfirmed⟩ := hstatus
      have hsome : (confirmedOutcome status).isSome = true := by
        unfold TaskWorld.settledBy at hsettled
        rw [haccepted a rfl, Bool.false_and, Bool.or_false] at hsettled
        exact hsettled
      obtain ⟨outcome, houtcome⟩ := Option.isSome_iff_exists.mp hsome
      simp only [houtcome]
      exact safe_pure hI ⟨outcome, rfl, hw₂, hconfirmed⟩
  | error e =>
      cases e with
      | calledProcessError text =>
          refine safe_bind (safe_handle (safe_post (safe_task_merge_status hw₁)
            fun result w₂ hI hstatus => ?_))
          obtain ⟨status, rfl, hsettled, hw₂, hconfirmed⟩ := hstatus
          show Safe _ _ (if status.state = some "OPEN" then _ else _) w₂ _
          split
          · exact safe_pure hI ⟨_, rfl, hw₂, hconfirmed⟩
          · rename_i hclosed
            have hsome : (confirmedOutcome status).isSome = true := by
              unfold TaskWorld.settledBy at hsettled
              rw [beq_eq_false_iff_ne.mpr hclosed, Bool.and_false, Bool.or_false] at hsettled
              exact hsettled
            obtain ⟨outcome, houtcome⟩ := Option.isSome_iff_exists.mp hsome
            simp only [houtcome]
            exact safe_pure hI ⟨outcome, rfl, hw₂, hconfirmed⟩
      | jsonDecodeError | runtimeError | valueError | recoverableChangesError | activeOrphanError
      | otherException | keyboardInterrupt => exact absurd (hrejection _ rfl) Bool.false_ne_true

/-- So does `merge_reviewed_pr`, unless it stops before the step. -/
theorem safe_task_merge_reviewed_pr {number : Int} {branch url head : String}
    {context : StatusContext} (hw : Reconcilable w) :
    Safe undisturbed.exec TaskInvariant (mergeReviewedPr setting number branch url head context) w
      fun result w' => match result with
        | .ok _ => MergeEnded w'
        | .error _ => Reconcilable w' := by
  refine safe_task_after (only_call trivial) hw (fun names w₁ hw₁ => ?_) fun _ _ hw₁ => hw₁
  refine safe_task_after (only_first_merge_reasons setting trivial trivial fun _ => trivial) hw₁
    (fun first w₂ hw₂ => ?_) fun _ _ hw₂ => hw₂
  show Safe _ _ (if first.1 ≠ [] then _ else _) w₂ _
  split
  · exact safe_pure (.inl hw₂) (.inl hw₂)
  · refine safe_task_after (only_ite (only_call trivial) (only_pure ())) hw₂ (fun _ w₃ hw₃ => ?_)
      fun _ _ hw₃ => hw₃
    refine safe_task_after (only_final_merge_reasons setting trivial trivial fun _ => trivial) hw₃
      (fun reasons w₄ hw₄ => ?_) fun _ _ hw₄ => hw₄
    split
    · exact safe_pure (.inl hw₄) (.inl hw₄)
    · refine safe_bind (safe_post (safe_write_merging hw₄) fun result w₅ _ hw₅ => ?_)
      cases result with
      | error e => exact hw₅
      | ok _ =>
      refine safe_post (safe_task_exact_head_merge hw₅) fun result w₆ _ hended => ?_
      obtain ⟨outcome, rfl, hended⟩ := hended
      exact .inr hended

/-- The record of the outcome leaves the task reconcilable. -/
theorem safe_task_record_outcome {context : StatusContext} {url : String} {outcome : MergeOutcome}
    (hw : MergeEnded w) :
    Safe undisturbed.exec TaskInvariant (recordOutcome context url outcome) w
      fun _ w' => Reconcilable w' := by
  have hwritten : ∀ {state : HandoffState} {update : StatusUpdate} {event text name : String},
      state.terminal = true →
      Safe undisturbed.exec TaskInvariant (do
        writeStatus state update
        commentOnce context.issue event text
        addLabel context.issue name) w fun _ w' => Reconcilable w' := by
    intro state update event text name hterminal
    refine safe_bind (safe_post (safe_write_terminal hterminal hw) fun result w₁ hI hw₁ => ?_)
    cases result with
    | error e => exact hw₁
    | ok _ =>
        exact safe_task_quiet (only_bind (quiet_comment_once _ _ _) fun _ => quiet_add_label _ _)
          hw₁
  have hrecorded : Safe undisturbed.exec TaskInvariant
      (if outcome.merged then recordMerged context url outcome.sha
        else recordBlocked context url outcome.reasons) w fun _ w' => Reconcilable w' := by
    split
    · exact hwritten rfl
    · exact hwritten rfl
  refine safe_bind (safe_post hrecorded fun result w₁ _ hw₁ => ?_)
  cases result with
  | error e => exact hw₁
  | ok _ => exact safe_task_quiet (quiet_replace_label _ _ _) hw₁

/-- So does `finalize_changes`. -/
theorem safe_task_finalize_changes {title : String} {context : StatusContext}
    (hw : Reconcilable w) :
    Safe undisturbed.exec TaskInvariant (finalizeChanges setting title context true false) w
      fun _ w' => Reconcilable w' := by
  refine safe_task_after (quiet_recovered_status false) hw (fun status w₁ hw₁ => ?_)
    fun _ _ hw => hw
  refine safe_task_after (only_pure ()) hw₁ (fun _ w₂ hw₂ => ?_) fun _ _ hw => hw
  refine safe_task_after (quiet_run_verification context 1) hw₂ (fun _ w₃ hw₃ => ?_)
    fun _ _ hw => hw
  refine safe_task_after (only_pure ()) hw₃ (fun _ w₄ hw₄ => ?_) fun _ _ hw => hw
  refine safe_task_after (quiet_ensure_commit setting context _ _) hw₄ (fun commit w₅ hw₅ => ?_)
    fun _ _ hw => hw
  refine safe_task_after (quiet_ensure_push context commit _) hw₅ (fun _ w₆ hw₆ => ?_)
    fun _ _ hw => hw
  refine safe_task_after (quiet_ensure_draft_pr title context _ _ _) hw₆ (fun url w₇ hw₇ => ?_)
    fun _ _ hw => hw
  refine safe_task_after (quiet_write rfl) hw₇ (fun _ w₈ hw₈ => ?_) fun _ _ hw => hw
  refine safe_task_after (quiet_comment_once _ _ _) hw₈ (fun _ w₉ hw₉ => ?_) fun _ _ hw => hw
  -- The review, and then the merge step.
  refine safe_task_after (quiet_review_rounds setting context _) hw₉ (fun _ w₁₀ hw₁₀ => ?_)
    fun _ _ hw => hw
  refine safe_task_after (quiet_record_review_passed context url) hw₁₀ (fun _ w₁₁ hw₁₁ => ?_)
    fun _ _ hw => hw
  refine safe_task_after (only_call trivial) hw₁₁ (fun head w₁₂ hw₁₂ => ?_) fun _ _ hw => hw
  split
  · exact safe_raise (.inl hw₁₂) hw₁₂
  · refine safe_bind (safe_post (safe_task_merge_reviewed_pr hw₁₂) fun result w₁₃ _ hended => ?_)
    cases result with
    | error e => exact hended
    | ok outcome => exact safe_task_record_outcome hended

/-- So does `process_issue`. -/
theorem safe_task_process_issue {issue : Issue} (hw : Reconcilable w) :
    Safe undisturbed.exec TaskInvariant (processIssue setting issue) w
      fun _ w' => Reconcilable w' := by
  refine safe_task_after (only_call trivial) hw (fun startedAt w₁ hw₁ => ?_) fun _ _ hw => hw
  refine safe_task_after (quiet_write rfl) hw₁ (fun _ w₂ hw₂ => ?_) fun _ _ hw => hw
  refine safe_task_after (quiet_replace_label _ _ _) hw₂ (fun _ w₃ hw₃ => ?_) fun _ _ hw => hw
  refine safe_task_after (only_call trivial) hw₃ (fun _ w₄ hw₄ => ?_) fun _ _ hw => hw
  refine safe_task_after (quiet_prepare_task_branch _) hw₄ (fun _ w₅ hw₅ => ?_) fun _ _ hw => hw
  refine safe_task_after (quiet_implement setting _) hw₅ (fun tail w₆ hw₆ => ?_) fun _ _ hw => hw
  refine safe_task_after (only_call trivial) hw₆ (fun changed w₇ hw₇ => ?_) fun _ _ hw => hw
  split
  · refine safe_task_quiet (only_bind ?_ fun _ => only_fail _) hw₇
    exact only_bind (only_call trivial) fun _ => only_call trivial
  · exact safe_task_finalize_changes hw₇

/-! ## Runs -/

/-- `reconcile_stale_run` passes only over a task that has ended. -/
theorem safe_task_reconcile (hw : Reconcilable w) :
    Safe undisturbed.exec TaskInvariant (reconcileStaleRun setting) w
      fun result w' => Reconcilable w' ∧ (result = .ok none → Ended w') := by
  refine safe_bind (safe_issue (.inl hw) fun answer w₁ hexec => ?_)
  have hsame : w₁ = w := by
    cases hexec.1 with
    | inl heffect => exact heffect.1
    | inr hnothing => exact hnothing.1
  subst hsame
  refine ⟨.inl hw, ?_⟩
  cases answer with
  | error e => exact ⟨hw, nofun⟩
  | ok file =>
  have hfile : file = w₁.file := by
    cases hexec.1 with
    | inl heffect => exact heffect.2
    | inr hnothing =>
        obtain ⟨_, _, hanswer⟩ := hnothing
        cases hanswer
  cases file with
  | missing => exact safe_pure (.inl hw) ⟨hw, fun _ => hw.ended (hfile ▸ rfl)⟩
  | unreadable => exact safe_raise (.inl hw) ⟨hw, nofun⟩
  | record status =>
  show Safe _ _ (if !status.state.active then _ else _) w₁ _
  split
  · rename_i hinactive
    refine safe_pure (.inl hw) ⟨hw, fun _ => hw.ended ?_⟩
    rw [← hfile]
    exact (Bool.not_eq_true' _).mp hinactive
  · cases status.context with
    | none => exact safe_raise (.inl hw) ⟨hw, nofun⟩
    | some context =>
        refine safe_bind (safe_post (safe_task_quiet (quiet_reconcile_task setting status context)
          hw) fun result w₂ hI hw₂ => ?_)
        cases result with
        | error e => exact ⟨hw₂, nofun⟩
        | ok recovered => exact safe_pure hI ⟨hw₂, nofun⟩

/-- A command that leaves the task as it is. -/
theorem same_task {c : Command} {answer : Except Raised (Answer c)}
    (hsame : ∀ answer, w.after c answer = w) (hexec : taskExec c w answer w') : w' = w := by
  cases hexec with
  | inl heffect => rw [heffect.1, hsame]
  | inr hnothing => exact hnothing.1

/-- `next_issue` after `reconcile_stale_run` has passed. -/
theorem safe_task_next_issue (hw : Ended w) :
    Safe undisturbed.exec TaskInvariant (nextIssue setting) w fun _ w' => Ended w' := by
  refine safe_bind (safe_issue (.inl hw.toReconcilable) fun answer w₁ hexec => ?_)
  have hw₁ : Ended w₁ := by
    cases hexec.1 with
    | inl heffect =>
        rw [heffect.1]
        refine ⟨⟨hw.active, hw.confirmed, ?_, hw.notLost⟩, hw.finished⟩
        show (w.skipped || w.unfinished) = false
        rw [hw.notSkipped, hw.finished, Bool.or_false]
    | inr hnothing => exact hnothing.1 ▸ hw
  refine ⟨.inl hw₁.toReconcilable, ?_⟩
  cases answer with
  | error e => exact hw₁
  | ok issues =>
      cases issues with
      | nil => exact safe_pure (.inl hw₁.toReconcilable) hw₁
      | cons issue _ =>
          show Safe _ _ (if _ then _ else _) w₁ _
          split
          · exact safe_raise (.inl hw₁.toReconcilable) hw₁
          · exact safe_pure (.inl hw₁.toReconcilable) hw₁

/-- `clean_tree_required`. -/
theorem safe_task_clean_tree (hw : Ended w) :
    Safe undisturbed.exec TaskInvariant cleanTreeRequired w fun _ w' => Ended w' := by
  refine safe_bind (safe_issue (.inl hw.toReconcilable) fun answer w₁ hexec => ?_)
  obtain rfl : w₁ = w := same_task (fun _ => rfl) hexec.1
  refine ⟨.inl hw.toReconcilable, ?_⟩
  cases answer with
  | error e => exact hw
  | ok entries =>
      show Safe _ _ (if _ then _ else _) w₁ _
      split
      · exact safe_raise (.inl hw.toReconcilable) hw
      · exact safe_pure (.inl hw.toReconcilable) hw

/-- `IDLE` and `STOPPED` are written over a task that has ended. -/
theorem safe_task_write_finished {state : HandoffState} (hstate : state ≠ .syncing) (hw : Ended w) :
    Safe undisturbed.exec TaskInvariant (writeStatus state {}) w fun _ w' => Ended w' := by
  refine safe_bind (safe_issue (.inl hw.toReconcilable) fun answer w₁ hexec => ?_)
  obtain rfl : w₁ = w := same_task (fun _ => rfl) hexec.1
  refine ⟨.inl hw.toReconcilable, ?_⟩
  cases answer with
  | error e => exact hw
  | ok file =>
  refine safe_issue (.inl hw.toReconcilable) fun answer w₂ hexec => ?_
  have hw₂ : Ended w₂ := by
    cases hexec.1 with
    | inr hnothing => exact hnothing.1 ▸ hw
    | inl heffect =>
        rw [heffect.1]
        refine ⟨reconcilable_wrote_finished hw.toReconcilable hw.finished hstate, ?_⟩
        show (state == .syncing || (w₁.unfinished && !state.terminal)) = false
        rw [hw.finished, beq_eq_false_iff_ne.mpr hstate]
        rfl
  exact ⟨.inl hw₂.toReconcilable, hw₂⟩

/-- The wait of the loop of `run_watch`. -/
theorem safe_task_wait (hw : Ended w) :
    Safe undisturbed.exec TaskInvariant (do
      call .sleep
      pure true : Controller Bool) w fun _ w' => Ended w' := by
  refine safe_bind (safe_issue (.inl hw.toReconcilable) fun answer w₁ hexec => ?_)
  obtain rfl : w₁ = w := same_task (fun _ => rfl) hexec.1
  refine ⟨.inl hw.toReconcilable, ?_⟩
  cases answer with
  | error e => exact hw
  | ok _ => exact safe_pure (.inl hw.toReconcilable) hw

/-- `run_once` while it holds the lock. -/
theorem safe_task_once (hw : Reconcilable w) :
    Safe undisturbed.exec TaskInvariant (runOnceLocked setting) w fun _ w' => Reconcilable w' := by
  refine safe_bind (safe_post (safe_task_reconcile hw) fun result w₁ _ hreconciled => ?_)
  obtain ⟨hw₁, hpassed⟩ := hreconciled
  cases result with
  | error e => exact hw₁
  | ok recovery =>
  cases recovery with
  | some recovery => exact safe_task_quiet (quiet_recover_changes setting recovery) hw₁
  | none =>
  refine safe_bind (safe_post (safe_task_clean_tree (hpassed rfl)) fun result w₂ _ hw₂ => ?_)
  cases result with
  | error e => exact hw₂.toReconcilable
  | ok _ =>
  refine safe_bind (safe_post (safe_task_next_issue hw₂) fun result w₃ _ hw₃ => ?_)
  cases result with
  | error e => exact hw₃.toReconcilable
  | ok issue =>
  cases issue with
  | none =>
      exact safe_post (safe_task_write_finished nofun hw₃) fun _ _ _ hw₄ => hw₄.toReconcilable
  | some issue =>
      refine safe_handle (safe_post (safe_task_process_issue hw₃.toReconcilable)
        fun result w₄ _ hw₄ => ?_)
      cases result with
      | ok _ => exact hw₄
      | error e => exact safe_task_quiet (quiet_once_failure issue e) hw₄

/-- A script of the loop that ends a task. -/
theorem Ended.stopsAt {α : Type} {result : Except Raised α} (hw : Ended w) :
    StopsAt Reconcilable Ended result w := ⟨hw.toReconcilable, fun _ => hw⟩

/-- A script of the loop that leaves a Ctrl-C to the condition. -/
theorem stops_at_of_idle {α : Type} {result : Except Raised α}
    (h : StopsAt Reconcilable (fun w => w.file.active = false) result w) :
    StopsAt Reconcilable Ended result w := ⟨h.1, fun hresult => h.1.ended (h.2 hresult)⟩

/-- The recovery that the loop of `run_watch` resumes. -/
theorem safe_task_watch_recovery {recovery : StatusContext} (hw : Reconcilable w) :
    SafeUnder undisturbed.exec (inRound stopsIdleTask) TaskInvariant (do
      watchRecovery setting recovery
      pure true : Controller Bool) w (StopsAt Reconcilable Ended) := by
  have hended : ∀ {e : Raised} {w : TaskWorld}, e ≠ .keyboardInterrupt → Reconcilable w →
      StopsAt Reconcilable Ended (.error e : Except Raised Bool) w :=
    fun he hw => ⟨hw, fun hresult => absurd (Except.error.inj hresult) he⟩
  show SafeUnder _ _ _ (((recoverChanges setting recovery).andThen _).andThen _) w _
  rw [Script.and_then_assoc]
  refine safe_under_and_then (safe_under_of_safe (safe_post (safe_task_quiet
    (quiet_recover_changes setting recovery) hw) fun result w₁ hI hw₁ => ?_))
  cases result with
  | ok _ => exact ⟨hI, hw₁, nofun⟩
  | error e =>
      cases e with
      | keyboardInterrupt =>
          refine safe_under_post (safe_under_handle_recovery_interrupt 
            (safe_task_quiet (only_bind ?_ fun _ => only_pure true) hw₁))
            fun _ _ _ hw₂ => stops_at_of_idle hw₂
          exact quiet_handle_recovery_interrupt recovery
      | calledProcessError | jsonDecodeError | runtimeError | valueError | recoverableChangesError
      | activeOrphanError | otherException => exact ⟨hI, hended nofun hw₁⟩

/-- `process_issue` in the loop of `run_watch`. -/
theorem safe_task_watch_issue {issue : Issue} (hw : Reconcilable w) :
    SafeUnder undisturbed.exec (inRound stopsIdleTask) TaskInvariant (watchIssue setting issue) w
      (StopsAt Reconcilable Ended) := by
  -- What the handlers hand on is bounded by the condition.
  have hhandled : ∀ {p : Controller Unit} {w : TaskWorld}, PassesStop p → Only Command.Quiet p →
      Reconcilable w → SafeUnder undisturbed.exec (inRound stopsIdleTask) TaskInvariant (do
        p
        pure false : Controller Bool) w (StopsAt Reconcilable Ended) := by
    intro p w hpasses hquiet hw
    exact safe_under_post (safe_under_of_passes (passes_bind hpasses fun _ => passes_pure _ _)
      (safe_task_quiet (only_bind hquiet fun _ => only_pure false) hw) bounds_stops_idle_task)
      fun _ _ _ hw₁ => stops_at_of_idle hw₁
  refine safe_under_and_then (safe_under_of_safe (safe_post (safe_task_process_issue hw)
    fun result w₁ hI hw₁ => ?_))
  cases result with
  | ok _ => exact ⟨hI, hw₁, nofun⟩
  | error e =>
      cases e with
      | recoverableChangesError text => exact ⟨hI, hw₁, nofun⟩
      | keyboardInterrupt =>
          exact hhandled (passes_handle_task_interrupt issue)
            (quiet_handle_task_interrupt issue) hw₁
      | calledProcessError | jsonDecodeError | runtimeError | valueError | activeOrphanError
      | otherException =>
          exact hhandled (passes_handle_task_error issue nofun)
            (quiet_handle_task_error issue _) hw₁

/-- Under the condition a Ctrl-C that the body of the loop hands on leaves no unfinished task. -/
theorem safe_task_watch_body (hw : Reconcilable w) :
    SafeUnder undisturbed.exec (inRound stopsIdleTask) TaskInvariant (watchBody setting) w
      (StopsAt Reconcilable Ended) := by
  refine safe_under_and_then (safe_under_post
    (safe_under_of_passes (passes_reconcile_stale_run setting)
    (safe_task_reconcile hw) (bounds_before bounds_stops_idle_task rfl)) fun result w₁ hI hw₁ => ?_)
  obtain ⟨⟨hw₁, hpassed⟩, hstop⟩ := hw₁
  cases result with
  | error e =>
      cases e with
      | activeOrphanError text =>
          refine safe_under_post (safe_under_of_passes (passes_bind (passes_call _) fun _ =>
            passes_pure _ _) (safe_task_quiet (only_bind (only_call trivial)
              fun _ => only_pure true) hw₁) bounds_stops_idle_task) fun _ _ _ hw₂ => ?_
          exact stops_at_of_idle hw₂
      | keyboardInterrupt => exact ⟨hI, hw₁, fun _ => hw₁.ended (hstop rfl)⟩
      | calledProcessError | jsonDecodeError | runtimeError | valueError | recoverableChangesError
      | otherException => exact ⟨hI, hw₁, nofun⟩
  | ok recovery =>
  cases recovery with
  | some recovery => exact safe_task_watch_recovery hw₁
  | none =>
  refine safe_under_and_then (safe_under_of_safe (safe_post (safe_task_clean_tree (hpassed rfl))
    fun result w₂ hI hw₂ => ?_))
  cases result with
  | error e => exact ⟨hI, hw₂.stopsAt⟩
  | ok _ =>
  refine safe_under_and_then (safe_under_of_safe (safe_post (safe_task_next_issue hw₂)
    fun result w₃ hI hw₃ => ?_))
  cases result with
  | error e => exact ⟨hI, hw₃.stopsAt⟩
  | ok issue =>
  cases issue with
  | some issue => exact safe_task_watch_issue hw₃.toReconcilable
  | none =>
  refine safe_under_and_then (safe_under_of_safe (safe_post (safe_task_write_finished nofun hw₃)
    fun result w₄ hI hw₄ => ?_))
  cases result with
  | error e => exact ⟨hI, hw₄.stopsAt⟩
  | ok _ =>
      exact safe_under_of_safe (safe_post (safe_task_wait hw₄) fun _ _ _ hw₅ => hw₅.stopsAt)

/-- A round of the loop of `run_watch`, under the condition. -/
theorem safe_task_watch_round (hw : Reconcilable w) :
    SafeUnder undisturbed.exec stopsIdleTask TaskInvariant (watchRound setting) w
      fun _ w' => Reconcilable w' := by
  refine safe_under_watch_round (safe_task_watch_body hw) (fun w hw => ?_) (fun _ => .inl)
    fun _ _ _ hw₁ hexec =>
      reconcilable_quiet (show Command.Quiet .releaseLock from trivial) hw₁ hexec.1
  refine safe_bind (safe_post (safe_task_write_finished nofun hw) fun result w₁ hI hw₁ => ?_)
  cases result with
  | error e => exact hw₁.toReconcilable
  | ok _ => exact safe_pure hI hw₁.toReconcilable

/-- Every entry of the controller keeps the record of an unfinished task reconcilable. -/
theorem safe_task_script (entry : HandoffEntry) (hw : Reconcilable w) :
    SafeUnder undisturbed.exec stopsIdleTask TaskInvariant (handoffScript setting entry) w
      fun _ w' => Reconcilable w' := by
  cases entry with
  | once =>
      refine safe_under_of_safe (safe_task_after quiet_start_controller hw (fun _ w₁ hw₁ => ?_)
        fun _ _ hw => hw)
      refine safe_bind (safe_finally (safe_post (safe_task_once hw₁) fun result w₂ _ hw₂ => ?_))
      refine safe_post (safe_task_quiet (only_call trivial) hw₂) fun released w₃ hI hw₃ => ?_
      cases released with
      | error e => exact hw₃
      | ok _ =>
          cases result with
          | error e => exact hw₃
          | ok _ => exact safe_pure hI hw₃
  | watch =>
      refine safe_under_and_then (safe_under_of_safe (safe_post
        (safe_task_quiet quiet_start_controller hw) fun result w₁ hI hw₁ => ?_))
      cases result with
      | error e => exact ⟨hI, hw₁⟩
      | ok _ => exact safe_task_watch_round hw₁
  | watching => exact safe_task_watch_round hw
  | confirm =>
      refine safe_under_of_safe (safe_task_quiet (only_bind quiet_start_controller fun _ => ?_) hw)
      exact only_bind (only_finally (quiet_confirm_recorded_task setting) (only_call trivial))
        fun _ => only_pure _

/-- In every run that is undisturbed and in which a Ctrl-C reaches the handler of `run_watch` only
from a record that is not active, from any status file: an issue is selected only when the task
before it has ended, and no failure is recorded over an unconfirmed merge. -/
theorem interrupted_tasks_reconciled (setting : Setting) (file : StatusFile)
    {s : ScriptService.Running Command Answer Raised HandoffEntry TaskWorld}
    (hrun : (controller setting undisturbed).ReachesUnder stopsIdleTask (.start file) s) :
    s.1.skipped = false ∧ s.1.lost = false := by
  have hstart : Reconcilable (.start file) := ⟨id, rfl, rfl, rfl⟩
  have hinvariant : TaskInvariant s.1 := by
    refine ScriptService.invariant_of_reaches_under (I := TaskInvariant) (J := Reconcilable)
      ?_ ?_ ?_ ?_ hstart hrun
    · exact fun entry w hw => safe_task_script entry hw
    · intro w hw hcrash
      cases hw with
      | inl hw => exact hw
      | inr hmerging =>
          have hnot : w.file.hasState .merging = false := hcrash
          rw [hmerging.merging] at hnot
          cases hnot
    · intro w w' hw hdrift
      have hsame : w' = w := hdrift
      exact hsame ▸ hw
    · exact fun w hw => .inl hw
  cases hinvariant with
  | inl hw => exact ⟨hw.notSkipped, hw.notLost⟩
  | inr hw => exact ⟨hw.notSkipped, hw.notLost⟩

/-- The tree is dirty from the implementation to the commit. -/
def StatusFile.sampleTree (file : StatusFile) : List StatusEntry :=
  if file.hasState .implementing || file.hasState .verifying then [⟨" M", "README.md", none⟩]
  else []

/-- The answer to a command in a world. -/
def sampleTaskAnswer (w : TaskWorld) (c : Command) : Except Raised (Answer c) :=
  match c with
  | .readStatus => .ok w.file
  | .gitStatus => .ok w.file.sampleTree
  | c => sampleAnswer c

/-- The sample answers tell the truth. -/
theorem sample_task_answers (w : TaskWorld) (c : Command) :
    w.answers c (sampleTaskAnswer w c) := by
  cases c with
  | readStatus => rfl
  | _ => trivial

/-- The same answers, but GitHub does not tell what has become of the merge request. -/
def silentTaskAnswer (w : TaskWorld) (c : Command) : Except Raised (Answer c) :=
  match c with
  | .ghMergeStatus _ => .error (.calledProcessError "gh: connection timed out")
  | c => sampleTaskAnswer w c

/-- So do those of an outage. -/
theorem silent_task_answers (w : TaskWorld) (c : Command) :
    w.answers c (silentTaskAnswer w c) := by
  cases c with
  | readStatus => rfl
  | _ => trivial

/-- A crash at `MERGING` is passed over by the next run, and an unconfirmed merge is recorded as
`FAILED`. -/
theorem merging_not_reconciled :
    (∃ s, (controller sampleSetting taskSurroundings).Reaches (.start .missing) s ∧
      s.1.skipped = true) ∧
    ∃ s, (controller sampleSetting taskSurroundings).Reaches (.start .missing) s ∧
      s.1.lost = true := by
  have hstart : (controller sampleSetting taskSurroundings).Reaches (.start .missing)
      (.start .missing, none) := .refl
  refine ⟨?_, ?_⟩
  · have hcut := @ScriptService.reaches_play _ _ _ _ _ (controller sampleSetting taskSurroundings)
      (fun c w => (sampleTaskAnswer w c, w.after c (sampleTaskAnswer w c)))
      (fun w => w.file.hasState .merging) _ _
      (fun c w => .inl ⟨rfl, sample_task_answers w c⟩) hstart .once
    have hcrashed := Relation.ReflTransGen.tail hcut (.crash trivial)
    have hnext := @ScriptService.reaches_play _ _ _ _ _ (controller sampleSetting taskSurroundings)
      (fun c w => (sampleTaskAnswer w c, w.after c (sampleTaskAnswer w c))) (fun w => w.skipped) _ _
      (fun c w => .inl ⟨rfl, sample_task_answers w c⟩) hcrashed .once
    refine ⟨_, hnext, ?_⟩
    decide +kernel
  · have hrun := @ScriptService.reaches_play _ _ _ _ _ (controller sampleSetting taskSurroundings)
      (fun c w => (silentTaskAnswer w c, w.after c (silentTaskAnswer w c))) (fun w => w.lost) _ _
      (fun c w => .inl ⟨rfl, silent_task_answers w c⟩) hstart .once
    refine ⟨_, hrun, ?_⟩
    decide +kernel

/-- The answers of an undisturbed run: one issue is ready, and the wait for the next one is
interrupted. -/
def undisturbedRespond (c : Command) (w : TaskWorld) : Except Raised (Answer c) × TaskWorld :=
  match c with
  | .ghReadyIssues =>
      if w.file = .missing then (sampleTaskAnswer w .ghReadyIssues, w.selected)
      else (.ok [], w.selected)
  | .sleep => if w.file.hasState .idle then (.error .keyboardInterrupt, w) else (.ok (), w)
  | c => (sampleTaskAnswer w c, w.after c (sampleTaskAnswer w c))

/-- They are undisturbed. -/
theorem undisturbed_respond (c : Command) (w : TaskWorld) :
    undisturbed.exec c w (undisturbedRespond c w).1 (undisturbedRespond c w).2 := by
  cases c with
  | ghReadyIssues =>
      unfold undisturbedRespond
      dsimp only
      split
      · exact ⟨.inl ⟨rfl, trivial⟩, fun _ => ⟨_, rfl⟩⟩
      · exact ⟨.inl ⟨rfl, trivial⟩, fun _ => ⟨_, rfl⟩⟩
  | sleep =>
      unfold undisturbedRespond
      dsimp only
      split
      · rename_i hidle
        refine ⟨.inr ⟨rfl, _, rfl⟩, fun hmerging => ?_⟩
        cases hfile : w.file with
        | missing | unreadable => simp [hfile, StatusFile.hasState] at hidle
        | record status =>
            simp only [hfile, StatusFile.hasState, beq_iff_eq] at hidle hmerging
            rw [hidle] at hmerging
            cases hmerging
      · exact ⟨.inl ⟨rfl, trivial⟩, fun _ => ⟨_, rfl⟩⟩
  | ghPrMerge url head => exact ⟨.inl ⟨rfl, trivial⟩, fun _ => nofun⟩
  | ghMergeStatus url =>
      exact ⟨.inl ⟨rfl, trivial⟩, fun _ => ⟨⟨some "MERGED", some "d00df00"⟩, rfl, rfl⟩⟩
  | _ => exact ⟨.inl ⟨rfl, sample_task_answers w _⟩, fun _ => ⟨_, rfl⟩⟩

/-- They raise a Ctrl-C only where the record is not active. -/
theorem undisturbed_respond_idle {c : Command} {w : TaskWorld}
    (h : (undisturbedRespond c w).1 = .error .keyboardInterrupt) :
    (undisturbedRespond c w).2.file.active = false := by
  cases c with
  | ghReadyIssues =>
      unfold undisturbedRespond at h
      dsimp only at h
      split at h <;> cases h
  | sleep =>
      unfold undisturbedRespond at h ⊢
      dsimp only at h ⊢
      split at h
      · rename_i hidle
        rw [if_pos hidle]
        cases hfile : w.file with
        | missing | unreadable => rfl
        | record status =>
            simp only [hfile, StatusFile.hasState, beq_iff_eq] at hidle
            simp only [StatusFile.active, hidle]
            rfl
      · cases h
  | _ => cases h

/-- The record is not read twice in a row, as where a recovery hands a Ctrl-C on. -/
def readsOnce : Command → Controller (Option HandoffEntry) → Bool
  | .readStatus, .perform .readStatus _ => false
  | _, _ => true

/-- A run that never reads the record twice in a row meets the condition with these answers. -/
theorem undisturbed_respond_stops (c : Command)
    (next : Except Raised (Answer c) → Controller (Option HandoffEntry)) (w : TaskWorld)
    (hcheck : readsOnce c (next (undisturbedRespond c w).1) = true) :
    stopsIdleTask c next (undisturbedRespond c w).1 (undisturbedRespond c w).2 := by
  intro hstops
  cases hstops with
  | inl hreaches => exact undisturbed_respond_idle hreaches.1
  | inr hhanded =>
      obtain ⟨⟨recovery, hbefore⟩, hnext⟩ := hhanded
      have hcommand : Script.perform c next = .perform .readStatus _ := hbefore
      obtain ⟨rfl, -⟩ := Script.perform.inj hcommand
      rw [hnext] at hcheck
      cases hcheck

/-- The theorem on a run that merges the pull request of issue 7, and a watch after it that is
stopped while it waits for an issue. -/
theorem interrupted_tasks_reconciled_sample :
    (∃ s, (controller sampleSetting undisturbed).ReachesUnder stopsIdleTask (.start .missing) s ∧
      s.1.file.hasState .merged = true ∧ s.1.skipped = false ∧ s.1.lost = false) ∧
    ∃ s, (controller sampleSetting undisturbed).ReachesUnder stopsIdleTask (.start .missing) s ∧
      s.1.file.hasState .stopped = true ∧ s.1.skipped = false ∧ s.1.lost = false := by
  have hstart : (controller sampleSetting undisturbed).ReachesUnder stopsIdleTask (.start .missing)
      (.start .missing, none) := .refl
  have hmerged := @ScriptService.reaches_play_under _ _ _ _ _ (controller sampleSetting undisturbed)
    undisturbedRespond (fun w => w.file.hasState .merged) readsOnce stopsIdleTask _ _
    undisturbed_respond undisturbed_respond_stops hstart .once (by decide +kernel)
  have hended := Relation.ReflTransGen.tail hmerged ⟨.crash (by
    show StatusFile.hasState _ .merging = false
    decide +kernel), trivial⟩
  have hstopped := @ScriptService.reaches_play_under _ _ _ _ _
    (controller sampleSetting undisturbed)
    undisturbedRespond (fun w => w.file.hasState .stopped) readsOnce stopsIdleTask _ _
    undisturbed_respond undisturbed_respond_stops hended .watch (by decide +kernel)
  refine ⟨⟨_, hmerged, ?_, interrupted_tasks_reconciled sampleSetting .missing hmerged⟩,
    _, hstopped, ?_, interrupted_tasks_reconciled sampleSetting .missing hstopped⟩
  · decide +kernel
  · decide +kernel

end GrowthOs.Handoff
