import GrowthOs.Handoff.CommitWindow
import GrowthOs.Handoff.Lifecycle
import GrowthOs.Handoff.MergeRuns

/-!
# The life cycle of a task in the runs of the controller

Every run of the controller refines the life cycle, whatever crashes and exceptions it meets
(`lifecycle_refined`). So a merge has come on one of the routes of a task (`merge_on_route`), and
the actions of a task are bounded (`actions_bounded`).
-/

namespace GrowthOs.Handoff

open Library

/-- The state in the status file. -/
def StatusFile.recorded : StatusFile → Option HandoffState
  | .record status => some status.state
  | _ => none

/-- The action that a command takes. -/
def Command.action : Command → Option TaskAction
  | .spawn state => some (.spawn state)
  | .runVerificationCommand _ => some .verify
  | .gitCommit _ => some .commit
  | .gitPushUpstream _ => some .pushUpstream
  | .gitPush => some .push
  | .ghPrCreate _ _ _ => some .openPr
  | .ghPrMerge _ _ => some .mergePr
  | _ => none

/-- The status file, and what the controller has done, oldest first. -/
structure LifeWorld where
  file : StatusFile
  events : List TaskEvent

/-- One more event. -/
def LifeWorld.happens (w : LifeWorld) (event : TaskEvent) : LifeWorld :=
  { w with events := w.events ++ [event] }

/-- What a command does. An action counts when it is attempted, and a status when it is in the
file. -/
def lifeExec : Exec Answer Raised LifeWorld
  | .readStatus, w, answer, w' => w' = w ∧ ∀ file, answer = .ok file → file = w.file
  | .writeStatus status, w, answer, w' =>
      w' = { w.happens (.wrote status.state) with file := .record status } ∨
        (w' = w ∧ ∃ e, answer = .error e)
  | command, w, _, w' => w' = match command.action with
      | some action => w.happens (.took action)
      | none => w

/-- The surroundings of the life cycle. -/
def lifeSurroundings : Surroundings LifeWorld where
  exec := lifeExec
  opening _ w := w.happens .opened
  drift := Eq
  mayCrash _ := True

variable {initial : Option HandoffState} {setting : Setting} {context : StatusContext} {α : Type}

/-- The life cycle has come to the phase. -/
def LifeWorld.At (initial : Option HandoffState) (phase : Phase) (w : LifeWorld) : Prop :=
  runSteps Phase.next (.found initial) w.events = some phase ∧ phase.state = w.file.recorded

/-- The events are a run of the life cycle. -/
def LifeWorld.Lived (initial : Option HandoffState) (w : LifeWorld) : Prop :=
  ∃ phase, w.At initial phase

/-- No task is active. -/
def LifeWorld.Resting (initial : Option HandoffState) (w : LifeWorld) : Prop :=
  ∃ phase : Phase, phase.resting = true ∧ w.At initial phase

/-- A task is active. -/
def LifeWorld.Active (initial : Option HandoffState) (w : LifeWorld) : Prop :=
  ∃ phase : Phase, phase.resting = false ∧ w.At initial phase

/-- From a stage of the life cycle to another. -/
abbrev LifeLeads (initial : Option HandoffState) (S : LifeWorld → Prop) (p : Controller α)
    (T : α → LifeWorld → Prop) : Prop :=
  Leads lifeExec (·.Lived initial) S p T

/-- A world at a phase has lived. -/
theorem lived_of_at {phase : Phase} (w : LifeWorld) (h : w.At initial phase) : w.Lived initial :=
  ⟨phase, h⟩

/-- So has one that rests. -/
theorem lived_of_resting (w : LifeWorld) (h : w.Resting initial) : w.Lived initial := by
  obtain ⟨phase, -, hat⟩ := h
  exact ⟨phase, hat⟩

/-- And one with an active task. -/
theorem lived_of_active (w : LifeWorld) (h : w.Active initial) : w.Lived initial := by
  obtain ⟨phase, -, hat⟩ := h
  exact ⟨phase, hat⟩

/-- The command neither takes an action nor writes the status file. -/
def Command.still : Command → Bool
  | .writeStatus _ => false
  | command => command.action.isNone

/-- A still command leaves the world as it is. -/
theorem still_same {command : Command} {w w' : LifeWorld}
    {answer : Except Raised (Answer command)} (h : command.still = true)
    (hexec : lifeExec command w answer w') : w' = w := by
  cases command with
  | readStatus => exact hexec.1
  | writeStatus | spawn | runVerificationCommand | gitCommit | gitPushUpstream |
      gitPush | ghPrCreate
  | ghPrMerge => cases h
  | _ => exact hexec

/-- The scripts that leave the world as it is. -/
abbrev StillLife (γ : Type) (p : Controller γ) :
    Prop := Only (fun command => command.still = true) p

/-- A script of still commands keeps every stage. -/
theorem leads_still {S : LifeWorld → Prop} {p : Controller α} (h : Composed StillLife p)
    (hS : ∀ w, S w → w.Lived initial) : LifeLeads initial S p fun _ => S := by
  refine leads_of_safe fun w hw => safe_of_only (only_composed h id) hS ?_ hw
  intro command w answer w' hstill hw hexec
  rw [still_same hstill hexec]
  exact hw

/-- The world after a status has been written. -/
def LifeWorld.wrote (w : LifeWorld) (status : Status) : LifeWorld :=
  { w.happens (.wrote status.state) with file := .record status }

/-- An action takes the life cycle to the next phase. -/
theorem LifeWorld.At.took {phase phase' : Phase} {w : LifeWorld} {action : TaskAction}
    (h : w.At initial phase) (hnext : phase.next (.took action) = some phase') :
    (w.happens (.took action)).At initial phase' := by
  refine ⟨(run_steps_concat h.1).trans hnext, ?_⟩
  have hgoes := goes_of_next hnext
  clear hnext
  cases hgoes with
  | takes _ _ => exact h.2

/-- So does a status. -/
theorem LifeWorld.At.wrote {phase phase' : Phase} {w : LifeWorld} {status : Status}
    (h : w.At initial phase) (hnext : phase.next (.wrote status.state) = some phase') :
    (w.wrote status).At initial phase' := by
  refine ⟨(run_steps_concat h.1).trans hnext, ?_⟩
  show phase'.state = some status.state
  have hgoes := goes_of_next hnext
  clear hnext
  generalize status.state = state at hgoes
  cases hgoes with
  | starts _ | writes _ _ | ends _ => rfl
  | launches _ hlaunch =>
      unfold Phase.launch at hlaunch
      split at hlaunch
      · obtain rfl := Option.some.inj hlaunch
        rfl
      · obtain rfl := Option.some.inj hlaunch
        rfl
      · split at hlaunch
        · obtain rfl := Option.some.inj hlaunch
          rfl
        · cases hlaunch
      · split at hlaunch
        · obtain rfl := Option.some.inj hlaunch
          rfl
        · cases hlaunch
      · cases hlaunch

/-- A command that takes an action does nothing else to the world. -/
theorem took_of_exec {command : Command} {action : TaskAction} {w w' : LifeWorld}
    {answer : Except Raised (Answer command)} (haction : command.action = some action)
    (hexec : lifeExec command w answer w') : w' = w.happens (.took action) := by
  cases command with
  | spawn | runVerificationCommand | gitCommit | gitPushUpstream | gitPush | ghPrCreate
  | ghPrMerge =>
      obtain rfl := Option.some.inj haction
      exact hexec
  | _ => cases haction

/-- Such a command leads to the next phase, whether it returns or raises. -/
theorem leads_take {phase phase' : Phase} {command : Command} {action : TaskAction}
    (haction : command.action = some action) (hnext : phase.next (.took action) = some phase') :
    LifeLeads initial (·.At initial phase) (call command) fun _ w => w.At initial phase' := by
  refine fun w hw => safe_issue ⟨phase, hw⟩ fun answer w' hexec => ?_
  obtain rfl := took_of_exec haction hexec
  have hat := hw.took hnext
  exact ⟨⟨phase', hat⟩, fun _ _ => hat⟩

/-- A status write leads from one stage to the next. -/
theorem leads_write_stage {S T : LifeWorld → Prop} {state : HandoffState} {update : StatusUpdate}
    (hS : ∀ w, S w → w.Lived initial) (hT : ∀ w, T w → w.Lived initial)
    (hwrote : ∀ w status, S w → status.state = state → T (w.wrote status)) :
    LifeLeads initial S (writeStatus state update) fun _ => T := by
  refine leads_bind (leads_still (.part ⟨rfl, fun _ => trivial⟩) hS) fun file w hw => ?_
  refine safe_issue (hS w hw) fun answer w' hexec => ?_
  cases hexec with
  | inl h =>
      obtain rfl : w' = w.wrote (update.payload state file.previous) := h
      have hstage := hwrote w (update.payload state file.previous) hw rfl
      exact ⟨hT _ hstage, fun _ _ => hstage⟩
  | inr h =>
      obtain ⟨rfl, e, rfl⟩ := h
      exact ⟨hS _ hw, fun _ ha => (nomatch ha)⟩

/-- A `write_status` leads to the next phase. -/
theorem leads_write {phase phase' : Phase} {state : HandoffState} {update : StatusUpdate}
    (hnext : phase.next (.wrote state) = some phase') :
    LifeLeads initial (·.At initial phase) (writeStatus state update)
      fun _ w => w.At initial phase' :=
  leads_write_stage lived_of_at lived_of_at fun w status hw hstate => by
    subst hstate
    exact hw.wrote hnext

/-- A state that interrupts the way of every task. -/
def HandoffState.interrupts : HandoffState → Bool
  | .recoverableChanges | .failed | .stopped => true
  | _ => false

/-- An interrupting state may follow every phase. -/
theorem next_of_interrupts {state : HandoffState} (h : state.interrupts = true) (phase : Phase) :
    phase.next (.wrote state) = some (.begins (some state) (Phase.courseAfter state)) := by
  cases state with
  | recoverableChanges | failed | stopped => exact next_of_end rfl rfl
  | _ => cases h

/-- It may be written wherever the life cycle stands. -/
theorem leads_interrupt {state : HandoffState} {update : StatusUpdate}
    (h : state.interrupts = true) :
    LifeLeads initial (·.Lived initial) (writeStatus state update)
      fun _ w => w.At initial (.begins (some state) (Phase.courseAfter state)) := by
  refine leads_write_stage (fun _ hw => hw) lived_of_at fun w status hw hstate => ?_
  subst hstate
  obtain ⟨phase, hat⟩ := hw
  exact hat.wrote (next_of_interrupts h phase)

/-- The kinds of the commands that take no action. -/
def CommandKind.still : CommandKind → Bool
  | .child | .verify | .stage | .push | .openPr | .mergePr => false
  | _ => true

/-- The commands of a still kind are still. -/
theorem life_allows {kind : CommandKind} (h : kind.still = true) : Allows StillLife kind := by
  intro command hkind
  refine ⟨?_, fun _ => trivial⟩
  cases command with
  | writeStatus => cases hkind
  | spawn | runVerificationCommand | gitCommit | gitPushUpstream | gitPush | ghPrCreate
  | ghPrMerge =>
      obtain rfl := Option.some.inj hkind
      cases h
  | _ => rfl

/-- Reads are still. -/
theorem life_read : Allows StillLife .read := life_allows rfl

/-- So are notes on the issue. -/
theorem life_notes : AllowsNotes StillLife := allows_notes (life_allows rfl) life_read

/-- A still command keeps every stage. -/
theorem leads_call {S : LifeWorld → Prop} {command : Command} (h : command.still = true)
    (hS : ∀ w, S w → w.Lived initial) : LifeLeads initial S (call command) fun _ => S :=
  leads_still (.part ⟨h, fun _ => trivial⟩) hS

section

variable {course : Course} {fixes : Nat} {child : HandoffState}

/-- The phase of a running child. -/
abbrev Phase.running (child : HandoffState) (course : Course) (fixes : Nat) : Phase :=
  ⟨some child, none, false, course, fixes⟩

/-- The phase of a child that has been started. -/
abbrev Phase.spawned (child : HandoffState) (course : Course) (fixes : Nat) : Phase :=
  ⟨some .launching, some child, true, course, fixes⟩

/-- The child has been started, and its state may be written. -/
def LifeWorld.Supervised (initial : Option HandoffState) (child : HandoffState) (course : Course)
    (fixes : Nat) (w : LifeWorld) : Prop :=
  w.At initial (.spawned child course fixes) ∨ w.At initial (.running child course fixes)

/-- The state of a child may follow its start, and itself. -/
theorem next_of_child (hcourse : course ≠ .idle) (hchild : child.supervises = true) :
    (Phase.spawned child course fixes).next (.wrote child) = some (.running child course fixes) ∧
    (Phase.running child course fixes).next (.wrote child) = some
    (.running child course fixes) := by
  cases child with
  | implementing | fixing | reviewing =>
      exact ⟨next_of_write hcourse rfl, next_of_write hcourse rfl⟩
  | _ => cases hchild

section

variable (hcourse : course ≠ .idle) (hchild : child.supervises = true)

/-- From a supervised child to the end of its run, under the invariant that it is supervised. -/
abbrev ChildLeads (initial : Option HandoffState) (child : HandoffState) (course : Course)
    (fixes : Nat) (p : Controller α) (T : α → LifeWorld → Prop) : Prop :=
  Leads lifeExec (·.Supervised initial child course fixes)
    (·.Supervised initial child course fixes) p T

/-- Still commands keep a child supervised. -/
theorem child_still {p : Controller α} (h : Composed StillLife p) :
    ChildLeads initial child course fixes p fun _ w => w.Supervised initial child course fixes := by
  refine leads_of_safe fun w hw => safe_of_only (only_composed h id) (fun _ hw => hw) ?_ hw
  intro command w answer w' hstill hw hexec
  rw [still_same hstill hexec]
  exact hw

include hcourse hchild

/-- The state of the child is written while it is supervised. -/
theorem child_write (update : StatusUpdate) :
    ChildLeads initial child course fixes (writeStatus child update)
      fun _ w => w.At initial (.running child course fixes) := by
  refine leads_bind (child_still (.part ⟨rfl, fun _ => trivial⟩)) fun file w hw => ?_
  refine safe_issue hw fun answer w' hexec => ?_
  cases hexec with
  | inl h =>
      obtain rfl : w' = w.wrote (update.payload child file.previous) := h
      have hat : (w.wrote (update.payload child file.previous)).At initial
          (.running child course fixes) := by
        cases hw with
        | inl hat => exact hat.wrote (next_of_child hcourse hchild).1
        | inr hat => exact hat.wrote (next_of_child hcourse hchild).2
      exact ⟨.inr hat, fun _ _ => hat⟩
  | inr h =>
      obtain ⟨rfl, e, rfl⟩ := h
      exact ⟨hw, fun _ ha => (nomatch ha)⟩

/-- Its heartbeats repeat that state. -/
theorem child_heartbeats (pid : Int) (heartbeats : List String) :
    ChildLeads initial child course fixes
      (forEach (writeHeartbeat context child pid) heartbeats)
      fun _ w => w.Supervised initial child course fixes := by
  induction heartbeats with
  | nil => exact leads_pure (fun _ hw => hw) fun _ hw => hw
  | cons heartbeat rest ih =>
      refine leads_bind (child_write hcourse hchild _) fun _ => ?_
      refine leads_bind (leads_mono ih (fun _ hw => .inr hw) fun _ _ hw => hw) fun _ => ?_
      exact leads_pure (fun _ hw => hw) fun _ hw => hw

/-- The capture of what it leaves ends under its state. -/
theorem child_capture (pid : Int) :
    ChildLeads initial child course fixes (captureChild setting context child pid)
      fun _ w => w.At initial (.running child course fixes) := by
  refine leads_bind (child_still (.part ⟨rfl, fun _ => trivial⟩)) fun _ => ?_
  refine leads_bind (child_still (steps_captured_recovery_scope setting life_read)) fun scope => ?_
  exact child_write hcourse hchild _

/-- So does its whole supervision. -/
theorem child_supervise (base : String) (pid : Int) :
    ChildLeads initial child course fixes (superviseCodex setting context child base pid)
      fun _ w => w.At initial (.running child course fixes) := by
  have hkept : ∀ w : LifeWorld, w.At initial (.running child course fixes) →
      w.Supervised initial child course fixes := fun _ hw => .inr hw
  unfold superviseCodex
  refine leads_bind (child_still (.part ⟨rfl, fun _ => trivial⟩)) fun heartbeat => ?_
  refine leads_bind (child_still (.part ⟨rfl, fun _ => trivial⟩)) fun identity => ?_
  refine leads_ite (fun _ => leads_raise fun _ hw => hw) fun _ => ?_
  refine leads_bind (child_still (steps_captured_recovery_scope setting life_read)) fun scope => ?_
  refine leads_bind (child_write hcourse hchild _) fun _ => ?_
  refine leads_mono ?_ hkept fun _ _ hw => hw
  refine leads_bind (child_still (.part ⟨rfl, fun _ => trivial⟩)) fun _ => ?_
  refine leads_bind (child_still (.part ⟨rfl, fun _ => trivial⟩)) fun child => ?_
  refine leads_bind (child_heartbeats hcourse hchild pid _) fun _ => ?_
  refine leads_bind (child_capture hcourse hchild pid) fun _ => ?_
  exact leads_pure hkept fun _ hw => hw

/-- `run_codex_stream` announces its child, starts it and records it. -/
theorem leads_run_codex_stream {phase : Phase}
    (hlaunch : phase.next (.wrote .launching) =
      some ⟨some .launching, some child, false, course, fixes⟩) :
    LifeLeads initial (·.At initial phase) (runCodexStream setting context child)
      fun _ w => w.At initial (.running child course fixes) := by
  unfold runCodexStream
  refine leads_bind (leads_call rfl lived_of_at) fun base => ?_
  refine leads_ite (fun _ => leads_raise lived_of_at) fun _ => ?_
  refine leads_bind (leads_write hlaunch) fun _ => ?_
  have hspawn : (Phase.mk (some .launching) (some child) false course fixes).next
      (.took (.spawn child)) = some (.spawned child course fixes) :=
    next_of_take hcourse (by simp [Phase.announces, hchild])
  refine leads_bind (leads_take rfl hspawn) fun pid => ?_
  have hsupervised : ∀ w : LifeWorld, w.Supervised initial child course fixes →
      w.Lived initial := by
    intro w hw
    cases hw with
    | inl hat => exact ⟨_, hat⟩
    | inr hat => exact ⟨_, hat⟩
  refine leads_mono (leads_weaken
    (leads_handle (child_supervise hcourse hchild base pid) fun e => ?_)
    hsupervised) (fun _ hw => .inl hw) fun _ _ hw => hw
  refine leads_bind (child_capture hcourse hchild pid) fun _ => ?_
  exact leads_raise fun _ hw => .inr hw

end

end

section

variable {course : Course} {fixes : Nat} (hcourse : course ≠ .idle)

/-- The phase of a state whose action has been taken. -/
abbrev Phase.acts (state : HandoffState) (course : Course) (fixes : Nat) : Phase :=
  ⟨some state, none, true, course, fixes⟩

include hcourse

/-- A verification command is an action under `VERIFYING`. -/
theorem leads_verify_with (acted : Bool) (logFile name : String) :
    LifeLeads initial (·.At initial ⟨some .verifying, none, acted, course, fixes⟩)
      (verifyWith logFile name) fun _ w => w.At initial (.acts .verifying course fixes) := by
  have hverify : (Phase.mk (some .verifying) none acted course fixes).next (.took .verify) =
      some (.acts .verifying course fixes) := next_of_take hcourse rfl
  refine leads_bind (leads_take rfl hverify) fun returnCode => ?_
  exact leads_ite (fun _ => leads_raise lived_of_at) fun _ => leads_pure lived_of_at fun _ hw => hw

/-- So are all of them. -/
theorem leads_verify_all (logFile : String) (names : List String) :
    LifeLeads initial (·.At initial (.acts .verifying course fixes))
      (forEach (verifyWith logFile) names)
      fun _ w => w.At initial (.acts .verifying course fixes) := by
  induction names with
  | nil => exact leads_pure lived_of_at fun _ hw => hw
  | cons name rest ih =>
      refine leads_bind (leads_verify_with hcourse true logFile name) fun _ => ?_
      refine leads_bind ih fun _ => leads_pure lived_of_at fun _ hw => hw

/-- `run_verification` takes its action at its first command. -/
theorem leads_run_verification {phase : Phase} (passNumber : Nat)
    (hnext : phase.next (.wrote .verifying) = some ⟨some .verifying, none, false, course, fixes⟩) :
    LifeLeads initial (·.At initial phase) (runVerification context passNumber)
      fun _ w => w.At initial (.acts .verifying course fixes) := by
  refine leads_bind (leads_write hnext) fun _ => leads_bind ?_ fun _ =>
    leads_pure lived_of_at fun _ hw => hw
  refine leads_bind (leads_verify_with hcourse false _ _) fun _ => ?_
  refine leads_bind (leads_verify_all hcourse _ _) fun _ => ?_
  exact leads_pure lived_of_at fun _ hw => hw

/-- `commit_with_recovery_checkpoint` commits between its second status and its third. -/
theorem leads_commit_with_recovery_checkpoint (subject : String) :
    LifeLeads initial (·.At initial (.acts .verifying course fixes))
      (commitWithRecoveryCheckpoint setting context subject)
      fun _ w => w.At initial ⟨some .committed, none, false, course, fixes⟩ := by
  have hcommitting : ∀ state acted, (state = .verifying ∧ acted = true ∨
      state = .committing ∧ acted = false) → (Phase.mk (some state) none acted course fixes).next
        (.wrote .committing) = some ⟨some .committing, none, false, course, fixes⟩ := by
    intro state acted h
    obtain ⟨rfl, rfl⟩ | ⟨rfl, rfl⟩ := h
    · exact next_of_write hcourse rfl
    · exact next_of_write hcourse rfl
  have hcommit : (Phase.mk (some .committing) none false course fixes).next (.took .commit) =
      some (.acts .committing course fixes) :=
    next_of_take hcourse (by simp [Phase.announces])
  have hcommitted : (Phase.acts .committing course fixes).next (.wrote .committed) =
      some ⟨some .committed, none, false, course, fixes⟩ :=
    next_of_write hcourse rfl
  unfold commitWithRecoveryCheckpoint
  refine leads_bind (leads_call rfl lived_of_at) fun base => ?_
  refine leads_ite (fun _ => leads_raise lived_of_at) fun _ => ?_
  refine leads_bind (leads_still (steps_current_paths life_read) lived_of_at) fun paths => ?_
  refine leads_ite (fun _ => leads_raise lived_of_at) fun _ => ?_
  refine leads_bind (leads_still (steps_recovery_content_snapshot setting life_read paths)
    lived_of_at) fun content => ?_
  refine leads_bind (leads_write (hcommitting _ _ (.inl ⟨rfl, rfl⟩))) fun _ => ?_
  refine leads_bind (leads_call rfl lived_of_at) fun _ => ?_
  refine leads_bind (leads_call rfl lived_of_at) fun tree => ?_
  refine leads_ite (fun _ => leads_raise lived_of_at) fun _ => ?_
  refine leads_bind (leads_write (hcommitting _ _ (.inr ⟨rfl, rfl⟩))) fun _ => ?_
  refine leads_bind (leads_take rfl hcommit) fun _ => ?_
  refine leads_bind (leads_call rfl lived_of_at) fun commit => ?_
  refine leads_ite (fun _ => leads_raise lived_of_at) fun _ => ?_
  exact leads_bind (leads_write hcommitted) fun _ => leads_pure lived_of_at fun _ hw => hw

/-- The reviewer is launched and ends as a running child. -/
theorem leads_run_reviewer {phase : Phase}
    (hlaunch : phase.next (.wrote .launching) =
      some ⟨some .launching, some .reviewing, false, course, fixes⟩) :
    LifeLeads initial (·.At initial phase) (runReviewer setting context)
      fun _ w => w.At initial (.running .reviewing course fixes) := by
  refine leads_bind (leads_run_codex_stream hcourse rfl hlaunch) fun output => ?_
  exact leads_ite (fun _ => leads_raise lived_of_at) fun _ => leads_call rfl lived_of_at

/-- `run_fixer` goes on only if its child has returned with changes. -/
theorem leads_run_fixer (hfixes : fixes < maxFixRounds) :
    LifeLeads initial (·.At initial (.running .reviewing course fixes)) (runFixer setting context)
      fun _ w => w.At initial (.running .fixing course (fixes + 1)) := by
  have hlaunch : (Phase.running .reviewing course fixes).next (.wrote .launching) =
      some ⟨some .launching, some .fixing, false, course, fixes + 1⟩ :=
    next_of_launch hcourse (if_pos hfixes)
  refine leads_bind (leads_run_codex_stream hcourse rfl hlaunch) fun output => ?_
  refine leads_ite (fun _ => ?_) fun _ => ?_
  · refine leads_bind (leads_still (steps_captured_recovery_scope setting life_read) lived_of_at)
      fun scope => leads_ite (fun _ => leads_raise lived_of_at) fun _ => ?_
    refine leads_bind (leads_mono (leads_interrupt rfl) lived_of_at fun _ _ hw => hw) fun _ => ?_
    exact leads_raise lived_of_at
  · refine leads_bind (leads_call rfl lived_of_at) fun entries => ?_
    exact leads_ite (fun _ => leads_raise lived_of_at) fun _ =>
      leads_pure lived_of_at fun _ hw => hw

/-- `commit_review_fix` pushes without an upstream. -/
theorem leads_commit_review_fix (round : Nat) :
    LifeLeads initial (·.At initial (.acts .verifying course (fixes + 1)))
      (commitReviewFix setting context round)
      fun _ w => w.At initial ⟨some .pushed, none, false, course, fixes + 1⟩ := by
  have hpush : (Phase.mk (some .committed) none false course (fixes + 1)).next (.took .push) =
      some (.acts .committed course (fixes + 1)) :=
    next_of_take hcourse (by simp [Phase.announces])
  have hpushed : (Phase.acts .committed course (fixes + 1)).next (.wrote .pushed) =
      some ⟨some .pushed, none, false, course, fixes + 1⟩ :=
    next_of_write hcourse rfl
  refine leads_bind (leads_commit_with_recovery_checkpoint hcourse _) fun commit => ?_
  exact leads_bind (leads_take rfl hpush) fun _ => leads_write hpushed

/-- The rounds of `run_review_fix_loop` from one on. Each fix round is followed by a review. -/
theorem leads_review_rounds {phase : Phase} (count : Nat)
    (hlaunch : phase.next (.wrote .launching) =
      some ⟨some .launching, some .reviewing, false, course, fixes⟩) :
    LifeLeads initial (·.At initial phase)
      (reviewRounds setting context (List.range' (fixes + 1) count))
      fun _ w => ∃ fixes, w.At initial (.running .reviewing course fixes) := by
  induction count generalizing phase fixes with
  | zero => exact leads_raise lived_of_at
  | succ count ih =>
      refine leads_bind (leads_run_reviewer hcourse hlaunch) fun verdict => ?_
      cases verdict with
      | pass => exact leads_pure lived_of_at fun _ hw => ⟨fixes, hw⟩
      | changesRequested =>
          refine leads_ite (fun _ => leads_raise lived_of_at) fun hround => ?_
          have hverifying : (Phase.running .fixing course (fixes + 1)).next (.wrote .verifying) =
              some ⟨some .verifying, none, false, course, fixes + 1⟩ :=
            next_of_write hcourse (by simp [Phase.mayWrite])
          have hreview : (Phase.mk (some .pushed) none false course (fixes + 1)).next
              (.wrote .launching) =
                some ⟨some .launching, some .reviewing, false, course, fixes + 1⟩ :=
            next_of_launch hcourse (by simp [Phase.launch, Phase.announce])
          refine leads_bind (leads_run_fixer hcourse (by omega)) fun _ => ?_
          refine leads_bind (leads_run_verification hcourse _ hverifying) fun _ => ?_
          refine leads_bind (leads_commit_review_fix hcourse _) fun _ => ?_
          exact ih hreview

end

/-- The event leads to the phase. -/
def LifeWorld.Before (initial : Option HandoffState) (event : TaskEvent) (phase' : Phase)
    (w : LifeWorld) : Prop :=
  ∃ phase, w.At initial phase ∧ phase.next event = some phase'

/-- A world in front of an event has lived. -/
theorem lived_of_before {event : TaskEvent} {phase' : Phase} (w : LifeWorld)
    (h : w.Before initial event phase') : w.Lived initial := by
  obtain ⟨phase, hat, -⟩ := h
  exact ⟨phase, hat⟩

/-- The event is written. -/
theorem leads_write_before {phase' : Phase} {state : HandoffState} {update : StatusUpdate} :
    LifeLeads initial (·.Before initial (.wrote state) phase') (writeStatus state update)
      fun _ w => w.At initial phase' := by
  refine leads_write_stage lived_of_before lived_of_at fun w status hw hstate => ?_
  obtain ⟨phase, hat, hnext⟩ := hw
  subst hstate
  exact hat.wrote hnext

section

variable {course : Course} {fixes : Nat}

/-- Where the outcome of a merge leaves the life cycle. -/
def LifeWorld.MergeEnded (initial : Option HandoffState) (course : Course) (fixes : Nat)
    (outcome : MergeOutcome) (w : LifeWorld) : Prop :=
  if outcome.merged then
    w.Before initial (.wrote .merged) ⟨some .merged, none, false, course, fixes⟩
  else w.Before initial (.wrote .mergeBlocked) (.begins (some .mergeBlocked) .idle)

/-- Every outcome of `gh pr merge` follows its attempt. -/
theorem leads_exact_head_merge (url reviewedHead : String) :
    LifeLeads initial (·.At initial ⟨some .merging, none, false, .straight, fixes⟩)
      (exactHeadMerge url reviewedHead)
      fun _ w => w.At initial (.acts .merging .straight fixes) := by
  have hmerge : (Phase.mk (some .merging) none false .straight fixes).next (.took .mergePr) =
      some (.acts .merging .straight fixes) := next_of_take (fun h => (nomatch h)) rfl
  have hstill : ∀ {p : Controller MergeOutcome}, Composed StillLife p →
      LifeLeads initial (·.At initial (.acts .merging .straight fixes)) p
        fun _ w => w.At initial (.acts .merging .straight fixes) :=
    fun h => leads_still h lived_of_at
  intro w hw
  unfold exactHeadMerge
  refine safe_and_then (safe_issue ⟨_, hw⟩ fun answer w' hexec => ?_)
  obtain rfl := took_of_exec rfl hexec
  have hat := hw.took hmerge
  refine ⟨⟨_, hat⟩, ?_⟩
  cases answer with
  | ok _ =>
      refine hstill (composed_bind (steps_merge_status life_read url) fun status => ?_) _ hat
      cases confirmedOutcome status with
      | some outcome => exact composed_pure _
      | none => exact steps_fail _
  | error e =>
      cases e with
      | calledProcessError text =>
          refine hstill (composed_bind (composed_handle (steps_merge_status life_read url)
            fun e => ?_) fun status => composed_ite (composed_pure _) ?_) _ hat
          · cases e with
            | _ => exact steps_fail _
          · cases confirmedOutcome status with
            | some outcome => exact composed_pure _
            | none => exact steps_fail _
      | _ => exact hstill (steps_fail _) _ hat

/-- From a passed review `merge_reviewed_pr` leads to the end of a merge. -/
theorem leads_merge_reviewed_pr (number : Int) (branch url reviewedHead : String) :
    LifeLeads initial (·.At initial ⟨some .reviewPassed, none, false, .straight, fixes⟩)
      (mergeReviewedPr setting number branch url reviewedHead context)
      fun outcome w => w.MergeEnded initial .straight fixes outcome := by
  have hmerging : (Phase.mk (some .reviewPassed) none false .straight fixes).next
      (.wrote .merging) = some ⟨some .merging, none, false, .straight, fixes⟩ :=
    next_of_write (fun h => (nomatch h)) rfl
  have hblocked : ∀ reasons (w : LifeWorld),
      w.At initial ⟨some .reviewPassed, none, false, .straight, fixes⟩ →
      w.MergeEnded initial .straight fixes (.blocked reasons) := fun reasons w hw =>
    ⟨_, hw, next_of_end rfl rfl⟩
  have hended : ∀ (outcome : MergeOutcome) (w : LifeWorld),
      w.At initial (.acts .merging .straight fixes) →
      w.MergeEnded initial .straight fixes outcome := by
    intro outcome w hw
    unfold LifeWorld.MergeEnded
    split
    · exact ⟨_, hw, next_of_write (fun h => (nomatch h)) rfl⟩
    · exact ⟨_, hw, next_of_end rfl rfl⟩
  unfold mergeReviewedPr
  refine leads_bind (leads_call rfl lived_of_at) fun names => ?_
  refine leads_bind (leads_still (steps_first_merge_reasons setting life_read _ _ _ _ _)
    lived_of_at) fun first => ?_
  refine leads_ite (fun _ => leads_pure lived_of_at fun w hw => hblocked _ w hw) fun _ => ?_
  refine leads_bind (leads_still (composed_ite (steps_call rfl (life_allows rfl))
    (composed_pure _)) lived_of_at) fun _ => ?_
  refine leads_bind (leads_still (steps_final_merge_reasons setting life_read _ _ _ _ _)
    lived_of_at) fun reasons => ?_
  refine leads_ite (fun _ => leads_pure lived_of_at fun w hw => hblocked _ w hw) fun _ => ?_
  refine leads_bind (leads_write hmerging) fun _ => ?_
  exact leads_mono (leads_exact_head_merge url reviewedHead) (fun _ hw => hw) hended

/-- `finalize_changes` after the merge step. -/
theorem leads_record_outcome (url : String) (outcome : MergeOutcome) :
    LifeLeads initial (·.MergeEnded initial course fixes outcome)
      (recordOutcome context url outcome) fun _ w => w.Lived initial := by
  refine leads_bind (M := fun _ w => w.Lived initial) ?_ fun _ =>
    leads_still (life_notes.replaceLabel _ _ (by decide)) fun _ hw => hw
  unfold LifeWorld.MergeEnded
  split
  · refine leads_bind leads_write_before fun _ => ?_
    refine leads_mono (leads_still ?_ fun _ hw => hw) lived_of_at fun _ _ hw => hw
    exact composed_bind (life_notes.commentOnce _ _ _ (by decide)) fun _ =>
      .part (life_notes.addLabel _ _ (by decide))
  · refine leads_bind leads_write_before fun _ => ?_
    refine leads_mono (leads_still ?_ fun _ hw => hw) lived_of_at fun _ _ hw => hw
    exact composed_bind (life_notes.commentOnce _ _ _ (by decide)) fun _ =>
      .part (life_notes.addLabel _ _ (by decide))

/-- The course of `finalize_changes`. -/
def courseOf (recovering : Bool) : Course := if recovering then .recovery else .straight

/-- A finalization is never idle. -/
theorem course_of_ne_idle (recovering : Bool) : courseOf recovering ≠ .idle := by
  cases recovering with
  | true | false => exact fun h => (nomatch h)

/-- `finalize_changes` from the independent review on. A recovery does not merge. -/
theorem leads_review_and_merge (url : String) (recovering : Bool) :
    LifeLeads initial (·.At initial ⟨some .prCreated, none, false, courseOf recovering, 0⟩)
      (reviewAndMerge setting context url !recovering) fun _ w => w.Lived initial := by
  have hcourse := course_of_ne_idle recovering
  have hlaunch : (Phase.mk (some .prCreated) none false (courseOf recovering) 0).next
      (.wrote .launching) =
        some ⟨some .launching, some .reviewing, false, courseOf recovering, 0⟩ :=
    next_of_launch hcourse rfl
  unfold reviewAndMerge
  refine leads_bind (leads_review_rounds hcourse 3 hlaunch) fun _ => leads_exists fun fixes => ?_
  have hpassed : (Phase.running .reviewing (courseOf recovering) fixes).next
      (.wrote .reviewPassed) =
        some ⟨some .reviewPassed, none, false, courseOf recovering, fixes⟩ :=
    next_of_write hcourse rfl
  refine leads_bind (M := fun _ w => w.At initial
    ⟨some .reviewPassed, none, false, courseOf recovering, fixes⟩) ?_ fun _ => ?_
  · refine leads_bind (leads_call rfl lived_of_at) fun _ => ?_
    refine leads_bind (leads_write hpassed) fun _ => leads_still ?_ lived_of_at
    exact composed_bind (life_notes.commentOnce _ _ _ (by decide)) fun _ =>
      .part (life_notes.addLabel _ _ (by decide))
  refine leads_bind (leads_call rfl lived_of_at) fun head => ?_
  refine leads_ite (fun _ => leads_raise lived_of_at) fun _ => ?_
  refine leads_bind (M := fun outcome w => w.MergeEnded initial (courseOf recovering) fixes outcome)
    ?_ fun outcome => leads_record_outcome url outcome
  cases recovering with
  | false => exact leads_merge_reviewed_pr _ _ _ _
  | true =>
      exact leads_pure lived_of_at fun w hw => ⟨_, hw, next_of_end rfl rfl⟩

/-- The phase after the commit: a recovery that finds one has only verified it. -/
def Phase.afterCommit (course : Course) (completed : Nat) : Phase :=
  if completed = 0 then ⟨some .committed, none, false, course, 0⟩ else .acts .verifying course 0

/-- The phase after the push: a recovery that finds one has only verified it. -/
def Phase.afterPush (course : Course) (completed : Nat) : Phase :=
  if completed < 2 then ⟨some .pushed, none, false, course, 0⟩ else .acts .verifying course 0

section

variable {completed : Nat} (hcourse : course ≠ .idle)
include hcourse

/-- The commit follows the verification, unless a recovery has it. -/
theorem leads_ensure_commit (commitSha : Option String) :
    LifeLeads initial (·.At initial (.acts .verifying course 0))
      (ensureCommit setting context commitSha completed)
      fun _ w => w.At initial (.afterCommit course completed) := by
  unfold ensureCommit Phase.afterCommit
  refine leads_ite (fun h => ?_) fun h => ?_
  · rw [if_pos h]
    exact leads_commit_with_recovery_checkpoint hcourse _
  · rw [if_neg h]
    cases commitSha with
    | none => exact leads_raise lived_of_at
    | some commit => exact leads_pure lived_of_at fun _ hw => hw

variable (hrecovers : completed ≠ 0 → course = .recovery)
include hrecovers

/-- The push follows the commit. -/
theorem leads_ensure_push (commit : String) :
    LifeLeads initial (·.At initial (.afterCommit course completed))
      (ensurePush context commit completed)
      fun _ w => w.At initial (.afterPush course completed) := by
  have hpushing : (Phase.afterCommit course completed).next (.wrote .pushing) =
      some ⟨some .pushing, none, false, course, 0⟩ := by
    unfold Phase.afterCommit
    by_cases hzero : completed = 0
    · rw [if_pos hzero]
      exact next_of_write hcourse rfl
    · rw [if_neg hzero]
      exact next_of_write hcourse (by simp [Phase.mayWrite, hrecovers hzero])
  have hpushed : (Phase.acts .pushing course 0).next (.wrote .pushed) =
      some ⟨some .pushed, none, false, course, 0⟩ :=
    next_of_write hcourse rfl
  unfold ensurePush Phase.afterPush
  refine leads_ite (fun h => ?_) fun h => ?_
  · rw [if_pos h]
    refine leads_bind (leads_write hpushing) fun _ => ?_
    exact leads_bind (leads_take rfl (next_of_take hcourse rfl)) fun _ => leads_write hpushed
  · rw [if_neg h, Phase.afterCommit, if_neg (by omega)]
    exact leads_pure lived_of_at fun _ hw => hw

/-- The phase after `PR_CREATED` follows a pull request that is opened, or one that a recovery
finds. -/
theorem next_of_pull_request (opened : Bool) (h : opened = false → course = .recovery) :
    (if opened then { Phase.afterPush course completed with acted := true }
      else Phase.afterPush course completed).next (.wrote .prCreated) =
        some ⟨some .prCreated, none, false, course, 0⟩ := by
  unfold Phase.afterPush
  by_cases hpushed : completed < 2
  · rw [if_pos hpushed]
    cases opened with
    | true => exact next_of_write hcourse rfl
    | false => exact next_of_write hcourse (by simp [Phase.mayWrite, h rfl])
  · rw [if_neg hpushed]
    have hrecovery : course = .recovery := hrecovers (by omega)
    cases opened with
    | true => exact next_of_write hcourse (by simp [Phase.mayWrite, hrecovery])
    | false => exact next_of_write hcourse (by simp [Phase.mayWrite, hrecovery])

/-- The pull request follows the push, and its status can be written. -/
theorem leads_ensure_draft_pr (title : String) (recordedPr : Option String) (recovering : Bool)
    (hrecovering : recovering = true → course = .recovery) :
    LifeLeads initial (·.At initial (.afterPush course completed))
      (ensureDraftPr title context recordedPr (max completed 2) recovering)
      fun _ w => w.Before initial (.wrote .prCreated)
        ⟨some .prCreated, none, false, course, 0⟩ := by
  have hopen : (Phase.afterPush course completed).announces .openPr = true := by
    unfold Phase.afterPush
    by_cases hpushed : completed < 2
    · rw [if_pos hpushed]
      rfl
    · rw [if_neg hpushed]
      simp [Phase.announces, hrecovers (show completed ≠ 0 by omega)]
  have hcourse' : (Phase.afterPush course completed).course ≠ .idle := by
    unfold Phase.afterPush
    split
    · exact hcourse
    · exact hcourse
  unfold ensureDraftPr
  refine leads_bind (M := fun found w => (found ≠ none → course = .recovery) ∧
    w.At initial (.afterPush course completed)) ?_ fun found => ?_
  · cases recovering with
    | true =>
        exact leads_mono (leads_still (steps_find_draft_pr life_read _) lived_of_at)
          (fun _ hw => hw) fun _ _ hw => ⟨fun _ => hrecovering rfl, hw⟩
    | false => exact leads_pure lived_of_at fun _ hw => ⟨fun h => absurd rfl h, hw⟩
  refine leads_ite (fun _ => leads_raise fun w hw => lived_of_at w hw.2) fun _ => ?_
  cases found with
  | some url =>
      refine leads_pure (fun w hw => lived_of_at w hw.2) fun w hw => ⟨_, hw.2, ?_⟩
      exact next_of_pull_request hcourse hrecovers false fun _ => hw.1 (Option.some_ne_none url)
  | none =>
      refine leads_bind (leads_mono (leads_take rfl (next_of_take hcourse' hopen))
        (fun _ hw => hw.2) fun _ _ hw => hw) fun url => ?_
      refine leads_ite (fun _ => leads_raise lived_of_at) fun _ =>
        leads_pure lived_of_at fun w hw =>
        ⟨_, hw, next_of_pull_request hcourse hrecovers true fun h => Bool.noConfusion h⟩

end

/-- `finalize_changes` from the commit on. A fresh task has no checkpoint. -/
theorem leads_publish_changes (title : String) (status : Option Status) (recovering : Bool)
    (hfresh : recovering = false → status = none) :
    LifeLeads initial (·.At initial (.acts .verifying (courseOf recovering) 0))
      (publishChanges setting title context status (!recovering) recovering)
      fun _ w => w.Lived initial := by
  have hcourse := course_of_ne_idle recovering
  have hrecovers : completedOf (status.bind (·.finalizationCheckpoint)) ≠ 0 →
      courseOf recovering = .recovery := by
    intro hne
    cases recovering with
    | true => rfl
    | false =>
        rw [hfresh rfl] at hne
        exact absurd rfl hne
  unfold publishChanges
  refine leads_bind (leads_ensure_commit hcourse _) fun commit => ?_
  refine leads_bind (leads_ensure_push hcourse hrecovers commit) fun _ => ?_
  refine leads_bind (leads_ensure_draft_pr hcourse hrecovers title _ recovering fun h => by
    rw [h]
    rfl) fun url => ?_
  refine leads_bind leads_write_before fun _ => ?_
  refine leads_bind (leads_still (life_notes.commentOnce _ _ _ (by decide)) lived_of_at) fun _ => ?_
  exact leads_review_and_merge url recovering

/-- `finalize_changes` from the changes of a child, or from preserved changes. -/
theorem leads_finalize_changes (title : String) (recovering : Bool) {phase : Phase}
    (hnext : phase.next (.wrote .verifying) =
      some ⟨some .verifying, none, false, courseOf recovering, 0⟩) :
    LifeLeads initial (·.At initial phase)
      (finalizeChanges setting title context (!recovering) recovering)
      fun _ w => w.Lived initial := by
  unfold finalizeChanges
  refine leads_bind (M := fun status w => (recovering = false → status = none) ∧
    w.At initial phase) ?_ fun status => ?_
  · cases recovering with
    | true =>
        exact leads_mono (leads_still (steps_recovered_status life_read true) lived_of_at)
          (fun _ hw => hw) fun _ _ hw => ⟨fun h => (nomatch h), hw⟩
    | false => exact leads_pure lived_of_at fun _ hw => ⟨fun _ => rfl, hw⟩
  intro w hw
  refine (leads_bind (leads_still (composed_ite (steps_validate_recovery setting life_read _ _ _ _)
    (composed_pure _)) lived_of_at) fun _ => ?_ : LifeLeads initial _ _ _) w hw.2
  refine leads_bind (leads_run_verification (course_of_ne_idle recovering) 1 hnext) fun _ => ?_
  refine leads_bind (leads_still (composed_ite (steps_revalidate_recovery setting life_read _)
    (composed_pure _)) lived_of_at) fun _ => ?_
  exact leads_publish_changes title status recovering hw.1

end

/-- The changes of the task are preserved, and the round recovers them. -/
def LifeWorld.Recovering (initial : Option HandoffState) (w : LifeWorld) : Prop :=
  w.At initial (.begins (some .recoverableChanges) .recovery)

/-- A world in recovery has lived. -/
theorem lived_of_recovering (w : LifeWorld) (h : w.Recovering initial) : w.Lived initial := ⟨_, h⟩

/-- A failure can be recorded wherever the life cycle stands. -/
theorem leads_record_issue_failure (number : Int) (title : String) (error : Raised) :
    LifeLeads initial (·.Lived initial) (recordIssueFailure number title error)
      fun _ w => w.Lived initial := by
  refine leads_bind (leads_interrupt rfl) fun _ => ?_
  refine leads_mono (leads_still ?_ fun _ hw => hw) lived_of_at fun _ _ hw => hw
  exact composed_bind (life_notes.replaceLabel _ _ (by decide)) fun _ =>
    .part (life_notes.comment _ _ (plain_comment _ (by decide)))

/-- A recovery is part of the life cycle. -/
theorem leads_recover_changes :
    LifeLeads initial (·.Recovering initial) (recoverChanges setting context)
      fun _ w => w.Lived initial := by
  have hverifying : (Phase.begins (some .recoverableChanges) .recovery).next (.wrote .verifying) =
      some ⟨some .verifying, none, false, courseOf true, 0⟩ :=
    next_of_write (fun h => (nomatch h)) rfl
  unfold recoverChanges
  refine leads_bind (leads_still (steps_load_recovery_issue setting life_read)
    lived_of_recovering) fun issue => ?_
  refine leads_bind (leads_still (life_notes.commentOnce _ _ _ (by decide)) lived_of_recovering)
    fun _ => ?_
  refine leads_handle (leads_finalize_changes _ true hverifying) fun e => ?_
  have hpreserve : ∀ e : Raised, LifeLeads initial (·.Lived initial) (do
      writeStatus .recoverableChanges (.of context {})
      fail (.recoverableChangesError e.text) : Controller Unit) fun _ w => w.Lived initial :=
    fun e => leads_bind (leads_interrupt rfl) fun _ => leads_raise lived_of_at
  cases e with
  | keyboardInterrupt => exact leads_raise fun _ hw => hw
  | _ => exact hpreserve _

/-- A state that holds a task may follow every phase of an active one. -/
theorem next_of_held {phase : Phase} {state : HandoffState} (h : state.held = true)
    (hactive : phase.resting = false) :
    phase.next (.wrote state) = some (.begins (some state) (Phase.courseAfter state)) := by
  cases state with
  | recoverableChanges => exact next_of_end rfl rfl
  | recoveryBlocked | recoveryConfirmationRequired =>
      exact next_of_end rfl (congrArg (!·) hactive)
  | _ => cases h

/-- It is written while the task is active. -/
theorem leads_hold {state : HandoffState} {update : StatusUpdate} (h : state.held = true) :
    LifeLeads initial (·.Active initial) (writeStatus state update)
      fun _ w => w.At initial (.begins (some state) (Phase.courseAfter state)) := by
  refine leads_write_stage lived_of_active lived_of_at fun w status hw hstate => ?_
  obtain ⟨phase, hactive, hat⟩ := hw
  subst hstate
  exact hat.wrote (next_of_held h hactive)

/-- A blocked reconciliation holds the task and raises. -/
theorem leads_fail_blocked {T : α → LifeWorld → Prop} (codexPid : Option Int) (detail : String) :
    LifeLeads initial (·.Active initial) (failBlocked context codexPid detail) T :=
  leads_bind (leads_hold rfl) fun _ => leads_raise lived_of_at

/-- The end of an orphan keeps the task active. -/
theorem leads_stop_orphan (status : Status) (pid : Int) :
    LifeLeads initial (·.Active initial) (stopOrphan status context pid)
      fun _ w => w.Active initial := by
  unfold stopOrphan
  refine leads_bind (leads_call rfl lived_of_active) fun leaderRunning => ?_
  refine leads_bind (leads_still (composed_ite (steps_call rfl life_read) (composed_pure _))
    lived_of_active) fun identity => ?_
  refine leads_ite (fun _ => leads_fail_blocked _ _) fun _ => ?_
  refine leads_bind (leads_still (steps_heartbeat_is_stale life_read _ _) lived_of_active)
    fun stale => ?_
  exact leads_ite (fun _ => leads_raise lived_of_active) fun _ => leads_call rfl lived_of_active

/-- So does the reconciliation of its child. -/
theorem leads_reconcile_child (status : Status) :
    LifeLeads initial (·.Active initial) (reconcileChild status context)
      fun _ w => w.Active initial := by
  have hdone : ∀ proven : Bool, LifeLeads initial (·.Active initial)
      (pure proven : Controller Bool) fun _ w => w.Active initial :=
    fun _ => leads_pure lived_of_active fun _ hw => hw
  unfold reconcileChild
  cases status.codexPid with
  | none => exact hdone false
  | some pid =>
      refine leads_ite (fun _ => leads_ite (fun _ => ?_) fun _ => ?_) fun _ => hdone false
      · refine leads_bind (leads_call rfl lived_of_active) fun groupRunning => ?_
        exact leads_bind (M := fun _ w => w.Active initial)
          (leads_ite (fun _ => leads_stop_orphan status pid)
          fun _ => leads_pure lived_of_active fun _ hw => hw) fun _ => hdone true
      · refine leads_bind (leads_call rfl lived_of_active) fun running => ?_
        exact leads_ite (fun _ => leads_fail_blocked _ _) fun _ => hdone false

/-- A task without changes fails and raises. -/
theorem leads_fail_without_changes {T : StatusContext → LifeWorld → Prop} :
    LifeLeads initial (·.Active initial) (failWithoutChanges setting context) T := by
  unfold failWithoutChanges
  refine leads_bind (leads_hold rfl) fun _ => ?_
  refine leads_bind (leads_still (steps_load_recovery_issue setting life_read) lived_of_at)
    fun payload => ?_
  refine leads_bind (leads_mono (leads_record_issue_failure _ _ _) lived_of_at fun _ _ hw => hw)
    fun _ => leads_raise fun _ hw => hw

/-- A reconciled task goes on to its recovery. -/
theorem leads_reconcile_changes (status : Status) (stoppedChild hasChanges : Bool) :
    LifeLeads initial (·.Active initial)
      (reconcileChanges setting status context stoppedChild hasChanges)
      fun _ w => w.Recovering initial := by
  unfold reconcileChanges
  refine leads_ite (fun _ => ?_) fun _ => ?_
  · refine leads_bind (leads_still (steps_head_revision life_read) lived_of_active)
      fun revision => ?_
    refine leads_ite (fun _ => ?_) fun _ => leads_raise lived_of_active
    exact leads_bind (leads_hold rfl) fun _ => leads_pure lived_of_at fun _ hw => hw
  · refine leads_ite (fun _ => leads_fail_without_changes) fun _ => ?_
    refine leads_ite (fun _ => leads_bind (leads_hold rfl) fun _ => leads_raise lived_of_at)
      fun _ => ?_
    refine leads_ite (fun _ => leads_bind (leads_hold rfl) fun _ => leads_raise lived_of_at)
      fun _ => ?_
    exact leads_bind (leads_hold rfl) fun _ => leads_pure lived_of_at fun _ hw => hw

/-- The reconciliation of a task raises or leads to its recovery. -/
theorem leads_reconcile_task (status : Status) :
    LifeLeads initial (·.Active initial) (reconcileTask setting status context)
      fun _ w => w.Recovering initial := by
  unfold reconcileTask
  refine leads_ite (fun _ => leads_raise lived_of_active) fun _ => ?_
  refine leads_bind (leads_reconcile_child status) fun stopped => ?_
  refine leads_bind (leads_call rfl lived_of_active) fun branch => ?_
  refine leads_ite (fun _ => leads_fail_blocked _ _) fun _ => ?_
  refine leads_bind (M := fun _ w => w.Active initial) ?_ fun _ => ?_
  · refine leads_ite (fun _ => ?_) fun _ => leads_pure lived_of_active fun _ hw => hw
    refine leads_bind (leads_call rfl lived_of_active) fun head => ?_
    exact leads_ite (fun _ => leads_fail_blocked _ _) fun _ =>
      leads_pure lived_of_active fun _ hw => hw
  · refine leads_bind (leads_call rfl lived_of_active) fun entries => ?_
    exact leads_reconcile_changes status stopped _

/-- What `reconcile_stale_run` makes of the status file. -/
def LifeWorld.Reconciled (initial : Option HandoffState) :
    Option StatusContext → LifeWorld → Prop
  | some _, w => w.Recovering initial
  | none, w => w.Resting initial

/-- What is read of the status file is its record. -/
theorem leads_read_status :
    LifeLeads initial (·.Lived initial) (call .readStatus)
      fun file w => w.Lived initial ∧ file = w.file := by
  refine fun w hw => safe_issue hw fun answer w' hexec => ?_
  obtain ⟨rfl, hfile⟩ := hexec
  exact ⟨hw, fun file hanswer => ⟨hw, hfile file hanswer⟩⟩

/-- `reconcile_stale_run` leads to a recovery, or to a task that rests. -/
theorem leads_reconcile_stale_run :
    LifeLeads initial (·.Lived initial) (reconcileStaleRun setting)
      fun recovery w => w.Reconciled initial recovery := by
  refine leads_bind leads_read_status fun file => ?_
  cases file with
  | missing =>
      refine leads_pure (fun w hw => hw.1) fun w hw => ?_
      obtain ⟨⟨phase, hat⟩, hfile⟩ := hw
      refine ⟨phase, ?_, hat⟩
      unfold Phase.resting
      rw [hat.2, ← hfile]
      rfl
  | unreadable => exact leads_raise fun w hw => hw.1
  | record status =>
      refine leads_ite (fun hinactive => ?_) fun hactive => ?_
      · refine leads_pure (fun w hw => hw.1) fun w hw => ?_
        obtain ⟨⟨phase, hat⟩, hfile⟩ := hw
        refine ⟨phase, ?_, hat⟩
        unfold Phase.resting
        rw [hat.2, ← hfile]
        exact hinactive
      · cases status.context with
        | none => exact leads_raise fun w hw => hw.1
        | some context =>
            refine leads_bind (leads_mono (leads_reconcile_task status) (fun w hw => ?_)
              fun _ _ hw => hw) fun recovered => leads_pure lived_of_recovering fun _ hw => hw
            obtain ⟨⟨phase, hat⟩, hfile⟩ := hw
            refine ⟨phase, ?_, hat⟩
            unfold Phase.resting
            rw [hat.2, ← hfile]
            exact Bool.eq_false_iff.mpr hactive

/-- `confirm_recovery` goes on with the recovery of its task. -/
theorem leads_confirm_recorded_task :
    LifeLeads initial (·.Lived initial) (confirmRecordedTask setting) fun _ w =>
    w.Lived initial := by
  have hself : ∀ w : LifeWorld, w.Lived initial → w.Lived initial := fun _ hw => hw
  unfold confirmRecordedTask
  refine leads_bind (leads_call rfl hself) fun file => ?_
  cases file with
  | missing | unreadable => exact leads_raise hself
  | record status =>
  refine leads_ite (fun _ => leads_raise hself) fun _ => ?_
  cases status.context with
  | none => exact leads_raise hself
  | some context =>
  unfold confirmTask
  refine leads_bind (leads_still (steps_load_recovery_issue setting life_read) hself) fun _ => ?_
  refine leads_bind (leads_still (steps_confirm_stopped_child life_read status) hself) fun _ => ?_
  refine leads_bind (leads_still (steps_confirm_checkout life_read status) hself) fun _ => ?_
  refine leads_bind (leads_still (steps_captured_recovery_scope setting life_read) hself)
    fun scope => ?_
  refine leads_ite (fun _ => leads_raise hself) fun _ => ?_
  exact leads_bind (leads_interrupt rfl) fun _ => leads_recover_changes

/-- `implement` goes on only if its child has returned. -/
theorem leads_implement :
    LifeLeads initial (·.At initial (.begins (some .syncing) .straight)) (implement setting context)
      fun _ w => w.At initial (.running .implementing .straight 0) := by
  have hlaunch : (Phase.begins (some .syncing) .straight).next (.wrote .launching) =
      some ⟨some .launching, some .implementing, false, .straight, 0⟩ :=
    next_of_launch (course_of_ne_idle false) rfl
  have hpreserve : ∀ {S : LifeWorld → Prop} {T : Unit → LifeWorld → Prop} (message : String)
      (otherwise : Raised), (∀ w, S w → w.Lived initial) →
      LifeLeads initial S (preserveChanges setting context message otherwise) T := by
    intro S T message otherwise hS
    refine leads_bind (leads_still (steps_captured_recovery_scope setting life_read) hS)
      fun scope => leads_ite (fun _ => leads_raise hS) fun _ => ?_
    exact leads_bind (leads_mono (leads_interrupt rfl) hS fun _ _ hw => hw) fun _ =>
      leads_raise lived_of_at
  unfold implement
  refine leads_bind (leads_handle (leads_run_codex_stream (course_of_ne_idle false) rfl hlaunch)
    fun e => ?_) fun output => ?_
  · cases e with
    | keyboardInterrupt =>
        exact leads_bind (M := fun _ w => w.Lived initial) (hpreserve _ _ fun _ hw => hw) fun _ =>
          leads_raise fun _ hw => hw
    | _ => exact leads_raise fun _ hw => hw
  · refine leads_ite (fun _ => ?_) fun _ => leads_pure lived_of_at fun _ hw => hw
    exact leads_bind (M := fun _ w => w.At initial (.running .implementing .straight 0))
      (hpreserve _ _ lived_of_at) fun _ => leads_pure lived_of_at fun _ hw => hw

/-- `process_issue` starts a task where none is active. -/
theorem leads_process_issue (issue : Issue) :
    LifeLeads initial (·.Resting initial) (processIssue setting issue)
      fun _ w => w.Lived initial := by
  have hverifying : (Phase.running .implementing .straight 0).next (.wrote .verifying) =
      some ⟨some .verifying, none, false, courseOf false, 0⟩ :=
    next_of_write (fun h => (nomatch h)) rfl
  unfold processIssue
  refine leads_bind (leads_call rfl lived_of_resting) fun startedAt => ?_
  refine leads_bind (M := fun _ w => w.At initial (.begins (some .syncing) .straight))
    (leads_write_stage lived_of_resting lived_of_at fun w status hw hstate => ?_) fun _ => ?_
  · obtain ⟨phase, hresting, hat⟩ := hw
    have hnext : phase.next (.wrote .syncing) = some (.begins (some .syncing) .straight) :=
      if_pos hresting
    exact hat.wrote (hstate ▸ hnext)
  refine leads_bind (leads_still (life_notes.replaceLabel _ _ (by decide)) lived_of_at) fun _ => ?_
  refine leads_bind (leads_call rfl lived_of_at) fun _ => ?_
  refine leads_bind (leads_still (steps_prepare_task_branch life_read (life_allows rfl) _)
    lived_of_at) fun _ => ?_
  refine leads_bind leads_implement fun tail => ?_
  refine leads_bind (leads_call rfl lived_of_at) fun changed => leads_ite (fun _ => ?_) fun _ => ?_
  · refine leads_bind (leads_still (composed_bind (steps_call rfl (life_allows rfl)) fun _ =>
      steps_call rfl (life_allows rfl)) lived_of_at) fun _ => leads_raise lived_of_at
  · exact leads_finalize_changes _ false hverifying

/-- An error of a finalization can be recorded. -/
theorem leads_recoverable_finalization_error (number : Int) (error : Raised) :
    LifeLeads initial (·.Lived initial) (recoverableFinalizationError number error)
      fun _ w => w.Lived initial := by
  have hself : ∀ w : LifeWorld, w.Lived initial → w.Lived initial := fun _ hw => hw
  unfold recoverableFinalizationError
  refine leads_bind (leads_call rfl hself) fun file => ?_
  cases file with
  | missing | unreadable => exact leads_pure hself hself
  | record status =>
      refine leads_ite (fun _ => leads_pure hself hself) fun _ =>
        leads_ite (fun _ => leads_pure hself hself) fun _ => ?_
      cases status.context with
      | none => exact leads_pure hself hself
      | some context =>
          exact leads_bind (leads_interrupt rfl) fun _ => leads_pure lived_of_at lived_of_at

/-- So can an interruption. -/
theorem leads_recoverable_interruption_error (error : Raised) :
    LifeLeads initial (·.Lived initial) (recoverableInterruptionError context error)
      fun _ w => w.Lived initial := by
  have hself : ∀ w : LifeWorld, w.Lived initial → w.Lived initial := fun _ hw => hw
  unfold recoverableInterruptionError
  refine leads_bind (leads_call rfl hself) fun file => ?_
  cases file with
  | missing | unreadable => exact leads_pure hself hself
  | record status =>
      refine leads_ite (fun _ => ?_) fun _ => leads_pure hself hself
      exact leads_bind (leads_interrupt rfl) fun _ => leads_pure lived_of_at lived_of_at

/-- The handler of an error is part of the life cycle. -/
theorem leads_handle_task_error (issue : Issue) (error : Raised) :
    LifeLeads initial (·.Lived initial) (handleTaskError issue error)
      fun _ w => w.Lived initial := by
  refine leads_bind (leads_recoverable_finalization_error _ _) fun recovery => ?_
  cases recovery with
  | some recovery => exact leads_raise fun _ hw => hw
  | none =>
      exact leads_bind (leads_record_issue_failure _ _ _) fun _ => leads_raise fun _ hw => hw

/-- So is the handler of a Ctrl-C. -/
theorem leads_handle_task_interrupt (issue : Issue) :
    LifeLeads initial (·.Lived initial) (handleTaskInterrupt issue)
      fun _ w => w.Lived initial := by
  have hself : ∀ w : LifeWorld, w.Lived initial → w.Lived initial := fun _ hw => hw
  refine leads_bind (M := fun _ w => w.Lived initial) ?_ fun interruption => ?_
  · refine leads_bind (leads_recoverable_finalization_error _ _) fun recovery => ?_
    cases recovery with
    | some recovery => exact leads_pure hself hself
    | none =>
        refine leads_bind (leads_still (steps_recorded_status_context life_read issue) hself)
          fun context => ?_
        cases context with
        | none => exact leads_pure hself hself
        | some context => exact leads_recoverable_interruption_error _
  · cases interruption with
    | some recovery => exact leads_raise hself
    | none => exact leads_record_issue_failure _ _ _

/-! ## The entries -/

/-- `IDLE` is written where no task is active. -/
theorem leads_idle :
    LifeLeads initial (·.Resting initial) (writeStatus .idle {}) fun _ w => w.Lived initial := by
  refine leads_write_stage lived_of_resting (fun _ hw => hw) fun w status hw hstate => ?_
  obtain ⟨phase, hresting, hat⟩ := hw
  have hnext : phase.next (.wrote .idle) = some (.begins (some .idle) .idle) :=
    next_of_end rfl hresting
  exact ⟨_, hat.wrote (hstate ▸ hnext)⟩

/-- A round without a task to recover selects its issue while no task is active. -/
theorem leads_select {T : α → LifeWorld → Prop} {k : Option Issue → Controller α}
    (hk : ∀ selected, LifeLeads initial (·.Resting initial) (k selected) T) :
    LifeLeads initial (·.Resting initial)
      (cleanTreeRequired >>= fun _ => nextIssue setting >>= k) T := by
  refine leads_bind (leads_still (steps_clean_tree_required life_read) lived_of_resting)
    fun _ => ?_
  exact leads_bind (leads_still (steps_next_issue setting (life_allows rfl)) lived_of_resting) hk

/-- `run_once` is part of the life cycle. -/
theorem leads_run_once_locked :
    LifeLeads initial (·.Lived initial) (runOnceLocked setting) fun _ w => w.Lived initial := by
  refine leads_bind leads_reconcile_stale_run fun recovery => ?_
  cases recovery with
  | some recovery => exact leads_recover_changes
  | none =>
  refine leads_select fun selected => ?_
  cases selected with
  | none => exact leads_idle
  | some issue =>
  refine leads_handle (leads_process_issue issue) fun e => ?_
  cases e with
  | recoverableChangesError | keyboardInterrupt => exact leads_raise fun _ hw => hw
  | _ => exact leads_handle_task_error issue _

/-- A task of `run_watch` starts at rest. -/
theorem leads_watch_issue (issue : Issue) :
    LifeLeads initial (·.Resting initial) (watchIssue setting issue)
      fun _ w => w.Lived initial := by
  have hself : ∀ w : LifeWorld, w.Lived initial → w.Lived initial := fun _ hw => hw
  refine leads_and_then (leads_process_issue issue) (fun _ => leads_pure hself hself) fun e => ?_
  cases e with
  | recoverableChangesError => exact leads_raise hself
  | keyboardInterrupt =>
      exact leads_bind (leads_handle_task_interrupt issue) fun _ => leads_pure hself hself
  | _ => exact leads_bind (leads_handle_task_error issue _) fun _ => leads_pure hself hself

/-- The body of a round is part of the life cycle. -/
theorem leads_watch_body :
    LifeLeads initial (·.Lived initial) (watchBody setting) fun _ w => w.Lived initial := by
  have hself : ∀ w : LifeWorld, w.Lived initial → w.Lived initial := fun _ hw => hw
  refine leads_and_then leads_reconcile_stale_run (fun recovery => ?_) fun e => ?_
  · cases recovery with
    | some recovery =>
        refine leads_bind (M := fun _ w => w.Lived initial) (leads_handle leads_recover_changes
          fun e => ?_) fun _ => leads_pure hself hself
        cases e with
        | keyboardInterrupt =>
            refine leads_bind (leads_recoverable_interruption_error _) fun error => ?_
            cases error with
            | none => exact leads_raise hself
            | some error => exact leads_raise hself
        | _ => exact leads_raise hself
    | none =>
        refine leads_select fun selected => ?_
        cases selected with
        | none =>
            refine leads_bind leads_idle fun _ => ?_
            exact leads_bind (leads_call rfl hself) fun _ => leads_pure hself hself
        | some issue => exact leads_watch_issue issue
  · cases e with
    | activeOrphanError =>
        exact leads_bind (leads_call rfl hself) fun _ => leads_pure hself hself
    | _ => exact leads_raise hself

/-- So is the round with its handlers. -/
theorem leads_watch_round :
    LifeLeads initial (·.Lived initial) (watchRound setting) fun _ w => w.Lived initial := by
  have hself : ∀ w : LifeWorld, w.Lived initial → w.Lived initial := fun _ hw => hw
  have hreleased : ∀ {k : Except Raised Unit → Controller (Option HandoffEntry)},
      (∀ released, ∃ ended, k released = .done ended) →
      LifeLeads initial (·.Lived initial) ((call .releaseLock).andThen k)
        fun _ w => w.Lived initial := by
    intro k hk
    have hdone : ∀ released, LifeLeads initial (·.Lived initial) (k released)
        fun _ w => w.Lived initial := by
      intro released
      obtain ⟨ended, hended⟩ := hk released
      rw [hended]
      exact fun w hw => ⟨hw, fun _ _ => hw⟩
    exact leads_and_then (leads_call rfl hself) (fun _ => hdone _) fun _ => hdone _
  refine leads_and_then (leads_handle leads_watch_body fun e => ?_) (fun goesOn => ?_) fun e => ?_
  · cases e with
    | keyboardInterrupt =>
        exact leads_bind (leads_interrupt rfl) fun _ => leads_pure lived_of_at lived_of_at
    | _ => exact leads_raise hself
  · cases goesOn with
    | true => exact leads_pure hself hself
    | false =>
        refine hreleased fun released => ?_
        cases released with
        | ok _ => exact ⟨_, rfl⟩
        | error e => exact ⟨_, rfl⟩
  · refine hreleased fun released => ?_
    cases released with
    | ok _ => exact ⟨_, rfl⟩
    | error e => exact ⟨_, rfl⟩

/-- Every entry of the controller keeps to the life cycle. -/
theorem leads_handoff_script (entry : HandoffEntry) :
    LifeLeads initial (·.Lived initial) (handoffScript setting entry) fun _ w =>
    w.Lived initial := by
  have hself : ∀ w : LifeWorld, w.Lived initial → w.Lived initial := fun _ hw => hw
  have hstart : LifeLeads initial (·.Lived initial) startController fun _ w => w.Lived initial :=
    leads_still (steps_start_controller (life_allows rfl)) hself
  have hlocked : ∀ {p : Controller Unit},
      LifeLeads initial (·.Lived initial) p (fun _ w => w.Lived initial) →
      LifeLeads initial (·.Lived initial) (do
        p.finally_ (call .releaseLock)
        pure none : Controller (Option HandoffEntry)) fun _ w => w.Lived initial := by
    intro p hp
    have hreleased : ∀ result : Except Raised Unit, LifeLeads initial (·.Lived initial)
        ((call .releaseLock).bind fun _ => .done result) fun _ w => w.Lived initial :=
      fun result => leads_bind (leads_call rfl hself) fun _ w hw => ⟨hw, fun _ _ => hw⟩
    exact leads_bind (leads_and_then hp (fun _ => hreleased _) fun _ => hreleased _) fun _ =>
      leads_pure hself hself
  cases entry with
  | once => exact leads_bind hstart fun _ => hlocked leads_run_once_locked
  | watch => exact leads_bind hstart fun _ => leads_watch_round
  | watching => exact leads_watch_round
  | confirm => exact leads_bind hstart fun _ => hlocked leads_confirm_recorded_task

/-- The world before the first run. -/
def LifeWorld.start (file : StatusFile) : LifeWorld := ⟨file, []⟩

/-- In every run, what the controller does is a run of the life cycle that ends in the state of the
status file. -/
theorem lifecycle_refined (setting : Setting) (file : StatusFile)
    {s : ScriptService.Running Command Answer Raised HandoffEntry LifeWorld}
    (hrun : (controller setting lifeSurroundings).Reaches (.start file) s) :
    ∃ phase, runSteps Phase.next (.found file.recorded) s.1.events = some phase ∧
      phase.state = s.1.file.recorded := by
  have hinvariant : s.1.Lived file.recorded := by
    refine ScriptService.invariant_of_reaches (I := (·.Lived file.recorded))
      (J := (·.Lived file.recorded)) ?_ ?_ ?_ ?_ (⟨_, rfl, rfl⟩) hrun
    · intro entry w hw
      obtain ⟨phase, hat⟩ := hw
      have hopened : (w.happens .opened).Lived file.recorded :=
        ⟨.begins phase.state .idle, run_steps_concat hat.1, hat.2⟩
      refine safe_post (leads_handoff_script entry _ hopened) fun _ _ hI _ => hI
    · exact fun w hw _ => hw
    · rintro w _ hw rfl
      exact hw
    · exact fun w hw => hw
  exact hinvariant

/-- A merge is attempted, and recorded, only at the end of one of the routes of a task. Nothing
comes between the steps of the route: no crash, no other run, and no failure. -/
theorem merge_on_route (setting : Setting) (file : StatusFile)
    {s : ScriptService.Running Command Answer Raised HandoffEntry LifeWorld}
    (hrun : (controller setting lifeSurroundings).Reaches (.start file) s)
    (before after : List TaskEvent) :
    (s.1.events = before ++ .took .mergePr :: after → ∃ earlier latest fixes,
      before ++ [.took .mergePr] = earlier ++ latest ∧ fixes ≤ maxFixRounds ∧
        latest.destutter (· ≠ ·) = (mergeRoute fixes).dropLast) ∧
    (s.1.events = before ++ .wrote .merged :: after → ∃ earlier latest fixes,
      before ++ [.wrote .merged] = earlier ++ latest ∧ fixes ≤ maxFixRounds ∧
        latest.destutter (· ≠ ·) = mergeRoute fixes) := by
  obtain ⟨phase, hphase, -⟩ := lifecycle_refined setting file hrun
  refine ⟨fun h => ?_, fun h => ?_⟩
  · rw [h] at hphase
    exact attempted_merge_route hphase
  · rw [h] at hphase
    exact recorded_merge_route hphase

/-- Between two restarts of a task, no action exceeds its limit, in however many runs. -/
theorem actions_bounded (setting : Setting) (file : StatusFile)
    {s : ScriptService.Running Command Answer Raised HandoffEntry LifeWorld}
    (hrun : (controller setting lifeSurroundings).Reaches (.start file) s)
    (before stretch after : List TaskEvent) (hevents : s.1.events = before ++ stretch ++ after)
    (hstretch : ∀ event ∈ stretch, event.restarts = false) {action : TaskAction} {limit : Nat}
    (hlimit : action.limit = some limit) : stretch.count (.took action) ≤ limit := by
  obtain ⟨phase, hphase, -⟩ := lifecycle_refined setting file hrun
  rw [hevents] at hphase
  exact bounded_actions hphase hstretch hlimit

/-- The answers of an undisturbed run for issue 7, whose first review requests changes. -/
def lifeAnswer (w : LifeWorld) : (c : Command) → Except Raised (Answer c)
  | .readStatus => .ok w.file
  | .gitStatus => .ok (if w.file.hasState .implementing || w.file.hasState .fixing ||
      w.file.hasState .verifying then [⟨" M", "README.md", none⟩] else [])
  | .loadReviewResult =>
      .ok (if w.events.contains (.took (.spawn .fixing)) then .pass else .changesRequested)
  | c => sampleAnswer c

/-- The effect of a command that succeeds. -/
def lifeEffect (w : LifeWorld) (c : Command) : LifeWorld :=
  match c with
  | .writeStatus status => w.wrote status
  | c => match c.action with
      | some action => w.happens (.took action)
      | none => w

/-- An answer, and the world after it. -/
def lifeRespond (c : Command) (w : LifeWorld) : Except Raised (Answer c) × LifeWorld :=
  (lifeAnswer w c, lifeEffect w c)

/-- The sample answers are what commands do. -/
theorem life_respond (c : Command) (w : LifeWorld) :
    lifeExec c w (lifeRespond c w).1 (lifeRespond c w).2 := by
  cases c with
  | readStatus => exact ⟨rfl, fun file h => (Except.ok.inj h).symm⟩
  | writeStatus status => exact .inl rfl
  | _ => rfl

/-- The merge has been recorded. -/
def LifeWorld.merged (w : LifeWorld) : Bool := w.file.hasState .merged

/-- The run of `run_once` up to the record of its merge. -/
def mergedRun : LifeWorld × Controller (Option HandoffEntry) :=
  ScriptService.play lifeRespond LifeWorld.merged (handoffScript windowSetting .once)
    ((LifeWorld.start .missing).happens .opened)

/-- The merged run is a run of the controller. -/
theorem merged_run_reached :
    (controller windowSetting lifeSurroundings).Reaches (.start .missing)
      (mergedRun.1, some mergedRun.2) :=
  @ScriptService.reaches_play _ _ _ _ _ (controller windowSetting lifeSurroundings) lifeRespond
    LifeWorld.merged _ _ life_respond .refl .once

/-- The events of the merged run are a run of the life cycle. -/
theorem lifecycle_refined_sample :
    mergedRun.1.file.hasState .merged = true ∧
    ∃ phase, runSteps Phase.next (.found none) mergedRun.1.events = some phase ∧
      phase.state = mergedRun.1.file.recorded :=
  ⟨by decide +kernel, lifecycle_refined windowSetting .missing merged_run_reached⟩

/-- They end on the route of a merge with its fix round. -/
theorem merge_on_route_sample :
    ∃ earlier latest fixes, mergedRun.1.events.dropLast ++ [.wrote .merged] = earlier ++ latest ∧
      fixes ≤ maxFixRounds ∧ latest.destutter (· ≠ ·) = mergeRoute fixes :=
  (merge_on_route windowSetting .missing merged_run_reached mergedRun.1.events.dropLast []).2
    (by decide +kernel)

/-- They commit at most three times behind the opening. -/
theorem actions_bounded_sample :
    (mergedRun.1.events.drop 2).count (.took .commit) ≤ 3 :=
  actions_bounded windowSetting .missing merged_run_reached
    (mergedRun.1.events.take 2) _ [] (by simp)
    (by decide +kernel) rfl

end GrowthOs.Handoff
