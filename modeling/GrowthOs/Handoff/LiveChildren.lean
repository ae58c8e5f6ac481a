import GrowthOs.Handoff.CommitWindow
import GrowthOs.Handoff.OperatorStop

/-!
# Live children

A child can outlive the process that launched it. The world is the status file with the process
groups that a record has named and those that are alive. Two faults are tracked: an issue that is
started while a recorded group is alive, and a status that reconciliation does not treat as active
over the record of a task that it still has to reconcile. `Contained` leaves out a child that
outlives its run. Under it the run of a child leaves no group alive: `safe_run_codex_stream`.
-/

namespace GrowthOs.Handoff

open Library

/-- The record names the group as the child that reconciliation has to stop. -/
def Status.names (status : Status) (group : Int) : Bool :=
  status.state.mayHaveChild && status.codexPid == some group && status.instrumented group

/-- The groups that the record names. -/
def Status.named (status : Status) : List Int := status.codexPid.toList.filter status.names

/-- The record in the status file names the group. -/
def StatusFile.names (file : StatusFile) (group : Int) : Bool := file.previous.any (·.names group)

/-- The groups that the record in the status file names. -/
def StatusFile.named (file : StatusFile) : List Int :=
  (file.previous.map (·.named)).getD []

/-- The status file, the process groups that are alive, and those that a record has named. `adopted`
says that the running process has reconciled the recorded task or has started one of its own, and
`raised` that a command has raised since the last child was started; `started` and `overwritten` are
the faults. -/
structure ChildWorld where
  file : StatusFile
  alive : List Int
  recorded : List Int
  adopted : Bool
  raised : Bool
  started : Bool
  overwritten : Bool
  deriving DecidableEq, Repr

/-- The world of a status file in which no process runs yet. -/
def ChildWorld.start (file : StatusFile) (alive : List Int) : ChildWorld :=
  { file
    alive
    recorded := file.named
    adopted := false
    raised := false
    started := false
    overwritten := false }

/-- A recorded group is alive. -/
def ChildWorld.exposed (w : ChildWorld) : Bool := w.recorded.any (w.alive.contains ·)

/-- The recorded task still has to be reconciled: its child is alive, or the running process has
neither reconciled it nor started it. Reconciliation itself ends a task without a live child as
`FAILED`, after `RECOVERY_BLOCKED`. -/
def ChildWorld.unreconciled (w : ChildWorld) (state : HandoffState) : Bool :=
  w.file.active &&
    (w.exposed || (!w.adopted && !(state == .failed && w.file.hasState .recoveryBlocked)))

/-- The world after a record has been written. -/
def ChildWorld.wrote (w : ChildWorld) (status : Status) : ChildWorld :=
  { w with
    file := .record status
    recorded := status.named ++ w.recorded
    adopted := w.adopted || status.state == .syncing || status.state == .recoverableChanges
    started := w.started || (status.state == .syncing && w.exposed)
    overwritten := w.overwritten || (!status.state.active && w.unreconciled status.state) }

/-- The effect of a command that gets an answer. A group with the identifier of an earlier one is
another group. -/
def ChildWorld.after (w : ChildWorld) :
    (command : Command) → Except Raised (Answer command) → ChildWorld
  | .writeStatus status, _ => w.wrote status
  | .spawn _, .ok pid =>
      { w with alive := pid :: w.alive, recorded := w.recorded.filter (· != pid) }
  | _, _ => w

/-- What the answer to a command says about the world that it leaves. A group is looked at, and
terminated, by its identifier. -/
def ChildWorld.tells (w : ChildWorld) : (command : Command) → Except Raised (Answer command) → Prop
  | .readStatus, .ok file => file = w.file
  | .processGroupIsRunning group, .ok running => running = false → group ∉ w.alive
  | .terminateOrphanProcessGroup group, .ok _ => group ∉ w.alive
  | .terminateProcessGroup group, .ok _ => group ∉ w.alive
  | _, _ => True

/-- Any recorded group may have died since, and other groups come and go. -/
def ChildWorld.Goes (w w' : ChildWorld) : Prop :=
  w' = { w with alive := w'.alive, raised := w'.raised } ∧
    ∀ group ∈ w.recorded, group ∈ w'.alive → group ∈ w.alive

/-- A command has raised since the last child was started. -/
def ChildWorld.raisedAfter (w : ChildWorld) :
    (command : Command) → Except Raised (Answer command) → Bool
  | .spawn _, .ok _ => false
  | _, .ok _ => w.raised
  | _, .error _ => true

/-- A command has its effect, whether it then returns or raises, or it raises without an effect. -/
def childExec : Exec Answer Raised ChildWorld := fun command w answer w' =>
  (((w.after command answer).Goes w' ∧ w'.tells command answer) ∨
    (w.Goes w' ∧ ∃ e, answer = .error e)) ∧ w'.raised = w.raisedAfter command answer

/-- The surroundings of the children: the controller can be interrupted and crash anywhere. -/
def childSurroundings : Surroundings ChildWorld where
  exec := childExec
  opening _ w := { w with adopted := false }
  drift w w' := w.Goes w'
  mayCrash _ := True

/-- The `terminate_process_group` of the `finally` of `run_codex_stream`, after a command of it has
raised, leaves the group dead. -/
def Contained (command : Command) (w w' : ChildWorld) : Prop :=
  ∀ group, command = .terminateProcessGroup group → w.raised = true → group ∉ w'.alive

/-- The surroundings whose steps all meet the condition. -/
def contained : Surroundings ChildWorld where
  exec command w answer w' := childExec command w answer w' ∧ Contained command w w'
  opening _ w := { w with adopted := false }
  drift w w' := w.Goes w'
  mayCrash _ := True

/-- What a record names is recorded, and no fault has happened. -/
structure Tracked (w : ChildWorld) : Prop where
  named : ∀ group, w.file.names group = true → group ∈ w.recorded
  notStarted : w.started = false
  notOverwritten : w.overwritten = false

/-- Every recorded group that is alive is named by the record. -/
structure Attributed (w : ChildWorld) : Prop extends Tracked w where
  live : ∀ group ∈ w.recorded, group ∈ w.alive → w.file.names group = true

/-- No recorded group is alive. -/
structure Calm (w : ChildWorld) : Prop extends Tracked w where
  dead : ∀ group ∈ w.recorded, group ∉ w.alive

/-- The running process may go on with the recorded task. -/
structure Adopted (w : ChildWorld) : Prop extends Calm w where
  adopted : w.adopted = true

/-- The child of the running process is the only recorded group that can be alive. -/
structure Supervised (pid : Int) (w : ChildWorld) : Prop extends Tracked w where
  adopted : w.adopted = true
  only : ∀ group ∈ w.recorded, group ∈ w.alive → group = pid ∧ w.file.names pid = true

variable {w w' : ChildWorld} {setting : Setting} {context : StatusContext} {α β : Type}

/-- Where no recorded group is alive, each is attributed. -/
theorem Calm.attributed (hw : Calm w) : Attributed w :=
  ⟨hw.toTracked, fun group hrecorded halive => absurd halive (hw.dead group hrecorded)⟩

/-- So it is where only the supervised child can be. -/
theorem Supervised.attributed {pid : Int} (hw : Supervised pid w) : Attributed w := by
  refine ⟨hw.toTracked, fun group hrecorded halive => ?_⟩
  obtain ⟨rfl, hnames⟩ := hw.only group hrecorded halive
  exact hnames

/-- Before it is started, a child is supervised trivially. -/
theorem Adopted.supervised (hw : Adopted w) (pid : Int) : Supervised pid w :=
  ⟨hw.toTracked, hw.adopted, fun group hrecorded halive => absurd halive (hw.dead group hrecorded)⟩

/-- A record that names no child does not let one be alive. -/
theorem Attributed.calm (hw : Attributed w) (h : ∀ group, w.file.names group = true →
    group ∉ w.alive) : Calm w :=
  ⟨hw.toTracked, fun group hrecorded halive => h group (hw.live group hrecorded halive) halive⟩

/-- While nothing is written the status file stays. -/
theorem ChildWorld.Goes.file_eq (h : w.Goes w') : w'.file = w.file := by
  rw [h.1]

/-- What a record names stays recorded meanwhile. -/
theorem Tracked.goes (hw : Tracked w) (h : w.Goes w') : Tracked w' := by
  rw [h.1]
  exact ⟨hw.named, hw.notStarted, hw.notOverwritten⟩

/-- So do the groups that it is responsible for. -/
theorem Attributed.goes (hw : Attributed w) (h : w.Goes w') : Attributed w' := by
  refine ⟨hw.toTracked.goes h, fun group hrecorded halive => ?_⟩
  have hsame : group ∈ w.recorded := by
    rw [h.1] at hrecorded
    exact hrecorded
  rw [h.file_eq]
  exact hw.live group hsame (h.2 group hsame halive)

/-- No recorded group comes to life. -/
theorem Calm.goes (hw : Calm w) (h : w.Goes w') : Calm w' := by
  refine ⟨hw.toTracked.goes h, fun group hrecorded halive => ?_⟩
  have hsame : group ∈ w.recorded := by
    rw [h.1] at hrecorded
    exact hrecorded
  exact hw.dead group hsame (h.2 group hsame halive)

/-- The running process keeps the task. -/
theorem Adopted.goes (hw : Adopted w) (h : w.Goes w') : Adopted w' := by
  refine ⟨hw.toCalm.goes h, ?_⟩
  rw [h.1]
  exact hw.adopted

/-- The child of the running process stays the only one. -/
theorem Supervised.goes {pid : Int} (hw : Supervised pid w) (h : w.Goes w') :
    Supervised pid w' := by
  refine ⟨hw.toTracked.goes h, ?_, fun group hrecorded halive => ?_⟩
  · rw [h.1]
    exact hw.adopted
  · have hsame : group ∈ w.recorded := by
      rw [h.1] at hrecorded
      exact hrecorded
    rw [h.file_eq]
    exact hw.only group hsame (h.2 group hsame halive)

/-- A command that neither writes the status file nor launches a child. -/
def Command.Still : Command → Prop
  | .writeStatus _ | .spawn _ => False
  | _ => True

/-- A command that raises is noted. -/
theorem raised_of_error {command : Command} {e : Raised}
    (hexec : contained.exec command w (.error e) w') : w'.raised = true := by
  rw [hexec.1.2]
  cases command with
  | _ => rfl

/-- A command that writes and launches nothing only lets groups come and go, and tells the truth. -/
theorem goes_of_still {command : Command} {answer : Except Raised (Answer command)}
    (hcommand : command.Still) (hexec : contained.exec command w answer w') :
    w.Goes w' ∧ ((∃ e, answer = .error e) ∨ w'.tells command answer) := by
  have hafter : w.after command answer = w := by
    cases command with
    | writeStatus status => exact hcommand.elim
    | spawn state => exact hcommand.elim
    | _ => rfl
  cases hexec.1.1 with
  | inl heffect => exact ⟨hafter ▸ heffect.1, .inr heffect.2⟩
  | inr hnothing => exact ⟨hnothing.1, .inl hnothing.2⟩

/-- What holds while nothing is written. -/
structure Stable (J : ChildWorld → Prop) : Prop where
  attributed : ∀ {w}, J w → Attributed w
  goes : ∀ {w w'}, J w → w.Goes w' → J w'

/-- The invariant is stable. -/
theorem stable_attributed : Stable Attributed := ⟨id, Attributed.goes⟩

/-- So is a world without a live child. -/
theorem stable_calm : Stable Calm := ⟨Calm.attributed, Calm.goes⟩

/-- So is one whose task is adopted. -/
theorem stable_adopted : Stable Adopted := ⟨fun hw => hw.toCalm.attributed, Adopted.goes⟩

section

variable {J K : ChildWorld → Prop}

/-- A script that writes and launches nothing keeps what is stable. -/
theorem safe_still (hJ : Stable J) {p : Controller α} (hp : Only Command.Still p) (hw : J w) :
    Safe contained.exec Attributed p w fun _ w' => J w' :=
  safe_of_only hp (fun _ => hJ.attributed)
    (fun _ _ _ _ hcommand hw hexec => hJ.goes hw (goes_of_still hcommand hexec).1) hw

/-- How a call of `write_status` ends: the world is that of its payload, or it has raised and left
the world. -/
structure Wrote (J K : ChildWorld → Prop) (result : Except Raised Unit) (w : ChildWorld) :
    Prop where
  world : K w ∨ (J w ∧ ∃ e, result = .error e)
  raised : ∀ e, result = .error e → w.raised = true

/-- A `write_status` that returns has written. -/
theorem Wrote.of_ok (h : Wrote J K (.ok ()) w) : K w := by
  cases h.world with
  | inl hwritten => exact hwritten
  | inr hkept =>
      obtain ⟨e, he⟩ := hkept.2
      cases he

/-- A `write_status` leaves the world of its payload, or raises and leaves the world. -/
theorem safe_child_write (hJ : Stable J) (hJ' : Stable K) {state : HandoffState}
    {update : StatusUpdate}
    (hwrote : ∀ w, J w → K (w.wrote (update.payload state w.file.previous))) (hw : J w) :
    Safe contained.exec Attributed (writeStatus state update) w (Wrote J K) := by
  refine safe_bind (safe_issue (hJ.attributed hw) fun answer w₁ hexec => ?_)
  have hread : Command.Still .readStatus := trivial
  obtain ⟨hgoes, htells⟩ := goes_of_still hread hexec
  have hw₁ : J w₁ := hJ.goes hw hgoes
  refine ⟨hJ.attributed hw₁, ?_⟩
  cases answer with
  | error e => exact ⟨.inr ⟨hw₁, e, rfl⟩, fun _ _ => raised_of_error hexec⟩
  | ok file =>
      obtain rfl : file = w₁.file := by
        cases htells with
        | inl herror =>
            obtain ⟨e, he⟩ := herror
            cases he
        | inr hread => exact hread
      refine safe_issue (hJ.attributed hw₁) fun answer w₂ hexec => ?_
      have hraised : ∀ e, answer = .error e → w₂.raised = true := by
        rintro e rfl
        exact raised_of_error hexec
      obtain ⟨⟨heffect | hnothing, -⟩, -⟩ := hexec
      · have hw₂ : K w₂ := hJ'.goes (hwrote w₁ hw₁) heffect.1
        exact ⟨hJ'.attributed hw₂, .inl hw₂, hraised⟩
      · have hw₂ : J w₂ := hJ.goes hw₁ hnothing.1
        exact ⟨hJ.attributed hw₂, .inr ⟨hw₂, hnothing.2⟩, hraised⟩

/-- It keeps what holds of both. -/
theorem safe_child_keep (hJ : Stable J) {state : HandoffState} {update : StatusUpdate}
    (hwrote : ∀ w, J w → J (w.wrote (update.payload state w.file.previous))) (hw : J w) :
    Safe contained.exec Attributed (writeStatus state update) w fun _ w' => J w' := by
  refine safe_post (safe_child_write hJ hJ hwrote hw) fun result w₁ _ hw₁ => ?_
  cases hw₁.world with
  | inl hwritten => exact hwritten
  | inr hkept => exact hkept.1

end

/-! ## Writes -/

/-- The groups that a record names. -/
theorem mem_named {status : Status} {group : Int} :
    group ∈ status.named ↔ status.names group = true := by
  unfold Status.named
  rw [List.mem_filter, Option.mem_toList]
  refine ⟨fun h => h.2, fun h => ⟨?_, h⟩⟩
  have hpid : (status.codexPid == some group) = true := by
    unfold Status.names at h
    rw [Bool.and_eq_true, Bool.and_eq_true] at h
    exact h.1.2
  exact beq_iff_eq.mp hpid

/-- Without a live child nothing is exposed. -/
theorem Calm.not_exposed (hw : Calm w) : w.exposed = false := by
  rw [← Bool.not_eq_true]
  intro h
  obtain ⟨group, hrecorded, halive⟩ := List.any_eq_true.mp h
  exact hw.dead group hrecorded (List.contains_iff_mem.mp halive)

/-- The status may be written over the record. -/
def ChildWorld.Permits (w : ChildWorld) (state : HandoffState) : Prop :=
  state.active = true ∨ w.adopted = true ∨ w.file.active = false ∨
    (state = .failed ∧ w.file.hasState .recoveryBlocked = true)

/-- A write that starts no issue and leaves no task behind. -/
theorem Tracked.wrote {status : Status} (hw : Tracked w)
    (hstarted : status.state = .syncing → w.exposed = false)
    (hover : status.state.active = true ∨ w.unreconciled status.state = false) :
    Tracked (w.wrote status) := by
  refine ⟨fun group h => List.mem_append_left _ (mem_named.mpr h), ?_, ?_⟩
  · show (w.started || (status.state == .syncing && w.exposed)) = false
    rw [hw.notStarted, Bool.false_or, Bool.and_eq_false_iff]
    by_cases hstate : status.state = .syncing
    · exact .inr (hstarted hstate)
    · exact .inl (beq_eq_false_iff_ne.mpr hstate)
  · show (w.overwritten || (!status.state.active && w.unreconciled status.state)) = false
    rw [hw.notOverwritten, Bool.false_or, Bool.and_eq_false_iff]
    exact hover.imp (fun h => by rw [h]; rfl) id

/-- A status that may be written is no fault then. -/
theorem Calm.tracked_wrote {status : Status} (hw : Calm w) (h : w.Permits status.state) :
    Tracked (w.wrote status) := by
  refine hw.toTracked.wrote (fun _ => hw.not_exposed) ?_
  obtain hactive | hadopted | hinactive | ⟨hfailed, hblocked⟩ := h
  · exact .inl hactive
  · right
    unfold ChildWorld.unreconciled
    rw [hw.not_exposed, hadopted]
    simp
  · right
    unfold ChildWorld.unreconciled
    rw [hinactive]
    rfl
  · right
    unfold ChildWorld.unreconciled
    rw [hw.not_exposed, hfailed, hblocked]
    simp

/-- It leaves the live groups attributed, whatever it names. -/
theorem Calm.attributed_wrote {status : Status} (hw : Calm w) (h : w.Permits status.state) :
    Attributed (w.wrote status) := by
  refine ⟨hw.tracked_wrote h, fun group hrecorded halive => ?_⟩
  cases List.mem_append.mp hrecorded with
  | inl hnamed => exact mem_named.mp hnamed
  | inr hold => exact absurd halive (hw.dead group hold)

/-- A record without a PID leaves no live child. -/
theorem Calm.wrote {status : Status} (hw : Calm w) (hpid : status.codexPid = none)
    (h : w.Permits status.state) : Calm (w.wrote status) := by
  refine ⟨hw.tracked_wrote h, fun group hrecorded halive => ?_⟩
  have hnamed : status.named = [] := by
    unfold Status.named
    rw [hpid]
    rfl
  have hold : group ∈ w.recorded := by
    have hmem : group ∈ status.named ++ w.recorded := hrecorded
    rw [hnamed] at hmem
    exact hmem
  exact hw.dead group hold halive

/-- It leaves the task adopted. -/
theorem Adopted.wrote {status : Status} (hw : Adopted w) (hpid : status.codexPid = none) :
    Adopted (w.wrote status) := by
  refine ⟨hw.toCalm.wrote hpid (.inr (.inl hw.adopted)), ?_⟩
  show (w.adopted || _ || _) = true
  rw [hw.adopted]
  rfl

/-- The writes that start a task, or go on with it. -/
theorem Calm.adopts {status : Status} (hw : Calm w) (hpid : status.codexPid = none)
    (hstate : status.state = .syncing ∨ status.state = .recoverableChanges) :
    Adopted (w.wrote status) := by
  have hactive : status.state.active = true := by
    cases hstate with
    | inl h => rw [h]; rfl
    | inr h => rw [h]; rfl
  refine ⟨hw.wrote hpid (.inl hactive), ?_⟩
  show (w.adopted || status.state == .syncing || status.state == .recoverableChanges) = true
  cases hstate with
  | inl h => rw [h]; simp
  | inr h => rw [h]; simp

/-- The commands of the other kinds write and launch nothing. -/
theorem still_of_kind {command : Command} {kind : CommandKind} (hkind : command.kind = some kind)
    (h : kind ≠ .child) : command.Still := by
  cases command with
  | writeStatus status => cases hkind
  | spawn state =>
      cases hkind
      exact h rfl
  | _ => trivial

/-- The scripts that neither write the status file nor launch a child. -/
abbrev StillPart (γ : Type) (p : Controller γ) : Prop := Only Command.Still p

/-- Those kinds are allowed for a still script. -/
theorem still_allows {kind : CommandKind} (h : kind ≠ .child) : Allows StillPart kind :=
  fun _ hkind => only_call (still_of_kind hkind h)

/-- A script of still parts is still. -/
theorem still_of_steps {α : Type} {p : Controller α} (h : Composed StillPart p) :
    Only Command.Still p := only_composed h id

/-- The run of the child ends: if the child can be alive, then a command has raised. -/
structure Ending (pid : Int) (w : ChildWorld) : Prop extends Supervised pid w where
  raised : pid ∈ w.recorded → pid ∈ w.alive → w.raised = true

/-- Before a child is started its run has ended trivially. -/
theorem Adopted.ending (hw : Adopted w) (pid : Int) : Ending pid w :=
  ⟨hw.supervised pid, fun hrecorded halive => absurd halive (hw.dead pid hrecorded)⟩

/-- The child is dead. -/
theorem Supervised.adopted_of {pid : Int} (hw : Supervised pid w)
    (hdead : pid ∈ w.recorded → pid ∉ w.alive) : Adopted w := by
  refine ⟨⟨hw.toTracked, fun group hrecorded halive => ?_⟩, hw.adopted⟩
  obtain ⟨rfl, -⟩ := hw.only group hrecorded halive
  exact hdead hrecorded halive

/-- After `terminate_process_group` no recorded group is alive, unless it has raised. -/
theorem safe_captured {state : HandoffState} {pid : Int} (hw : Supervised pid w) :
    Safe contained.exec Attributed (captureChild setting context state pid) w
      fun result w' => match result with
        | .ok _ => Adopted w'
        | .error _ => Ending pid w' ∧ (Ending pid w → Adopted w') := by
  unfold captureChild
  refine safe_bind (safe_issue hw.attributed fun answer w₁ hexec => ?_)
  have hstill : Command.Still (.terminateProcessGroup pid) := trivial
  obtain ⟨hgoes, htells⟩ := goes_of_still hstill hexec
  have hw₁ : Supervised pid w₁ := hw.goes hgoes
  refine ⟨hw₁.attributed, ?_⟩
  cases answer with
  | error e =>
      refine ⟨⟨hw₁, fun _ _ => raised_of_error hexec⟩, fun hending => hw₁.adopted_of ?_⟩
      intro hrecorded halive
      have hbefore : pid ∈ w.recorded := by
        rw [hgoes.1] at hrecorded
        exact hrecorded
      exact hexec.2 pid rfl (hending.raised hbefore (hgoes.2 pid hbefore halive)) halive
  | ok _ =>
      have hdead : pid ∉ w₁.alive := htells.elim (fun h => by
        obtain ⟨e, he⟩ := h
        cases he) id
      have hend : ∀ {result : Except Raised Unit} {w' : ChildWorld}, Adopted w' →
          match result with
          | .ok _ => Adopted w'
          | .error _ => Ending pid w' ∧ (Ending pid w → Adopted w') := by
        intro result w' hw'
        cases result with
        | ok _ => exact hw'
        | error e => exact ⟨hw'.ending pid, fun _ => hw'⟩
      refine safe_bind (safe_post (safe_still stable_adopted (still_of_steps
        (steps_captured_recovery_scope setting (still_allows (by decide))))
          (hw₁.adopted_of fun _ => hdead)) fun result w₂ _ hw₂ => ?_)
      cases result with
      | error e => exact ⟨hw₂.ending pid, fun _ => hw₂⟩
      | ok scope =>
          exact safe_post (safe_child_keep stable_adopted (fun _ hw => hw.wrote rfl) hw₂)
            fun _ _ _ hw₃ => hend hw₃

/-- The `finally` of `run_codex_stream` leaves no recorded group alive. -/
theorem safe_capture_child {state : HandoffState} {pid : Int} (hw : Ending pid w) :
    Safe contained.exec Attributed (captureChild setting context state pid) w
      fun _ w' => Adopted w' := by
  refine safe_post (safe_captured hw.toSupervised) fun result w₁ _ hw₁ => ?_
  cases result with
  | ok _ => exact hw₁
  | error e => exact hw₁.2 hw

/-- The record that names the child. -/
theorem Supervised.wrote {pid : Int} {status : Status} (hw : Supervised pid w)
    (hstate : status.state.supervises = true) (hnames : status.names pid = true) :
    Supervised pid (w.wrote status) := by
  have hactive : status.state.active = true ∧ status.state ≠ .syncing := by
    cases hs : status.state with
    | implementing | fixing | reviewing => exact ⟨rfl, by simp⟩
    | _ =>
        rw [hs] at hstate
        cases hstate
  refine ⟨hw.toTracked.wrote (fun h => absurd h hactive.2) (.inl hactive.1), ?_,
    fun group hrecorded halive => ⟨?_, hnames⟩⟩
  · show (w.adopted || _ || _) = true
    rw [hw.adopted]
    rfl
  · cases List.mem_append.mp hrecorded with
    | inl hnamed =>
        have hgroup := mem_named.mp hnamed
        unfold Status.names at hgroup hnames
        rw [Bool.and_eq_true, Bool.and_eq_true, beq_iff_eq] at hgroup hnames
        exact Option.some.inj (hgroup.1.2.symm.trans hnames.1.2)
    | inr hold => exact (hw.only group hold halive).1

/-- The child of the running process is recorded. -/
structure ChildNamed (pid : Int) (w : ChildWorld) : Prop extends Supervised pid w where
  names : w.file.names pid = true

/-- The record of a child is stable. -/
theorem stable_child_named (pid : Int) : Stable (ChildNamed pid) := by
  refine ⟨fun hw => hw.toSupervised.attributed, fun hw h => ⟨hw.toSupervised.goes h, ?_⟩⟩
  rw [h.file_eq]
  exact hw.names

/-- A record without a PID, as `LAUNCHING`, before the child is started. -/
structure Launching (w : ChildWorld) : Prop extends Adopted w where
  nameless : ∀ group, w.file.names group = false

/-- So is the record before its start. -/
theorem stable_launching : Stable Launching := by
  refine ⟨fun hw => hw.toCalm.attributed, fun hw h => ⟨hw.toAdopted.goes h, fun group => ?_⟩⟩
  rw [h.file_eq]
  exact hw.nameless group

/-- `LAUNCHING` is written without a PID. -/
theorem Adopted.launching {status : Status} (hw : Adopted w) (hpid : status.codexPid = none) :
    Launching (w.wrote status) := by
  refine ⟨hw.wrote hpid, fun group => ?_⟩
  show status.names group = false
  unfold Status.names
  rw [hpid]
  simp

/-- A new group is not a recorded one, whatever its identifier. -/
theorem Launching.spawned (hw : Launching w) (pid : Int) :
    Adopted { w with alive := pid :: w.alive, recorded := w.recorded.filter (· != pid) } := by
  refine ⟨⟨⟨fun group hnames => ?_, hw.notStarted, hw.notOverwritten⟩,
    fun group hrecorded halive => ?_⟩, hw.adopted⟩
  · have hnone := hw.nameless group
    have hsome : w.file.names group = true := hnames
    rw [hnone] at hsome
    cases hsome
  · obtain ⟨hold, hother⟩ := List.mem_filter.mp hrecorded
    have hne : group ≠ pid := bne_iff_ne.mp hother
    cases List.mem_cons.mp halive with
    | inl heq => exact hne heq
    | inr hbefore => exact hw.dead group hold hbefore

/-- A child that is started is not recorded yet. -/
theorem safe_spawn {state : HandoffState} (hw : Launching w) :
    Safe contained.exec Attributed (call (.spawn state)) w fun _ w' => Adopted w' := by
  refine safe_issue hw.toCalm.attributed fun answer w₁ hexec => ?_
  have hw₁ : Adopted w₁ := by
    obtain ⟨⟨heffect | hnothing, -⟩, -⟩ := hexec
    · cases answer with
      | error e => exact hw.toAdopted.goes heffect.1
      | ok pid => exact (hw.spawned pid).goes heffect.1
    · exact hw.toAdopted.goes hnothing.1
  exact ⟨hw₁.toCalm.attributed, hw₁⟩

/-- A record under which a child runs names it. -/
theorem names_of_supervises {state : HandoffState} {update : StatusUpdate}
    {previous : Option Status} {pid : Int} (hstate : state.supervises = true)
    (hpid : update.codexPid = some pid)
    (hgroup : (update.payload state previous).instrumented pid = true) :
    (update.payload state previous).names pid = true := by
  have hchild : state.mayHaveChild = true := by
    cases state with
    | implementing | fixing | reviewing => rfl
    | _ => cases hstate
  have hcodex : (update.payload state previous).codexPid = some pid := hpid
  unfold Status.names
  rw [hcodex, hgroup]
  show (state.mayHaveChild && some pid == some pid && true) = true
  rw [hchild]
  simp

/-- A record that names a child knows its group. -/
theorem instrumented_of_names {file : StatusFile} {pid : Int} (h : file.names pid = true) :
    ∃ status, file.previous = some status ∧ status.instrumented pid = true := by
  obtain ⟨status, hprevious, hnames⟩ := (Option.any_eq_true _ _).mp h
  refine ⟨status, hprevious, ?_⟩
  unfold Status.names at hnames
  rw [Bool.and_eq_true] at hnames
  exact hnames.2

/-- A heartbeat keeps the identity of the child. -/
theorem ChildNamed.heartbeat {pid : Int} {state : HandoffState} {heartbeat : String}
    (hw : ChildNamed pid w) (hstate : state.supervises = true) :
    ChildNamed pid (w.wrote ((StatusUpdate.of context
      { codexPid := some pid, lastChildOutputAt := some heartbeat }).payload state
        w.file.previous)) := by
  obtain ⟨status, hprevious, hinstrumented⟩ := instrumented_of_names hw.names
  have hnames : ((StatusUpdate.of context
      { codexPid := some pid, lastChildOutputAt := some heartbeat }).payload state
        w.file.previous).names pid = true := by
    refine names_of_supervises hstate rfl ?_
    rw [hprevious]
    exact hinstrumented
  exact ⟨hw.toSupervised.wrote hstate hnames, hnames⟩

/-- How a step of the supervision ends: the child is recorded, and an exception is that of a
command. -/
structure Watched (pid : Int) (result : Except Raised α) (w : ChildWorld) : Prop extends
    ChildNamed pid w where
  raised : ∀ e, result = .error e → w.raised = true

/-- An exception of the supervision ends it. -/
theorem Watched.ending {pid : Int} {e : Raised} (h : Watched pid (.error e : Except Raised α) w) :
    Ending pid w :=
  ⟨h.toSupervised, fun _ _ => h.raised e rfl⟩

/-- A command of the supervision. -/
theorem safe_watched {pid : Int} {command : Command} (hcommand : command.Still)
    (hw : ChildNamed pid w) :
    Safe contained.exec Attributed (call command) w (Watched pid) := by
  refine safe_issue hw.toSupervised.attributed fun answer w₁ hexec => ?_
  have hw₁ : ChildNamed pid w₁ := (stable_child_named pid).goes hw (goes_of_still hcommand hexec).1
  refine ⟨hw₁.toSupervised.attributed, hw₁, ?_⟩
  rintro e rfl
  exact raised_of_error hexec

/-- The heartbeats of a child keep naming it. -/
theorem safe_heartbeats {pid : Int} {state : HandoffState} (hstate : state.supervises = true)
    (heartbeats : List String) (hw : ChildNamed pid w) :
    Safe contained.exec Attributed (forEach (writeHeartbeat context state pid) heartbeats) w
      (Watched pid) := by
  induction heartbeats generalizing w with
  | nil => exact safe_pure hw.toSupervised.attributed ⟨hw, fun _ h => (nomatch h)⟩
  | cons heartbeat rest ih =>
      refine safe_bind (safe_post
        (safe_child_write (stable_child_named pid) (stable_child_named pid)
        (fun _ hw => hw.heartbeat hstate) hw) fun result w₁ _ hw₁ => ?_)
      cases result with
      | error e => exact ⟨hw₁.world.elim id fun h => h.1, fun _ _ => hw₁.raised e rfl⟩
      | ok _ =>
          refine safe_bind (safe_post (ih hw₁.of_ok) fun result w₂ hI hw₂ => ?_)
          cases result with
          | error e => exact ⟨hw₂.toChildNamed, fun _ _ => hw₂.raised e rfl⟩
          | ok _ => exact safe_pure hI ⟨hw₂.toChildNamed, fun _ h => (nomatch h)⟩

/-- How the supervision of a child ends. -/
def Supervision (pid : Int) (result : Except Raised α) (w : ChildWorld) : Prop :=
  match result with
  | .ok _ => Adopted w
  | .error _ => Ending pid w

/-- A script before the child is recorded. -/
theorem safe_child_unnamed {pid : Int} {p : Controller β} {f : β → Controller α}
    (hp : Only Command.Still p) (hw : Adopted w)
    (hf : ∀ b w', Adopted w' → Safe contained.exec Attributed (f b) w' (Supervision pid)) :
    Safe contained.exec Attributed (p >>= f) w (Supervision pid) := by
  refine safe_bind (safe_post (safe_still stable_adopted hp hw) fun result w₁ _ hw₁ => ?_)
  cases result with
  | error e => exact hw₁.ending pid
  | ok b => exact hf b w₁ hw₁

/-- A script after it. -/
theorem safe_child_named {pid : Int} {p : Controller β} {f : β → Controller α}
    (hp : Safe contained.exec Attributed p w (Watched pid))
    (hf : ∀ b w', ChildNamed pid w' → Safe contained.exec Attributed (f b) w' (Supervision pid)) :
    Safe contained.exec Attributed (p >>= f) w (Supervision pid) := by
  refine safe_bind (safe_post hp fun result w₁ _ hw₁ => ?_)
  cases result with
  | error e => exact hw₁.ending
  | ok b => exact hf b w₁ hw₁.toChildNamed

/-- The child is recorded before it is released, and terminated before the run of it ends. -/
theorem safe_supervise_codex {state : HandoffState} {base : String} {pid : Int}
    (hstate : state.supervises = true) (hw : Adopted w) :
    Safe contained.exec Attributed (superviseCodex setting context state base pid) w
      (Supervision pid) := by
  unfold superviseCodex
  refine safe_child_unnamed (only_call trivial) hw fun heartbeat w₁ hw₁ => ?_
  refine safe_child_unnamed (only_call trivial) hw₁ fun identity w₂ hw₂ => ?_
  show Safe _ _ (if identity = none then _ else _) w₂ _
  split
  · exact safe_raise hw₂.toCalm.attributed (hw₂.ending pid)
  · rename_i hidentity
    refine safe_child_unnamed (still_of_steps (steps_captured_recovery_scope setting
      (still_allows (by decide)))) hw₂ fun scope w₃ hw₃ => ?_
    refine safe_bind (safe_post (safe_child_write (K := ChildNamed pid) stable_adopted
      (stable_child_named pid) (fun w hw => ?_) hw₃) fun result w₄ _ hw₄ => ?_)
    · refine ⟨(hw.supervised pid).wrote hstate ?_, ?_⟩ <;>
        exact names_of_supervises hstate rfl (by
          obtain ⟨text, rfl⟩ := Option.ne_none_iff_exists'.mp hidentity
          show (some pid == some pid && true) = true
          simp)
    · cases result with
      | error e =>
          refine ⟨hw₄.world.elim (·.toSupervised) fun h => h.1.supervised pid, fun _ _ => ?_⟩
          exact hw₄.raised e rfl
      | ok _ =>
      refine safe_child_named (safe_watched trivial hw₄.of_ok) fun _ w₅ hw₅ => ?_
      refine safe_child_named (safe_watched trivial hw₅) fun child w₆ hw₆ => ?_
      refine safe_child_named (safe_heartbeats hstate _ hw₆) fun _ w₇ hw₇ => ?_
      refine safe_bind (safe_post (safe_captured hw₇.toSupervised) fun result w₈ hI hw₈ => ?_)
      cases result with
      | error e => exact hw₈.1
      | ok _ => exact safe_pure hI hw₈

/-- The run of a child leaves no group alive. -/
theorem safe_run_codex_stream {state : HandoffState} (hstate : state.supervises = true)
    (hw : Adopted w) :
    Safe contained.exec Attributed (runCodexStream setting context state) w
      fun _ w' => Adopted w' := by
  unfold runCodexStream
  refine safe_bind (safe_post (safe_still stable_adopted (only_call trivial) hw)
    fun result w₁ hI hw₁ => ?_)
  cases result with
  | error e => exact hw₁
  | ok base =>
  show Safe _ _ (if base = "" then _ else _) w₁ _
  split
  · exact safe_raise hI hw₁
  · refine safe_bind (safe_post (safe_child_write (K := Launching) stable_adopted stable_launching
      (fun _ hw => hw.launching rfl) hw₁) fun result w₂ _ hw₂ => ?_)
    cases result with
    | error e => exact hw₂.world.elim (·.toAdopted) (·.1)
    | ok _ =>
    refine safe_bind (safe_post (safe_spawn hw₂.of_ok) fun result w₃ _ hw₃ => ?_)
    cases result with
    | error e => exact hw₃
    | ok pid =>
    refine safe_handle (safe_post (safe_supervise_codex hstate hw₃) fun result w₄ _ hw₄ => ?_)
    cases result with
    | ok output => exact hw₄
    | error e =>
        refine safe_bind (safe_post (safe_capture_child hw₄) fun result w₅ hI hw₅ => ?_)
        cases result with
        | error e => exact hw₅
        | ok _ => exact safe_raise hI hw₅

end GrowthOs.Handoff
