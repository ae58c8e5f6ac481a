import GrowthOs.Handoff.LiveChildren

/-!
# One task at a time

The runs of the controller keep to one task: `single_task_safety`. A process goes on with a task
only after reconciliation has found that no recorded group is alive, and ends the run of every child
that it starts itself.
-/

namespace GrowthOs.Handoff

open Library

variable {w w' : ChildWorld} {setting : Setting} {context : StatusContext} {α β : Type}

/-- The scripts that go on with the task of the running process. -/
abbrev AdoptedPart (γ : Type) (p : Controller γ) : Prop :=
  ∀ w, Adopted w → Safe contained.exec Attributed p w fun _ w' => Adopted w'

/-- A script of such parts keeps the task adopted. -/
theorem safe_adopted {p : Controller α} (hp : Composed AdoptedPart p) (hw : Adopted w) :
    Safe contained.exec Attributed p w fun _ w' => Adopted w' :=
  safe_composed hp (fun _ hw => hw.toCalm.attributed) (fun hpart hw => hpart _ hw) hw

/-- The kinds without a child are allowed in it. -/
theorem adopted_allows {kind : CommandKind} (h : kind ≠ .child) : Allows AdoptedPart kind :=
  fun _ hkind _ hw => safe_still stable_adopted (only_call (still_of_kind hkind h)) hw

/-- So is a record without a PID. -/
theorem adopted_write {state : HandoffState} {update : StatusUpdate} (h : update.codexPid = none) :
    AdoptedPart Unit (writeStatus state update) :=
  fun _ hw => safe_child_keep stable_adopted (fun _ hw => hw.wrote h) hw

/-- The steps of a task, with its children and its merge. -/
theorem adopted_task_steps (setting : Setting) (context : StatusContext) (allowMerge : Bool) :
    TaskSteps AdoptedPart setting context allowMerge where
  read := adopted_allows (by decide)
  children _ hstate := .part fun _ hw => safe_run_codex_stream hstate hw
  verify := adopted_allows (by decide)
  stage := adopted_allows (by decide)
  push := adopted_allows (by decide)
  openPr := adopted_allows (by decide)
  editPr := adopted_allows (by decide)
  note := allows_notes (adopted_allows (by decide)) (adopted_allows (by decide))
  write _ _ _ h := adopted_write h
  merge _ := ⟨adopted_allows (by decide), fun _ _ h => adopted_write h⟩

/-- No recorded group is alive, and any status may be written. -/
structure Free (w : ChildWorld) : Prop extends Calm w where
  free : w.adopted = true ∨ w.file.active = false

/-- An adopted task leaves the process free. -/
theorem Adopted.free (hw : Adopted w) : Free w := ⟨hw.toCalm, .inl hw.adopted⟩

/-- Freedom is stable. -/
theorem stable_free : Stable Free := by
  refine ⟨fun hw => hw.toCalm.attributed, fun hw h => ⟨hw.toCalm.goes h, ?_⟩⟩
  rw [h.file_eq, h.1]
  exact hw.free

/-- A free process may write every status. -/
theorem Free.permits (hw : Free w) (state : HandoffState) : w.Permits state :=
  hw.free.elim (fun h => .inr (.inl h)) fun h => .inr (.inr (.inl h))

/-- A status that reconciliation does not treat as active. -/
theorem Free.wrote_inactive {status : Status} (hw : Free w) (hpid : status.codexPid = none)
    (hstate : status.state.active = false) : Free (w.wrote status) :=
  ⟨hw.toCalm.wrote hpid (hw.permits _), .inr hstate⟩

/-- The scripts that run between the tasks. -/
abbrev FreePart (γ : Type) (p : Controller γ) : Prop :=
  ∀ w, Free w → Safe contained.exec Attributed p w fun _ w' => Free w'

/-- A script of free parts stays free. -/
theorem safe_free {p : Controller α} (hp : Composed FreePart p) (hw : Free w) :
    Safe contained.exec Attributed p w fun _ w' => Free w' :=
  safe_composed hp (fun _ hw => hw.toCalm.attributed) (fun hpart hw => hpart _ hw) hw

/-- The kinds without a child are allowed in it. -/
theorem free_allows {kind : CommandKind} (h : kind ≠ .child) : Allows FreePart kind :=
  fun _ hkind _ hw => safe_still stable_free (only_call (still_of_kind hkind h)) hw

/-- So is a record that is not active and names no child. -/
theorem free_write {state : HandoffState} {update : StatusUpdate} (h : update.codexPid = none)
    (hstate : state.active = false) : FreePart Unit (writeStatus state update) :=
  fun _ hw => safe_child_keep stable_free (fun _ hw => hw.wrote_inactive h hstate) hw

/-- So is the record of preserved changes, which an adopted or resting task gets. -/
theorem free_preserve (context : StatusContext) :
    FreePart Unit (writeStatus .recoverableChanges (.of context {})) :=
  fun _ hw => safe_child_keep stable_free
    (fun _ hw => (hw.toCalm.adopts rfl (.inr rfl)).free) hw

/-- So are notes on the issue. -/
theorem free_notes : AllowsNotes FreePart :=
  allows_notes (free_allows (by decide)) (free_allows (by decide))

/-- The handlers of the exceptions of a task. -/
theorem free_handle_task_error (issue : Issue) (error : Raised) :
    Composed FreePart (handleTaskError issue error) :=
  steps_handle_task_error (free_allows (by decide)) free_notes free_preserve
    (fun _ _ => free_write rfl rfl) issue error

/-- The handler of a Ctrl-C of a task is made of free parts. -/
theorem free_handle_task_interrupt (issue : Issue) :
    Composed FreePart (handleTaskInterrupt issue) :=
  steps_handle_task_interrupt (free_allows (by decide)) free_notes free_preserve
    (fun _ _ => free_write rfl rfl) issue

/-- An issue is started when no recorded group is alive. -/
theorem safe_child_process_issue {issue : Issue} (hw : Free w) :
    Safe contained.exec Attributed (processIssue setting issue) w fun _ w' => Free w' := by
  obtain ⟨k, heq, hk⟩ := process_issue_eq setting issue
  rw [heq]
  refine safe_bind (safe_post (safe_still stable_free (only_call trivial) hw)
    fun result w₁ _ hw₁ => ?_)
  cases result with
  | error e => exact hw₁
  | ok startedAt =>
  refine safe_bind (safe_post (safe_child_write (K := Adopted) stable_free stable_adopted
    (fun _ hw => hw.toCalm.adopts rfl (.inl rfl)) hw₁) fun result w₂ _ hw₂ => ?_)
  cases result with
  | error e => exact hw₂.world.elim (·.free) (·.1)
  | ok _ =>
  have hsteps : Composed AdoptedPart (k startedAt) :=
    hk startedAt (adopted_task_steps setting _ true) (adopted_allows (by decide))
  exact safe_post (safe_adopted hsteps hw₂.of_ok) fun _ _ _ hw₃ => hw₃.free

/-- `J` where a script returns. After an exception every live group is attributed. -/
def Returns (J : ChildWorld → Prop) (result : Except Raised α) (w : ChildWorld) : Prop :=
  match result with
  | .ok _ => J w
  | .error _ => Attributed w

/-- A script that keeps `J`, and then another one. -/
theorem safe_child_bind {J : ChildWorld → Prop} {Q : Except Raised α → ChildWorld → Prop}
    {p : Controller β} {f : β → Controller α}
    (hp : Safe contained.exec Attributed p w fun _ w' => J w')
    (hf : ∀ b w', J w' → Safe contained.exec Attributed (f b) w' Q)
    (hQ : ∀ e w', J w' → Q (.error e) w') :
    Safe contained.exec Attributed (p >>= f) w Q := by
  refine safe_bind (safe_post hp fun result w' _ hw' => ?_)
  cases result with
  | ok b => exact hf b w' hw'
  | error e => exact hQ e w' hw'

/-- The record that is reconciled. -/
structure Reconciling (status : Status) (w : ChildWorld) : Prop extends Attributed w where
  file : w.file = .record status

/-- The record under reconciliation is stable. -/
theorem stable_reconciling (status : Status) : Stable (Reconciling status) :=
  ⟨fun hw => hw.toAttributed, fun hw h => ⟨hw.toAttributed.goes h, h.file_eq.trans hw.file⟩⟩

/-- Once its group is dead, no recorded group is alive. -/
theorem Reconciling.calm {status : Status} (hw : Reconciling status w)
    (h : ∀ group, status.names group = true → group ∉ w.alive) : Calm w := by
  refine hw.toAttributed.calm fun group hnames => h group ?_
  rw [hw.file] at hnames
  exact hnames

/-- What it takes for a record to name a group. -/
theorem names_iff {status : Status} {group : Int} : status.names group = true ↔
    status.state.mayHaveChild = true ∧ status.codexPid = some group ∧
      status.instrumented group = true := by
  unfold Status.names
  rw [Bool.and_eq_true, Bool.and_eq_true, beq_iff_eq, and_assoc]

/-- A record that still names every group. -/
theorem Attributed.wrote {status : Status} (hw : Attributed w)
    (hactive : status.state.active = true) (hsyncing : status.state ≠ .syncing)
    (hnames : ∀ group, w.file.names group = true → status.names group = true) :
    Attributed (w.wrote status) := by
  refine ⟨hw.toTracked.wrote (fun h => absurd h hsyncing) (.inl hactive),
    fun group hrecorded halive => ?_⟩
  cases List.mem_append.mp hrecorded with
  | inl hnamed => exact mem_named.mp hnamed
  | inr hold => exact hnames group (hw.live group hold halive)

/-- A blocked reconciliation writes its record and raises. -/
theorem safe_child_fail_blocked {J K : ChildWorld → Prop} (hJ : Stable J) {codexPid : Option Int}
    {detail : String}
    (hwrote : ∀ w, J w → Attributed
      (w.wrote ((StatusUpdate.of context { codexPid }).payload .recoveryBlocked w.file.previous)))
    (hw : J w) :
    Safe contained.exec Attributed (failBlocked context codexPid detail : Controller α) w
      (Returns K) := by
  refine safe_child_bind (J := Attributed) (safe_post (safe_child_write hJ stable_attributed
    (fun w hw => hwrote w hw) hw) fun result w₁ _ hw₁ => ?_) (fun _ w₁ hw₁ => safe_raise hw₁ hw₁)
    fun _ _ hw₁ => hw₁
  exact hw₁.world.elim id fun h => hJ.attributed h.1

/-- `RECOVERY_BLOCKED` keeps the child of the record. -/
theorem safe_reconciling_blocked {K : ChildWorld → Prop} {status : Status} {detail : String}
    (hw : Reconciling status w) :
    Safe contained.exec Attributed (failBlocked context status.codexPid detail : Controller α) w
      (Returns K) := by
  refine safe_child_fail_blocked (stable_reconciling status) (fun w hw => ?_) hw
  refine hw.toAttributed.wrote rfl (show HandoffState.recoveryBlocked ≠ .syncing by decide)
    fun group hnames => ?_
  rw [hw.file] at hnames ⊢
  obtain ⟨-, hpid, hinstrumented⟩ := names_iff.mp (show status.names group = true from hnames)
  exact names_iff.mpr ⟨rfl, hpid, hinstrumented⟩

/-- Where no child is alive it may do so. -/
theorem safe_calm_blocked {K : ChildWorld → Prop} {codexPid : Option Int} {detail : String}
    (hw : Calm w) :
    Safe contained.exec Attributed (failBlocked context codexPid detail : Controller α) w
      (Returns K) :=
  safe_child_fail_blocked stable_calm (fun _ hw => hw.attributed_wrote (.inl rfl)) hw

/-- An orphan that is stopped is dead. -/
theorem safe_child_stop_orphan {status : Status} {pid : Int} (hpid : status.codexPid = some pid)
    (hw : Reconciling status w) :
    Safe contained.exec Attributed (stopOrphan status context pid) w (Returns Calm) := by
  have hJ := stable_reconciling status
  unfold stopOrphan
  refine safe_child_bind (safe_still hJ (only_call trivial) hw) (fun leader w₁ hw₁ => ?_)
    fun _ _ hw₁ => hw₁.toAttributed
  refine safe_child_bind (safe_still hJ (only_ite (only_call trivial) (only_pure _)) hw₁)
    (fun identity w₂ hw₂ => ?_) fun _ _ hw₂ => hw₂.toAttributed
  split
  · rw [← hpid]
    exact safe_reconciling_blocked hw₂
  · refine safe_child_bind (safe_still hJ (still_of_steps (steps_heartbeat_is_stale
      (still_allows (by decide)) _ _)) hw₂) (fun stale w₃ hw₃ => ?_) fun _ _ hw₃ => hw₃.toAttributed
    split
    · exact safe_raise hw₃.toAttributed hw₃.toAttributed
    · refine safe_issue hw₃.toAttributed fun answer w₄ hexec => ?_
      have hstill : Command.Still (.terminateOrphanProcessGroup pid) := trivial
      obtain ⟨hgoes, htells⟩ := goes_of_still hstill hexec
      have hw₄ : Reconciling status w₄ := hJ.goes hw₃ hgoes
      refine ⟨hw₄.toAttributed, ?_⟩
      cases answer with
      | error e => exact hw₄.toAttributed
      | ok _ =>
          have hdead : pid ∉ w₄.alive := htells.elim (fun h => by
            obtain ⟨e, he⟩ := h
            cases he) id
          refine hw₄.calm fun group hnames => ?_
          obtain ⟨-, hgroup, -⟩ := names_iff.mp hnames
          rw [hpid] at hgroup
          exact Option.some.inj hgroup ▸ hdead

/-- Reconciliation goes on when no recorded group is alive. -/
theorem safe_child_reconcile_child {status : Status} (hw : Reconciling status w) :
    Safe contained.exec Attributed (reconcileChild status context) w (Returns Calm) := by
  have hJ := stable_reconciling status
  unfold reconcileChild
  cases hpid : status.codexPid with
  | none =>
      refine safe_pure hw.toAttributed (hw.calm fun group hnames => ?_)
      obtain ⟨-, hgroup, -⟩ := names_iff.mp hnames
      rw [hpid] at hgroup
      cases hgroup
  | some pid =>
  dsimp only
  split
  · split
    · refine safe_bind (safe_issue hw.toAttributed fun answer w₁ hexec => ?_)
      have hstill : Command.Still (.processGroupIsRunning pid) := trivial
      obtain ⟨hgoes, htells⟩ := goes_of_still hstill hexec
      have hw₁ : Reconciling status w₁ := hJ.goes hw hgoes
      refine ⟨hw₁.toAttributed, ?_⟩
      cases answer with
      | error e => exact hw₁.toAttributed
      | ok running =>
      refine safe_bind (safe_post (Q := Returns Calm) ?_ fun result w₂ hI hw₂ => ?_)
      · split
        · exact safe_child_stop_orphan hpid hw₁
        · rename_i hrunning
          have hdead : pid ∉ w₁.alive := htells.elim (fun h => by
            obtain ⟨e, he⟩ := h
            cases he) fun h => h (Bool.eq_false_iff.mpr hrunning)
          refine safe_pure hw₁.toAttributed (hw₁.calm fun group hnames => ?_)
          obtain ⟨-, hgroup, -⟩ := names_iff.mp hnames
          rw [hpid] at hgroup
          exact Option.some.inj hgroup ▸ hdead
      · cases result with
        | error e => exact hw₂
        | ok _ => exact safe_pure hI hw₂
    · rename_i hinstrumented
      refine safe_child_bind (safe_still hJ (only_call trivial) hw) (fun running w₁ hw₁ => ?_)
        fun _ _ hw₁ => hw₁.toAttributed
      split
      · rw [← hpid]
        exact safe_reconciling_blocked hw₁
      · refine safe_pure hw₁.toAttributed (hw₁.calm fun group hnames => ?_)
        obtain ⟨-, hgroup, hnamed⟩ := names_iff.mp hnames
        rw [hpid] at hgroup
        exact absurd (Option.some.inj hgroup ▸ hnamed) hinstrumented
  · rename_i hchild
    refine safe_pure hw.toAttributed (hw.calm fun group hnames => ?_)
    exact absurd (names_iff.mp hnames).1 hchild

/-- `RECOVERABLE_CHANGES` goes on with the recorded task. -/
theorem safe_child_adopt {update : StatusUpdate} (hpid : update.codexPid = none) (hw : Calm w) :
    Safe contained.exec Attributed (writeStatus .recoverableChanges update) w
    (Returns Adopted) := by
  refine safe_post (safe_child_write (K := Adopted) stable_calm stable_adopted
    (fun _ hw => hw.adopts hpid (.inr rfl)) hw) fun result w₁ hI hw₁ => ?_
  cases result with
  | error e => exact hI
  | ok _ => exact hw₁.of_ok

/-- No recorded group is alive, and the record is `RECOVERY_BLOCKED`. -/
structure Blocked (w : ChildWorld) : Prop extends Calm w where
  blocked : w.file.hasState .recoveryBlocked = true

/-- The record of a blocked reconciliation is stable. -/
theorem stable_blocked : Stable Blocked := by
  refine ⟨fun hw => hw.toCalm.attributed, fun hw h => ⟨hw.toCalm.goes h, ?_⟩⟩
  rw [h.file_eq]
  exact hw.blocked

/-- A task without changes ends as `FAILED`. -/
theorem safe_child_without_changes {K : ChildWorld → Prop} (hw : Calm w) :
    Safe contained.exec Attributed (failWithoutChanges setting context) w (Returns K) := by
  unfold failWithoutChanges
  refine safe_bind (safe_post (safe_child_write (K := Blocked) stable_calm stable_blocked
    (fun _ hw => ⟨hw.wrote rfl (.inl rfl), rfl⟩) hw) fun result w₁ hI hw₁ => ?_)
  cases result with
  | error e => exact hI
  | ok _ =>
  refine safe_child_bind
    (safe_still stable_blocked (still_of_steps (steps_load_recovery_issue setting
    (still_allows (by decide)))) hw₁.of_ok) (fun payload w₂ hw₂ => ?_) fun _ _ hw₂ =>
    hw₂.toCalm.attributed
  refine safe_child_bind (J := Calm) ?_ (fun _ w₃ hw₃ => safe_raise hw₃.attributed hw₃.attributed)
    fun _ _ hw₃ => hw₃.attributed
  refine safe_child_bind (J := Calm)
    (safe_post (safe_child_write (K := Calm) stable_blocked stable_calm
    (fun _ hw => hw.toCalm.wrote rfl (.inr (.inr (.inr ⟨rfl, hw.blocked⟩)))) hw₂)
      fun _ _ _ hw₃ => hw₃.world.elim id fun h => h.1.toCalm) (fun _ w₃ hw₃ => ?_)
      fun _ _ hw₃ => hw₃
  refine safe_still stable_calm (still_of_steps (composed_bind ?_ fun _ => ?_)) hw₃
  · exact steps_replace_label (still_allows (by decide)) _ _ (by decide)
  · exact steps_call rfl (still_allows (by decide))

/-- Where no child is alive the confirmation may be asked for. -/
theorem safe_child_confirmation {K : ChildWorld → Prop} {codexPid : Option Int} {text : String}
    (hw : Calm w) :
    Safe contained.exec Attributed (do
      writeStatus .recoveryConfirmationRequired (.of context { codexPid })
      fail (.runtimeError text) : Controller α) w (Returns K) := by
  refine safe_child_bind (J := Attributed)
    (safe_post (safe_child_write stable_calm stable_attributed
    (fun _ hw => hw.attributed_wrote (.inl rfl)) hw) fun _ _ _ hw₁ => ?_)
    (fun _ w₁ hw₁ => safe_raise hw₁ hw₁) fun _ _ hw₁ => hw₁
  exact hw₁.world.elim id fun h => h.1.attributed

/-- The changes of a dead child are adopted. -/
theorem safe_child_reconcile_changes {status : Status} {stoppedChild hasChanges : Bool}
    (hw : Calm w) :
    Safe contained.exec Attributed (reconcileChanges setting status context stoppedChild hasChanges)
      w (Returns Adopted) := by
  have hreturn : ∀ {update : StatusUpdate}, update.codexPid = none → ∀ {w}, Calm w →
      Safe contained.exec Attributed (do
        writeStatus .recoverableChanges update
        pure context : Controller StatusContext) w (Returns Adopted) := by
    intro update hpid w hw
    refine safe_bind (safe_post (safe_child_adopt hpid hw) fun result w₁ hI hw₁ => ?_)
    cases result with
    | error e => exact hw₁
    | ok _ => exact safe_pure hI hw₁
  unfold reconcileChanges
  split
  · unfold recoverPendingCommit
    refine safe_child_bind (safe_still stable_calm (still_of_steps (steps_head_revision
      (still_allows (by decide)))) hw) (fun revision w₁ hw₁ => ?_) fun _ _ hw₁ => hw₁.attributed
    split
    · exact hreturn rfl hw₁
    · exact safe_raise hw₁.attributed hw₁.attributed
  · split
    · exact safe_child_without_changes hw
    · split
      · exact safe_child_confirmation hw
      · split
        · exact safe_child_confirmation hw
        · exact hreturn rfl hw

/-- The reconciliation of a task raises or adopts it. -/
theorem safe_child_reconcile_task {status : Status} (hw : Reconciling status w) :
    Safe contained.exec Attributed (reconcileTask setting status context) w (Returns Adopted) := by
  unfold reconcileTask
  split
  · exact safe_raise hw.toAttributed hw.toAttributed
  · refine safe_bind (safe_post (safe_child_reconcile_child hw) fun result w₁ _ hw₁ => ?_)
    cases result with
    | error e => exact hw₁
    | ok stopped =>
    refine safe_child_bind (safe_still stable_calm (only_call trivial) hw₁)
      (fun branch w₂ hw₂ => ?_)
      fun _ _ hw₂ => hw₂.attributed
    split
    · exact safe_calm_blocked hw₂
    · refine safe_bind (safe_post (Q := Returns Calm) ?_ fun result w₃ _ hw₃ => ?_)
      · split
        · unfold checkStoppedBase
          refine safe_child_bind (safe_still stable_calm (only_call trivial) hw₂)
            (fun head w₃ hw₃ => ?_) fun _ _ hw₃ => hw₃.attributed
          split
          · exact safe_calm_blocked hw₃
          · exact safe_pure hw₃.attributed hw₃
        · exact safe_pure hw₂.attributed hw₂
      · cases result with
        | error e => exact hw₃
        | ok _ =>
            exact safe_child_bind (safe_still stable_calm (only_call trivial) hw₃)
              (fun entries w₄ hw₄ => safe_child_reconcile_changes hw₄) fun _ _ hw₄ => hw₄.attributed

/-- A record that names a group is active. -/
theorem active_of_names {file : StatusFile} {group : Int} (h : file.names group = true) :
    file.active = true := by
  cases file with
  | missing | unreadable => cases h
  | record status =>
      have hchild := (names_iff.mp (show status.names group = true from h)).1
      show status.state.active = true
      cases hs : status.state with
      | implementing | fixing | reviewing | recoveryBlocked => rfl
      | _ =>
          rw [hs] at hchild
          cases hchild

/-- A record that reconciliation passes over. -/
theorem Attributed.free (hw : Attributed w) (h : w.file.active = false) : Free w := by
  refine ⟨hw.calm fun group hnames => ?_, .inr h⟩
  have hactive := active_of_names hnames
  rw [h] at hactive
  cases hactive

/-- What `reconcile_stale_run` leaves: the recorded task is adopted, or there is none. -/
def ReconciledChild (result : Except Raised (Option StatusContext)) (w : ChildWorld) : Prop :=
  match result with
  | .ok (some _) => Adopted w
  | .ok none => Free w
  | .error _ => Attributed w

/-- `reconcile_stale_run` adopts the task, or finds none to reconcile. -/
theorem safe_child_reconcile (hw : Attributed w) :
    Safe contained.exec Attributed (reconcileStaleRun setting) w ReconciledChild := by
  refine safe_bind (safe_issue hw fun answer w₁ hexec => ?_)
  have hstill : Command.Still .readStatus := trivial
  obtain ⟨hgoes, htells⟩ := goes_of_still hstill hexec
  have hw₁ : Attributed w₁ := hw.goes hgoes
  refine ⟨hw₁, ?_⟩
  cases answer with
  | error e => exact hw₁
  | ok file =>
  have hfile : file = w₁.file := htells.elim (fun h => by
    obtain ⟨e, he⟩ := h
    cases he) id
  cases file with
  | missing => exact safe_pure hw₁ (hw₁.free (hfile ▸ rfl))
  | unreadable => exact safe_raise hw₁ hw₁
  | record status =>
  show Safe _ _ (if !status.state.active then _ else _) w₁ _
  split
  · rename_i hinactive
    have hstate : status.state.active = false := (Bool.not_eq_true' _).mp hinactive
    exact safe_pure hw₁ (hw₁.free (hfile ▸ hstate))
  · cases status.context with
    | none => exact safe_raise hw₁ hw₁
    | some context =>
        refine safe_bind (safe_post (safe_child_reconcile_task ⟨hw₁, hfile.symm⟩)
          fun result w₂ hI hw₂ => ?_)
        cases result with
        | error e => exact hw₂
        | ok recovered => exact safe_pure hI hw₂

/-! ## Runs -/

/-- A recovery keeps the task adopted. -/
theorem safe_child_recover (hw : Adopted w) :
    Safe contained.exec Attributed (recoverChanges setting context) w fun _ w' => Adopted w' :=
  safe_adopted (steps_recover_changes setting (adopted_task_steps setting context false)) hw

/-- So does the recovery of `run_watch`. -/
theorem safe_child_watch_recovery (hw : Adopted w) :
    Safe contained.exec Attributed (watchRecovery setting context) w fun _ w' => Adopted w' :=
  safe_adopted (steps_watch_recovery setting (adopted_allows (by decide))
    (fun _ => adopted_write rfl) (adopted_task_steps setting context false)) hw

/-- `run_once` and the loop of `run_watch` without a task to recover, up to the next issue. -/
theorem safe_child_next_issue (hw : Free w) :
    Safe contained.exec Attributed (nextIssue setting) w fun _ w' => Free w' :=
  safe_still stable_free (still_of_steps (steps_next_issue setting (still_allows (by decide)))) hw

/-- The check of the working tree leaves the process free. -/
theorem safe_child_clean_tree (hw : Free w) :
    Safe contained.exec Attributed cleanTreeRequired w fun _ w' => Free w' :=
  safe_still stable_free (still_of_steps (steps_clean_tree_required (still_allows (by decide)))) hw

/-- `run_once` leaves the live groups attributed. -/
theorem safe_child_once (hw : Attributed w) :
    Safe contained.exec Attributed (runOnceLocked setting) w fun _ w' => Attributed w' := by
  have hend : ∀ w, Free w → Attributed w := fun _ hw => hw.toCalm.attributed
  refine safe_bind (safe_post (safe_child_reconcile hw) fun result w₁ _ hw₁ => ?_)
  cases result with
  | error e => exact hw₁
  | ok recovery =>
  cases recovery with
  | some recovery =>
      exact safe_post (safe_child_recover hw₁) fun _ w₂ _ hw₂ => hend w₂ hw₂.free
  | none =>
  refine safe_child_bind (safe_child_clean_tree hw₁) (fun _ w₂ hw₂ => ?_)
    fun _ w₂ hw₂ => hend w₂ hw₂
  refine safe_child_bind (safe_child_next_issue hw₂) (fun issue w₃ hw₃ => ?_)
    fun _ w₃ hw₃ => hend w₃ hw₃
  cases issue with
  | none => exact safe_post (free_write rfl rfl w₃ hw₃) fun _ w₄ _ hw₄ => hend w₄ hw₄
  | some issue =>
  refine safe_handle (safe_post (safe_child_process_issue hw₃) fun result w₄ hI hw₄ => ?_)
  cases result with
  | ok _ => exact hend w₄ hw₄
  | error e =>
      cases e with
      | recoverableChangesError | keyboardInterrupt => exact safe_raise hI (hend w₄ hw₄)
      | calledProcessError | jsonDecodeError | runtimeError | valueError | activeOrphanError
      | otherException =>
          exact safe_post (safe_free (free_handle_task_error issue _) hw₄)
            fun _ w₅ _ hw₅ => hend w₅ hw₅

/-- A task of `run_watch` leaves the process free. -/
theorem safe_child_watch_issue {issue : Issue} (hw : Free w) :
    Safe contained.exec Attributed (watchIssue setting issue) w fun _ w' => Free w' := by
  refine safe_and_then (safe_post (safe_child_process_issue hw) fun result w₁ hI hw₁ => ?_)
  cases result with
  | ok _ => exact safe_pure hI hw₁
  | error e =>
      cases e with
      | recoverableChangesError text => exact safe_raise hI hw₁
      | keyboardInterrupt =>
          exact safe_free (composed_bind (free_handle_task_interrupt issue)
            fun _ => composed_pure false) hw₁
      | calledProcessError | jsonDecodeError | runtimeError | valueError | activeOrphanError
      | otherException =>
          exact safe_free (composed_bind (free_handle_task_error issue _)
            fun _ => composed_pure false) hw₁

/-- So does a round without a recovery. -/
theorem safe_child_watch_for_issue (hw : Free w) :
    Safe contained.exec Attributed (watchForIssue setting) w fun _ w' => Free w' := by
  refine safe_child_bind (safe_child_clean_tree hw) (fun _ w₁ hw₁ => ?_) fun _ _ hw₁ => hw₁
  refine safe_child_bind (safe_child_next_issue hw₁) (fun issue w₂ hw₂ => ?_) fun _ _ hw₂ => hw₂
  cases issue with
  | none =>
      refine safe_child_bind (free_write rfl rfl w₂ hw₂) (fun _ w₃ hw₃ => ?_) fun _ _ hw₃ => hw₃
      exact safe_still stable_free (only_bind (only_call trivial) fun _ => only_pure true) hw₃
  | some issue => exact safe_child_watch_issue hw₂

/-- A Ctrl-C reaches the handler of `run_watch` only from a record that reconciliation passes
over. -/
abbrev stopsIdleChild : Condition Answer Raised (Option HandoffEntry) ChildWorld :=
  StopsIdle fun w => w.file.active = false

/-- Under the condition a Ctrl-C that the body of the loop hands on leaves no recorded group
alive. -/
theorem safe_child_watch_body (hw : Attributed w) :
    SafeUnder contained.exec (inRound stopsIdleChild) Attributed (watchBody setting) w
      (StopsAt Attributed Free) := by
  have hfree : ∀ {result : Except Raised Bool} {w : ChildWorld}, Free w →
      StopsAt Attributed Free result w := fun hw => ⟨hw.toCalm.attributed, fun _ => hw⟩
  -- Reconciliation does not take a Ctrl-C, so one that leaves it is bounded by the condition.
  refine safe_under_and_then (safe_under_post
    (safe_under_of_passes (passes_reconcile_stale_run setting)
    (safe_child_reconcile hw) (bounds_before bounds_stops_idle rfl)) fun result w₁ hI hw₁ => ?_)
  obtain ⟨hw₁, hstop⟩ := hw₁
  cases result with
  | error e =>
      cases e with
      | activeOrphanError text =>
          refine safe_under_post (safe_under_of_passes (passes_bind (passes_call _) fun _ =>
            passes_pure _ _) (safe_still stable_attributed (only_bind (only_call trivial)
              fun _ => only_pure true) hw₁) bounds_stops_idle) fun result w₂ _ hw₂ => ?_
          exact ⟨hw₂.1, fun hresult => hw₂.1.free (hw₂.2 hresult)⟩
      | keyboardInterrupt => exact ⟨hI, hw₁, fun _ => hw₁.free (hstop rfl)⟩
      | calledProcessError | jsonDecodeError | runtimeError | valueError | recoverableChangesError
      | otherException => exact ⟨hI, hw₁, nofun⟩
  | ok recovery =>
  cases recovery with
  | some recovery =>
      exact safe_under_of_safe (safe_child_bind (safe_child_watch_recovery hw₁)
        (fun _ w₂ hw₂ => safe_pure hw₂.toCalm.attributed (hfree hw₂.free))
        fun _ _ hw₂ => hfree hw₂.free)
  | none =>
      exact safe_under_of_safe (safe_post (safe_child_watch_for_issue hw₁)
        fun _ _ _ hw₂ => hfree hw₂)

/-- The handler of `run_watch` where no recorded group is alive. -/
theorem safe_child_stop (hw : Free w) :
    Safe contained.exec Attributed (stopWatch .keyboardInterrupt) w fun _ w' => Attributed w' := by
  refine safe_child_bind (free_write rfl rfl w hw) (fun _ w₁ hw₁ => ?_)
    fun _ _ hw₁ => hw₁.toCalm.attributed
  exact safe_pure hw₁.toCalm.attributed hw₁.toCalm.attributed

/-- A round of the loop of `run_watch`, under the condition. -/
theorem safe_child_watch_round (hw : Attributed w) :
    SafeUnder contained.exec stopsIdleChild Attributed (watchRound setting) w
      fun _ w' => Attributed w' :=
  safe_under_watch_round (safe_child_watch_body hw) (fun _ => safe_child_stop) (fun _ hw => hw)
    fun _ _ _ hw₁ hexec =>
      hw₁.goes (goes_of_still (show Command.Still .releaseLock from trivial) hexec).1

/-- A new process has not adopted the recorded task. -/
theorem Attributed.opened (hw : Attributed w) : Attributed { w with adopted := false } :=
  ⟨⟨hw.named, hw.notStarted, hw.notOverwritten⟩, hw.live⟩

/-- The groups that the status file names. -/
theorem mem_file_named {file : StatusFile} {group : Int} :
    group ∈ file.named ↔ file.names group = true := by
  cases file with
  | missing | unreadable => exact ⟨fun h => (nomatch h), fun h => (nomatch h)⟩
  | record status => exact mem_named

/-- A confirmed task starts from a world without a live child. -/
theorem safe_child_confirm_task {status : Status} (hw : Calm w) :
    Safe contained.exec Attributed (confirmTask setting status context) w
      fun _ w' => Attributed w' := by
  have hstill : ∀ {γ : Type} {p : Controller γ} {w : ChildWorld}, Composed StillPart p → Calm w →
      Safe contained.exec Attributed p w fun _ w' => Calm w' :=
    fun hp hw => safe_still stable_calm (still_of_steps hp) hw
  have hread : Allows StillPart .read := still_allows (by decide)
  unfold confirmTask
  refine safe_child_bind (hstill (steps_load_recovery_issue setting hread) hw) (fun _ w₁ hw₁ => ?_)
    fun _ _ hw₁ => hw₁.attributed
  refine safe_child_bind (hstill (steps_confirm_stopped_child hread status) hw₁)
    (fun _ w₂ hw₂ => ?_) fun _ _ hw₂ => hw₂.attributed
  refine safe_child_bind (hstill (steps_confirm_checkout hread status) hw₂) (fun _ w₃ hw₃ => ?_)
    fun _ _ hw₃ => hw₃.attributed
  refine safe_child_bind (hstill (steps_captured_recovery_scope setting hread) hw₃)
    (fun scope w₄ hw₄ => ?_) fun _ _ hw₄ => hw₄.attributed
  show Safe _ _ (if scope.1 = none ∨ scope.2 = some "" then _ else _) w₄ _
  split
  · exact safe_raise hw₄.attributed hw₄.attributed
  · refine safe_bind (safe_post (safe_child_adopt rfl hw₄) fun result w₅ _ hw₅ => ?_)
    cases result with
    | error e => exact hw₅
    | ok _ => exact safe_post (safe_child_recover hw₅) fun _ _ _ hw₆ => hw₆.toCalm.attributed

/-- `confirm_recovery` goes on with a record that names no child. -/
theorem safe_child_confirm (hw : Attributed w) :
    Safe contained.exec Attributed (confirmRecordedTask setting) w fun _ w' => Attributed w' := by
  refine safe_bind (safe_issue hw fun answer w₁ hexec => ?_)
  have hstill : Command.Still .readStatus := trivial
  obtain ⟨hgoes, htells⟩ := goes_of_still hstill hexec
  have hw₁ : Attributed w₁ := hw.goes hgoes
  refine ⟨hw₁, ?_⟩
  cases answer with
  | error e => exact hw₁
  | ok file =>
  have hfile : file = w₁.file := htells.elim (fun h => by
    obtain ⟨e, he⟩ := h
    cases he) id
  cases file with
  | missing | unreadable => exact safe_raise hw₁ hw₁
  | record status =>
  show Safe _ _ (if status.state ≠ .recoveryConfirmationRequired then _ else _) w₁ _
  split
  · exact safe_raise hw₁ hw₁
  · rename_i hstate
    have hcalm : Calm w₁ := hw₁.calm fun group hnames => by
      rw [← hfile] at hnames
      have hchild := (names_iff.mp (show status.names group = true from hnames)).1
      rw [not_not.mp hstate] at hchild
      cases hchild
    cases status.context with
    | none => exact safe_raise hw₁ hw₁
    | some context => exact safe_child_confirm_task hcalm

/-- Every entry of the controller leaves the groups that are alive attributed. -/
theorem safe_child_script (entry : HandoffEntry) (hw : Attributed w) :
    SafeUnder contained.exec stopsIdleChild Attributed (handoffScript setting entry) w
      fun _ w' => Attributed w' := by
  have hstarted : ∀ {w : ChildWorld}, Attributed w →
      Safe contained.exec Attributed startController w fun _ w' => Attributed w' :=
    fun hw => safe_still stable_attributed (still_of_steps (steps_start_controller
      (still_allows (by decide)))) hw
  have hlocked : ∀ {p : Controller Unit} {w : ChildWorld},
      Safe contained.exec Attributed p w (fun _ w' => Attributed w') →
      Safe contained.exec Attributed (do
        p.finally_ (call .releaseLock)
        pure none : Controller (Option HandoffEntry)) w fun _ w' => Attributed w' := by
    intro p w hp
    refine safe_child_bind (safe_finally (safe_post hp fun result w₁ _ hw₁ => ?_))
      (fun _ w₂ hw₂ => safe_pure hw₂ hw₂) fun _ _ hw₂ => hw₂
    refine safe_post (safe_still stable_attributed (only_call trivial) hw₁)
      fun released w₂ _ hw₂ => ?_
    cases released with
    | error e => exact hw₂
    | ok _ => exact hw₂
  cases entry with
  | once =>
      exact safe_under_of_safe (safe_child_bind (hstarted hw)
        (fun _ w₁ hw₁ => hlocked (safe_child_once hw₁)) fun _ _ hw₁ => hw₁)
  | watch =>
      refine safe_under_and_then (safe_under_of_safe
        (safe_post (hstarted hw) fun result w₁ hI hw₁ => ?_))
      cases result with
      | error e => exact ⟨hI, hw₁⟩
      | ok _ => exact safe_child_watch_round hw₁
  | watching => exact safe_child_watch_round hw
  | confirm =>
      exact safe_under_of_safe (safe_child_bind (hstarted hw)
        (fun _ w₁ hw₁ => hlocked (safe_child_confirm hw₁)) fun _ _ hw₁ => hw₁)

/-- In every run that is contained and in which a Ctrl-C reaches the handler of `run_watch` only
from a record that is not active, from any status file and whatever is alive then: no issue is
started while a recorded group is alive, and the record of a task that still has to be reconciled is
not overwritten with a status that reconciliation does not treat as active. -/
theorem single_task_safety (setting : Setting) (file : StatusFile) (alive : List Int)
    {s : ScriptService.Running Command Answer Raised HandoffEntry ChildWorld}
    (hrun : (controller setting contained).ReachesUnder stopsIdleChild (.start file alive) s) :
    s.1.started = false ∧ s.1.overwritten = false := by
  have hstart : Attributed (.start file alive) := by
    refine ⟨⟨fun group hnames => ?_, rfl, rfl⟩, fun group hrecorded _ => ?_⟩
    · exact mem_file_named.mpr hnames
    · exact mem_file_named.mp hrecorded
  have hinvariant : Attributed s.1 := by
    refine ScriptService.invariant_of_reaches_under (I := Attributed) (J := Attributed) ?_ ?_ ?_ ?_
      hstart hrun
    · exact fun entry w hw => safe_child_script entry hw.opened
    · exact fun w hw _ => hw
    · exact fun w w' hw hdrift => hw.goes hdrift
    · exact fun w hw => hw
  exact ⟨hinvariant.notStarted, hinvariant.notOverwritten⟩

/-- The answers of a checkout that the child leaves clean. The watch is interrupted when it waits,
and `terminate` is what becomes of the child at the end of its run. -/
def childAnswer (terminate : Except Raised Unit) (w : ChildWorld) :
    (c : Command) → Except Raised (Answer c)
  | .readStatus => .ok w.file
  | .gitStatus => .ok []
  | .sleep => .error .keyboardInterrupt
  | .pidIsRunning pid => .ok (w.alive.contains pid)
  | .processGroupIsRunning group => .ok (w.alive.contains group)
  | .terminateProcessGroup _ => terminate
  | c => sampleAnswer c

/-- A group that has been terminated. -/
def ChildWorld.without (w : ChildWorld) (group : Int) : ChildWorld :=
  { w with alive := w.alive.filter (· != group) }

/-- The effect of an answer. -/
def childEffect (w : ChildWorld) : (c : Command) → Except Raised (Answer c) → ChildWorld
  | .terminateProcessGroup group, .ok _ => w.without group
  | .terminateOrphanProcessGroup group, .ok _ => w.without group
  | c, answer => w.after c answer

/-- An answer, and the world after it. -/
def childRespond (terminate : Except Raised Unit) (c : Command) (w : ChildWorld) :
    Except Raised (Answer c) × ChildWorld :=
  let answer := childAnswer terminate w c
  (answer, { childEffect w c answer with raised := w.raisedAfter c answer })

/-- The sample answers are what commands do. -/
theorem child_respond (terminate : Except Raised Unit) (c : Command) (w : ChildWorld) :
    childExec c w (childRespond terminate c w).1 (childRespond terminate c w).2 := by
  have hself : ∀ (w : ChildWorld) raised, w.Goes { w with raised } :=
    fun _ _ => ⟨rfl, fun _ _ h => h⟩
  have hwithout : ∀ group raised, w.Goes { w.without group with raised } := fun group _ =>
    ⟨rfl, fun _ _ h => (List.mem_filter.mp h).1⟩
  have hdead : ∀ group, group ∉ (w.without group).alive := fun group h => by
    have hother := (List.mem_filter.mp h).2
    simp at hother
  refine ⟨?_, rfl⟩
  cases c with
  | readStatus => exact .inl ⟨hself w _, rfl⟩
  | processGroupIsRunning group =>
      refine .inl ⟨hself w _, fun hrunning hmem => ?_⟩
      have hcontains : w.alive.contains group = true := List.contains_iff_mem.mpr hmem
      have hnot : w.alive.contains group = false := hrunning
      rw [hcontains] at hnot
      cases hnot
  | terminateOrphanProcessGroup group => exact .inl ⟨hwithout group _, hdead group⟩
  | terminateProcessGroup group =>
      cases terminate with
      | ok _ => exact .inl ⟨hwithout group _, hdead group⟩
      | error e => exact .inr ⟨hself w _, e, rfl⟩
  | sleep => exact .inr ⟨hself w _, _, rfl⟩
  | _ => exact .inl ⟨hself _ _, trivial⟩

/-- The child is recorded, and the controller crashes. -/
def childRecorded (w : ChildWorld) : Bool := w.file.hasState .implementing

/-- A watch that waits for a live child is interrupted: its `STOPPED` lets the next run start an
issue beside the child. A child that `terminate_process_group` does not stop has its record ended as
`FAILED`. -/
theorem single_task_violated :
    (∃ s, (controller sampleSetting childSurroundings).Reaches (.start .missing []) s ∧
      s.1.file.hasState .stopped = true ∧ s.1.overwritten = true) ∧
    (∃ s, (controller sampleSetting childSurroundings).Reaches (.start .missing []) s ∧
      s.1.started = true) ∧
    ∃ s, (controller sampleSetting childSurroundings).Reaches (.start .missing []) s ∧
      s.1.file.hasState .failed = true ∧ s.1.overwritten = true := by
  have hstart : (controller sampleSetting childSurroundings).Reaches (.start .missing [])
      (.start .missing [], none) := .refl
  have hanswers := child_respond (.ok ())
  -- The controller crashes beside the child that it has recorded.
  have hrecorded := @ScriptService.reaches_play _ _ _ _ _
    (controller sampleSetting childSurroundings) (childRespond (.ok ())) childRecorded _ _ hanswers
    hstart .once
  have hcrashed := Relation.ReflTransGen.tail hrecorded (.crash trivial)
  have hwatch := @ScriptService.reaches_play _ _ _ _ _ (controller sampleSetting childSurroundings)
    (childRespond (.ok ())) (fun w => w.file.hasState .stopped) _ _ hanswers hcrashed .watch
  refine ⟨⟨_, hwatch, ?_, ?_⟩, ?_, ?_⟩
  · decide +kernel
  · decide +kernel
  · have hstopped := Relation.ReflTransGen.tail hwatch (.crash trivial)
    have hnext := @ScriptService.reaches_play _ _ _ _ _
      (controller sampleSetting childSurroundings) (childRespond (.ok ())) (fun w => w.started) _ _
      hanswers hstopped .once
    refine ⟨_, hnext, ?_⟩
    decide +kernel
  · have hrun := @ScriptService.reaches_play _ _ _ _ _ (controller sampleSetting childSurroundings)
      (childRespond (.error (.runtimeError "process group 4242 did not stop")))
      (fun w => w.overwritten) _ _
      (child_respond (.error (.runtimeError "process group 4242 did not stop"))) hstart .once
    refine ⟨_, hrun, ?_, ?_⟩
    · decide +kernel
    · decide +kernel

/-- The answers of a contained run: no issue is ready until the watch has been stopped, and a wait
is interrupted only when the record is not active. -/
def containedRespond (c : Command) (w : ChildWorld) : Except Raised (Answer c) × ChildWorld :=
  match c with
  | .ghReadyIssues => if w.file = .missing ∨ w.file.hasState .idle then (.ok [], w)
      else childRespond (.ok ()) .ghReadyIssues w
  | .sleep => if w.file.active then (.ok (), w)
      else (.error .keyboardInterrupt, { w with raised := true })
  | c => childRespond (.ok ()) c w

/-- They are contained. -/
theorem contained_respond (c : Command) (w : ChildWorld) :
    contained.exec c w (containedRespond c w).1 (containedRespond c w).2 := by
  have hself : ∀ raised, w.Goes { w with raised } := fun _ => ⟨rfl, fun _ _ h => h⟩
  cases c with
  | ghReadyIssues =>
      unfold containedRespond
      dsimp only
      split
      · exact ⟨⟨.inl ⟨hself w.raised, trivial⟩, rfl⟩, fun _ h => (nomatch h)⟩
      · exact ⟨child_respond (.ok ()) _ w, fun _ h => (nomatch h)⟩
  | sleep =>
      unfold containedRespond
      dsimp only
      split
      · exact ⟨⟨.inl ⟨hself w.raised, trivial⟩, rfl⟩, fun _ h => (nomatch h)⟩
      · exact ⟨⟨.inr ⟨hself true, _, rfl⟩, rfl⟩, fun _ h => (nomatch h)⟩
  | terminateProcessGroup group =>
      refine ⟨child_respond (.ok ()) _ w, ?_⟩
      rintro _ ⟨rfl⟩ - h
      have hother := (List.mem_filter.mp h).2
      simp at hother
  | _ => exact ⟨child_respond (.ok ()) _ w, fun _ h => (nomatch h)⟩

/-- They raise a Ctrl-C only where the record is not active. -/
theorem contained_respond_idle {c : Command} {w : ChildWorld}
    (h : (containedRespond c w).1 = .error .keyboardInterrupt) :
    (containedRespond c w).2.file.active = false := by
  cases c with
  | ghReadyIssues =>
      unfold containedRespond at h
      dsimp only at h
      split at h <;> cases h
  | sleep =>
      unfold containedRespond at h ⊢
      dsimp only at h ⊢
      split at h
      · cases h
      · rename_i hinactive
        rw [if_neg hinactive]
        exact (Bool.not_eq_true _).mp hinactive
  | _ => cases h

/-- The theorem on a watch that is stopped while it waits for an issue, a run after it that crashes
beside a live child, and a third one that leaves the child alone. -/
theorem single_task_safety_sample :
    ∃ s, (controller sampleSetting contained).ReachesUnder stopsIdleChild (.start .missing []) s ∧
      s.1.exposed = true ∧ s.1.started = false ∧ s.1.overwritten = false := by
  have hstart : (controller sampleSetting contained).ReachesUnder stopsIdleChild
      (.start .missing [])
      (.start .missing [], none) := .refl
  have hallowed : ∀ c next w, true = true →
      stopsIdleChild c next (containedRespond c w).1 (containedRespond c w).2 :=
    fun c next w _ h => contained_respond_idle h.1
  have hwatched := @ScriptService.reaches_play_under _ _ _ _ _ (controller sampleSetting contained)
    containedRespond (fun w => w.file.hasState .stopped) (fun _ _ => true) stopsIdleChild _ _
    contained_respond hallowed hstart .watch (ScriptService.passed_true _ _)
  have hstopped := Relation.ReflTransGen.tail hwatched ⟨.crash trivial, trivial⟩
  have hrecorded := @ScriptService.reaches_play_under _ _ _ _ _ (controller sampleSetting contained)
    containedRespond childRecorded (fun _ _ => true) stopsIdleChild _ _
    contained_respond hallowed hstopped .once (ScriptService.passed_true _ _)
  have hcrashed := Relation.ReflTransGen.tail hrecorded ⟨.crash trivial, trivial⟩
  have hagain := @ScriptService.reaches_play_under _ _ _ _ _ (controller sampleSetting contained)
    containedRespond (fun w => w.started) (fun _ _ => true) stopsIdleChild _ _
    contained_respond hallowed hcrashed .once (ScriptService.passed_true _ _)
  refine ⟨_, hagain, ?_, single_task_safety sampleSetting .missing [] hagain⟩
  decide +kernel

end GrowthOs.Handoff
