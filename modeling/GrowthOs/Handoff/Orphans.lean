import GrowthOs.Handoff.MergePolicy
import GrowthOs.Handoff.PreStaging
import GrowthOs.Handoff.Reconcile
import Mathlib

/-!
# Orphaned children

What `reconcile_stale_run` asks of the operating system before it signals the process group of an
interrupted run, and what it has seen of the machine when it returns a recovery context. The machine
may change in any way between two calls, so a fact about it is a fact about the moment of a call.
Read `reconcile_orphan_safe` first.
-/

namespace GrowthOs.Handoff

open Library

/-- A process: its ID, the ID of its group, and its start as `ps -o lstart=` prints it. -/
structure Process where
  pid : Int
  group : Int
  start : String

/-- What `ps -o pgid=,lstart=` prints of a process, without the blanks around it. -/
def Process.identity (process : Process) : String := toString process.group ++ " " ++ process.start

/-- What the reconciliation can see of a machine. -/
structure Machine where
  processes : List Process
  pids : ∀ p ∈ processes, 0 < p.pid
  heartbeatAge : String → HeartbeatAge
  branch : String
  head : String
  entries : List StatusEntry

/-- The signals. `null` only asks for the processes. -/
inductive Signal where
  | null
  | term
  | kill
  deriving DecidableEq

/-- What `os.kill` and `os.killpg` do, as far as the callers tell it apart. -/
inductive KillResult where
  | delivered
  | noProcess
  | noPermission
  deriving DecidableEq

/-- The calls. -/
inductive SystemCall where
  | kill (pid : Int)
  | killpg (group : Int) (signal : Signal)
  | ps (pid : Int)
  | monotonic
  | sleep
  deriving DecidableEq

/-- What a call returns: for `ps` the return code and the output. -/
@[reducible] def SystemAnswer : SystemCall → Type
  | .kill _ | .killpg _ _ => KillResult
  | .ps _ => Int × String
  | .monotonic => Rat
  | .sleep => Unit

/-- A function that calls the operating system. -/
abbrev System (α : Type) := Script SystemAnswer Raised α

/-- Make a call. -/
def systemCall (call : SystemCall) : System (SystemAnswer call) := Script.issue call

/-- `pid_is_running`. -/
def pidIsRunning (pid : Int) : System Bool :=
  if pid ≤ 0 then pure false
  else do
    let result ← systemCall (.kill pid)
    pure (result ≠ .noProcess)

/-- `process_group_is_running`. -/
def processGroupIsRunning (group : Int) : System Bool := do
  let result ← systemCall (.killpg group .null)
  pure (result ≠ .noProcess)

/-- `process_group_identity`. -/
def processGroupIdentity (pid : Int) : System (Option String) := do
  let result ← systemCall (.ps pid)
  let identity := strip result.2
  if result.1 ≠ 0 ∨ identity = "" then pure none
  else
    let pgid := String.ofList (identity.toList.takeWhile fun c => !isSpace c)
    pure (if pgid = toString pid then some identity else none)

/-- The loop of `terminate_orphan_process_group` until a deadline. A controller that is still in it
after `polls` turns is interrupted there. -/
def awaitGroup (group : Int) (deadline : Rat) : Nat → System Unit
  | 0 => Script.raise .keyboardInterrupt
  | polls + 1 => do
      let running ← processGroupIsRunning group
      if !running then pure ()
      else do
        let now ← systemCall .monotonic
        if deadline ≤ now then pure ()
        else do
          let _ ← systemCall .monotonic
          systemCall .sleep
          awaitGroup group deadline polls

/-- `CHILD_TERMINATION_GRACE`. -/
def childTerminationGrace : Rat := 10

/-- The end of `terminate_orphan_process_group`: the group must be gone by another deadline. -/
def confirmTermination (polls : Nat) (group : Int) : System Unit := do
  let start ← systemCall .monotonic
  awaitGroup group (start + childTerminationGrace) polls
  let running ← processGroupIsRunning group
  if running then
    Script.raise (.runtimeError "Orphaned Codex process group did not terminate")
  else pure ()

/-- A signal of `terminate_orphan_process_group`, which returns when there is no process to take
it. -/
def signalOrphan (group : Int) (signal : Signal) (rest : System Unit) : System Unit := do
  let result ← systemCall (.killpg group signal)
  if result = .noProcess then pure ()
  else if result = .noPermission then Script.raise (.otherException "Operation not permitted")
  else rest

/-- `terminate_orphan_process_group`. -/
def terminateOrphanProcessGroup (polls : Nat) (group : Int) : System Unit :=
  signalOrphan group .term do
    let start ← systemCall .monotonic
    awaitGroup group (start + childTerminationGrace) polls
    let running ← processGroupIsRunning group
    if running then signalOrphan group .kill (confirmTermination polls group)
    else confirmTermination polls group

/-- The machine and the status file, with the machine at every call so far, the groups that were
sent a signal and the machine at the calls before, whether `git status` listed a change, and whether
the status file could not be read or written. -/
structure OrphanWorld where
  machine : Machine
  seen : List Machine
  signals : List (Int × List Machine)
  file : StatusFile
  found : Bool
  failed : Bool

/-- The world before a run. -/
def OrphanWorld.start (machine : Machine) (file : StatusFile) : OrphanWorld :=
  ⟨machine, [], [], file, false, false⟩

/-- A look at the machine, which may be any other machine afterwards. -/
def OrphanWorld.looks (w : OrphanWorld) (machine : Machine) : OrphanWorld :=
  { w with machine, seen := w.seen ++ [w.machine] }

/-- What a call does. A lookup error says that there is no such process. A group with a number that
no process has is never reported missing: zero is the group of the controller itself, and a negative
number raises. -/
def systemExec : Exec SystemAnswer Raised OrphanWorld
  | .kill pid, w, answer, w' => (∃ machine, w' = w.looks machine) ∧
      (answer = .ok .noProcess → ∀ p ∈ w.machine.processes, p.pid ≠ pid)
  | .killpg group signal, w, answer, w' =>
      (∃ machine, w' = if signal = .null then w.looks machine
        else { w.looks machine with signals := w.signals ++ [(group, w.seen)] }) ∧
      (answer = .ok .noProcess → ∀ p ∈ w.machine.processes, p.group ≠ group)
  | .ps pid, w, answer, w' => (∃ machine, w' = w.looks machine) ∧
      ∀ result, answer = .ok result → result.1 = 0 → strip result.2 ≠ "" →
        ∃ p ∈ w.machine.processes, p.pid = pid ∧ strip result.2 = p.identity
  | .monotonic, w, _, w' | .sleep, w, _, w' => ∃ machine, w' = w.looks machine

/-- `git status` has listed a change. -/
def listsChange : Except Raised (List StatusEntry) → Bool
  | .ok entries => entries ≠ []
  | .error _ => false

/-- What a command of the controller does. The functions about processes run as they are written. A
command that the reconciliation does not issue may do anything. -/
def orphanExec : Exec Answer Raised OrphanWorld
  | .pidIsRunning pid, w, answer, w' => Ends systemExec (pidIsRunning pid) w answer w'
  | .processGroupIsRunning group, w, answer, w' =>
      Ends systemExec (processGroupIsRunning group) w answer w'
  | .processGroupIdentity pid, w, answer, w' =>
      Ends systemExec (processGroupIdentity pid) w answer w'
  | .terminateOrphanProcessGroup group, w, answer, w' =>
      ∃ polls, Ends systemExec (terminateOrphanProcessGroup polls group) w answer w'
  | .heartbeatAge value, w, answer, w' => (∃ machine, w' = w.looks machine) ∧
      ∀ age, answer = .ok age → age = w.machine.heartbeatAge value
  | .gitCurrentBranch, w, answer, w' => (∃ machine, w' = w.looks machine) ∧
      ∀ branch, answer = .ok branch → branch = w.machine.branch
  | .gitHead, w, answer, w' => (∃ machine, w' = w.looks machine) ∧
      ∀ head, answer = .ok head → head = w.machine.head
  | .gitStatus, w, answer, w' =>
      (∃ machine, w' = { w.looks machine with found := w.found || listsChange answer }) ∧
      ∀ entries, answer = .ok entries → entries = w.machine.entries
  | .readStatus, w, answer, w' =>
      (w' = w ∧ answer = .ok w.file) ∨ (w' = { w with failed := true } ∧ ∃ e, answer = .error e)
  | .writeStatus status, w, answer, w' =>
      (w' = { w with file := .record status } ∧ answer = .ok ()) ∨
        ((w' = { w with failed := true } ∨ w' = { w with file := .record status, failed := true }) ∧
          ∃ e, answer = .error e)
  | .ghIssueView _, w, _, w' | .ghIssueComment _ _, w, _, w' | .ghAddLabel _ _, w, _, w'
  | .ghRemoveLabel _ _, w, _, w' => ∃ machine, w' = w.looks machine
  | _, _, _, _ => True

/-- The world goes on: nothing that was seen is forgotten, and the rest is as before. -/
structure Goes (w w' : OrphanWorld) : Prop where
  seen : ∀ m ∈ w.seen, m ∈ w'.seen
  signals : w'.signals = w.signals
  file : w'.file = w.file
  found : w'.found = w.found
  failed : w'.failed = w.failed

/-- Nothing has happened. -/
theorem Goes.refl (w : OrphanWorld) : Goes w w := ⟨fun _ h => h, rfl, rfl, rfl, rfl⟩

/-- Two spans of time are one. -/
theorem Goes.trans {w w₁ w₂ : OrphanWorld} (h : Goes w w₁) (h' : Goes w₁ w₂) : Goes w w₂ :=
  ⟨fun m hm => h'.seen m (h.seen m hm), h'.signals.trans h.signals, h'.file.trans h.file,
    h'.found.trans h.found, h'.failed.trans h.failed⟩

/-- A look at the machine does not change the record or send a signal. -/
theorem goes_looks (w : OrphanWorld) (machine : Machine) : Goes w (w.looks machine) :=
  ⟨fun _ h => List.mem_append_left _ h, rfl, rfl, rfl, rfl⟩

/-- What is looked at has been seen. -/
theorem machine_mem_looks (w : OrphanWorld) (machine : Machine) :
    w.machine ∈ (w.looks machine).seen :=
  List.mem_append_right _ (List.mem_singleton_self _)

/-- No process has this ID. -/
def Machine.NoProcess (machine : Machine) (pid : Int) : Prop :=
  ∀ p ∈ machine.processes, p.pid ≠ pid

/-- No process is in this group. -/
def Machine.NoGroup (machine : Machine) (group : Int) : Prop :=
  ∀ p ∈ machine.processes, p.group ≠ group

/-- The leader of the group is alive and has this identity. -/
def Machine.Leads (machine : Machine) (group : Int) (identity : String) : Prop :=
  ∃ p ∈ machine.processes, p.pid = group ∧ p.group = group ∧ p.identity = identity

/-- A triple without an invariant on the calls of a function. -/
abbrev Does {α : Type} (p : System α) (w : OrphanWorld)
    (Q : Except Raised α → OrphanWorld → Prop) : Prop :=
  Safe systemExec (fun _ => True) p w Q

/-- `pid_is_running` is false only of a process that was seen to be gone. -/
theorem pid_is_running_spec (pid : Int) (w : OrphanWorld) :
    Does (pidIsRunning pid) w fun result w' => Goes w w' ∧
      (result = .ok false → pid ≤ 0 ∨ ∃ m ∈ w'.seen, m.NoProcess pid) := by
  unfold pidIsRunning
  split
  · rename_i hpid
    exact safe_pure trivial ⟨.refl w, fun _ => .inl hpid⟩
  · refine safe_bind (safe_issue trivial fun answer w' hexec => ⟨trivial, ?_⟩)
    obtain ⟨⟨machine, rfl⟩, hnone⟩ := hexec
    cases answer with
    | error e => exact ⟨goes_looks w machine, nofun⟩
    | ok result =>
        refine safe_pure trivial ⟨goes_looks w machine, fun h => .inr ?_⟩
        refine ⟨w.machine, machine_mem_looks w machine, hnone ?_⟩
        simpa using h

/-- So is `process_group_is_running` of a group. -/
theorem process_group_is_running_spec (group : Int) (w : OrphanWorld) :
    Does (processGroupIsRunning group) w fun result w' => Goes w w' ∧
      (result = .ok false → ∃ m ∈ w'.seen, m.NoGroup group) := by
  refine safe_bind (safe_issue trivial fun answer w' hexec => ⟨trivial, ?_⟩)
  obtain ⟨⟨machine, rfl⟩, hnone⟩ := hexec
  rw [if_pos rfl]
  cases answer with
  | error e => exact ⟨goes_looks w machine, nofun⟩
  | ok result =>
      refine safe_pure trivial ⟨goes_looks w machine, fun h => ?_⟩
      refine ⟨w.machine, machine_mem_looks w machine, hnone ?_⟩
      simpa using h

/-- The number of a group has no white space in it. -/
theorem to_string_no_space (n : Int) : ∀ c ∈ (toString n).toList, isSpace c = false := by
  have hdigit : ∀ c : Char, c.isDigit = true → isSpace c = false := by
    intro c hc
    have hrange : 48 ≤ c.toNat ∧ c.toNat ≤ 57 := by
      simpa [Char.isDigit, UInt32.le_iff_toNat_le] using hc
    simp [isSpace]
    omega
  have hnat : ∀ m : Nat, ∀ c ∈ (Nat.repr m).toList, isSpace c = false := by
    intro m c hc
    rw [Nat.toList_repr] at hc
    exact hdigit c (Nat.isDigit_of_mem_toDigits (by decide) (by decide) hc)
  show ∀ c ∈ (Int.repr n).toList, isSpace c = false
  rw [Int.repr_eq_if]
  split
  · exact hnat _
  · intro c hc
    rw [String.toList_append] at hc
    rcases List.mem_append.mp hc with hc | hc
    · rw [show c = '-' by simpa using hc]
      decide
    · exact hnat _ c hc

/-- The first word of an identity is the number of the group. -/
theorem identity_group (p : Process) :
    String.ofList (p.identity.toList.takeWhile fun c => !isSpace c) = toString p.group := by
  have hword : (p.identity.toList.takeWhile fun c => !isSpace c) = (toString p.group).toList := by
    unfold Process.identity
    rw [String.toList_append, String.toList_append, List.append_assoc, List.takeWhile_append_of_pos
      fun c hc => by simp [to_string_no_space p.group c hc]]
    show _ ++ List.takeWhile _ (' ' :: p.start.toList) = _
    rw [List.takeWhile_cons_of_neg (by decide), List.append_nil]
  rw [hword, String.ofList_toList]

/-- An identity is that of a process that was seen to lead its group. -/
theorem process_group_identity_spec (pid : Int) (w : OrphanWorld) :
    Does (processGroupIdentity pid) w fun result w' => Goes w w' ∧
      ∀ identity, result = .ok (some identity) → ∃ m ∈ w'.seen, m.Leads pid identity := by
  refine safe_bind (safe_issue trivial fun answer w' hexec => ⟨trivial, ?_⟩)
  obtain ⟨⟨machine, rfl⟩, hps⟩ := hexec
  cases answer with
  | error e => exact ⟨goes_looks w machine, fun _ h => nomatch h⟩
  | ok result =>
      show Safe _ _ (if _ then _ else _) _ _
      split
      · exact safe_pure trivial ⟨goes_looks w machine, fun _ h => nomatch h⟩
      · rename_i hprinted
        rw [not_or, not_not] at hprinted
        refine safe_pure trivial ⟨goes_looks w machine, fun identity h => ?_⟩
        obtain ⟨p, hp, hpid, hidentity⟩ := hps result rfl hprinted.1 hprinted.2
        rw [hidentity, identity_group] at h
        split at h
        · rename_i hgroup
          obtain rfl : p.identity = identity := Option.some.inj (Except.ok.inj h)
          exact ⟨w.machine, machine_mem_looks w machine, p, hp, hpid,
            Int.repr_injective hgroup, rfl⟩
        · cases h

/-- The world goes on, and only the group may have been sent a signal. -/
structure Signalled (group : Int) (w w' : OrphanWorld) : Prop where
  seen : ∀ m ∈ w.seen, m ∈ w'.seen
  signals : ∀ s ∈ w'.signals, s ∈ w.signals ∨ (s.1 = group ∧ ∀ m ∈ w.seen, m ∈ s.2)
  file : w'.file = w.file
  found : w'.found = w.found
  failed : w'.failed = w.failed

/-- Without a signal the group has been signalled trivially. -/
theorem Goes.signalled {w w' : OrphanWorld} (h : Goes w w') (group : Int) : Signalled group w w' :=
  ⟨h.seen, fun _ hs => .inl (h.signals ▸ hs), h.file, h.found, h.failed⟩

/-- Two spans with signals to one group. -/
theorem Signalled.trans {group : Int} {w w₁ w₂ : OrphanWorld} (h : Signalled group w w₁)
    (h' : Signalled group w₁ w₂) : Signalled group w w₂ := by
  refine ⟨fun m hm => h'.seen m (h.seen m hm), fun s hs => ?_, h'.file.trans h.file,
    h'.found.trans h.found, h'.failed.trans h.failed⟩
  rcases h'.signals s hs with hold | ⟨hgroup, hbefore⟩
  · exact h.signals s hold
  · exact .inr ⟨hgroup, fun m hm => hbefore m (h.seen m hm)⟩

/-- A clock or a pause only looks. -/
theorem looking_spec {call : SystemCall} (hcall : call = .monotonic ∨ call = .sleep)
    (w : OrphanWorld) : Does (systemCall call) w fun _ w' => Goes w w' := by
  rcases hcall with rfl | rfl
  · refine safe_issue trivial fun answer w' hexec => ⟨trivial, ?_⟩
    obtain ⟨machine, rfl⟩ := hexec
    exact goes_looks w machine
  · refine safe_issue trivial fun answer w' hexec => ⟨trivial, ?_⟩
    obtain ⟨machine, rfl⟩ := hexec
    exact goes_looks w machine

/-- Waiting for a group only looks at it. -/
theorem await_group_spec (group : Int) (deadline : Rat) (polls : Nat) (w : OrphanWorld) :
    Does (awaitGroup group deadline polls) w fun _ w' => Goes w w' := by
  induction polls generalizing w with
  | zero => exact safe_raise trivial (.refl w)
  | succ polls ih =>
      refine safe_bind (safe_post (process_group_is_running_spec group w) fun result w₁ _ h₁ => ?_)
      cases result with
      | error e => exact h₁.1
      | ok running =>
      show Safe _ _ (if !running then _ else _) _ _
      split
      · exact safe_pure trivial h₁.1
      · refine safe_bind (safe_post (looking_spec (.inl rfl) w₁) fun result w₂ _ h₂ => ?_)
        cases result with
        | error e => exact h₁.1.trans h₂
        | ok now =>
        show Safe _ _ (if deadline ≤ now then _ else _) _ _
        split
        · exact safe_pure trivial (h₁.1.trans h₂)
        · refine safe_bind (safe_post (looking_spec (.inl rfl) w₂) fun result w₃ _ h₃ => ?_)
          cases result with
          | error e => exact (h₁.1.trans h₂).trans h₃
          | ok _ =>
          refine safe_bind (safe_post (looking_spec (.inr rfl) w₃) fun result w₄ _ h₄ => ?_)
          have hgoes := ((h₁.1.trans h₂).trans h₃).trans h₄
          cases result with
          | error e => exact hgoes
          | ok _ => exact safe_post (ih w₄) fun _ w₅ _ h₅ => hgoes.trans h₅

/-- A function that is about to end has sent signals to the group only, and returns when it has seen
the group gone. -/
abbrev Stops (group : Int) (w : OrphanWorld) (p : System Unit) : Prop :=
  Does p w fun result w' => Signalled group w w' ∧
    (result = .ok () → ∃ m ∈ w'.seen, m.NoGroup group)

/-- The last check raises unless the group was seen to be gone. -/
theorem confirm_termination_spec (polls : Nat) (group : Int) (w : OrphanWorld) :
    Stops group w (confirmTermination polls group) := by
  refine safe_bind (safe_post (looking_spec (.inl rfl) w) fun result w₁ _ h₁ => ?_)
  cases result with
  | error e => exact ⟨h₁.signalled group, nofun⟩
  | ok start =>
  refine safe_bind (safe_post (await_group_spec group _ polls w₁) fun result w₂ _ h₂ => ?_)
  cases result with
  | error e => exact ⟨(h₁.trans h₂).signalled group, nofun⟩
  | ok _ =>
  refine safe_bind (safe_post (process_group_is_running_spec group w₂) fun result w₃ _ h₃ => ?_)
  have hgoes := ((h₁.trans h₂).trans h₃.1).signalled group
  cases result with
  | error e => exact ⟨hgoes, nofun⟩
  | ok running =>
      show Safe _ _ (if running then _ else _) _ _
      split
      · exact safe_raise trivial ⟨hgoes, nofun⟩
      · rename_i hstopped
        rw [Bool.not_eq_true] at hstopped
        exact safe_pure trivial ⟨hgoes, fun _ => h₃.2 (congrArg Except.ok hstopped)⟩

/-- A signal is sent to the group, and the rest goes on. -/
theorem signal_orphan_spec {group : Int} {signal : Signal} (hsignal : signal ≠ .null)
    {rest : System Unit} (hrest : ∀ w, Stops group w rest) (w : OrphanWorld) :
    Stops group w (signalOrphan group signal rest) := by
  refine safe_bind (safe_issue trivial fun answer w' hexec => ⟨trivial, ?_⟩)
  obtain ⟨⟨machine, rfl⟩, hnone⟩ := hexec
  rw [if_neg hsignal]
  have hsent : Signalled group w
      { w.looks machine with signals := w.signals ++ [(group, w.seen)] } := by
    refine ⟨fun m hm => List.mem_append_left _ hm, fun s hs => ?_, rfl, rfl, rfl⟩
    rcases List.mem_append.mp hs with hold | hnew
    · exact .inl hold
    · rw [List.mem_singleton.mp hnew]
      exact .inr ⟨rfl, fun m hm => hm⟩
  cases answer with
  | error e => exact ⟨hsent, nofun⟩
  | ok result =>
      show Safe _ _ (if result = .noProcess then _ else _) _ _
      split
      · rename_i hgone
        exact safe_pure trivial ⟨hsent, fun _ => ⟨w.machine, machine_mem_looks w machine,
          hnone (congrArg Except.ok hgone)⟩⟩
      · show Safe _ _ (if result = .noPermission then _ else _) _ _
        split
        · exact safe_raise trivial ⟨hsent, nofun⟩
        · exact safe_post (hrest _) fun ended w₁ _ h₁ => ⟨hsent.trans h₁.1, h₁.2⟩

/-- `terminate_orphan_process_group` signals one group, and raises unless it is gone. -/
theorem terminate_orphan_spec (polls : Nat) (group : Int) (w : OrphanWorld) :
    Stops group w (terminateOrphanProcessGroup polls group) := by
  refine signal_orphan_spec (by decide) (fun w => ?_) w
  refine safe_bind (safe_post (looking_spec (.inl rfl) w) fun result w₁ _ h₁ => ?_)
  cases result with
  | error e => exact ⟨h₁.signalled group, nofun⟩
  | ok start =>
  refine safe_bind (safe_post (await_group_spec group _ polls w₁) fun result w₂ _ h₂ => ?_)
  cases result with
  | error e => exact ⟨(h₁.trans h₂).signalled group, nofun⟩
  | ok _ =>
  refine safe_bind (safe_post (process_group_is_running_spec group w₂) fun result w₃ _ h₃ => ?_)
  have hgoes := ((h₁.trans h₂).trans h₃.1).signalled group
  have hconfirm : ∀ {w₄ : OrphanWorld}, Stops group w₄ (confirmTermination polls group) :=
    fun {w₄} => confirm_termination_spec polls group w₄
  cases result with
  | error e => exact ⟨hgoes, nofun⟩
  | ok running =>
      show Safe _ _ (if running then _ else _) _ _
      split
      · refine safe_post (signal_orphan_spec (by decide) (fun _ => hconfirm) w₃)
          fun ended w₄ _ h₄ => ⟨hgoes.trans h₄.1, h₄.2⟩
      · exact safe_post hconfirm fun ended w₄ _ h₄ => ⟨hgoes.trans h₄.1, h₄.2⟩

/-! ## The reconciliation -/

/-- The recorded heartbeat is older than the recorded timeout. -/
def Machine.StaleHeartbeat (machine : Machine) (status : Status) : Prop :=
  ∃ value timeout age, status.lastChildOutputAt = some value ∧
    status.childInactivityTimeout = some timeout ∧ 0 < timeout ∧
    machine.heartbeatAge value = .seconds age ∧ timeout ≤ age

/-- A signal that the record allows: it goes to the group that is both recorded numbers, and before
it the leader was seen alive with exactly the recorded identity, and the recorded heartbeat was
stale. -/
structure AllowedSignal (status : Status) (pid : Int) (signal : Int × List Machine) : Prop where
  group : signal.1 = pid ∧ status.childProcessGroup = some pid
  leader : ∃ identity, status.childProcessIdentity = some identity ∧
    ∃ m ∈ signal.2, m.Leads pid identity
  stale : ∃ m ∈ signal.2, m.StaleHeartbeat status

/-- The error for a stopped child that left changes. -/
def confirmationError : Raised :=
  .runtimeError ("Stopped child work lacks a final durable content manifest; explicit " ++
    "operator confirmation is required")

/-- What a run has seen when it returns, and what it does about changes. -/
structure Reconciled {α : Type} (status : Status) (pid : Int) (result : Except Raised α)
    (w : OrphanWorld) : Prop where
  child : ∀ a, result = .ok a → if status.instrumented pid then ∃ m ∈ w.seen, m.NoGroup pid
    else ∃ m ∈ w.seen, m.NoProcess pid
  branch : ∀ a, result = .ok a → ∃ m ∈ w.seen, status.branch = some m.branch
  base : ∀ a, result = .ok a → status.instrumented pid = true →
    ∃ m ∈ w.seen, status.recoverableBaseSha = some m.head
  confirmed : status.instrumented pid = true → w.found = true → (∃ e, result = .error e) ∧
    (w.failed = false → result = .error confirmationError ∧
      ∃ record, w.file = .record record ∧ record.state = .recoveryConfirmationRequired)

/-- An error before `git status`. -/
theorem reconciled_error {α : Type} {status : Status} {pid : Int} {e : Raised} {w : OrphanWorld}
    (h : w.found = false) : Reconciled status pid (.error e : Except Raised α) w :=
  ⟨nofun, nofun, nofun, fun _ hfound => absurd hfound (by simp [h])⟩

section

variable {status : Status} {pid : Int} {context : StatusContext} {setting : Setting}
  {w : OrphanWorld}

/-- Every signal so far is allowed. -/
abbrev AllAllowed (status : Status) (pid : Int) (w : OrphanWorld) : Prop :=
  ∀ signal ∈ w.signals, AllowedSignal status pid signal

/-- The world goes on without another look at the changes. -/
structure Later (w w' : OrphanWorld) : Prop where
  seen : ∀ m ∈ w.seen, m ∈ w'.seen
  found : w'.found = w.found

/-- No time has passed. -/
theorem Later.refl (w : OrphanWorld) : Later w w := ⟨fun _ h => h, rfl⟩

/-- Time that passes twice. -/
theorem Later.trans {w w₁ w₂ : OrphanWorld} (h : Later w w₁) (h' : Later w₁ w₂) : Later w w₂ :=
  ⟨fun m hm => h'.seen m (h.seen m hm), h'.found.trans h.found⟩

/-- Time passes without signals. -/
theorem Goes.later {w w' : OrphanWorld} (h : Goes w w') : Later w w' := ⟨h.seen, h.found⟩

/-- And with them. -/
theorem Signalled.later {group : Int} {w w' : OrphanWorld} (h : Signalled group w w') :
    Later w w' := ⟨h.seen, h.found⟩

/-- A command that sends no signal. -/
theorem safe_look {c : Command} {Q : Except Raised (Answer c) → OrphanWorld → Prop}
    (hw : AllAllowed status pid w)
    (hstep : ∀ answer w', orphanExec c w answer w' → Goes w w' ∧ Q answer w') :
    Safe orphanExec (AllAllowed status pid) (call c) w fun answer w' => Goes w w' ∧
      Q answer w' := by
  refine safe_issue hw fun answer w' hexec => ?_
  have hgoes := hstep answer w' hexec
  exact ⟨fun signal hsignal => hw signal (hgoes.1.signals ▸ hsignal), hgoes⟩

/-- A write of the status either leaves a record in the new state or is known to have failed. -/
theorem safe_write_status (hw : AllAllowed status pid w) (state : HandoffState)
    (update : StatusUpdate) :
    Safe orphanExec (AllAllowed status pid) (writeStatus state update) w fun result w' =>
      Later w w' ∧ (∀ e, result = .error e → w'.failed = true) ∧
        (result = .ok () → ∃ record, w'.file = .record record ∧ record.state = state) := by
  refine safe_bind (safe_issue hw fun answer w₁ hexec => ?_)
  rcases hexec with ⟨rfl, rfl⟩ | ⟨rfl, e, rfl⟩
  · refine ⟨hw, safe_issue hw fun answer w₂ hexec => ?_⟩
    rcases hexec with ⟨rfl, rfl⟩ | ⟨hfailed, e, rfl⟩
    · refine ⟨hw, ⟨fun _ h => h, rfl⟩, fun e h => ?_, fun _ => ⟨_, rfl, rfl⟩⟩
      cases h
    · rcases hfailed with rfl | rfl
      · exact ⟨hw, ⟨fun _ h => h, rfl⟩, fun _ _ => rfl, fun h => nomatch h⟩
      · exact ⟨hw, ⟨fun _ h => h, rfl⟩, fun _ _ => rfl, fun h => nomatch h⟩
  · exact ⟨hw, ⟨fun _ h => h, rfl⟩, fun _ _ => rfl, fun h => nomatch h⟩

/-- A blocked reconciliation raises without a signal. -/
theorem safe_fail_blocked {α : Type} (hw : AllAllowed status pid w) (codexPid : Option Int)
    (detail : String) :
    Safe orphanExec (AllAllowed status pid) (failBlocked context codexPid detail : Controller α) w
      fun result w' => Later w w' ∧ ∃ e, result = .error e := by
  refine safe_bind (safe_post (safe_write_status hw _ _) fun result w₁ hw₁ hwritten => ?_)
  cases result with
  | error e => exact ⟨hwritten.1, e, rfl⟩
  | ok _ => exact safe_raise hw₁ ⟨hwritten.1, _, rfl⟩

/-- A heartbeat is found stale at a moment when it is. -/
theorem safe_heartbeat_is_stale (hw : AllAllowed status pid w) :
    Safe orphanExec (AllAllowed status pid)
      (heartbeatIsStale status.lastChildOutputAt status.childInactivityTimeout) w
      fun result w' => Goes w w' ∧
        (result = .ok true → ∃ m ∈ w'.seen, m.StaleHeartbeat status) := by
  unfold heartbeatIsStale
  split
  · rename_i value timeout hvalue htimeout
    split
    · exact safe_raise hw ⟨.refl w, fun h => nomatch h⟩
    · rename_i hpositive
      refine safe_bind (safe_post (safe_look hw (Q := fun answer w' => ∀ age, answer = .ok age →
        w.machine ∈ w'.seen ∧ age = w.machine.heartbeatAge value) fun answer w' hexec => ?_)
        fun result w₁ hw₁ hlook => ?_)
      · obtain ⟨⟨machine, rfl⟩, hage⟩ := hexec
        exact ⟨goes_looks w machine, fun age h => ⟨machine_mem_looks w machine, hage age h⟩⟩
      · obtain ⟨hgoes, hage⟩ := hlook
        cases result with
        | error e => exact ⟨hgoes, fun h => nomatch h⟩
        | ok age =>
            obtain ⟨hseen, hmachine⟩ := hage age rfl
            cases age with
            | unparsable => exact safe_raise hw₁ ⟨hgoes, fun h => nomatch h⟩
            | naive => exact safe_raise hw₁ ⟨hgoes, fun h => nomatch h⟩
            | seconds age =>
                refine safe_pure hw₁ ⟨hgoes, fun h => ⟨w.machine, hseen, ?_⟩⟩
                have hold : timeout ≤ age := by simpa using h
                exact ⟨value, timeout, age, hvalue, htimeout, not_le.mp hpositive, hmachine.symm,
                  hold⟩
  · exact safe_raise hw ⟨.refl w, fun h => nomatch h⟩

/-- `pid_is_running` as a command of the controller. -/
theorem safe_pid_is_running (hw : AllAllowed status pid w) (n : Int) :
    Safe orphanExec (AllAllowed status pid) (call (.pidIsRunning n)) w fun result w' =>
      Goes w w' ∧ (result = .ok false → n ≤ 0 ∨ ∃ m ∈ w'.seen, m.NoProcess n) :=
  safe_look hw fun _ _ hexec => safe_ends (pid_is_running_spec n w) hexec

/-- `process_group_is_running` as a command. -/
theorem safe_group_is_running (hw : AllAllowed status pid w) (group : Int) :
    Safe orphanExec (AllAllowed status pid) (call (.processGroupIsRunning group)) w
      fun result w' => Goes w w' ∧ (result = .ok false → ∃ m ∈ w'.seen, m.NoGroup group) :=
  safe_look hw fun _ _ hexec => safe_ends (process_group_is_running_spec group w) hexec

/-- `process_group_identity` as a command. -/
theorem safe_group_identity (hw : AllAllowed status pid w) (n : Int) :
    Safe orphanExec (AllAllowed status pid) (call (.processGroupIdentity n)) w fun result w' =>
      Goes w w' ∧ ∀ identity, result = .ok (some identity) → ∃ m ∈ w'.seen, m.Leads n identity :=
  safe_look hw fun _ _ hexec => safe_ends (process_group_identity_spec n w) hexec

/-- The signals of a termination are allowed when its preconditions have been seen. -/
theorem safe_terminate_orphan (hw : AllAllowed status pid w)
    (hgroup : status.childProcessGroup = some pid) {identity : String}
    (hidentity : status.childProcessIdentity = some identity)
    (hleads : ∃ m ∈ w.seen, m.Leads pid identity) (hstale : ∃ m ∈ w.seen, m.StaleHeartbeat status) :
    Safe orphanExec (AllAllowed status pid) (call (.terminateOrphanProcessGroup pid)) w
      fun result w' => Later w w' ∧ (result = .ok () → ∃ m ∈ w'.seen, m.NoGroup pid) := by
  refine safe_issue hw fun answer w' hexec => ?_
  obtain ⟨polls, hends⟩ := hexec
  obtain ⟨hsignalled, hgone⟩ := safe_ends (terminate_orphan_spec polls pid w) hends
  refine ⟨fun signal hsignal => ?_, hsignalled.later, hgone⟩
  rcases hsignalled.signals signal hsignal with hold | ⟨htarget, hbefore⟩
  · exact hw signal hold
  · obtain ⟨m, hm, hmLeads⟩ := hleads
    obtain ⟨m', hm', hmStale⟩ := hstale
    exact ⟨⟨htarget, hgroup⟩, ⟨identity, hidentity, m, hbefore m hm, hmLeads⟩,
      m', hbefore m' hm', hmStale⟩

/-- A live recorded group is signalled only when it is the recorded one and its heartbeat is
stale. -/
theorem safe_stop_orphan (hw : AllAllowed status pid w)
    (hinstrumented : status.instrumented pid = true) :
    Safe orphanExec (AllAllowed status pid) (stopOrphan status context pid) w fun result w' =>
      Later w w' ∧ (result = .ok () → ∃ m ∈ w'.seen, m.NoGroup pid) := by
  obtain ⟨hgroup, hsome⟩ : status.childProcessGroup = some pid ∧
      status.childProcessIdentity.isSome = true := by
    simpa [Status.instrumented] using hinstrumented
  obtain ⟨recorded, hrecorded⟩ := Option.isSome_iff_exists.mp hsome
  refine safe_bind (safe_post (safe_pid_is_running hw pid) fun result w₁ hw₁ h₁ => ?_)
  cases result with
  | error e => exact ⟨h₁.1.later, fun h => nomatch h⟩
  | ok leaderRunning =>
  -- Only a running leader has an identity to compare with the recorded one.
  have hread : Safe orphanExec (AllAllowed status pid)
      (if leaderRunning then call (.processGroupIdentity pid) else pure none) w₁ fun result w₂ =>
        Goes w₁ w₂ ∧ ∀ identity, result = .ok (some identity) →
          ∃ m ∈ w₂.seen, m.Leads pid identity := by
    split
    · exact safe_group_identity hw₁ pid
    · exact safe_pure hw₁ ⟨.refl w₁, fun _ h => nomatch h⟩
  refine safe_bind (safe_post hread fun result w₂ hw₂ h₂ => ?_)
  have hlater := (h₁.1.trans h₂.1).later
  cases result with
  | error e => exact ⟨hlater, fun h => nomatch h⟩
  | ok identity =>
  show Safe _ _ (if !leaderRunning || identity ≠ status.childProcessIdentity then _ else _) _ _
  split
  · refine safe_post (safe_fail_blocked hw₂ _ _) fun result w₃ _ h₃ => ?_
    obtain ⟨h₃, e, rfl⟩ := h₃
    exact ⟨hlater.trans h₃, fun h => nomatch h⟩
  · rename_i hproved
    have hsame : identity = some recorded := by
      rw [Bool.or_eq_true, not_or] at hproved
      rw [← hrecorded]
      simpa using hproved.2
    -- The process that leads the group is the recorded one; a stale heartbeat then lets it be
    -- stopped.
    have hleads := h₂.2 recorded (congrArg Except.ok hsame)
    refine safe_bind (safe_post (safe_heartbeat_is_stale hw₂) fun result w₃ hw₃ h₃ => ?_)
    have hlater₃ := hlater.trans h₃.1.later
    cases result with
    | error e => exact ⟨hlater₃, fun h => nomatch h⟩
    | ok stale =>
    show Safe _ _ (if !stale then _ else _) _ _
    split
    · exact safe_raise hw₃ ⟨hlater₃, fun h => nomatch h⟩
    · rename_i hstale
      have hstale : stale = true := by simpa using hstale
      obtain ⟨m, hm, hmLeads⟩ := hleads
      refine safe_post (safe_terminate_orphan hw₃ hgroup hrecorded ⟨m, h₃.1.seen m hm, hmLeads⟩
        (h₃.2 (congrArg Except.ok hstale))) fun result w₄ _ h₄ => ?_
      exact ⟨hlater₃.trans h₄.1, h₄.2⟩

/-- The recorded child is gone when `reconcile_stale_run` goes on. -/
theorem safe_reconcile_child (hw : AllAllowed status pid w) (hpid : status.codexPid = some pid)
    (hstate : status.state.mayHaveChild = true) :
    Safe orphanExec (AllAllowed status pid) (reconcileChild status context) w fun result w' =>
      Later w w' ∧ ∀ stopped, result = .ok stopped → stopped = status.instrumented pid ∧
        if status.instrumented pid then ∃ m ∈ w'.seen, m.NoGroup pid
        else pid ≤ 0 ∨ ∃ m ∈ w'.seen, m.NoProcess pid := by
  unfold reconcileChild
  simp only [hpid, hstate, if_true]
  by_cases hinstrumented : status.instrumented pid = true
  · rw [if_pos hinstrumented]
    refine safe_bind (safe_post (safe_group_is_running hw pid) fun result w₁ hw₁ h₁ => ?_)
    cases result with
    | error e => exact ⟨h₁.1.later, fun _ h => nomatch h⟩
    | ok groupRunning =>
    -- A group that runs is stopped; otherwise the look at it already proves it gone.
    have hstop : Safe orphanExec (AllAllowed status pid)
        (if groupRunning then stopOrphan status context pid else pure ()) w₁ fun result w₂ =>
          Later w₁ w₂ ∧ (result = .ok () → ∃ m ∈ w₂.seen, m.NoGroup pid) := by
      split
      · exact safe_stop_orphan hw₁ hinstrumented
      · rename_i hstopped
        rw [Bool.not_eq_true] at hstopped
        exact safe_pure hw₁ ⟨.refl w₁, fun _ => h₁.2 (congrArg Except.ok hstopped)⟩
    refine safe_bind (safe_post hstop fun result w₂ hw₂ h₂ => ?_)
    have hlater := h₁.1.later.trans h₂.1
    cases result with
    | error e => exact ⟨hlater, fun _ h => nomatch h⟩
    | ok _ =>
        refine safe_pure hw₂ ⟨hlater, fun stopped h => ?_⟩
        cases h
        rw [hinstrumented, if_pos rfl]
        exact ⟨rfl, h₂.2 rfl⟩
  · rw [if_neg hinstrumented]
    refine safe_bind (safe_post (safe_pid_is_running hw pid) fun result w₁ hw₁ h₁ => ?_)
    cases result with
    | error e => exact ⟨h₁.1.later, fun _ h => nomatch h⟩
    | ok running =>
    show Safe _ _ (if running then _ else _) _ _
    split
    · refine safe_post (safe_fail_blocked hw₁ _ _) fun result w₂ _ h₂ => ?_
      obtain ⟨h₂, e, rfl⟩ := h₂
      exact ⟨h₁.1.later.trans h₂, fun _ h => nomatch h⟩
    · rename_i hstopped
      rw [Bool.not_eq_true] at hstopped hinstrumented
      refine safe_pure hw₁ ⟨h₁.1.later, fun stopped h => ?_⟩
      cases h
      rw [hinstrumented]
      exact ⟨rfl, h₁.2 (congrArg Except.ok hstopped)⟩

/-- The branch that is recorded is checked out, or the reconciliation is blocked. -/
theorem safe_current_branch (hw : AllAllowed status pid w) :
    Safe orphanExec (AllAllowed status pid) (call .gitCurrentBranch) w fun result w' =>
      Goes w w' ∧ ∀ branch, result = .ok branch → ∃ m ∈ w'.seen, branch = m.branch := by
  refine safe_look hw fun answer w' hexec => ?_
  obtain ⟨⟨machine, rfl⟩, hbranch⟩ := hexec
  exact ⟨goes_looks w machine, fun branch h => ⟨w.machine, machine_mem_looks w machine,
    hbranch branch h⟩⟩

/-- The revision that is read is that of a machine that was seen. -/
theorem safe_head (hw : AllAllowed status pid w) :
    Safe orphanExec (AllAllowed status pid) (call .gitHead) w fun result w' =>
      Goes w w' ∧ ∀ head, result = .ok head → ∃ m ∈ w'.seen, head = m.head := by
  refine safe_look hw fun answer w' hexec => ?_
  obtain ⟨⟨machine, rfl⟩, hhead⟩ := hexec
  exact ⟨goes_looks w machine, fun head h => ⟨w.machine, machine_mem_looks w machine,
    hhead head h⟩⟩

/-- The base of a stopped child has been seen at HEAD. -/
theorem safe_check_stopped_base (hw : AllAllowed status pid w) :
    Safe orphanExec (AllAllowed status pid) (checkStoppedBase status context) w fun result w' =>
      Later w w' ∧ (result = .ok () → ∃ m ∈ w'.seen, status.recoverableBaseSha = some m.head) := by
  refine safe_bind (safe_post (safe_head hw) fun result w₁ hw₁ h₁ => ?_)
  cases result with
  | error e => exact ⟨h₁.1.later, fun h => nomatch h⟩
  | ok head =>
  show Safe _ _ (if _ then _ else _) _ _
  split
  · refine safe_post (safe_fail_blocked hw₁ _ _) fun result w₂ _ h₂ => ?_
    obtain ⟨h₂, e, rfl⟩ := h₂
    exact ⟨h₁.1.later.trans h₂, fun h => nomatch h⟩
  · rename_i hbase
    rw [not_or, not_not] at hbase
    obtain ⟨m, hm, rfl⟩ := h₁.2 head rfl
    exact safe_pure hw₁ ⟨h₁.1.later, fun _ => ⟨m, hm, hbase.1⟩⟩

/-- The commands that report the failure of an issue. -/
def Command.reports : Command → Prop
  | .readStatus | .writeStatus _ | .ghIssueView _ | .ghIssueComment _ _ | .ghAddLabel _ _
  | .ghRemoveLabel _ _ => True
  | _ => False

/-- A command that only reports sends no signal. -/
theorem goes_of_reports {c : Command} {answer : Except Raised (Answer c)} {w w' : OrphanWorld}
    (hc : c.reports) (hexec : orphanExec c w answer w') :
    Later w w' ∧ w'.signals = w.signals := by
  cases c with
  | readStatus =>
      rcases hexec with ⟨rfl, _⟩ | ⟨rfl, _⟩
      · exact ⟨.refl w', rfl⟩
      · exact ⟨⟨fun _ h => h, rfl⟩, rfl⟩
  | writeStatus record =>
      rcases hexec with ⟨rfl, _⟩ | ⟨rfl | rfl, _⟩
      · exact ⟨⟨fun _ h => h, rfl⟩, rfl⟩
      · exact ⟨⟨fun _ h => h, rfl⟩, rfl⟩
      · exact ⟨⟨fun _ h => h, rfl⟩, rfl⟩
  | ghIssueView number =>
      obtain ⟨machine, rfl⟩ := hexec
      exact ⟨(goes_looks w machine).later, rfl⟩
  | ghIssueComment number body =>
      obtain ⟨machine, rfl⟩ := hexec
      exact ⟨(goes_looks w machine).later, rfl⟩
  | ghAddLabel number label =>
      obtain ⟨machine, rfl⟩ := hexec
      exact ⟨(goes_looks w machine).later, rfl⟩
  | ghRemoveLabel number label =>
      obtain ⟨machine, rfl⟩ := hexec
      exact ⟨(goes_looks w machine).later, rfl⟩
  | _ => exact hc.elim

/-- A report leaves the signals and the changes as they are. -/
theorem safe_reported {α : Type} {p : Controller α} (hp : Only Command.reports p)
    (hw : AllAllowed status pid w) :
    Safe orphanExec (AllAllowed status pid) p w fun _ w' => Later w w' := by
  refine safe_post (safe_of_only (J := fun w' => AllAllowed status pid w' ∧ Later w w') hp
    (fun _ h => h.1) (fun c w₁ answer w₂ hc h₁ hexec => ?_) ⟨hw, .refl w⟩)
    fun _ _ _ h => h.2
  have hgoes := goes_of_reports hc hexec
  exact ⟨fun signal hsignal => h₁.1 signal (hgoes.2 ▸ hsignal), h₁.2.trans hgoes.1⟩

/-- `load_recovery_issue` only reports. -/
theorem only_load_recovery_issue : Only Command.reports (loadRecoveryIssue setting context) := by
  refine only_bind (only_issue trivial) fun payload => ?_
  cases payload with
  | none => exact only_raise _
  | some payload => exact only_ite (only_pure _) (only_raise _)

/-- So does the record of a failure. -/
theorem only_record_issue_failure (number : Int) (title : String) (e : Raised) :
    Only Command.reports (recordIssueFailure number title e) := by
  refine only_bind ?_ fun _ => only_bind ?_ fun _ => only_issue trivial
  · exact only_bind (only_issue trivial) fun _ => only_issue trivial
  · exact only_bind (only_issue trivial) fun _ => only_issue trivial

/-- A task without changes is reported as failed and never recovered. -/
theorem safe_fail_without_changes (hw : AllAllowed status pid w) :
    Safe orphanExec (AllAllowed status pid) (failWithoutChanges setting context) w
      fun result w' => Later w w' ∧ ∃ e, result = .error e := by
  refine safe_bind (safe_post (safe_write_status hw _ _) fun result w₁ hw₁ h₁ => ?_)
  cases result with
  | error e => exact ⟨h₁.1, e, rfl⟩
  | ok _ =>
  refine safe_bind (safe_post (safe_reported only_load_recovery_issue hw₁)
    fun result w₂ hw₂ h₂ => ?_)
  cases result with
  | error e => exact ⟨h₁.1.trans h₂, e, rfl⟩
  | ok payload =>
  refine safe_bind (safe_post (safe_reported (only_record_issue_failure _ _ _) hw₂)
    fun result w₃ hw₃ h₃ => ?_)
  cases result with
  | error e => exact ⟨(h₁.1.trans h₂).trans h₃, e, rfl⟩
  | ok _ => exact safe_raise hw₃ ⟨(h₁.1.trans h₂).trans h₃, _, rfl⟩

/-- A status is written and the run ends with an exception of its own. -/
theorem safe_write_and_fail {α : Type} (hw : AllAllowed status pid w) (state : HandoffState)
    (update : StatusUpdate) (e : Raised) :
    Safe orphanExec (AllAllowed status pid)
      (writeStatus state update >>= fun _ => fail e : Controller α) w fun result w' =>
        Later w w' ∧ (∃ e, result = .error e) ∧ (w'.failed = false → result = .error e ∧
          ∃ record, w'.file = .record record ∧ record.state = state) := by
  refine safe_bind (safe_post (safe_write_status hw state update) fun result w₁ hw₁ h₁ => ?_)
  cases result with
  | error e' =>
      refine ⟨h₁.1, ⟨e', rfl⟩, fun hfailed => ?_⟩
      rw [h₁.2.1 e' rfl] at hfailed
      cases hfailed
  | ok _ => exact safe_raise hw₁ ⟨h₁.1, ⟨e, rfl⟩, fun _ => ⟨rfl, h₁.2.2 rfl⟩⟩

/-- The changes of an instrumented child are never recovered without a confirmation. -/
theorem safe_reconcile_changes (hw : AllAllowed status pid w)
    (hstate : status.state.mayHaveChild = true) {hasChanges : Bool} :
    Safe orphanExec (AllAllowed status pid)
      (reconcileChanges setting status context (status.instrumented pid) hasChanges) w
      fun result w' => Later w w' ∧ (status.instrumented pid = true → hasChanges = true →
        (∃ e, result = .error e) ∧ (w'.failed = false → result = .error confirmationError ∧
          ∃ record, w'.file = .record record ∧ record.state = .recoveryConfirmationRequired)) := by
  have hnot : status.state ≠ .committing := by
    intro h
    rw [h] at hstate
    cases hstate
  unfold reconcileChanges
  rw [if_neg fun h => hnot h.1]
  split
  · rename_i hclean
    rw [Bool.and_eq_true, Bool.not_eq_true'] at hclean
    refine safe_post (safe_fail_without_changes hw) fun result w₁ _ h₁ => ⟨h₁.1, fun _ h => ?_⟩
    rw [hclean.1] at h
    cases h
  · split
    · rename_i hlegacy
      refine safe_post (safe_write_and_fail hw _ _ _) fun result w₁ _ h₁ => ⟨h₁.1, fun h => ?_⟩
      simp [h] at hlegacy
    · split
      · exact safe_post (safe_write_and_fail hw _ _ _) fun result w₁ _ h₁ =>
          ⟨h₁.1, fun _ _ => h₁.2⟩
      · rename_i hother
        refine safe_post (safe_reported (?_ : Only Command.reports _) hw) fun result w₁ _ h₁ =>
          ⟨h₁, fun h h' => ?_⟩
        · exact only_bind (only_bind (only_issue trivial) fun _ => only_issue trivial)
            fun _ => only_pure _
        · simp [h, h'] at hother

/-- `git status` shows the changes of the moment. -/
theorem safe_git_status (hw : AllAllowed status pid w) (hclean : w.found = false) :
    Safe orphanExec (AllAllowed status pid) (call .gitStatus) w fun result w' =>
      (∀ m ∈ w.seen, m ∈ w'.seen) ∧ (∀ e, result = .error e → w'.found = false) ∧
        ∀ entries, result = .ok entries → w'.found = decide (entries ≠ []) := by
  refine safe_issue hw fun answer w' hexec => ?_
  obtain ⟨⟨machine, rfl⟩, hentries⟩ := hexec
  refine ⟨hw, (goes_looks w machine).seen, fun e h => ?_, fun entries h => ?_⟩
  · rw [h]
    simp [hclean, listsChange]
  · rw [h]
    simp [hclean, listsChange]

/-- No process has a PID that is not positive. -/
theorem no_process_of_nonpos (m : Machine) (h : pid ≤ 0) : m.NoProcess pid := by
  intro p hp hsame
  have hpositive := m.pids p hp
  omega

/-- The context of a record has its branch. -/
theorem status_context_branch (h : status.context = some context) :
    status.branch = some context.branch := by
  unfold Status.context at h
  obtain ⟨issue, hissue, h⟩ := Option.bind_eq_some_iff.mp h
  obtain ⟨title, htitle, h⟩ := Option.bind_eq_some_iff.mp h
  obtain ⟨branch, hbranch, h⟩ := Option.bind_eq_some_iff.mp h
  obtain ⟨startedAt, hstarted, h⟩ := Option.bind_eq_some_iff.mp h
  split at h
  · cases h
    exact hbranch
  · cases h

/-- The reconciliation of a task signals its child only when it may, and goes on only when the child
is gone. -/
theorem safe_reconcile_task (hw : AllAllowed status pid w) (hpid : status.codexPid = some pid)
    (hstate : status.state.mayHaveChild = true)
    (hcontext : status.context = some context) (hclean : w.found = false) :
    Safe orphanExec (AllAllowed status pid) (reconcileTask setting status context) w
      fun result w' => Reconciled status pid result w' := by
  have hbranch : status.branch = some context.branch := status_context_branch hcontext
  unfold reconcileTask
  rw [if_neg fun h => by rw [h] at hstate; cases hstate]
  refine safe_bind (safe_post (safe_reconcile_child hw hpid hstate) fun result w₁ hw₁ h₁ => ?_)
  have hclean₁ : w₁.found = false := h₁.1.found.trans hclean
  cases result with
  | error e => exact reconciled_error hclean₁
  | ok stopped =>
  obtain ⟨rfl, hchild⟩ := h₁.2 stopped rfl
  refine safe_bind (safe_post (safe_current_branch hw₁) fun result w₂ hw₂ h₂ => ?_)
  have hclean₂ : w₂.found = false := h₂.1.found.trans hclean₁
  cases result with
  | error e => exact reconciled_error hclean₂
  | ok branch =>
  show Safe _ _ (if branch ≠ context.branch then _ else _) _ _
  split
  · refine safe_post (safe_fail_blocked hw₂ _ _) fun result w₃ _ h₃ => ?_
    obtain ⟨h₃, e, rfl⟩ := h₃
    exact reconciled_error (h₃.found.trans hclean₂)
  · rename_i hchecked
    obtain ⟨mb, hmb, hmbranch⟩ := h₂.2 branch rfl
    -- Only an instrumented record names the base that the stopped child started from.
    have hbase : Safe orphanExec (AllAllowed status pid)
        (if status.instrumented pid then checkStoppedBase status context else pure ()) w₂
        fun result w₃ => Later w₂ w₃ ∧ (result = .ok () → status.instrumented pid = true →
          ∃ m ∈ w₃.seen, status.recoverableBaseSha = some m.head) := by
      split
      · exact safe_post (safe_check_stopped_base hw₂) fun result w₃ _ h₃ =>
          ⟨h₃.1, fun h _ => h₃.2 h⟩
      · rename_i hlegacy
        exact safe_pure hw₂ ⟨.refl w₂, fun _ h => absurd h hlegacy⟩
    refine safe_bind (safe_post hbase fun result w₃ hw₃ h₃ => ?_)
    have hclean₃ : w₃.found = false := h₃.1.found.trans hclean₂
    cases result with
    | error e => exact reconciled_error hclean₃
    | ok _ =>
    refine safe_bind (safe_post (safe_git_status hw₃ hclean₃) fun result w₄ hw₄ h₄ => ?_)
    cases result with
    | error e => exact reconciled_error (h₄.2.1 e rfl)
    | ok entries =>
    refine safe_post (safe_reconcile_changes hw₄ hstate) fun result w₅ _ h₅ => ?_
    -- Later commands only add moments, so what was seen on the way is still seen at the end.
    have hkept : ∀ {w₀ : OrphanWorld}, Later w₀ w₃ → ∀ m ∈ w₀.seen, m ∈ w₅.seen :=
      fun hlater m hm => h₅.1.seen m (h₄.1 m (hlater.seen m hm))
    refine ⟨fun _ _ => ?_, fun _ _ => ?_, fun _ _ hinstrumented =>
      ?_, fun hinstrumented hfound => ?_⟩
    · have hlater : Later w₁ w₃ := h₂.1.later.trans h₃.1
      split
      · rename_i hinstrumented
        rw [if_pos hinstrumented] at hchild
        obtain ⟨m, hm, hgone⟩ := hchild
        exact ⟨m, hkept hlater m hm, hgone⟩
      · rename_i hlegacy
        rw [if_neg hlegacy] at hchild
        rcases hchild with hnegative | ⟨m, hm, hgone⟩
        · exact ⟨mb, hkept h₃.1 mb hmb, no_process_of_nonpos mb hnegative⟩
        · exact ⟨m, hkept hlater m hm, hgone⟩
    · rw [not_not] at hchecked
      exact ⟨mb, hkept h₃.1 mb hmb, by rw [hbranch, ← hchecked, hmbranch]⟩
    · obtain ⟨m, hm, hhead⟩ := h₃.2 rfl hinstrumented
      exact ⟨m, hkept (.refl w₃) m hm, hhead⟩
    · refine h₅.2 hinstrumented ?_
      rw [← h₄.2.2 entries rfl, ← h₅.1.found]
      exact hfound

end

/-- For every machine, and however it changes between two calls: `reconcile_stale_run` signals only
the recorded group, after it has seen its leader alive with the recorded identity and a stale
heartbeat. It returns only after it has seen the child gone and the recorded branch and base checked
out, and for an instrumented child that left changes it requires a confirmation. -/
theorem reconcile_orphan_safe {setting : Setting} {status : Status} {pid : Int} {machine : Machine}
    (hstate : status.state.mayHaveChild = true) (hpid : status.codexPid = some pid) :
    Safe orphanExec (AllAllowed status pid) (reconcileStaleRun setting)
      (.start machine (.record status)) fun result w' => Reconciled status pid result w' := by
  have hstart : AllAllowed status pid (.start machine (.record status)) := fun _ h => nomatch h
  have hactive : ∀ state : HandoffState, state.mayHaveChild = true → state.active = true := by
    intro state h
    cases state <;> first | rfl | cases h
  refine safe_bind (safe_issue hstart fun answer w₁ hexec => ?_)
  rcases hexec with ⟨rfl, rfl⟩ | ⟨rfl, e, rfl⟩
  · refine ⟨hstart, ?_⟩
    show Safe _ _ (if !status.state.active then _ else _) _ _
    rw [hactive _ hstate, if_neg (by decide)]
    cases hcontext : status.context with
    | none => exact safe_raise hstart (reconciled_error rfl)
    | some context =>
        refine safe_bind (safe_post (safe_reconcile_task hstart hpid hstate hcontext rfl)
          fun result w₂ hw₂ h₂ => ?_)
        cases result with
        | error e =>
            refine ⟨fun _ h => (nomatch h), fun _ h => (nomatch h), fun _ h => (nomatch h), ?_⟩
            intro hinstrumented hfound
            obtain ⟨_, hrequired⟩ := h₂.confirmed hinstrumented hfound
            refine ⟨⟨e, rfl⟩, fun hfailed => ?_⟩
            obtain ⟨he, hrecord⟩ := hrequired hfailed
            cases he
            exact ⟨rfl, hrecord⟩
        | ok recovered =>
            refine safe_pure hw₂ ⟨fun _ _ => h₂.child _ rfl, fun _ _ => h₂.branch _ rfl,
              fun _ _ => h₂.base _ rfl, fun hinstrumented hfound => ?_⟩
            obtain ⟨⟨e, he⟩, _⟩ := h₂.confirmed hinstrumented hfound
            cases he
  · exact ⟨hstart, reconciled_error rfl⟩

/-- The record of an interrupted run whose child leads group 4242. -/
def orphanRecord : Status :=
  ({ issue := some 7
     title := some "[CODEX] notes"
     branch := some "codex/7-notes"
     startedAt := some "2026-07-17T09:00:00+00:00"
     codexPid := some 4242
     lastChildOutputAt := some "2026-07-17T09:05:00+00:00"
     recoverableBaseSha := some "2f1d0a"
     childProcessGroup := some 4242
     childProcessIdentity := some "4242 Fri Jul 17 09:00:01 2026"
     childInactivityTimeout := some 1800 } : StatusUpdate).payload .implementing none

/-- The child hangs with a change in the working tree. -/
def orphanMachine : Machine where
  processes := [⟨4242, 4242, "Fri Jul 17 09:00:01 2026"⟩, ⟨4300, 4242, "Fri Jul 17 09:00:05 2026"⟩]
  pids := by decide
  heartbeatAge _ := .seconds 7200
  branch := "codex/7-notes"
  head := "2f1d0a"
  entries := [⟨"??", "notes.md", none⟩]

/-- The theorem on a child that hangs. -/
theorem reconcile_orphan_safe_hanging :
    Safe orphanExec (AllAllowed orphanRecord 4242) (reconcileStaleRun keptSetting)
        (.start orphanMachine (.record orphanRecord))
        (fun result w' => Reconciled orphanRecord 4242 result w') ∧
      orphanMachine.Leads 4242 "4242 Fri Jul 17 09:00:01 2026" ∧
      orphanMachine.StaleHeartbeat orphanRecord :=
  ⟨reconcile_orphan_safe (by decide) rfl,
    ⟨_, List.mem_cons_self, rfl, rfl, by decide⟩,
    ⟨_, 1800, 7200, rfl, rfl, by norm_num, rfl, by norm_num⟩⟩

end GrowthOs.Handoff
