import GrowthOs.Library.Transitions
import Mathlib.Logic.Function.Basic

/-!
# The controller lock

`acquire_lock` and `release_lock` of `devtools/codex_handoff.py`, as steps of any number of
controller processes. An exclusive `flock` belongs to an inode. The lock file's path names at most
one inode, and inodes that it no longer names stay locked and open.
-/

namespace GrowthOs.Handoff

open Library

/-- The identifier of a process. -/
abbrev Pid := Nat

/-- The identity of a file. -/
abbrev Inode := Nat

/-- Where a process is in `acquire_lock` or `release_lock`, with the inode of its open file. -/
inductive LockControl where
  /-- No file is open, and `_LOCK_HANDLE` is `None`. -/
  | outside
  /-- After `LOCK_FILE.open`, before `flock`. -/
  | opened (inode : Inode)
  /-- After `BlockingIOError`, before the owner is read. -/
  | blocked (inode : Inode)
  /-- After the owner is read, before `lock.close()` and the `RuntimeError`. -/
  | refused (inode : Inode) (owner : Option Pid)
  /-- After `flock`, before `lock.truncate()`. -/
  | locked (inode : Inode)
  /-- After `lock.truncate()`, before the PID is written. -/
  | truncated (inode : Inode)
  /-- After the PID is written, before `_LOCK_HANDLE = lock`. -/
  | written (inode : Inode)
  /-- `acquire_lock` has returned. -/
  | holding (inode : Inode)
  /-- In `release_lock`, before `LOCK_FILE.unlink`. -/
  | releasing (inode : Inode)
  /-- After `LOCK_FILE.unlink`, before `LOCK_UN`. -/
  | unlinked (inode : Inode)
  /-- After `LOCK_UN`, before `close`. -/
  | unlocked (inode : Inode)
  deriving DecidableEq, Repr

/-- The inode of the open file. -/
def LockControl.inode? : LockControl → Option Inode
  | .outside => none
  | .opened i | .blocked i | .refused i _ | .locked i | .truncated i | .written i | .holding i
  | .releasing i | .unlinked i | .unlocked i => some i

/-- The lock file and the processes. -/
structure LockState where
  /-- The inode that the path of the lock file names. -/
  path : Option Inode
  /-- The process that has locked an inode. -/
  owner : Inode → Option Pid
  /-- The PID that a file holds. -/
  content : Inode → Option Pid
  control : Pid → LockControl
  /-- The inodes from this number on are unused. -/
  next : Inode

/-- One step of a process. -/
inductive LockAction where
  /-- `LOCK_FILE.open("a+")`. -/
  | openFile
  /-- `fcntl.flock(lock.fileno(), LOCK_EX | LOCK_NB)`. -/
  | flock
  /-- `lock.read()`. -/
  | read
  /-- `lock.truncate()`. -/
  | truncate
  /-- `lock.write(str(os.getpid()))`. -/
  | write
  /-- `_LOCK_HANDLE = lock`. -/
  | setHandle
  /-- `release_lock` is entered. -/
  | enterRelease
  /-- `LOCK_FILE.unlink(missing_ok=True)`. -/
  | unlink
  /-- `LOCK_FILE.unlink` raises, and the `finally` block is entered. -/
  | unlinkFails
  /-- `fcntl.flock(_LOCK_HANDLE.fileno(), LOCK_UN)`. -/
  | unlock
  /-- The file is closed. -/
  | close
  /-- The process ends, or an exception leaves the function. Its file is closed. -/
  | crash
  deriving DecidableEq, Repr

namespace LockState

variable (s : LockState) (p : Pid)

/-- The process goes on to another point. -/
def goTo (control : LockControl) : LockState :=
  { s with control := Function.update s.control p control }

/-- The lock on an inode that a process drops with its file. -/
def drop (inode : Inode) : Inode → Option Pid :=
  if s.owner inode = some p then Function.update s.owner inode none else s.owner

/-- Opening the path creates a file when there is none. -/
def openFile : LockState :=
  match s.path with
  | some inode => s.goTo p (.opened inode)
  | none =>
      { s.goTo p (.opened s.next) with
        path := some s.next
        content := Function.update s.content s.next none
        next := s.next + 1 }

/-- The step of a process, `none` when it cannot take it. -/
def act (action : LockAction) : Option LockState :=
  match s.control p, action with
  | .outside, .openFile => some (s.openFile p)
  | .opened i, .flock =>
      match s.owner i with
      | none => some { s.goTo p (.locked i) with owner := Function.update s.owner i (some p) }
      | some _ => some (s.goTo p (.blocked i))
  | .blocked i, .read => some (s.goTo p (.refused i (s.content i)))
  | .refused _ _, .close => some (s.goTo p .outside)
  | .locked i, .truncate =>
      some { s.goTo p (.truncated i) with content := Function.update s.content i none }
  | .truncated i, .write =>
      some { s.goTo p (.written i) with content := Function.update s.content i (some p) }
  | .written i, .setHandle => some (s.goTo p (.holding i))
  | .holding i, .enterRelease => some (s.goTo p (.releasing i))
  | .releasing i, .unlink => some { s.goTo p (.unlinked i) with path := none }
  | .releasing i, .unlinkFails => some (s.goTo p (.unlinked i))
  | .unlinked i, .unlock => some { s.goTo p (.unlocked i) with owner := s.drop p i }
  | .unlocked _, .close => some (s.goTo p .outside)
  | .outside, .crash => none
  | control, .crash =>
      some { s.goTo p .outside with owner := (control.inode?.map (s.drop p)).getD s.owner }
  | _, _ => none

/-- A step of the processes. -/
def step (s : LockState) (e : Pid × LockAction) : Option LockState := s.act e.1 e.2

/-- No process has opened a file, and no inode is locked. The path may name a file that an earlier
controller left. -/
structure Initial : Prop where
  outside : ∀ p, s.control p = .outside
  unlocked : ∀ i, s.owner i = none

/-- `acquire_lock` has returned in the process, and it has not entered `release_lock`. -/
def Holds : Prop := ∃ i, s.control p = .holding i

end LockState

/-- The inode that a process has locked. -/
def LockControl.locked? : LockControl → Option Inode
  | .locked i | .truncated i | .written i | .holding i | .releasing i | .unlinked i => some i
  | _ => none

/-- The inode that a process has locked, until it removes the path. -/
def LockControl.claims? : LockControl → Option Inode
  | .locked i | .truncated i | .written i | .holding i | .releasing i => some i
  | _ => none

/-- A controller that claims the lock has locked the inode. -/
theorem LockControl.locked_of_claims {control : LockControl} {i : Inode}
    (h : control.claims? = some i) : control.locked? = some i := by
  cases control <;> first | exact h | cases h

/-- A `flock` that succeeds locks the inode that the path names. The other steps are free. -/
def locksNamed (s : LockState) (e : Pid × LockAction) : Bool :=
  match s.control e.1, e.2 with
  | .opened i, .flock => s.owner i ≠ none || s.path = some i
  | _, _ => true

namespace LockState

/-- What a step with that guard keeps: an inode has one owner, and the inode of a process that has
not removed the path is the one that the path names. -/
structure Invariant (s : LockState) : Prop where
  owned : ∀ p i, (s.control p).locked? = some i → s.owner i = some p
  named : ∀ p i, (s.control p).claims? = some i → s.path = some i

variable {s s' : LockState} {p q : Pid}

/-- The invariant holds initially. -/
theorem invariant_of_initial (h : s.Initial) : s.Invariant := by
  refine ⟨fun p i hlocked => ?_, fun p i hclaims => ?_⟩
  · rw [h.outside p] at hlocked
    cases hlocked
  · rw [h.outside p] at hclaims
    cases hclaims

/-- One controller moves on. -/
theorem go_to_control (control : LockControl) :
    (s.goTo p control).control q = if q = p then control else s.control q :=
  Function.update_apply ..

/-- A controller drops only what it owns. -/
theorem drop_of_ne {i j : Inode} (h : s.owner j ≠ some p) : s.drop p i j = s.owner j := by
  unfold drop
  by_cases howner : s.owner i = some p
  · rw [if_pos howner]
    refine Function.update_of_ne (fun heq => h ?_) _ _
    rw [heq]
    exact howner
  · rw [if_neg howner]

/-- Two processes do not claim an inode both. -/
theorem claims_unique (h : s.Invariant) {i j : Inode} (hp : (s.control p).claims? = some i)
    (hq : (s.control q).claims? = some j) : p = q := by
  have hsame : i = j := Option.some.inj ((h.named p i hp).symm.trans (h.named q j hq))
  have howner := h.owned p i (LockControl.locked_of_claims hp)
  rw [hsame, h.owned q j (LockControl.locked_of_claims hq)] at howner
  exact (Option.some.inj howner).symm

/-- A step that leaves path and owners alone, and after which the process has locked or claims no
other inode than before. -/
theorem invariant_go_to (h : s.Invariant) {control : LockControl}
    (hpath : s'.path = s.path) (howner : s'.owner = s.owner)
    (hcontrol : s'.control = (s.goTo p control).control)
    (hlocked : ∀ i, control.locked? = some i → (s.control p).locked? = some i)
    (hclaims : ∀ i, control.claims? = some i → (s.control p).claims? = some i) : s'.Invariant := by
  refine ⟨fun q i hq => ?_, fun q i hq => ?_⟩
  · rw [hcontrol, go_to_control] at hq
    rw [howner]
    by_cases hqp : q = p
    · rw [if_pos hqp] at hq
      exact hqp ▸ h.owned p i (hlocked i hq)
    · rw [if_neg hqp] at hq
      exact h.owned q i hq
  · rw [hcontrol, go_to_control] at hq
    rw [hpath]
    by_cases hqp : q = p
    · rw [if_pos hqp] at hq
      exact h.named p i (hclaims i hq)
    · rw [if_neg hqp] at hq
      exact h.named q i hq

/-- A step after which the process has no file locked, and that drops at most its own lock. -/
theorem invariant_drop (h : s.Invariant) {control : LockControl} {i : Inode}
    (hpath : s'.path = s.path) (howner : s'.owner = s.drop p i)
    (hcontrol : s'.control = (s.goTo p control).control) (hlocked : control.locked? = none) :
    s'.Invariant := by
  have hother : ∀ q j, (s'.control q).locked? = some j →
      q ≠ p ∧ s'.control q = s.control q := by
    intro q j hq
    rw [hcontrol, go_to_control] at hq ⊢
    by_cases hqp : q = p
    · rw [if_pos hqp, hlocked] at hq
      cases hq
    · exact ⟨hqp, if_neg hqp⟩
  refine ⟨fun q j hq => ?_, fun q j hq => ?_⟩
  · obtain ⟨hqp, heq⟩ := hother q j hq
    rw [heq] at hq
    have hq' := h.owned q j hq
    rw [howner, drop_of_ne (by rw [hq']; exact fun heq => hqp (Option.some.inj heq)), hq']
  · obtain ⟨-, heq⟩ := hother q j (LockControl.locked_of_claims hq)
    rw [heq] at hq
    rw [hpath]
    exact h.named q j hq

/-- Opening locks nothing. A file is created only when no process claims the path. -/
theorem invariant_open_file (h : s.Invariant) : (s.openFile p).Invariant := by
  cases hpath : s.path with
  | some i =>
      have heq : s.openFile p = s.goTo p (.opened i) := by simp [openFile, hpath]
      rw [heq]
      exact invariant_go_to h rfl rfl rfl (fun _ hi => by cases hi) (fun _ hi => by cases hi)
  | none =>
      have hcontrol : (s.openFile p).control = (s.goTo p (.opened s.next)).control := by
        simp [openFile, hpath]
      have howner : (s.openFile p).owner = s.owner := by simp [openFile, hpath, goTo]
      have hfree : ∀ q i, ((s.openFile p).control q).locked? = some i →
          (s.control q).locked? = some i := by
        intro q i hq
        rw [hcontrol, go_to_control] at hq
        by_cases hqp : q = p
        · rw [if_pos hqp] at hq
          cases hq
        · rwa [if_neg hqp] at hq
      refine ⟨fun q i hq => ?_, fun q i hq => ?_⟩
      · rw [howner]
        exact h.owned q i (hfree q i hq)
      · -- A process that claims an inode keeps the path.
        have hclaims : (s.control q).claims? = some i := by
          rw [hcontrol, go_to_control] at hq
          by_cases hqp : q = p
          · rw [if_pos hqp] at hq
            cases hq
          · rwa [if_neg hqp] at hq
        rw [h.named q i hclaims] at hpath
        cases hpath

/-- `flock` on the inode that the path names. -/
theorem invariant_flock (h : s.Invariant) {i : Inode} (howner : s.owner i = none)
    (hpath : s.path = some i) :
    Invariant { s.goTo p (.locked i) with owner := Function.update s.owner i (some p) } := by
  refine ⟨fun q j hq => ?_, fun q j hq => ?_⟩
  · show Function.update s.owner i (some p) j = some q
    rw [show _ = _ from go_to_control (.locked i)] at hq
    by_cases hqp : q = p
    · rw [if_pos hqp] at hq
      obtain rfl : i = j := Option.some.inj hq
      rw [Function.update_self, hqp]
    · rw [if_neg hqp] at hq
      have hq' := h.owned q j hq
      have hne : j ≠ i := by
        rintro rfl
        rw [howner] at hq'
        cases hq'
      rw [Function.update_of_ne hne, hq']
  · show s.path = some j
    rw [show _ = _ from go_to_control (.locked i)] at hq
    by_cases hqp : q = p
    · rw [if_pos hqp] at hq
      exact hpath.trans hq
    · rw [if_neg hqp] at hq
      exact h.named q j hq

/-- Removing the path, which only the one process that claims it does. -/
theorem invariant_unlink (h : s.Invariant) {i : Inode} (hp : s.control p = .releasing i) :
    Invariant { s.goTo p (.unlinked i) with path := none } := by
  have hclaims : (s.control p).claims? = some i := by rw [hp]; rfl
  refine ⟨fun q j hq => ?_, fun q j hq => ?_⟩
  · show s.owner j = some q
    rw [show _ = _ from go_to_control (.unlinked i)] at hq
    by_cases hqp : q = p
    · rw [if_pos hqp] at hq
      obtain rfl : i = j := Option.some.inj hq
      rw [hqp]
      exact h.owned p i (LockControl.locked_of_claims hclaims)
    · rw [if_neg hqp] at hq
      exact h.owned q j hq
  · rw [show _ = _ from go_to_control (.unlinked i)] at hq
    by_cases hqp : q = p
    · rw [if_pos hqp] at hq
      cases hq
    · rw [if_neg hqp] at hq
      exact absurd (claims_unique h hq hclaims) hqp

/-- Every step that meets the guard keeps the invariant. -/
theorem invariant_act (h : s.Invariant) {action : LockAction}
    (hguard : locksNamed s (p, action) = true) (hstep : s.act p action = some s') :
    s'.Invariant := by
  -- One case for each line the process stands at; only opening, locking, unlinking and closing
  -- touch the files.
  unfold act at hstep
  split at hstep
  · cases hstep
    exact invariant_open_file h
  · rename_i i hcontrol
    cases howner : s.owner i with
    | none =>
        rw [howner] at hstep
        cases hstep
        refine invariant_flock h howner ?_
        simpa [locksNamed, hcontrol, howner] using hguard
    | some q =>
        rw [howner] at hstep
        cases hstep
        exact invariant_go_to h rfl rfl rfl (fun _ hi => by cases hi) (fun _ hi => by cases hi)
  · cases hstep
    exact invariant_go_to h rfl rfl rfl (fun _ hi => by cases hi) (fun _ hi => by cases hi)
  · cases hstep
    exact invariant_go_to h rfl rfl rfl (fun _ hi => by cases hi) (fun _ hi => by cases hi)
  · rename_i i hcontrol
    cases hstep
    exact invariant_go_to h rfl rfl rfl (fun _ hi => by rw [hcontrol]; exact hi)
      (fun _ hi => by rw [hcontrol]; exact hi)
  · rename_i i hcontrol
    cases hstep
    exact invariant_go_to h rfl rfl rfl (fun _ hi => by rw [hcontrol]; exact hi)
      (fun _ hi => by rw [hcontrol]; exact hi)
  · rename_i i hcontrol
    cases hstep
    exact invariant_go_to h rfl rfl rfl (fun _ hi => by rw [hcontrol]; exact hi)
      (fun _ hi => by rw [hcontrol]; exact hi)
  · rename_i i hcontrol
    cases hstep
    exact invariant_go_to h rfl rfl rfl (fun _ hi => by rw [hcontrol]; exact hi)
      (fun _ hi => by rw [hcontrol]; exact hi)
  · rename_i i hcontrol
    cases hstep
    exact invariant_unlink h hcontrol
  · rename_i i hcontrol
    cases hstep
    exact invariant_go_to h rfl rfl rfl (fun _ hi => by rw [hcontrol]; exact hi)
      (fun _ hi => by cases hi)
  · cases hstep
    exact invariant_drop h rfl rfl rfl rfl
  · cases hstep
    exact invariant_go_to h rfl rfl rfl (fun _ hi => by cases hi) (fun _ hi => by cases hi)
  · cases hstep
  · cases hstep
    cases hinode : (s.control p).inode? with
    | none =>
        exact invariant_go_to h rfl rfl rfl (fun _ hi => by cases hi) (fun _ hi => by cases hi)
    | some i => exact invariant_drop h rfl rfl rfl rfl
  · cases hstep

end LockState

/-- In every run in which `flock` only locks the inode that the path names, at most one process
holds the lock. -/
theorem lock_mutual_exclusion {s s' : LockState} {actions : List (Pid × LockAction)}
    (hinitial : s.Initial) (hrun : guardedRun LockState.step locksNamed s actions = some s')
    {p q : Pid} (hp : s'.Holds p) (hq : s'.Holds q) : p = q := by
  have hinvariant : s'.Invariant :=
    guarded_run_invariant (fun _ _ _ h hguard hstep => LockState.invariant_act h hguard hstep)
      (LockState.invariant_of_initial hinitial) hrun
  obtain ⟨i, hi⟩ := hp
  obtain ⟨j, hj⟩ := hq
  exact LockState.claims_unique hinvariant (by rw [hi]; rfl) (by rw [hj]; rfl)

/-- No lock file, and no process in the lock functions. -/
def noLockFile : LockState := ⟨none, fun _ => none, fun _ => none, fun _ => .outside, 0⟩

/-- The steps of a process that acquires the lock. -/
def acquireSteps (p : Pid) : List (Pid × LockAction) :=
  [.openFile, .flock, .truncate, .write, .setHandle].map fun action => (p, action)

/-- The sample state is initial. -/
theorem no_lock_file_initial : noLockFile.Initial := ⟨fun _ => rfl, fun _ => rfl⟩

/-- A process that holds the lock while another one opens the file and is blocked is the only one
that holds it. -/
theorem lock_mutual_exclusion_acquired :
    ∃ s, guardedRun LockState.step locksNamed noLockFile
        (acquireSteps 1 ++ [(2, .openFile), (2, .flock)]) = some s ∧
      s.control 2 = .blocked 0 ∧ s.Holds 1 ∧ ∀ q, s.Holds q → 1 = q := by
  have hmap : (guardedRun LockState.step locksNamed noLockFile
      (acquireSteps 1 ++ [(2, .openFile), (2, .flock)])).map (fun s => (s.control 1, s.control 2)) =
        some (.holding 0, .blocked 0) := by
    decide
  obtain ⟨s, hrun, hcontrol⟩ := Option.map_eq_some_iff.mp hmap
  obtain ⟨hfirst, hsecond⟩ := Prod.mk.inj hcontrol
  exact ⟨s, hrun, hsecond, ⟨0, hfirst⟩, fun q hq =>
    lock_mutual_exclusion no_lock_file_initial hrun ⟨0, hfirst⟩ hq⟩

/-- The process 2 opens the file while the process 1 holds the lock. Process 1 removes the path,
process 3 acquires a new file, and process 2 then locks the removed one. -/
def raceSteps : List (Pid × LockAction) :=
  acquireSteps 1 ++ [(2, .openFile), (1, .enterRelease), (1, .unlink)] ++ acquireSteps 3 ++
    [(1, .unlock), (1, .close)] ++
    [.flock, .truncate, .write, .setHandle].map fun action => (2, action)

/-- Two processes hold the lock after the race. -/
theorem race_breaks_mutual_exclusion :
    ∃ s, runSteps LockState.step noLockFile raceSteps = some s ∧ s.Holds 2 ∧ s.Holds 3 := by
  have hmap : (runSteps LockState.step noLockFile raceSteps).map
      (fun s => (s.control 2, s.control 3)) = some (.holding 0, .holding 1) := by
    decide
  obtain ⟨s, hrun, hcontrol⟩ := Option.map_eq_some_iff.mp hmap
  obtain ⟨hsecond, hthird⟩ := Prod.mk.inj hcontrol
  exact ⟨s, hrun, ⟨0, hsecond⟩, ⟨1, hthird⟩⟩

end GrowthOs.Handoff
