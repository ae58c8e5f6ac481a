import GrowthOs.Handoff.PreStaging

/-!
# The staging window

A crash of `commit_with_recovery_checkpoint` between its `STAGING` checkpoint and `git commit`, and
what `reconcile_stale_run` and `validate_recovery_scope` make of the checkout that they find. A
recovery should accept the checkout that the crash left and refuse every other one.
`staging_window_iff` says when it does: `git add -A` has not removed a path from `git status`, and
the record carries no older snapshot of another checkout.
-/

namespace GrowthOs.Handoff

open Library

/-- A repository with its branch, and with what Git prints of it: the lines of `git status` and the
index entry of a path. Git names its commits and its paths. -/
structure Checkout extends Repo where
  branch : String
  status : List StatusEntry
  stage : String → String
  head_named : head ≠ ""
  lists : toRepo.Lists status
  paths_named : "" ∉ workingTreePaths status

/-- `working_tree_paths` of a checkout. -/
def Checkout.paths (checkout : Checkout) : List String := workingTreePaths checkout.status

/-- The paths of a checkout are those that have changed. -/
theorem mem_paths {checkout : Checkout} {path : String} :
    path ∈ checkout.paths ↔ checkout.Changed path :=
  mem_working_tree_paths.trans (checkout.lists path)

/-- Sorted paths are in order. -/
theorem sorted_paths_sorted (paths : List String) :
    (sortedPaths paths).Pairwise fun p q => p ≤ q :=
  List.pairwise_mergeSort' (fun p q : String => p ≤ q) paths

/-- So are the paths of a checkout. -/
theorem paths_sorted (checkout : Checkout) : checkout.paths.Pairwise fun p q => p ≤ q :=
  sorted_paths_sorted _

/-- They are listed once. -/
theorem paths_nodup (checkout : Checkout) : checkout.paths.Nodup :=
  (List.mergeSort_perm _ _).nodup_iff.mpr (List.nodup_dedup _)

/-- Sorted lists of paths without duplicates that have the same paths are equal. -/
theorem paths_eq_of_mem {paths other : List String} (hsorted : paths.Pairwise fun p q => p ≤ q)
    (hother : other.Pairwise fun p q => p ≤ q) (hnodup : paths.Nodup) (hotherNodup : other.Nodup)
    (h : ∀ path, path ∈ paths ↔ path ∈ other) : paths = other := by
  have hperm : paths.Perm other := (List.perm_ext_iff_of_nodup hnodup hotherNodup).mpr h
  exact hperm.eq_of_pairwise (fun p q _ _ hpq hqp => le_antisymm hpq hqp) hsorted hother

/-- `working_tree_paths` is the same exactly when the same paths are changed. -/
theorem paths_eq_iff {checkout found : Checkout} :
    found.paths = checkout.paths ↔ ∀ path, found.Changed path ↔ checkout.Changed path := by
  refine ⟨fun h path => ?_, fun h => ?_⟩
  · rw [← mem_paths, ← mem_paths, h]
  · refine paths_eq_of_mem (paths_sorted found) (paths_sorted checkout) (paths_nodup found)
      (paths_nodup checkout) ?_
    intro path
    exact mem_paths.trans ((h path).trans mem_paths.symm)

/-- Sorting them again changes nothing. -/
theorem sorted_dedup_paths (checkout : Checkout) :
    sortedPaths checkout.paths.dedup = checkout.paths := by
  rw [List.dedup_eq_self.mpr (paths_nodup checkout)]
  exact paths_eq_of_mem (sorted_paths_sorted _) (paths_sorted _)
    ((List.mergeSort_perm _ _).nodup_iff.mpr (paths_nodup checkout)) (paths_nodup checkout)
    fun path => mem_sorted_paths

/-- What `recovery_snapshot` hashes of a checkout. -/
def Checkout.snapshot (checkout : Checkout) (paths : List String) : Snapshot :=
  .recovery checkout.head checkout.status
    ((sortedPaths paths).map fun path => (path, checkout.stage path, checkout.worktree path))

/-- What `recovery_content_snapshot` hashes of a checkout. -/
def Checkout.content (checkout : Checkout) (paths : List String) : Snapshot :=
  .content ((sortedPaths paths).map fun path => (path, checkout.worktree path))

/-- Two checkouts have the same content exactly when their files are the same. -/
theorem content_eq_iff {checkout found : Checkout} {paths : List String} :
    found.content paths = checkout.content paths ↔
      ∀ path ∈ paths, found.worktree path = checkout.worktree path := by
  unfold Checkout.content
  rw [Snapshot.content.injEq, List.map_inj_left]
  refine forall_congr' fun path => ?_
  rw [mem_sorted_paths, Prod.mk.injEq]
  exact imp_congr_right fun _ => ⟨fun h => h.2, fun h => ⟨rfl, h⟩⟩

/-- The status file and a checkout. -/
structure CheckoutWorld where
  file : StatusFile
  checkout : Checkout

/-- The answers of a checkout that nobody else changes. What is not asked of it is answered in any
way. -/
def answerCheckout (others : (command : Command) → Except Raised (Answer command)) :
    (command : Command) → CheckoutWorld → Except Raised (Answer command) × CheckoutWorld
  | .readStatus, w => (.ok w.file, w)
  | .writeStatus status, w => (.ok (), { w with file := .record status })
  | .gitHead, w => (.ok w.checkout.head, w)
  | .gitCurrentBranch, w => (.ok w.checkout.branch, w)
  | .gitStatus, w => (.ok w.checkout.status, w)
  | .gitLsFilesStage path, w => (.ok (w.checkout.stage path), w)
  | .lstat path, w => (.ok (w.checkout.worktree path), w)
  | command, w => (others command, w)

/-- `reconcile_stale_run`, and then `validate_recovery_scope`. -/
def reconcileAndValidate (setting : Setting) : Controller Unit := do
  let _ ← reconcileStaleRun setting
  validateRecoveryScope setting

section

variable (setting : Setting) (others : (command : Command) → Except Raised (Answer command))

/-- The recovery accepts the checkout. -/
def CheckoutWorld.Accepted (w : CheckoutWorld) : Prop :=
  ((reconcileAndValidate setting).eval (answerCheckout others) w).1 = .ok ()

end

section

variable {setting : Setting} {others : (command : Command) → Except Raised (Answer command)}
  {status : Status} {context : StatusContext} {file : StatusFile} {checkout found : Checkout}
  {w : CheckoutWorld} {paths : List String}

/-- A loop whose body is answered. -/
theorem eval_for_each {α β W : Type}
    {respond : (command : Command) → W → Except Raised (Answer command) × W} {f : α → Controller β}
    {g : α → β} {w : W} {list : List α}
    (hf : ∀ a ∈ list, (f a).eval respond w = (.ok (g a), w)) :
    (forEach f list).eval respond w = (.ok (list.map g), w) := by
  induction list with
  | nil => rfl
  | cons a rest ih =>
      unfold forEach
      rw [eval_bind_ok (hf a List.mem_cons_self),
        eval_bind_ok (ih fun b hb => hf b (List.mem_cons_of_mem _ hb))]
      rfl

/-- `recovery_snapshot` of a checkout. -/
theorem eval_recovery_snapshot (hsafe : ∀ path ∈ paths, isUnsafePath path = false) :
    (recoverySnapshot setting paths).eval (answerCheckout others) w =
      (.ok (setting.digest (w.checkout.snapshot paths)), w) := by
  have hfiles : (forEach snapshotFile (sortedPaths paths)).eval (answerCheckout others) w =
      (.ok ((sortedPaths paths).map fun path =>
        (path, w.checkout.stage path, w.checkout.worktree path)), w) := by
    refine eval_for_each fun path hpath => ?_
    unfold snapshotFile
    rw [hsafe path (mem_sorted_paths.mp hpath)]
    rfl
  show (if w.checkout.head = "" then _ else _ : Controller String).eval _ w = _
  rw [if_neg w.checkout.head_named]
  show (forEach snapshotFile (sortedPaths paths) >>= _).eval (answerCheckout others) w = _
  rw [eval_bind_ok hfiles]
  rfl

/-- `recovery_content_snapshot` of a checkout. -/
theorem eval_recovery_content_snapshot (hsafe : ∀ path ∈ paths, isUnsafePath path = false) :
    (recoveryContentSnapshot setting paths).eval (answerCheckout others) w =
      (.ok (setting.digest (w.checkout.content paths)), w) := by
  have hfiles : (forEach contentFile (sortedPaths paths)).eval (answerCheckout others) w =
      (.ok ((sortedPaths paths).map fun path => (path, w.checkout.worktree path)), w) := by
    refine eval_for_each fun path hpath => ?_
    unfold contentFile
    rw [hsafe path (mem_sorted_paths.mp hpath)]
    rfl
  unfold recoveryContentSnapshot
  rw [eval_bind_ok hfiles]
  rfl

/-- The comparison with the recorded digest. -/
theorem eval_exact_snapshot_matches (hsafe : ∀ path ∈ paths, isUnsafePath path = false) :
    (exactSnapshotMatches setting status paths).eval (answerCheckout others) w =
      (.ok (decide (status.recoverableSnapshot =
        some (setting.digest (w.checkout.snapshot paths)))), w) := by
  unfold exactSnapshotMatches
  cases hrecorded : status.recoverableSnapshot with
  | none => rfl
  | some recorded =>
      dsimp only
      rw [eval_bind_ok (eval_recovery_snapshot hsafe)]
      show (Except.ok (decide (_ = recorded)), w) = _
      simp only [Option.some.injEq, eq_comm]

/-- The record of a staging checkpoint of a checkout. -/
structure StagingRecord (setting : Setting) (context : StatusContext) (file : StatusFile)
    (checkout : Checkout) (status : Status) : Prop where
  state : status.state = .committing
  task : status.context = some context
  checkpoint : status.finalizationCheckpoint = some .staging ∨
    status.finalizationCheckpoint = some .staged
  paths : status.recoverablePaths = some checkout.paths
  snapshot : status.recoverableSnapshot = file.previous.bind (·.recoverableSnapshot)
  content : status.recoverableContentSnapshot =
    some (setting.digest (checkout.content checkout.paths))
  base : status.recoverableBaseSha = some checkout.head

/-- The same record, after `reconcile_stale_run` has handed the task to its recovery. -/
def Status.recovered (status : Status) (context : StatusContext) : Status :=
  (StatusUpdate.of context {}).payload .recoverableChanges (some status)

/-- The comparison of the staged content. -/
theorem eval_staged_content_matches (hrecord : StagingRecord setting context file checkout status)
    (hsafe : ∀ path ∈ paths, isUnsafePath path = false) :
    (stagedContentMatches setting (status.recovered context) paths).eval (answerCheckout others) w =
      (.ok (decide (w.checkout.head = checkout.head ∧ setting.digest (w.checkout.content paths) =
        setting.digest (checkout.content checkout.paths))), w) := by
  have hcheckpoint : (status.recovered context).finalizationCheckpoint = some .staging ∨
      (status.recovered context).finalizationCheckpoint = some .staged := hrecord.checkpoint
  have hcontent : (status.recovered context).recoverableContentSnapshot =
      some (setting.digest (checkout.content checkout.paths)) := hrecord.content
  have hbase : (status.recovered context).recoverableBaseSha = some checkout.head := hrecord.base
  unfold stagedContentMatches
  rw [if_pos hcheckpoint, hcontent, hbase]
  show (if w.checkout.head = checkout.head then _ else _ : Controller Bool).eval _ w = _
  split
  · rename_i hhead
    rw [eval_bind_ok (eval_recovery_content_snapshot hsafe)]
    show (Except.ok (decide (_ = _)), w) = _
    simp only [hhead, true_and]
  · rename_i hhead
    show (Except.ok false, w) = _
    simp only [hhead, false_and, decide_false]

/-- The record is read. -/
theorem eval_read_status {record : Status} : (call .readStatus).eval (answerCheckout others)
    ⟨.record record, found⟩ = (.ok (.record record), ⟨.record record, found⟩) := rfl

/-- `validate_recovery_scope` refuses other paths than the recorded ones. -/
theorem eval_validate_other_paths {record : Status} (hpaths : record.recoverablePaths = some paths)
    (hother : found.paths ≠ sortedPaths paths.dedup) :
    ∃ e, ((validateRecoveryScope setting).eval (answerCheckout others)
      ⟨.record record, found⟩).1 = .error e := by
  unfold validateRecoveryScope
  rw [eval_bind_ok eval_read_status]
  dsimp only
  rw [hpaths]
  dsimp only
  split
  · exact ⟨_, rfl⟩
  · split
    · exact ⟨_, rfl⟩
    · show ∃ e, ((if found.paths = sortedPaths paths.dedup then _ else _ : Controller Unit).eval
        (answerCheckout others) _).1 = _
      rw [if_neg hother]
      exact ⟨_, rfl⟩

/-- `validate_recovery_scope` after the reconciliation of a staging checkpoint. -/
theorem eval_validate_recovery_scope (hrecord : StagingRecord setting context file checkout status)
    (hsafe : ∀ path ∈ checkout.paths, isUnsafePath path = false) (hchanged : checkout.paths ≠ []) :
    ((validateRecoveryScope setting).eval (answerCheckout others)
        ⟨.record (status.recovered context), found⟩).1 = .ok () ↔
      found.paths = checkout.paths ∧ (file.previous.bind (·.recoverableSnapshot) =
          some (setting.digest (found.snapshot checkout.paths)) ∨
        (found.head = checkout.head ∧ setting.digest (found.content checkout.paths) =
          setting.digest (checkout.content checkout.paths))) := by
  have hpaths : (status.recovered context).recoverablePaths = some checkout.paths := hrecord.paths
  have hcontent : (status.recovered context).recoverableContentSnapshot ≠ none := by
    show status.recoverableContentSnapshot ≠ none
    rw [hrecord.content]
    exact Option.some_ne_none _
  have hsnapshot : (status.recovered context).recoverableSnapshot =
      file.previous.bind (·.recoverableSnapshot) := hrecord.snapshot
  have hgate : ¬ (checkout.paths = [] ∨ "" ∈ checkout.paths) := by
    intro h
    exact h.elim hchanged checkout.paths_named
  unfold validateRecoveryScope
  rw [eval_bind_ok eval_read_status]
  dsimp only
  rw [hpaths]
  dsimp only
  rw [if_neg fun h => hcontent h.2, if_neg hgate]
  show ((if found.paths = sortedPaths checkout.paths.dedup then _ else _ : Controller Unit).eval
    (answerCheckout others) _).1 = _ ↔ _
  rw [sorted_dedup_paths]
  split
  · rename_i hsame
    rw [eval_bind_ok (eval_exact_snapshot_matches hsafe),
      eval_bind_ok (eval_staged_content_matches hrecord hsafe), hsnapshot]
    split
    · rename_i hrefused
      simp only [Bool.and_eq_true, Bool.not_eq_true', decide_eq_false_iff_not] at hrefused
      refine iff_of_false (fun h => nomatch h) fun h => ?_
      exact h.2.elim hrefused.1 hrefused.2
    · rename_i haccepted
      refine iff_of_true rfl ⟨hsame, ?_⟩
      by_contra hneither
      obtain ⟨hsnapshot, hcontent⟩ := not_or.mp hneither
      exact haccepted (Bool.and_eq_true_iff.mpr
        ⟨Bool.not_eq_true' _ ▸ decide_eq_false hsnapshot,
          Bool.not_eq_true' _ ▸ decide_eq_false hcontent⟩)
  · rename_i hother
    exact iff_of_false (fun h => nomatch h) fun h => hother h.1

/-- There is no child to reconcile. -/
theorem eval_reconcile_child (hrecord : StagingRecord setting context file checkout status) :
    (reconcileChild status context).eval (answerCheckout others) w = (.ok false, w) := by
  unfold reconcileChild
  cases status.codexPid with
  | none => rfl
  | some pid =>
      dsimp only
      rw [hrecord.state]
      rfl

/-- `reconcile_stale_run` at a staging checkpoint, once the child is known to have stopped. -/
theorem eval_reconcile_stale_run (hrecord : StagingRecord setting context file checkout status) :
    (reconcileStaleRun setting).eval (answerCheckout others) ⟨.record status, found⟩ =
      ((if found.branch ≠ context.branch then
          failBlocked context status.codexPid ("Cannot prove recovery branch identity: status " ++
            "records " ++ context.branch ++ ", checkout is " ++ found.branch)
        else
          reconcileChanges setting status context false (found.status ≠ [])) >>=
        fun recovered => pure (some recovered) : Controller (Option StatusContext)).eval
          (answerCheckout others) ⟨.record status, found⟩ := by
  have hactive : ¬ (!status.state.active) = true := by
    rw [hrecord.state]
    decide
  have hstate : status.state ≠ .recoveryConfirmationRequired := by
    rw [hrecord.state]
    decide
  have htask : (reconcileTask setting status context).eval (answerCheckout others)
      ⟨.record status, found⟩ = (if found.branch ≠ context.branch then
          failBlocked context status.codexPid ("Cannot prove recovery branch identity: status " ++
            "records " ++ context.branch ++ ", checkout is " ++ found.branch)
        else
          reconcileChanges setting status context false (found.status ≠ []) :
            Controller StatusContext).eval (answerCheckout others) ⟨.record status, found⟩ := by
    unfold reconcileTask
    rw [if_neg hstate, eval_bind_ok (eval_reconcile_child hrecord)]
    show (if found.branch ≠ context.branch then _ else _ : Controller StatusContext).eval _ _ = _
    split
    · rfl
    · rfl
  show (if !status.state.active then _ else _ : Controller _).eval _ _ = _
  rw [if_neg hactive, hrecord.task]
  exact eval_bind_congr htask

/-- Without changes the reconciliation raises, or leaves a record with the same manifest. -/
theorem eval_reconcile_without_changes
    (hrecord : StagingRecord setting context file checkout status) :
    (∃ e, ((reconcileChanges setting status context false false).eval (answerCheckout others)
        ⟨.record status, found⟩).1 = .error e) ∨
      ∃ after : Status, after.recoverablePaths = some checkout.paths ∧
        (reconcileChanges setting status context false false).eval (answerCheckout others)
          ⟨.record status, found⟩ = (.ok context, ⟨.record after, found⟩) := by
  unfold reconcileChanges
  cases hrecord.checkpoint with
  | inl hstaging =>
      refine .inl ?_
      have hcommit : status.hasCommit = false := by
        unfold Status.hasCommit
        rw [hstaging]
        rfl
      rw [if_neg fun h => by simp [hstaging] at h, hcommit]
      show ∃ e, ((failWithoutChanges setting context).eval _ _).1 = .error e
      refine eval_bind_raises (fun _ _ => ?_) _
      refine eval_bind_raises (fun _ _ => ?_) _
      exact eval_bind_raises (fun _ w => ⟨_, rfl⟩) _
  | inr hstaged =>
      rw [if_pos ⟨hrecord.state, rfl, hstaged⟩]
      unfold recoverPendingCommit
      -- The revision at HEAD is read, whatever the answers are.
      have hread : (headRevision.eval (answerCheckout others) ⟨.record status, found⟩).2 =
          ⟨.record status, found⟩ := by
        refine eval_world ?_ _
        refine only_bind (only_call fun _ => rfl) fun _ =>
          only_bind (only_call fun _ => rfl) fun _ => ?_
        exact only_bind (only_call fun _ => rfl) fun _ =>
          only_bind (only_call fun _ => rfl) fun _ => only_pure _
      have hread : ∃ result, headRevision.eval (answerCheckout others) ⟨.record status, found⟩ =
          (result, ⟨.record status, found⟩) := ⟨_, Prod.ext rfl hread⟩
      obtain ⟨result, hread⟩ := hread
      cases result with
      | error e => exact .inl ⟨e, by rw [eval_bind_error hread]⟩
      | ok revision =>
          rw [eval_bind_ok hread]
          split
          · exact .inr ⟨(StatusUpdate.of context
              { finalizationCheckpoint := some .committed
                commitSha := some revision.head }).payload .recoverableChanges (some status),
              hrecord.paths, rfl⟩
          · exact .inl ⟨_, rfl⟩

/-- Which checkouts the recovery accepts at a staging checkpoint. -/
theorem accepted_iff (hrecord : StagingRecord setting context file checkout status)
    (hsafe : ∀ path ∈ checkout.paths, isUnsafePath path = false) (hchanged : checkout.paths ≠ []) :
    CheckoutWorld.Accepted setting others ⟨.record status, found⟩ ↔
      found.branch = context.branch ∧ found.paths = checkout.paths ∧
        (file.previous.bind (·.recoverableSnapshot) =
            some (setting.digest (found.snapshot checkout.paths)) ∨
          (found.head = checkout.head ∧ setting.digest (found.content checkout.paths) =
            setting.digest (checkout.content checkout.paths))) := by
  unfold CheckoutWorld.Accepted reconcileAndValidate
  have hreconcile := @eval_reconcile_stale_run setting others status context file
    checkout found hrecord
  by_cases hbranch : found.branch = context.branch
  · rw [if_neg fun h => h hbranch] at hreconcile
    by_cases hstatus : found.status = []
    · -- Git lists no changes: `validate_recovery_scope` misses the recorded paths.
      have hpaths : found.paths ≠ checkout.paths := by
        intro h
        refine hchanged (h.symm.trans ?_)
        unfold Checkout.paths workingTreePaths
        rw [hstatus, List.flatMap_nil, List.dedup_nil, List.mergeSort_nil]
      refine iff_of_false ?_ fun h => hpaths h.2.1
      rw [decide_eq_false fun h => h hstatus] at hreconcile
      cases @eval_reconcile_without_changes setting others status context file checkout found
          hrecord with
      | inl hraises =>
          obtain ⟨e, he⟩ := hraises
          rw [eval_bind_error (Prod.ext he rfl)] at hreconcile
          rw [eval_bind_error hreconcile]
          exact fun h => nomatch h
      | inr hcommitted =>
          obtain ⟨after, hafter, heval⟩ := hcommitted
          rw [eval_bind_ok heval] at hreconcile
          have hreconcile : (reconcileStaleRun setting).eval (answerCheckout others)
              ⟨.record status, found⟩ = (.ok (some context), ⟨.record after, found⟩) := hreconcile
          rw [eval_bind_ok hreconcile]
          obtain ⟨e, he⟩ := @eval_validate_other_paths setting others found _ after hafter
            fun h => hpaths (h.trans (sorted_dedup_paths checkout))
          rw [he]
          exact fun h => nomatch h
    -- Git lists changes: they become recoverable, and the recorded manifest is compared with them.
    · have hchanges : (reconcileChanges setting status context false true).eval
          (answerCheckout others) ⟨.record status, found⟩ =
            (.ok context, ⟨.record (status.recovered context), found⟩) := by
        have hmanifest : status.hasTrustedManifest = true := by
          unfold Status.hasTrustedManifest
          rw [hrecord.paths, hrecord.content]
          simp [hchanged]
        unfold reconcileChanges
        rw [if_neg fun h => Bool.false_ne_true h.2.1, hmanifest]
        rfl
      rw [decide_eq_true hstatus, eval_bind_ok hchanges] at hreconcile
      have hreconcile : (reconcileStaleRun setting).eval (answerCheckout others)
          ⟨.record status, found⟩ = (.ok (some context),
            ⟨.record (status.recovered context), found⟩) :=
        hreconcile
      rw [eval_bind_ok hreconcile]
      refine (eval_validate_recovery_scope hrecord hsafe hchanged).trans ?_
      exact ⟨fun h => ⟨hbranch, h⟩, fun h => h.2⟩
  · refine iff_of_false ?_ fun h => hbranch h.1
    rw [if_pos hbranch] at hreconcile
    have hblocked : ∃ e, ((reconcileStaleRun setting).eval (answerCheckout others)
        ⟨.record status, found⟩).1 = .error e := by
      rw [hreconcile]
      exact ⟨_, rfl⟩
    obtain ⟨e, he⟩ := hblocked
    rw [eval_bind_error (Prod.ext he rfl)]
    exact fun h => nomatch h

end

/-! ## The window -/

/-- What a part of `git add -A` has done: it has written the entries of some files to the index. -/
structure PartlyAdded (before after : Checkout) : Prop where
  head : after.head = before.head
  headTree : after.headTree = before.headTree
  branch : after.branch = before.branch
  worktree : after.worktree = before.worktree
  index : ∀ path, after.index path = before.index path ∨
    after.index path = (before.worktree path).entry

/-- The status file and the checkout, with the checkout at the last `STAGING` checkpoint, and
whether `git commit` has committed. -/
structure StagingWorld extends CheckoutWorld where
  staging : Option Checkout
  committed : Bool

/-- The world before `commit_with_recovery_checkpoint`. -/
def StagingWorld.start (file : StatusFile) (checkout : Checkout) : StagingWorld :=
  { file, checkout, staging := none, committed := false }

/-- The world after a record has been written. -/
def StagingWorld.wrote (w : StagingWorld) (status : Status) : StagingWorld :=
  { w with
    file := .record status
    staging := if status.finalizationCheckpoint =
      some .staging then some w.checkout else w.staging }

/-- What a command of `commit_with_recovery_checkpoint` does to the world. A status write replaces
the file or leaves it. `git add -A` that raises has written a part of the index, and `git commit`
that raises may have committed. -/
def stagingExec : Exec Answer Raised StagingWorld
  | .readStatus, w, answer, w' => w' = w ∧ ∀ file, answer = .ok file → file = w.file
  | .writeStatus status, w, answer, w' => w' = w.wrote status ∨ (w' = w ∧ ∃ e, answer = .error e)
  | .gitHead, w, answer, w' => w' = w ∧ ∀ head, answer = .ok head → head = w.checkout.head
  | .gitStatus, w, answer, w' =>
      w' = w ∧ ∀ entries, answer = .ok entries → entries = w.checkout.status
  | .lstat path, w, answer, w' =>
      w' = w ∧ ∀ file, answer = .ok file → file = w.checkout.worktree path
  | .gitAddAll, w, answer, w' => ∃ added, PartlyAdded w.checkout added ∧
      w' = { w with checkout := added } ∧
      ((∃ a, answer = .ok a) → added.index = w.checkout.addAll.index)
  | .gitCommit _, w, answer, w' => w'.committed = true ∨ (w' = w ∧ ∃ e, answer = .error e)
  | _, w, _, w' => w' = w

/-- A checkout with the HEAD and the working tree of another one. -/
structure Unmoved (checkout found : Checkout) : Prop where
  head : found.head = checkout.head
  headTree : found.headTree = checkout.headTree
  branch : found.branch = checkout.branch
  worktree : found.worktree = checkout.worktree

/-- HEAD is different, or the existence, mode or content of a changed path is. -/
def Moved (checkout found : Checkout) : Prop :=
  found.head ≠ checkout.head ∨ ∃ path, (checkout.Changed path ∨ found.Changed path) ∧
    found.worktree path ≠ checkout.worktree path

section

variable (setting : Setting) (others : (command : Command) → Except Raised (Answer command))
  (context : StatusContext) (file : StatusFile) (staging : Checkout) (crashed : CheckoutWorld)

/-- A crash in the staging window: if neither HEAD nor the working tree has changed since the
`STAGING` checkpoint, the recovery accepts what the crash has left, and if HEAD or a changed path is
different, it refuses. -/
structure StagingWindow : Prop where
  accepts : ∀ found, Unmoved staging found → found.index = crashed.checkout.index →
    CheckoutWorld.Accepted setting others ⟨crashed.file, found⟩
  refuses : ∀ found, Moved staging found →
    ¬ CheckoutWorld.Accepted setting others ⟨crashed.file, found⟩

/-- When the staging window is safe. The task branch is checked out; where the working tree is at
HEAD, `git add -A` has not replaced an index entry; and the snapshot that the record carries from
before the checkpoint describes no other checkout that Git lists the same paths of. -/
structure StagingCondition : Prop where
  branch : staging.branch = context.branch
  kept : ∀ path, (staging.worktree path).entry = staging.headTree path →
    crashed.checkout.index path = staging.index path
  carried : ∀ found : Checkout, found.branch = context.branch →
    (∀ path, found.Changed path ↔ staging.Changed path) →
    file.previous.bind (·.recoverableSnapshot) =
      some (setting.digest (found.snapshot staging.paths)) → ¬ Moved staging found

end

section

variable {setting : Setting} {others : (command : Command) → Except Raised (Answer command)}
  {context : StatusContext} {file : StatusFile} {before staging : Checkout} {w : StagingWorld}

/-- The invariant of the window: there is no `STAGING` checkpoint yet, or `git commit` may have
committed, or the record describes the checkout, and a part of it has been added. -/
def InWindow (setting : Setting) (context : StatusContext) (file : StatusFile) (before : Checkout)
    (w : StagingWorld) : Prop :=
  w.staging = none ∨ w.committed = true ∨
    (w.staging = some before ∧ PartlyAdded before w.checkout ∧
      (∀ path ∈ before.paths, isUnsafePath path = false) ∧ before.paths ≠ [] ∧
      ∃ status, w.file = .record status ∧ StagingRecord setting context file before status)

/-- A command that leaves the world as it is. -/
theorem safe_staging_read {c : Command} {I : StagingWorld → Prop}
    {Q : Except Raised (Answer c) → StagingWorld → Prop}
    (hsame : ∀ answer w', stagingExec c w answer w' → w' = w) (hw : I w)
    (hQ : ∀ answer, stagingExec c w answer w → Q answer w) :
    Safe stagingExec I (call c) w Q := by
  refine safe_issue hw fun answer w' hexec => ?_
  obtain rfl := hsame answer w' hexec
  exact ⟨hw, hQ answer hexec⟩

/-- `recovery_content_snapshot` hashes the content of the checkout, and none of its paths is
unsafe. -/
theorem safe_staging_content {I : StagingWorld → Prop} (hw : I w) (paths : List String) :
    Safe stagingExec I (recoveryContentSnapshot setting paths) w fun result w' => w' = w ∧
      ∀ digest, result = .ok digest → digest = setting.digest (w.checkout.content paths) ∧
        ∀ path ∈ paths, isUnsafePath path = false := by
  have hfiles : ∀ list : List String, Safe stagingExec I (forEach contentFile list) w
      fun result w' => w' = w ∧ ∀ files, result = .ok files →
        files = list.map (fun path => (path, w.checkout.worktree path)) ∧
          ∀ path ∈ list, isUnsafePath path = false := by
    intro list
    induction list with
    | nil =>
        refine safe_pure hw ⟨rfl, fun files h => ?_⟩
        cases h
        exact ⟨rfl, fun _ h => absurd h List.not_mem_nil⟩
    | cons path rest ih =>
        have hfile : Safe stagingExec I (contentFile path) w fun result w' => w' = w ∧
            ∀ file, result = .ok file →
              file = (path, w.checkout.worktree path) ∧ isUnsafePath path = false := by
          unfold contentFile
          split
          · exact safe_raise hw ⟨rfl, fun _ h => nomatch h⟩
          · rename_i hunsafe
            refine safe_bind (safe_staging_read (fun _ _ h => h.1) hw fun answer hexec => ?_)
            cases answer with
            | error e => exact ⟨rfl, fun _ h => nomatch h⟩
            | ok file =>
                refine safe_pure hw ⟨rfl, fun pair h => ?_⟩
                cases h
                exact ⟨by rw [hexec.2 file rfl], Bool.eq_false_iff.mpr hunsafe⟩
        refine safe_bind (safe_post hfile fun result w₁ _ hresult => ?_)
        obtain ⟨rfl, hfirst⟩ := hresult
        cases result with
        | error e => exact ⟨rfl, fun _ h => nomatch h⟩
        | ok first =>
        refine safe_bind (safe_post ih fun result w₂ _ hresult => ?_)
        obtain ⟨rfl, hrest⟩ := hresult
        cases result with
        | error e => exact ⟨rfl, fun _ h => nomatch h⟩
        | ok files =>
            refine safe_pure hw ⟨rfl, fun all h => ?_⟩
            cases h
            obtain ⟨hpair, hpath⟩ := hfirst first rfl
            obtain ⟨hmap, hsafe⟩ := hrest files rfl
            exact ⟨by rw [hpair, hmap, List.map_cons], List.forall_mem_cons.mpr ⟨hpath, hsafe⟩⟩
  refine safe_bind (safe_post (hfiles (sortedPaths paths)) fun result w₁ _ hresult => ?_)
  obtain ⟨rfl, hfiles⟩ := hresult
  cases result with
  | error e => exact ⟨rfl, fun _ h => nomatch h⟩
  | ok files =>
      refine safe_pure hw ⟨rfl, fun digest h => ?_⟩
      cases h
      obtain ⟨hmap, hsafe⟩ := hfiles files rfl
      exact ⟨by rw [hmap]; rfl, fun path hpath => hsafe path (mem_sorted_paths.mpr hpath)⟩

/-- A record written for a task names it. -/
theorem payload_context {state : HandoffState} {update : StatusUpdate} {previous : Option Status}
    (htitle : context.title ≠ "") (hbranch : context.branch ≠ "")
    (hstarted : context.startedAt ≠ "") :
    ((StatusUpdate.of context update).payload state previous).context = some context := by
  show (if context.title ≠ "" ∧ context.branch ≠ "" ∧ context.startedAt ≠ "" then _ else _) = _
  rw [if_pos ⟨htitle, hbranch, hstarted⟩]

/-- After `git commit` nothing leaves the invariant. -/
theorem safe_committed {commit : Controller String} (hw : w.committed = true)
    (hcommit : Only (fun c => c = .gitHead ∨ c = .readStatus ∨ ∃ status, c = .writeStatus status)
      commit) :
    Safe stagingExec (InWindow setting context file before) commit w fun _ _ => True := by
  refine safe_post (safe_of_only (J := fun w => w.committed = true) hcommit
    (fun _ h => .inr (.inl h)) ?_ hw) fun _ _ _ _ => trivial
  intro c w₁ answer w₂ hc hw₁ hexec
  cases hc with
  | inl hhead =>
      subst hhead
      exact hexec.1 ▸ hw₁
  | inr hstatus =>
  cases hstatus with
  | inl hread =>
      subst hread
      exact hexec.1 ▸ hw₁
  | inr hwrite =>
      obtain ⟨status, rfl⟩ := hwrite
      cases hexec with
      | inl hwrote => exact hwrote ▸ hw₁
      | inr hnothing => exact hnothing.1 ▸ hw₁

/-- The last part of `commit_with_recovery_checkpoint`, from `git add -A` on. -/
theorem safe_staging_window {subject : String} {status : Status} (htitle : context.title ≠ "")
    (hbranch : context.branch ≠ "") (hstarted : context.startedAt ≠ "")
    (hsafe : ∀ path ∈ before.paths, isUnsafePath path = false) (hchanged : before.paths ≠ [])
    (hstaging : w.staging = some before) (hadded : PartlyAdded before w.checkout)
    (hfile : w.file = .record status) (hrecord : StagingRecord setting context file before status) :
    Safe stagingExec (InWindow setting context file before) (do
        call .gitAddAll
        let tree ← call .gitWriteTree
        if tree = "" then
          fail (.runtimeError "Could not record the staged tree recovery checkpoint")
        else do
          writeStatus .committing (.of context
            { finalizationCheckpoint := some .staged, pendingTreeSha := some tree })
          call (.gitCommit subject)
          let commit ← call .gitHead
          if commit = "" then
            fail (.runtimeError "Could not record the commit recovery checkpoint")
          else do
            writeStatus .committed (.of context
              { finalizationCheckpoint := some .committed, commitSha := some commit })
            pure commit) w fun _ _ => True := by
  have hwindow : ∀ {w' : StagingWorld} {status' : Status}, w'.staging = some before →
      PartlyAdded before w'.checkout → w'.file = .record status' →
      StagingRecord setting context file before status' →
      InWindow setting context file before w' := fun hs ha hf hr =>
    .inr (.inr ⟨hs, ha, hsafe, hchanged, _, hf, hr⟩)
  refine safe_bind (safe_issue (hwindow hstaging hadded hfile hrecord) fun answer w₁ hexec => ?_)
  obtain ⟨added, hmore, rfl, _⟩ := hexec
  have hadded₁ : PartlyAdded before added := by
    refine ⟨hmore.head.trans hadded.head, hmore.headTree.trans hadded.headTree,
      hmore.branch.trans hadded.branch, hmore.worktree.trans hadded.worktree, fun path => ?_⟩
    cases hmore.index path with
    | inl hkept => exact hkept ▸ hadded.index path
    | inr hentry => exact .inr (hentry.trans (congrArg FileState.entry
        (congrFun hadded.worktree path)))
  have hI₁ := @hwindow { w with checkout := added } status hstaging hadded₁ hfile hrecord
  refine ⟨hI₁, ?_⟩
  cases answer with
  | error e => trivial
  | ok _ =>
  refine safe_bind (safe_staging_read (fun _ _ h => h) hI₁ fun answer _ => ?_)
  cases answer with
  | error e => trivial
  | ok tree =>
  show Safe _ _ (if tree = "" then _ else _) _ _
  split
  · exact safe_raise hI₁ trivial
  -- The `STAGED` checkpoint.
  refine safe_bind (safe_bind (safe_staging_read (fun _ _ h => h.1) hI₁ fun answer hread => ?_))
  cases answer with
  | error e => trivial
  | ok read =>
  obtain rfl : read = .record status := (hread.2 read rfl).trans hfile
  have hrecord₂ : StagingRecord setting context file before ((StatusUpdate.of context
      { finalizationCheckpoint := some .staged, pendingTreeSha := some tree }).payload .committing
        (some status)) :=
    { state := rfl
      task := payload_context htitle hbranch hstarted
      checkpoint := .inr rfl
      paths := hrecord.paths
      snapshot := hrecord.snapshot
      content := hrecord.content
      base := hrecord.base }
  refine safe_issue hI₁ fun answer w₂ hexec => ?_
  have hI₂ : InWindow setting context file before w₂ := by
    cases hexec with
    | inl hwrote =>
        subst hwrote
        exact hwindow hstaging hadded₁ rfl hrecord₂
    | inr hnothing =>
        obtain ⟨rfl, e, rfl⟩ := hnothing
        exact hI₁
  refine ⟨hI₂, ?_⟩
  cases answer with
  | error e => trivial
  | ok _ =>
  refine safe_bind (safe_issue hI₂ fun answer w₃ hexec => ?_)
  cases hexec with
  | inr hnothing =>
      obtain ⟨rfl, e, rfl⟩ := hnothing
      exact ⟨hI₂, trivial⟩
  | inl hcommitted =>
      refine ⟨.inr (.inl hcommitted), ?_⟩
      cases answer with
      | error e => trivial
      | ok _ =>
          refine safe_committed hcommitted ?_
          refine only_bind (only_call (.inl rfl)) fun commit => only_ite (only_fail _) ?_
          exact only_bind (only_bind (only_call (.inr (.inl rfl))) fun _ =>
            only_call (.inr (.inr ⟨_, rfl⟩))) fun _ => only_pure _

/-- `commit_with_recovery_checkpoint` keeps the invariant at every command. -/
theorem safe_staging_commit {subject : String} (htitle : context.title ≠ "")
    (hbranch : context.branch ≠ "") (hstarted : context.startedAt ≠ "") :
    Safe stagingExec (InWindow setting context file before)
      (commitWithRecoveryCheckpoint setting context subject) (.start file before)
      fun _ _ => True := by
  have hI : InWindow setting context file before (.start file before) := .inl rfl
  unfold commitWithRecoveryCheckpoint
  refine safe_bind (safe_staging_read (fun _ _ h => h.1) hI fun answer hhead => ?_)
  cases answer with
  | error e => trivial
  | ok base =>
  obtain rfl : base = before.head := hhead.2 base rfl
  show Safe _ _ (if before.head = "" then _ else _) _ _
  rw [if_neg before.head_named]
  refine safe_bind (safe_bind (safe_staging_read (fun _ _ h => h.1) hI fun answer hstatus => ?_))
  cases answer with
  | error e => trivial
  | ok entries =>
  obtain rfl : entries = before.status := hstatus.2 entries rfl
  show Safe _ _ (pure before.paths) _ _
  refine safe_pure hI ?_
  show Safe _ _ (if before.paths = [] then _ else _) _ _
  split
  · exact safe_raise hI trivial
  rename_i hchanged
  refine safe_bind (safe_post (safe_staging_content hI before.paths) fun result w₁ _ hcontent => ?_)
  obtain ⟨rfl, hcontent⟩ := hcontent
  cases result with
  | error e => trivial
  | ok content =>
  obtain ⟨rfl, hsafe⟩ := hcontent content rfl
  -- The `STAGING` checkpoint.
  refine safe_bind (safe_bind (safe_staging_read (fun _ _ h => h.1) hI fun answer hfile => ?_))
  cases answer with
  | error e => trivial
  | ok read =>
  obtain rfl : read = file := hfile.2 read rfl
  have hrecord : StagingRecord setting context read before ((StatusUpdate.of context
      { preCommitSha := some before.head
        pendingCommitSubject := some subject
        finalizationCheckpoint := some .staging
        recoverablePaths := some before.paths
        recoverableContentSnapshot := some (setting.digest (before.content before.paths))
        recoverableBaseSha := some before.head }).payload .committing read.previous) :=
    { state := rfl
      task := payload_context htitle hbranch hstarted
      checkpoint := .inl rfl
      paths := rfl
      snapshot := rfl
      content := rfl
      base := rfl }
  have hnone : PartlyAdded before before := ⟨rfl, rfl, rfl, rfl, fun _ => .inl rfl⟩
  refine safe_issue hI fun answer w₂ hexec => ?_
  cases hexec with
  | inr hnothing =>
      obtain ⟨rfl, e, rfl⟩ := hnothing
      exact ⟨hI, trivial⟩
  | inl hwrote =>
      subst hwrote
      refine ⟨.inr (.inr ⟨rfl, hnone, hsafe, hchanged, _, rfl, hrecord⟩), ?_⟩
      cases answer with
      | error e => trivial
      | ok _ =>
          exact safe_staging_window htitle hbranch hstarted hsafe hchanged rfl hnone rfl hrecord

/-- Git lists the same paths exactly when no index entry has been replaced where the working tree is
at HEAD. -/
theorem paths_kept_iff {added found : Checkout} (hadded : PartlyAdded before added)
    (hunmoved : Unmoved before found) (hindex : found.index = added.index) :
    found.paths = before.paths ↔ ∀ path, (before.worktree path).entry = before.headTree path →
      added.index path = before.index path := by
  have hfound : ∀ path, found.Changed path ↔ ¬ (before.headTree path = added.index path ∧
      added.index path = (before.worktree path).entry) := fun path => by
    unfold Repo.Changed
    rw [hunmoved.headTree, hunmoved.worktree, hindex]
  rw [paths_eq_iff]
  constructor
  · intro h path hclean
    cases hadded.index path with
    | inl hkept => exact hkept
    | inr hentry =>
        have hnot : ¬ found.Changed path := fun hchanged =>
          (hfound path).mp hchanged ⟨hclean ▸ hentry.symm, hentry⟩
        have hbefore : before.headTree path = before.index path ∧
            before.index path = (before.worktree path).entry :=
          not_not.mp fun hchanged => hnot ((h path).mpr hchanged)
        exact hentry.trans hbefore.2.symm
  · intro h path
    rw [hfound path]
    by_cases hclean : (before.worktree path).entry = before.headTree path
    · rw [h path hclean]
      exact Iff.rfl
    · exact iff_of_true (fun hsame => hclean (hsame.1.trans hsame.2).symm)
        fun hsame => hclean (hsame.1.trans hsame.2).symm

/-- What a crash in the window has left, and which checkouts the recovery then accepts. -/
theorem accepted_after_crash {subject : String} (htitle : context.title ≠ "")
    (hbranch : context.branch ≠ "") (hstarted : context.startedAt ≠ "")
    (hcrash : CutOff stagingExec (commitWithRecoveryCheckpoint setting context subject)
      (.start file before) w) (hstaging : w.staging = some staging) (hpending :
      w.committed = false) :
    PartlyAdded staging w.checkout ∧ ∀ found : Checkout,
      (CheckoutWorld.Accepted setting others ⟨w.file, found⟩ ↔
        found.branch = context.branch ∧ found.paths = staging.paths ∧
          (file.previous.bind (·.recoverableSnapshot) =
              some (setting.digest (found.snapshot staging.paths)) ∨
            (found.head = staging.head ∧ setting.digest (found.content staging.paths) =
              setting.digest (staging.content staging.paths)))) := by
  have hinvariant : InWindow setting context file before w :=
    safe_cut_off (safe_staging_commit htitle hbranch hstarted) hcrash
  obtain hnone | hcommitted | hwindow := hinvariant
  · rw [hstaging] at hnone
    cases hnone
  · rw [hpending] at hcommitted
    cases hcommitted
  obtain ⟨hbefore, hadded, hsafe, hchanged, status, hfile, hrecord⟩ := hwindow
  obtain rfl : staging = before := Option.some.inj (hstaging.symm.trans hbefore)
  exact ⟨hadded, fun found => hfile ▸ accepted_iff hrecord hsafe hchanged⟩

/-- A checkout with what `git add -A` makes of it is left by a crash in the window. -/
theorem exists_crash {subject : String} {added : Checkout} (hadded : PartlyAdded before added)
    (hindex : added.index = before.addAll.index)
    (hsafe : ∀ path ∈ before.paths, isUnsafePath path = false) (hchanged : before.paths ≠ []) :
    ∃ w, CutOff stagingExec (commitWithRecoveryCheckpoint setting context subject)
      (.start file before) w ∧ w.staging = some before ∧ w.committed = false ∧
        w.checkout = added := by
  have hfiles : ∀ (w : StagingWorld) (list : List String),
      (∀ path ∈ list, isUnsafePath path = false) →
      Ends stagingExec (forEach contentFile list) w
        (.ok (list.map fun path => (path, w.checkout.worktree path))) w := by
    intro w list hlist
    induction list with
    | nil => exact .done _ _
    | cons path rest ih =>
        have hfile : Ends stagingExec (contentFile path) w
            (.ok (path, w.checkout.worktree path)) w := by
          unfold contentFile
          rw [if_neg (Bool.eq_false_iff.mp (hlist path List.mem_cons_self))]
          exact ends_bind (ends_issue ⟨rfl, fun file h => (Except.ok.inj h).symm⟩) (.done _ _)
        refine ends_bind hfile (ends_bind (ih fun other hother => ?_) (.done _ _))
        exact hlist other (List.mem_cons_of_mem _ hother)
  refine ⟨{ (StagingWorld.start file before).wrote ((StatusUpdate.of context
      { preCommitSha := some before.head
        pendingCommitSubject := some subject
        finalizationCheckpoint := some .staging
        recoverablePaths := some before.paths
        recoverableContentSnapshot := some (setting.digest (before.content before.paths))
        recoverableBaseSha := some before.head }).payload .committing file.previous) with
      checkout := added }, ?_, rfl, rfl, rfl⟩
  unfold commitWithRecoveryCheckpoint
  refine cut_off_bind (ends_issue ⟨rfl, fun head h => (Except.ok.inj h).symm⟩) ?_
  show CutOff _ (if before.head = "" then _ else _) _ _
  rw [if_neg before.head_named]
  refine cut_off_bind (ends_bind (ends_issue ⟨rfl, fun entries h => (Except.ok.inj h).symm⟩)
    (.done _ _)) ?_
  show CutOff _ (if before.paths = [] then _ else _) _ _
  rw [if_neg hchanged]
  refine cut_off_bind (ends_bind (hfiles _ (sortedPaths before.paths) fun path hpath =>
    hsafe path (mem_sorted_paths.mp hpath)) (.done _ _)) ?_
  have hwrites : ∀ (w : StagingWorld) (status : Status),
      Ends stagingExec (call (.writeStatus status)) w (.ok ()) (w.wrote status) :=
    fun w status => ends_issue (.inl rfl)
  refine cut_off_bind (ends_bind (ends_issue ⟨rfl, fun file h => (Except.ok.inj h).symm⟩)
    (hwrites _ _)) ?_
  have hadds : ∀ w : StagingWorld, w.checkout = before →
      Ends stagingExec (call .gitAddAll) w (.ok ()) { w with checkout := added } := by
    intro w hw
    subst hw
    exact ends_issue ⟨added, hadded, rfl, fun _ => hindex⟩
  exact cut_off_bind (hadds _ rfl) (.here _ _)

/-- The staging window. `commit_with_recovery_checkpoint` runs from any status file and checkout,
and crashes between its `STAGING` checkpoint and `git commit`. Equal digests mean equal content. The
recovery accepts what the crash left and refuses what has changed since, exactly under the
condition: `git add -A` must not have rewritten the index where the working tree is at HEAD, or the
changed paths are no longer the recorded ones, and an older snapshot in the record must not describe
another checkout. -/
theorem staging_window_iff (setting : Setting)
    (others : (command : Command) → Except Raised (Answer command)) (context : StatusContext)
    (htitle : context.title ≠ "") (hbranch : context.branch ≠ "")
    (hstarted : context.startedAt ≠ "")
    (subject : String) (file : StatusFile) (before : Checkout) {w : StagingWorld}
    (hcrash : CutOff stagingExec (commitWithRecoveryCheckpoint setting context subject)
      (.start file before) w) {staging : Checkout} (hstaging : w.staging = some staging)
    (hpending : w.committed = false)
    (hfree : CollisionFree setting.digest
      (some (setting.digest (staging.content staging.paths)))) :
    StagingWindow setting others staging w.toCheckoutWorld ↔
      StagingCondition setting context file staging w.toCheckoutWorld := by
  obtain ⟨hadded, haccepted⟩ :=
    accepted_after_crash htitle hbranch hstarted hcrash hstaging hpending
  -- The crash leaves the files and the branch as they were; only the index may have moved.
  have hleft : Unmoved staging w.checkout :=
    ⟨hadded.head, hadded.headTree, hadded.branch, hadded.worktree⟩
  constructor
  · intro h
    obtain ⟨hleftBranch, hleftPaths, -⟩ := (haccepted _).mp (h.accepts w.checkout hleft rfl)
    refine ⟨hleft.branch ▸ hleftBranch, (paths_kept_iff hadded hleft rfl).mp hleftPaths, ?_⟩
    intro found hfoundBranch hsame hsnapshot hmoved
    exact h.refuses found hmoved
      ((haccepted found).mpr ⟨hfoundBranch, paths_eq_iff.mpr hsame, .inl hsnapshot⟩)
  · intro h
    refine ⟨fun found hunmoved hindex => (haccepted found).mpr ⟨?_, ?_, .inr ⟨hunmoved.head, ?_⟩⟩,
      fun found hmoved hfound => ?_⟩
    · exact hunmoved.branch.trans h.branch
    · exact (paths_kept_iff hadded hunmoved hindex).mpr h.kept
    · exact congrArg setting.digest (content_eq_iff.mpr fun path _ =>
        congrFun hunmoved.worktree path)
    · obtain ⟨hfoundBranch, hpaths, hmatches⟩ := (haccepted found).mp hfound
      cases hmatches with
      | inl hsnapshot =>
          exact h.carried found hfoundBranch (paths_eq_iff.mp hpaths) hsnapshot hmoved
      | inr hcontent =>
          have hsame := content_eq_iff.mp (hfree _ _ rfl hcontent.2)
          cases hmoved with
          | inl hhead => exact hhead hcontent.1
          | inr hpath =>
              obtain ⟨path, hlisted, hother⟩ := hpath
              refine hother (hsame path ?_)
              cases hlisted with
              | inl hstaged => exact mem_paths.mpr hstaged
              | inr hfoundChanged => exact hpaths ▸ mem_paths.mpr hfoundChanged

end

/-- The task of the samples. -/
def stagingTask : StatusContext :=
    ⟨7, "[CODEX] notes", "codex/7-notes", "2026-07-17T09:00:00+00:00"⟩

/-- A controller whose digest tells this snapshot, and `keptSnapshot`, from every other one. -/
def markedSetting (marked : Snapshot) : Setting :=
  { keptSetting with
    digest := fun snapshot =>
      if snapshot = marked then "c51d" else if snapshot = keptSnapshot then "7be4" else "" }

/-- A digest of one marked snapshot has no collision with it. -/
theorem collision_free_marked (marked : Snapshot) :
    CollisionFree (markedSetting marked).digest (some ((markedSetting marked).digest marked)) := by
  have hmarked : (markedSetting marked).digest marked = "c51d" := if_pos rfl
  have honly : ∀ s : Snapshot, (markedSetting marked).digest s = "c51d" → s = marked := by
    intro s hs
    by_contra hother
    have hdigest : (markedSetting marked).digest s = if s = keptSnapshot then "7be4" else "" :=
      if_neg hother
    rw [hdigest] at hs
    split at hs
    · exact absurd hs (by decide)
    · exact absurd hs (by decide)
  intro snapshot other hrecorded hsame
  have hsnapshot := (Option.some.inj hrecorded).symm.trans hmarked
  rw [honly snapshot hsnapshot, honly other (hsame.trans hsnapshot)]

/-- The working tree with a new file. -/
def keptCheckout : Checkout where
  toRepo := keptRepo
  branch := "codex/7-notes"
  status := [⟨"??", "notes.md", none⟩]
  stage _ := ""
  head_named := by decide
  lists path := by
    show _ ↔ ¬ (none = none ∧ none = (if path = "notes.md" then _ else _ : FileState).entry)
    split
    · rename_i hpath
      simp [hpath, FileState.entry]
    · rename_i hpath
      simp [hpath, FileState.entry, eq_comm]
  paths_named := by
    rw [mem_working_tree_paths]
    simp

/-- The same checkout, once the file has been added. -/
def keptAdded : Checkout where
  toRepo := keptRepo.addAll
  branch := "codex/7-notes"
  status := [⟨"A ", "notes.md", none⟩]
  stage path := if path = "notes.md" then "100644 8f3c 0\tnotes.md" else ""
  head_named := by decide
  lists path := by
    show _ ↔ ¬ (none = (if path = "notes.md" then _ else _ : FileState).entry ∧ _ = _)
    split
    · rename_i hpath
      simp [hpath, FileState.entry, Repo.addAll, keptRepo]
    · rename_i hpath
      simp [hpath, FileState.entry, Repo.addAll, keptRepo, eq_comm]
  paths_named := by
    rw [mem_working_tree_paths]
    simp

/-- One path of the sample has changed. -/
theorem kept_checkout_paths {path : String} : path ∈ keptCheckout.paths ↔ path = "notes.md" := by
  show path ∈ workingTreePaths [⟨"??", "notes.md", none⟩] ↔ _
  rw [mem_working_tree_paths]
  simp [eq_comm]

/-- A digest that is recorded before the checkpoint tells its snapshot. -/
theorem eq_kept_snapshot {marked snapshot : Snapshot}
    (h : some "7be4" = some ((markedSetting marked).digest snapshot)) :
    snapshot = keptSnapshot := by
  by_contra hother
  have hdigest : (markedSetting marked).digest snapshot = if snapshot =
      marked then "c51d" else "" := by
    show (if snapshot = marked then "c51d" else if snapshot = keptSnapshot then "7be4" else "") = _
    rw [if_neg hother]
  rw [hdigest] at h
  split at h
  · exact absurd h (by decide)
  · exact absurd h (by decide)

/-- The window is safe for a new file, with the snapshot of its child capture in the record. -/
theorem staging_window_kept :
    ∃ w, CutOff stagingExec (commitWithRecoveryCheckpoint
        (markedSetting (keptCheckout.content keptCheckout.paths)) stagingTask
        "feat(GH-7): [CODEX] notes")
        (.start (.record keptRecord) keptCheckout) w ∧
      StagingWindow (markedSetting (keptCheckout.content keptCheckout.paths))
        (fun _ => .error (.runtimeError "not answered")) keptCheckout w.toCheckoutWorld := by
  have hadded : PartlyAdded keptCheckout keptAdded :=
    ⟨rfl, rfl, rfl, rfl, fun _ => .inr rfl⟩
  have hsafe : ∀ path ∈ keptCheckout.paths, isUnsafePath path = false := fun path hpath => by
    rw [kept_checkout_paths.mp hpath]
    decide
  have hchanged : keptCheckout.paths ≠ [] :=
    List.ne_nil_of_mem (kept_checkout_paths.mpr rfl)
  obtain ⟨w, hcrash, hstaging, hpending, hcheckout⟩ :=
    @exists_crash _ stagingTask (.record keptRecord) _ _ _ hadded rfl hsafe hchanged
  refine ⟨w, hcrash, (staging_window_iff _ _ stagingTask (by decide) (by decide) (by decide) _ _
    keptCheckout hcrash hstaging hpending (collision_free_marked _)).mpr
    ⟨rfl, fun path hclean => ?_,
      fun found _ hsame hsnapshot hmoved => ?_⟩⟩
  · rw [hcheckout]
    exact hclean
  · have hfound : found.snapshot keptCheckout.paths = keptSnapshot := eq_kept_snapshot hsnapshot
    obtain ⟨hhead, -, hfiles⟩ := Snapshot.recovery.inj hfound
    obtain hhead' | ⟨path, hlisted, hother⟩ := hmoved
    · exact hhead' hhead
    · have hpath : path = "notes.md" := by
        refine kept_checkout_paths.mp (mem_paths.mpr ?_)
        exact hlisted.elim id (hsame path).mp
      have hmem : ("notes.md", found.stage "notes.md", found.worktree "notes.md") ∈
          [("notes.md", "", FileState.file 0o644 "kept")] := by
        rw [← hfiles]
        exact List.mem_map_of_mem (mem_sorted_paths.mpr (kept_checkout_paths.mpr rfl))
      rw [List.mem_singleton, Prod.mk.injEq, Prod.mk.injEq] at hmem
      rw [hpath] at hother
      exact hother hmem.2.2

/-- A staged change of `notes.md` that the working tree has reverted, next to a new file. -/
def revertedCheckout : Checkout where
  head := "2f1d0a"
  headTree path := if path = "notes.md" then some (.blob false "draft") else none
  index path := if path = "notes.md" then some (.blob false "kept") else none
  worktree path := if path = "notes.md" then .file 0o644 "draft" else
    if path = "todo.md" then .file 0o644 "later" else .missing
  branch := "codex/7-notes"
  status := [⟨"MM", "notes.md", none⟩, ⟨"??", "todo.md", none⟩]
  stage path := if path = "notes.md" then "100644 8f3c 0\tnotes.md" else ""
  head_named := by decide
  lists path := by
    unfold Repo.Changed
    dsimp only
    by_cases hnotes : path = "notes.md"
    · simp [hnotes]
    · by_cases htodo : path = "todo.md"
      · simp [htodo, FileState.entry]
      · simp [hnotes, htodo, FileState.entry, eq_comm]
  paths_named := by
    rw [mem_working_tree_paths]
    simp

/-- The same checkout after `git add -A`: the change of `notes.md` is gone. -/
def revertedAdded : Checkout where
  toRepo := revertedCheckout.addAll
  branch := "codex/7-notes"
  status := [⟨"A ", "todo.md", none⟩]
  stage path := if path = "notes.md" then "100644 51e0 0\tnotes.md" else
    if path = "todo.md" then "100644 d0c7 0\ttodo.md" else ""
  head_named := by decide
  lists path := by
    unfold Repo.Changed
    dsimp only [Repo.addAll, revertedCheckout]
    by_cases hnotes : path = "notes.md"
    · simp [hnotes, FileState.entry]
    · by_cases htodo : path = "todo.md"
      · simp [htodo, FileState.entry]
      · simp [hnotes, htodo, FileState.entry, eq_comm]
  paths_named := by
    rw [mem_working_tree_paths]
    simp

/-- Nothing has changed since the `STAGING` checkpoint, but `git add -A` removes `notes.md` from
`git status`, and the recovery refuses the checkout. -/
theorem staging_window_reverted :
    ∃ w, CutOff stagingExec (commitWithRecoveryCheckpoint
        (markedSetting (revertedCheckout.content revertedCheckout.paths)) stagingTask
          "feat(GH-7): [CODEX] notes") (.start (.record keptRecord) revertedCheckout) w ∧
      w.staging = some revertedCheckout ∧ w.committed = false ∧
      CollisionFree (markedSetting (revertedCheckout.content revertedCheckout.paths)).digest
        (some ((markedSetting (revertedCheckout.content revertedCheckout.paths)).digest
          (revertedCheckout.content revertedCheckout.paths))) ∧
      ¬ StagingWindow (markedSetting (revertedCheckout.content revertedCheckout.paths))
        (fun _ => .error (.runtimeError "not answered")) revertedCheckout w.toCheckoutWorld := by
  have hadded : PartlyAdded revertedCheckout revertedAdded :=
    ⟨rfl, rfl, rfl, rfl, fun _ => .inr rfl⟩
  have hpaths : ∀ path, path ∈ revertedCheckout.paths ↔ path = "notes.md" ∨ path = "todo.md" := by
    intro path
    show path ∈ workingTreePaths [⟨"MM", "notes.md", none⟩, ⟨"??", "todo.md", none⟩] ↔ _
    rw [mem_working_tree_paths]
    simp [eq_comm]
  have hsafe : ∀ path ∈ revertedCheckout.paths, isUnsafePath path = false := fun path hpath => by
    obtain rfl | rfl := (hpaths path).mp hpath
    · decide
    · decide
  have hchanged : revertedCheckout.paths ≠ [] :=
    List.ne_nil_of_mem ((hpaths "notes.md").mpr (.inl rfl))
  obtain ⟨w, hcrash, hstaging, hpending, hcheckout⟩ :=
    @exists_crash _ stagingTask (.record keptRecord) _ _ _ hadded rfl hsafe hchanged
  refine ⟨w, hcrash, hstaging, hpending, collision_free_marked _, fun hwindow => ?_⟩
  obtain ⟨-, haccepted⟩ := accepted_after_crash (by decide) (by decide) (by decide) hcrash hstaging
    hpending
  have haccepts := hwindow.accepts revertedAdded ⟨rfl, rfl, rfl, rfl⟩ (by rw [hcheckout])
  obtain ⟨-, hsame, -⟩ := (haccepted revertedAdded).mp haccepts
  -- `notes.md` is recorded, and Git no longer lists it.
  have hlisted : "notes.md" ∈ revertedAdded.paths := hsame ▸ (hpaths "notes.md").mpr (.inl rfl)
  have hother : "notes.md" ∈ workingTreePaths [⟨"A ", "todo.md", none⟩] := hlisted
  rw [mem_working_tree_paths] at hother
  simp at hother

end GrowthOs.Handoff
