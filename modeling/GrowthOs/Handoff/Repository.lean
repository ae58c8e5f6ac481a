import GrowthOs.Handoff.Quiet
import Mathlib.Data.List.Dedup

/-!
# The repository

What the recovery of preserved changes knows of Git: the commit at HEAD with its tree, the index and
the working tree, as functions of a path. `git status` lists the paths at which these three differ,
`git add -A` makes the index the working tree, and `git commit` records the index. Files that Git
ignores and nested repositories are left out of a working tree.
-/

namespace GrowthOs.Handoff

open Library

/-- What Git stores at a path. -/
inductive TreeEntry where
  | blob (executable : Bool) (content : String)
  | link (target : String)
  deriving DecidableEq, Repr

/-- A tree of Git. -/
abbrev Tree : Type := String → Option TreeEntry

/-- What `git add` stores of a file. Git keeps only the executable bit of its owner. -/
def FileState.entry : FileState → Option TreeEntry
  | .missing => none
  | .symlink _ target => some (.link target)
  | .file mode content => some (.blob (mode / 0o100 % 2 == 1) content)
  | .other _ => none

/-- A repository. -/
structure Repo where
  head : String
  headTree : Tree
  index : Tree
  worktree : String → FileState

/-- HEAD, the index and the working tree are not alike at the path. -/
def Repo.Changed (repo : Repo) (path : String) : Prop :=
  ¬ (repo.headTree path = repo.index path ∧ repo.index path = (repo.worktree path).entry)

/-- `git status` lists the changed paths. -/
def Repo.Lists (repo : Repo) (entries : List StatusEntry) : Prop :=
  ∀ path, (∃ entry ∈ entries, entry.path = path ∨ entry.source = some path) ↔ repo.Changed path

/-- `git add -A`. -/
def Repo.addAll (repo : Repo) : Repo :=
  { repo with index := fun path => (repo.worktree path).entry }

/-- A commit: the HEAD that it was made on, with its tree, and its own tree. -/
structure Commit where
  base : String
  baseTree : Tree
  tree : Tree

/-- The commit that `git commit` makes. -/
def Repo.commit (repo : Repo) : Commit := ⟨repo.head, repo.headTree, repo.index⟩

/-- The status file and the repository, with the repository at the first `git add -A` and the first
commit. -/
structure RepoWorld where
  file : StatusFile
  repo : Repo
  staged : Option Repo
  committed : Option Commit

/-- The world before a run. -/
def RepoWorld.start (file : StatusFile) (repo : Repo) : RepoWorld := ⟨file, repo, none, none⟩

/-- The world after `git add -A` has left this index. -/
def RepoWorld.added (w : RepoWorld) (index : Tree) : RepoWorld :=
  { w with repo := { w.repo with index }, staged := w.staged <|> some w.repo }

/-- The world after `git commit`, with the new HEAD. -/
def RepoWorld.commits (w : RepoWorld) (sha : String) : RepoWorld :=
  { w with
    repo := { w.repo with head := sha, headTree := w.repo.index }
    committed := w.committed <|> some w.repo.commit }

/-- What a command does to the world. Any command may raise. A command that is neither one of Git's
reads and commits nor about the status file may leave any repository behind: the verification
commands and the children run while it is open to them. -/
def repoExec : Exec Answer Raised RepoWorld
  | .readStatus, w, answer, w' => w' = w ∧ ∀ file, answer = .ok file → file = w.file
  | .writeStatus status, w, answer, w' =>
      w' = { w with file := .record status } ∨ (w' = w ∧ ∃ e, answer = .error e)
  | .gitHead, w, answer, w' => w' = w ∧ ∀ head, answer = .ok head → head = w.repo.head
  | .gitStatus, w, answer, w' => w' = w ∧ ∀ entries, answer = .ok entries → w.repo.Lists entries
  | .lstat path, w, answer, w' => w' = w ∧ ∀ file, answer = .ok file → file = w.repo.worktree path
  | .gitLsFilesStage _, w, _, w' | .gitWriteTree, w, _, w' => w' = w
  | .gitAddAll, w, answer, w' =>
      ∃ index, w' = w.added index ∧ ((∃ a, answer = .ok a) → index = w.repo.addAll.index)
  | .gitCommit _, w, answer, w' =>
      (∃ sha, w' = w.commits sha) ∨ (w' = w ∧ ∃ e, answer = .error e)
  | _, w, _, w' => w'.file = w.file ∧ w'.staged = w.staged ∧ w'.committed = w.committed

/-- A command that reads the repository or the status file. -/
def Command.Reads : Command → Prop
  | .readStatus | .gitHead | .gitStatus | .lstat _ | .gitLsFilesStage _ | .gitWriteTree => True
  | _ => False

/-- A read leaves the repository. -/
theorem reads_same {c : Command} {w w' : RepoWorld} {answer : Except Raised (Answer c)}
    (hc : c.Reads) (hexec : repoExec c w answer w') : w' = w := by
  cases c with
  | readStatus | gitHead | gitStatus | lstat _ => exact hexec.1
  | gitLsFilesStage _ | gitWriteTree => exact hexec
  | _ => exact hc.elim

/-- The paths of the status entries, with the sources of renames. -/
theorem mem_working_tree_paths {entries : List StatusEntry} {path : String} :
    path ∈ workingTreePaths entries ↔
      ∃ entry ∈ entries, entry.path = path ∨ entry.source = some path := by
  unfold workingTreePaths
  rw [List.mem_mergeSort, List.mem_dedup, List.mem_flatMap]
  refine exists_congr fun entry => and_congr_right fun _ => ?_
  rw [List.mem_cons, Option.mem_toList, eq_comm]

/-- Sorting loses no path. -/
theorem mem_sorted_paths {paths : List String} {path : String} :
    path ∈ sortedPaths paths ↔ path ∈ paths := List.mem_mergeSort

section

variable {I : RepoWorld → Prop} {w : RepoWorld} {setting : Setting}

/-- A read leaves the world as it is. -/
theorem safe_read {c : Command} {Q : Except Raised (Answer c) → RepoWorld → Prop} (hc : c.Reads)
    (hw : I w) (hQ : ∀ answer, repoExec c w answer w → Q answer w) :
    Safe repoExec I (call c) w Q := by
  refine safe_issue hw fun answer w' hexec => ?_
  obtain rfl := reads_same hc hexec
  exact ⟨hw, hQ answer hexec⟩

/-- `working_tree_paths` returns the changed paths. -/
theorem safe_current_paths (hw : I w) :
    Safe repoExec I currentPaths w fun result w' => w' = w ∧ ∀ paths, result = .ok paths →
      ∀ path, path ∈ paths ↔ w.repo.Changed path := by
  refine safe_bind (safe_read trivial hw fun answer hexec => ?_)
  cases answer with
  | error e => exact ⟨rfl, nofun⟩
  | ok entries =>
      refine safe_pure hw ⟨rfl, fun paths hpaths path => ?_⟩
      cases hpaths
      rw [mem_working_tree_paths]
      exact hexec.2 entries rfl path

/-- A script over a list that leaves the world as it is, with a function of its results. -/
theorem safe_for_each {α β γ : Type} {f : α → Controller β} {g : β → γ} {h : α → γ} (hw : I w)
    (hf : ∀ a, Safe repoExec I (f a) w fun result w' => w' = w ∧ ∀ b, result = .ok b → g b = h a)
    (list : List α) :
    Safe repoExec I (forEach f list) w fun result w' => w' = w ∧ ∀ bs, result = .ok bs →
      bs.map g = list.map h := by
  induction list with
  | nil =>
      refine safe_pure hw ⟨rfl, fun bs hbs => ?_⟩
      cases hbs
      rfl
  | cons a rest ih =>
      refine safe_bind (safe_post (hf a) fun result w₁ _ hresult => ?_)
      obtain ⟨rfl, hb⟩ := hresult
      cases result with
      | error e => exact ⟨rfl, nofun⟩
      | ok b =>
      refine safe_bind (safe_post ih fun result w₂ _ hrest => ?_)
      obtain ⟨rfl, hbs⟩ := hrest
      cases result with
      | error e => exact ⟨rfl, nofun⟩
      | ok bs =>
          refine safe_pure hw ⟨rfl, fun list hlist => ?_⟩
          cases hlist
          rw [List.map_cons, List.map_cons, hb b rfl, hbs bs rfl]

/-- An entry of the content snapshot is that of the working tree. -/
theorem safe_content_file (hw : I w) (path : String) :
    Safe repoExec I (contentFile path) w fun result w' => w' = w ∧ ∀ file, result = .ok file →
      file = (path, w.repo.worktree path) := by
  unfold contentFile
  split
  · exact safe_raise hw ⟨rfl, nofun⟩
  · refine safe_bind (safe_read trivial hw fun answer hexec => ?_)
    cases answer with
    | error e => exact ⟨rfl, nofun⟩
    | ok file =>
        refine safe_pure hw ⟨rfl, fun pair hpair => ?_⟩
        cases hpair
        rw [hexec.2 file rfl]

/-- So is an entry of the recovery snapshot. -/
theorem safe_snapshot_file (hw : I w) (path : String) :
    Safe repoExec I (snapshotFile path) w fun result w' => w' = w ∧ ∀ file, result = .ok file →
      (file.1, file.2.2) = (path, w.repo.worktree path) := by
  unfold snapshotFile
  split
  · exact safe_raise hw ⟨rfl, nofun⟩
  · refine safe_bind (safe_read trivial hw fun answer _ => ?_)
    cases answer with
    | error e => exact ⟨rfl, nofun⟩
    | ok index =>
    refine safe_bind (safe_read trivial hw fun answer hexec => ?_)
    cases answer with
    | error e => exact ⟨rfl, nofun⟩
    | ok file =>
        refine safe_pure hw ⟨rfl, fun triple htriple => ?_⟩
        cases htriple
        rw [hexec.2 file rfl]

/-! ## Snapshots -/

/-- The state that a snapshot describes at a path. -/
def Snapshot.fileAt : Snapshot → String → Option FileState
  | .recovery _ _ files, path => (files.find? (·.1 = path)).map (·.2.2)
  | .content files, path => (files.find? (·.1 = path)).map (·.2)

/-- The HEAD that a snapshot describes. -/
def Snapshot.base : Snapshot → Option String
  | .recovery head _ _ => some head
  | .content _ => none

/-- The snapshot describes the repository at these paths. -/
def Snapshot.Describes (snapshot : Snapshot) (repo : Repo) (paths : List String) : Prop :=
  (∀ head, snapshot.base = some head → head = repo.head) ∧
    ∀ path ∈ paths, snapshot.fileAt path = some (repo.worktree path)

/-- A list of described files is found by its paths. -/
theorem find_described {α : Type} {files : List α} {key : α → String} {state : α → FileState}
    {paths : List String} {worktree : String → FileState}
    (hfiles : files.map (fun file => (key file, state file)) =
      paths.map fun path => (path, worktree path)) {path : String} (hpath : path ∈ paths) :
    (files.find? (fun file => key file = path)).map state = some (worktree path) := by
  induction paths generalizing files with
  | nil => cases hpath
  | cons first rest ih =>
      cases files with
      | nil => cases hfiles
      | cons file files =>
          rw [List.map_cons, List.map_cons, List.cons.injEq, Prod.mk.injEq] at hfiles
          obtain ⟨⟨hkey, hstate⟩, hrest⟩ := hfiles
          by_cases hfirst : first = path
          · rw [List.find?_cons_of_pos (by simpa [hkey] using hfirst), Option.map_some, hstate,
              hfirst]
          · rw [List.find?_cons_of_neg (by simpa [hkey] using hfirst)]
            exact ih hrest ((List.mem_cons.mp hpath).resolve_left (Ne.symm hfirst))

/-- `recovery_snapshot` returns the digest of a snapshot that describes the repository. -/
theorem safe_recovery_snapshot (hw : I w) (paths : List String) :
    Safe repoExec I (recoverySnapshot setting paths) w fun result w' => w' = w ∧
      ∀ digest, result = .ok digest → ∃ snapshot : Snapshot, digest = setting.digest snapshot ∧
        snapshot.Describes w.repo paths := by
  refine safe_bind (safe_read trivial hw fun answer hhead => ?_)
  cases answer with
  | error e => exact ⟨rfl, nofun⟩
  | ok head =>
  show Safe _ _ (if head = "" then _ else _) w _
  split
  · exact safe_raise hw ⟨rfl, nofun⟩
  · refine safe_bind (safe_read trivial hw fun answer _ => ?_)
    cases answer with
    | error e => exact ⟨rfl, nofun⟩
    | ok entries =>
    refine safe_bind (safe_post (safe_for_each hw (safe_snapshot_file hw) (sortedPaths paths))
      fun result w₁ _ hfiles => ?_)
    obtain ⟨rfl, hfiles⟩ := hfiles
    cases result with
    | error e => exact ⟨rfl, nofun⟩
    | ok files =>
        refine safe_pure hw ⟨rfl, fun digest hdigest => ?_⟩
        cases hdigest
        refine ⟨_, rfl, fun base hbase => ?_, fun path hpath => ?_⟩
        · cases hbase
          exact hhead.2 head rfl
        · exact find_described (hfiles files rfl) (mem_sorted_paths.mpr hpath)

/-- `recovery_content_snapshot` returns the digest of a snapshot that describes the working tree. -/
theorem safe_recovery_content_snapshot (hw : I w) (paths : List String) :
    Safe repoExec I (recoveryContentSnapshot setting paths) w fun result w' => w' = w ∧
      ∀ digest, result = .ok digest → ∃ snapshot : Snapshot, digest = setting.digest snapshot ∧
        snapshot.Describes w.repo paths := by
  have hcontent : ∀ path, Safe repoExec I (contentFile path) w fun result w' => w' = w ∧
      ∀ file, result = .ok file → (file.1, file.2) = (path, w.repo.worktree path) :=
    fun path => safe_content_file hw path
  refine safe_bind (safe_post (safe_for_each hw hcontent (sortedPaths paths))
    fun result w₁ _ hfiles => ?_)
  obtain ⟨rfl, hfiles⟩ := hfiles
  cases result with
  | error e => exact ⟨rfl, nofun⟩
  | ok files =>
      refine safe_pure hw ⟨rfl, fun digest hdigest => ?_⟩
      cases hdigest
      exact ⟨_, rfl, nofun, fun path hpath =>
        find_described (hfiles files rfl) (mem_sorted_paths.mpr hpath)⟩

end

end GrowthOs.Handoff
