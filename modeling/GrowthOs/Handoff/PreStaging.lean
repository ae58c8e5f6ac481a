import GrowthOs.Handoff.Repository

/-!
# Pre-staging authorization

A recovery commits only what its recorded manifest describes. `Manifest.Matches` says when a working
tree is the recorded one, `Manifest.Authorizes` when a commit has only recorded content, and
`staging_authorized` that `finalize_changes` stages nothing else, whatever the verification commands
do to the repository.
-/

namespace GrowthOs.Handoff

open Library

/-- The manifest fields of a record. -/
structure Manifest where
  paths : Option (List String)
  snapshot : Option String
  contentSnapshot : Option String
  checkpoint : Option Checkpoint
  base : Option String
  deriving DecidableEq, Repr

/-- The manifest of a record. -/
def Status.manifest (status : Status) : Manifest :=
  { paths := status.recoverablePaths
    snapshot := status.recoverableSnapshot
    contentSnapshot := status.recoverableContentSnapshot
    checkpoint := status.finalizationCheckpoint
    base := status.recoverableBaseSha }

/-- The manifest of a status file. -/
def StatusFile.manifest (file : StatusFile) : Option Manifest := file.previous.map Status.manifest

/-- A digest of one snapshot only. -/
def CollisionFree (digest : Snapshot → String) (recorded : Option String) : Prop :=
  ∀ snapshot other, recorded = some (digest snapshot) → digest other = digest snapshot →
    other = snapshot

/-- What is recorded is the digest of a snapshot, and the snapshot, whichever it is, describes the
repository at these paths. -/
def Recorded (digest : Snapshot → String) (recorded : Option String) (repo : Repo)
    (paths : List String) : Prop :=
  (∃ snapshot, recorded = some (digest snapshot)) ∧
    ∀ snapshot, recorded = some (digest snapshot) → snapshot.Describes repo paths

/-- The checkpoint of the manifest is `STAGING` or `STAGED`. -/
def Manifest.staging (manifest : Manifest) : Prop :=
  manifest.checkpoint = some .staging ∨ manifest.checkpoint = some .staged

/-- The changes of the repository are the recorded ones: the recorded paths are exactly the changed
ones, and the child-captured or confirmed snapshot describes them, or the snapshot of the staging
checkpoint does on its base. -/
def Manifest.Matches (manifest : Manifest) (digest : Snapshot → String) (repo : Repo) : Prop :=
  ∃ paths, manifest.paths = some paths ∧ (∀ path, repo.Changed path ↔ path ∈ paths) ∧
    (Recorded digest manifest.snapshot repo paths ∨
      (manifest.staging ∧ manifest.base = some repo.head ∧
        Recorded digest manifest.contentSnapshot repo paths))

/-- What is recorded is the digest of a snapshot, and the snapshot, whichever it is, describes the
tree at these paths. -/
def Committed (digest : Snapshot → String) (recorded : Option String) (tree : Tree)
    (paths : List String) : Prop :=
  (∃ snapshot, recorded = some (digest snapshot)) ∧
    ∀ snapshot, recorded = some (digest snapshot) →
      ∀ path ∈ paths, ∃ file, snapshot.fileAt path = some file ∧ tree path = file.entry

/-- The commit differs from its base at recorded paths only, and has there what the manifest
describes. -/
def Manifest.Authorizes (manifest : Manifest) (digest : Snapshot → String) (commit : Commit) :
    Prop :=
  ∃ paths, manifest.paths = some paths ∧
    (∀ path, commit.tree path ≠ commit.baseTree path → path ∈ paths) ∧
    (Committed digest manifest.snapshot commit.tree paths ∨
      (manifest.staging ∧ manifest.base = some commit.base ∧
        Committed digest manifest.contentSnapshot commit.tree paths))

/-- What is recorded of the repository is committed by `git add -A` and `git commit`. -/
theorem committed_of_recorded {digest : Snapshot → String} {recorded : Option String} {repo : Repo}
    {paths : List String} (h : Recorded digest recorded repo paths) :
    Committed digest recorded repo.addAll.commit.tree paths :=
  ⟨h.1, fun snapshot hsnapshot path hpath =>
    ⟨repo.worktree path, (h.2 snapshot hsnapshot).2 path hpath, rfl⟩⟩

/-- A matching repository is committed as the manifest says. -/
theorem authorizes_of_matches {manifest : Manifest} {digest : Snapshot → String} {repo : Repo}
    (h : manifest.Matches digest repo) : manifest.Authorizes digest repo.addAll.commit := by
  obtain ⟨paths, hpaths, hchanged, hrecorded⟩ := h
  refine ⟨paths, hpaths, fun path hdiffers => ?_, ?_⟩
  · refine (hchanged path).mp fun hsame => hdiffers ?_
    show (repo.worktree path).entry = repo.headTree path
    rw [hsame.1, hsame.2]
  · cases hrecorded with
    | inl hexact => exact .inl (committed_of_recorded hexact)
    | inr hstaged => exact .inr ⟨hstaged.1, hstaged.2.1, committed_of_recorded hstaged.2.2⟩

section

variable {I : RepoWorld → Prop} {w : RepoWorld} {setting : Setting} {status : Status}

/-- A recorded digest that the current snapshot has describes the repository. -/
theorem recorded_of_digest {recorded : Option String} {snapshot : Snapshot} {repo : Repo}
    {paths : List String} (hfree : CollisionFree setting.digest recorded)
    (hrecorded : recorded = some (setting.digest snapshot))
    (hdescribes : snapshot.Describes repo paths) : Recorded setting.digest recorded repo paths := by
  refine ⟨⟨snapshot, hrecorded⟩, fun other hother => ?_⟩
  have hsame : setting.digest other = setting.digest snapshot :=
    Option.some.inj (hother.symm.trans hrecorded)
  rw [hfree snapshot other hrecorded hsame]
  exact hdescribes

/-- Where the digests match, the snapshots do. -/
theorem safe_exact_snapshot_matches (hw : I w) (paths : List String)
    (hfree : CollisionFree setting.digest status.recoverableSnapshot) :
    Safe repoExec I (exactSnapshotMatches setting status paths) w fun result w' => w' = w ∧
      (result = .ok true → Recorded setting.digest status.recoverableSnapshot w.repo paths) := by
  unfold exactSnapshotMatches
  cases hrecorded : status.recoverableSnapshot with
  | none => exact safe_pure hw ⟨rfl, nofun⟩
  | some recorded =>
      refine safe_bind (safe_post (safe_recovery_snapshot hw paths) fun result w₁ _ hsnapshot => ?_)
      obtain ⟨rfl, hsnapshot⟩ := hsnapshot
      cases result with
      | error e => exact ⟨rfl, nofun⟩
      | ok current =>
          refine safe_pure hw ⟨rfl, fun htrue => ?_⟩
          obtain ⟨snapshot, rfl, hdescribes⟩ := hsnapshot current rfl
          have hsame : setting.digest snapshot = recorded :=
            of_decide_eq_true (Except.ok.inj htrue)
          rw [← hrecorded]
          exact recorded_of_digest hfree (by rw [hrecorded, hsame]) hdescribes

/-- The same for the staged content. -/
theorem safe_staged_content_matches (hw : I w) (paths : List String)
    (hfree : CollisionFree setting.digest status.recoverableContentSnapshot) :
    Safe repoExec I (stagedContentMatches setting status paths) w fun result w' => w' = w ∧
      (result = .ok true → status.manifest.staging ∧ status.recoverableBaseSha = some w.repo.head ∧
        Recorded setting.digest status.recoverableContentSnapshot w.repo paths) := by
  unfold stagedContentMatches
  split
  · rename_i hstaging
    cases hrecorded : status.recoverableContentSnapshot with
    | none => exact safe_pure hw ⟨rfl, nofun⟩
    | some recorded =>
    cases hbase : status.recoverableBaseSha with
    | none => exact safe_pure hw ⟨rfl, nofun⟩
    | some base =>
    refine safe_bind (safe_read trivial hw fun answer hhead => ?_)
    cases answer with
    | error e => exact ⟨rfl, nofun⟩
    | ok head =>
    show Safe _ _ (if head = base then _ else _) w _
    split
    · rename_i hsameHead
      refine safe_bind (safe_post (safe_recovery_content_snapshot hw paths)
        fun result w₁ _ hsnapshot => ?_)
      obtain ⟨rfl, hsnapshot⟩ := hsnapshot
      cases result with
      | error e => exact ⟨rfl, nofun⟩
      | ok current =>
          refine safe_pure hw ⟨rfl, fun htrue => ⟨hstaging, ?_, ?_⟩⟩
          · rw [← hsameHead, hhead.2 head rfl]
          · obtain ⟨snapshot, rfl, hdescribes⟩ := hsnapshot current rfl
            have hsame : setting.digest snapshot = recorded :=
              of_decide_eq_true (Except.ok.inj htrue)
            rw [← hrecorded]
            exact recorded_of_digest hfree (by rw [hrecorded, hsame]) hdescribes
    · exact safe_pure hw ⟨rfl, nofun⟩
  · exact safe_pure hw ⟨rfl, nofun⟩

/-- The digests of the manifest in the status file have no collisions. -/
def StatusFile.CollisionFree (digest : Snapshot → String) (file : StatusFile) : Prop :=
  ∀ manifest, file.manifest = some manifest →
    Handoff.CollisionFree digest manifest.snapshot ∧
      Handoff.CollisionFree digest manifest.contentSnapshot

/-- The manifest in the status file matches the repository. -/
def StatusFile.Matches (digest : Snapshot → String) (file : StatusFile) (repo : Repo) : Prop :=
  ∃ manifest, file.manifest = some manifest ∧ manifest.Matches digest repo

/-- `validate_recovery_scope` returns only if the manifest matches the repository. -/
theorem safe_validate_recovery_scope (hw : I w) (hfree : w.file.CollisionFree setting.digest) :
    Safe repoExec I (validateRecoveryScope setting) w fun result w' => w' = w ∧
      (result = .ok () → w.file.Matches setting.digest w.repo) := by
  refine safe_bind (safe_read trivial hw fun answer hfile => ?_)
  cases answer with
  | error e => exact ⟨rfl, nofun⟩
  | ok file =>
  obtain rfl := hfile.2 file rfl
  cases hrecord : w.file with
  | missing | unreadable => exact safe_raise hw ⟨rfl, nofun⟩
  | record status =>
  obtain ⟨hfreeExact, hfreeContent⟩ := hfree status.manifest (by rw [hrecord]; rfl)
  cases hpaths : status.recoverablePaths with
  | none =>
      simp only [hpaths]
      exact safe_raise hw ⟨rfl, nofun⟩
  | some expected =>
  simp only [hpaths]
  split
  · exact safe_raise hw ⟨rfl, nofun⟩
  · split
    · exact safe_raise hw ⟨rfl, nofun⟩
    · refine safe_bind (safe_post (safe_current_paths hw) fun result w₁ _ hcurrent => ?_)
      obtain ⟨rfl, hcurrent⟩ := hcurrent
      cases result with
      | error e => exact ⟨rfl, nofun⟩
      | ok paths =>
      show Safe _ _ (if paths = sortedPaths expected.dedup then _ else _) w₁ _
      split
      · rename_i hsame
        -- The changed paths are those of the manifest; next come the digests.
        have hchanged : ∀ path, w₁.repo.Changed path ↔ path ∈ expected := fun path => by
          rw [← hcurrent paths rfl path, hsame, mem_sorted_paths, List.mem_dedup]
        refine safe_bind (safe_post (safe_exact_snapshot_matches hw expected hfreeExact)
          fun result w₂ _ hexact => ?_)
        obtain ⟨rfl, hexact⟩ := hexact
        cases result with
        | error e => exact ⟨rfl, nofun⟩
        | ok exactMatches =>
        refine safe_bind (safe_post (safe_staged_content_matches hw expected hfreeContent)
          fun result w₃ _ hstaged => ?_)
        obtain ⟨rfl, hstaged⟩ := hstaged
        cases result with
        | error e => exact ⟨rfl, nofun⟩
        | ok stagedMatches =>
        show Safe _ _ (if !exactMatches && !stagedMatches then _ else _) w₃ _
        split
        · exact safe_raise hw ⟨rfl, nofun⟩
        · rename_i hmatches
          refine safe_pure hw ⟨rfl, fun _ => ⟨status.manifest, rfl, expected, hpaths, hchanged, ?_⟩⟩
          cases exactMatches with
          | true => exact .inl (hexact rfl)
          | false =>
              cases stagedMatches with
              | true => exact .inr (hstaged rfl)
              | false => exact absurd rfl hmatches
      · exact safe_raise hw ⟨rfl, nofun⟩

end

/-! ## Finalization -/

section

variable {setting : Setting} {start : StatusFile} {w : RepoWorld} {manifest : Manifest}

/-- The first `git add -A` finds the recorded changes, and the first commit is authorized. -/
structure Authorized (setting : Setting) (start : StatusFile) (w : RepoWorld) : Prop where
  staged : ∀ repo, w.staged = some repo → start.Matches setting.digest repo
  committed : ∀ commit, w.committed = some commit →
    ∃ manifest, start.manifest = some manifest ∧ manifest.Authorizes setting.digest commit

/-- Nothing has been staged, and the manifest in the status file is this one. -/
structure Unstaged (manifest : Manifest) (w : RepoWorld) : Prop where
  staged : w.staged = none
  committed : w.committed = none
  manifest : w.file.manifest = some manifest

/-- Before the first `git add -A` there is nothing to authorize. -/
theorem authorized_of_unstaged (hw : w.staged = none ∧ w.committed = none) :
    Authorized setting start w := by
  refine ⟨fun repo h => ?_, fun commit h => ?_⟩
  · rw [hw.1] at h
    cases h
  · rw [hw.2] at h
    cases h

/-- Nothing has been staged that would have to be authorised. -/
theorem Unstaged.authorized (hw : Unstaged manifest w) : Authorized setting start w :=
  authorized_of_unstaged ⟨hw.staged, hw.committed⟩

/-- The first commit has been made. -/
def CommitMade (setting : Setting) (start : StatusFile) (w : RepoWorld) : Prop :=
  w.staged.isSome = true ∧ w.committed.isSome = true ∧ Authorized setting start w

/-- A commit that has been made stays the last one. -/
theorem commit_made_step {c : Command} {w' : RepoWorld} {answer : Except Raised (Answer c)}
    (hw : CommitMade setting start w) (hexec : repoExec c w answer w') :
    CommitMade setting start w' := by
  obtain ⟨hstaged, hcommitted, hauthorized⟩ := hw
  have hkeep : w'.staged = w.staged → w'.committed = w.committed → CommitMade setting start w' := by
    intro hs hc
    refine ⟨hs ▸ hstaged, hc ▸ hcommitted, ?_, ?_⟩
    · exact fun repo h => hauthorized.staged repo (hs ▸ h)
    · exact fun commit h => hauthorized.committed commit (hc ▸ h)
  obtain ⟨repo, hrepo⟩ := Option.isSome_iff_exists.mp hstaged
  obtain ⟨commit, hcommit⟩ := Option.isSome_iff_exists.mp hcommitted
  cases c with
  | readStatus | gitHead | gitStatus | lstat _ => exact hkeep (by rw [hexec.1]) (by rw [hexec.1])
  | gitLsFilesStage _ | gitWriteTree =>
      have hsame : w' = w := hexec
      exact hkeep (by rw [hsame]) (by rw [hsame])
  | writeStatus status =>
      cases hexec with
      | inl hwrite => exact hkeep (by rw [hwrite]) (by rw [hwrite])
      | inr hnothing => exact hkeep (by rw [hnothing.1]) (by rw [hnothing.1])
  | gitAddAll =>
      obtain ⟨index, hadded, _⟩ := hexec
      refine hkeep ?_ (by rw [hadded]; rfl)
      rw [hadded]
      show (w.staged <|> some w.repo) = w.staged
      rw [hrepo]
      rfl
  | gitCommit subject =>
      cases hexec with
      | inl hcommits =>
          obtain ⟨sha, hcommits⟩ := hcommits
          refine hkeep (by rw [hcommits]; rfl) ?_
          rw [hcommits]
          show (w.committed <|> some w.repo.commit) = w.committed
          rw [hcommit]
          rfl
      | inr hnothing => exact hkeep (by rw [hnothing.1]) (by rw [hnothing.1])
  | _ => exact hkeep hexec.2.1 hexec.2.2

/-- After the first commit, whatever a script does keeps the commit authorized. -/
theorem safe_commit_made {α : Type} {p : Controller α} {Q : Except Raised α → RepoWorld → Prop}
    (hw : CommitMade setting start w)
    (hQ : ∀ result w', CommitMade setting start w' → Q result w') :
    Safe repoExec (Authorized setting start) p w Q := by
  have hanything : Only (fun _ => True) p := by
    induction p with
    | done result => trivial
    | perform command next ih => exact ⟨trivial, fun answer => ih answer⟩
  refine safe_post (safe_of_only hanything (fun _ h => h.2.2)
    (fun _ _ _ _ _ hw hexec => commit_made_step hw hexec) hw) fun result w' _ hw' => ?_
  exact hQ result w' hw'

/-- A status write that gives no manifest keeps the manifest. -/
theorem manifest_kept {state : HandoffState} {context : StatusContext} {file : StatusFile}
    (h : file.manifest = some manifest) :
    (StatusFile.record ((StatusUpdate.of context {}).payload state file.previous)).manifest =
      some manifest := by
  cases file with
  | missing | unreadable => cases h
  | record status => exact h

/-- The verification stages nothing. -/
theorem safe_unstaged_verification {context : StatusContext} {pass : Nat}
    (hw : Unstaged manifest w) :
    Safe repoExec (Authorized setting start) (runVerification context pass) w
      fun _ w' => Unstaged manifest w' := by
  refine safe_bind (safe_bind (safe_read trivial hw.authorized fun answer hfile => ?_))
  cases answer with
  | error e => exact hw
  | ok file =>
  obtain rfl := hfile.2 file rfl
  refine safe_issue hw.authorized fun answer w₁ hexec => ?_
  have hw₁ : Unstaged manifest w₁ := by
    cases hexec with
    | inl hwrite => exact hwrite ▸ ⟨hw.staged, hw.committed, manifest_kept hw.manifest⟩
    | inr hnothing => exact hnothing.1 ▸ hw
  refine ⟨hw₁.authorized, ?_⟩
  cases answer with
  | error e => exact hw₁
  | ok _ =>
  have hcommands : Only (fun c => ∃ name, c = Command.runVerificationCommand name) (do
      let _ ← forEach (verifyWith (".git/codex-handoff-logs/verify-" ++ toString context.issue ++
        "-" ++ toString pass ++ ".log")) verificationCommands
      pure ()) := by
    refine only_bind (only_for_each fun name => ?_) fun _ => only_pure _
    exact only_bind (only_call ⟨name, rfl⟩) fun _ => only_ite (only_fail _) (only_pure _)
  refine safe_of_only hcommands (fun _ h => h.authorized) ?_ hw₁
  rintro c w₂ answer w₃ ⟨name, rfl⟩ hw₂ hexec
  obtain ⟨hfile, hstaged, hcommitted⟩ := hexec
  exact ⟨hstaged ▸ hw₂.staged, hcommitted ▸ hw₂.committed, hfile ▸ hw₂.manifest⟩

/-- A status write touches the status file only. -/
theorem safe_write_file {state : HandoffState} {update : StatusUpdate} {I : RepoWorld → Prop}
    (hI : ∀ file, I { w with file }) :
    Safe repoExec I (writeStatus state update) w fun _ w' => ∃ file, w' = { w with file } := by
  refine safe_bind (safe_read trivial (hI w.file) fun answer _ => ?_)
  cases answer with
  | error e => exact ⟨w.file, rfl⟩
  | ok file =>
      refine safe_issue (hI w.file) fun answer w₁ hexec => ?_
      cases hexec with
      | inl hwrite => exact hwrite ▸ ⟨hI _, _, rfl⟩
      | inr hnothing =>
          obtain ⟨rfl, _⟩ := hnothing
          exact ⟨hI w₁.file, w₁.file, rfl⟩

/-- `git commit` of a staged repository, and what follows it in
`commit_with_recovery_checkpoint`. -/
theorem safe_commit_staged {context : StatusContext} {subject tree : String} {repo : Repo}
    (hw : w.staged = some repo ∧ w.committed = none ∧ w.repo = repo.addAll)
    (hmatches : start.Matches setting.digest repo) :
    Safe repoExec (Authorized setting start) (do
        writeStatus .committing (.of context
          { finalizationCheckpoint := some .staged, pendingTreeSha := some tree })
        call (.gitCommit subject)
        let commit ← call .gitHead
        if commit = "" then
          fail (.runtimeError "Could not record the commit recovery checkpoint")
        else do
          writeStatus .committed (.of context
            { finalizationCheckpoint := some .committed, commitSha := some commit })
          pure commit) w
      fun result w' => w'.staged.isSome = true ∧
        ∀ sha, result = .ok sha → CommitMade setting start w' := by
  obtain ⟨hstaged, hcommitted, hrepo⟩ := hw
  have hauthorized : ∀ file, Authorized setting start { w with file } := by
    refine fun file => ⟨fun repo' h => ?_, fun commit h => ?_⟩
    · have hsame : repo' = repo := Option.some.inj (h.symm.trans hstaged)
      exact hsame ▸ hmatches
    · cases hcommitted.symm.trans h
  refine safe_bind (safe_post (safe_write_file hauthorized) fun result w₁ hI hwritten => ?_)
  obtain ⟨file, rfl⟩ := hwritten
  have hsome : w.staged.isSome = true := by rw [hstaged]; rfl
  cases result with
  | error e => exact ⟨hsome, nofun⟩
  | ok _ =>
  refine safe_bind (safe_issue hI fun answer w₂ hexec => ?_)
  cases hexec with
  -- A failing `git commit` makes no commit.
  | inr hnothing =>
      obtain ⟨rfl, e, rfl⟩ := hnothing
      exact ⟨hI, hsome, nofun⟩
  | inl hcommits =>
      obtain ⟨sha, rfl⟩ := hcommits
      -- What is committed is the staged repository, which the manifest authorises.
      have hmade : CommitMade setting start (({ w with file } : RepoWorld).commits sha) := by
        obtain ⟨manifest, hmanifest, hmatch⟩ := hmatches
        refine ⟨hsome, ?_, (hauthorized file).staged, fun commit h => ⟨manifest, hmanifest, ?_⟩⟩
        · show (w.committed <|> some w.repo.commit).isSome = true
          rw [hcommitted]
          rfl
        · have hfirst : (w.committed <|> some w.repo.commit) = some commit := h
          rw [hcommitted, hrepo] at hfirst
          cases hfirst
          exact authorizes_of_matches hmatch
      refine ⟨hmade.2.2, ?_⟩
      cases answer with
      | error e => exact ⟨hsome, nofun⟩
      | ok _ => exact safe_commit_made hmade fun result w₃ hw₃ => ⟨hw₃.1, fun _ _ => hw₃⟩

/-- The commit of a repository that matches the recorded manifest. -/
theorem safe_commit_recorded {context : StatusContext} {subject : String}
    (hw : w.staged = none ∧ w.committed = none) (hmatches : start.Matches setting.digest w.repo) :
    Safe repoExec (Authorized setting start)
      (commitWithRecoveryCheckpoint setting context subject) w
      fun result w' => (w'.staged = none → (∃ e, result = .error e) ∧ w'.repo = w.repo) ∧
        ∀ sha, result = .ok sha → CommitMade setting start w' := by
  -- Until `git add` nothing is staged, and a failure leaves the repository as it was.
  have hauthorized : ∀ file, Authorized setting start { w with file } :=
    fun file => authorized_of_unstaged hw
  have hfails : ∀ {e : Raised} {file : StatusFile}, (({ w with file } : RepoWorld).staged = none →
      (∃ e', (Except.error e : Except Raised String) = .error e') ∧ w.repo = w.repo) ∧
        ∀ sha, (Except.error e : Except Raised String) = .ok sha →
          CommitMade setting start { w with file } :=
    fun {e file} => ⟨fun _ => ⟨⟨e, rfl⟩, rfl⟩, nofun⟩
  have hI : Authorized setting start w := hauthorized w.file
  refine safe_bind (safe_read trivial hI fun answer _ => ?_)
  cases answer with
  | error e => exact hfails
  | ok base =>
  show Safe _ _ (if base = "" then _ else _) w _
  split
  · exact safe_raise hI hfails
  refine safe_bind (safe_post (safe_current_paths hI) fun result w₁ _ hpaths => ?_)
  obtain ⟨rfl, _⟩ := hpaths
  cases result with
  | error e => exact hfails
  | ok paths =>
  show Safe _ _ (if paths = [] then _ else _) w₁ _
  split
  · exact safe_raise hI hfails
  refine safe_bind (safe_post (safe_recovery_content_snapshot hI paths)
    fun result w₂ _ hcontent => ?_)
  obtain ⟨rfl, _⟩ := hcontent
  cases result with
  | error e => exact hfails
  | ok content =>
  refine safe_bind (safe_post (safe_write_file hauthorized) fun result w₃ hI₃ hwritten => ?_)
  obtain ⟨file, rfl⟩ := hwritten
  cases result with
  | error e => exact hfails
  | ok _ =>
  refine safe_bind (safe_issue hI₃ fun answer w₄ hexec => ?_)
  obtain ⟨index, rfl, hindex⟩ := hexec
  -- From here on the index holds the repository the recorded manifest was matched with.
  have hstaged : (({ w₂ with file } : RepoWorld).added index).staged = some w₂.repo := by
    show (w₂.staged <|> some w₂.repo) = some w₂.repo
    rw [hw.1]
    rfl
  have hI₄ : Authorized setting start (({ w₂ with file } : RepoWorld).added index) := by
    refine ⟨fun repo h => ?_, (hauthorized file).committed⟩
    have hsame : repo = w₂.repo := Option.some.inj (h.symm.trans hstaged)
    exact hsame ▸ hmatches
  have hnot : (({ w₂ with file } : RepoWorld).added index).staged ≠ none := by
    rw [hstaged]
    exact Option.some_ne_none _
  refine ⟨hI₄, ?_⟩
  cases answer with
  | error e => exact ⟨fun h => absurd h hnot, nofun⟩
  | ok _ =>
  have hadded := hindex ⟨_, rfl⟩
  subst hadded
  refine safe_bind (safe_read trivial hI₄ fun answer _ => ?_)
  cases answer with
  | error e => exact ⟨fun h => absurd h hnot, nofun⟩
  | ok tree =>
  show Safe _ _ (if tree = "" then _ else _) _ _
  split
  · exact safe_raise hI₄ ⟨fun h => absurd h hnot, nofun⟩
  refine safe_post (safe_commit_staged ⟨hstaged, hw.2, rfl⟩ hmatches) fun result w₅ _ hcommit => ?_
  refine ⟨fun h => ?_, hcommit.2⟩
  rw [h] at hcommit
  cases hcommit.1

/-- What can be said of a recovery that has staged nothing. -/
def Refused (setting : Setting) (start : StatusFile) (result : Except Raised Unit)
    (w : RepoWorld) : Prop :=
  w.staged = none → (∃ e, result = .error e) ∧
    (w.file.manifest = start.manifest ∨ start.Matches setting.digest w.repo)

/-- A recovery resumes from the status in the file. -/
theorem safe_recovered_status {I : RepoWorld → Prop} (hw : I w) :
    Safe repoExec I (recoveredStatus true) w fun result w' => w' = w ∧
      ∀ status, result = .ok status → status = w.file.previous := by
  show Safe _ _ (call .readStatus >>= _) w _
  refine safe_bind (safe_read trivial hw fun answer hfile => ?_)
  cases answer with
  | error e => exact ⟨rfl, fun _ h => nomatch h⟩
  | ok answered =>
      obtain rfl := hfile.2 answered rfl
      cases hrecord : w.file with
      | missing => exact safe_pure hw ⟨rfl, fun status h => (Except.ok.inj h).symm⟩
      | unreadable => exact safe_raise hw ⟨rfl, fun _ h => nomatch h⟩
      | record status => exact safe_pure hw ⟨rfl, fun status h => (Except.ok.inj h).symm⟩

/-- `finalize_changes` after both validations. -/
theorem safe_publish_recorded {title : String} {context : StatusContext} {allowMerge : Bool}
    (hcompleted : completedOf (start.previous.bind (·.finalizationCheckpoint)) = 0)
    (hw : Unstaged manifest w) (hmatches : start.Matches setting.digest w.repo) :
    Safe repoExec (Authorized setting start)
      (publishChanges setting title context start.previous allowMerge true) w
      fun result w' => Refused setting start result w' := by
  unfold publishChanges ensureCommit
  simp only [hcompleted, if_true]
  refine safe_bind (safe_post (safe_commit_recorded ⟨hw.staged, hw.committed⟩ hmatches)
    fun result w₁ _ hcommit => ?_)
  obtain ⟨hnothing, hmade⟩ := hcommit
  cases result with
  | error e =>
      intro hstaged
      obtain ⟨_, hrepo⟩ := hnothing hstaged
      exact ⟨⟨e, rfl⟩, .inr (hrepo ▸ hmatches)⟩
  | ok commit =>
      refine safe_commit_made (hmade commit rfl) fun result w₂ hw₂ hstaged => ?_
      have hsome := hw₂.1
      rw [hstaged] at hsome
      cases hsome

end

/-- Pre-staging authorization. `finalize_changes` recovers, from any status file without a completed
commit checkpoint and any repository, and the verification commands may leave any repository behind.
At every command the first `git add -A`, if there was one, found exactly the recorded changes, and
the first commit, if there was one, differs from its base at recorded paths only and has there what
the manifest describes. If nothing has been staged it ends in an error, and it has not replaced the
manifest unless the changes are the recorded ones. -/
theorem staging_authorized (setting : Setting) (title : String) (context : StatusContext)
    (allowMerge : Bool) (file : StatusFile) (repo : Repo)
    (hcompleted : completedOf (file.previous.bind (·.finalizationCheckpoint)) = 0)
    (hfree : file.CollisionFree setting.digest) :
    Safe repoExec (Authorized setting file) (finalizeChanges setting title context allowMerge true)
      (.start file repo) fun result w' => Refused setting file result w' := by
  have hI : Authorized setting file (.start file repo) := authorized_of_unstaged ⟨rfl, rfl⟩
  have hrefused : ∀ {e : Raised} {w : RepoWorld}, w.file.manifest = file.manifest →
      Refused setting file (.error e) w := fun h _ => ⟨⟨_, rfl⟩, .inl h⟩
  refine safe_bind (safe_post (safe_recovered_status hI) fun result w₁ _ hstatus => ?_)
  obtain ⟨rfl, hstatus⟩ := hstatus
  cases result with
  | error e => exact hrefused rfl
  | ok status =>
  obtain rfl := hstatus status rfl
  have hvalidate : validateRecovery setting (file.previous.bind (·.commitSha))
      (file.previous.bind (·.prUrl)) context.branch
      (completedOf (file.previous.bind (·.finalizationCheckpoint))) =
        validateRecoveryScope setting := if_pos hcompleted
  have hrevalidate : revalidateRecovery setting
      (completedOf (file.previous.bind (·.finalizationCheckpoint))) =
        validateRecoveryScope setting := if_pos hcompleted
  show Safe _ _ (validateRecovery setting (file.previous.bind (·.commitSha))
    (file.previous.bind (·.prUrl)) context.branch
      (completedOf (file.previous.bind (·.finalizationCheckpoint))) >>= _) _ _
  rw [hvalidate]
  refine safe_bind (safe_post (safe_validate_recovery_scope hI hfree) fun result w₂ _ hvalid => ?_)
  obtain ⟨rfl, hvalid⟩ := hvalid
  cases result with
  | error e => exact hrefused rfl
  | ok _ =>
  obtain ⟨manifest, hmanifest, _⟩ := hvalid rfl
  have hmanifest : file.manifest = some manifest := hmanifest
  have hunstaged : Unstaged manifest (.start file repo) := ⟨rfl, rfl, hmanifest⟩
  refine safe_bind (safe_post (safe_unstaged_verification hunstaged) fun result w₃ hI₃ hw₃ => ?_)
  have hkept : w₃.file.manifest = file.manifest := hw₃.manifest.trans hmanifest.symm
  cases result with
  | error e => exact hrefused hkept
  | ok _ =>
  have hfree₃ : w₃.file.CollisionFree setting.digest := fun other h => hfree other (hkept ▸ h)
  show Safe _ _ (revalidateRecovery setting
    (completedOf (file.previous.bind (·.finalizationCheckpoint))) >>= _) _ _
  rw [hrevalidate]
  refine safe_bind (safe_post (safe_validate_recovery_scope hI₃ hfree₃)
    fun result w₄ _ hvalid₄ => ?_)
  obtain ⟨rfl, hvalid₄⟩ := hvalid₄
  cases result with
  | error e => exact hrefused hkept
  | ok _ =>
  obtain ⟨other, hother, hmatches⟩ := hvalid₄ rfl
  exact safe_publish_recorded hcompleted hw₃ ⟨other, hkept ▸ hother, hmatches⟩

/-- A repository with one new file. -/
def keptRepo : Repo where
  head := "2f1d0a"
  headTree _ := none
  index _ := none
  worktree path := if path = "notes.md" then .file 0o644 "kept" else .missing

/-- The snapshot of its change. -/
def keptSnapshot : Snapshot :=
  .recovery "2f1d0a" [⟨"??", "notes.md", none⟩] [("notes.md", "", .file 0o644 "kept")]

/-- A controller whose digest tells this snapshot from every other one. -/
def keptSetting : Setting where
  owner := "rajeshkamalwar"
  lower := id
  digest snapshot := if snapshot = keptSnapshot then "7be4" else ""
  parseAutoMergeAssessment _ := .error "exactly one Auto-merge assessment JSON block is required"

/-- The record of the interrupted task. -/
def keptRecord : Status :=
  ({ issue := some 7
     title := some "[CODEX] notes"
     branch := some "codex/7-notes"
     startedAt := some "2026-07-17T09:00:00+00:00"
     recoverablePaths := some ["notes.md"]
     recoverableSnapshot := some "7be4" } : StatusUpdate).payload .recoverableChanges none

/-- The recovery of these changes is authorized, and they are the recorded ones. -/
theorem staging_authorized_kept :
    Safe repoExec (Authorized keptSetting (.record keptRecord))
        (finalizeChanges keptSetting "[CODEX] notes"
          ⟨7, "[CODEX] notes", "codex/7-notes", "2026-07-17T09:00:00+00:00"⟩ false true)
        (.start (.record keptRecord) keptRepo)
        (fun result w' => Refused keptSetting (.record keptRecord) result w') ∧
      StatusFile.Matches keptSetting.digest (.record keptRecord) keptRepo := by
  have hexact : CollisionFree keptSetting.digest (some "7be4") := by
    intro snapshot other hrecorded hsame
    have honly : ∀ s : Snapshot, keptSetting.digest s = "7be4" → s = keptSnapshot := by
      intro s hs
      by_contra hother
      have hempty : keptSetting.digest s = "" := if_neg hother
      rw [hempty] at hs
      exact absurd hs (by decide)
    have hsnapshot := (Option.some.inj hrecorded).symm
    rw [honly snapshot hsnapshot, honly other (hsame.trans hsnapshot)]
  refine ⟨staging_authorized keptSetting "[CODEX] notes" _ false (.record keptRecord) keptRepo rfl
    fun manifest hmanifest => ?_, keptRecord.manifest, rfl, ["notes.md"], rfl, fun path => ?_, ?_⟩
  · cases hmanifest
    exact ⟨hexact, fun _ _ h => nomatch h⟩
  · show ¬ (none = none ∧ none = (if path = "notes.md" then _ else _ : FileState).entry) ↔ _
    split
    · rename_i hpath
      simp [hpath, FileState.entry]
    · rename_i hpath
      simp [hpath, FileState.entry]
  · have hdescribes : keptSnapshot.Describes keptRepo ["notes.md"] := by
      refine ⟨fun head h => (Option.some.inj h).symm, fun path hpath => ?_⟩
      rw [List.mem_singleton.mp hpath]
      rfl
    exact .inl (recorded_of_digest hexact rfl hdescribes)

end GrowthOs.Handoff
