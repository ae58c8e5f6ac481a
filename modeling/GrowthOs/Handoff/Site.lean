import GrowthOs.Handoff.CommitWindow

/-!
# Git and GitHub around a finalization

What a finalization sees and changes: HEAD, the heads of the remote branches, the pull requests and
the open issues, all changed by the controller alone, and the restarts that find a finalization
checkpoint. `Restart` notes what a restart may not do: commit, push or open a pull request again, or
act on a checkpoint that Git and GitHub do not match.
-/

namespace GrowthOs.Handoff

open Library

/-- A pull request. Its head is the head of its branch. -/
structure PullRequest where
  url : String
  branch : String
  body : String
  isOpen : Bool
  isDraft : Bool
  base : String
  deriving DecidableEq, Repr

/-- The body names the issue after a closing keyword: GitHub closes it with the merge. -/
def PullRequest.closes (pr : PullRequest) (number : Int) : Bool :=
  hasMarker ("Closes #" ++ toString number ++ ".") pr.body

/-- The open draft of a branch. -/
def PullRequest.isDraftOf (pr : PullRequest) (branch : String) : Bool :=
  pr.isOpen && pr.isDraft && pr.base == "main" && pr.branch == branch

/-- What `gh pr view` tells about a pull request with this head. -/
structure PrMetadata.Describes (metadata : PrMetadata) (pr : PullRequest) (head : Option String) :
    Prop where
  isOpen : metadata.state = some "OPEN" → pr.isOpen = true
  isDraft : metadata.isDraft = some true → pr.isDraft = true
  base : ∀ base, metadata.baseRefName = some base → pr.base = base
  branch : ∀ branch, metadata.headRefName = some branch → pr.branch = branch
  head : ∀ sha, metadata.headRefOid = some sha → head = some sha

/-- A commit is made. -/
def Command.commits : Command → Bool
  | .gitCommit _ => true
  | _ => false

/-- A branch is pushed. -/
def Command.pushes : Command → Bool
  | .gitPush | .gitPushUpstream _ => true
  | _ => false

/-- A pull request is created. -/
def Command.opensPr : Command → Bool
  | .ghPrCreate _ _ _ => true
  | _ => false

/-- The commands of the kind change Git or a pull request. -/
def CommandKind.changes : CommandKind → Bool
  | .stage | .push | .branch | .openPr | .editPr | .mergePr => true
  | _ => false

/-- A verification command, or one that changes Git or a pull request. -/
def Command.acts (command : Command) : Bool :=
  command.kind.any fun kind => kind == .verify || kind.changes

/-- The active record that the last restart has found, and whether Git and GitHub matched its
checkpoint then; whether it has launched a fix round. The faults: a commit or a push before that, a
second creation of the pull request, and an act on a checkpoint without a match. -/
structure Restart where
  found : Option Status
  matched : Bool
  fixing : Bool
  recommitted : Bool
  repushed : Bool
  recreated : Bool
  unproven : Bool
  deriving DecidableEq, Repr

/-- How far the found checkpoint goes: 1 at `COMMITTED`, 2 at `PUSHED`, 3 at `PR_CREATED`. -/
def Restart.completed (r : Restart) : Nat := completedOf (r.found.bind (·.finalizationCheckpoint))

/-- A command is issued. -/
def Restart.noted (r : Restart) (command : Command) : Restart :=
  { r with
    fixing := r.fixing || command == .spawn .fixing
    recommitted := r.recommitted || (command.commits && r.completed != 0 && !r.fixing)
    repushed := r.repushed || (command.pushes && decide (2 ≤ r.completed) && !r.fixing)
    recreated := r.recreated || (command.opensPr && r.completed == 3)
    unproven := r.unproven || (command.acts && r.completed != 0 && !r.matched) }

/-- Before the first restart. -/
def Restart.start : Restart := ⟨none, false, false, false, false, false, false⟩

/-- The status file, HEAD, the heads of the remote branches, the pull requests, the open issues, the
branches for which the controller has created a pull request, and the last restart. -/
structure Site where
  file : StatusFile
  head : String
  remote : String → Option String
  prs : List PullRequest
  isOpen : Int → Bool
  created : List String
  restart : Restart

/-- The world before a run. -/
def Site.start (file : StatusFile) (head : String) (remote : String → Option String)
    (prs : List PullRequest) (isOpen : Int → Bool) : Site :=
  { file, head, remote, prs, isOpen, created := [], restart := .start }

/-- HEAD, the remote branch head and the draft pull request are those of the record, as far as its
checkpoint goes. -/
def Site.matchesRecord (w : Site) (status : Status) : Bool :=
  let completed := completedOf status.finalizationCheckpoint
  status.commitSha == some w.head &&
    (decide (completed < 2) || status.branch.any fun branch => w.remote branch == some w.head) &&
    (decide (completed < 3) || w.prs.any fun pr =>
      status.prUrl == some pr.url && status.branch.any pr.isDraftOf)

/-- The active record of the status file. -/
def StatusFile.activeRecord : StatusFile → Option Status
  | .record status => if status.state.active then some status else none
  | _ => none

/-- A restart finds the record. -/
def Site.restarted (w : Site) : Site :=
  { w with
    restart := { w.restart with
      found := w.file.activeRecord
      matched := w.file.activeRecord.any w.matchesRecord
      fixing := false } }

/-- A branch is pushed. -/
def Site.pushed (w : Site) (branch sha : String) : Site :=
  { w with remote := fun other => if other = branch then some sha else w.remote other }

/-- A draft pull request is created. -/
def Site.opened (w : Site) (url branch body : String) : Site :=
  { w with
    prs := ⟨url, branch, body, true, true, "main"⟩ :: w.prs
    created := branch :: w.created }

/-- A pull request is marked ready. -/
def Site.readied (w : Site) (url : String) : Site :=
  { w with prs := w.prs.map fun pr => if pr.url = url then { pr with isDraft := false } else pr }

/-- An open pull request with this URL, of this branch. -/
def Site.hasOpen (w : Site) (url branch : String) : Prop :=
  ∃ pr ∈ w.prs, pr.url = url ∧ pr.isOpen = true ∧ pr.branch = branch

/-- A pull request is merged. Its issues are closed. -/
def Site.merged (w : Site) (url : String) : Site :=
  { w with
    prs := w.prs.map fun pr => if pr.url = url then { pr with isOpen := false } else pr
    isOpen := fun number => w.isOpen number &&
      !w.prs.any fun pr => pr.url == url && pr.isOpen && pr.closes number }

/-- The effect of a command. A push may set any branch to any head. A pull request needs its branch,
and GitHub may delete the branch of one that has been merged. -/
def Site.Effect (w w' : Site) : Command → Prop
  | .writeStatus status => w' = { w with file := .record status }
  | .gitCommit _ | .gitCheckoutMain | .gitPullMain | .gitCheckoutNew _ =>
      ∃ sha, w' = { w with head := sha }
  | .gitPush => ∃ branch sha, w' = w.pushed branch sha
  | .gitPushUpstream branch => ∃ sha, w' = w.pushed branch sha
  | .ghPrCreate branch _ body => ∃ url, w.remote branch ≠ none ∧ w' = w.opened url branch body
  | .ghPrReady url => w' = w.readied url
  | .ghPrMerge url _ => ∃ remote : String → Option String,
      (∀ branch, ¬ w.hasOpen url branch → remote branch = w.remote branch) ∧
        w' = { w.merged url with remote }
  | _ => w' = w

/-- What an answer says about the world. The issues to select from are open and among those
`offered`. -/
def Site.tells (w : Site) (offered : Issue → Prop) :
    (command : Command) → Except Raised (Answer command) → Prop
  | .readStatus, .ok file => file = w.file
  | .gitHead, .ok head => head = w.head
  | .gitLsRemote branch, .ok lines => (lines = [] → w.remote branch = none) ∧
      ∀ sha, lines = [[sha, "refs/heads/" ++ branch]] → w.remote branch = some sha
  | .ghReadyIssues, .ok issues => ∀ issue ∈ issues, offered issue ∧ w.isOpen issue.number = true
  | .ghIssueView number, .ok (some payload) => payload.state = some "OPEN" → w.isOpen number = true
  | .ghPrList branch, .ok (some items) =>
      items = [] → ∀ pr ∈ w.prs, pr.branch = branch → pr.isOpen = false
  | .ghPrView url, .ok (some metadata) => ∃ pr ∈ w.prs, pr.url = url ∧
      metadata.Describes pr (w.remote pr.branch)
  | _, _ => True

/-- A command has its effect, whether it then returns or raises, or it raises without an effect. -/
def siteExec (offered : Issue → Prop) : Exec Answer Raised Site := fun command w answer w' =>
  ∃ v, (w.Effect v command ∨ (v = w ∧ ∃ e, answer = .error e)) ∧ v.tells offered command answer ∧
    w' = { v with restart := v.restart.noted command }

/-- The surroundings of a finalization. `drift` is what others do between two runs. -/
def siteSurroundings (offered : Issue → Prop) (drift : Site → Site → Prop) : Surroundings Site where
  exec := siteExec offered
  opening _ := Site.restarted
  drift
  mayCrash _ := True

variable {offered : Issue → Prop} {w w' : Site} {command : Command}
  {answer : Except Raised (Answer command)}

/-! ## Commands -/

/-- An effect on the site is not one on the restart. -/
theorem effect_restart {v : Site} (h : w.Effect v command) : v.restart = w.restart := by
  cases command with
  | gitPush | ghPrCreate | ghPrMerge =>
      obtain ⟨_, _, h⟩ := h
      exact (congrArg Site.restart h).trans rfl
  | gitCommit | gitCheckoutMain | gitPullMain | gitCheckoutNew | gitPushUpstream =>
      obtain ⟨_, h⟩ := h
      exact (congrArg Site.restart h).trans rfl
  | _ => exact (congrArg Site.restart h).trans rfl

/-- Every command is noted. -/
theorem exec_restart (h : siteExec offered command w answer w') :
    w'.restart = w.restart.noted command := by
  obtain ⟨v, heffect, -, rfl⟩ := h
  show v.restart.noted command = w.restart.noted command
  cases heffect with
  | inl heffect => rw [effect_restart heffect]
  | inr hnothing => rw [hnothing.1]

/-- A command that changes neither Git nor a pull request. -/
theorem exec_unchanged {kind : CommandKind} (hkind : command.kind = some kind)
    (h : kind.changes = false) (hexec : siteExec offered command w answer w') :
    w' = { w with restart := w.restart.noted command } ∧ w.tells offered command answer := by
  obtain ⟨v, heffect, htells, rfl⟩ := hexec
  have hsame : v = w := by
    cases heffect with
    | inr hnothing => exact hnothing.1
    | inl heffect =>
        cases command with
        | writeStatus status => cases hkind
        | gitCommit | gitCheckoutMain | gitPullMain | gitCheckoutNew | gitPush | gitPushUpstream
        | ghPrCreate | ghPrReady | ghPrMerge =>
            cases hkind
            cases h
        | _ => exact heffect
  subst hsame
  exact ⟨rfl, htells⟩

/-- A command that does not act is not noted. -/
theorem noted_of_not_acts (r : Restart) (hacts : command.acts = false)
    (hspawn : command ≠ .spawn .fixing) : r.noted command = r := by
  have hcommits : command.commits = false ∧ command.pushes = false ∧ command.opensPr = false := by
    cases command with
    | gitCommit | gitPush | gitPushUpstream | ghPrCreate => cases hacts
    | _ => exact ⟨rfl, rfl, rfl⟩
  have hfixing : (command == .spawn .fixing) = false := beq_eq_false_iff_ne.mpr hspawn
  unfold Restart.noted
  rw [hcommits.1, hcommits.2.1, hcommits.2.2, hacts, hfixing]
  simp

/-- A read leaves the world as it is. -/
theorem exec_read (hkind : command.kind = some .read)
    (hexec : siteExec offered command w answer w') :
    w' = w ∧ w.tells offered command answer := by
  obtain ⟨hsame, htells⟩ := exec_unchanged hkind rfl hexec
  have hacts : command.acts = false := by
    unfold Command.acts
    rw [hkind]
    rfl
  have hspawn : command ≠ .spawn .fixing := by
    rintro rfl
    cases hkind
  rw [noted_of_not_acts _ hacts hspawn] at hsame
  exact ⟨hsame, htells⟩

/-- A status that is written is the record. -/
theorem exec_write {status : Status} {answer : Except Raised Unit}
    (hexec : siteExec offered (.writeStatus status) w answer w') :
    w' = { w with file := .record status } ∨ (w' = w ∧ ∃ e, answer = .error e) := by
  have hnoted : ∀ v : Site, { v with restart := v.restart.noted (.writeStatus status) } = v := by
    intro v
    rw [noted_of_not_acts v.restart rfl (by simp)]
  obtain ⟨v, heffect | hnothing, -, rfl⟩ := hexec
  · exact .inl ((hnoted v).trans heffect)
  · exact .inr ⟨(hnoted v).trans hnothing.1, hnothing.2⟩

section

variable {I J K : Site → Prop}

/-- A read, with what its answer tells. -/
theorem safe_site_read {Q : Except Raised (Answer command) → Site → Prop}
    (hkind : command.kind = some .read) (hw : I w)
    (hQ : ∀ answer, w.tells offered command answer → Q answer w) :
    Safe (siteExec offered) I (call command) w Q := by
  refine safe_issue hw fun answer w' hexec => ?_
  obtain ⟨rfl, htells⟩ := exec_read hkind hexec
  exact ⟨hw, hQ answer htells⟩

/-- A call of `write_status` leaves the world, or the world with its payload. -/
theorem safe_site_write (hJ : ∀ w, J w → I w) (hK : ∀ w, K w → I w) {state : HandoffState}
    {update : StatusUpdate}
    (hwrote : ∀ w, J w → K { w with file := .record (update.payload state w.file.previous) })
    (hw : J w) :
    Safe (siteExec offered) I (writeStatus state update) w fun result w' =>
      K w' ∨ (J w' ∧ ∃ e, result = .error e) := by
  refine safe_bind (safe_site_read rfl (hJ w hw) fun answer htells => ?_)
  cases answer with
  | error e => exact .inr ⟨hw, e, rfl⟩
  | ok file =>
      have hfile : file = w.file := htells
      subst hfile
      refine safe_issue (hJ w hw) fun answer w₁ hexec => ?_
      cases exec_write hexec with
      | inl hwritten =>
          have hw₁ : K w₁ := hwritten ▸ hwrote w hw
          exact ⟨hK w₁ hw₁, .inl hw₁⟩
      | inr hnothing =>
          obtain ⟨rfl, hraised⟩ := hnothing
          exact ⟨hJ w₁ hw, .inr ⟨hw, hraised⟩⟩

/-- A call of `write_status` that keeps `J`. -/
theorem safe_site_keep (hJ : ∀ w, J w → I w) {state : HandoffState} {update : StatusUpdate}
    (hwrote : ∀ w, J w → J { w with file := .record (update.payload state w.file.previous) })
    (hw : J w) :
    Safe (siteExec offered) I (writeStatus state update) w fun _ w' => J w' :=
  safe_post (safe_site_write hJ hJ hwrote hw) fun _ _ _ hw' => hw'.elim id (·.1)

end

end GrowthOs.Handoff
