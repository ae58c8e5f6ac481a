import GrowthOs.Handoff.Resume

/-!
# One pull request for a task

Whatever crashes and exceptions its runs meet, a task gets at most one pull request:
`one_pull_request`. Before `gh pr create`, `process_issue` has seen that the branch has no remote
head, and a recovery that no pull request of it is open. The invariant ties both to what has been
created.
-/

namespace GrowthOs.Handoff

open Library

/-- The branch of a task. -/
def taskBranch (setting : Setting) (number : Int) (title : String) : String :=
  "codex/issue-" ++ toString number ++ "-" ++ slugify setting title

/-- A record of the branch belongs to the task. -/
def Status.Belongs (status : Status) (number : Int) (branch : String) : Prop :=
  status.branch = some branch → status.issue = some number

/-- At most one pull request of the branch has been created. If one has been and the issue is still
open, then that pull request is open and the branch has a remote head. -/
structure Site.OnePr (number : Int) (branch : String) (w : Site) : Prop where
  record : ∀ status, w.file = .record status → status.Belongs number branch
  once : w.created.count branch ≤ 1
  live : branch ∈ w.created → w.isOpen number = true →
    (∃ pr ∈ w.prs, pr.branch = branch ∧ pr.isOpen = true) ∧ w.remote branch ≠ none
  closes : ∀ pr ∈ w.prs, pr.branch = branch → pr.closes number = true

/-- The issue is open. -/
structure Site.TaskOpen (number : Int) (branch : String) (w : Site) : Prop
    extends w.OnePr number branch where
  isOpen : w.isOpen number = true

/-- No pull request of the branch has been created. -/
structure Site.Uncreated (number : Int) (branch : String) (w : Site) : Prop
    extends w.OnePr number branch where
  uncreated : branch ∉ w.created

variable {offered : Issue → Prop} {number : Int} {branch : String} {w w' : Site} {setting : Setting}
  {context : StatusContext} {α β : Type}

/-- The kinds that neither create nor merge a pull request. -/
def CommandKind.calm : CommandKind → Bool
  | .openPr | .mergePr => false
  | _ => true

/-- A record that belongs to the task keeps the invariant. -/
theorem Site.OnePr.write {status : Status} (hw : w.OnePr number branch)
    (h : status.Belongs number branch) : { w with file := .record status }.OnePr number branch := by
  refine ⟨fun written hwritten => ?_, hw.once, hw.live, hw.closes⟩
  cases hwritten
  exact h

/-- So does a push. -/
theorem Site.OnePr.pushed {target sha : String} (hw : w.OnePr number branch) :
    (w.pushed target sha).OnePr number branch := by
  refine ⟨hw.record, hw.once, fun hcreated hopen => ⟨(hw.live hcreated hopen).1, ?_⟩, hw.closes⟩
  show (if branch = target then some sha else w.remote branch) ≠ none
  split
  · exact Option.some_ne_none sha
  · exact (hw.live hcreated hopen).2

/-- So does a draft that is made ready. -/
theorem Site.OnePr.readied {url : String} (hw : w.OnePr number branch) :
    (w.readied url).OnePr number branch := by
  have hsame : ∀ pr : PullRequest,
      (if pr.url = url then { pr with isDraft := false } else pr).branch = pr.branch ∧
      (if pr.url = url then { pr with isDraft := false } else pr).isOpen = pr.isOpen ∧
      (if pr.url = url then { pr with isDraft := false } else pr).body = pr.body := by
    intro pr
    split
    · exact ⟨rfl, rfl, rfl⟩
    · exact ⟨rfl, rfl, rfl⟩
  refine ⟨hw.record, hw.once, fun hcreated hopen => ?_, fun pr hmem hbranch => ?_⟩
  · obtain ⟨⟨pr, hmem, hbranch, hpr⟩, hremote⟩ := hw.live hcreated hopen
    refine ⟨⟨_, List.mem_map_of_mem hmem, ?_, ?_⟩, hremote⟩
    · exact (hsame pr).1.trans hbranch
    · exact (hsame pr).2.1.trans hpr
  · obtain ⟨old, hold, rfl⟩ := List.mem_map.mp hmem
    unfold PullRequest.closes
    rw [(hsame old).2.2]
    exact hw.closes old hold ((hsame old).1.symm.trans hbranch)

/-- A merge of the pull request closes the issue. -/
theorem Site.OnePr.merged {url : String} {remote : String → Option String}
    (hremote : ∀ branch, ¬ w.hasOpen url branch → remote branch = w.remote branch)
    (hw : w.OnePr number branch) : { w.merged url with remote }.OnePr number branch := by
  have hsame : ∀ pr : PullRequest,
      (if pr.url = url then { pr with isOpen := false } else pr).branch = pr.branch ∧
      (if pr.url = url then { pr with isOpen := false } else pr).body = pr.body := by
    intro pr
    split
    · exact ⟨rfl, rfl⟩
    · exact ⟨rfl, rfl⟩
  refine ⟨hw.record, hw.once, fun hcreated hopen => ?_, fun pr hmem hbranch => ?_⟩
  · have hstill : (w.isOpen number && !w.prs.any fun pr =>
        pr.url == url && pr.isOpen && pr.closes number) = true := hopen
    rw [Bool.and_eq_true, Bool.not_eq_true', List.any_eq_false] at hstill
    obtain ⟨⟨pr, hmem, hbranch, hpr⟩, hhead⟩ := hw.live hcreated hstill.1
    have hother : ∀ pr ∈ w.prs, pr.branch = branch → pr.isOpen = true → pr.url ≠ url := by
      intro pr hmem hbranch hpr hurl
      refine hstill.2 pr hmem ?_
      rw [hurl, hpr, hw.closes pr hmem hbranch]
      simp
    refine ⟨⟨pr, ?_, hbranch, hpr⟩, ?_⟩
    · refine List.mem_map.mpr ⟨pr, hmem, ?_⟩
      rw [if_neg (hother pr hmem hbranch hpr)]
    · have hkept : remote branch = w.remote branch := by
        refine hremote branch ?_
        rintro ⟨pr, hmem, hurl, hpr, hbranch⟩
        exact hother pr hmem hbranch hpr hurl
      show remote branch ≠ none
      rw [hkept]
      exact hhead
  · obtain ⟨old, hold, rfl⟩ := List.mem_map.mp hmem
    unfold PullRequest.closes
    rw [(hsame old).2]
    exact hw.closes old hold ((hsame old).1.symm.trans hbranch)

/-- `pr_body` closes the issue of its task. -/
theorem closes_pr_body (number : Int) :
    hasMarker ("Closes #" ++ toString number ++ ".") (prBody number) = true := by
  have hcloses : ".\n\nCloses #".toList = ".\n\n".toList ++ "Closes #".toList := by decide
  obtain ⟨rest, hrest⟩ : ∃ rest,
      ".\n\nThis PR was created by the self-hosted controller. It is intentionally a draft. ".toList =
        ".".toList ++ rest := ⟨_, rfl⟩
  refine decide_eq_true
    ⟨("Automated local Codex handoff for #" ++ toString number ++ ".\n\n").toList,
    rest ++ ("It must pass independent review and the bounded merge policy before merge. " ++
      "No production deployment is authorized.").toList, ?_⟩
  unfold prBody
  simp only [String.toList_append, hcloses, hrest, List.append_assoc]

/-- The pull request that a task without one gets. -/
theorem Site.Uncreated.opened {url : String} (hw : w.Uncreated number branch)
    (hremote : w.remote branch ≠ none) :
    (w.opened url branch (prBody number)).OnePr number branch := by
  refine ⟨hw.record, ?_, fun _ _ => ⟨⟨_, List.mem_cons_self, rfl, rfl⟩, hremote⟩,
    fun pr hmem hbranch => ?_⟩
  · show (branch :: w.created).count branch ≤ 1
    rw [List.count_cons_self, List.count_eq_zero.mpr hw.uncreated]
  · cases List.mem_cons.mp hmem with
    | inl hnew =>
        subst hnew
        exact closes_pr_body number
    | inr hold => exact hw.closes pr hold hbranch

/-- A pull request of another branch. -/
theorem Site.OnePr.opened {url other body : String} (hw : w.OnePr number branch)
    (hother : other ≠ branch) : (w.opened url other body).OnePr number branch := by
  refine ⟨hw.record, ?_, fun hcreated hopen => ?_, fun pr hmem hbranch => ?_⟩
  · show (other :: w.created).count branch ≤ 1
    rw [List.count_cons_of_ne hother]
    exact hw.once
  · obtain ⟨⟨pr, hmem, hpr⟩, hremote⟩ :=
      hw.live ((List.mem_cons.mp hcreated).resolve_left (Ne.symm hother)) hopen
    exact ⟨⟨pr, List.mem_cons_of_mem _ hmem, hpr⟩, hremote⟩
  · cases List.mem_cons.mp hmem with
    | inl hnew =>
        subst hnew
        exact absurd hbranch hother
    | inr hold => exact hw.closes pr hold hbranch

/-- What the restart notes does not matter to it. -/
theorem Site.OnePr.noted (hw : w.OnePr number branch) (restart : Restart) :
    { w with restart }.OnePr number branch := ⟨hw.record, hw.once, hw.live, hw.closes⟩

/-- What a command does to the invariant, unless it creates the pull request or writes the
status. -/
theorem one_pr_effect {command : Command} {kind : CommandKind} (hkind : command.kind = some kind)
    (h : kind ≠ .openPr) (hw : w.OnePr number branch) (heffect : w.Effect w' command) :
    w'.OnePr number branch ∧ w'.created = w.created ∧
      (kind ≠ .mergePr → w'.isOpen = w.isOpen) := by
  cases command with
  | writeStatus status => cases hkind
  | ghPrCreate _ _ _ =>
      cases hkind
      exact absurd rfl h
  | gitCommit | gitCheckoutMain | gitPullMain | gitCheckoutNew =>
      obtain ⟨sha, rfl⟩ := heffect
      exact ⟨⟨hw.record, hw.once, hw.live, hw.closes⟩, rfl, fun _ => rfl⟩
  | gitPush =>
      obtain ⟨target, sha, rfl⟩ := heffect
      exact ⟨hw.pushed, rfl, fun _ => rfl⟩
  | gitPushUpstream target =>
      obtain ⟨sha, rfl⟩ := heffect
      exact ⟨hw.pushed, rfl, fun _ => rfl⟩
  | ghPrReady url =>
      obtain rfl := heffect
      exact ⟨hw.readied, rfl, fun _ => rfl⟩
  | ghPrMerge url sha =>
      cases hkind
      obtain ⟨remote, hremote, rfl⟩ := heffect
      exact ⟨hw.merged hremote, rfl, fun hmerge => absurd rfl hmerge⟩
  | _ =>
      obtain rfl := heffect
      exact ⟨hw, rfl, fun _ => rfl⟩

/-- Every command but the creation of a pull request keeps the invariant and creates none, and only
a merge may close the issue. -/
theorem one_pr_exec {command : Command} {kind : CommandKind}
    {answer : Except Raised (Answer command)}
    (hkind : command.kind = some kind) (h : kind ≠ .openPr) (hw : w.OnePr number branch)
    (hexec : siteExec offered command w answer w') :
    w'.OnePr number branch ∧ w'.created = w.created ∧
      (kind ≠ .mergePr → w'.isOpen = w.isOpen) := by
  obtain ⟨v, heffect | hnothing, -, rfl⟩ := hexec
  · obtain ⟨hv, hcreated, hopen⟩ := one_pr_effect hkind h hw heffect
    exact ⟨hv.noted _, hcreated, hopen⟩
  · rw [hnothing.1]
    exact ⟨hw.noted _, rfl, fun _ => rfl⟩

/-- What every command but the creation and the merge of a pull request keeps, and every record of
the task. -/
structure Steady (offered : Issue → Prop) (number : Int) (branch : String) (K : Site → Prop) :
    Prop where
  onePr : ∀ w, K w → w.OnePr number branch
  command : ∀ {command : Command} {kind : CommandKind} {answer : Except Raised (Answer command)}
    {w w' : Site}, command.kind = some kind → kind.calm = true → K w →
      siteExec offered command w answer w' → K w'
  write : ∀ (w : Site) (status : Status), status.Belongs number branch → K w →
    K { w with file := .record status }

/-- A calm kind neither creates nor merges. -/
theorem calm_iff {kind : CommandKind} (h : kind.calm = true) :
    kind ≠ .openPr ∧ kind ≠ .mergePr := by
  constructor
  · rintro rfl
    cases h
  · rintro rfl
    cases h

/-- The invariant is steady. -/
theorem steady_one_pr : Steady offered number branch (Site.OnePr number branch) where
  onePr _ hw := hw
  command hkind h hw hexec := (one_pr_exec hkind (calm_iff h).1 hw hexec).1
  write _ _ h hw := hw.write h

/-- With the issue open it is steady. -/
theorem steady_open : Steady offered number branch (Site.TaskOpen number branch) where
  onePr _ hw := hw.toOnePr
  command hkind h hw hexec := by
    obtain ⟨hw', -, hopen⟩ := one_pr_exec hkind (calm_iff h).1 hw.toOnePr hexec
    exact ⟨hw', (congrFun (hopen (calm_iff h).2) _).trans hw.isOpen⟩
  write _ _ h hw := ⟨hw.toOnePr.write h, hw.isOpen⟩

/-- So it is as long as no pull request has been created. -/
theorem steady_uncreated : Steady offered number branch (Site.Uncreated number branch) where
  onePr _ hw := hw.toOnePr
  command hkind h hw hexec := by
    obtain ⟨hw', hcreated, -⟩ := one_pr_exec hkind (calm_iff h).1 hw.toOnePr hexec
    exact ⟨hw', by rw [hcreated]; exact hw.uncreated⟩
  write _ _ h hw := ⟨hw.toOnePr.write h, hw.uncreated⟩

/-- The context of a record that belongs to the task. -/
def StatusContext.Belongs (context : StatusContext) (number : Int) (branch : String) : Prop :=
  context.branch = branch → context.issue = number

/-- The scripts that keep a steady world. -/
abbrev SteadyPart (offered : Issue → Prop) (number : Int) (branch : String) (K : Site → Prop)
    (γ : Type) (p : Controller γ) : Prop :=
  ∀ w : Site, K w → Safe (siteExec offered) (Site.OnePr number branch) p w fun _ w' => K w'

section

variable {K : Site → Prop} (hK : Steady offered number branch K)
include hK

/-- A script of steady parts keeps what is steady. -/
theorem safe_steady {p : Controller α} (hp : Composed (SteadyPart offered number branch K) p)
    (hw : K w) :
    Safe (siteExec offered) (Site.OnePr number branch) p w fun _ w' => K w' :=
  safe_composed hp hK.onePr (fun hpart hw => hpart _ hw) hw

/-- Calm kinds are allowed in a steady world. -/
theorem steady_allows {kind : CommandKind} (h : kind.calm = true) :
    Allows (SteadyPart offered number branch K) kind := by
  intro command hkind w hw
  refine safe_issue (hK.onePr w hw) fun answer w' hexec => ?_
  have hw' : K w' := hK.command hkind h hw hexec
  exact ⟨hK.onePr w' hw', hw'⟩

/-- So is a status whose record belongs to the task. -/
theorem steady_keep {state : HandoffState} {update : StatusUpdate}
    (h : ∀ previous : Option Status, (∀ status, previous = some status →
      status.Belongs number branch) → (update.payload state previous).Belongs number branch) :
    SteadyPart offered number branch K Unit (writeStatus state update) := by
  refine fun w hw => safe_site_keep hK.onePr (fun w hw =>
    hK.write w _ (h _ fun status hprevious => ?_) hw) hw
  cases hfile : w.file with
  | missing | unreadable =>
      rw [hfile] at hprevious
      cases hprevious
  | record recorded =>
      rw [hfile] at hprevious
      cases hprevious
      exact (hK.onePr w hw).record _ hfile

/-- A write of the task. -/
theorem steady_write {state : HandoffState} {update : StatusUpdate}
    (h : context.Belongs number branch) :
    SteadyPart offered number branch K Unit (writeStatus state (.of context update)) := by
  refine steady_keep hK fun previous _ hbranch => ?_
  exact congrArg some (h (Option.some.inj hbranch))

/-- A write that names no task. -/
theorem steady_write_idle {state : HandoffState} :
    SteadyPart offered number branch K Unit (writeStatus state {}) := by
  refine steady_keep hK fun previous hprevious hbranch => ?_
  cases previous with
  | none => cases hbranch
  | some status => exact hprevious status rfl hbranch

/-- The failure of the task. -/
theorem steady_write_failed {title : String} :
    SteadyPart offered number branch K Unit
      (writeStatus .failed { issue := some number, title := some title }) :=
  steady_keep hK fun _ _ _ => rfl

/-- The statuses of a task that belongs are such. -/
theorem steady_writes (h : context.Belongs number branch) :
    AllowsWrites (SteadyPart offered number branch K) context :=
  fun _ _ _ _ => steady_write hK h

/-- Children run in a steady world. -/
theorem steady_children (h : context.Belongs number branch) :
    AllowsChildren (SteadyPart offered number branch K) setting context :=
  steps_run_codex_stream setting (steady_allows hK rfl) (steady_allows hK rfl) fun _ _ _ =>
    steady_write hK h

/-- A steady script, and then another script. -/
theorem safe_steady_bind {p : Controller β} {f : β → Controller α}
    {Q : Except Raised α → Site → Prop} (hp : Composed (SteadyPart offered number branch K) p)
    (hf : ∀ b w', K w' → Safe (siteExec offered) (Site.OnePr number branch) (f b) w' Q)
    (hQ : ∀ e w', w'.OnePr number branch → Q (.error e) w') (hw : K w) :
    Safe (siteExec offered) (Site.OnePr number branch) (p >>= f) w Q := by
  refine safe_bind (safe_post (safe_steady hK hp hw) fun result w' _ hw' => ?_)
  cases result with
  | ok b => exact hf b w' hw'
  | error e => exact hQ e w' (hK.onePr w' hw')

end

/-- A creation keeps the invariant where the new pull request satisfies it. -/
theorem safe_create {title body target : String}
    (h : ∀ url, w.remote target ≠ none → (w.opened url target body).OnePr number branch)
    (hw : w.OnePr number branch) :
    Safe (siteExec offered) (Site.OnePr number branch) (call (.ghPrCreate target title body)) w
      fun _ w' => w'.OnePr number branch := by
  refine safe_issue hw fun answer w' hexec => ?_
  have hw' : w'.OnePr number branch := by
    obtain ⟨v, heffect | hnothing, -, rfl⟩ := hexec
    · obtain ⟨url, hremote, rfl⟩ := heffect
      exact (h url hremote).noted _
    · rw [hnothing.1]
      exact hw.noted _
  exact ⟨hw', hw'⟩

/-- The task may create its pull request in `K`, where a recovery has found none that is open. -/
def MayCreate (offered : Issue → Prop) (number : Int) (branch : String) (K : Site → Prop)
    (context : StatusContext) (recovering : Bool) : Prop :=
  ∀ (w : Site) (title : String), K w →
    (recovering = true → ∀ pr ∈ w.prs, pr.branch = context.branch → pr.isOpen = false) →
    Safe (siteExec offered) (Site.OnePr number branch)
      (call (.ghPrCreate context.branch title (prBody context.issue))) w
        fun _ w' => w'.OnePr number branch

/-- A task of another branch may create its pull request. -/
theorem may_create_other {recovering : Bool} (h : context.branch ≠ branch) :
    MayCreate offered number branch (Site.OnePr number branch) context recovering :=
  fun _ _ hw _ => safe_create (fun _ _ => hw.opened h) hw

/-- The task itself may create the first one. -/
theorem may_create_fresh {recovering : Bool} (hbranch : context.branch = branch)
    (hissue : context.issue = number) :
    MayCreate offered number branch (Site.Uncreated number branch) context recovering := by
  intro w title hw _
  subst hbranch hissue
  exact safe_create (fun _ hremote => hw.opened hremote) hw.toOnePr

/-- A recovery of an open issue that finds no open pull request. -/
theorem may_create_recovered (hbranch : context.branch = branch) (hissue : context.issue = number) :
    MayCreate offered number branch (Site.TaskOpen number branch) context true := by
  intro w title hw hnone
  have huncreated : w.Uncreated number branch := by
    refine ⟨hw.toOnePr, fun hcreated => ?_⟩
    obtain ⟨⟨pr, hmem, hpr, hopen⟩, -⟩ := hw.live hcreated hw.isOpen
    rw [hnone rfl pr hmem (hpr.trans hbranch.symm)] at hopen
    cases hopen
  exact may_create_fresh hbranch hissue w title huncreated hnone

section

variable {K : Site → Prop} (hK : Steady offered number branch K)
  (hcontext : context.Belongs number branch)
include hK

/-- What `find_draft_pr` does not find is not open. -/
theorem safe_find_draft_pr (hw : K w) :
    Safe (siteExec offered) (Site.OnePr number branch) (findDraftPr context.branch) w
      fun result w' => K w' ∧ (result = .ok none →
        ∀ pr ∈ w'.prs, pr.branch = context.branch → pr.isOpen = false) := by
  have hI := hK.onePr w hw
  have hsome : ∀ {e : Raised} {p : Prop}, (.error e : Except Raised (Option String)) = .ok none →
      p :=
    fun h => (nomatch h)
  unfold findDraftPr
  refine safe_bind (safe_site_read rfl hI fun answer htells => ?_)
  cases answer with
  | error e => exact ⟨hw, hsome⟩
  | ok items =>
  dsimp only
  split
  · exact safe_pure hI ⟨hw, fun _ => htells rfl⟩
  · split
    · exact safe_pure hI ⟨hw, fun h => (nomatch h)⟩
    · exact safe_raise hI ⟨hw, hsome⟩
  · exact safe_raise hI ⟨hw, hsome⟩

/-- The draft pull request is created at most once. -/
theorem safe_ensure_draft_pr {title : String} {recordedPr : Option String} {completed : Nat}
    {recovering : Bool} (hcreate : MayCreate offered number branch K context recovering)
    (hw : K w) :
    Safe (siteExec offered) (Site.OnePr number branch)
      (ensureDraftPr title context recordedPr completed recovering) w
        fun _ w' => w'.OnePr number branch := by
  have hfound : Safe (siteExec offered) (Site.OnePr number branch)
      (if recovering then findDraftPr context.branch else pure none : Controller (Option String)) w
      fun result w₁ => K w₁ ∧ (result = .ok none → recovering = true →
        ∀ pr ∈ w₁.prs, pr.branch = context.branch → pr.isOpen = false) := by
    cases recovering with
    | false => exact safe_pure (hK.onePr w hw) ⟨hw, fun _ h => Bool.noConfusion h⟩
    | true =>
        refine safe_post (safe_find_draft_pr hK hw) fun result w₁ _ hw₁ => ?_
        exact ⟨hw₁.1, fun h _ => hw₁.2 h⟩
  unfold ensureDraftPr
  refine safe_bind (safe_post hfound fun result w₁ hI hw₁ => ?_)
  cases result with
  | error e => exact hI
  | ok found =>
  dsimp only
  split
  · exact safe_raise hI hI
  · cases found with
    | some url => exact safe_pure hI hI
    | none =>
        refine safe_bind (safe_post (hcreate w₁ title hw₁.1 (hw₁.2 rfl)) fun result w₂ _ hw₂ => ?_)
        cases result with
        | error e => exact hw₂
        | ok url =>
            show Safe _ _ (if url = "" then _ else _) w₂ _
            split
            · exact safe_raise hw₂ hw₂
            · exact safe_pure hw₂ hw₂

/-- The steps of the review, and of the merge. -/
theorem steady_review_steps
    (hmerge : ∀ {command : Command} {answer : Except Raised (Answer command)}
      {w w' : Site}, command.kind = some .mergePr → K w →
      siteExec offered command w answer w' → K w')
    (hcontext : context.Belongs number branch) (allowMerge : Bool) :
    ReviewSteps (SteadyPart offered number branch K) setting context allowMerge where
  read := steady_allows hK rfl
  children := steady_children hK hcontext
  verify := steady_allows hK rfl
  stage := steady_allows hK rfl
  push := steady_allows hK rfl
  editPr := steady_allows hK rfl
  note := allows_notes (steady_allows hK rfl) (steady_allows hK rfl)
  write := steady_writes hK hcontext
  merge _ := by
    refine ⟨fun command hkind w hw => ?_, fun _ _ _ => steady_write hK hcontext⟩
    refine safe_issue (hK.onePr w hw) fun answer w' hexec => ?_
    have hw' : K w' := hmerge hkind hw hexec
    exact ⟨hK.onePr w' hw', hw'⟩

include hcontext

/-- The rest of a finalization keeps the invariant. -/
theorem safe_one_pr_publish {title : String} {status : Option Status} {allowMerge recovering : Bool}
    (hcreate : MayCreate offered number branch K context recovering) (hw : K w) :
    Safe (siteExec offered) (Site.OnePr number branch)
      (publishChanges setting title context status allowMerge recovering) w
        fun _ w' => w'.OnePr number branch := by
  have hone : Steady offered number branch (Site.OnePr number branch) := steady_one_pr
  have hreview : ReviewSteps (SteadyPart offered number branch (Site.OnePr number branch)) setting
      context allowMerge :=
    steady_review_steps hone (fun hkind hw hexec => (one_pr_exec hkind (by decide) hw hexec).1)
      hcontext allowMerge
  unfold publishChanges
  refine safe_steady_bind hK (steps_ensure_commit setting (steady_allows hK rfl)
    (steady_writes hK hcontext) (steady_allows hK rfl) _ _) (fun commit w₁ hw₁ => ?_)
      (fun _ _ hw₁ => hw₁) hw
  refine safe_steady_bind hK
    (steps_ensure_push (steady_writes hK hcontext) (steady_allows hK rfl) _ _)
    (fun _ w₂ hw₂ => ?_) (fun _ _ hw₂ => hw₂) hw₁
  refine safe_bind (safe_post (safe_ensure_draft_pr hK hcreate hw₂) fun result w₃ _ hw₃ => ?_)
  cases result with
  | error e => exact hw₃
  | ok url =>
  refine safe_steady hone ?_ hw₃
  refine composed_bind (steps_write (hreview.write _ _ rfl rfl)) fun _ => ?_
  refine composed_bind (hreview.note.commentOnce _ _ _ (by decide)) fun _ => ?_
  exact steps_review_and_merge setting hreview url

/-- So does `finalize_changes`. -/
theorem safe_one_pr_finalize {title : String} {allowMerge recovering : Bool}
    (hcreate : MayCreate offered number branch K context recovering) (hw : K w) :
    Safe (siteExec offered) (Site.OnePr number branch)
      (finalizeChanges setting title context allowMerge recovering) w
        fun _ w' => w'.OnePr number branch := by
  have hread : Allows (SteadyPart offered number branch K) .read := steady_allows hK rfl
  unfold finalizeChanges
  refine safe_steady_bind hK (steps_recovered_status hread recovering) (fun status w₁ hw₁ => ?_)
    (fun _ _ hw₁ => hw₁) hw
  refine safe_steady_bind hK (composed_ite (steps_validate_recovery setting hread _ _ _ _)
    (composed_pure _)) (fun _ w₂ hw₂ => ?_) (fun _ _ hw₂ => hw₂) hw₁
  refine safe_steady_bind hK (steps_run_verification (steady_allows hK rfl)
    (steady_writes hK hcontext) 1) (fun _ w₃ hw₃ => ?_) (fun _ _ hw₃ => hw₃) hw₂
  refine safe_steady_bind hK (composed_ite (steps_revalidate_recovery setting hread _)
    (composed_pure _)) (fun _ w₄ hw₄ => ?_) (fun _ _ hw₄ => hw₄) hw₃
  exact safe_one_pr_publish hK hcontext hcreate hw₄

end

/-- `prepare_task_branch` refuses a branch with a remote head. -/
theorem safe_prepare_task_branch (hw : w.TaskOpen number branch) :
    Safe (siteExec offered) (Site.OnePr number branch) (prepareTaskBranch branch) w
      fun result w' => w'.OnePr number branch ∧ (result = .ok () → w'.Uncreated number branch) := by
  have hopen : Steady offered number branch (Site.TaskOpen number branch) := steady_open
  have hbranch : Allows (SteadyPart offered number branch (Site.TaskOpen number branch)) .branch :=
    steady_allows hopen rfl
  have herror : ∀ (e : Raised) (w : Site), w.OnePr number branch → w.OnePr number branch ∧
      ((.error e : Except Raised Unit) = .ok () → w.Uncreated number branch) :=
    fun _ _ hw => ⟨hw, fun h => (nomatch h)⟩
  unfold prepareTaskBranch
  refine safe_steady_bind hopen (steps_call rfl hbranch) (fun _ w₁ hw₁ => ?_) herror hw
  refine safe_steady_bind hopen (steps_call rfl hbranch) (fun _ w₂ hw₂ => ?_) herror hw₁
  refine safe_steady_bind hopen (steps_call rfl hbranch) (fun _ w₃ hw₃ => ?_) herror hw₂
  refine safe_steady_bind hopen (steps_call rfl (steady_allows hopen rfl)) (fun local_ w₄ hw₄ => ?_)
    herror hw₃
  refine safe_steady_bind hopen (composed_ite (steps_call rfl hbranch) (composed_pure _))
    (fun _ w₅ hw₅ => ?_) herror hw₄
  refine safe_bind (safe_site_read rfl hw₅.toOnePr fun answer htells => ?_)
  cases answer with
  | error e => exact herror e w₅ hw₅.toOnePr
  | ok lines =>
  show Safe _ _ (if lines ≠ [] then _ else _) w₅ _
  split
  · exact safe_raise hw₅.toOnePr (herror _ w₅ hw₅.toOnePr)
  · rename_i hnone
    have hremote : w₅.remote branch = none := htells.1 (not_not.mp hnone)
    have huncreated : w₅.Uncreated number branch :=
      ⟨hw₅.toOnePr, fun hcreated => (hw₅.live hcreated hw₅.isOpen).2 hremote⟩
    have hfresh : Steady offered number branch (Site.Uncreated number branch) := steady_uncreated
    exact safe_post (safe_steady hfresh (steps_call rfl (steady_allows hfresh rfl)) huncreated)
      fun _ w₆ _ hw₆ => ⟨hw₆.toOnePr, fun _ => hw₆⟩

/-- So does `process_issue` on the open issue of the task. -/
theorem safe_one_pr_process {issue : Issue} (hnumber : issue.number = number)
    (hbranch : ∀ startedAt, (issueContext setting issue startedAt).branch = branch)
    (hw : w.TaskOpen number branch) :
    Safe (siteExec offered) (Site.OnePr number branch) (processIssue setting issue) w
      fun _ w' => w'.OnePr number branch := by
  have hopen : Steady offered number branch (Site.TaskOpen number branch) := steady_open
  have hfresh : Steady offered number branch (Site.Uncreated number branch) := steady_uncreated
  have hcontext : ∀ startedAt, (issueContext setting issue startedAt).Belongs number branch :=
    fun _ _ => hnumber
  have hnote : Allows (SteadyPart offered number branch (Site.TaskOpen number branch)) .note :=
    steady_allows hopen rfl
  have hdrop : ∀ (_ : Raised) (w : Site), w.OnePr number branch → w.OnePr number branch :=
    fun _ _ hw => hw
  unfold processIssue
  refine safe_steady_bind hopen (steps_call rfl (steady_allows hopen rfl))
    (fun startedAt w₁ hw₁ => ?_)
    hdrop hw
  refine safe_steady_bind hopen (steps_write (steady_write hopen (hcontext startedAt)))
    (fun _ w₂ hw₂ => ?_) hdrop hw₁
  refine safe_steady_bind hopen (steps_replace_label hnote _ _ (by decide)) (fun _ w₃ hw₃ => ?_)
    hdrop hw₂
  refine safe_steady_bind hopen (steps_call rfl hnote) (fun _ w₄ hw₄ => ?_) hdrop hw₃
  rw [hbranch startedAt]
  refine safe_bind (safe_post (safe_prepare_task_branch hw₄) fun result w₅ _ hw₅ => ?_)
  cases result with
  | error e => exact hw₅.1
  | ok _ =>
  refine safe_steady_bind hfresh (steps_implement setting (steady_allows hfresh rfl)
    (steady_writes hfresh (hcontext startedAt)) (steady_children hfresh (hcontext startedAt)))
      (fun tail w₆ hw₆ => ?_) hdrop (hw₅.2 rfl)
  refine safe_steady_bind hfresh (steps_call rfl (steady_allows hfresh rfl))
    (fun changed w₇ hw₇ => ?_) hdrop hw₆
  split
  · refine safe_post (safe_steady hfresh ?_ hw₇) fun _ _ _ hw₈ => hw₈.toOnePr
    have hkind : Allows (SteadyPart offered number branch (Site.Uncreated number branch)) .branch :=
      steady_allows hfresh rfl
    exact composed_bind (composed_bind (steps_call rfl hkind) fun _ =>
      steps_call rfl hkind) fun _ =>
      steps_fail _
  · exact safe_one_pr_finalize hfresh (hcontext startedAt)
      (may_create_fresh (hbranch startedAt) hnumber) hw₇

/-- A recovery that loads the issue of the task finds it open. -/
theorem safe_open_issue (hw : w.OnePr number branch) :
    Safe (siteExec offered) (Site.OnePr number branch) (loadRecoveryIssue setting context) w
      fun result w' => w'.OnePr number branch ∧
        ((∃ payload, result = .ok payload) → context.issue = number → w'.isOpen number = true) := by
  have hnot : ∀ {e : Raised} {p : Prop},
      (∃ payload, (.error e : Except Raised IssuePayload) = .ok payload) → p := by
    intro e p h
    obtain ⟨payload, h⟩ := h
    cases h
  refine safe_bind (safe_site_read rfl hw fun answer htells => ?_)
  cases answer with
  | error e => exact ⟨hw, hnot⟩
  | ok payload =>
  cases payload with
  | none => exact safe_raise hw ⟨hw, hnot⟩
  | some payload =>
  show Safe _ _ (if recoveryIssueMatches setting context payload then _ else _) w _
  split
  · rename_i hmatches
    refine safe_pure hw ⟨hw, fun _ hissue => ?_⟩
    unfold recoveryIssueMatches at hmatches
    simp only [Bool.and_eq_true, beq_iff_eq] at hmatches
    exact hissue ▸ htells hmatches.1.2
  · exact safe_raise hw ⟨hw, hnot⟩

/-- A recovery of a task that belongs keeps the invariant. -/
theorem safe_one_pr_recover (hcontext : context.Belongs number branch)
    (hw : w.OnePr number branch) :
    Safe (siteExec offered) (Site.OnePr number branch) (recoverChanges setting context) w
      fun _ w' => w'.OnePr number branch := by
  have hone : Steady offered number branch (Site.OnePr number branch) := steady_one_pr
  unfold recoverChanges
  refine safe_bind (safe_post (safe_open_issue hw) fun result w₁ _ hw₁ => ?_)
  cases result with
  | error e => exact hw₁.1
  | ok issue =>
  have hpreserve : ∀ (e : Raised) (w₃ : Site), w₃.OnePr number branch →
      Safe (siteExec offered) (Site.OnePr number branch) (do
        writeStatus .recoverableChanges (.of context {})
        fail (.recoverableChangesError e.text) : Controller Unit) w₃
          fun _ w' => w'.OnePr number branch :=
    fun e w₃ hw₃ => safe_steady hone
      (composed_bind (steps_write (steady_write hone hcontext)) fun _ => steps_fail _) hw₃
  have hfinalize : ∀ {K : Site → Prop} {handler : Raised → Controller Unit},
      (∀ (e : Raised) (w₃ : Site), w₃.OnePr number branch →
        Safe (siteExec offered) (Site.OnePr number branch) (handler e) w₃
          fun _ w' => w'.OnePr number branch) →
      Steady offered number branch K → MayCreate offered number branch K context true → K w₁ →
      Safe (siteExec offered) (Site.OnePr number branch) (do
        commentOnce context.issue "recovery-started"
          "Recovering preserved task changes without rerunning implementation."
        (finalizeChanges setting
          (issue.title.getD context.title) context false true).handle handler)
          w₁ fun _ w' => w'.OnePr number branch := by
    intro K handler hhandler hK hcreate hw₁
    refine safe_steady_bind hK
      (steps_comment_once (steady_allows hK rfl) (steady_allows hK rfl) _ _ _)
      (fun _ w₂ hw₂ => ?_) (fun _ _ hw₂ => hw₂) hw₁
    refine safe_handle (safe_post (safe_one_pr_finalize hK hcontext hcreate hw₂)
      fun result w₃ _ hw₃ => ?_)
    cases result with
    | ok _ => exact hw₃
    | error e => exact hhandler e w₃ hw₃
  by_cases hbranch : context.branch = branch
  · refine hfinalize (fun e w₃ hw₃ => ?_) steady_open
      (may_create_recovered hbranch (hcontext hbranch))
      ⟨hw₁.1, hw₁.2 ⟨issue, rfl⟩ (hcontext hbranch)⟩
    cases e with
    | keyboardInterrupt => exact safe_raise hw₃ hw₃
    | calledProcessError | jsonDecodeError | runtimeError | valueError | recoverableChangesError
    | activeOrphanError | otherException => exact hpreserve _ w₃ hw₃
  · refine hfinalize (fun e w₃ hw₃ => ?_) hone (may_create_other hbranch) hw₁.1
    cases e with
    | keyboardInterrupt => exact safe_raise hw₃ hw₃
    | calledProcessError | jsonDecodeError | runtimeError | valueError | recoverableChangesError
    | activeOrphanError | otherException => exact hpreserve _ w₃ hw₃

/-- The record is about the task of the context. -/
structure Site.About (context : StatusContext) (number : Int) (branch : String) (w : Site) : Prop
    extends w.OnePr number branch where
  about : ∃ record, w.file = .record record ∧ record.branch = some context.branch

/-- The context of a record belongs to the task where the record does. -/
theorem context_belongs {status : Status} (h : status.context = some context)
    (hbelongs : status.Belongs number branch) : context.Belongs number branch := by
  obtain ⟨hissue, -, hrecorded⟩ := task_of_context h
  intro hbranch
  have hnumber := hbelongs (hrecorded.trans (congrArg some hbranch))
  rw [hissue] at hnumber
  exact Option.some.inj hnumber

/-- The scripts of a reconciliation. -/
abbrev AboutPart (offered : Issue → Prop) (context : StatusContext) (number : Int) (branch : String)
    (γ : Type) (p : Controller γ) : Prop :=
  ∀ w : Site, w.About context number branch →
    Safe (siteExec offered) (Site.OnePr number branch) p w fun _ w' =>
    w'.About context number branch

/-- A calm kind that leaves the record alone is allowed in a reconciliation. -/
theorem about_allows {kind : CommandKind} (hcalm : kind.calm = true) (h : kind.changes = false) :
    Allows (AboutPart offered context number branch) kind := by
  intro command hkind w hw
  refine safe_issue hw.toOnePr fun answer w' hexec => ?_
  have hw' : w'.OnePr number branch := (one_pr_exec hkind (calm_iff hcalm).1 hw.toOnePr hexec).1
  obtain ⟨rfl, -⟩ := exec_unchanged hkind h hexec
  exact ⟨hw', hw', hw.about⟩

/-- So is a status of the recorded task. -/
theorem about_write {state : HandoffState} {update : StatusUpdate}
    (hcontext : context.Belongs number branch) (hissue : update.issue = some context.issue)
    (hbranch : update.branch = none ∨ update.branch = some context.branch) :
    AboutPart offered context number branch Unit (writeStatus state update) := by
  refine fun w hw => safe_site_keep (fun _ hw => hw.toOnePr) (fun w hw => ?_) hw
  obtain ⟨record, hfile, hrecord⟩ := hw.about
  have hkept : (update.payload state (some record)).branch = some context.branch := by
    show (update.branch <|> record.branch) = some context.branch
    cases hbranch with
    | inl hnone =>
        rw [hnone]
        exact hrecord
    | inr hsame =>
        rw [hsame]
        rfl
  rw [hfile]
  refine ⟨hw.toOnePr.write fun hown => ?_, _, rfl, hkept⟩
  show (update.issue <|> record.issue) = some number
  rw [hissue]
  rw [show (StatusFile.record record).previous = some record from rfl, hkept] at hown
  exact congrArg some (hcontext (Option.some.inj hown))

/-- The task that a reconciliation leaves is about the task of the record. -/
def Reconciles (number : Int) (branch : String) (result : Except Raised (Option StatusContext))
    (w : Site) : Prop :=
  w.OnePr number branch ∧ ∀ context, result = .ok (some context) → context.Belongs number branch

/-- `reconcile_stale_run` keeps the invariant, and the task that it leaves belongs. -/
theorem safe_one_pr_reconcile (hw : w.OnePr number branch) :
    Safe (siteExec offered) (Site.OnePr number branch) (reconcileStaleRun setting) w
      (Reconciles number branch) := by
  have herror : ∀ (e : Raised) {w : Site}, w.OnePr number branch →
      Reconciles number branch (.error e) w := fun _ _ hw => ⟨hw, fun _ h => (nomatch h)⟩
  have hnone : ∀ {w : Site}, w.OnePr number branch → Reconciles number branch (.ok none) w :=
    fun hw => ⟨hw, fun _ h => (nomatch h)⟩
  refine safe_bind (safe_site_read rfl hw fun answer htells => ?_)
  cases answer with
  | error e => exact herror e hw
  | ok file =>
  have hread : file = w.file := htells
  cases file with
  | missing => exact safe_pure hw (hnone hw)
  | unreadable => exact safe_raise hw (herror _ hw)
  | record status =>
  have hfile : w.file = .record status := hread.symm
  show Safe _ _ (if !status.state.active then _ else _) w _
  split
  · exact safe_pure hw (hnone hw)
  · cases hcontext : status.context with
    | none => exact safe_raise hw (herror _ hw)
    | some context =>
    -- The context is read from the record, so every write below names the same branch.
    have hbelongs := context_belongs hcontext (hw.record status hfile)
    have habout : w.About context number branch :=
      ⟨hw, status, hfile, (task_of_context hcontext).2.2⟩
    have hsteps : Composed (AboutPart offered context number branch)
        (reconcileTask setting status context) :=
      steps_reconcile_task setting (about_allows rfl rfl)
        (fun _ _ _ => about_write hbelongs rfl (.inr rfl)) (about_allows rfl rfl)
        (allows_notes (about_allows rfl rfl) (about_allows rfl rfl))
        (fun _ => about_write hbelongs rfl (.inl rfl))
        fun _ _ => about_write hbelongs rfl (.inr rfl)
    refine safe_bind (safe_post (safe_yields yields_reconcile_task
      (safe_composed hsteps (fun _ hw => hw.toOnePr) (fun hpart hw => hpart _ hw) habout))
        fun result w₁ _ hw₁ => ?_)
    cases result with
    | error e => exact herror e hw₁.1.toOnePr
    | ok recovered =>
        rw [hw₁.2 recovered rfl]
        refine safe_pure hw₁.1.toOnePr ⟨hw₁.1.toOnePr, fun found hfound => ?_⟩
        cases hfound
        exact hbelongs

/-- A script that keeps the invariant. -/
abbrev OnePrSafe (offered : Issue → Prop) (number : Int) (branch : String) (w : Site)
    (p : Controller α) : Prop :=
  Safe (siteExec offered) (Site.OnePr number branch) p w fun _ w' => w'.OnePr number branch

/-- Two scripts that keep the invariant, one after the other. -/
theorem safe_one_pr_bind {p : Controller β} {f : β → Controller α}
    (hp : OnePrSafe offered number branch w p)
    (hf : ∀ b (w' : Site), w'.OnePr number branch → OnePrSafe offered number branch w' (f b)) :
    OnePrSafe offered number branch w (p >>= f) := by
  refine safe_bind (safe_post hp fun result w' _ hw' => ?_)
  cases result with
  | ok b => exact hf b w' hw'
  | error e => exact hw'

/-- The answer of a read may be used in what follows. -/
theorem safe_one_pr_read {command : Command} {f : Answer command → Controller α}
    (hkind : command.kind = some .read) (hw : w.OnePr number branch)
    (hf : ∀ a, w.tells offered command (.ok a) → OnePrSafe offered number branch w (f a)) :
    OnePrSafe offered number branch w (call command >>= f) := by
  refine safe_bind (safe_site_read hkind hw fun answer htells => ?_)
  cases answer with
  | ok a => exact hf a htells
  | error e => exact hw

/-- Preserved changes are recorded for the task of the record. -/
theorem safe_one_pr_preserve {context : StatusContext} {a : α}
    (hcontext : context.Belongs number branch)
    (hw : w.OnePr number branch) :
    OnePrSafe offered number branch w (do
      writeStatus .recoverableChanges (.of context {})
      pure a) :=
  safe_one_pr_bind (safe_steady steady_one_pr
    (steps_write (steady_write steady_one_pr hcontext)) hw)
    fun _ _ hw' => safe_pure hw' hw'

/-- An error of a finalization is recorded for that task too. -/
theorem safe_one_pr_finalization_error {error : Raised} (hw : w.OnePr number branch) :
    OnePrSafe offered number branch w (recoverableFinalizationError number error) := by
  refine safe_one_pr_read rfl hw fun file htells => ?_
  have hfile : file = w.file := htells
  subst hfile
  cases hfile : w.file with
  | missing | unreadable => exact safe_pure hw hw
  | record status =>
  show OnePrSafe _ _ _ _ (if status.issue ≠ some number then _ else _)
  split
  · exact safe_pure hw hw
  · split
    · exact safe_pure hw hw
    · cases hcontext : status.context with
      | none => exact safe_pure hw hw
      | some context =>
          exact safe_one_pr_preserve (context_belongs hcontext (hw.record status hfile)) hw

/-- So is an interruption. -/
theorem safe_one_pr_interruption_error {error : Raised} (hcontext : context.Belongs number branch)
    (hw : w.OnePr number branch) :
    OnePrSafe offered number branch w (recoverableInterruptionError context error) := by
  refine safe_one_pr_read rfl hw fun file _ => ?_
  cases file with
  | missing | unreadable => exact safe_pure hw hw
  | record status =>
      show OnePrSafe _ _ _ _ (if status.interruptible then _ else _)
      split
      · exact safe_one_pr_preserve hcontext hw
      · exact safe_pure hw hw

/-- A failure is recorded without a branch. -/
theorem safe_one_pr_failure {error : Raised} {title : String} (hw : w.OnePr number branch) :
    OnePrSafe offered number branch w (recordIssueFailure number title error) :=
  safe_steady steady_one_pr (steps_record_issue_failure
    (allows_notes (steady_allows steady_one_pr rfl) (steady_allows steady_one_pr rfl))
    (steady_write_failed steady_one_pr) error) hw

/-- The handler of an error keeps the invariant. -/
theorem safe_one_pr_task_error {issue : Issue} {error : Raised} (hnumber : issue.number = number)
    (hw : w.OnePr number branch) :
    OnePrSafe offered number branch w (handleTaskError issue error) := by
  unfold handleTaskError
  rw [hnumber]
  refine safe_one_pr_bind (safe_one_pr_finalization_error hw) fun recovery w₁ hw₁ => ?_
  cases recovery with
  | some recovery => exact safe_raise hw₁ hw₁
  | none => exact safe_one_pr_bind (safe_one_pr_failure hw₁) fun _ _ hw₂ => safe_raise hw₂ hw₂

/-- So does that of a Ctrl-C. -/
theorem safe_one_pr_task_interrupt {issue : Issue} (hnumber : issue.number = number)
    (hw : w.OnePr number branch) :
    OnePrSafe offered number branch w (handleTaskInterrupt issue) := by
  unfold handleTaskInterrupt taskInterruption recordedStatusContext
  rw [hnumber]
  refine safe_one_pr_bind (safe_one_pr_bind (safe_one_pr_finalization_error hw)
    fun recovery w₁ hw₁ => ?_) fun interruption w₂ hw₂ => ?_
  · cases recovery with
    | some recovery => exact safe_pure hw₁ hw₁
    | none =>
    refine safe_bind (safe_post (Q := fun result (w' : Site) => w'.OnePr number branch ∧
        ∀ context, result = .ok (some context) → context.Belongs number branch) ?_
      fun result w₂ _ hw₂ => ?_)
    · refine safe_bind (safe_site_read rfl hw₁ fun answer htells => ?_)
      cases answer with
      | error e => exact ⟨hw₁, fun _ h => (nomatch h)⟩
      | ok file =>
      have hfile : file = w₁.file := htells
      subst hfile
      cases hfile : w₁.file with
      | missing | unreadable => exact safe_pure hw₁ ⟨hw₁, fun _ h => (nomatch h)⟩
      | record status =>
      show Safe _ _ (if status.issue = some number ∧
        status.title = some issue.title then _ else _) _ _
      split
      · exact safe_pure hw₁ ⟨hw₁, fun context hcontext =>
          context_belongs (Except.ok.inj hcontext) (hw₁.record status hfile)⟩
      · exact safe_pure hw₁ ⟨hw₁, fun _ h => (nomatch h)⟩
    · cases result with
      | error e => exact hw₂.1
      | ok found =>
      cases found with
      | none => exact safe_pure hw₂.1 hw₂.1
      | some context => exact safe_one_pr_interruption_error (hw₂.2 context rfl) hw₂.1
  · cases interruption with
    | some recovery => exact safe_raise hw₂ hw₂
    | none => exact safe_one_pr_failure hw₂

/-! ## Runs -/

/-- The issues to select from are the task. -/
def onlyTask (number : Int) (title : String) (issue : Issue) : Prop :=
  issue.number = number ∧ issue.title = title

section

variable {title : String}

/-- The issue that is selected is the task, and open. -/
theorem safe_one_pr_next_issue (hw : w.OnePr number branch) :
    Safe (siteExec (onlyTask number title)) (Site.OnePr number branch) (nextIssue setting) w
      fun result w' => w'.OnePr number branch ∧ ∀ issue, result = .ok (some issue) →
        onlyTask number title issue ∧ w'.TaskOpen number branch := by
  have hnot : ∀ {result : Except Raised (Option Issue)} {w : Site}, w.OnePr number branch →
      (∀ issue, result ≠ .ok (some issue)) → w.OnePr number branch ∧ ∀ issue,
        result = .ok (some issue) → onlyTask number title issue ∧ w.TaskOpen number branch :=
    fun hw hnone => ⟨hw, fun issue h => absurd h (hnone issue)⟩
  unfold nextIssue
  refine safe_bind (safe_issue hw fun answer w₁ hexec => ?_)
  have hw₁ : w₁.OnePr number branch :=
    steady_one_pr.command rfl rfl hw hexec
  refine ⟨hw₁, ?_⟩
  obtain ⟨hsame, htells⟩ := exec_unchanged rfl rfl hexec
  cases answer with
  | error e => exact hnot hw₁ fun _ h => (nomatch h)
  | ok issues =>
  cases issues with
  | nil => exact safe_pure hw₁ (hnot hw₁ fun _ h => (nomatch h))
  | cons issue rest =>
  show Safe _ _ (if setting.lower (issue.login.getD "") ≠ setting.lower setting.owner then _ else _)
    w₁ _
  split
  · exact safe_raise hw₁ (hnot hw₁ fun _ h => (nomatch h))
  · refine safe_pure hw₁ ⟨hw₁, fun found hfound => ?_⟩
    cases hfound
    obtain ⟨hoffered, hopen⟩ := htells issue List.mem_cons_self
    refine ⟨hoffered, hw₁, ?_⟩
    rw [hsame]
    exact hoffered.1 ▸ hopen

/-- So does the recovery of `run_watch`. -/
theorem safe_one_pr_watch_recovery (hcontext : context.Belongs number branch)
    (hw : w.OnePr number branch) :
    OnePrSafe offered number branch w (watchRecovery setting context) := by
  refine safe_handle (safe_post (safe_one_pr_recover hcontext hw) fun result w₁ _ hw₁ => ?_)
  cases result with
  | ok _ => exact hw₁
  | error e =>
      cases e with
      | keyboardInterrupt =>
          refine safe_one_pr_bind (safe_one_pr_interruption_error hcontext hw₁)
            fun error w₂ hw₂ => ?_
          cases error with
          | none => exact safe_raise hw₂ hw₂
          | some error => exact safe_raise hw₂ hw₂
      | calledProcessError | jsonDecodeError | runtimeError | valueError | recoverableChangesError
      | activeOrphanError | otherException => exact safe_raise hw₁ hw₁

/-- So does the check of the working tree. -/
theorem safe_one_pr_clean_tree (hw : w.OnePr number branch) :
    OnePrSafe offered number branch w cleanTreeRequired :=
  safe_steady steady_one_pr (steps_clean_tree_required (steady_allows steady_one_pr rfl)) hw

/-- The branch of an issue depends on its number and title only. -/
theorem branch_of_task {issue : Issue} (h : onlyTask number title issue) (startedAt : String) :
    (issueContext setting issue startedAt).branch = taskBranch setting number title := by
  rw [← h.1, ← h.2]
  rfl

/-- `run_once` keeps the invariant. -/
theorem safe_one_pr_once (hw : w.OnePr number (taskBranch setting number title)) :
    OnePrSafe (onlyTask number title) number (taskBranch setting number title) w
      (runOnceLocked setting) := by
  refine safe_bind (safe_post (safe_one_pr_reconcile hw) fun result w₁ _ hw₁ => ?_)
  cases result with
  | error e => exact hw₁.1
  | ok recovery =>
  cases recovery with
  | some context => exact safe_one_pr_recover (hw₁.2 context rfl) hw₁.1
  | none =>
  refine safe_one_pr_bind (safe_one_pr_clean_tree hw₁.1) fun _ w₂ hw₂ => ?_
  refine safe_bind (safe_post (safe_one_pr_next_issue hw₂) fun result w₃ _ hw₃ => ?_)
  cases result with
  | error e => exact hw₃.1
  | ok selected =>
  cases selected with
  | none => exact safe_steady steady_one_pr (steps_write (steady_write_idle steady_one_pr)) hw₃.1
  | some issue =>
  obtain ⟨htask, hopen⟩ := hw₃.2 issue rfl
  refine safe_handle (safe_post (safe_one_pr_process htask.1 (branch_of_task htask) hopen)
    fun result w₄ _ hw₄ => ?_)
  cases result with
  | ok _ => exact hw₄
  | error e =>
      cases e with
      | recoverableChangesError | keyboardInterrupt => exact safe_raise hw₄ hw₄
      | calledProcessError | jsonDecodeError | runtimeError | valueError | activeOrphanError
      | otherException => exact safe_one_pr_task_error htask.1 hw₄

/-- So does a round without a recovery. -/
theorem safe_one_pr_watch_for_issue (hw : w.OnePr number (taskBranch setting number title)) :
    OnePrSafe (onlyTask number title) number (taskBranch setting number title) w
      (watchForIssue setting) := by
  refine safe_one_pr_bind (safe_one_pr_clean_tree hw) fun _ w₁ hw₁ => ?_
  refine safe_bind (safe_post (safe_one_pr_next_issue hw₁) fun result w₂ _ hw₂ => ?_)
  cases result with
  | error e => exact hw₂.1
  | ok selected =>
  cases selected with
  | none =>
      exact safe_steady steady_one_pr (composed_bind (steps_write (steady_write_idle steady_one_pr))
        fun _ => composed_bind (steps_call rfl (steady_allows steady_one_pr rfl)) fun _ =>
          composed_pure _) hw₂.1
  | some issue =>
  obtain ⟨htask, hopen⟩ := hw₂.2 issue rfl
  refine safe_and_then (safe_post (safe_one_pr_process htask.1 (branch_of_task htask) hopen)
    fun result w₃ _ hw₃ => ?_)
  cases result with
  | ok _ => exact safe_pure hw₃ hw₃
  | error e =>
      cases e with
      | recoverableChangesError text => exact safe_raise hw₃ hw₃
      | keyboardInterrupt =>
          exact safe_one_pr_bind (safe_one_pr_task_interrupt htask.1 hw₃) fun _ _ hw₄ =>
            safe_pure hw₄ hw₄
      | calledProcessError | jsonDecodeError | runtimeError | valueError | activeOrphanError
      | otherException =>
          exact safe_one_pr_bind (safe_one_pr_task_error htask.1 hw₃) fun _ _ hw₄ =>
            safe_pure hw₄ hw₄

/-- So does the body of every round. -/
theorem safe_one_pr_watch_body (hw : w.OnePr number (taskBranch setting number title)) :
    OnePrSafe (onlyTask number title) number (taskBranch setting number title) w
      (watchBody setting) := by
  refine safe_and_then (safe_post (safe_one_pr_reconcile hw) fun result w₁ _ hw₁ => ?_)
  cases result with
  | error e =>
      cases e with
      | activeOrphanError text =>
          exact safe_steady steady_one_pr (composed_bind (steps_call rfl
            (steady_allows steady_one_pr rfl)) fun _ => composed_pure _) hw₁.1
      | calledProcessError | jsonDecodeError | runtimeError | valueError | recoverableChangesError
      | otherException | keyboardInterrupt => exact safe_raise hw₁.1 hw₁.1
  | ok recovery =>
  cases recovery with
  | some context =>
      exact safe_one_pr_bind (safe_one_pr_watch_recovery (hw₁.2 context rfl) hw₁.1) fun _ _ hw₂ =>
        safe_pure hw₂ hw₂
  | none => exact safe_one_pr_watch_for_issue hw₁.1

/-- So does the round with its handlers. -/
theorem safe_one_pr_watch_round (hw : w.OnePr number (taskBranch setting number title)) :
    OnePrSafe (onlyTask number title) number (taskBranch setting number title) w
      (watchRound setting) := by
  refine safe_watch_round_of_body (safe_handle (safe_post (safe_one_pr_watch_body hw)
    fun result w₁ _ hw₁ => ?_)) (fun _ hw => hw) fun _ _ _ hw₁ hexec =>
      steady_one_pr.command rfl rfl hw₁ hexec
  cases result with
  | ok goesOn => exact hw₁
  | error e =>
      cases e with
      | keyboardInterrupt =>
          exact safe_steady steady_one_pr (composed_bind (steps_write
            (steady_write_idle steady_one_pr)) fun _ => composed_pure _) hw₁
      | calledProcessError | jsonDecodeError | runtimeError | valueError | recoverableChangesError
      | activeOrphanError | otherException => exact safe_raise hw₁ hw₁

/-- So does `confirm_recovery`. -/
theorem safe_one_pr_confirm (hw : w.OnePr number branch) :
    OnePrSafe offered number branch w (confirmRecordedTask setting) := by
  have hone : Steady offered number branch (Site.OnePr number branch) := steady_one_pr
  have hread : Allows (SteadyPart offered number branch (Site.OnePr number branch)) .read :=
    steady_allows hone rfl
  refine safe_one_pr_read rfl hw fun file htells => ?_
  have hfile : file = w.file := htells
  subst hfile
  cases hfile : w.file with
  | missing | unreadable => exact safe_raise hw hw
  | record status =>
  show OnePrSafe _ _ _ _ (if status.state ≠ .recoveryConfirmationRequired then _ else _)
  split
  · exact safe_raise hw hw
  · cases hcontext : status.context with
    | none => exact safe_raise hw hw
    | some context =>
    have hbelongs := context_belongs hcontext (hw.record status hfile)
    show OnePrSafe _ _ _ _ (confirmTask setting status context)
    unfold confirmTask
    refine safe_one_pr_bind (safe_steady hone (steps_load_recovery_issue setting hread) hw)
      fun _ w₁ hw₁ => ?_
    refine safe_one_pr_bind (safe_steady hone (steps_confirm_stopped_child hread status) hw₁)
      fun _ w₂ hw₂ => ?_
    refine safe_one_pr_bind (safe_steady hone (steps_confirm_checkout hread status) hw₂)
      fun _ w₃ hw₃ => ?_
    refine safe_one_pr_bind (safe_steady hone (steps_captured_recovery_scope setting hread) hw₃)
      fun scope w₄ hw₄ => ?_
    show OnePrSafe _ _ _ _ (if scope.1 = none ∨ scope.2 = some "" then _ else _)
    split
    · exact safe_raise hw₄ hw₄
    · exact safe_one_pr_bind (safe_steady hone (steps_write (steady_write hone hbelongs)) hw₄)
        fun _ _ hw₅ => safe_one_pr_recover hbelongs hw₅

/-- Every entry of the controller keeps the invariant. -/
theorem safe_one_pr_script (entry : HandoffEntry)
    (hw : w.OnePr number (taskBranch setting number title)) :
    OnePrSafe (onlyTask number title) number (taskBranch setting number title) w
      (handoffScript setting entry) := by
  have hstart : ∀ {w : Site}, w.OnePr number (taskBranch setting number title) →
      OnePrSafe (onlyTask number title) number
      (taskBranch setting number title) w startController :=
    fun hw => safe_steady steady_one_pr
      (steps_start_controller (steady_allows steady_one_pr rfl)) hw
  have hlocked : ∀ {p : Controller Unit} {w : Site},
      OnePrSafe (onlyTask number title) number (taskBranch setting number title) w p →
      OnePrSafe (onlyTask number title) number (taskBranch setting number title) w (do
        p.finally_ (call .releaseLock)
        pure none : Controller (Option HandoffEntry)) := by
    intro p w hp
    refine safe_one_pr_bind (safe_finally (safe_post hp fun result w₁ _ hw₁ => ?_))
      fun _ _ hw₂ => safe_pure hw₂ hw₂
    refine safe_post (safe_steady steady_one_pr
      (steps_call rfl (steady_allows steady_one_pr rfl)) hw₁)
      fun released w₂ _ hw₂ => ?_
    cases released with
    | error e => exact hw₂
    | ok _ => exact hw₂
  cases entry with
  | once => exact safe_one_pr_bind (hstart hw) fun _ _ hw₁ => hlocked (safe_one_pr_once hw₁)
  | watch => exact safe_one_pr_bind (hstart hw) fun _ _ hw₁ => safe_one_pr_watch_round hw₁
  | watching => exact safe_one_pr_watch_round hw
  | confirm => exact safe_one_pr_bind (hstart hw) fun _ _ hw₁ => hlocked (safe_one_pr_confirm hw₁)

end

/-- In every run for one task, with any crashes and exceptions, and with Git and GitHub changed by
the controller alone: at most one pull request is created for the branch of the task. -/
theorem one_pull_request (setting : Setting) (number : Int) (title : String) (file : StatusFile)
    (head : String) (remote : String → Option String) (prs : List PullRequest) (isOpen : Int → Bool)
    (hfile : ∀ status, file = .record status →
      status.Belongs number (taskBranch setting number title))
    (hprs : ∀ pr ∈ prs, pr.branch ≠ taskBranch setting number title)
    {s : ScriptService.Running Command Answer Raised HandoffEntry Site}
    (hrun : (controller setting (siteSurroundings (onlyTask number title) Eq)).Reaches
      (.start file head remote prs isOpen) s) :
    s.1.created.count (taskBranch setting number title) ≤ 1 := by
  have hinvariant : s.1.OnePr number (taskBranch setting number title) := by
    refine ScriptService.invariant_of_reaches
      (I := Site.OnePr number (taskBranch setting number title))
      (J := Site.OnePr number (taskBranch setting number title)) ?_ ?_ ?_ ?_ ?_ hrun
    · exact fun entry w hw => safe_one_pr_script entry (hw.noted _)
    · exact fun w hw _ => hw
    · rintro w _ hw rfl
      exact hw
    · exact fun w hw => hw
    · exact ⟨hfile, Nat.zero_le _, fun h => (nomatch h), fun pr hmem hbranch =>
        absurd hbranch (hprs pr hmem)⟩
  exact hinvariant.once

/-- The theorem on a run that crashes right after `gh pr create`, and a run after it that recovers
the task up to its blocked merge. -/
theorem one_pull_request_sample :
    ∃ s, (controller windowSetting (siteSurroundings (onlyTask 7 "task") Eq)).Reaches
        (.start .missing "a9d3e41" (fun _ => none) [] fun _ => true) s ∧
      s.1.file.hasState .mergeBlocked = true ∧ s.1.created = [taskBranch windowSetting 7 "task"] ∧
      s.1.created.count (taskBranch windowSetting 7 "task") ≤ 1 := by
  have hstart : (controller windowSetting (siteSurroundings (onlyTask 7 "task") Eq)).Reaches
      (.start .missing "a9d3e41" (fun _ => none) [] fun _ => true)
      (.start .missing "a9d3e41" (fun _ => none) [] fun _ => true, none) := .refl
  have hanswers := @site_respond (onlyTask 7 "task") ⟨rfl, rfl⟩
  have hcreated := @ScriptService.reaches_play _ _ _ _ _
    (controller windowSetting (siteSurroundings (onlyTask 7 "task") Eq)) siteRespond
    (fun w => !w.created.isEmpty) _ _ hanswers hstart .once
  have hcrashed := Relation.ReflTransGen.tail hcreated (.crash trivial)
  have hrecovered := @ScriptService.reaches_play _ _ _ _ _
    (controller windowSetting (siteSurroundings (onlyTask 7 "task") Eq)) siteRespond
    (fun _ => false) _ _ hanswers hcrashed .once
  refine ⟨_, hrecovered, ?_, ?_, one_pull_request windowSetting 7 "task" .missing _ _ [] _
    (fun _ h => (nomatch h)) (fun _ h => (nomatch h)) hrecovered⟩
  · decide +kernel
  · decide +kernel

end GrowthOs.Handoff
