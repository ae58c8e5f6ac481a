import GrowthOs.Handoff.Site

/-!
# Resumed finalizations

What a restart does with the finalization checkpoint that it finds, for any answers of Git, GitHub
and the children: no commit and no push that the checkpoint records before a fix round of its own,
no second pull request, and nothing at all on a checkpoint that Git and GitHub do not match.
`safe_resume_script` is the result for every entry of the controller.
-/

namespace GrowthOs.Handoff

open Library

variable {offered : Issue → Prop} {w w' : Site} {setting : Setting} {context : StatusContext}
  {status record : Status} {r : Restart} {n : Nat} {α β : Type}

/-- No fault has happened. -/
structure Restart.Clean (r : Restart) : Prop where
  notRecommitted : r.recommitted = false
  notRepushed : r.repushed = false
  notRecreated : r.recreated = false
  notUnproven : r.unproven = false

/-- The command is no fault. -/
structure Restart.Permits (r : Restart) (command : Command) : Prop where
  commits : command.commits = true → r.completed = 0 ∨ r.fixing = true
  pushes : command.pushes = true → r.completed < 2 ∨ r.fixing = true
  opensPr : command.opensPr = true → r.completed ≠ 3
  acts : command.acts = true → r.completed = 0 ∨ r.matched = true

/-- A fault flag stays down where the command is excused. -/
theorem not_fault {issued found excused : Bool}
    (h : issued = true → found = false ∨ excused = true) :
    (issued && found && !excused) = false := by
  cases issued with
  | false => rfl
  | true =>
      cases h rfl with
      | inl hfound => rw [hfound]; rfl
      | inr hexcused => rw [hexcused, Bool.not_true, Bool.and_false]

/-- A permitted command adds no fault. -/
theorem Restart.Clean.noted {command : Command} (hr : r.Clean) (h : r.Permits command) :
    (r.noted command).Clean := by
  have hzero : r.completed = 0 → (r.completed != 0) = false := fun hzero => by rw [hzero]; rfl
  refine ⟨?_, ?_, ?_, ?_⟩
  · show (r.recommitted || _) = false
    rw [hr.notRecommitted, Bool.false_or]
    exact not_fault fun hcommits => (h.commits hcommits).imp_left hzero
  · show (r.repushed || _) = false
    rw [hr.notRepushed, Bool.false_or]
    exact not_fault fun hpushes => (h.pushes hpushes).imp_left fun hlow =>
      decide_eq_false (Nat.not_le.mpr hlow)
  · show (r.recreated || (command.opensPr && r.completed == 3)) = false
    rw [hr.notRecreated, Bool.false_or, Bool.and_eq_false_iff]
    cases hopens : command.opensPr with
    | false => exact .inl rfl
    | true => exact .inr (beq_eq_false_iff_ne.mpr (h.opensPr hopens))
  · show (r.unproven || _) = false
    rw [hr.notUnproven, Bool.false_or]
    exact not_fault fun hacts => (h.acts hacts).imp_left hzero

/-- No fault has happened in the world. -/
def Site.Clean (w : Site) : Prop := w.restart.Clean

/-- A stage of a restart, and the commands that keep it. -/
structure Stage (K : Restart → Prop) (P : Command → Prop) : Prop where
  clean : ∀ r, K r → r.Clean
  keeps : ∀ r command, K r → P command → K (r.noted command)

/-- A script whose commands keep a stage ends in the stage. -/
theorem safe_stage {K : Restart → Prop} {P : Command → Prop} {p : Controller α} (h : Stage K P)
    (hp : Only P p) (hw : K w.restart) :
    Safe (siteExec offered) Site.Clean p w fun _ w' => K w'.restart := by
  refine safe_of_only hp (fun w hw => h.clean w.restart hw) ?_ hw
  intro command w answer w' hcommand hw hexec
  rw [exec_restart hexec]
  exact h.keeps _ command hw hcommand

/-- A script of one stage, and then another script. -/
theorem safe_stage_bind {K : Restart → Prop} {P : Command → Prop} {p : Controller β}
    {f : β → Controller α} {Q : Except Raised α → Site → Prop} (h : Stage K P) (hp : Only P p)
    (hf : ∀ b w', K w'.restart → Safe (siteExec offered) Site.Clean (f b) w' Q)
    (hQ : ∀ e w', K w'.restart → Q (.error e) w') (hw : K w.restart) :
    Safe (siteExec offered) Site.Clean (p >>= f) w Q := by
  refine safe_bind (safe_post (safe_stage h hp hw) fun result w' _ hw' => ?_)
  cases result with
  | ok b => exact hf b w' hw'
  | error e => exact hQ e w' hw'

/-- The restart has found no finalization checkpoint. -/
structure Restart.Loose (r : Restart) : Prop where
  clean : r.Clean
  completed : r.completed = 0

/-- Without a checkpoint every command is permitted. -/
theorem loose_stage : Stage Restart.Loose fun _ => True := by
  refine ⟨fun r hr => hr.clean, fun r command hr _ => ⟨hr.clean.noted ?_, hr.completed⟩⟩
  refine ⟨fun _ => .inl hr.completed, fun _ => .inl ?_, fun _ => ?_, fun _ => .inl hr.completed⟩
  · rw [hr.completed]
    omega
  · rw [hr.completed]
    omega

/-- Commands that do nothing to Git and pull requests are always permitted. -/
theorem idle_stage : Stage Restart.Clean fun command => command.acts = false := by
  refine ⟨fun r hr => hr, fun r command hr hacts => hr.noted ?_⟩
  have hnot : ∀ b : Bool, (b = true → command.acts = true) → b = true → False := by
    intro b hb htrue
    have hacting := hb htrue
    rw [hacts] at hacting
    cases hacting
  refine ⟨fun h => (hnot _ ?_ h).elim, fun h => (hnot _ ?_ h).elim, fun h => (hnot _ ?_ h).elim,
    fun h => (hnot _ id h).elim⟩
  all_goals
    intro h
    cases command with
    | gitCommit | gitPush | gitPushUpstream | ghPrCreate => rfl
    | _ => cases h

/-- The restart has proven the checkpoint that it resumes from. -/
structure Restart.Resumed (n : Nat) (r : Restart) : Prop where
  clean : r.Clean
  completed : r.completed = n
  matched : r.matched = true

/-- The commands that resume from a checkpoint. -/
structure Command.Resumes (n : Nat) (command : Command) : Prop where
  commits : command.commits = false
  pushes : command.pushes = true → n < 2
  opensPr : command.opensPr = true → n ≠ 3

/-- Behind a proven checkpoint the commands that resume from it are. -/
theorem resumed_stage (n : Nat) : Stage (Restart.Resumed n) (Command.Resumes n) := by
  refine ⟨fun r hr => hr.clean, fun r command hr h => ⟨hr.clean.noted ?_, hr.completed, hr.matched⟩⟩
  refine ⟨fun hcommits => ?_, fun hpushes => .inl ?_, fun hopens => ?_, fun _ => .inr hr.matched⟩
  · rw [h.commits] at hcommits
    cases hcommits
  · rw [hr.completed]
    exact h.pushes hpushes
  · rw [hr.completed]
    exact h.opensPr hopens

/-- The restart has launched a fix round of its own. -/
structure Restart.Refixing (n : Nat) (r : Restart) : Prop extends Restart.Resumed n r where
  fixing : r.fixing = true

/-- In a fix round everything is permitted but another pull request. -/
theorem refixing_stage (n : Nat) :
    Stage (Restart.Refixing n) fun command => command.opensPr = false := by
  refine ⟨fun r hr => hr.clean, fun r command hr h =>
    ⟨⟨hr.clean.noted ?_, hr.completed, hr.matched⟩, ?_⟩⟩
  · refine ⟨fun _ => .inr hr.fixing, fun _ => .inr hr.fixing, fun hopens => ?_,
      fun _ => .inr hr.matched⟩
    rw [h] at hopens
    cases hopens
  · show (r.fixing || _) = true
    rw [hr.fixing]
    rfl

/-- The scripts whose commands satisfy `P`. -/
abbrev CommandPart (P : Command → Prop) (γ : Type) (p : Controller γ) : Prop := Only P p

/-- The parts of a script bound its commands. -/
theorem only_of_steps {P : Command → Prop} {p : Controller α} (h : Composed (CommandPart P) p) :
    Only P p := only_composed h id

/-- The kinds that neither commit, push nor open a pull request. -/
def CommandKind.resumes : CommandKind → Bool
  | .stage | .push | .openPr => false
  | _ => true

/-- A command of such a kind resumes from every checkpoint. -/
theorem resumes_of_kind {command : Command} {kind : CommandKind} (hkind : command.kind = some kind)
    (h : kind.resumes = true) : command.Resumes n := by
  have hnone : command.commits = false ∧ command.pushes = false ∧ command.opensPr = false := by
    cases command with
    | gitCommit | gitPush | gitPushUpstream | ghPrCreate =>
        cases hkind
        cases h
    | _ => exact ⟨rfl, rfl, rfl⟩
  refine ⟨hnone.1, fun hpushes => ?_, fun hopens => ?_⟩
  · rw [hnone.2.1] at hpushes
    cases hpushes
  · rw [hnone.2.2] at hopens
    cases hopens

/-- The kind is allowed for a script that resumes. -/
theorem resumes_allows {kind : CommandKind} (h : kind.resumes = true) :
    Allows (CommandPart (Command.Resumes n)) kind :=
  fun _ hkind => only_call (resumes_of_kind hkind h)

/-- So are notes on the issue. -/
theorem resumes_notes : AllowsNotes (CommandPart (Command.Resumes n)) :=
  allows_notes (resumes_allows rfl) (resumes_allows rfl)

/-- A status may be written while resuming. -/
theorem resumes_write {state : HandoffState} {update : StatusUpdate} :
    Only (Command.Resumes n) (writeStatus state update) :=
  only_bind (only_call (resumes_of_kind rfl rfl)) fun _ =>
    only_call ⟨rfl, fun h => (nomatch h), fun h => (nomatch h)⟩

/-- So may every status of the task. -/
theorem resumes_writes : AllowsWrites (CommandPart (Command.Resumes n)) context :=
  fun _ _ _ _ => resumes_write

/-- Children may run while resuming. -/
theorem resumes_children : AllowsChildren (CommandPart (Command.Resumes n)) setting context :=
  steps_run_codex_stream setting (resumes_allows rfl) (resumes_allows rfl)
  fun _ _ _ => resumes_write

/-- A fix round may run everything but the creation of a pull request. -/
theorem refixes_allows {kind : CommandKind} (h : kind ≠ .openPr) :
    Allows (CommandPart fun command => command.opensPr = false) kind := by
  intro command hkind
  refine only_call ?_
  cases command with
  | ghPrCreate =>
      cases hkind
      exact absurd rfl h
  | _ => rfl

/-- It may write a status. -/
theorem refixes_write {state : HandoffState} {update : StatusUpdate} :
    Only (fun command => command.opensPr = false) (writeStatus state update) :=
  only_bind (only_call rfl) fun _ => only_call rfl

/-- And every status of its task. -/
theorem refixes_writes :
    AllowsWrites (CommandPart fun command => command.opensPr = false) context :=
  fun _ _ _ _ => refixes_write

/-- Where a fix round of a restart can end. -/
def FixLaunched (n : Nat) (result : Except Raised α) (w : Site) : Prop :=
  match result with
  | .ok _ => w.restart.Refixing n
  | .error _ => w.restart.Resumed n

/-- A fix round that has begun is where the launch of its child ends. -/
theorem Restart.Refixing.launched (hw : w.restart.Refixing n) (result : Except Raised α) :
    FixLaunched n result w := by
  cases result with
  | ok _ => exact hw
  | error e => exact hw.toResumed

/-- The child of a fix round is a fix round. -/
theorem safe_fixing_stream (hw : w.restart.Resumed n) :
    Safe (siteExec offered) Site.Clean (runCodexStream setting context .fixing) w
    (FixLaunched n) := by
  have hstage := resumed_stage n
  unfold runCodexStream
  refine safe_stage_bind hstage (only_call (resumes_of_kind rfl rfl)) (fun base w₁ hw₁ => ?_)
    (fun _ _ hw₁ => hw₁) hw
  show Safe _ _ (if base = "" then _ else _) w₁ _
  split
  · exact safe_raise hw₁.clean hw₁
  · refine safe_stage_bind hstage resumes_write (fun _ w₂ hw₂ => ?_) (fun _ _ hw₂ => hw₂) hw₁
    refine safe_bind (safe_issue hw₂.clean fun answer w₃ hexec => ?_)
    have hkeep : w₃.restart.Resumed n := by
      rw [exec_restart hexec]
      exact hstage.keeps _ _ hw₂ (resumes_of_kind rfl rfl)
    have hfixing : w₃.restart.fixing = true := by
      rw [exec_restart hexec]
      show (w₂.restart.fixing || _) = true
      exact Bool.or_eq_true_iff.mpr (.inr rfl)
    have hw₃ : w₃.restart.Refixing n := ⟨hkeep, hfixing⟩
    refine ⟨hw₃.clean, ?_⟩
    cases answer with
    | error e => exact hkeep
    | ok pid =>
        refine safe_post (safe_stage (refixing_stage n) (only_of_steps (steps_supervised setting
          (refixes_allows (by decide)) (refixes_allows (by decide)) (fun _ _ _ => refixes_write) rfl
            base pid)) hw₃) fun result w₄ _ hw₄ => hw₄.launched result

/-- The fixer begins a fix round of the restart, unless it raises. -/
theorem safe_resume_fixer (hw : w.restart.Resumed n) :
    Safe (siteExec offered) Site.Clean (runFixer setting context) w (FixLaunched n) := by
  have hwrites : AllowsWrites (CommandPart fun command => command.opensPr = false) context :=
    refixes_writes
  obtain ⟨k, heq, hk⟩ := run_fixer_eq setting (refixes_allows (by decide)) hwrites
  rw [heq]
  refine safe_bind (safe_post (safe_fixing_stream hw) fun result w₁ _ hw₁ => ?_)
  cases result with
  | error e => exact hw₁
  | ok output =>
      exact safe_post (safe_stage (refixing_stage n) (only_of_steps (hk output)) hw₁)
        fun result w₂ _ hw₂ => hw₂.launched result

/-- The rounds of the review commit and push only after a fix round. -/
theorem safe_resume_rounds (rounds : List Nat) (hw : w.restart.Resumed n) :
    Safe (siteExec offered) Site.Clean (reviewRounds setting context rounds) w
      fun _ w' => w'.restart.Resumed n := by
  induction rounds generalizing w with
  | nil => exact safe_raise hw.clean hw
  | cons round rest ih =>
      refine safe_stage_bind (resumed_stage n) (only_of_steps (steps_run_reviewer setting
        (resumes_allows rfl) resumes_children)) (fun verdict w₁ hw₁ => ?_) (fun _ _ hw₁ => hw₁) hw
      cases verdict with
      | pass => exact safe_pure hw₁.clean hw₁
      | changesRequested =>
          show Safe _ _ (if maxFixRounds < round then _ else _) w₁ _
          split
          · exact safe_raise hw₁.clean hw₁
          · refine safe_bind (safe_post (safe_resume_fixer hw₁) fun result w₂ _ hw₂ => ?_)
            cases result with
            | error e => exact hw₂
            | ok _ =>
            have hrefix : ∀ {kind : CommandKind}, kind ≠ .openPr →
                Allows (CommandPart fun command => command.opensPr = false) kind :=
              fun h => refixes_allows h
            refine safe_stage_bind (refixing_stage n) (only_of_steps (steps_run_verification
              (hrefix (by decide)) refixes_writes _)) (fun _ w₃ hw₃ => ?_)
                (fun _ _ hw₃ => hw₃.toResumed) hw₂
            refine safe_stage_bind (refixing_stage n)
              (only_of_steps (steps_commit_review_fix setting
              (hrefix (by decide)) refixes_writes (hrefix (by decide)) (hrefix (by decide)) round))
                (fun _ w₄ hw₄ => ih hw₄.toResumed) (fun _ _ hw₄ => hw₄.toResumed) hw₃

/-- From a checkpoint on the commit is not made again. -/
theorem resumes_ensure_commit {commitSha : Option String} (hn : n ≠ 0) :
    Only (Command.Resumes n) (ensureCommit setting context commitSha n) := by
  unfold ensureCommit
  rw [if_neg hn]
  cases commitSha with
  | none => exact only_fail _
  | some commit => exact only_pure _

/-- The push is made only from the checkpoint of the commit. -/
theorem resumes_ensure_push {commit : String} :
    Only (Command.Resumes n) (ensurePush context commit n) := by
  unfold ensurePush
  split
  · rename_i hlow
    refine only_bind resumes_write fun _ => only_bind (only_call ?_) fun _ => resumes_write
    exact ⟨rfl, fun _ => hlow, fun h => (nomatch h)⟩
  · exact only_pure _

/-- A restart at `PR_CREATED` does not create the pull request. -/
theorem resumes_ensure_draft_pr {title : String} {recordedPr : Option String} :
    Only (Command.Resumes n) (ensureDraftPr title context recordedPr (max n 2) true) := by
  unfold ensureDraftPr
  rw [if_pos rfl]
  refine only_bind (only_of_steps (steps_find_draft_pr (resumes_allows rfl) _)) fun found => ?_
  split
  · exact only_fail _
  · rename_i hproven
    cases found with
    | some url => exact only_pure _
    | none =>
        refine only_bind (only_call ⟨rfl, fun h => (nomatch h), fun _ hthree => hproven ⟨?_, ?_⟩⟩)
          fun url => only_ite (only_fail _) (only_pure _)
        · omega
        · cases recordedPr with
          | none => exact .inl rfl
          | some recorded => exact .inr (by simp)

/-- The outcome of a review that may not merge is a note. -/
theorem resumes_record_outcome {url : String} {reasons : List String} :
    Only (Command.Resumes n) (recordOutcome context url (.blocked reasons)) := by
  refine only_of_steps (composed_bind (steps_record_blocked resumes_writes
    resumes_notes url reasons) fun _ => ?_)
  exact steps_replace_label (resumes_allows rfl) _ _ (by decide)

/-- The review of a recovery resumes from the checkpoint. -/
theorem safe_resume_review {url : String} (hw : w.restart.Resumed n) :
    Safe (siteExec offered) Site.Clean (reviewAndMerge setting context url false) w
      fun _ w' => w'.restart.Resumed n := by
  have hstage := resumed_stage n
  unfold reviewAndMerge
  refine safe_bind (safe_post (safe_resume_rounds _ hw) fun result w₁ _ hw₁ => ?_)
  cases result with
  | error e => exact hw₁
  | ok _ =>
  refine safe_stage_bind hstage (only_of_steps (steps_record_review_passed resumes_writes
    (resumes_allows rfl) resumes_notes url)) (fun _ w₂ hw₂ => ?_)
      (fun _ _ hw₂ => hw₂) hw₁
  refine safe_stage_bind hstage (only_call (resumes_of_kind rfl rfl)) (fun head w₃ hw₃ => ?_)
    (fun _ _ hw₃ => hw₃) hw₂
  split
  · exact safe_raise hw₃.clean hw₃
  · exact safe_stage hstage resumes_record_outcome hw₃

/-- So does the rest of its finalization. -/
theorem safe_resume_publish {title : String} (hn : n ≠ 0)
    (hcompleted : completedOf record.finalizationCheckpoint = n) (hw : w.restart.Resumed n) :
    Safe (siteExec offered) Site.Clean
      (publishChanges setting title context (some record) false true) w
      fun _ w' => w'.restart.Resumed n := by
  have hstage := resumed_stage n
  have hrecord : completedOf ((some record).bind (·.finalizationCheckpoint)) = n := hcompleted
  unfold publishChanges
  rw [hrecord]
  refine safe_stage_bind hstage (resumes_ensure_commit hn) (fun commit w₁ hw₁ => ?_)
    (fun _ _ hw₁ => hw₁) hw
  refine safe_stage_bind hstage resumes_ensure_push (fun _ w₂ hw₂ => ?_) (fun _ _ hw₂ => hw₂) hw₁
  refine safe_stage_bind hstage resumes_ensure_draft_pr (fun url w₃ hw₃ => ?_)
    (fun _ _ hw₃ => hw₃) hw₂
  refine safe_stage_bind hstage resumes_write (fun _ w₄ hw₄ => ?_) (fun _ _ hw₄ => hw₄) hw₃
  refine safe_stage_bind hstage (only_of_steps (steps_comment_once (resumes_allows rfl)
    (resumes_allows rfl) _ _ _)) (fun _ w₅ hw₅ => safe_resume_review hw₅) (fun _ _ hw₅ => hw₅) hw₄

/-- Reads that leave the world, and what is known when they return. -/
def Proves (w : Site) (fact : Prop) (result : Except Raised α) (w' : Site) : Prop :=
  w' = w ∧ ∀ a, result = .ok a → fact

/-- What raises proves nothing. -/
theorem Proves.of_error {fact : Prop} {e : Raised} (h : w' = w) :
    Proves w fact (.error e : Except Raised α) w' := ⟨h, fun _ ha => (nomatch ha)⟩

/-- The check of the pushed branch proves the head of the remote branch. -/
theorem safe_prove_remote {I : Site → Prop} {branch commit : String} (hw : I w) :
    Safe (siteExec offered) I (validatePushedCheckpoint branch commit) w
      (Proves w (w.remote branch = some commit)) := by
  unfold validatePushedCheckpoint remoteBranchHead
  refine safe_bind (safe_bind (safe_site_read rfl hw fun answer htells => ?_))
  cases answer with
  | error e => exact .of_error rfl
  | ok lines =>
  dsimp only
  have hend : ∀ {remote : Option String}, (remote = some commit → w.remote branch = some commit) →
      Safe (siteExec offered) I (if remote ≠ some commit then
          fail (.runtimeError "Recovery push checkpoint does not match the remote branch head")
        else pure () : Controller Unit) w (Proves w (w.remote branch = some commit)) := by
    intro remote hremote
    split
    · exact safe_raise hw (.of_error rfl)
    · rename_i hsame
      exact safe_pure hw ⟨rfl, fun _ _ => hremote (not_not.mp hsame)⟩
  split
  · exact safe_pure hw (hend fun h => (nomatch h))
  · rename_i sha ref
    split
    · rename_i href
      refine safe_pure hw (hend fun hsame => ?_)
      exact htells.2 commit (by rw [href, Option.some.inj hsame])
    · exact safe_raise hw (.of_error rfl)
  · exact safe_raise hw (.of_error rfl)

/-- Metadata of the recorded draft describe a draft of the branch. -/
theorem isDraftOf_of_recorded {metadata : PrMetadata} {pr : PullRequest} {head : Option String}
    {url branch commit : String} (hdescribes : metadata.Describes pr head)
    (hrecorded : metadata.isRecordedDraft url branch commit = true) :
    pr.isDraftOf branch = true := by
  unfold PrMetadata.isRecordedDraft at hrecorded
  simp only [Bool.and_eq_true, beq_iff_eq] at hrecorded
  obtain ⟨⟨⟨⟨⟨-, hopen⟩, hdraft⟩, hbase⟩, hbranch⟩, -⟩ := hrecorded
  unfold PullRequest.isDraftOf
  rw [hdescribes.isOpen hopen, hdescribes.isDraft hdraft, hdescribes.base _ hbase,
    hdescribes.branch _ hbranch]
  simp

/-- The recorded pull request is the open draft of the branch. -/
def Site.hasDraft (w : Site) (prUrl : Option String) (branch : String) : Bool :=
  w.prs.any fun pr => prUrl == some pr.url && pr.isDraftOf branch

/-- The check of the pull request proves that the recorded draft is there. -/
theorem safe_prove_pr {I : Site → Prop} {prUrl : Option String}
    {branch commit : String} (hw : I w) :
    Safe (siteExec offered) I (validatePrCheckpoint prUrl branch commit) w
      (Proves w (w.hasDraft prUrl branch = true)) := by
  unfold validatePrCheckpoint prMetadata
  cases prUrl with
  | none => exact safe_raise hw (.of_error rfl)
  | some url =>
  dsimp only
  split
  · exact safe_raise hw (.of_error rfl)
  · refine safe_bind (safe_bind (safe_site_read rfl hw fun answer htells => ?_))
    cases answer with
    | error e => exact .of_error rfl
    | ok metadata =>
    cases metadata with
    | none => exact safe_raise hw (.of_error rfl)
    | some metadata =>
    refine safe_pure hw ?_
    show Safe _ _ (if metadata.isRecordedDraft url branch commit then _ else _) w _
    split
    · rename_i hrecorded
      refine safe_pure hw ⟨rfl, fun _ _ => ?_⟩
      obtain ⟨pr, hmem, hurl, hdescribes⟩ := htells
      refine List.any_eq_true.mpr ⟨pr, hmem, ?_⟩
      rw [hurl, isDraftOf_of_recorded hdescribes hrecorded]
      simp
    · exact safe_raise hw (.of_error rfl)

/-- The checks of `validate_committed_recovery_checkpoint` are those of `matchesRecord`. -/
theorem safe_prove_checkpoint {I : Site → Prop} {branch : String}
    (hbranch : status.branch = some branch)
    (hn : completedOf status.finalizationCheckpoint = n) (hw : I w) :
    Safe (siteExec offered) I
      (validateCommittedRecoveryCheckpoint status.commitSha status.prUrl branch n)
      w (Proves w (w.matchesRecord status = true)) := by
  unfold validateCommittedRecoveryCheckpoint
  cases hcommit : status.commitSha with
  | none => exact safe_raise hw (.of_error rfl)
  | some commit =>
  dsimp only
  split
  · exact safe_raise hw (.of_error rfl)
  · refine safe_bind (safe_site_read rfl hw fun answer htells => ?_)
    cases answer with
    | error e => exact .of_error rfl
    | ok head =>
    have hhead : head = w.head := htells
    show Safe _ _ (if head ≠ commit then _ else _) w _
    split
    · exact safe_raise hw (.of_error rfl)
    · rename_i hsame
      have hcurrent : w.head = commit := hhead.symm.trans (not_not.mp hsame)
      refine safe_bind (safe_post (Q := Proves w (2 ≤ n → w.remote branch = some commit)) ?_
        fun result w₁ _ hremote => ?_)
      · split
        · exact safe_post (safe_prove_remote hw) fun _ _ _ h => ⟨h.1, fun a ha _ => h.2 a ha⟩
        · rename_i hlow
          exact safe_pure hw ⟨rfl, fun _ _ h => absurd h hlow⟩
      · obtain ⟨rfl, hremote⟩ := hremote
        cases result with
        | error e => exact .of_error rfl
        | ok _ =>
        refine safe_post (Q := Proves w₁ (3 ≤ n → w₁.hasDraft status.prUrl branch = true)) ?_
          fun result w₂ _ hdraft => ?_
        · split
          · exact safe_post (safe_prove_pr hw) fun _ _ _ h => ⟨h.1, fun a ha _ => h.2 a ha⟩
          · rename_i hlow
            exact safe_pure hw ⟨rfl, fun _ _ h => absurd h hlow⟩
        · refine ⟨hdraft.1, fun a ha => ?_⟩
          have hremote : 2 ≤ n → w₁.remote branch = some commit := hremote _ rfl
          have hdraft : 3 ≤ n → w₁.hasDraft status.prUrl branch = true := hdraft.2 a ha
          unfold Site.matchesRecord
          rw [hn, hcommit, hbranch, hcurrent]
          simp only [Bool.and_eq_true, Bool.or_eq_true, decide_eq_true_eq, beq_self_eq_true,
            Option.any_some, beq_iff_eq, true_and]
          refine ⟨?_, ?_⟩
          · by_cases hlow : n < 2
            · exact .inl hlow
            · exact .inr (hremote (Nat.not_lt.mp hlow))
          · by_cases hlow : n < 3
            · exact .inl hlow
            · exact .inr (hdraft (Nat.not_lt.mp hlow))

/-- Two records with the same checkpoint, of the same branch. -/
structure Status.SameCheckpoint (record status : Status) : Prop where
  checkpoint : record.finalizationCheckpoint = status.finalizationCheckpoint
  commitSha : record.commitSha = status.commitSha
  prUrl : record.prUrl = status.prUrl
  branch : record.branch = status.branch

/-- The arguments of `write_status` that keep the checkpoint. -/
structure StatusUpdate.Keeps (update : StatusUpdate) (status : Status) : Prop where
  reset : update.resetRecovery = false
  checkpoint : update.finalizationCheckpoint = none
  commitSha : update.commitSha = none
  prUrl : update.prUrl = none
  branch : update.branch = none ∨ update.branch = status.branch

/-- An update that keeps the checkpoint writes a record with the same one. -/
theorem Status.SameCheckpoint.payload {update : StatusUpdate} {state : HandoffState}
    (h : record.SameCheckpoint status) (hupdate : update.Keeps status) :
    (update.payload state (some record)).SameCheckpoint status := by
  unfold StatusUpdate.payload
  rw [hupdate.reset, hupdate.checkpoint, hupdate.commitSha, hupdate.prUrl]
  refine ⟨h.checkpoint, h.commitSha, h.prUrl, ?_⟩
  show (update.branch <|> record.branch) = status.branch
  cases hupdate.branch with
  | inl hnone =>
      rw [hnone]
      exact h.branch
  | inr hsame =>
      rw [hsame, h.branch]
      cases status.branch with
      | none => rfl
      | some branch => rfl

/-- Records with the same checkpoint are matched by the same worlds. -/
theorem matches_record_congr (h : record.SameCheckpoint status) :
    w.matchesRecord record = w.matchesRecord status := by
  unfold Site.matchesRecord
  rw [h.checkpoint, h.commitSha, h.prUrl, h.branch]

/-- The restart has only read and recorded so far. -/
structure Site.Frozen (status : Status) (w : Site) : Prop where
  clean : w.Clean
  completed : w.restart.completed = completedOf status.finalizationCheckpoint
  matched : w.restart.matched = w.matchesRecord status
  record : ∃ record, w.file = .record record ∧ record.SameCheckpoint status

/-- The kinds that do nothing to Git and pull requests. -/
def CommandKind.idle : CommandKind → Bool
  | .verify | .stage | .push | .branch | .openPr | .editPr | .mergePr => false
  | _ => true

/-- A command of an idle kind does not act on Git or pull requests. -/
theorem not_acts_of_idle {command : Command} {kind : CommandKind}
    (hkind : command.kind = some kind) (h : kind.idle = true) : command.acts = false := by
  unfold Command.acts
  rw [hkind]
  cases kind with
  | verify | stage | push | branch | openPr | editPr | mergePr => cases h
  | _ => rfl

/-- Such a command leaves the world frozen. -/
theorem frozen_command {command : Command} {kind : CommandKind}
    (hkind : command.kind = some kind) (h : kind.idle = true) (hw : w.Frozen status) :
    Safe (siteExec offered) Site.Clean (call command) w fun _ w' => w'.Frozen status := by
  have hchanges : kind.changes = false := by
    cases kind with
    | verify | stage | push | branch | openPr | editPr | mergePr => cases h
    | _ => rfl
  refine safe_issue hw.clean fun answer w₁ hexec => ?_
  obtain ⟨rfl, -⟩ := exec_unchanged hkind hchanges hexec
  have hclean : (w.restart.noted command).Clean :=
    idle_stage.keeps _ _ hw.clean (not_acts_of_idle hkind h)
  exact ⟨hclean, hclean, hw.completed, hw.matched, hw.record⟩

/-- The scripts that only read and record. -/
abbrev FrozenPart (offered : Issue → Prop) (status : Status) (γ : Type) (p : Controller γ) : Prop :=
  ∀ w : Site, w.Frozen status → Safe (siteExec offered) Site.Clean p w fun _ w' => w'.Frozen status

/-- Idle kinds are allowed while the world is frozen. -/
theorem frozen_allows {kind : CommandKind} (h : kind.idle = true) :
    Allows (FrozenPart offered status) kind :=
  fun _ hkind _ hw => frozen_command hkind h hw

/-- So is a status that keeps the checkpoint. -/
theorem frozen_write {state : HandoffState} {update : StatusUpdate} (h : update.Keeps status) :
    FrozenPart offered status Unit (writeStatus state update) := by
  refine fun w hw => safe_site_keep (fun _ hw => hw.clean) (fun w hw => ?_) hw
  obtain ⟨record, hfile, hsame⟩ := hw.record
  refine ⟨hw.clean, hw.completed, hw.matched, _, rfl, ?_⟩
  rw [hfile]
  exact hsame.payload h

/-- An update of the recorded task keeps the checkpoint. -/
theorem keeps_of_context {codexPid : Option Int} (hbranch : status.branch = some context.branch) :
    (StatusUpdate.of context { codexPid }).Keeps status :=
  ⟨rfl, rfl, rfl, rfl, .inr hbranch.symm⟩

/-- A script of such parts leaves the world frozen. -/
theorem safe_frozen {p : Controller α} (hp : Composed (FrozenPart offered status) p)
    (hw : w.Frozen status) :
    Safe (siteExec offered) Site.Clean p w fun _ w' => w'.Frozen status :=
  safe_composed hp (fun _ hw => hw.clean) (fun hpart hw => hpart _ hw) hw

/-- The context of a record has its issue, title and branch. -/
theorem task_of_context (h : status.context = some context) :
    status.issue = some context.issue ∧ status.title = some context.title ∧
      status.branch = some context.branch := by
  unfold Status.context at h
  obtain ⟨issue, hissue, h⟩ := Option.bind_eq_some_iff.mp h
  obtain ⟨title, htitle, h⟩ := Option.bind_eq_some_iff.mp h
  obtain ⟨branch, hbranch, h⟩ := Option.bind_eq_some_iff.mp h
  obtain ⟨startedAt, -, h⟩ := Option.bind_eq_some_iff.mp h
  split at h
  · cases h
    exact ⟨hissue, htitle, hbranch⟩
  · cases h

/-- The task that is reconciled is the one of the record. -/
theorem yields_reconcile_task :
    Yields (fun recovered => recovered = context) (reconcileTask setting status context) := by
  unfold reconcileTask reconcileChanges
  refine yields_ite trivial (yields_bind _ fun stopped => yields_bind _ fun branch => ?_)
  refine yields_ite (yields_bind _ fun _ => trivial) (yields_bind _ fun _ =>
    yields_bind _ fun _ => ?_)
  refine yields_ite (yields_bind _ fun revision => ?_) ?_
  · exact yields_ite (yields_bind _ fun _ => rfl) trivial
  · refine yields_ite (yields_bind _ fun _ => yields_bind _ fun _ =>
      yields_bind _ fun _ => trivial) ?_
    refine yields_ite (yields_bind _ fun _ => trivial)
      (yields_ite (yields_bind _ fun _ => trivial) ?_)
    exact yields_bind _ fun _ => rfl

/-- What a reconciliation leaves behind: the task of the record, before any change. -/
def FrozenTask (status : Status) (result : Except Raised (Option StatusContext)) (w : Site) :
    Prop :=
  match result with
  | .ok (some context) => w.Frozen status ∧ status.branch = some context.branch
  | .ok none => False
  | .error _ => w.Clean

/-- A reconciliation of the found record changes nothing, and leaves its task. -/
theorem safe_found_reconcile (hfile : w.file = .record status)
    (hactive : status.state.active = true)
    (hcommit : completedOf status.finalizationCheckpoint ≠ 0) (hw : w.Frozen status) :
    Safe (siteExec offered) Site.Clean (reconcileStaleRun setting) w (FrozenTask status) := by
  refine safe_bind (safe_site_read rfl hw.clean fun answer htells => ?_)
  cases answer with
  | error e => exact hw.clean
  | ok file =>
  have hsame : file = .record status := htells.trans hfile
  subst hsame
  show Safe _ _ (if !status.state.active then _ else _) w _
  rw [hactive, if_neg (by decide)]
  cases hcontext : status.context with
  | none => exact safe_raise hw.clean hw.clean
  | some context =>
  obtain ⟨-, -, hbranch⟩ := task_of_context hcontext
  have hsteps : Composed (FrozenPart offered status) (reconcileTask setting status context) := by
    refine steps_reconcile_task setting (frozen_allows rfl)
      (fun _ _ _ => frozen_write (keeps_of_context hbranch)) (frozen_allows rfl)
      (allows_notes (frozen_allows rfl) (frozen_allows rfl))
      (fun _ => frozen_write ⟨rfl, rfl, rfl, rfl, .inl rfl⟩) fun hstaged => ?_
    rw [hstaged] at hcommit
    exact absurd rfl hcommit
  refine safe_bind (safe_post (safe_yields yields_reconcile_task (safe_frozen hsteps hw))
    fun result w₁ _ hw₁ => ?_)
  cases result with
  | error e => exact hw₁.1.clean
  | ok recovered =>
      rw [hw₁.2 recovered rfl]
      exact safe_pure hw₁.1.clean ⟨hw₁.1, hbranch⟩

/-- A recovery that resumes from the record of a checkpoint. -/
theorem safe_resume_finalize {title : String} (hbranch : status.branch = some context.branch)
    (hn : completedOf status.finalizationCheckpoint = n) (hzero : n ≠ 0) (hw : w.Frozen status) :
    Safe (siteExec offered) Site.Clean (finalizeChanges setting title context false true) w
      fun _ w' => w'.Clean := by
  obtain ⟨record, hfile, hsame⟩ := hw.record
  have hrecord : completedOf record.finalizationCheckpoint = n := by
    rw [hsame.checkpoint]
    exact hn
  have hend : ∀ {w : Site}, w.restart.Resumed n → w.Clean := fun hw => hw.clean
  unfold finalizeChanges recoveredStatus
  rw [if_pos rfl]
  refine safe_bind (safe_bind (safe_site_read rfl hw.clean fun answer htells => ?_))
  cases answer with
  | error e => exact hw.clean
  | ok file =>
  -- The file still holds the record that was reconciled, so the same checkpoint is read again.
  have hread : file = .record record := htells.trans hfile
  subst hread
  refine safe_pure hw.clean ?_
  show Safe _ _ (validateRecovery setting record.commitSha record.prUrl context.branch
    (completedOf record.finalizationCheckpoint) >>= _) w _
  rw [hrecord]
  refine safe_bind (safe_post (Q := Proves w (w.matchesRecord record = true)) ?_
    fun result w₁ _ hproves => ?_)
  · unfold validateRecovery
    rw [if_neg hzero]
    refine safe_bind (safe_bind (safe_site_read rfl hw.clean fun answer _ => ?_))
    cases answer with
    | error e => exact .of_error rfl
    | ok entries =>
    refine safe_pure hw.clean ?_
    show Safe _ _ (if workingTreePaths entries ≠ [] then _ else _) w _
    split
    · exact safe_raise hw.clean (.of_error rfl)
    · exact safe_prove_checkpoint (hsame.branch.trans hbranch) hrecord hw.clean
  · obtain ⟨rfl, hproof⟩ := hproves
    cases result with
    | error e => exact hw.clean
    | ok _ =>
    have hstage := resumed_stage n
    -- The proof of the checkpoint says that the site has done what the record claims.
    have hresumed : w₁.restart.Resumed n := by
      refine ⟨hw.clean, hw.completed.trans hn, ?_⟩
      rw [hw.matched, ← matches_record_congr hsame]
      exact hproof _ rfl
    refine safe_stage_bind hstage (only_of_steps (steps_run_verification (resumes_allows rfl)
      resumes_writes 1)) (fun _ w₂ hw₂ => ?_) (fun _ _ hw₂ => hend hw₂) hresumed
    refine safe_stage_bind hstage (only_ite (only_of_steps (steps_revalidate_recovery setting
      (resumes_allows rfl) _)) (only_pure _)) (fun _ w₃ hw₃ => ?_) (fun _ _ hw₃ => hend hw₃) hw₂
    exact safe_post (safe_resume_publish hzero hrecord hw₃) fun _ _ _ hw₄ => hend hw₄

/-- A command of an idle kind does not act. -/
theorem idle_call {command : Command} {kind : CommandKind} (hkind : command.kind = some kind)
    (h : kind.idle = true) : Only (fun command => command.acts = false) (call command) :=
  only_call (not_acts_of_idle hkind h)

/-- The kind is allowed for a script that does not act. -/
theorem idle_allows {kind : CommandKind} (h : kind.idle = true) :
    Allows (CommandPart fun command => command.acts = false) kind :=
  fun _ hkind => idle_call hkind h

/-- So is a status. -/
theorem idle_write {state : HandoffState} {update : StatusUpdate} :
    Only (fun command => command.acts = false) (writeStatus state update) :=
  only_bind (only_call rfl) fun _ => only_call rfl

/-- A script that does not act commits no fault. -/
theorem safe_idle {p : Controller α} (hp : Only (fun command => command.acts = false) p)
    (hw : w.Clean) : Safe (siteExec offered) Site.Clean p w fun _ w' => w'.Clean :=
  safe_stage idle_stage hp hw

/-- A recovery from a checkpoint commits no fault. -/
theorem safe_resume_recover (hbranch : status.branch = some context.branch)
    (hcommit : completedOf status.finalizationCheckpoint ≠ 0) (hw : w.Frozen status) :
    Safe (siteExec offered) Site.Clean (recoverChanges setting context) w fun _ w' => w'.Clean := by
  unfold recoverChanges
  refine safe_bind (safe_post
    (safe_frozen (steps_load_recovery_issue setting (frozen_allows rfl)) hw)
    fun result w₁ _ hw₁ => ?_)
  cases result with
  | error e => exact hw₁.clean
  | ok issue =>
  refine safe_bind (safe_post (safe_frozen (steps_comment_once (frozen_allows rfl)
    (frozen_allows rfl) _ _ _) hw₁) fun result w₂ _ hw₂ => ?_)
  cases result with
  | error e => exact hw₂.clean
  | ok _ =>
  refine safe_handle (safe_post (safe_resume_finalize hbranch rfl hcommit hw₂)
    fun result w₃ _ hw₃ => ?_)
  have hpreserve : ∀ e : Raised, Safe (siteExec offered) Site.Clean (do
      writeStatus .recoverableChanges (.of context {})
      fail (.recoverableChangesError e.text) : Controller Unit) w₃ fun _ w' => w'.Clean :=
    fun e => safe_idle (only_bind idle_write fun _ => only_fail _) hw₃
  cases result with
  | ok _ => exact hw₃
  | error e =>
      cases e with
      | keyboardInterrupt => exact safe_raise hw₃ hw₃
      | calledProcessError | jsonDecodeError | runtimeError | valueError | recoverableChangesError
      | activeOrphanError | otherException => exact hpreserve _

/-! ## Runs -/

/-- A restart has found the record of a checkpoint. -/
structure Site.Found (status : Status) (w : Site) : Prop extends w.Frozen status where
  file : w.file = .record status
  active : status.state.active = true
  committed : completedOf status.finalizationCheckpoint ≠ 0

/-- A restart has found no checkpoint, or the record of one. -/
theorem restarted_cases (hw : w.Clean) :
    w.restarted.restart.Loose ∨ ∃ status, w.restarted.Found status := by
  have hclean : w.restarted.Clean :=
    ⟨hw.notRecommitted, hw.notRepushed, hw.notRecreated, hw.notUnproven⟩
  by_cases hzero : w.restarted.restart.completed = 0
  · exact .inl ⟨hclean, hzero⟩
  · cases hfile : w.file with
    | missing | unreadable =>
        refine absurd ?_ hzero
        show completedOf (w.file.activeRecord.bind _) = 0
        rw [hfile]
        rfl
    | record status =>
        have hrecord : w.file.activeRecord = if status.state.active then some status else none := by
          rw [hfile]
          rfl
        cases hactive : status.state.active with
        | false =>
            refine absurd ?_ hzero
            show completedOf (w.file.activeRecord.bind _) = 0
            rw [hrecord, hactive]
            rfl
        | true =>
            rw [hactive, if_pos rfl] at hrecord
            have hcompleted : w.restarted.restart.completed =
                completedOf status.finalizationCheckpoint := by
              show completedOf (w.file.activeRecord.bind _) = _
              rw [hrecord]
              rfl
            have hmatched : w.restarted.restart.matched = w.restarted.matchesRecord status := by
              show w.file.activeRecord.any w.matchesRecord = _
              rw [hrecord]
              rfl
            exact .inr ⟨status, ⟨hclean, hcompleted, hmatched, status, hfile, ⟨rfl, rfl, rfl, rfl⟩⟩,
              hfile, hactive, hcompleted ▸ hzero⟩

/-- Nothing is asked of the commands. -/
theorem only_true (p : Controller α) : Only (fun _ => True) p := by
  induction p with
  | done result => trivial
  | perform command next ih => exact ⟨trivial, ih⟩

/-- Without a checkpoint no script commits a fault. -/
theorem safe_loose (p : Controller α) (hw : w.restart.Loose) :
    Safe (siteExec offered) Site.Clean p w fun _ w' => w'.Clean :=
  safe_post (safe_stage loose_stage (only_true p) hw) fun _ _ _ hw' => hw'.clean

/-- The start of a controller keeps what the restart has found. -/
theorem safe_found_start (hw : w.Found status) :
    Safe (siteExec offered) Site.Clean startController w fun _ w' => w'.Found status := by
  have hcontrol : Only (fun command => command.kind = some .control) startController :=
    only_of_steps (steps_start_controller fun _ hkind => only_call hkind)
  refine safe_of_only hcontrol (fun _ hw => hw.clean)
    (fun command w answer w' hkind hw hexec => ?_) hw
  obtain ⟨rfl, -⟩ := exec_unchanged hkind rfl hexec
  exact ⟨⟨idle_stage.keeps _ _ hw.clean (not_acts_of_idle hkind rfl), hw.completed, hw.matched,
    hw.record⟩, hw.file, hw.active, hw.committed⟩

/-- A recovery and its handlers. -/
theorem safe_found_watch_recovery (hbranch : status.branch = some context.branch)
    (hcommit : completedOf status.finalizationCheckpoint ≠ 0) (hw : w.Frozen status) :
    Safe (siteExec offered) Site.Clean (watchRecovery setting context) w fun _ w' => w'.Clean := by
  refine safe_handle (safe_post (safe_resume_recover hbranch hcommit hw) fun result w₁ _ hw₁ => ?_)
  cases result with
  | ok _ => exact hw₁
  | error e =>
      cases e with
      | keyboardInterrupt =>
          refine safe_idle (only_bind (only_of_steps (steps_recoverable_interruption_error
            (idle_allows rfl) (fun _ => idle_write) _)) fun error => ?_) hw₁
          cases error with
          | none => exact only_fail _
          | some error => exact only_fail _
      | calledProcessError | jsonDecodeError | runtimeError | valueError | recoverableChangesError
      | activeOrphanError | otherException => exact safe_raise hw₁ hw₁

/-- The body of a round commits no fault. -/
theorem safe_found_watch_body (hw : w.Found status) :
    Safe (siteExec offered) Site.Clean (watchBody setting) w fun _ w' => w'.Clean := by
  refine safe_and_then (safe_post
    (safe_found_reconcile hw.file hw.active hw.committed hw.toFrozen)
    fun result w₁ hclean hw₁ => ?_)
  cases result with
  | error e =>
      cases e with
      | activeOrphanError text =>
          exact safe_idle (only_bind (idle_call rfl rfl) fun _ => only_pure _) hclean
      | calledProcessError | jsonDecodeError | runtimeError | valueError | recoverableChangesError
      | otherException | keyboardInterrupt => exact safe_raise hclean hclean
  | ok recovery =>
  cases recovery with
  | none => exact hw₁.elim
  | some context =>
  refine safe_bind (safe_post (safe_found_watch_recovery hw₁.2 hw.committed hw₁.1)
    fun result w₂ _ hw₂ => ?_)
  cases result with
  | ok _ => exact safe_pure hw₂ hw₂
  | error e => exact hw₂

/-- Nor does the handler that stops the watch. -/
theorem safe_idle_stop (e : Raised) (hw : w.Clean) :
    Safe (siteExec offered) Site.Clean (stopWatch e) w fun _ w' => w'.Clean := by
  cases e with
  | keyboardInterrupt => exact safe_idle (only_bind idle_write fun _ => only_pure _) hw
  | calledProcessError | jsonDecodeError | runtimeError | valueError | recoverableChangesError
  | activeOrphanError | otherException => exact safe_raise hw hw

/-- Nor does the round. -/
theorem safe_found_watch_round (hw : w.Found status) :
    Safe (siteExec offered) Site.Clean (watchRound setting) w fun _ w' => w'.Clean := by
  refine safe_watch_round_of_body (safe_handle (safe_post (safe_found_watch_body hw)
    fun result w₁ _ hw₁ => ?_)) (fun _ hw => hw) fun w₁ answer w₂ hw₁ hexec => ?_
  · cases result with
    | ok goesOn => exact hw₁
    | error e => exact safe_idle_stop e hw₁
  · show w₂.restart.Clean
    rw [exec_restart hexec]
    exact idle_stage.keeps _ _ hw₁ rfl

/-- Nor does `run_once`. -/
theorem safe_found_once (hw : w.Found status) :
    Safe (siteExec offered) Site.Clean (runOnceLocked setting) w fun _ w' => w'.Clean := by
  refine safe_bind (safe_post (safe_found_reconcile hw.file hw.active hw.committed hw.toFrozen)
    fun result w₁ hclean hw₁ => ?_)
  cases result with
  | error e => exact hclean
  | ok recovery =>
  cases recovery with
  | none => exact hw₁.elim
  | some context => exact safe_resume_recover hw₁.2 hw.committed hw₁.1

/-- A confirmed task is finalized from its checkpoint. -/
theorem safe_found_confirm_task (hbranch : status.branch = some context.branch)
    (hw : w.Found status) :
    Safe (siteExec offered) Site.Clean (confirmTask setting status context) w
      fun _ w' => w'.Clean := by
  have hread : Allows (FrozenPart offered status) .read := frozen_allows rfl
  have hbind : ∀ {β : Type} {p : Controller β} {f : β → Controller Unit} {w : Site},
      Composed (FrozenPart offered status) p → w.Frozen status →
      (∀ b w', w'.Frozen status → Safe (siteExec offered) Site.Clean (f b) w'
        fun _ w' => w'.Clean) →
      Safe (siteExec offered) Site.Clean (p >>= f) w fun _ w' => w'.Clean := by
    intro β p f w hp hw hf
    refine safe_bind (safe_post (safe_frozen hp hw) fun result w' _ hw' => ?_)
    cases result with
    | ok b => exact hf b w' hw'
    | error e => exact hw'.clean
  unfold confirmTask
  refine hbind (steps_load_recovery_issue setting hread) hw.toFrozen fun _ w₁ hw₁ => ?_
  refine hbind (steps_confirm_stopped_child hread status) hw₁ fun _ w₂ hw₂ => ?_
  refine hbind (steps_confirm_checkout hread status) hw₂ fun _ w₃ hw₃ => ?_
  refine hbind (steps_captured_recovery_scope setting hread) hw₃ fun scope w₄ hw₄ => ?_
  show Safe _ _ (if scope.1 = none ∨ scope.2 = some "" then _ else _) w₄ _
  split
  · exact safe_raise hw₄.clean hw₄.clean
  · exact hbind (steps_write (frozen_write ⟨rfl, rfl, rfl, rfl, .inr hbranch.symm⟩)) hw₄
      fun _ w₅ hw₅ => safe_resume_recover hbranch hw.committed hw₅

/-- `confirm_recovery` commits no fault. -/
theorem safe_found_confirm (hw : w.Found status) :
    Safe (siteExec offered) Site.Clean (confirmRecordedTask setting) w fun _ w' => w'.Clean := by
  refine safe_bind (safe_site_read rfl hw.clean fun answer htells => ?_)
  cases answer with
  | error e => exact hw.clean
  | ok file =>
  have hsame : file = .record status := htells.trans hw.file
  subst hsame
  show Safe _ _ (if status.state ≠ .recoveryConfirmationRequired then _ else _) w _
  split
  · exact safe_raise hw.clean hw.clean
  · cases hcontext : status.context with
    | none => exact safe_raise hw.clean hw.clean
    | some context => exact safe_found_confirm_task (task_of_context hcontext).2.2 hw

/-- Every entry of the controller resumes without a fault. -/
theorem safe_resume_script (entry : HandoffEntry) (hw : w.Clean) :
    Safe (siteExec offered) Site.Clean (handoffScript setting entry) w.restarted
      fun _ w' => w'.Clean := by
  obtain hloose | ⟨status, hfound⟩ := restarted_cases hw
  · exact safe_loose _ hloose
  · have hlocked : ∀ {p : Controller Unit} {w : Site},
        Safe (siteExec offered) Site.Clean p w (fun _ w' => w'.Clean) →
        Safe (siteExec offered) Site.Clean (do
          p.finally_ (call .releaseLock)
          pure none : Controller (Option HandoffEntry)) w fun _ w' => w'.Clean := by
      intro p w hp
      refine safe_bind (safe_finally (safe_post hp fun result w₁ _ hw₁ => ?_))
      refine safe_post (safe_idle (idle_call rfl rfl) hw₁) fun released w₂ _ hw₂ => ?_
      cases released with
      | error e => exact hw₂
      | ok _ =>
          cases result with
          | ok _ => exact safe_pure hw₂ hw₂
          | error e => exact hw₂
    have hstarted : ∀ {f : Unit → Controller (Option HandoffEntry)},
        (∀ w : Site, w.Found status →
          Safe (siteExec offered) Site.Clean (f ()) w fun _ w' => w'.Clean) →
        Safe (siteExec offered) Site.Clean (startController >>= f) w.restarted
          fun _ w' => w'.Clean := by
      intro f hf
      refine safe_bind (safe_post (safe_found_start hfound) fun result w₁ _ hw₁ => ?_)
      cases result with
      | error e => exact hw₁.clean
      | ok _ => exact hf w₁ hw₁
    cases entry with
    | once => exact hstarted fun w₁ hw₁ => hlocked (safe_found_once hw₁)
    | watch => exact hstarted fun w₁ hw₁ => safe_found_watch_round hw₁
    | watching => exact safe_found_watch_round hfound
    | confirm => exact hstarted fun w₁ hw₁ => hlocked (safe_found_confirm hw₁)

/-- Others may change the status file, Git and GitHub between two runs. -/
def Site.Changes (w w' : Site) : Prop := w'.restart = w.restart

/-- In every run, with any crashes and exceptions: a restart that finds an active record at
`COMMITTED` or later makes no commit before a fix round of its own, one that finds it at `PUSHED` or
later does not push before that either, and one that finds it at `PR_CREATED` creates no pull
request. Where HEAD, the head of the remote branch or the draft pull request is not that of the
checkpoint, the restart runs no verification and changes neither Git nor a pull request. -/
theorem finalization_resumes (setting : Setting) (offered : Issue → Prop) (file : StatusFile)
    (head : String) (remote : String → Option String) (prs : List PullRequest)
    (isOpen : Int → Bool) {s : ScriptService.Running Command Answer Raised HandoffEntry Site}
    (hrun : (controller setting (siteSurroundings offered Site.Changes)).Reaches
      (.start file head remote prs isOpen) s) :
    s.1.restart.recommitted = false ∧ s.1.restart.repushed = false ∧
      s.1.restart.recreated = false ∧ s.1.restart.unproven = false := by
  have hinvariant : s.1.Clean := by
    refine ScriptService.invariant_of_reaches (I := Site.Clean) (J := Site.Clean) ?_ ?_ ?_ ?_
      ⟨rfl, rfl, rfl, rfl⟩ hrun
    · exact fun entry w hw => safe_resume_script entry hw
    · exact fun w hw _ => hw
    · intro w w' hw hchanges
      show w'.restart.Clean
      rw [show w'.restart = w.restart from hchanges]
      exact hw
    · exact fun w hw => hw
  exact ⟨hinvariant.notRecommitted, hinvariant.notRepushed, hinvariant.notRecreated,
    hinvariant.notUnproven⟩

/-- The child has changed the working tree, and the changes are not committed. -/
def StatusFile.dirty : StatusFile → Bool
  | .record status =>
      status.state == .implementing || (status.state == .verifying && !status.hasCommit)
  | _ => false

/-- The metadata of a pull request. -/
def Site.view (w : Site) (pr : PullRequest) : PrMetadata where
  number := some 8
  url := some pr.url
  state := some (if pr.isOpen then "OPEN" else "MERGED")
  isDraft := some pr.isDraft
  mergeable := some "MERGEABLE"
  baseRefName := some pr.base
  headRefName := some pr.branch
  headRefOid := w.remote pr.branch
  reviewDecision := some ""
  labels := some [some reviewedLabel]

/-- The answers of Git and GitHub to a finalization of issue 7. -/
def siteAnswer (w : Site) : (c : Command) → Except Raised (Answer c)
  | .readStatus => .ok w.file
  | .gitHead => .ok w.head
  | .gitStatus => .ok (if w.file.dirty then [⟨" M", "README.md", none⟩] else [])
  | .gitLsRemote branch =>
      .ok ((w.remote branch).toList.map fun sha => [sha, "refs/heads/" ++ branch])
  | .ghReadyIssues =>
      .ok (if w.isOpen 7 then [⟨7, "task", some sampleBody, some "rajeshkamalwar"⟩] else [])
  | .ghIssueView number => .ok (some ⟨some number, some "task", some sampleBody,
      some "rajeshkamalwar", some (if w.isOpen number then "OPEN" else "CLOSED")⟩)
  | .ghPrList branch => .ok (some ((w.prs.filter fun pr => pr.isOpen && pr.branch == branch).map
      fun pr => ⟨some pr.url, some pr.isDraft⟩))
  | .ghPrView url => .ok ((w.prs.find? fun pr => pr.url == url).map w.view)
  | c => sampleAnswer c

/-- The effect of a command of issue 7. -/
def siteEffect (w : Site) : Command → Site
  | .writeStatus status => { w with file := .record status }
  | .gitCommit _ => { w with head := "6b1f0c2" }
  | .gitCheckoutMain | .gitPullMain | .gitCheckoutNew _ => { w with head := "a9d3e41" }
  | .gitPush => w.pushed "codex/issue-7-task" w.head
  | .gitPushUpstream branch => w.pushed branch w.head
  | .ghPrCreate branch _ body =>
      if w.remote branch = none then w
      else w.opened "https://github.com/rajeshkamalwar/Growth-OS/pull/8" branch body
  | .ghPrReady url => w.readied url
  | .ghPrMerge url _ => w.merged url
  | _ => w

/-- An answer, and the world after it. -/
def siteRespond (c : Command) (w : Site) : Except Raised (Answer c) × Site :=
  let v := siteEffect w c
  let answer : Except Raised (Answer c) := match c with
    | .ghPrCreate branch title body =>
        if w.remote branch = none then .error (.calledProcessError "gh pr create failed")
        else sampleAnswer (.ghPrCreate branch title body)
    | c => siteAnswer v c
  (answer, { v with restart := v.restart.noted c })

/-- What GitHub shows of a pull request describes it. -/
theorem describes_view (w : Site) (pr : PullRequest) :
    (w.view pr).Describes pr (w.remote pr.branch) := by
  refine ⟨fun hopen => ?_, fun hdraft => Option.some.inj hdraft,
    fun _ hbase => Option.some.inj hbase, fun _ hbranch => Option.some.inj hbranch,
    fun _ hsha => hsha⟩
  cases h : pr.isOpen with
  | true => rfl
  | false =>
      have hstate : some (if pr.isOpen then "OPEN" else "MERGED") = some "OPEN" := hopen
      rw [h] at hstate
      simp at hstate

/-- The sample answers tell the truth about the site. -/
theorem site_answer_tells {offered : Issue → Prop}
    (hoffered : offered ⟨7, "task", some sampleBody, some "rajeshkamalwar"⟩)
    (c : Command) (w : Site) :
    w.tells offered c (siteAnswer w c) := by
  cases c with
  | readStatus | gitHead => rfl
  | gitLsRemote branch =>
      show ((w.remote branch).toList.map _ = [] → _) ∧ ∀ sha, (w.remote branch).toList.map _ = _ → _
      cases w.remote branch with
      | none => exact ⟨fun _ => rfl, fun sha h => (nomatch h)⟩
      | some head =>
          refine ⟨fun h => (nomatch h), fun sha h => ?_⟩
          simp only [Option.toList_some, List.map_cons, List.map_nil, List.cons.injEq,
            and_true] at h
          rw [h]
  | ghReadyIssues =>
      show ∀ issue ∈ (if w.isOpen 7 then _ else []), _
      split
      · rename_i hopen
        intro issue hissue
        obtain rfl := List.mem_singleton.mp hissue
        exact ⟨hoffered, hopen⟩
      · exact fun issue hissue => (nomatch hissue)
  | ghIssueView number =>
      show some (if w.isOpen number then "OPEN" else "CLOSED") = some "OPEN" → _
      split
      · rename_i hopen
        exact fun _ => hopen
      · intro h
        simp at h
  | ghPrList branch =>
      intro hnil pr hmem hbranch
      cases hopen : pr.isOpen with
      | false => rfl
      | true =>
          have hlisted : pr ∈ w.prs.filter fun pr => pr.isOpen && pr.branch == branch :=
            List.mem_filter.mpr ⟨hmem, by simp [hopen, hbranch]⟩
          have hnone : (w.prs.filter fun pr => pr.isOpen && pr.branch == branch) = [] :=
            List.map_eq_nil_iff.mp hnil
          rw [hnone] at hlisted
          cases hlisted
  | ghPrView url =>
      have hfound : ∀ found, w.prs.find? (fun pr => pr.url == url) = found →
          w.tells offered (.ghPrView url) (.ok (found.map w.view)) := by
        intro found hfind
        cases found with
        | none => exact trivial
        | some pr =>
            exact ⟨pr, List.mem_of_find?_eq_some hfind, by simpa using List.find?_some hfind,
              describes_view w pr⟩
      exact hfound _ rfl
  | _ => exact trivial

/-- The sample responses are what commands do. -/
theorem site_respond {offered : Issue → Prop}
    (hoffered : offered ⟨7, "task", some sampleBody, some "rajeshkamalwar"⟩)
    (c : Command) (w : Site) :
    siteExec offered c w (siteRespond c w).1 (siteRespond c w).2 := by
  refine ⟨siteEffect w c, ?_, ?_, rfl⟩
  · cases c with
    | ghPrCreate branch title body =>
        cases hremote : w.remote branch with
        | none => exact .inr ⟨if_pos hremote, _, if_pos hremote⟩
        | some sha =>
            have hsome : w.remote branch ≠ none := by
              rw [hremote]
              exact Option.some_ne_none sha
            exact .inl ⟨_, hsome, if_neg hsome⟩
    | gitCommit | gitCheckoutMain | gitPullMain | gitCheckoutNew | gitPushUpstream =>
        exact .inl ⟨_, rfl⟩
    | gitPush => exact .inl ⟨_, _, rfl⟩
    | ghPrMerge url sha => exact .inl ⟨w.remote, fun _ _ => rfl, rfl⟩
    | _ => exact .inl rfl
  · cases c with
    | ghPrCreate branch title body => exact trivial
    | _ => exact site_answer_tells hoffered _ _

/-- The record of issue 7 with its draft pull request. -/
def resumedRecord : Status :=
  (StatusUpdate.of windowTask
    { prUrl := some "https://github.com/rajeshkamalwar/Growth-OS/pull/8"
      finalizationCheckpoint := some .prCreated
      commitSha := some "6b1f0c2" }).payload .prCreated none

/-- The draft pull request of issue 7. -/
def resumedPr : PullRequest where
  url := "https://github.com/rajeshkamalwar/Growth-OS/pull/8"
  branch := "codex/issue-7-task"
  body := prBody 7
  isOpen := true
  isDraft := true
  base := "main"

/-- The theorem on a restart that resumes from `PR_CREATED` up to its blocked merge. -/
theorem finalization_resumes_sample :
    ∃ s, (controller windowSetting (siteSurroundings (fun _ => True) Site.Changes)).Reaches
        (.start (.record resumedRecord) "6b1f0c2" (fun _ => some "6b1f0c2") [resumedPr]
          fun _ => true) s ∧
      s.1.restart.found = some resumedRecord ∧ s.1.file.hasState .mergeBlocked = true ∧
      s.1.restart.recommitted = false ∧ s.1.restart.repushed = false ∧
      s.1.restart.recreated = false ∧ s.1.restart.unproven = false := by
  have hstart : (controller windowSetting (siteSurroundings (fun _ => True) Site.Changes)).Reaches
      (.start (.record resumedRecord) "6b1f0c2" (fun _ => some "6b1f0c2") [resumedPr] fun _ => true)
      (.start (.record resumedRecord) "6b1f0c2" (fun _ => some "6b1f0c2") [resumedPr] fun _ => true,
        none) := .refl
  have hrun := @ScriptService.reaches_play _ _ _ _ _
    (controller windowSetting (siteSurroundings (fun _ => True) Site.Changes)) siteRespond
    (fun _ => false) _ _ (site_respond trivial) hstart .once
  refine ⟨_, hrun, ?_, ?_, finalization_resumes windowSetting (fun _ => True) _ _ _ _ _ hrun⟩
  · decide +kernel
  · decide +kernel

end GrowthOs.Handoff
