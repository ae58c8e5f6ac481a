import GrowthOs.Handoff.Resume

/-!
# Audit comments

`comment_once` announces an event of a task with a marker, and looks for the marker first. Whatever
crashes and exceptions the runs of the controller meet, each event is announced at most once for
each issue: `audit_comments_once`. The other comments of the controller do not end in a marker.
-/

namespace GrowthOs.Handoff

open Library

/-- The marker of an event. -/
def auditMarker (event : String) : String := "<!-- growth-os-codex-handoff:" ++ event ++ " -->"

/-- The comment announces the event of the issue. -/
def announces (number : Int) (event : String) (comment : Int × String) : Bool :=
  comment.1 == number && decide ((auditMarker event).toList <:+ comment.2.toList)

/-- A marker opens with its only `<`. -/
theorem audit_marker_eq {event : String} (h : auditEvent event = true) :
    ∃ rest : List Char, (auditMarker event).toList = '<' :: rest ∧ '<' ∉ rest := by
  refine ⟨"!-- growth-os-codex-handoff:".toList ++ event.toList ++ " -->".toList, ?_, ?_⟩
  · have hopen : "<!-- growth-os-codex-handoff:".toList =
        '<' :: "!-- growth-os-codex-handoff:".toList := by decide
    unfold auditMarker
    rw [String.toList_append, String.toList_append, hopen, List.cons_append, List.cons_append]
  · intro hmem
    rw [List.mem_append, List.mem_append] at hmem
    obtain (hmem | hmem) | hmem := hmem
    · exact absurd hmem (by decide)
    · unfold auditEvent at h
      rw [Bool.and_eq_true, List.all_eq_true] at h
      have hallowed := h.2 _ hmem
      exact absurd hallowed (by decide)
    · exact absurd hmem (by decide)

/-- A text ends in the marker of at most one event. -/
theorem event_of_suffix {first second : String} {text : List Char}
    (hfirst : auditEvent first = true) (hsecond : auditEvent second = true)
    (hends : (auditMarker first).toList <:+ text) (hends' : (auditMarker second).toList <:+ text) :
    first = second := by
  have hsame : ∀ {a b : String}, auditEvent a = true → auditEvent b = true →
      (auditMarker a).toList <:+ (auditMarker b).toList → a = b := by
    intro a b ha hb hsuffix
    obtain ⟨rest, hrest, -⟩ := audit_marker_eq ha
    obtain ⟨rest', hrest', hnone⟩ := audit_marker_eq hb
    obtain ⟨before, hbefore⟩ := hsuffix
    rw [hrest, hrest'] at hbefore
    cases before with
    | nil =>
        have hmarker : (auditMarker a).toList = (auditMarker b).toList := by
          rw [hrest, hrest']
          exact hbefore
        unfold auditMarker at hmarker
        rw [String.toList_append, String.toList_append, String.toList_append, String.toList_append,
          List.append_cancel_right_eq, List.append_cancel_left_eq] at hmarker
        exact String.toList_inj.mp hmarker
    | cons c before =>
        rw [List.cons_append, List.cons.injEq] at hbefore
        exact absurd (hbefore.2 ▸ List.mem_append_right before List.mem_cons_self) hnone
  cases List.suffix_or_suffix_of_suffix hends hends' with
  | inl h => exact hsame hfirst hsecond h
  | inr h => exact (hsame hsecond hfirst h).symm

/-- A plain comment announces nothing. -/
theorem plain_announces {number : Int} {event text : String} {issue : Int} (h : PlainComment text) :
    announces number event (issue, text) = false := by
  refine Bool.eq_false_iff.mpr fun hannounces => h ?_
  unfold announces at hannounces
  rw [Bool.and_eq_true, decide_eq_true_eq] at hannounces
  obtain ⟨before, hbefore⟩ := hannounces.2
  have hlast : (auditMarker event).toList = ("<!-- growth-os-codex-handoff:" ++ event ++
      " --").toList ++
      ['>'] := by
    have hclose : " -->".toList = " --".toList ++ ['>'] := by decide
    unfold auditMarker
    rw [String.toList_append, String.toList_append, hclose, String.toList_append,
      String.toList_append, List.append_assoc, List.append_assoc, List.append_assoc]
  have htext : text.toList = (before ++
      ("<!-- growth-os-codex-handoff:" ++ event ++ " --").toList) ++
      ['>'] := by
    rw [List.append_assoc, ← hlast]
    exact hbefore.symm
  rw [htext, List.getLast?_append_of_ne_nil _ (by simp), List.getLast?_singleton]

/-! ## Comments -/

/-- The comments that the controller has posted, with their issues. Nobody deletes one. -/
def auditExec : Exec Answer Raised (List (Int × String))
  | .ghIssueComment number text, posted, answer, posted' =>
      posted' = (number, text) :: posted ∨ (posted' = posted ∧ ∃ e, answer = .error e)
  | .ghIssueComments number, posted, answer, posted' => posted' = posted ∧
      ∀ bodies, answer = .ok (some bodies) → ∀ text, (number, text) ∈ posted → text ∈ bodies
  | _, posted, _, posted' => posted' = posted

/-- The surroundings of the comments. -/
def auditSurroundings : Surroundings (List (Int × String)) where
  exec := auditExec
  opening _ posted := posted
  drift := Eq
  mayCrash _ := True

/-- Every event has been announced at most once. -/
def AnnouncedOnce (posted : List (Int × String)) : Prop :=
  ∀ (number : Int) (event : String), auditEvent event = true →
    posted.countP (announces number event) ≤ 1

variable {posted posted' : List (Int × String)} {setting : Setting} {α : Type}

/-- A plain comment announces nothing. -/
theorem AnnouncedOnce.plain {number : Int} {text : String} (h : AnnouncedOnce posted)
    (hplain : PlainComment text) : AnnouncedOnce ((number, text) :: posted) := by
  intro issue event hevent
  rw [List.countP_cons, plain_announces hplain]
  exact h issue event hevent

/-- An event that no comment of the issue announces. -/
theorem AnnouncedOnce.announced {number : Int} {event text : String} (h : AnnouncedOnce posted)
    (hevent : auditEvent event = true)
    (hnone : ∀ body, (number, body) ∈ posted → hasMarker (auditMarker event) body = false) :
    AnnouncedOnce ((number, text ++ auditMarker event) :: posted) := by
  intro issue other hother
  rw [List.countP_cons]
  split
  · rename_i hannounces
    unfold announces at hannounces
    rw [Bool.and_eq_true, beq_iff_eq, decide_eq_true_eq] at hannounces
    obtain ⟨rfl, hends⟩ := hannounces
    have hown : (auditMarker event).toList <:+ (text ++ auditMarker event).toList := by
      rw [String.toList_append]
      exact List.suffix_append _ _
    obtain rfl := event_of_suffix hother hevent hends hown
    have hzero : posted.countP (announces number other) = 0 := by
      refine List.countP_eq_zero.mpr fun comment hmem hannounces => ?_
      unfold announces at hannounces
      rw [Bool.and_eq_true, beq_iff_eq, decide_eq_true_eq] at hannounces
      obtain ⟨hnumber, hends⟩ := hannounces
      have hmissing := hnone comment.2 (hnumber ▸ hmem)
      unfold hasMarker at hmissing
      exact absurd hends.isInfix (of_decide_eq_false hmissing)
    rw [hzero]
  · exact h issue other hother

/-- The scripts that announce every event at most once. -/
abbrev AuditPart (γ : Type) (p : Controller γ) : Prop :=
  ∀ posted, AnnouncedOnce posted →
    Safe auditExec AnnouncedOnce p posted fun _ posted' => AnnouncedOnce posted'

/-- The command posts no comment. -/
def Command.silent : Command → Bool
  | .ghIssueComment _ _ => false
  | _ => true

/-- A silent command posts nothing. -/
theorem audit_silent {command : Command} (h : command.silent = true) :
    AuditPart (Answer command) (call command) := by
  intro posted hposted
  refine safe_issue hposted fun answer posted' hexec => ?_
  have hsame : posted' = posted := by
    cases command with
    | ghIssueComment number text => cases h
    | ghIssueComments number => exact hexec.1
    | _ => exact hexec
  subst hsame
  exact ⟨hposted, hposted⟩

/-- The kinds without notes are allowed. -/
theorem audit_allows {kind : CommandKind} (h : kind ≠ .note) : Allows AuditPart kind := by
  intro command hkind
  refine audit_silent ?_
  cases command with
  | ghIssueComment number text =>
      cases hkind
      exact absurd rfl h
  | _ => rfl

/-- So is a status. -/
theorem audit_write (state : HandoffState) (update : StatusUpdate) :
    AuditPart Unit (writeStatus state update) := by
  intro posted hposted
  refine safe_bind (safe_post (audit_silent rfl posted hposted) fun result posted' _ hposted' => ?_)
  cases result with
  | error e => exact hposted'
  | ok file => exact audit_silent rfl posted' hposted'

/-- `comment_once` announces its event unless a comment has announced it. -/
theorem audit_comment_once (number : Int) {event : String} (text : String)
    (hevent : auditEvent event = true) : AuditPart Unit (commentOnce number event text) := by
  intro posted hposted
  unfold commentOnce
  refine safe_bind (safe_issue hposted fun answer posted' hexec => ?_)
  obtain ⟨rfl, hbodies⟩ := hexec
  refine ⟨hposted, ?_⟩
  cases answer with
  | error e => exact hposted
  | ok comments =>
  cases comments with
  | none => exact safe_raise hposted hposted
  | some bodies =>
  show Safe _ _ (if bodies.any (hasMarker (auditMarker event)) then _ else _) _ _
  split
  · exact safe_pure hposted hposted
  · rename_i hfound
    have hnone : ∀ body, (number, body) ∈ posted' → hasMarker (auditMarker event) body = false := by
      intro body hmem
      have hbody := List.any_eq_false.mp (Bool.eq_false_iff.mpr hfound) body
        (hbodies bodies rfl body hmem)
      exact Bool.eq_false_iff.mpr hbody
    refine safe_issue hposted fun answer posted'' hexec => ?_
    have hposted'' : AnnouncedOnce posted'' := by
      cases hexec with
      | inl hcomment =>
          rw [hcomment]
          show AnnouncedOnce ((number, text ++ "\n\n" ++ auditMarker event) :: posted')
          exact hposted.announced hevent hnone
      | inr hnothing =>
          rw [hnothing.1]
          exact hposted
    exact ⟨hposted'', hposted''⟩

/-- So are notes, whose events are announced once. -/
theorem audit_notes : AllowsNotes AuditPart where
  addLabel _ _ _ := audit_silent rfl
  removeLabel _ _ := audit_silent rfl
  commentOnce number _ text hevent := .part (audit_comment_once number text hevent)
  comment number text hplain := by
    intro posted hposted
    refine safe_issue hposted fun answer posted' hexec => ?_
    have hposted' : AnnouncedOnce posted' := by
      cases hexec with
      | inl hcomment =>
          rw [hcomment]
          exact hposted.plain hplain
      | inr hnothing =>
          rw [hnothing.1]
          exact hposted
    exact ⟨hposted', hposted'⟩

/-- The parts of the controller announce every event at most once. -/
theorem audit_service_steps (setting : Setting) : ServiceSteps AuditPart setting where
  control := audit_allows (by decide)
  select := audit_allows (by decide)
  branch := audit_allows (by decide)
  read := audit_allows (by decide)
  child := audit_allows (by decide)
  note := audit_notes
  write := audit_write
  task context _ :=
    { read := audit_allows (by decide)
      children :=
        steps_run_codex_stream setting (audit_allows (by decide)) (audit_allows (by decide))
          fun _ _ _ => audit_write _ _
      verify := audit_allows (by decide)
      stage := audit_allows (by decide)
      push := audit_allows (by decide)
      openPr := audit_allows (by decide)
      editPr := audit_allows (by decide)
      note := audit_notes
      write := fun _ _ _ _ => audit_write _ _
      merge := fun _ => ⟨audit_allows (by decide), fun _ _ _ => audit_write _ _⟩ }

/-- In every run, with any crashes and exceptions, and whatever the status file, Git and GitHub
tell: the controller announces each event at most once for each issue. -/
theorem audit_comments_once (setting : Setting)
    {s : ScriptService.Running Command Answer Raised HandoffEntry (List (Int × String))}
    (hrun : (controller setting auditSurroundings).Reaches [] s) (number : Int) {event : String}
    (hevent : auditEvent event = true) : s.1.countP (announces number event) ≤ 1 := by
  have hinvariant : AnnouncedOnce s.1 := by
    refine ScriptService.invariant_of_reaches (I := AnnouncedOnce) (J := AnnouncedOnce) ?_ ?_ ?_ ?_
      (fun _ _ _ => Nat.zero_le _) hrun
    · exact fun entry posted hposted =>
        safe_composed (steps_handoff_script setting (audit_service_steps setting) entry)
          (fun _ h => h) (fun hpart h => hpart _ h) hposted
    · exact fun posted hposted _ => hposted
    · rintro posted _ hposted rfl
      exact hposted
    · exact fun posted hposted => hposted
  exact hinvariant number event hevent

/-- The answers to the task of issue 7, by the comments that it has posted. -/
def auditAnswer (posted : List (Int × String)) : (c : Command) → Except Raised (Answer c)
  | .readStatus => .ok (if posted.length < 2 then .missing else .record resumedRecord)
  | .gitStatus => .ok (if posted.length = 1 then [⟨" M", "README.md", none⟩] else [])
  | .gitLsRemote branch =>
      .ok (if posted.length < 2 then [] else [["6b1f0c2", "refs/heads/" ++ branch]])
  | .ghIssueComments number =>
      .ok (some ((posted.filter fun comment => comment.1 == number).map (·.2)))
  | .ghPrList _ =>
      .ok (some [⟨some "https://github.com/rajeshkamalwar/Growth-OS/pull/8", some true⟩])
  | .ghPrView url => .ok (some
      { number := some 8
        url := some url
        state := some "OPEN"
        isDraft := some true
        mergeable := some "MERGEABLE"
        baseRefName := some "main"
        headRefName := some "codex/issue-7-task"
        headRefOid := some "6b1f0c2"
        reviewDecision := some ""
        labels := some [] })
  | c => sampleAnswer c

/-- An answer, and the comments after it. -/
def auditRespond (c : Command) (posted : List (Int × String)) :
    Except Raised (Answer c) × List (Int × String) :=
  (auditAnswer posted c, match c with
    | .ghIssueComment number text => (number, text) :: posted
    | _ => posted)

/-- The sample answers are what commands do. -/
theorem audit_respond (c : Command) (posted : List (Int × String)) :
    auditExec c posted (auditRespond c posted).1 (auditRespond c posted).2 := by
  cases c with
  | ghIssueComment number text => exact .inl rfl
  | ghIssueComments number =>
      refine ⟨rfl, fun bodies hbodies text hmem => ?_⟩
      cases hbodies
      exact List.mem_map.mpr ⟨_, List.mem_filter.mpr ⟨hmem, beq_self_eq_true number⟩, rfl⟩
  | _ => exact rfl

/-- The theorem on a run that crashes once it has announced its pull request, and a run after it
that recovers the task. -/
theorem audit_comments_once_sample :
    ∃ s, (controller windowSetting auditSurroundings).Reaches [] s ∧
      (["recovery-started", "auto-merge-stopped", "draft-pr-opened"].all fun event =>
        s.1.any (announces 7 event)) = true ∧
      s.1.countP (announces 7 "draft-pr-opened") ≤ 1 := by
  have hstart : (controller windowSetting auditSurroundings).Reaches [] ([], none) := .refl
  have hannounced := @ScriptService.reaches_play _ _ _ _ _
    (controller windowSetting auditSurroundings)
    auditRespond (fun posted => decide (2 ≤ posted.length)) _ _ audit_respond hstart .once
  have hcrashed := Relation.ReflTransGen.tail hannounced (.crash trivial)
  have hrecovered := @ScriptService.reaches_play _ _ _ _ _
    (controller windowSetting auditSurroundings)
    auditRespond (fun _ => false) _ _ audit_respond hcrashed .once
  refine ⟨_, hrecovered, ?_, audit_comments_once windowSetting hrecovered 7 (by decide)⟩
  decide +kernel

end GrowthOs.Handoff
