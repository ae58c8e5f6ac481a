import GrowthOs.Handoff.Quiet
import GrowthOs.Library.Histories

/-!
# The merge guard

What a `gh pr merge` rests on, for any answers of GitHub, Git and the children: the history before
the command authorizes it. `MergeRule` states the guard, `safe_merge_reviewed_pr` what
`merge_reviewed_pr` makes sure of.
-/

namespace GrowthOs.Handoff

open Library

/-- A history of the controller. -/
abbrev Journal : Type := History Answer Raised HandoffEntry

/-- The command is `gh pr merge`. -/
def Command.Merges : Command → Prop
  | .ghPrMerge _ _ => True
  | _ => False

/-- The command fetches an issue. -/
def Command.ReadsIssue : Command → Prop
  | .ghIssueView _ => True
  | _ => False

/-- The command fetches the metadata of a pull request. -/
def Command.ReadsPr : Command → Prop
  | .ghPrView _ => True
  | _ => False

/-- The command fetches review threads. -/
def Command.ReadsThreads : Command → Prop
  | .ghReviewThreads _ => True
  | _ => False

/-- The command lists the changed paths of the branch. -/
def Command.ReadsDiff : Command → Prop
  | .gitDiffNames => True
  | _ => False

/-- The command resolves HEAD. -/
def Command.ReadsHead : Command → Prop
  | .gitHead => True
  | _ => False

/-- The command fetches the outcome of a merge. -/
def Command.ReadsMergeStatus : Command → Prop
  | .ghMergeStatus _ => True
  | _ => False

/-- The command is part of a review round: the result of the reviewer, a child, or a commit. -/
def Command.Reviews : Command → Prop
  | .loadReviewResult | .spawn _ | .gitCommit _ => True
  | _ => False

/-- A command that neither merges nor records a merge. -/
def Command.NoMerge : Command → Prop
  | .ghPrMerge _ _ => False
  | .writeStatus status => status.state ≠ .merged
  | _ => True

/-- A command between the diff of the branch and its merge. -/
def Command.Evaluates : Command → Prop
  | .ghIssueView _ | .ghPrView _ | .ghReviewThreads _ | .ghPrReady _ | .readStatus => True
  | .writeStatus status => status.state = .merging
  | _ => False

/-- A command between a passed review and the resolution of the reviewed HEAD. -/
def Command.MarksReview : Command → Prop
  | .ghPrAddLabel _ _ | .readStatus | .ghIssueComments _ | .ghIssueComment _ _
  | .ghAddLabel _ _ => True
  | .writeStatus status => status.state = .reviewPassed
  | _ => False

/-- A quiet command is no merge. -/
theorem quiet_no_merge (c : Command) (h : c.Quiet) : c.NoMerge := by
  cases c with
  | ghPrMerge _ _ => exact h
  | writeStatus status =>
      show status.state ≠ .merged
      intro hmerged
      have hquiet : status.state.quiet = true := h
      rw [hmerged] at hquiet
      cases hquiet
  | _ => trivial

/-- Nor is one that evaluates it. -/
theorem evaluates_no_merge (c : Command) (h : c.Evaluates) : c.NoMerge := by
  cases c with
  | writeStatus status =>
      show status.state ≠ .merged
      have hmerging : status.state = .merging := h
      rw [hmerging]
      intro heq
      cases heq
  | _ => first | exact h.elim | trivial

/-- Nor is one that marks the review. -/
theorem marks_review_no_merge (c : Command) (h : c.MarksReview) : c.NoMerge := by
  cases c with
  | writeStatus status =>
      show status.state ≠ .merged
      have hpassed : status.state = .reviewPassed := h
      rw [hpassed]
      intro heq
      cases heq
  | _ => first | exact h.elim | trivial

/-- The reviewer passed the work in the last review round, and then HEAD was resolved. -/
def ReviewedHead (head : String) (h : Journal) : Prop :=
  ∃ later earlier, h = later ++ .answered .gitHead (.ok head) :: earlier ∧
    Within (fun c : Command => ¬ c.ReadsHead ∧ ¬ c.Reviews) later ∧
    LastAnswer Command.Reviews .loadReviewResult (.ok .pass) earlier

/-- A run of `process_issue` for an issue and its branch that has not merged yet. -/
def InTask (number : Int) (branch : String) (h : Journal) : Prop :=
  (∀ c ∈ round h, ¬ c.Merges) ∧
    ∃ status, Command.writeStatus status ∈ round h ∧ status.state = .syncing ∧
      status.issue = some number ∧ status.branch = some branch

/-- What the last fetches before a merge returned. -/
structure MergeEvidence where
  names : List String
  issue : IssuePayload
  body : String
  metadata : PrMetadata
  prNumber : Int
  threads : ReviewThreads

/-- The last fetches before a merge permit it. -/
structure MergeEvidence.Permits (evidence : MergeEvidence) (setting : Setting) (number : Int)
    (branch url head : String) (h : Journal) : Prop where
  changedPaths : LastAnswer Command.ReadsDiff .gitDiffNames (.ok evidence.names) h
  issueView : LastAnswer Command.ReadsIssue (.ghIssueView number) (.ok (some evidence.issue)) h
  issueNumber : evidence.issue.number = some number
  issueOpen : evidence.issue.state = some "OPEN"
  issueAuthor : evidence.issue.login.map setting.lower = some (setting.lower setting.owner)
  issueBody : evidence.issue.body = some evidence.body
  policy : autoMergePolicyReasons setting evidence.body (evidence.names.filter (· ≠ "")) = []
  prView : LastAnswer Command.ReadsPr (.ghPrView url) (.ok (some evidence.metadata)) h
  prOpen : evidence.metadata.state = some "OPEN"
  prReady : evidence.metadata.isDraft = some false
  prBase : evidence.metadata.baseRefName = some "main"
  prBranch : evidence.metadata.headRefName = some branch
  prHead : evidence.metadata.headRefOid = some head
  prMergeable : evidence.metadata.mergeable = some "MERGEABLE"
  prNotBlocked : evidence.metadata.reviewDecision ≠ some "CHANGES_REQUESTED" ∧
    evidence.metadata.reviewDecision ≠ some "REVIEW_REQUIRED"
  prLabelled : some reviewedLabel ∈ evidence.metadata.labels.getD []
  prNumber : evidence.metadata.number = some evidence.prNumber
  threadsView : LastAnswer Command.ReadsThreads (.ghReviewThreads evidence.prNumber)
    (.ok (some evidence.threads)) h
  threadsComplete : evidence.threads.hasNextPage = false
  threadsResolved : ∀ node ∈ evidence.threads.nodes, node = some true

/-- A merge that GitHub has reported as `MERGED` with a commit. -/
def MergeConfirmed (h : Journal) : Prop :=
  ∃ url status sha, LastAnswer Command.ReadsMergeStatus (.ghMergeStatus url) (.ok (some status)) h ∧
    status.state = some "MERGED" ∧ status.mergeSha = some sha ∧
    ∃ head, Command.ghPrMerge url head ∈ round h

/-- The rule of the merge guard. `ghPrMerge url head` is `gh pr merge url --match-head-commit
head`. -/
def MergeRule (setting : Setting) : Command → Journal → Prop
  | .ghPrMerge url head, h => ∃ number branch, InTask number branch h ∧ ReviewedHead head h ∧
      ∃ evidence : MergeEvidence, evidence.Permits setting number branch url head h
  | .writeStatus status, h => status.state = .merged → MergeConfirmed h
  | _, _ => True

/-- A command that fetches none of the evidence for a merge. -/
def Command.KeepsEvidence (c : Command) : Prop :=
  ¬ c.ReadsDiff ∧ ¬ c.ReadsIssue ∧ ¬ c.ReadsPr ∧ ¬ c.ReadsThreads

/-- Evidence permits a merge until it is overtaken. -/
theorem MergeEvidence.Permits.extend {evidence : MergeEvidence} {setting : Setting} {number : Int}
    {branch url head : String} {h h' : Journal}
    (hpermits : evidence.Permits setting number branch url head h)
    (hext : Extends Command.KeepsEvidence h h') :
    evidence.Permits setting number branch url head h' :=
  { hpermits with
    changedPaths := last_answer_extends hpermits.changedPaths hext fun _ hc => hc.1
    issueView := last_answer_extends hpermits.issueView hext fun _ hc => hc.2.1
    prView := last_answer_extends hpermits.prView hext fun _ hc => hc.2.2.1
    threadsView := last_answer_extends hpermits.threadsView hext fun _ hc => hc.2.2.2 }

/-- A command that is no merge obeys the rule. -/
theorem no_merge_rule {setting : Setting} (c : Command) (h : Journal) (hc : c.NoMerge) :
    MergeRule setting c h := by
  cases c with
  | ghPrMerge _ _ => exact False.elim hc
  | writeStatus status => exact fun hmerged => absurd hmerged hc
  | _ => trivial

/-! ## The evaluation of a merge -/

section

variable {W : Type} {setting : Setting} {exec : Exec Answer Raised W}
  {rule : Command → Journal → Prop} {w : W × Journal} {number : Int} {branch url head : String}

/-- What a current issue contract says about the payload. -/
theorem current_issue_contract_ok {payload : Option IssuePayload} {body : String}
    (h : currentIssueContract setting number payload = .ok body) :
    ∃ issue, payload = some issue ∧ issue.number = some number ∧ issue.state = some "OPEN" ∧
      issue.login.map setting.lower = some (setting.lower setting.owner) ∧
      issue.body = some body := by
  cases payload with
  | none => cases h
  | some issue =>
      simp only [currentIssueContract] at h
      split at h
      · cases h
      · rename_i hnumber
        split at h
        · cases h
        · rename_i hlogin
          split at h
          · cases h
          · rename_i hstate
            split at h
            · rename_i title text htitle hbody
              cases h
              exact ⟨issue, rfl, not_not.mp hnumber, not_not.mp hstate, not_not.mp hlogin, hbody⟩
            · cases h

/-- What a pull request without reasons satisfies. -/
theorem validate_pr_nil {metadata : PrMetadata}
    (h : validatePrForMerge metadata branch head = []) :
    metadata.state = some "OPEN" ∧ metadata.baseRefName = some "main" ∧
      metadata.headRefName = some branch ∧ metadata.headRefOid = some head ∧
      metadata.mergeable = some "MERGEABLE" ∧
      (metadata.reviewDecision ≠ some "CHANGES_REQUESTED" ∧
        metadata.reviewDecision ≠ some "REVIEW_REQUIRED") ∧
      some reviewedLabel ∈ metadata.labels.getD [] ∧
        ∃ prNumber, metadata.number = some prNumber := by
  have hfield : ∀ {field expected : String} {value : Option String},
      fieldReason field value expected = [] → value = some expected := by
    intro field expected value hreason
    unfold fieldReason at hreason
    split at hreason
    · assumption
    · cases hreason
  unfold validatePrForMerge at h
  simp only [List.append_eq_nil_iff] at h
  obtain ⟨⟨⟨⟨⟨⟨⟨hstate, hbase⟩, hbranch⟩, hhead⟩, hmergeable⟩, hdecision⟩, hlabels⟩, hnumber⟩ := h
  refine ⟨hfield hstate, hfield hbase, hfield hbranch, hfield hhead, hfield hmergeable, ?_, ?_, ?_⟩
  · by_contra hblocked
    rw [not_and_or, not_not, not_not] at hblocked
    rw [if_pos hblocked] at hdecision
    cases hdecision
  · by_contra hmissing
    have hcontains : ¬ (metadata.labels.getD []).contains (some reviewedLabel) = true := by
      rw [List.contains_iff_mem]
      exact hmissing
    rw [if_neg hcontains] at hlabels
    cases hlabels
  · cases hn : metadata.number with
    | none =>
        rw [if_pos hn] at hnumber
        cases hnumber
    | some prNumber => exact ⟨prNumber, rfl⟩

variable (hrule : ∀ c h, Command.NoMerge c → rule c h)

include hrule

/-- The issue that is found is the last answer. -/
theorem safe_current_issue (hw : Obedient rule w) :
    Safe (recordedExec HandoffEntry exec) (Obedient rule) (currentIssueForMerge setting number) w
      fun result w' => ∃ answer, w'.2 = .answered (.ghIssueView number) answer :: w.2 ∧
        ∀ body, result = .ok (.ok body) → ∃ payload, answer = .ok payload ∧
          currentIssueContract setting number payload = .ok body := by
  refine safe_handle (safe_bind ?_)
  refine safe_post (safe_recorded_issue hw (hrule _ _ trivial)
    (Q := fun result w' => w'.2 = .answered (.ghIssueView number) result :: w.2)
    fun answer world => rfl) fun result w' hw' hhistory => ?_
  cases result with
  | ok payload =>
      refine safe_pure hw' ⟨.ok payload, hhistory, fun body hbody => ?_⟩
      exact ⟨payload, rfl, Except.ok.inj hbody⟩
  | error e =>
      -- An answer that is not JSON is a reason against the merge.
      cases e with
      | jsonDecodeError | valueError =>
          exact safe_pure hw' ⟨.error _, hhistory, fun body hbody => nomatch hbody⟩
      | _ => exact safe_raise hw' ⟨.error _, hhistory, fun body hbody => nomatch hbody⟩

/-- So are the metadata of the pull request. -/
theorem safe_pr_metadata (hw : Obedient rule w) :
    Safe (recordedExec HandoffEntry exec) (Obedient rule) (prMetadata url) w
      fun result w' => ∃ answer, w'.2 = .answered (.ghPrView url) answer :: w.2 ∧
        ∀ metadata, result = .ok metadata → answer = .ok (some metadata) := by
  refine safe_bind ?_
  refine safe_post (safe_recorded_issue hw (hrule _ _ trivial)
    (Q := fun result w' => w'.2 = .answered (.ghPrView url) result :: w.2)
    fun answer world => rfl) fun result w' hw' hhistory => ?_
  cases result with
  | ok payload =>
      cases payload with
      | none =>
          exact safe_raise hw' ⟨.ok none, hhistory, fun metadata hmetadata => nomatch hmetadata⟩
      | some metadata =>
          refine safe_pure hw' ⟨.ok (some metadata), hhistory, fun metadata' hmetadata => ?_⟩
          cases hmetadata
          rfl
  | error e => exact ⟨.error e, hhistory, fun metadata hmetadata => nomatch hmetadata⟩

/-- Unresolved threads of a valid pull request number: none, if there is no reason. -/
theorem safe_unresolved_threads {prNumber : Int} {reason : String} (hw : Obedient rule w) :
    Safe (recordedExec HandoffEntry exec) (Obedient rule)
      (unresolvedThreads (some prNumber) reason) w
      fun result w' => ∃ answer, w'.2 = .answered (.ghReviewThreads prNumber) answer :: w.2 ∧
        (result = .ok [] → ∃ threads, answer = .ok (some threads) ∧
          threads.hasNextPage = false ∧ ∀ node ∈ threads.nodes, node = some true) := by
  refine safe_bind (safe_bind ?_)
  refine safe_post (safe_recorded_issue hw (hrule _ _ trivial)
    (Q := fun result w' => w'.2 = .answered (.ghReviewThreads prNumber) result :: w.2)
    fun answer world => rfl) fun result w' hw' hhistory => ?_
  cases result with
  | ok payload =>
      cases payload with
      | none => exact safe_raise hw' ⟨.ok none, hhistory, fun h => nomatch h⟩
      | some threads =>
          refine safe_pure hw' (safe_pure hw' ⟨.ok (some threads), hhistory, fun hnone => ?_⟩)
          have hresolved : (threads.hasNextPage || threads.nodes.any (· ≠ some true)) = false := by
            by_contra hunresolved
            rw [Bool.not_eq_false] at hunresolved
            rw [if_pos hunresolved] at hnone
            cases hnone
          obtain ⟨hpage, hnodes⟩ := Bool.or_eq_false_iff.mp hresolved
          refine ⟨threads, rfl, hpage, fun node hnode => ?_⟩
          have hnot := List.any_eq_false.mp hnodes node hnode
          simpa using hnot
  | error e => exact ⟨.error e, hhistory, fun h => nomatch h⟩

/-- The final validation without reasons is evidence for the merge. -/
theorem safe_final_merge_reasons {names : List String} (hw : Obedient rule w)
    (hdiff : LastAnswer Command.ReadsDiff .gitDiffNames (.ok names) w.2) :
    Safe (recordedExec HandoffEntry exec) (Obedient rule)
      (finalMergeReasons setting number branch url head (names.filter (· ≠ ""))) w
      fun result w' => Extends Command.Evaluates w.2 w'.2 ∧ (result = .ok [] →
        ∃ evidence : MergeEvidence, evidence.Permits setting number branch url head w'.2) := by
  refine safe_bind (safe_post (safe_current_issue hrule hw) fun result w₁ hw₁ hissue => ?_)
  obtain ⟨issueAnswer, hhistory₁, hcontract⟩ := hissue
  have hext₁ : Extends Command.Evaluates w.2 w₁.2 := by
    rw [hhistory₁]
    exact extends_answered trivial
  cases result with
  | error e => exact ⟨hext₁, fun h => nomatch h⟩
  | ok contract =>
  cases contract with
  | error text => exact safe_pure hw₁ ⟨hext₁, fun h => nomatch h⟩
  | ok body =>
  obtain ⟨payload, rfl, hpayload⟩ := hcontract body rfl
  obtain ⟨issue, rfl, hnumber, hopen, hauthor, hbody⟩ := current_issue_contract_ok hpayload
  refine safe_bind (safe_post (safe_pr_metadata hrule hw₁) fun result w₂ hw₂ hmetadata => ?_)
  obtain ⟨prAnswer, hhistory₂, hview⟩ := hmetadata
  have hext₂ : Extends Command.Evaluates w.2 w₂.2 := by
    rw [hhistory₂]
    exact extends_trans hext₁ (extends_answered trivial)
  cases result with
  | error e => exact ⟨hext₂, fun h => nomatch h⟩
  | ok metadata =>
  obtain rfl := hview metadata rfl
  refine safe_bind ?_
  cases hprNumber : metadata.number with
  | none =>
      -- An invalid number is itself a reason.
      refine safe_pure hw₂ (safe_pure hw₂ ⟨hext₂, fun hnone => ?_⟩)
      simp only [Except.ok.injEq, List.append_eq_nil_iff] at hnone
      obtain ⟨_, _, _, _, _, _, _, prNumber, hsome⟩ := validate_pr_nil hnone.1.1.2
      rw [hprNumber] at hsome
      cases hsome
  | some prNumber =>
  refine safe_post (safe_unresolved_threads hrule hw₂) fun result w₃ hw₃ hthreads => ?_
  obtain ⟨threadsAnswer, hhistory₃, hresolved⟩ := hthreads
  have hext₃ : Extends Command.Evaluates w.2 w₃.2 := by
    rw [hhistory₃]
    exact extends_trans hext₂ (extends_answered trivial)
  cases result with
  | error e => exact ⟨hext₃, fun h => nomatch h⟩
  | ok threadReasons =>
  refine safe_pure hw₃ ⟨hext₃, fun hnone => ?_⟩
  simp only [Except.ok.injEq, List.append_eq_nil_iff] at hnone
  obtain ⟨⟨⟨hpolicy, hvalid⟩, hdraft⟩, hthreadReasons⟩ := hnone
  obtain ⟨threads, rfl, hpage, hnodes⟩ := hresolved (by rw [hthreadReasons])
  obtain ⟨hstate, hbase, hbranch, hhead, hmergeable, hdecision, hlabel, _⟩ := validate_pr_nil hvalid
  have hready : metadata.isDraft = some false := by
    by_contra hnot
    rw [if_pos hnot] at hdraft
    cases hdraft
  have hpr : LastAnswer Command.ReadsPr (.ghPrView url) (.ok (some metadata)) w₃.2 := by
    rw [hhistory₃, hhistory₂]
    exact last_answer_answered last_answer_here id
  have hview : LastAnswer Command.ReadsIssue (.ghIssueView number) (.ok (some issue)) w₃.2 := by
    rw [hhistory₃, hhistory₂, hhistory₁]
    exact last_answer_answered (last_answer_answered last_answer_here id) id
  exact ⟨⟨names, issue, body, metadata, prNumber, threads⟩,
    { changedPaths := last_answer_extends hdiff hext₃ fun c hc hsame => by
        cases c <;> first | exact hc | exact hsame
      issueView := hview
      issueNumber := hnumber
      issueOpen := hopen
      issueAuthor := hauthor
      issueBody := hbody
      policy := hpolicy
      prView := hpr
      prOpen := hstate
      prReady := hready
      prBase := hbase
      prBranch := hbranch
      prHead := hhead
      prMergeable := hmergeable
      prNotBlocked := hdecision
      prLabelled := hlabel
      prNumber := hprNumber
      threadsView := by
        rw [hhistory₃]
        exact last_answer_here
      threadsComplete := hpage
      threadsResolved := hnodes }⟩

/-- So is the status of the merge. -/
theorem safe_merge_status (hw : Obedient rule w) :
    Safe (recordedExec HandoffEntry exec) (Obedient rule) (mergeStatus url) w
      fun result w' => ∃ answer, w'.2 = .answered (.ghMergeStatus url) answer :: w.2 ∧
        ∀ status, result = .ok status → answer = .ok (some status) := by
  refine safe_bind ?_
  refine safe_post (safe_recorded_issue hw (hrule _ _ trivial)
    (Q := fun result w' => w'.2 = .answered (.ghMergeStatus url) result :: w.2)
    fun answer world => rfl) fun result w' hw' hhistory => ?_
  cases result with
  | ok payload =>
      cases payload with
      | none => exact safe_raise hw' ⟨.ok none, hhistory, fun status hstatus => nomatch hstatus⟩
      | some status =>
          refine safe_pure hw' ⟨.ok (some status), hhistory, fun status' hstatus => ?_⟩
          cases hstatus
          rfl
  | error e => exact ⟨.error e, hhistory, fun status hstatus => nomatch hstatus⟩

omit hrule in
/-- A confirmed outcome is that of a merged pull request with its commit. -/
theorem confirmed_outcome_merged {status : MergeStatus} {outcome : MergeOutcome}
    (h : confirmedOutcome status = some outcome) :
    status.state = some "MERGED" ∧ ∃ sha, status.mergeSha = some sha ∧ outcome.sha = some sha := by
  unfold confirmedOutcome at h
  split at h
  · rename_i sha hstate hsha
    cases h
    exact ⟨hstate, sha, hsha, rfl⟩
  · cases h

/-- The outcome of a merge: `merged=True` rests on the last answer of GitHub. -/
def OutcomeConfirmed (url head : String) (result : Except Raised MergeOutcome) (h : Journal) :
    Prop :=
  ∀ outcome, result = .ok outcome → outcome.merged = true → ∃ status sha,
    LastAnswer Command.ReadsMergeStatus (.ghMergeStatus url) (.ok (some status)) h ∧
      status.state = some "MERGED" ∧ status.mergeSha = some sha ∧ outcome.sha = some sha ∧
      Command.ghPrMerge url head ∈ round h

omit hrule in
/-- The end of `merge_reviewed_pr` after GitHub has answered a status query. -/
theorem safe_confirmed {status : MergeStatus} {otherwise : Raised} (hw : Obedient rule w)
    (hlast : LastAnswer Command.ReadsMergeStatus (.ghMergeStatus url) (.ok (some status)) w.2)
    (hmerge : Command.ghPrMerge url head ∈ round w.2) :
    Safe (recordedExec HandoffEntry exec) (Obedient rule)
      (match confirmedOutcome status with
        | some outcome => pure outcome
        | none => fail otherwise) w
      fun result w' => OutcomeConfirmed url head result w'.2 := by
  cases hconfirmed : confirmedOutcome status with
  | none => exact safe_raise hw fun outcome h => nomatch h
  | some outcome =>
      refine safe_pure hw fun outcome' h hmerged => ?_
      cases h
      obtain ⟨hstate, sha, hsha, houtcome⟩ := confirmed_outcome_merged hconfirmed
      exact ⟨status, sha, hlast, hstate, hsha, houtcome, hmerge⟩

/-- A rejected merge is confirmed before it counts. -/
theorem safe_rejected_merge {error : Raised} (hw : Obedient rule w)
    (hmerge : Command.ghPrMerge url head ∈ round w.2) :
    Safe (recordedExec HandoffEntry exec) (Obedient rule) (rejectedMerge url error) w
      fun result w' => OutcomeConfirmed url head result w'.2 := by
  refine safe_bind (safe_handle (safe_post (safe_merge_status hrule hw)
    fun result w' hw' hstatus => ?_))
  obtain ⟨answer, hhistory, hanswer⟩ := hstatus
  cases result with
  | error e =>
      have hfail : ∀ e : Raised, OutcomeConfirmed url head (.error e) w'.2 :=
        fun e outcome h => nomatch h
      cases e <;> exact safe_raise hw' (hfail _)
  | ok status =>
      obtain rfl := hanswer status rfl
      show Safe _ _ (if status.state = some "OPEN" then _ else _) w' _
      split
      · refine safe_pure hw' fun outcome h hmerged => ?_
        cases h
        cases hmerged
      · refine safe_confirmed hw' ?_ ?_
        · rw [hhistory]
          exact last_answer_here
        · rw [hhistory]
          exact List.mem_cons_of_mem _ hmerge

/-- A merge is requested where the rule permits it, and its outcome is confirmed. -/
theorem safe_exact_head_merge (hw : Obedient rule w) (hmerge : rule (.ghPrMerge url head) w.2) :
    Safe (recordedExec HandoffEntry exec) (Obedient rule) (exactHeadMerge url head) w
      fun result w' => OutcomeConfirmed url head result w'.2 := by
  refine safe_and_then (safe_post (safe_recorded_issue hw hmerge
    (Q := fun result w' => w'.2 = .answered (.ghPrMerge url head) result :: w.2)
    fun answer world => rfl) fun result w₁ hw₁ hhistory => ?_)
  have hround : Command.ghPrMerge url head ∈ round w₁.2 := by
    rw [hhistory]
    exact List.mem_cons_self
  have hfail : ∀ e : Raised, OutcomeConfirmed url head (.error e) w₁.2 :=
    fun e outcome h => nomatch h
  cases result with
  | ok _ =>
      refine safe_bind (safe_post (safe_merge_status hrule hw₁) fun result w₂ hw₂ hstatus => ?_)
      obtain ⟨answer, hhistory₂, hanswer⟩ := hstatus
      cases result with
      | error e => exact fun outcome h => nomatch h
      | ok status =>
          obtain rfl := hanswer status rfl
          refine safe_confirmed hw₂ ?_ ?_
          · rw [hhistory₂]
            exact last_answer_here
          · rw [hhistory₂]
            exact List.mem_cons_of_mem _ hround
  | error e =>
      cases e with
      | calledProcessError text => exact safe_rejected_merge hrule hw₁ hround
      | jsonDecodeError | runtimeError | valueError | recoverableChangesError | activeOrphanError
      | otherException | keyboardInterrupt => exact safe_raise hw₁ (hfail _)

/-- `merge_reviewed_pr`: the rule has to permit a merge only where its last fetches do, and
`merged=True` rests on the last answer of GitHub. -/
theorem safe_merge_reviewed_pr {context : StatusContext} (hw : Obedient rule w)
    (hmerge : ∀ (h' : Journal) (evidence : MergeEvidence),
      Extends (fun c => c.ReadsDiff ∨ c.Evaluates) w.2 h' →
        evidence.Permits setting number branch url head h' → rule (.ghPrMerge url head) h') :
    Safe (recordedExec HandoffEntry exec) (Obedient rule)
      (mergeReviewedPr setting number branch url head context) w
      fun result w' => OutcomeConfirmed url head result w'.2 := by
  have hfail : ∀ (e : Raised) (h : Journal), OutcomeConfirmed url head (.error e) h :=
    fun e h outcome heq => nomatch heq
  have hblocked : ∀ (reasons : List String) (h : Journal),
      OutcomeConfirmed url head (.ok (.blocked reasons)) h := by
    intro reasons h outcome heq hmerged
    cases heq
    cases hmerged
  have hunruled : ∀ c h, Command.Evaluates c → rule c h :=
    fun c h hc => hrule c h (evaluates_no_merge c hc)
  refine safe_bind (safe_post (safe_recorded_issue hw (hrule _ _ trivial)
    (Q := fun result w' => w'.2 = .answered .gitDiffNames result :: w.2)
    fun answer world => rfl) fun result w₁ hw₁ hhistory₁ => ?_)
  cases result with
  | error e => exact hfail e _
  | ok names =>
  -- From the diff on, the history grows by commands that only evaluate.
  have hext₁ : Extends (fun c => c.ReadsDiff ∨ c.Evaluates) w.2 w₁.2 := by
    rw [hhistory₁]
    exact extends_answered (.inl trivial)
  have hdiff₁ : LastAnswer Command.ReadsDiff .gitDiffNames (.ok names) w₁.2 := by
    rw [hhistory₁]
    exact last_answer_here
  refine safe_after_unruled (only_first_merge_reasons setting trivial trivial fun _ =>
    trivial) hunruled
    hw₁
    (fun first w₂ hw₂ hext₂ => ?_) fun e w' _ => hfail e _
  obtain ⟨reasons, isDraft⟩ := first
  show Safe _ _ (if reasons ≠ [] then _ else _) w₂ _
  split
  · exact safe_pure hw₂ (hblocked _ _)
  · have hready : Only Command.Evaluates (if isDraft then call (.ghPrReady url) else pure ()) :=
      only_ite (only_call trivial) (only_pure _)
    refine safe_after_unruled hready hunruled hw₂ (fun _ w₃ hw₃ hext₃ => ?_)
      fun e w' _ => hfail e _
    have hext₁₃ : Extends Command.Evaluates w₁.2 w₃.2 := extends_trans hext₂ hext₃
    have hdiff₃ : LastAnswer Command.ReadsDiff .gitDiffNames (.ok names) w₃.2 :=
      last_answer_extends hdiff₁ hext₁₃ fun c hc hsame => by
        cases c <;> first | exact hc | exact hsame
    refine safe_bind (safe_post (safe_final_merge_reasons hrule hw₃ hdiff₃)
      fun result w₄ hw₄ hfinal => ?_)
    obtain ⟨hext₄, hevidence⟩ := hfinal
    cases result with
    | error e => exact hfail e _
    | ok finalReasons =>
    show Safe _ _ (if finalReasons ≠ [] then _ else _) w₄ _
    split
    · exact safe_pure hw₄ (hblocked _ _)
    · rename_i hnone
      obtain ⟨evidence, hpermits⟩ := hevidence (by rw [not_not.mp hnone])
      -- The write of MERGING stands between the final evidence and the merge; it reads no evidence.
      have hwrite : Only (fun c => c.Evaluates ∧ c.KeepsEvidence)
          (writeStatus .merging (.of context { prUrl := some url })) :=
        only_bind (only_call ⟨trivial, id, id, id, id⟩) fun _ => only_call ⟨rfl, id, id, id, id⟩
      refine safe_after_unruled hwrite (fun c h hc => hunruled c h hc.1) hw₄
        (fun _ w₅ hw₅ hext₅ => ?_) fun e w' _ => hfail e _
      refine safe_exact_head_merge hrule hw₅ (hmerge w₅.2 evidence ?_ ?_)
      · have hevaluates : Extends Command.Evaluates w₁.2 w₅.2 :=
          extends_trans hext₁₃ (extends_trans hext₄ (extends_mono hext₅ fun c hc => hc.1))
        exact extends_trans hext₁ (extends_mono hevaluates fun c hc => .inr hc)
      · exact hpermits.extend (extends_mono hext₅ fun c hc => hc.2)

end

end GrowthOs.Handoff
