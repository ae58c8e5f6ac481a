import GrowthOs.Execution.Attempts

/-!
# Proposals and their decisions
-/

namespace GrowthOs.Execution

open Library Db

/-- The decisions on a proposal in the order of their insertion. -/
def decisionList (d : Database schema) (proposalId : Uuid) : List ApprovalDecision :=
  (d .decisions).filter fun decision => decision.proposalId = proposalId

/-- A proposal agrees with its decisions. -/
structure DecisionsAgree (decisions : List ApprovalDecision) (proposal : ActionProposal) :
    Prop where
  risk : proposal.riskLevel = .high → proposal.requiresApproval = true
  exempt : proposal.requiresApproval = false → proposal.status = .approved ∧ decisions = []
  awaiting : proposal.requiresApproval = true →
    (proposal.status = .awaitingApproval ↔ decisions = [])
  decided : proposal.requiresApproval = true → proposal.status ≠ .awaitingApproval →
    ∃ decision, decisions = [decision] ∧ proposal.status = decidedStatus decision.decision

/-- A list without duplicates whose elements are all equal. -/
theorem eq_singleton {α : Type} {l : List α} {a : α} (hnodup : l.Nodup) (ha : a ∈ l)
    (hall : ∀ b ∈ l, b = a) : l = [a] := by
  match l, hnodup with
  | [], _ => cases ha
  | [b], _ => rw [hall b (by simp)]
  | b :: c :: rest, hnodup =>
      have heq : b = c := (hall b (by simp)).trans (hall c (by simp)).symm
      exact absurd heq (by
        rintro rfl
        simp at hnodup)

/-- A proposal agrees with its decisions. -/
theorem decisions_agree {d : Database schema} (hconsistent : Consistent d) (hd : Invariant d)
    {proposal : ActionProposal} (hproposal : proposal ∈ d .proposals) :
    DecisionsAgree (decisionList d proposal.id) proposal := by
  have hok := hd.proposals proposal hproposal
  have hmem : ∀ {x}, x ∈ decisionList d proposal.id ↔ x ∈ decisionsOf d proposal.id := fun {x} => by
    simp [decisionList, decisionsOf]
  -- The unique constraint on the decisions of a proposal.
  have hunique : ∀ x ∈ decisionsOf d proposal.id, ∀ y ∈ decisionsOf d proposal.id, x = y := by
    intro x hx y hy
    have hclash : @rowClash .decisions x y = true := by
      rw [row_clash_iff]
      refine ⟨(hok.tenant x hx).trans (hok.tenant y hy).symm, by simp [uniqueColumns], ?_⟩
      show some ([x.proposalId], [], []) = some ([y.proposalId], [], [])
      rw [show x.proposalId = proposal.id from hx.2, show y.proposalId = proposal.id from hy.2]
    exact eq_of_clash (hconsistent .decisions) hx.1 hy.1 hclash
  refine ⟨fun hrisk => ?_, fun hexempt => ?_, fun hrequires => ?_, fun hrequires hstatus => ?_⟩
  · have hcheck : @rowCheck .proposals proposal = true := (hconsistent .proposals).check _ hproposal
    simpa [rowCheck, hrisk] using hcheck
  · obtain ⟨hstatus, hnone⟩ := hok.exempt hexempt
    exact ⟨hstatus, List.eq_nil_iff_forall_not_mem.mpr fun x hx => hnone x (hmem.mp hx)⟩
  · constructor
    · intro hstatus
      refine List.eq_nil_iff_forall_not_mem.mpr fun x hx => ?_
      exact decided_status_ne_awaiting x.decision ((hok.decided x (hmem.mp hx)).symm.trans hstatus)
    · intro hnone
      by_contra hstatus
      obtain ⟨x, hx⟩ := hok.awaiting hrequires hstatus
      rw [← hmem, hnone] at hx
      cases hx
  · obtain ⟨x, hx⟩ := hok.awaiting hrequires hstatus
    refine ⟨x, eq_singleton ((hconsistent .decisions).nodup.of_map.filter _) (hmem.mpr hx) ?_,
      hok.decided x hx⟩
    exact fun y hy => hunique y (hmem.mp hy) x hx

/-- A decision request that ends with an error has committed nothing. The one exception is a
connection that fails after the commit: then the whole transaction is committed. -/
structure LeavesOrCommits (c : Client schema ServiceError Response Request)
    (e : ServiceError) : Prop where
  leaves : e ≠ .database .operational → c.session.written = []
  commits : c.session.written ≠ [] →
    e = .database .operational ∧ c.session.failed = true ∧ Committed c.request c.session.written

/-- In every reachable state every proposal agrees with its decisions. A proposal that has left the
awaiting status keeps its status, and a request that loses or fails leaves every row as it was,
unless the connection failed after its commit. -/
theorem proposals_agree_with_decisions {sys : System schema ServiceError Response Request}
    (h : Served sys) :
    (∀ proposal ∈ sys.committed .proposals,
      DecisionsAgree (decisionList sys.committed proposal.id) proposal) ∧
    (∀ sys', Relation.ReflTransGen (Step serve) sys sys' → ∀ proposal ∈ sys.committed .proposals,
      ∃ proposal' ∈ sys'.committed .proposals, proposal'.id = proposal.id ∧
        (proposal.status ≠ .awaitingApproval → proposal'.status = proposal.status)) ∧
    ∀ c ∈ sys.clients, ∀ e, c.program = .done (.error e) → LeavesOrCommits c e := by
  have hsound := sound_of_served h
  refine ⟨fun proposal hproposal => decisions_agree hsound.consistent hsound.invariant hproposal,
    fun sys' hsteps proposal hproposal => ?_, fun c hc e hdone => ?_⟩
  · obtain ⟨-, hevolves⟩ := sound_of_steps serves_answered hsound hsteps
    obtain ⟨proposal', hproposal', hlater⟩ := hevolves.proposals proposal hproposal
    exact ⟨proposal', hproposal', hlater.id, hlater.final⟩
  · have hanswered := post_of_sound hsound hc hdone
    refine ⟨fun hne => (hanswered.error e rfl).resolve_right hne, fun hwritten => ?_⟩
    · rcases hanswered.error e rfl with hnil | rfl
      · exact absurd hnil hwritten
      · exact ⟨rfl, hanswered.failed rfl, hanswered.written.resolve_left hwritten⟩

/-! ## A proposal of the example -/

/-- A job with a proposal that requires approval. -/
def proposedRequests : List Request :=
  [.createJob newContext newRequest,
    .createProposal newContext ⟨102, "publish", "Publish the page", .high, true⟩]

/-- The approval of the proposal. -/
def approval : Request := .decideProposal newContext 112 .approved 7 none

/-- The system after the approval. -/
def approvedSystem : System schema ServiceError Response Request :=
  (serveAll serve countingSupply newDatabase (proposedRequests ++ [approval])).1

/-- The sample system is served. -/
theorem approved_system_served : Served approvedSystem :=
  serve_all_reachable serve countingSupply new_database_initial _

/-- Its proposal agrees with its decision. -/
theorem approved_proposal_agrees_with_decision :
    (∀ proposal ∈ approvedSystem.committed .proposals,
      DecisionsAgree (decisionList approvedSystem.committed proposal.id) proposal) ∧
    (approvedSystem.committed .proposals).map (·.status) = [.approved] ∧
    (decisionList approvedSystem.committed 112).map (·.decision) = [.approved] :=
  ⟨(proposals_agree_with_decisions approved_system_served).1, by decide +kernel, by decide +kernel⟩

/-- The same requests on a connection that fails at the last statement, which reads the decision
back. -/
def failingSupply : Supply := { countingSupply with fails := fun n => n = 25 }

/-- The system before the approval. -/
def beforeApproval : System schema ServiceError Response Request × Nat :=
  serveAll serve failingSupply newDatabase proposedRequests

/-- The client of the approval. -/
def failedClient : Client schema ServiceError Response Request :=
  ⟨approval, beforeApproval.1.committed,
    .done ((serve approval).run failingSupply beforeApproval.2
      (.start beforeApproval.1.committed)).1,
    { ((serve approval).run failingSupply beforeApproval.2
        (.start beforeApproval.1.committed)).2.1 with pending := [] }⟩

/-- A failing request can leave a decision behind: its commit has succeeded, and then its connection
fails. -/
theorem failed_approval_is_committed :
    ∃ sys, Served sys ∧ ∃ c ∈ sys.clients, c.request = approval ∧
      c.program = .done (.error (.database .operational)) ∧ c.arrived .decisions = [] ∧
      (sys.committed .decisions).map (·.decision) = [.approved] := by
  refine ⟨(serveAlone serve failingSupply beforeApproval approval).1,
    serve_all_reachable serve failingSupply new_database_initial (proposedRequests ++ [approval]),
    failedClient, List.mem_append_right _ (.head _), rfl, congrArg Program.done ?_, ?_, ?_⟩
  · decide +kernel
  · decide +kernel
  · decide +kernel

end GrowthOs.Execution
