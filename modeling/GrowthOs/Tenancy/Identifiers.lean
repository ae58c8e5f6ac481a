import GrowthOs.Tenancy.Requests
import GrowthOs.Library.Sequential

/-!
# Identifiers of other tenants

An operation that names a row of another tenant is answered exactly as one that names no row.
-/

namespace GrowthOs.Tenancy

open Library Db Foundation Execution

/-- No row of the tenant has the identifier. -/
def Unknown (d : Database schema) (tenantId id : Uuid) : Prop :=
  ∀ t, ∀ row ∈ d t, rowTenant row = tenantId → rowId row ≠ id

/-- Foreign keys refer to rows, and audit events to rows of their tenant. -/
structure Wellformed (d : Database schema) : Prop where
  references : ∀ t, ∀ row ∈ d t, ∀ p ∈ rowParents row, ∃ parent ∈ d p.1,
    p.2 ∈ rowCandidates parent
  audited : ∀ event ∈ d .auditEvents, ∃ t, ∃ row ∈ d t, rowTenant row = event.tenantId ∧
    rowId row = event.resourceId

/-- The renaming only changes identifiers that name no row of the tenant, before and after. -/
def Renames (d : Database schema) (tenantId : Uuid) (f : Uuid → Uuid) : Prop :=
  ∀ id, f id = id ∨ (Unknown d tenantId id ∧ Unknown d tenantId (f id))

variable {d : Database schema} {context : TenantContext} {f : Uuid → Uuid} {supply : Supply}
  {n : Nat} {s : Session schema} {α β : Type} {id : Uuid}

/-- A row of the tenant has a workspace of the tenant. -/
theorem workspace_known (hd : Wellformed d) {t : Table} {row : t.Row} {workspaceId : Uuid}
    (hrow : row ∈ d t)
    (hparent : (Table.workspaces, [workspaceId, context.tenantId]) ∈ rowParents row)
    (hunknown : Unknown d context.tenantId id) : workspaceId ≠ id := by
  obtain ⟨workspace, hworkspace, hcandidate⟩ := hd.references t row hrow _ hparent
  have hkeys : workspaceId = workspace.id ∧ context.tenantId = workspace.tenantId := by
    simpa [rowCandidates] using hcandidate
  rw [hkeys.1]
  exact hunknown .workspaces workspace hworkspace hkeys.2.symm

/-- The run of an operation that does not find its row. -/
def absent (supply : Supply) (n : Nat) (s : Session schema) :
    Except ServiceError α × Session schema × Nat :=
  if supply.fails n then (.error (.database .operational), s.interrupted s.seen, n + 1)
  else (.error .notFound, s, n + 1)

/-- What fails on an absent row fails as a whole. -/
theorem absent_bind {p : Service β} {k : β → Service α}
    (h : p.run supply n s = absent supply n s) : (p >>= k).run supply n s = absent supply n s := by
  rw [run_bind, h]
  unfold absent
  cases supply.fails n <;> rfl

/-- The run of a query. -/
theorem run_statement_select (query : Database schema → α) :
    (statement (.select query)).run supply n s =
      if supply.fails n then (.error (.database .operational), s.interrupted s.seen, n + 1)
      else (.ok (query (s.view s.seen)), s, n + 1) :=
  run_select supply ServiceError.database query n s

/-- `get_owned` does not find a row of another tenant. -/
theorem absent_require_owned (hview : s.view s.seen = d) {t : Table}
    (hunknown : Unknown d context.tenantId id) :
    (requireOwned t context id).run supply n s = absent supply n s := by
  have hnone : ((s.view s.seen t).find? fun row =>
      decide (rowId row = id) && decide (rowTenant row = context.tenantId)) = none := by
    rw [hview]
    refine List.find?_eq_none.mpr fun row hrow => ?_
    simp only [Bool.and_eq_true, decide_eq_true_eq, not_and]
    exact fun hid htenant => hunknown t row hrow htenant hid
  unfold requireOwned getOwned scalar
  rw [run_bind, run_statement_select, hnone]
  unfold absent
  cases supply.fails n <;> rfl

/-- What a query of one row finds. -/
theorem run_scalar (hview : s.view s.seen = d) {t : Table} {condition : t.Row → Bool}
    {found : Option t.Row} {s' : Session schema} {n' : Nat}
    (h : (scalar t condition).run supply n s = (.ok found, s', n')) :
    s' = s ∧ ∀ row, found = some row → row ∈ d t ∧ condition row = true := by
  unfold scalar at h
  rw [run_statement_select] at h
  cases hfails : supply.fails n with
  | true => simp [hfails] at h
  | false =>
      rw [hfails] at h
      obtain ⟨hresult, hrest⟩ := Prod.mk.inj h
      refine ⟨(Prod.mk.inj hrest).1.symm, fun row hrow => ?_⟩
      have hfind : (s.view s.seen t).find? condition = some row :=
        (Except.ok.inj hresult).trans hrow
      rw [hview] at hfind
      exact ⟨List.mem_of_find?_eq_some hfind, List.find?_some hfind⟩

/-- What `get_owned` finds is a row of the tenant. -/
theorem run_require_owned (hview : s.view s.seen = d) {t : Table} {row : t.Row}
    {s' : Session schema} {n' : Nat}
    (h : (requireOwned t context id).run supply n s = (.ok row, s', n')) :
    s' = s ∧ row ∈ d t ∧ rowTenant row = context.tenantId := by
  unfold requireOwned at h
  rw [run_bind] at h
  cases hrun : (getOwned t context id).run supply n s with
  | mk result rest =>
      rw [hrun] at h
      cases result with
      | error e => cases h
      | ok found =>
          obtain ⟨hsession, hfound⟩ := run_scalar hview hrun
          cases found with
          | none => cases h
          | some found =>
              cases h
              obtain ⟨hmem, hcondition⟩ := hfound row rfl
              simp only [Bool.and_eq_true, decide_eq_true_eq] at hcondition
              exact ⟨hsession, hmem, hcondition.2⟩

/-- Two continuations that agree on what the first program returns. -/
theorem run_bind_congr {p : Service β} {k k' : β → Service α}
    (h : ∀ b s' n', p.run supply n s = (.ok b, s', n') →
      (k b).run supply n' s' = (k' b).run supply n' s') :
    (p >>= k).run supply n s = (p >>= k').run supply n s := by
  rw [run_bind, run_bind]
  cases hrun : p.run supply n s with
  | mk result rest =>
      cases result with
      | ok b => exact h b rest.1 rest.2 hrun
      | error e => rfl

/-- Two first programs with the same run. -/
theorem run_bind_same {p p' : Service β} {k : β → Service α}
    (h : p.run supply n s = p'.run supply n s) :
    (p >>= k).run supply n s = (p' >>= k).run supply n s := by
  rw [run_bind, run_bind, h]

/-- Two programs of an identifier that start with the row that it names. -/
theorem run_named (hf : Renames d context.tenantId f) (p : Uuid → Service α)
    (habsent : ∀ id, Unknown d context.tenantId id →
      (p id).run supply n s = absent supply n s) :
    (p (f id)).run supply n s = (p id).run supply n s := by
  rcases hf id with heq | ⟨hunknown, hunknown'⟩
  · rw [heq]
  · rw [habsent _ hunknown, habsent _ hunknown']

/-- Two pages with conditions that agree on the rows of the database. -/
theorem run_list_page_congr (hview : s.view s.seen = d) {t : Table}
    {condition condition' : t.Row → Bool} {key : t.Row → Int} {page : PageRequest}
    (h : ∀ row ∈ d t, condition row = condition' row) :
    (listPage t condition key page).run supply n s =
      (listPage t condition' key page).run supply n s := by
  have hrows : (s.view s.seen t).filter condition = (s.view s.seen t).filter condition' := by
    rw [hview]
    exact List.filter_congr h
  unfold listPage
  refine (run_bind_same ?_).trans (run_bind_congr fun items s' n' hrun => run_bind_same ?_)
  · rw [run_statement_select, run_statement_select, hrows]
  · rw [run_statement_select] at hrun
    have hsession : s' = s := by
      cases hfails : supply.fails n with
      | true => simp [hfails] at hrun
      | false =>
          rw [hfails] at hrun
          exact (Prod.mk.inj (Prod.mk.inj hrun).2).1.symm
    rw [run_statement_select, run_statement_select, hsession, hrows]

/-- `get_competitor` with a competitor of another tenant. -/
theorem run_get_competitor (hview : s.view s.seen = d) (hf : Renames d context.tenantId f)
    (workspaceId competitorId : Uuid) :
    (getCompetitor context (f workspaceId) (f competitorId)).run supply n s =
      (getCompetitor context workspaceId competitorId).run supply n s := by
  refine (run_named hf (fun id => getCompetitor context id (f competitorId))
    fun id hunknown => absent_bind (absent_require_owned hview hunknown)).trans ?_
  refine run_bind_congr fun workspace s' n' hrun => ?_
  obtain ⟨rfl, -, -⟩ := run_require_owned hview hrun
  refine run_named hf (fun id => do required (← findCompetitor context workspaceId id))
    fun id hunknown => ?_
  have hnone : ((s'.view s'.seen .competitors).find? fun competitor : WorkspaceCompetitor =>
      decide (competitor.tenantId = context.tenantId) &&
        decide (competitor.workspaceId = workspaceId) && decide (competitor.id = id)) = none := by
    rw [hview]
    refine List.find?_eq_none.mpr fun competitor hcompetitor => ?_
    simp only [Bool.and_eq_true, decide_eq_true_eq, not_and]
    exact fun htenant hid => hunknown .competitors competitor hcompetitor htenant.1 hid
  unfold findCompetitor scalar
  rw [run_bind, run_statement_select, hnone]
  unfold absent
  cases supply.fails n' <;> rfl

/-- `create_connector` with a workspace of another tenant. -/
theorem run_create_connector (hd : Wellformed d) (hview : s.view s.seen = d)
    (hf : Renames d context.tenantId f) (workspaceId siteId : Uuid) (kind : String) :
    (createConnector context (f workspaceId) (f siteId) kind).run supply n s =
      (createConnector context workspaceId siteId kind).run supply n s := by
  refine (run_named hf (fun id => createConnector context (f workspaceId) id kind)
    fun id hunknown => absent_bind (absent_require_owned hview hunknown)).trans ?_
  rcases hf workspaceId with heq | ⟨hunknown, hunknown'⟩
  · rw [heq]
  · refine run_bind_congr fun site s' n' hrun => ?_
    obtain ⟨rfl, hsite, htenant⟩ := run_require_owned hview hrun
    replace htenant : site.tenantId = context.tenantId := htenant
    have hparent : (Table.workspaces, [site.workspaceId, context.tenantId]) ∈
        @rowParents .sites site := by
      rw [← htenant]
      exact .head _
    rw [if_pos (workspace_known hd hsite hparent hunknown),
      if_pos (workspace_known hd hsite hparent hunknown')]

/-- The comparison of a repeated request with a job of the tenant. -/
theorem run_idempotent_job_result (hd : Wellformed d) {job : ExecutionJob} (hjob : job ∈ d .jobs)
    (htenant : job.tenantId = context.tenantId) (hf : Renames d context.tenantId f)
    (request : JobRequest) :
    (idempotentJobResult context job
        { request with workspaceId := f request.workspaceId }).run supply n s =
      (idempotentJobResult context job request).run supply n s := by
  rcases hf request.workspaceId with heq | ⟨hunknown, hunknown'⟩
  · rw [heq]
  · have hparent : (Table.workspaces, [job.workspaceId, context.tenantId]) ∈
        @rowParents .jobs job := by
      rw [← htenant]
      exact .head _
    refine run_bind_congr fun run s' n' hrun => ?_
    rw [if_pos (Or.inl (workspace_known hd hjob hparent hunknown)),
      if_pos (Or.inl (workspace_known hd hjob hparent hunknown'))]

/-- `create_job` with a workspace of another tenant. -/
theorem run_create_job (hd : Wellformed d) (hview : s.view s.seen = d)
    (hf : Renames d context.tenantId f) (request : JobRequest) :
    (createJob context { request with workspaceId := f request.workspaceId }).run supply n s =
      (createJob context request).run supply n s := by
  rcases hf request.workspaceId with heq | ⟨hunknown, hunknown'⟩
  · rw [heq]
  refine run_bind_congr fun existing s' n' hrun => ?_
  obtain ⟨rfl, hexisting⟩ := run_scalar hview hrun
  cases existing with
  | none =>
      exact Eq.trans (absent_bind (absent_require_owned hview hunknown'))
        (Eq.symm (absent_bind (absent_require_owned hview hunknown)))
  | some job =>
      obtain ⟨hjob, hkey⟩ := hexisting job rfl
      simp only [Bool.and_eq_true, decide_eq_true_eq] at hkey
      exact run_idempotent_job_result hd hjob hkey.1 hf request

/-- An operation with an optional filter by a row that the tenant has to own. -/
theorem run_filtered (hf : Renames d context.tenantId f) (p : Option Uuid → Service α)
    (habsent : ∀ id, Unknown d context.tenantId id →
      (p (some id)).run supply n s = absent supply n s) (filter : Option Uuid) :
    (p (filter.map f)).run supply n s = (p filter).run supply n s := by
  cases filter with
  | none => rfl
  | some id => exact run_named hf (fun id => p (some id)) habsent

/-- A filter of audit events by a resource of another tenant. -/
theorem run_list_audit_events (hd : Wellformed d) (hview : s.view s.seen = d)
    (hf : Renames d context.tenantId f) (filter : AuditFilter) (page : PageRequest) :
    (listAuditEvents context { filter with resourceId := filter.resourceId.map f } page).run
        supply n s = (listAuditEvents context filter page).run supply n s := by
  refine run_list_page_congr hview fun event hevent => ?_
  have hresource : event.tenantId = context.tenantId →
      passes (filter.resourceId.map f) event.resourceId =
        passes filter.resourceId event.resourceId := by
    intro htenant
    cases hfilter : filter.resourceId with
    | none => rfl
    | some id =>
        rcases hf id with heq | ⟨hunknown, hunknown'⟩
        · rw [Option.map_some, heq]
        · obtain ⟨t, row, hrow, hrowTenant, hrowId⟩ := hd.audited event hevent
          have howned := hrowTenant.trans htenant
          have hne : event.resourceId ≠ id := hrowId ▸ hunknown t row hrow howned
          have hne' : event.resourceId ≠ f id := hrowId ▸ hunknown' t row hrow howned
          simp [passes, hne, hne']
  unfold AuditFilter.condition
  by_cases htenant : event.tenantId = context.tenantId
  · rw [hresource htenant]
  · simp [htenant]

/-! ## Every operation -/

/-- A reply with a row runs as its service. -/
theorem run_reply_row (t : Table) {p p' : Service t.Row}
    (h : p.run supply n s = p'.run supply n s) :
    (replyRow t p).run supply n s = (replyRow t p').run supply n s :=
  run_bind_same h

/-- So does a reply with a page. -/
theorem run_reply_page (t : Table) {p p' : Service (List t.Row × Nat)}
    (h : p.run supply n s = p'.run supply n s) :
    (replyPage t p).run supply n s = (replyPage t p').run supply n s :=
  run_bind_same h

/-- So does a reply with a job. -/
theorem run_reply_job {p p' : Service JobResult} (h : p.run supply n s = p'.run supply n s) :
    (replyJob p).run supply n s = (replyJob p').run supply n s :=
  run_bind_same h

/-- A renaming of identifiers that the tenant does not know changes nothing. -/
theorem run_map_ids (hd : Wellformed d) (hview : s.view s.seen = d)
    (hf : Renames d context.tenantId f) (operation : Operation) :
    (perform context (operation.mapIds f)).run supply n s =
      (perform context operation).run supply n s := by
  have habsent {γ : Type} {t : Table} {k : t.Row → Service γ} (id : Uuid)
      (hunknown : Unknown d context.tenantId id) :
      (requireOwned t context id >>= k).run supply n s = absent supply n s :=
    absent_bind (absent_require_owned hview hunknown)
  have hsame (t : Table) (id : Uuid) :
      (requireOwned t context (f id)).run supply n s = (requireOwned t context id).run supply n s :=
    run_named hf (requireOwned t context) fun id hunknown => absent_require_owned hview hunknown
  have hrecord (kind : RecordKind) (id : Uuid) :
      (getRecord kind context (f id)).run supply n s = (getRecord kind context id).run supply n s :=
    run_named hf (getRecord kind context) fun id hunknown => habsent id hunknown
  cases operation with
  | createTenant name => rfl
  | getTenant => rfl
  | updateTenant name => rfl
  | createWorkspace name => rfl
  | createMembership workspaceId userId role =>
      exact run_reply_row .memberships (run_named hf (createMembership context · userId role)
        fun id => habsent id)
  | createSite workspaceId name url =>
      exact run_reply_row .sites (run_named hf (createSite context · name url) fun id => habsent id)
  -- The connector names two resources, so its renaming is a lemma of its own; the competitors, the
  -- created job and the audit filter are the same.
  | createConnector workspaceId siteId kind =>
      exact run_reply_row .connectors (run_create_connector hd hview hf workspaceId siteId kind)
  | getOwned model resourceId => exact run_reply_row model.table (hsame model.table resourceId)
  | listOwned model page => rfl
  | updateWorkspace resourceId name =>
      exact run_reply_row .workspaces
        (run_named hf (updateOwned .workspaces context · (workspaceChange name))
          fun id => habsent id)
  | updateMembership resourceId role =>
      exact run_reply_row .memberships
        (run_named hf (updateOwned .memberships context · (membershipChange role))
          fun id => habsent id)
  | updateSite resourceId changes =>
      exact run_reply_row .sites (run_named hf (updateOwned .sites context · (siteChange changes))
        fun id => habsent id)
  | updateConnector resourceId status =>
      exact run_reply_row .connectors
        (run_named hf (updateOwned .connectors context · (connectorChange status))
          fun id => habsent id)
  | getOnboardingStatus workspaceId =>
      exact run_bind_same (run_named hf (getOnboardingStatus context) fun id => habsent id)
  | createBusinessProfile workspaceId values actorId =>
      exact run_reply_row .businessProfiles
        (run_named hf (createBusinessProfile context · values actorId) fun id => habsent id)
  | getBusinessProfile workspaceId =>
      exact run_reply_row .businessProfiles (hrecord businessProfiles workspaceId)
  | updateBusinessProfile workspaceId changes actorId =>
      exact run_reply_row .businessProfiles (run_bind_same (hrecord businessProfiles workspaceId))
  | createPrimaryGrowthGoal workspaceId values actorId =>
      exact run_reply_row .growthGoals
        (run_named hf (createPrimaryGrowthGoal context · values actorId) fun id => habsent id)
  | getPrimaryGrowthGoal workspaceId =>
      exact run_reply_row .growthGoals (hrecord growthGoals workspaceId)
  | updatePrimaryGrowthGoal workspaceId changes actorId =>
      exact run_reply_row .growthGoals (run_bind_same (hrecord growthGoals workspaceId))
  | createAutonomyPolicy workspaceId values actorId =>
      exact run_reply_row .autonomyPolicies
        (run_named hf (createAutonomyPolicy context · values actorId) fun id => habsent id)
  | getAutonomyPolicy workspaceId =>
      exact run_reply_row .autonomyPolicies (hrecord autonomyPolicies workspaceId)
  | updateAutonomyPolicy workspaceId changes actorId =>
      exact run_reply_row .autonomyPolicies (run_bind_same (hrecord autonomyPolicies workspaceId))
  | createCompetitor workspaceId values actorId =>
      exact run_reply_row .competitors (run_named hf (createCompetitor context · values actorId)
        fun id => habsent id)
  | listCompetitors workspaceId page =>
      exact run_reply_page .competitors (run_named hf (listCompetitors context · page)
        fun id => habsent id)
  | getCompetitor workspaceId competitorId =>
      exact run_reply_row .competitors (run_get_competitor hview hf workspaceId competitorId)
  | updateCompetitor workspaceId competitorId changes actorId =>
      exact run_reply_row .competitors
        (run_bind_same (run_get_competitor hview hf workspaceId competitorId))
  | createJob request => exact run_reply_job (run_create_job hd hview hf request)
  | getJob jobId => exact run_reply_job (run_named hf (getJob context) fun id => habsent id)
  | transitionJob jobId expectedStatus targetStatus actorId =>
      refine run_reply_job ?_
      unfold transitionJob
      -- A transition that is never permitted is refused before the job is looked up.
      by_cases hvalid : (!validateTransition expectedStatus targetStatus) = true
      · rw [if_pos hvalid, if_pos hvalid]
      · rw [if_neg hvalid, if_neg hvalid]
        rcases hf jobId with heq | ⟨hunknown, hunknown'⟩
        · rw [heq]
        · rw [habsent _ hunknown, habsent _ hunknown']
  | reserveRetry jobId expectedAttemptNumber actorId =>
      exact run_reply_job (run_named hf (reserveRetry context · expectedAttemptNumber actorId)
        fun id => habsent id)
  | listJobs filter page =>
      exact run_bind_same (run_filtered hf
        (fun id => listJobs context { filter with workspaceId := id } page)
        (fun id hunknown => absent_bind (habsent id hunknown)) filter.workspaceId)
  | listRuns jobId page =>
      exact run_reply_page .runs (run_named hf (listRuns context · page) fun id => habsent id)
  | createProposal request =>
      exact run_reply_row .proposals
        (run_named hf (fun id => createProposal context { request with jobId := id })
          fun id => habsent id)
  | getProposal proposalId => exact run_reply_row .proposals (hsame .proposals proposalId)
  | listProposals filter page =>
      exact run_reply_page .proposals (run_filtered hf
        (fun id => listProposals context { filter with jobId := id } page)
        (fun id hunknown => absent_bind (habsent id hunknown)) filter.jobId)
  | decideProposal proposalId decision decidedBy reason =>
      exact run_reply_row .decisions
        (run_named hf (decideProposal context · decision decidedBy reason) fun id => habsent id)
  | listAuditEvents filter page =>
      exact run_reply_page .auditEvents (run_list_audit_events hd hview hf filter page)

end GrowthOs.Tenancy
