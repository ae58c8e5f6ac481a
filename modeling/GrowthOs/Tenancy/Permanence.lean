import GrowthOs.Db.Lasting
import GrowthOs.Db.Rules
import GrowthOs.Library.Sequential
import GrowthOs.Tenancy.Requests

/-!
# Nothing is lost

All operations of all tenants, in any order of their statements and with failures at any of them:
every foreign key names a row and every audit event a row of its tenant, no row is deleted or
changed in its lasting columns, and the onboarding of a workspace never goes back.
-/

namespace GrowthOs.Tenancy

open Library Db Foundation Execution

variable {before after : Open} {context : TenantContext} {t : Table}

/-- A new row is persisted with nothing held or owed. -/
theorem keeps_persist_new {id : Uuid} {row : Nat → t.Row} (ht : t ∉ before.tables)
    (howed : before.owed = []) (hplain : t ≠ .auditEvents) :
    Keeps before (persistNew t id row) .idle :=
  keeps_bind (keeps_on_integrity_error
    (keeps_bind (keeps_insert ht hplain) fun _ => keeps_commit (by simp [howed]))
    (keeps_raise _)) fun _ => keeps_refresh

/-- So is a change that is permitted. -/
theorem keeps_persist_change {loaded : t.Row} {change : Change t.Row} (ht : t ∉ before.tables)
    (howed : before.owed = []) (hchange : change.Permitted) :
    Keeps before (persistChange t loaded change) .idle :=
  keeps_bind (keeps_on_integrity_error
    (keeps_bind (keeps_flush_change ht hchange) fun _ => keeps_commit (by simp [howed]))
    (keeps_raise _)) fun _ => keeps_refresh

/-- So is a new row under an identifier that is drawn for it. -/
theorem keeps_persist_drawn {row : Uuid → Nat → t.Row} (hplain : t ≠ .auditEvents) :
    Keeps .idle (do let id ← uuid4; persistNew t id (row id)) .idle :=
  keeps_bind keeps_uuid4 fun _ => keeps_persist_new (by simp) rfl hplain

/-- The lookup of the tenant changes nothing. -/
theorem keeps_get_tenant : Keeps before (getTenant context) before :=
  keeps_bind keeps_scalar keeps_required

/-- An update of an owned row is kept. -/
theorem keeps_update_owned {id : Uuid} {change : Change t.Row} (hchange : change.Permitted) :
    Keeps .idle (updateOwned t context id change) .idle :=
  keeps_bind keeps_require_owned fun _ => keeps_persist_change (by simp) rfl hchange

/-- A connector is created behind two lookups. -/
theorem keeps_create_connector {workspaceId siteId : Uuid} {kind : String} :
    Keeps .idle (createConnector context workspaceId siteId kind) .idle :=
  keeps_bind keeps_require_owned fun _ => keeps_ite (fun _ => keeps_raise _) fun _ =>
    keeps_persist_drawn (by decide)

/-- The record of a workspace is found among the rows of the tenant. -/
theorem finds_get_record {kind : RecordKind} {workspaceId : Uuid} :
    Finds before context (getRecord kind context workspaceId) :=
  finds_bind keeps_require_owned fun _ => finds_scalar fun row hrow => by
    rw [Bool.and_eq_true, decide_eq_true_eq] at hrow
    exact hrow.1

/-- The audit event of a new record is written before the record that it names. -/
theorem keeps_create_record {kind : RecordKind} {workspaceId : Uuid}
    {row : Uuid → Nat → kind.table.Row} {fields : List String} {actorId : Option Uuid}
    (hkind : kind.table ≠ .auditEvents)
    (hrow : ∀ id time, rowName (row id time) = (context.tenantId, id)) :
    Keeps .idle (createRecord kind context workspaceId row fields actorId) .idle := by
  refine keeps_bind keeps_require_owned fun _ => keeps_bind keeps_uuid4 fun id =>
    keeps_bind keeps_uuid4 fun auditId => keeps_bind (keeps_rollback_on_error ?_) fun _ =>
      keeps_refresh
  exact keeps_bind (keeps_insert_audit (context.tenantId, id) (by simp) fun _ => rfl) fun _ =>
    keeps_bind (keeps_insert_row (context.tenantId, id) (by simpa using hkind) hkind (hrow id))
      fun _ => keeps_commit (List.Subset.refl _)

/-- An update of a record commits with its audit event. -/
theorem keeps_update_record {kind : RecordKind} {workspaceId : Uuid}
    {change : Change kind.table.Row} {fields : List String} {actorId : Option Uuid}
    (hkind : kind.table ≠ .auditEvents) (hchange : change.Permitted) :
    Keeps .idle (updateRecord kind context workspaceId change fields actorId) .idle := by
  refine keeps_bind_row finds_get_record fun loaded => keeps_bind keeps_uuid4 fun auditId =>
    keeps_bind (keeps_rollback_on_error ?_) fun _ => keeps_refresh
  exact keeps_bind (keeps_insert_audit (context.tenantId, rowId loaded) (by simp) fun _ => rfl)
    fun _ => keeps_bind (keeps_flush_change (by simpa using hkind) hchange) fun _ =>
      keeps_commit (List.Subset.refl _)

/-- So does the creation of a competitor. -/
theorem keeps_create_competitor {workspaceId : Uuid} {values : CompetitorValues}
    {actorId : Option Uuid} :
    Keeps .idle (createCompetitor context workspaceId values actorId) .idle := by
  refine keeps_bind keeps_require_owned fun _ => keeps_bind keeps_uuid4 fun id =>
    keeps_bind (keeps_rollback_on_error ?_) fun _ => keeps_refresh
  exact keeps_bind (keeps_insert_row (context.tenantId, id) (by simp) (by decide) fun _ => rfl)
    fun _ => keeps_bind keeps_uuid4 fun auditId =>
      keeps_bind (keeps_insert_audit (context.tenantId, id) (by simp) fun _ => rfl) fun _ =>
        keeps_commit (List.Subset.refl _)

/-- A competitor is found among the rows of the tenant. -/
theorem finds_get_competitor {workspaceId competitorId : Uuid} :
    @Finds .competitors before context (getCompetitor context workspaceId competitorId) :=
  @finds_bind _ .competitors _ _ _ _ keeps_require_owned fun _ => finds_scalar fun row hrow => by
    rw [Bool.and_eq_true, Bool.and_eq_true, decide_eq_true_eq] at hrow
    exact hrow.1.1

/-- Its update commits with its audit event. -/
theorem keeps_update_competitor {workspaceId competitorId : Uuid} {changes : CompetitorChanges}
    {actorId : Option Uuid} (hchange : @Change.Permitted .competitors changes.change) :
    Keeps .idle (updateCompetitor context workspaceId competitorId changes actorId) .idle := by
  refine keeps_bind_row finds_get_competitor fun loaded => keeps_bind keeps_uuid4 fun auditId =>
    keeps_bind (keeps_rollback_on_error ?_) fun _ => keeps_refresh
  exact keeps_bind (keeps_insert_audit (context.tenantId, loaded.id) (by simp)
    fun _ => rfl) fun _ =>
    keeps_bind (keeps_flush_change (by simp) hchange) fun _ => keeps_commit (List.Subset.refl _)

/-- The changes to a site keep the columns that last. -/
theorem permitted_site (changes : SiteChanges) : @Change.Permitted .sites (siteChange changes) := by
  unfold siteChange
  refine .and ?_ ?_
  all_goals exact @permitted_column .sites _ _ _ _ _ fun _ _ => rfl

/-- So do those to a business profile. -/
theorem permitted_business_profile (changes : BusinessProfileChanges) :
    @Change.Permitted .businessProfiles changes.change := by
  unfold BusinessProfileChanges.change
  refine .and ?_ (.and ?_ (.and ?_ (.and ?_ (.and ?_ ?_))))
  all_goals exact @permitted_column .businessProfiles _ _ _ _ _ fun _ _ => rfl

/-- So do those to a growth goal. -/
theorem permitted_growth_goal (changes : GrowthGoalChanges) :
    @Change.Permitted .growthGoals changes.change := by
  unfold GrowthGoalChanges.change
  refine .and ?_ (.and ?_ ?_)
  all_goals exact @permitted_column .growthGoals _ _ _ _ _ fun _ _ => rfl

/-- So do those to an autonomy policy. -/
theorem permitted_autonomy_policy (changes : AutonomyPolicyChanges) :
    @Change.Permitted .autonomyPolicies changes.change := by
  unfold AutonomyPolicyChanges.change
  refine .and ?_ ?_
  all_goals exact @permitted_column .autonomyPolicies _ _ _ _ _ fun _ _ => rfl

/-- So do those to a competitor. -/
theorem permitted_competitor (changes : CompetitorChanges) :
    @Change.Permitted .competitors changes.change := by
  unfold CompetitorChanges.change
  refine .and ?_ (.and ?_ ?_)
  all_goals exact @permitted_column .competitors _ _ _ _ _ fun _ _ => rfl

/-- The lookup of the latest run changes nothing. -/
theorem keeps_required_run {jobId : Uuid} : Keeps before (requiredRun context jobId) before :=
  keeps_bind keeps_select keeps_required

/-- Nor does the answer from the job of a key. -/
theorem keeps_idempotent_result {job : ExecutionJob} {request : JobRequest} :
    Keeps before (idempotentJobResult context job request) before :=
  keeps_bind keeps_required_run fun _ => keeps_ite (fun _ => keeps_raise _) fun _ => keeps_pure _

/-- `create_job` commits the job, its run and their event. -/
theorem keeps_create_job {request : JobRequest} :
    Keeps .idle (createJob context request) .idle := by
  refine keeps_bind keeps_scalar fun found => ?_
  cases found with
  | some existing => exact keeps_idempotent_result
  | none =>
      refine keeps_bind keeps_require_owned fun _ => keeps_bind keeps_uuid4 fun jobId =>
        keeps_bind keeps_uuid4 fun runId => keeps_bind keeps_uuid4 fun auditId => ?_
      refine keeps_bind (keeps_on_integrity_error ?_ ?_) fun stored => ?_
      · exact keeps_bind (keeps_insert_audit (context.tenantId, jobId) (by simp)
          fun _ => rfl) fun _ =>
          keeps_bind (keeps_insert_row (context.tenantId, jobId) (by simp) (by decide) fun _ => rfl)
            fun _ => keeps_bind (keeps_insert (by simp) (by decide)) fun _ =>
              keeps_bind (keeps_commit (List.Subset.refl _)) fun _ => keeps_pure _
      · refine keeps_bind keeps_scalar fun found => ?_
        cases found with
        | none => exact keeps_raise _
        | some winner => exact keeps_bind keeps_idempotent_result fun _ => keeps_pure _
      · cases stored with
        | some result => exact keeps_pure result
        | none =>
            exact keeps_bind keeps_refresh fun _ => keeps_bind keeps_refresh fun _ => keeps_pure _

/-- A lost compare-and-set rolls back and raises. -/
theorem keeps_lost {α : Type} :
    Keeps before (do rollback; .raise invalidTransition : Service α) after :=
  keeps_bind keeps_rollback fun _ => keeps_raise _

/-- `transition_job` commits its changes with their event. -/
theorem keeps_transition_job {jobId : Uuid} {expectedStatus targetStatus : ExecutionStatus}
    {actorId : Option Uuid} :
    Keeps .idle (transitionJob context jobId expectedStatus targetStatus actorId) .idle := by
  refine keeps_ite (fun _ => keeps_raise _) fun _ => keeps_bind_row finds_require_owned fun job =>
    keeps_bind keeps_required_run fun run => keeps_ite (fun _ => keeps_raise _) fun _ => ?_
  refine keeps_bind (keeps_update List.not_mem_nil fun _ _ => rfl) fun _ =>
    keeps_ite (fun _ => keeps_lost) fun _ => ?_
  refine keeps_bind (keeps_update (by simp) fun _ _ => rfl) fun _ =>
    keeps_ite (fun _ => keeps_lost) fun _ => keeps_bind keeps_uuid4 fun auditId => ?_
  refine keeps_bind (keeps_on_integrity_error ?_ (keeps_raise _)) fun _ => ?_
  · exact keeps_bind (keeps_insert_audit (context.tenantId, job.id) (by simp) fun _ => rfl) fun _ =>
      keeps_commit (List.Subset.refl _)
  · exact keeps_bind keeps_refresh fun _ => keeps_bind keeps_refresh fun _ => keeps_pure _

/-- So does `reserve_retry`. -/
theorem keeps_reserve_retry {jobId : Uuid} {expectedAttemptNumber : Int} {actorId : Option Uuid} :
    Keeps .idle (reserveRetry context jobId expectedAttemptNumber actorId) .idle := by
  refine keeps_bind_row finds_require_owned fun job => keeps_bind keeps_required_run fun prior =>
    keeps_ite (fun _ => keeps_raise _) fun _ => ?_
  refine keeps_bind (keeps_update List.not_mem_nil fun _ _ => rfl) fun _ =>
    keeps_ite (fun _ => keeps_lost) fun _ => keeps_bind keeps_uuid4 fun newRunId =>
      keeps_bind keeps_uuid4 fun auditId => ?_
  refine keeps_bind (keeps_on_integrity_error ?_ (keeps_raise _)) fun _ => ?_
  · exact keeps_bind (keeps_insert (by simp) (by decide)) fun _ =>
      keeps_bind (keeps_insert_audit (context.tenantId, job.id) (by simp) fun _ => rfl) fun _ =>
        keeps_commit (List.Subset.refl _)
  · exact keeps_bind keeps_refresh fun _ => keeps_bind keeps_refresh fun _ => keeps_pure _

/-- So does `create_proposal`. -/
theorem keeps_create_proposal {request : ProposalRequest} :
    Keeps .idle (createProposal context request) .idle := by
  refine keeps_bind keeps_require_owned fun _ => keeps_ite (fun _ => keeps_raise _) fun _ =>
    keeps_bind keeps_uuid4 fun proposalId => keeps_bind keeps_uuid4 fun auditId => ?_
  refine keeps_bind (keeps_on_integrity_error ?_ (keeps_raise _)) fun _ => keeps_refresh
  exact keeps_bind (keeps_insert_row (context.tenantId, proposalId) (by simp) (by decide) fun _ =>
    rfl)
    fun _ => keeps_bind (keeps_insert_audit (context.tenantId, proposalId) (by simp) fun _ => rfl)
      fun _ => keeps_commit (List.Subset.refl _)

/-- So does `decide_proposal`. -/
theorem keeps_decide_proposal {proposalId decidedBy : Uuid} {decision : ApprovalDecisionValue}
    {reason : Option String} :
    Keeps .idle (decideProposal context proposalId decision decidedBy reason) .idle := by
  refine keeps_bind_row finds_require_owned fun proposal =>
    keeps_ite (fun _ => keeps_raise _) fun _ =>
    keeps_bind keeps_uuid4 fun recordId => keeps_bind keeps_uuid4 fun auditId => ?_
  refine keeps_bind (keeps_on_integrity_error ?_ (keeps_raise _)) fun _ => keeps_refresh
  exact keeps_bind (keeps_update_loaded List.not_mem_nil fun _ _ => rfl) fun _ =>
    keeps_bind (keeps_insert (by simp) (by decide)) fun _ =>
      keeps_bind (keeps_insert_audit (context.tenantId, proposal.id) (by simp)
        fun _ => rfl) fun _ =>
        keeps_commit (List.Subset.refl _)

/-- The pairs of a page change nothing. -/
theorem keeps_job_results (jobs : List (ExecutionJob × Option ExecutionRun)) :
    Keeps before (jobResults jobs) before := by
  induction jobs with
  | nil => exact keeps_pure _
  | cons entry rest ih =>
      obtain ⟨job, run⟩ := entry
      cases run with
      | none => exact keeps_raise _
      | some run => exact keeps_bind ih fun _ => keeps_pure _

/-- Nor does a filter by an identifier. -/
theorem keeps_require_filter {filter : Option Uuid} :
    Keeps before (requireFilter t context filter) before := by
  cases filter with
  | none => exact keeps_pure _
  | some id => exact keeps_bind keeps_require_owned fun _ => keeps_pure _

/-- Nor does `list_jobs`. -/
theorem keeps_list_jobs {filter : JobFilter} {page : PageRequest} :
    Keeps before (listJobs context filter page) before := by
  refine keeps_bind keeps_require_filter fun _ => keeps_bind ?_ fun found =>
    keeps_bind (keeps_job_results found.1) fun _ => keeps_pure _
  exact keeps_bind keeps_list_page fun _ => keeps_ite (fun _ => keeps_pure _) fun _ =>
    keeps_bind keeps_select fun _ => keeps_pure _

/-- A reply with a row keeps what its service keeps. -/
theorem keeps_reply_row {p : Service t.Row} (hp : Keeps .idle p .idle) :
    Keeps .idle (replyRow t p) .idle :=
  keeps_bind hp fun _ => keeps_pure _

/-- So does a reply with a page. -/
theorem keeps_reply_page {p : Service (List t.Row × Nat)} (hp : Keeps .idle p .idle) :
    Keeps .idle (replyPage t p) .idle :=
  keeps_bind hp fun _ => keeps_pure _

/-- So does a reply with a job. -/
theorem keeps_reply_job {p : Service JobResult} (hp : Keeps .idle p .idle) :
    Keeps .idle (replyJob p) .idle :=
  keeps_bind hp fun _ => keeps_pure _

/-- Every operation starts and ends with nothing held or owed. -/
theorem keeps_perform (operation : Operation) : Keeps .idle (perform context operation) .idle := by
  cases operation with
  | createTenant name => exact keeps_reply_row (keeps_persist_drawn (by decide))
  | getTenant => exact @keeps_reply_row .tenants _ keeps_get_tenant
  | updateTenant name =>
      exact keeps_reply_row (keeps_bind keeps_get_tenant fun _ =>
        keeps_persist_change (by simp) rfl (@permitted_column .tenants _ _ _ _ _ fun _ _ => rfl))
  | createWorkspace name =>
      exact keeps_reply_row (keeps_bind keeps_get_tenant fun _ => keeps_persist_drawn (by decide))
  | createMembership workspaceId userId role =>
      exact keeps_reply_row (keeps_bind keeps_require_owned fun _ =>
        keeps_persist_drawn (by decide))
  | createSite workspaceId name url =>
      exact keeps_reply_row (keeps_bind keeps_require_owned fun _ =>
        keeps_persist_drawn (by decide))
  | createConnector workspaceId siteId kind =>
      exact @keeps_reply_row .connectors _ keeps_create_connector
  | getOwned model resourceId => exact keeps_reply_row keeps_require_owned
  | listOwned model page =>
      exact keeps_reply_page (keeps_bind keeps_get_tenant fun _ => keeps_list_page)
  | updateWorkspace resourceId name =>
      exact keeps_reply_row (keeps_update_owned
        (@permitted_column .workspaces _ _ _ _ _ fun _ _ => rfl))
  | updateMembership resourceId role =>
      exact keeps_reply_row (keeps_update_owned
        (@permitted_column .memberships _ _ _ _ _ fun _ _ => rfl))
  | updateSite resourceId changes =>
      exact keeps_reply_row (keeps_update_owned (permitted_site changes))
  | updateConnector resourceId status =>
      exact keeps_reply_row (keeps_update_owned
        (@permitted_column .connectors _ _ _ _ _ fun _ _ => rfl))
  | getOnboardingStatus workspaceId =>
      exact keeps_bind (keeps_bind keeps_require_owned fun _ => keeps_bind keeps_select fun _ =>
        keeps_pure _) fun _ => keeps_pure _
  | createBusinessProfile workspaceId values actorId =>
      exact keeps_reply_row (keeps_create_record (by decide) fun _ _ => rfl)
  | getBusinessProfile workspaceId => exact keeps_reply_row (keeps_of_finds finds_get_record)
  | updateBusinessProfile workspaceId changes actorId =>
      exact keeps_reply_row (keeps_update_record (by decide) (permitted_business_profile changes))
  | createPrimaryGrowthGoal workspaceId values actorId =>
      exact keeps_reply_row (keeps_create_record (by decide) fun _ _ => rfl)
  | getPrimaryGrowthGoal workspaceId => exact keeps_reply_row (keeps_of_finds finds_get_record)
  | updatePrimaryGrowthGoal workspaceId changes actorId =>
      exact keeps_reply_row (keeps_update_record (by decide) (permitted_growth_goal changes))
  | createAutonomyPolicy workspaceId values actorId =>
      exact keeps_reply_row (keeps_create_record (by decide) fun _ _ => rfl)
  | getAutonomyPolicy workspaceId => exact keeps_reply_row (keeps_of_finds finds_get_record)
  | updateAutonomyPolicy workspaceId changes actorId =>
      exact keeps_reply_row (keeps_update_record (by decide) (permitted_autonomy_policy changes))
  | createCompetitor workspaceId values actorId => exact keeps_reply_row keeps_create_competitor
  | listCompetitors workspaceId page =>
      exact keeps_reply_page (keeps_bind keeps_require_owned fun _ => keeps_list_page)
  | getCompetitor workspaceId competitorId =>
      exact @keeps_reply_row .competitors _ (keeps_of_finds finds_get_competitor)
  | updateCompetitor workspaceId competitorId changes actorId =>
      exact keeps_reply_row (keeps_update_competitor (permitted_competitor changes))
  | createJob request => exact keeps_reply_job keeps_create_job
  | getJob jobId =>
      exact keeps_reply_job (keeps_bind keeps_require_owned fun _ => keeps_bind keeps_required_run
        fun _ => keeps_pure _)
  | transitionJob jobId expectedStatus targetStatus actorId =>
      exact keeps_reply_job keeps_transition_job
  | reserveRetry jobId expectedAttemptNumber actorId => exact keeps_reply_job keeps_reserve_retry
  | listJobs filter page => exact keeps_bind keeps_list_jobs fun _ => keeps_pure _
  | listRuns jobId page =>
      exact keeps_reply_page (keeps_bind keeps_require_owned fun _ => keeps_list_page)
  | createProposal request => exact @keeps_reply_row .proposals _ keeps_create_proposal
  | getProposal proposalId => exact keeps_reply_row keeps_require_owned
  | listProposals filter page =>
      exact keeps_reply_page (keeps_bind keeps_require_filter fun _ => keeps_list_page)
  | decideProposal proposalId decision decidedBy reason =>
      exact @keeps_reply_row .decisions _ keeps_decide_proposal
  | listAuditEvents filter page => exact keeps_reply_page keeps_list_page

/-! ## Requests of all tenants -/

/-- An operation that a tenant asks for. -/
structure TenantRequest where
  context : TenantContext
  operation : Operation

/-- Serve a request. -/
def serveTenant (request : TenantRequest) : Service Reply :=
  perform request.context request.operation

/-- The primary keys, the unique and check constraints and the foreign keys hold. -/
def Intact (d : Database schema) : Prop := Referential d ∧ Consistent d

/-- The tables of the onboarding. -/
def onboardingOf (context : TenantContext) (workspaceId : Uuid) (d : Database schema) :
    OnboardingRecordStatus where
  hasSite := (d .sites).any fun site =>
    site.tenantId = context.tenantId && site.workspaceId = workspaceId
  hasBusinessProfile := (d .businessProfiles).any fun profile =>
    profile.tenantId = context.tenantId && profile.workspaceId = workspaceId
  hasPrimaryGrowthGoal := (d .growthGoals).any fun goal =>
    goal.tenantId = context.tenantId && goal.workspaceId = workspaceId
  hasAutonomyPolicy := (d .autonomyPolicies).any fun policy =>
    policy.tenantId = context.tenantId && policy.workspaceId = workspaceId

/-- The steps of the onboarding, with the flag of each. -/
def orderedSteps (status : OnboardingRecordStatus) : List (OnboardingStep × Bool) :=
  [(.site, status.hasSite), (.businessProfile, status.hasBusinessProfile),
    (.primaryGrowthGoal, status.hasPrimaryGrowthGoal),
    (.autonomyPolicy, status.hasAutonomyPolicy)]

/-- The steps that are missing. -/
def missingOf (status : OnboardingRecordStatus) : List OnboardingStep :=
  ((orderedSteps status).filter fun step => !step.2).map (·.1)

/-- The answer tells the onboarding at a database between the two. -/
def Tells (context : TenantContext) (workspaceId : Uuid) (arrived seen : Database schema)
    (status : OnboardingStatusResponse) : Prop :=
  ∃ d, lastingColumns.Lasts arrived d ∧ lastingColumns.Lasts d seen ∧
    status.missingSteps = missingOf (onboardingOf context workspaceId d) ∧
    status.isFoundationComplete = (orderedSteps (onboardingOf context workspaceId d)).all (·.2)

/-- What a request ends in. -/
def Ends (request : TenantRequest) (arrived : Database schema) (result : Except ServiceError Reply)
    (s : Session schema) : Prop :=
  ∀ workspaceId status, request.operation = .getOnboardingStatus workspaceId →
    result = .ok (.onboarding status) → Tells request.context workspaceId arrived s.seen status

/-- The onboarding status tells a database between its arrival and its answer. -/
theorem wp_onboarding_status {watched : Prop} (context : TenantContext) (workspaceId : Uuid)
    (d : Database schema) :
    (lastingColumns.rules watched).wp
    (perform context (.getOnboardingStatus workspaceId)) (.start d)
      (Ends ⟨context, .getOnboardingStatus workspaceId⟩ d) := by
  have hfailed : ∀ (e : ServiceError) (s : Session schema),
      Ends ⟨context, .getOnboardingStatus workspaceId⟩ d (.error e) s := by
    intro e s _ _ _ h
    cases h
  refine each_bind (each_bind (wp_require_owned fun d₁ hd₁ => ⟨fun _ _ _ _ => ?_, fun _ =>
    hfailed _ _, hfailed _ _⟩))
  refine each_bind (Rules.wp_select fun d₂ hd₂ => ⟨?_, hfailed _ _⟩)
  rintro _ status ⟨rfl⟩ hreply
  obtain rfl := Reply.onboarding.inj (Except.ok.inj hreply)
  exact ⟨d₂, (lastingColumns.rules watched).trans hd₁.evolves hd₂.evolves,
    (lastingColumns.rules watched).refl d₂, rfl, rfl⟩

/-- Every request follows the rules and ends as it should. -/
theorem serves_tenants {watched : Prop} :
    Serves (lastingColumns.rules watched) serveTenant Ends where
  start request d hd := by
    obtain ⟨context, operation⟩ := request
    cases operation with
    | getOnboardingStatus workspaceId => exact wp_onboarding_status context workspaceId d
    | _ =>
        refine each_post (wp_of_keeps (keeps_perform _) d) fun _ _ _ => ?_
        rintro _ _ ⟨⟩
  close _ _ _ _ h := h

/-- A reachable system. -/
abbrev TenantsReached (sys : System schema ServiceError Reply TenantRequest) : Prop :=
  Reachable serveTenant Intact sys

/-- A reachable system is sound. -/
theorem sound_of_tenants {sys : System schema ServiceError Reply TenantRequest}
    (h : TenantsReached sys) : Sound (lastingColumns.rules False) Ends sys :=
  sound_of_reachable serves_tenants (fun _ hd => ⟨⟨hd.1, False.elim⟩, hd.2⟩) h

/-- In every order of the statements of all requests the constraints hold, and from one committed
database to a later one no row is lost: its decision or audit event is the same, and the columns of
every other row change only where an operation may update them. -/
theorem rows_last {sys sys' : System schema ServiceError Reply TenantRequest}
    (h : TenantsReached sys) (hsteps : Relation.ReflTransGen (Step serveTenant) sys sys') :
    Intact sys.committed ∧
      ∀ t, ∀ row ∈ sys.committed t, ∃ row' ∈ sys'.committed t,
      keptColumns row' = keptColumns row := by
  have hsound := sound_of_tenants h
  exact ⟨⟨hsound.invariant.1, hsound.consistent⟩, (sound_of_steps serves_tenants hsound hsteps).2⟩

/-- A database with the workspace 2 of the tenant 1. -/
def startedDatabase : Database schema
  | .tenants => [⟨1, 0, 0, "Tenant"⟩]
  | .workspaces => [⟨2, 0, 0, 1, "Workspace"⟩]
  | _ => []

/-- The constraints hold of the sample database. -/
theorem started_intact : Intact startedDatabase := by
  refine ⟨fun t => ?_, fun t => ?_⟩
  · cases t <;> decide
  · cases t <;> exact ⟨by decide, by simp [startedDatabase], by decide⟩

/-- The number of a statement is its clock reading, and identifiers count from 100 on. -/
def startedSupply : Supply := ⟨fun n => 100 + n, id, fun _ => false⟩

/-- The tenant asks for an operation. -/
def startedRequest (operation : Operation) : TenantRequest := ⟨⟨1⟩, operation⟩

/-- The system after a site is created. -/
def sitedState : System schema ServiceError Reply TenantRequest × Nat :=
  serveAll serveTenant startedSupply startedDatabase
    [startedRequest (.createSite 2 "Home" "https://example.com/")]

/-- The system after the onboarding is asked for. -/
def askedState : System schema ServiceError Reply TenantRequest × Nat :=
  serveAlone serveTenant startedSupply sitedState (startedRequest (.getOnboardingStatus 2))

/-- The system after a goal is created, and the workspace renamed. -/
def renamedState : System schema ServiceError Reply TenantRequest × Nat :=
  [startedRequest (.createPrimaryGrowthGoal 2 ⟨"Grow", none, none⟩ none),
    startedRequest (.updateWorkspace 2 "Renamed")].foldl (serveAlone serveTenant startedSupply)
      askedState

/-- The system after the onboarding is asked for again. -/
def answeredState : System schema ServiceError Reply TenantRequest × Nat :=
  serveAlone serveTenant startedSupply renamedState (startedRequest (.getOnboardingStatus 2))

/-- The sample system is reachable, and idle when the onboarding is asked for. -/
theorem asked_reached : TenantsReached askedState.1 ∧ Idle askedState.1 := by
  obtain ⟨hsteps, hidle⟩ := serve_all_steps serveTenant startedSupply
    [startedRequest (.createSite 2 "Home" "https://example.com/")] (⟨startedDatabase, []⟩, 0)
    (by simp [Idle])
  obtain ⟨hasked, hidle'⟩ := serve_alone_steps serveTenant startedSupply hidle
    (startedRequest (.getOnboardingStatus 2))
  exact ⟨⟨startedDatabase, started_intact, hsteps.trans hasked⟩, hidle'⟩

/-- It goes on to the second answer. -/
theorem answered_steps :
    Relation.ReflTransGen (Step serveTenant) askedState.1 answeredState.1 := by
  obtain ⟨hsteps, hidle⟩ := serve_all_steps serveTenant startedSupply
    [startedRequest (.createPrimaryGrowthGoal 2 ⟨"Grow", none, none⟩ none),
      startedRequest (.updateWorkspace 2 "Renamed")] askedState asked_reached.2
  exact hsteps.trans (serve_alone_steps serveTenant startedSupply hidle _).1

/-- The workspace is still there when it has been renamed. -/
theorem rows_last_sample :
    (∀ row ∈ askedState.1.committed .workspaces,
      ∃ row' ∈ answeredState.1.committed .workspaces,
        @keptColumns .workspaces row' = @keptColumns .workspaces row) ∧
      (askedState.1.committed .workspaces).map (·.name) = ["Workspace"] ∧
      (answeredState.1.committed .workspaces).map (·.name) = ["Renamed"] :=
  ⟨(rows_last asked_reached.1 answered_steps).2 .workspaces, by decide +kernel, by decide +kernel⟩

section

variable {d d' : Database schema}

/-- A row of a workspace lasts. -/
theorem any_lasts (h : lastingColumns.Lasts d d') {condition : t.Row → Bool}
    (hkept : ∀ row row', keptColumns row' = keptColumns row → condition row' = condition row)
    (hany : (d t).any condition = true) : (d' t).any condition = true := by
  obtain ⟨row, hrow, hcondition⟩ := List.any_eq_true.mp hany
  obtain ⟨row', hrow', heq⟩ := h t row hrow
  exact List.any_eq_true.mpr ⟨row', hrow', (hkept row row' heq).trans hcondition⟩

/-- The flag of a step. -/
def isDone (status : OnboardingRecordStatus) : OnboardingStep → Bool
  | .site => status.hasSite
  | .businessProfile => status.hasBusinessProfile
  | .primaryGrowthGoal => status.hasPrimaryGrowthGoal
  | .autonomyPolicy => status.hasAutonomyPolicy

/-- Steps that are done stay done. -/
def Advanced (status status' : OnboardingRecordStatus) : Prop :=
  ∀ step, isDone status step = true → isDone status' step = true

/-- What lasts advances the onboarding. -/
theorem advanced_of_lasts (h : lastingColumns.Lasts d d') (context : TenantContext)
    (workspaceId : Uuid) :
    Advanced (onboardingOf context workspaceId d) (onboardingOf context workspaceId d') := by
  intro step
  cases step with
  | site =>
      refine any_lasts (t := .sites) h fun row row' heq => ?_
      obtain ⟨-, -, -, htenant, hworkspace, -⟩ := Site.mk.inj heq
      rw [htenant, hworkspace]
  | businessProfile =>
      refine any_lasts (t := .businessProfiles) h fun row row' heq => ?_
      obtain ⟨-, -, -, htenant, hworkspace, -⟩ := WorkspaceBusinessProfile.mk.inj heq
      rw [htenant, hworkspace]
  | primaryGrowthGoal =>
      refine any_lasts (t := .growthGoals) h fun row row' heq => ?_
      obtain ⟨-, -, -, htenant, hworkspace, -⟩ := WorkspacePrimaryGrowthGoal.mk.inj heq
      rw [htenant, hworkspace]
  | autonomyPolicy =>
      refine any_lasts (t := .autonomyPolicies) h fun row row' heq => ?_
      obtain ⟨-, -, -, htenant, hworkspace, -⟩ := WorkspaceAutonomyPolicy.mk.inj heq
      rw [htenant, hworkspace]

end

/-- The onboarding steps in their order. -/
def onboardingSteps : List OnboardingStep :=
  [.site, .businessProfile, .primaryGrowthGoal, .autonomyPolicy]

/-- The steps of an onboarding in their order. -/
theorem ordered_steps_eq (status : OnboardingRecordStatus) :
    orderedSteps status = onboardingSteps.map fun step => (step, isDone status step) := rfl

/-- An onboarding that has advanced misses no further step. -/
theorem missing_of_advanced {status status' : OnboardingRecordStatus}
    (h : Advanced status status') :
    (missingOf status').Sublist (missingOf status) := by
  have hmissing : ∀ status, missingOf status = onboardingSteps.filter fun step =>
      !isDone status step := by
    intro status
    unfold missingOf
    rw [ordered_steps_eq, List.filter_map, List.map_map]
    exact List.map_id _
  rw [hmissing, hmissing]
  refine List.monotone_filter_right _ fun step hstep => ?_
  cases hdone : isDone status step with
  | false => rfl
  | true =>
      rw [h step hdone] at hstep
      cases hstep

/-- A complete onboarding stays complete. -/
theorem complete_of_advanced {status status' : OnboardingRecordStatus} (h : Advanced status status')
    (hcomplete : (orderedSteps status).all (·.2) = true) :
    (orderedSteps status').all (·.2) = true := by
  rw [ordered_steps_eq, List.all_map, List.all_eq_true] at hcomplete ⊢
  intro step hstep
  exact h step (hcomplete step hstep)

/-- The onboarding of a workspace never goes back: a request that arrives after another one has been
answered is told no step that the other one was not told to be missing, whatever requests of any
tenants lie between or run at the same time. -/
theorem onboarding_advances {sys sys' : System schema ServiceError Reply TenantRequest}
    (h : TenantsReached sys) (hsteps : Relation.ReflTransGen (Step serveTenant) sys sys')
    {context : TenantContext} {workspaceId : Uuid}
    {c c' : Client schema ServiceError Reply TenantRequest}
    (hc : c ∈ sys.clients) (hc' : c' ∈ sys'.clients.drop sys.clients.length)
    (hrequest : c.request = ⟨context, .getOnboardingStatus workspaceId⟩)
    (hrequest' : c'.request = ⟨context, .getOnboardingStatus workspaceId⟩)
    {status status' : OnboardingStatusResponse}
    (hdone : c.program = .done (.ok (.onboarding status)))
    (hdone' : c'.program = .done (.ok (.onboarding status'))) :
    status'.missingSteps.Sublist status.missingSteps ∧
      (status.isFoundationComplete = true → status'.isFoundationComplete = true) := by
  have hsound := sound_of_tenants h
  have hlater : ∀ sys'', Relation.ReflTransGen (Step serveTenant) sys sys'' →
      lastingColumns.Lasts sys.committed sys''.committed := fun sys'' hsteps'' =>
    (sound_of_steps serves_tenants hsound hsteps'').2
  have hsound' := (sound_of_steps serves_tenants hsound hsteps).1
  have htells : Tells context workspaceId c.arrived c.session.seen status := by
    have hends := post_of_sound hsound hc hdone
    rw [hrequest] at hends
    exact hends workspaceId status rfl rfl
  have htells' : Tells context workspaceId c'.arrived c'.session.seen status' := by
    have hends := post_of_sound hsound' (List.mem_of_mem_drop hc') hdone'
    rw [hrequest'] at hends
    exact hends workspaceId status' rfl rfl
  obtain ⟨d, -, hseen, hmissing, hcomplete⟩ := htells
  obtain ⟨d', harrived, -, hmissing', hcomplete'⟩ := htells'
  -- The first answer is about an earlier database than the second request arrived at.
  have hlasts : lastingColumns.Lasts d d' :=
    (lastingColumns.rules False).trans
      ((lastingColumns.rules False).trans hseen (hsound.clients c hc).evolves)
      ((lastingColumns.rules False).trans (arrived_of_drop hsteps hlater hc') harrived)
  have hadvanced := advanced_of_lasts hlasts context workspaceId
  rw [hmissing, hmissing', hcomplete, hcomplete']
  exact ⟨missing_of_advanced hadvanced, complete_of_advanced hadvanced⟩

/-- The first answer. -/
def firstStatus : OnboardingStatusResponse :=
  ⟨1, 2, true, false, false, false, false, [.businessProfile, .primaryGrowthGoal, .autonomyPolicy]⟩

/-- The second answer. -/
def secondStatus : OnboardingStatusResponse :=
  ⟨1, 2, true, false, true, false, false, [.businessProfile, .autonomyPolicy]⟩

/-- The two sample answers. -/
theorem onboarding_advances_sample :
    secondStatus.missingSteps.Sublist firstStatus.missingSteps ∧
      (firstStatus.isFoundationComplete = true → secondStatus.isFoundationComplete = true) := by
  have hfirst := mem_drop_serve_alone serveTenant startedSupply sitedState
    (startedRequest (.getOnboardingStatus 2))
  have hsecond := mem_drop_serve_alone serveTenant startedSupply renamedState
    (startedRequest (.getOnboardingStatus 2))
  have hlater : ∀ c ∈ answeredState.1.clients.drop renamedState.1.clients.length,
      c ∈ answeredState.1.clients.drop askedState.1.clients.length := by
    intro c hc
    rw [show renamedState.1.clients.length = askedState.1.clients.length + 2 from rfl,
      ← List.drop_drop] at hc
    exact List.mem_of_mem_drop hc
  exact onboarding_advances asked_reached.1 answered_steps (List.mem_of_mem_drop hfirst)
    (hlater _ hsecond) rfl rfl (congrArg Program.done (by rfl)) (congrArg Program.done (by rfl))

end GrowthOs.Tenancy
