import GrowthOs.Execution.Idempotency
import GrowthOs.Tenancy.Requests

/-!
# Every operation is local to its tenant
-/

namespace GrowthOs.Tenancy

open Library Db Ownership Foundation Execution

variable {owners : Uuid → Bool} {fresh : Uuid → Prop} {context : TenantContext}
  {s : Session schema} {α : Type}

/-- The rows that a query of the tenant selects. -/
theorem filter_of_own {t : Table} {condition : t.Row → Bool} {view view' : Database schema}
    (hcondition : ∀ row, condition row = true → owners (rowTenant row) = true)
    (htwin : (tenancy owners).Twin fresh view view') :
    (view t).filter condition = (view' t).filter condition := by
  have hrows : ∀ view : Database schema,
      (view t).filter condition = ((tenancy owners).own view t).filter condition := by
    intro view
    rw [own, List.filter_filter]
    refine List.filter_congr fun row _ => ?_
    cases hrow : condition row with
    | true =>
        show true = (true && owners (rowTenant row))
        rw [hcondition row hrow]
        rfl
    | false => rfl
  rw [hrows view, hrows view', htwin.own]

/-- A page of rows of the owners is local. -/
theorem local_list_page {t : Table} {condition : t.Row → Bool} {key : t.Row → Int}
    {page : PageRequest} {Q : Except ServiceError (List t.Row × Nat) → Session schema → Prop}
    (hcondition : ∀ row, condition row = true → owners (rowTenant row) = true)
    (herror : ∀ e s', Q (.error e) s')
    (hok : ∀ result s', Grows owners s s' → Q (.ok result) s') :
    TenantLocal owners fresh (listPage t condition key page) s Q := by
  refine each_bind (local_select (fun view' htwin => ?_) herror fun s1 h1 => ?_)
  · rw [filter_of_own hcondition htwin]
  · refine each_bind (local_select (fun view' htwin => ?_) herror fun s2 h2 => ?_)
    · rw [filter_of_own hcondition htwin]
    · exact hok _ s2 (h1.trans h2)

/-- So is the flush of a change to a row that is known, which keeps its identifier and tenant. -/
theorem local_flush_change {t : Table} {loaded : t.Row} {change : Change t.Row}
    {Q : Except ServiceError Unit → Session schema → Prop} (hkeeps : change.Keeps)
    (hknown : Known owners s t (rowId loaded)) (herror : ∀ e s', Q (.error e) s')
    (hok : ∀ s', Grows owners s s' → Q (.ok ()) s') :
    TenantLocal owners fresh (flushChange t loaded change) s Q := by
  refine each_ite (fun _ => local_update_loaded (fun time row => ?_) hknown herror hok)
    fun _ => hok s fun _ _ h => h
  rw [row_id_touch, row_tenant_touch, hkeeps.id, hkeeps.tenant]
  exact ⟨rfl, rfl⟩

/-- A handler that rolls back adds nothing. -/
theorem local_rollback_on_error {body : Service α}
    {Q : Except ServiceError α → Session schema → Prop} (herror : ∀ e s', Q (.error e) s')
    (hbody : TenantLocal owners fresh body s fun result s' => match result with
      | .ok a => Q (.ok a) s'
      | .error _ => True) :
    TenantLocal owners fresh (rollbackOnError body) s Q := by
  have hrollback : ∀ (e : ServiceError) s', TenantLocal owners fresh
      (do rollback; .raise e) s' Q := fun e s' =>
    each_bind (local_rollback herror fun s'' => herror e s'')
  refine each_handle (each_post hbody fun result s' hresult => ?_)
  match result, hresult with
  | .ok a, hQ => exact hQ
  | .error (.database .integrity), _ => exact hrollback .conflict s'
  | .error .notFound, _ => exact hrollback _ s'
  | .error .conflict, _ => exact hrollback _ s'
  | .error (.invalidStateTransition message), _ => exact hrollback _ s'
  | .error (.database .operational), _ => exact hrollback _ s'
  | .error .invalidRequest, _ => exact hrollback _ s'
  | .error .staleData, _ => exact hrollback _ s'

/-- A new row of an owner under a fresh identifier is persisted locally. -/
theorem local_persist_new {t : Table} {id : Uuid} {row : Nat → t.Row}
    (hrow : ∀ time, owners (rowTenant (row time)) = true ∧ rowId (row time) = id)
    (hfresh : fresh id) :
    TenantLocal owners fresh (persistNew t id row) s fun _ _ => True := by
  refine each_bind (local_on_integrity_error (fun _ _ => trivial) (fun _ => trivial) ?_)
  refine each_bind (local_insert (fun time => (hrow time).1) (fun time => (hrow time).2) hfresh
    (fun _ _ => trivial) fun s1 _ _ => ?_)
  refine local_commit (fun _ _ => trivial) fun s2 _ => ?_
  exact local_refresh (Or.inl hfresh) (fun _ _ => trivial) fun _ _ _ => trivial

/-- So is a change to a known row. -/
theorem local_persist_change {t : Table} {loaded : t.Row} {change : Change t.Row}
    (hkeeps : change.Keeps) (hknown : Known owners s t (rowId loaded)) :
    TenantLocal owners fresh (persistChange t loaded change) s fun _ _ => True := by
  refine each_bind (local_on_integrity_error (fun _ _ => trivial) (fun _ => trivial) ?_)
  refine each_bind (local_flush_change hkeeps hknown (fun _ _ => trivial) fun s1 h1 => ?_)
  refine local_commit (fun _ _ => trivial) fun s2 h2 => ?_
  exact local_refresh (Or.inr (h2 _ _ (h1 _ _ hknown))) (fun _ _ => trivial) fun _ _ _ => trivial

/-- The tenant that is found is known. -/
theorem local_get_tenant {Q : Except ServiceError Tenant → Session schema → Prop}
    (howner : owners context.tenantId = true) (herror : ∀ e s', Q (.error e) s')
    (hok : ∀ tenant s', Known owners s' .tenants tenant.id → Q (.ok tenant) s') :
    TenantLocal owners fresh (getTenant context) s Q := by
  refine each_bind (local_scalar (fun tenant htenant => ?_) herror
    (fun tenant s' _ hknown _ => hok tenant s' hknown) fun s' _ => herror _ s')
  show owners tenant.id = true
  rw [decide_eq_true_eq.mp htenant]
  exact howner

/-- A new tenant owns itself. -/
theorem local_create_tenant {name : String} (hfresh : ∀ id, fresh id → owners id = true) :
    TenantLocal owners fresh (createTenant name) s fun _ _ => True := by
  refine each_bind (local_uuid4 (fun _ _ => trivial) fun id s1 hid _ => ?_)
  exact local_persist_new (fun _ => ⟨hfresh id hid, rfl⟩) hid

/-- A tenant updates its own row. -/
theorem local_update_tenant {name : String} (howner : owners context.tenantId = true) :
    TenantLocal owners fresh (updateTenant context name) s fun _ _ => True := by
  refine each_bind (local_get_tenant howner (fun _ _ => trivial) fun tenant s1 hknown => ?_)
  exact @local_persist_change owners fresh s1 .tenants tenant (tenantChange name)
    (Change.keeps_column fun _ _ => ⟨rfl, rfl⟩) hknown

/-- A new row of the tenant with a drawn identifier. -/
theorem local_persist_drawn {t : Table} {row : Uuid → Nat → t.Row}
    (howner : owners context.tenantId = true)
    (hrow : ∀ id time, rowTenant (row id time) = context.tenantId ∧ rowId (row id time) = id) :
    TenantLocal owners fresh (do let id ← uuid4; persistNew t id (row id)) s fun _ _ => True := by
  refine each_bind (local_uuid4 (fun _ _ => trivial) fun id s1 hid _ => ?_)
  refine local_persist_new (fun time => ⟨?_, (hrow id time).2⟩) hid
  rw [(hrow id time).1]
  exact howner

/-- A workspace is created for the tenant of the context. -/
theorem local_create_workspace {name : String} (howner : owners context.tenantId = true) :
    TenantLocal owners fresh (createWorkspace context name) s fun _ _ => True := by
  refine each_bind (local_get_tenant howner (fun _ _ => trivial) fun _ s1 _ => ?_)
  exact local_persist_drawn howner fun _ _ => ⟨rfl, rfl⟩

/-- So is a membership. -/
theorem local_create_membership {workspaceId userId : Uuid} {role : MembershipRole}
    (howner : owners context.tenantId = true) :
    TenantLocal owners fresh (createMembership context workspaceId userId role) s
      fun _ _ => True := by
  refine each_bind (local_require_owned howner (fun _ _ => trivial) fun _ s1 _ _ _ => ?_)
  exact local_persist_drawn howner fun _ _ => ⟨rfl, rfl⟩

/-- So is a site. -/
theorem local_create_site {workspaceId : Uuid} {name url : String}
    (howner : owners context.tenantId = true) :
    TenantLocal owners fresh (createSite context workspaceId name url) s fun _ _ => True := by
  refine each_bind (local_require_owned howner (fun _ _ => trivial) fun _ s1 _ _ _ => ?_)
  exact local_persist_drawn howner fun _ _ => ⟨rfl, rfl⟩

/-- So is a connector. -/
theorem local_create_connector {workspaceId siteId : Uuid} {kind : String}
    (howner : owners context.tenantId = true) :
    TenantLocal owners fresh (createConnector context workspaceId siteId kind) s
      fun _ _ => True := by
  refine each_bind (local_require_owned howner (fun _ _ => trivial) fun _ s1 _ _ _ => ?_)
  refine each_ite (fun _ => trivial) fun _ => ?_
  exact local_persist_drawn howner fun _ _ => ⟨rfl, rfl⟩

/-- The list of a table is that of the tenant. -/
theorem local_list_owned {t : Table} {page : PageRequest}
    (howner : owners context.tenantId = true) :
    TenantLocal owners fresh (listOwnedPage t context page) s fun _ _ => True := by
  refine each_bind (local_get_tenant howner (fun _ _ => trivial) fun _ s1 _ => ?_)
  refine local_list_page (fun row hrow => ?_) (fun _ _ => trivial) fun _ _ _ => trivial
  rw [decide_eq_true_eq.mp hrow]
  exact howner

/-- An update reaches rows of the tenant only. -/
theorem local_update_owned {t : Table} {resourceId : Uuid} {change : Change t.Row}
    (howner : owners context.tenantId = true) (hkeeps : change.Keeps) :
    TenantLocal owners fresh (updateOwned t context resourceId change) s fun _ _ => True :=
  each_bind (local_require_owned howner (fun _ _ => trivial) fun _ _ _ hknown _ =>
    local_persist_change hkeeps hknown)

/-- A query of the record of a workspace names the tenant. -/
theorem owner_of_record {t : Table} {workspaceOf : t.Row → Uuid} {workspaceId : Uuid} {row : t.Row}
    (howner : owners context.tenantId = true)
    (hrow : (decide (rowTenant row = context.tenantId) &&
      decide (workspaceOf row = workspaceId)) = true) : owners (rowTenant row) = true := by
  simp only [Bool.and_eq_true, decide_eq_true_eq] at hrow
  rw [hrow.1]
  exact howner

/-- The record of a workspace is known once it is found. -/
theorem local_get_record {kind : RecordKind} {workspaceId : Uuid}
    {Q : Except ServiceError kind.table.Row → Session schema → Prop}
    (howner : owners context.tenantId = true) (herror : ∀ e s', Q (.error e) s')
    (hok : ∀ row s', Known owners s' kind.table (rowId row) → Q (.ok row) s') :
    TenantLocal owners fresh (getRecord kind context workspaceId) s Q := by
  refine each_bind (local_require_owned howner herror fun _ s1 _ _ _ => ?_)
  exact each_bind (local_scalar (fun row hrow => owner_of_record howner hrow) herror
    (fun row s' _ hknown _ => hok row s' hknown) fun s' _ => herror _ s')

/-- A record is created for the tenant, with its audit event. -/
theorem local_create_record {kind : RecordKind} {workspaceId : Uuid}
    {row : Uuid → Nat → kind.table.Row} {fields : List String} {actorId : Option Uuid}
    (howner : owners context.tenantId = true)
    (hrow : ∀ id time, rowTenant (row id time) = context.tenantId ∧ rowId (row id time) = id) :
    TenantLocal owners fresh (createRecord kind context workspaceId row fields actorId) s
      fun _ _ => True := by
  have herror : ∀ (e : ServiceError) (s' : Session schema), True := fun _ _ => trivial
  refine each_bind (local_require_owned howner herror fun _ s1 _ _ _ => ?_)
  refine each_bind (local_uuid4 herror fun id s2 hid _ => ?_)
  refine each_bind (local_uuid4 herror fun auditId s3 hauditId _ => ?_)
  refine each_bind (local_rollback_on_error herror ?_)
  refine each_bind (local_insert (fun _ => howner) (fun _ => rfl) hauditId herror
    fun s4 _ _ => ?_)
  refine each_bind (local_insert (fun time => ?_) (fun time => (hrow id time).2) hid herror
    fun s5 _ _ => ?_)
  · rw [(hrow id time).1]
    exact howner
  refine local_commit herror fun s6 _ => ?_
  exact local_refresh (Or.inl hid) herror fun _ _ _ => trivial

/-- A record of the tenant is updated, with its audit event. -/
theorem local_update_record {kind : RecordKind} {workspaceId : Uuid}
    {change : Change kind.table.Row} {fields : List String} {actorId : Option Uuid}
    (howner : owners context.tenantId = true) (hkeeps : change.Keeps) :
    TenantLocal owners fresh (updateRecord kind context workspaceId change fields actorId) s
      fun _ _ => True := by
  have herror : ∀ (e : ServiceError) (s' : Session schema), True := fun _ _ => trivial
  refine each_bind (local_get_record howner herror fun loaded s1 h1 => ?_)
  refine each_bind (local_uuid4 herror fun auditId s2 hauditId h2 => ?_)
  refine each_bind (local_rollback_on_error herror ?_)
  refine each_bind (local_insert (fun _ => howner) (fun _ => rfl) hauditId herror
    fun s3 h3 _ => ?_)
  refine each_bind (local_flush_change hkeeps (h3 _ _ (h2 _ _ h1)) herror fun s4 h4 => ?_)
  refine local_commit herror fun s5 h5 => ?_
  exact local_refresh (Or.inr (h5 _ _ (h4 _ _ (h3 _ _ (h2 _ _ h1))))) herror
    fun _ _ _ => trivial

/-- The changes to a business profile keep its identifier and tenant. -/
theorem keeps_business_profile (changes : BusinessProfileChanges) :
    @Change.Keeps .businessProfiles changes.change := by
  unfold BusinessProfileChanges.change
  refine .and ?_ (.and ?_ (.and ?_ (.and ?_ (.and ?_ ?_))))
  all_goals exact @Change.keeps_column .businessProfiles _ _ _ _ _ fun _ _ => ⟨rfl, rfl⟩

/-- So do those to a growth goal. -/
theorem keeps_growth_goal (changes : GrowthGoalChanges) :
    @Change.Keeps .growthGoals changes.change := by
  unfold GrowthGoalChanges.change
  refine .and ?_ (.and ?_ ?_)
  all_goals exact @Change.keeps_column .growthGoals _ _ _ _ _ fun _ _ => ⟨rfl, rfl⟩

/-- So do those to an autonomy policy. -/
theorem keeps_autonomy_policy (changes : AutonomyPolicyChanges) :
    @Change.Keeps .autonomyPolicies changes.change := by
  unfold AutonomyPolicyChanges.change
  refine .and ?_ ?_
  all_goals exact @Change.keeps_column .autonomyPolicies _ _ _ _ _ fun _ _ => ⟨rfl, rfl⟩

/-- So do those to a competitor. -/
theorem keeps_competitor (changes : CompetitorChanges) :
    @Change.Keeps .competitors changes.change := by
  unfold CompetitorChanges.change
  refine .and ?_ (.and ?_ ?_)
  all_goals exact @Change.keeps_column .competitors _ _ _ _ _ fun _ _ => ⟨rfl, rfl⟩

/-- A competitor is known once it is found. -/
theorem local_get_competitor {workspaceId competitorId : Uuid}
    {Q : Except ServiceError WorkspaceCompetitor → Session schema → Prop}
    (howner : owners context.tenantId = true) (herror : ∀ e s', Q (.error e) s')
    (hok : ∀ row s', Known owners s' .competitors row.id → Q (.ok row) s') :
    TenantLocal owners fresh (getCompetitor context workspaceId competitorId) s Q := by
  refine each_bind (local_require_owned howner herror fun _ s1 _ _ _ => ?_)
  refine each_bind (local_scalar (fun row hrow => ?_) herror
    (fun row s' _ hknown _ => hok row s' hknown) fun s' _ => herror _ s')
  rw [Bool.and_eq_true] at hrow
  exact @owner_of_record owners context .competitors (·.workspaceId) workspaceId row howner hrow.1

/-- A competitor is created for the tenant. -/
theorem local_create_competitor {workspaceId : Uuid} {values : CompetitorValues}
    {actorId : Option Uuid} (howner : owners context.tenantId = true) :
    TenantLocal owners fresh (createCompetitor context workspaceId values actorId) s
      fun _ _ => True := by
  have herror : ∀ (e : ServiceError) (s' : Session schema), True := fun _ _ => trivial
  refine each_bind (local_require_owned howner herror fun _ s1 _ _ _ => ?_)
  refine each_bind (local_uuid4 herror fun id s2 hid _ => ?_)
  refine each_bind (local_rollback_on_error herror ?_)
  refine each_bind (local_insert (fun _ => howner) (fun _ => rfl) hid herror fun s3 _ _ => ?_)
  refine each_bind (local_uuid4 herror fun auditId s4 hauditId _ => ?_)
  refine each_bind (local_insert (fun _ => howner) (fun _ => rfl) hauditId herror
    fun s5 _ _ => ?_)
  refine local_commit herror fun s6 _ => ?_
  exact local_refresh (Or.inl hid) herror fun _ _ _ => trivial

/-- A competitor of the tenant is updated. -/
theorem local_update_competitor {workspaceId competitorId : Uuid} {changes : CompetitorChanges}
    {actorId : Option Uuid} (howner : owners context.tenantId = true) :
    TenantLocal owners fresh
      (updateCompetitor context workspaceId competitorId changes actorId) s fun _ _ => True := by
  have herror : ∀ (e : ServiceError) (s' : Session schema), True := fun _ _ => trivial
  refine each_bind (local_get_competitor howner herror fun loaded s1 h1 => ?_)
  refine each_bind (local_uuid4 herror fun auditId s2 hauditId h2 => ?_)
  refine each_bind (local_rollback_on_error herror ?_)
  refine each_bind (local_insert (fun _ => howner) (fun _ => rfl) hauditId herror
    fun s3 h3 _ => ?_)
  refine each_bind (local_flush_change (keeps_competitor changes) (h3 _ _ (h2 _ _ h1)) herror
    fun s4 h4 => ?_)
  refine local_commit herror fun s5 h5 => ?_
  exact local_refresh (Or.inr (h5 _ _ (h4 _ _ (h3 _ _ (h2 _ _ h1))))) herror
    fun _ _ _ => trivial

/-- The competitors of a workspace of the tenant are listed. -/
theorem local_list_competitors {workspaceId : Uuid} {page : PageRequest}
    (howner : owners context.tenantId = true) :
    TenantLocal owners fresh (listCompetitors context workspaceId page) s fun _ _ => True := by
  refine each_bind (local_require_owned howner (fun _ _ => trivial) fun _ s1 _ _ _ => ?_)
  exact local_list_page (fun row hrow =>
    @owner_of_record owners context .competitors (·.workspaceId) workspaceId row howner hrow)
    (fun _ _ => trivial) fun _ _ _ => trivial

/-- The onboarding status counts rows of the tenant. -/
theorem local_onboarding_status {workspaceId : Uuid} (howner : owners context.tenantId = true) :
    TenantLocal owners fresh (getOnboardingStatus context workspaceId) s fun _ _ => True := by
  have herror : ∀ (e : ServiceError) (s' : Session schema), True := fun _ _ => trivial
  refine each_bind (local_require_owned howner herror fun _ s1 _ _ _ => ?_)
  refine each_bind (local_select (fun view' htwin => ?_) herror fun s2 _ => trivial)
  have hany : ∀ (t : Table) (workspaceOf : t.Row → Uuid),
      (s1.view s1.seen t).any (fun row => decide (rowTenant row = context.tenantId) &&
        decide (workspaceOf row = workspaceId)) =
      (view' t).any fun row => decide (rowTenant row = context.tenantId) &&
        decide (workspaceOf row = workspaceId) := by
    intro t workspaceOf
    have hfilter := filter_of_own
      (fun (row : t.Row) hrow => @owner_of_record _ _ _ workspaceOf workspaceId row howner hrow)
      htwin
    have hselect : ∀ rows : List t.Row, rows.any (fun row =>
          decide (rowTenant row = context.tenantId) && decide (workspaceOf row = workspaceId)) =
        (rows.filter fun row => decide (rowTenant row = context.tenantId) &&
          decide (workspaceOf row = workspaceId)).any fun row =>
            decide (rowTenant row = context.tenantId) &&
              decide (workspaceOf row = workspaceId) := fun rows => by
      rw [List.any_filter]
      simp only [Bool.and_self]
    rw [hselect, hfilter, ← hselect]
  simp only [OnboardingRecordStatus.mk.injEq]
  exact ⟨hany .sites (·.workspaceId), hany .businessProfiles (·.workspaceId),
    hany .growthGoals (·.workspaceId), hany .autonomyPolicies (·.workspaceId)⟩

/-- The latest run of a job of the tenant is known. -/
theorem local_required_run {jobId : Uuid}
    {Q : Except ServiceError ExecutionRun → Session schema → Prop}
    (howner : owners context.tenantId = true) (herror : ∀ e s', Q (.error e) s')
    (hok : ∀ run s', Grows owners s s' → Known owners s' .runs run.id → Q (.ok run) s') :
    TenantLocal owners fresh (requiredRun context jobId) s Q := by
  refine each_bind (local_select (fun view' htwin => latest_run_of_own howner htwin jobId) herror
    fun s1 h1 => ?_)
  refine local_required herror fun run hrun => ?_
  have hmem := List.argmax_mem hrun
  simp only [List.mem_filter, Bool.and_eq_true, decide_eq_true_eq] at hmem
  obtain ⟨hrun, htenant, -⟩ := hmem
  refine hok run s1 h1 ⟨run, hrun, ?_, rfl⟩
  show owners run.tenantId = true
  rw [htenant]
  exact howner

/-- The compare-and-set updates name the tenant. -/
theorem owner_of_expected {tenantId : Uuid} {status expected : ExecutionStatus}
    (howner : owners context.tenantId = true)
    (h : (decide (tenantId = context.tenantId) && decide (status = expected)) = true) :
    owners tenantId = true := by
  simp only [Bool.and_eq_true, decide_eq_true_eq] at h
  rw [h.1]
  exact howner

/-- The status of a job of the tenant is compared and set. -/
theorem local_compare_and_set_job {jobId : Uuid} {expected target : ExecutionStatus}
    {Q : Except ServiceError Bool → Session schema → Prop}
    (howner : owners context.tenantId = true) (herror : ∀ e s', Q (.error e) s')
    (hok : ∀ found s', Grows owners s s' → Q (.ok found) s') :
    TenantLocal owners fresh (compareAndSetJobStatus context jobId expected target) s Q :=
  local_update (fun _ _ => ⟨rfl, rfl⟩) (Or.inl fun _ hjob => owner_of_expected howner hjob)
    herror hok

/-- So is that of a run. -/
theorem local_compare_and_set_run {runId : Uuid} {expected target : ExecutionStatus}
    {Q : Except ServiceError Bool → Session schema → Prop}
    (howner : owners context.tenantId = true) (herror : ∀ e s', Q (.error e) s')
    (hok : ∀ found s', Grows owners s s' → Q (.ok found) s') :
    TenantLocal owners fresh (compareAndSetRunStatus context runId expected target) s Q :=
  local_update (fun _ _ => ⟨rfl, rfl⟩) (Or.inl fun _ hrun => owner_of_expected howner hrun)
    herror hok

/-- A lost compare-and-set rolls back and raises. -/
theorem local_lost :
    TenantLocal owners fresh (do rollback; .raise invalidTransition : Service α) s
      fun _ _ => True :=
  each_bind (local_rollback (fun _ _ => trivial) fun _ => trivial)

/-- `transition_job` is local. -/
theorem local_transition_job {jobId : Uuid} {expectedStatus targetStatus : ExecutionStatus}
    {actorId : Option Uuid} (howner : owners context.tenantId = true) :
    TenantLocal owners fresh
      (transitionJob context jobId expectedStatus targetStatus actorId) s fun _ _ => True := by
  have herror : ∀ (e : ServiceError) (s' : Session schema), True := fun _ _ => trivial
  refine each_ite (fun _ => trivial) fun _ => ?_
  refine each_bind (local_require_owned howner herror fun job s1 _ hjob _ => ?_)
  refine each_bind (local_required_run howner herror fun run s2 h2 hrun => ?_)
  refine each_ite (fun _ => trivial) fun _ => ?_
  refine each_bind (local_compare_and_set_job howner herror fun jobUpdated s3 h3 => ?_)
  refine each_ite (fun _ => local_lost) fun _ => ?_
  refine each_bind (local_compare_and_set_run howner herror fun runUpdated s4 h4 => ?_)
  refine each_ite (fun _ => local_lost) fun _ => ?_
  refine each_bind (local_uuid4 herror fun auditId s5 hauditId h5 => ?_)
  refine each_bind (local_on_integrity_error herror (fun _ => trivial) ?_)
  refine each_bind (local_insert (fun _ => howner) (fun _ => rfl) hauditId herror
    fun s6 h6 _ => ?_)
  refine local_commit herror fun s7 h7 => ?_
  have hgrows : Grows owners s2 s7 := h3.trans (h4.trans (h5.trans (h6.trans h7)))
  refine each_bind (local_refresh (Or.inr (hgrows _ _ (h2 _ _ hjob))) herror fun job' s8 h8 => ?_)
  exact each_bind (local_refresh (Or.inr (h8 _ _ (hgrows _ _ hrun))) herror
    fun _ _ _ => trivial)

/-- `reserve_retry` is local. -/
theorem local_reserve_retry {jobId : Uuid} {expectedAttemptNumber : Int} {actorId : Option Uuid}
    (howner : owners context.tenantId = true) :
    TenantLocal owners fresh (reserveRetry context jobId expectedAttemptNumber actorId) s
      fun _ _ => True := by
  have herror : ∀ (e : ServiceError) (s' : Session schema), True := fun _ _ => trivial
  refine each_bind (local_require_owned howner herror fun job s1 _ hjob _ => ?_)
  refine each_bind (local_required_run howner herror fun prior s2 h2 _ => ?_)
  refine each_ite (fun _ => trivial) fun _ => ?_
  refine each_bind (local_compare_and_set_job howner herror fun jobUpdated s3 h3 => ?_)
  refine each_ite (fun _ => local_lost) fun _ => ?_
  refine each_bind (local_uuid4 herror fun newRunId s4 hnewRunId h4 => ?_)
  refine each_bind (local_uuid4 herror fun auditId s5 hauditId h5 => ?_)
  refine each_bind (local_on_integrity_error herror (fun _ => trivial) ?_)
  refine each_bind (local_insert (fun _ => howner) (fun _ => rfl) hnewRunId herror
    fun s6 h6 _ => ?_)
  refine each_bind (local_insert (fun _ => howner) (fun _ => rfl) hauditId herror
    fun s7 h7 _ => ?_)
  refine local_commit herror fun s8 h8 => ?_
  have hgrows : Grows owners s1 s8 :=
    h2.trans (h3.trans (h4.trans (h5.trans (h6.trans (h7.trans h8)))))
  refine each_bind (local_refresh (Or.inr (hgrows _ _ hjob)) herror fun job' s9 _ => ?_)
  exact each_bind (local_refresh (Or.inl hnewRunId) herror fun _ _ _ => trivial)

/-- `create_proposal` is local. -/
theorem local_create_proposal {request : ProposalRequest}
    (howner : owners context.tenantId = true) :
    TenantLocal owners fresh (createProposal context request) s fun _ _ => True := by
  have herror : ∀ (e : ServiceError) (s' : Session schema), True := fun _ _ => trivial
  refine each_bind (local_require_owned howner herror fun job s1 _ _ _ => ?_)
  refine each_ite (fun _ => trivial) fun _ => ?_
  refine each_bind (local_uuid4 herror fun proposalId s2 hproposalId _ => ?_)
  refine each_bind (local_uuid4 herror fun auditId s3 hauditId _ => ?_)
  refine each_bind (local_on_integrity_error herror (fun _ => trivial) ?_)
  refine each_bind (local_insert (fun _ => howner) (fun _ => rfl) hproposalId herror
    fun s4 _ _ => ?_)
  refine each_bind (local_insert (fun _ => howner) (fun _ => rfl) hauditId herror
    fun s5 _ _ => ?_)
  refine local_commit herror fun s6 _ => ?_
  exact local_refresh (Or.inl hproposalId) herror fun _ _ _ => trivial

/-- `decide_proposal` is local. -/
theorem local_decide_proposal {proposalId decidedBy : Uuid} {decision : ApprovalDecisionValue}
    {reason : Option String} (howner : owners context.tenantId = true) :
    TenantLocal owners fresh (decideProposal context proposalId decision decidedBy reason) s
      fun _ _ => True := by
  have herror : ∀ (e : ServiceError) (s' : Session schema), True := fun _ _ => trivial
  refine each_bind (local_require_owned howner herror fun proposal s1 _ hproposal _ => ?_)
  refine each_ite (fun _ => trivial) fun _ => ?_
  refine each_bind (local_uuid4 herror fun recordId s2 hrecordId h2 => ?_)
  refine each_bind (local_uuid4 herror fun auditId s3 hauditId h3 => ?_)
  refine each_bind (local_on_integrity_error herror (fun _ => trivial) ?_)
  refine each_bind (local_update_loaded (fun _ _ => ⟨rfl, rfl⟩) (h3 _ _ (h2 _ _ hproposal)) herror
    fun s4 h4 => ?_)
  refine each_bind (local_insert (fun _ => howner) (fun _ => rfl) hrecordId herror
    fun s5 _ _ => ?_)
  refine each_bind (local_insert (fun _ => howner) (fun _ => rfl) hauditId herror
    fun s6 _ _ => ?_)
  refine local_commit herror fun s7 _ => ?_
  exact local_refresh (Or.inl hrecordId) herror fun _ _ _ => trivial

/-- A filter by an identifier looks at rows of the tenant. -/
theorem local_require_filter {t : Table} {id : Option Uuid}
    {Q : Except ServiceError Unit → Session schema → Prop}
    (howner : owners context.tenantId = true) (herror : ∀ e s', Q (.error e) s')
    (hok : ∀ s', Grows owners s s' → Q (.ok ()) s') :
    TenantLocal owners fresh (requireFilter t context id) s Q := by
  cases id with
  | none => exact hok s fun _ _ h => h
  | some id =>
      exact each_bind (local_require_owned howner herror fun _ s1 h1 _ _ => hok s1 h1)

/-- The pairs of a page need no further statement. -/
theorem local_job_results {jobs : List (ExecutionJob × Option ExecutionRun)}
    {Q : Except ServiceError (List JobResult) → Session schema → Prop}
    (hQ : ∀ result, Q result s) : TenantLocal owners fresh (jobResults jobs) s Q := by
  induction jobs generalizing Q with
  | nil => exact hQ _
  | cons entry rest ih =>
      obtain ⟨job, run⟩ := entry
      cases run with
      | none => exact hQ _
      | some run =>
          refine each_bind (ih fun result => ?_)
          cases result <;> exact hQ _

/-- `list_jobs` is local. -/
theorem local_list_jobs {filter : JobFilter} {page : PageRequest}
    (howner : owners context.tenantId = true) :
    TenantLocal owners fresh (listJobs context filter page) s fun _ _ => True := by
  have herror : ∀ (e : ServiceError) (s' : Session schema), True := fun _ _ => trivial
  have hresults : ∀ (result : List (ExecutionJob × Option ExecutionRun) × Nat) s',
      TenantLocal owners fresh (do
        let results ← jobResults result.1
        pure (results, result.2)) s' fun _ _ => True := by
    intro result s'
    refine each_bind (local_job_results fun results => ?_)
    cases results <;> exact trivial
  refine each_bind (local_require_filter howner herror fun s1 _ => ?_)
  refine each_bind (each_bind (local_list_page (fun job hjob => ?_) herror fun result s2 _ => ?_))
  · simp only [JobFilter.condition, Bool.and_eq_true, decide_eq_true_eq] at hjob
    show owners job.tenantId = true
    rw [hjob.1.1.1]
    exact howner
  · refine each_ite (fun _ => hresults ([], result.2) s2) fun _ => ?_
    refine each_bind (local_select (fun view' htwin => ?_) herror fun s3 _ => hresults (_, _) s3)
    have hruns := @filter_of_own owners fresh .runs (fun run =>
      decide (run.tenantId = context.tenantId) && decide (run.jobId ∈ result.1.map (·.id))) _ _
      (fun run hrun => ?_) htwin
    · exact congrArg (List.mergeSort · _) hruns
    · simp only [Bool.and_eq_true, decide_eq_true_eq] at hrun
      show owners run.tenantId = true
      rw [hrun.1]
      exact howner

/-- `list_runs` is local. -/
theorem local_list_runs {jobId : Uuid} {page : PageRequest}
    (howner : owners context.tenantId = true) :
    TenantLocal owners fresh (listRuns context jobId page) s fun _ _ => True := by
  have herror : ∀ (e : ServiceError) (s' : Session schema), True := fun _ _ => trivial
  refine each_bind (local_require_owned howner herror fun _ s1 _ _ _ => ?_)
  exact local_list_page
    (fun run hrun => @owner_of_record owners context .runs (·.jobId) jobId run howner hrun)
    herror fun _ _ _ => trivial

/-- `list_proposals` is local. -/
theorem local_list_proposals {filter : ProposalFilter} {page : PageRequest}
    (howner : owners context.tenantId = true) :
    TenantLocal owners fresh (listProposals context filter page) s fun _ _ => True := by
  have herror : ∀ (e : ServiceError) (s' : Session schema), True := fun _ _ => trivial
  refine each_bind (local_require_filter howner herror fun s1 _ => ?_)
  refine local_list_page (fun proposal hproposal => ?_) herror fun _ _ _ => trivial
  simp only [ProposalFilter.condition, Bool.and_eq_true, decide_eq_true_eq] at hproposal
  show owners proposal.tenantId = true
  rw [hproposal.1.1.1.1]
  exact howner

/-- `list_audit_events` is local. -/
theorem local_list_audit_events {filter : AuditFilter} {page : PageRequest}
    (howner : owners context.tenantId = true) :
    TenantLocal owners fresh (listAuditEvents context filter page) s fun _ _ => True := by
  refine local_list_page (fun event hevent => ?_) (fun _ _ => trivial) fun _ _ _ => trivial
  simp only [AuditFilter.condition, Bool.and_eq_true, decide_eq_true_eq] at hevent
  show owners event.tenantId = true
  rw [hevent.1.1.1.1]
  exact howner

/-! ## Every operation -/

/-- A reply with a row is as local as its service. -/
theorem local_reply_row (t : Table) {p : Service t.Row}
    (h : TenantLocal owners fresh p s fun _ _ => True) :
    TenantLocal owners fresh (replyRow t p) s fun _ _ => True := by
  refine each_bind (each_post h fun result s' _ => ?_)
  cases result <;> exact trivial

/-- So is a reply with a page. -/
theorem local_reply_page (t : Table) {p : Service (List t.Row × Nat)}
    (h : TenantLocal owners fresh p s fun _ _ => True) :
    TenantLocal owners fresh (replyPage t p) s fun _ _ => True := by
  refine each_bind (each_post h fun result s' _ => ?_)
  cases result <;> exact trivial

/-- So is a reply with a job. -/
theorem local_reply_job {p : Service JobResult}
    (h : TenantLocal owners fresh p s fun _ _ => True) :
    TenantLocal owners fresh (replyJob p) s fun _ _ => True := by
  refine each_bind (each_post h fun result s' _ => ?_)
  cases result <;> exact trivial

/-- Every operation of a tenant is local. A new tenant has a fresh identifier, and belongs to the
tenant that has created it. -/
theorem local_perform (howner : owners context.tenantId = true)
    (hfresh : ∀ id, fresh id → owners id = true) (hdrawn : ∀ id ∈ s.drawn, fresh id)
    (operation : Operation) :
    TenantLocal owners fresh (perform context operation) s fun _ _ => True := by
  have herror : ∀ (e : ServiceError) (s' : Session schema), True := fun _ _ => trivial
  have howned : ∀ (t : Table) (id : Uuid),
      TenantLocal owners fresh (requireOwned t context id) s fun _ _ => True := fun t id =>
    local_require_owned howner herror fun _ _ _ _ _ => trivial
  have hrecord : ∀ (kind : RecordKind) (id : Uuid),
      TenantLocal owners fresh (getRecord kind context id) s fun _ _ => True := fun kind id =>
    local_get_record howner herror fun _ _ _ => trivial
  -- Creating a tenant is the one operation that draws from the fresh names; every other stays with
  -- the rows of its own tenant.
  cases operation with
  | createTenant name => exact local_reply_row .tenants (local_create_tenant hfresh)
  | getTenant =>
      refine local_reply_row .tenants ?_
      exact local_get_tenant howner herror fun _ _ _ => trivial
  | updateTenant name => exact local_reply_row .tenants (local_update_tenant howner)
  | createWorkspace name => exact local_reply_row .workspaces (local_create_workspace howner)
  | createMembership workspaceId userId role =>
      exact local_reply_row .memberships (local_create_membership howner)
  | createSite workspaceId name url => exact local_reply_row .sites (local_create_site howner)
  | createConnector workspaceId siteId kind =>
      exact local_reply_row .connectors (local_create_connector howner)
  | getOwned model resourceId => exact local_reply_row model.table (howned model.table resourceId)
  | listOwned model page => exact local_reply_page model.table (local_list_owned howner)
  | updateWorkspace resourceId name =>
      refine local_reply_row .workspaces (local_update_owned howner ?_)
      exact @Change.keeps_column .workspaces _ _ _ _ _ fun _ _ => ⟨rfl, rfl⟩
  | updateMembership resourceId role =>
      refine local_reply_row .memberships (local_update_owned howner ?_)
      exact @Change.keeps_column .memberships _ _ _ _ _ fun _ _ => ⟨rfl, rfl⟩
  | updateSite resourceId changes =>
      exact local_reply_row .sites (local_update_owned howner (keeps_site changes))
  | updateConnector resourceId status =>
      refine local_reply_row .connectors (local_update_owned howner ?_)
      exact @Change.keeps_column .connectors _ _ _ _ _ fun _ _ => ⟨rfl, rfl⟩
  | getOnboardingStatus workspaceId =>
      refine each_bind (each_post (local_onboarding_status howner) fun result s' _ => ?_)
      cases result <;> exact trivial
  | createBusinessProfile workspaceId values actorId =>
      refine local_reply_row .businessProfiles (local_create_record howner fun _ _ => ⟨rfl, rfl⟩)
  | getBusinessProfile workspaceId =>
      exact local_reply_row .businessProfiles (hrecord businessProfiles workspaceId)
  | updateBusinessProfile workspaceId changes actorId =>
      exact local_reply_row .businessProfiles
        (local_update_record howner (keeps_business_profile changes))
  | createPrimaryGrowthGoal workspaceId values actorId =>
      refine local_reply_row .growthGoals (local_create_record howner fun _ _ => ⟨rfl, rfl⟩)
  | getPrimaryGrowthGoal workspaceId =>
      exact local_reply_row .growthGoals (hrecord growthGoals workspaceId)
  | updatePrimaryGrowthGoal workspaceId changes actorId =>
      exact local_reply_row .growthGoals (local_update_record howner (keeps_growth_goal changes))
  | createAutonomyPolicy workspaceId values actorId =>
      refine local_reply_row .autonomyPolicies (local_create_record howner fun _ _ => ⟨rfl, rfl⟩)
  | getAutonomyPolicy workspaceId =>
      exact local_reply_row .autonomyPolicies (hrecord autonomyPolicies workspaceId)
  | updateAutonomyPolicy workspaceId changes actorId =>
      exact local_reply_row .autonomyPolicies
        (local_update_record howner (keeps_autonomy_policy changes))
  | createCompetitor workspaceId values actorId =>
      exact local_reply_row .competitors (local_create_competitor howner)
  | listCompetitors workspaceId page =>
      exact local_reply_page .competitors (local_list_competitors howner)
  | getCompetitor workspaceId competitorId =>
      refine local_reply_row .competitors ?_
      exact local_get_competitor howner herror fun _ _ _ => trivial
  | updateCompetitor workspaceId competitorId changes actorId =>
      exact local_reply_row .competitors (local_update_competitor howner)
  | createJob request =>
      exact local_reply_job (local_of_appends (appends_create_job howner) hdrawn)
  | getJob jobId =>
      refine local_reply_job (each_bind (local_require_owned howner herror fun _ s1 _ _ _ => ?_))
      exact each_bind (local_required_run howner herror fun _ _ _ _ => trivial)
  | transitionJob jobId expectedStatus targetStatus actorId =>
      exact local_reply_job (local_transition_job howner)
  | reserveRetry jobId expectedAttemptNumber actorId =>
      exact local_reply_job (local_reserve_retry howner)
  | listJobs filter page =>
      refine each_bind (each_post (local_list_jobs howner) fun result s' _ => ?_)
      cases result <;> exact trivial
  | listRuns jobId page => exact local_reply_page .runs (local_list_runs howner)
  | createProposal request => exact local_reply_row .proposals (local_create_proposal howner)
  | getProposal proposalId => exact local_reply_row .proposals (howned .proposals proposalId)
  | listProposals filter page => exact local_reply_page .proposals (local_list_proposals howner)
  | decideProposal proposalId decision decidedBy reason =>
      exact local_reply_row .decisions (local_decide_proposal howner)
  | listAuditEvents filter page =>
      exact local_reply_page .auditEvents (local_list_audit_events howner)

end GrowthOs.Tenancy
