import GrowthOs.Foundation.Repository

/-!
# The foundation service

`services.py`: the operations on tenants, workspaces, memberships, sites, connectors, and on the
records of a workspace. The records that a workspace has once (business profile, primary growth goal
and autonomy policy) share their operations, as in the source.
-/

namespace GrowthOs.Foundation

open Library Db

/-- `_persist` of a new entity. -/
def persistNew (t : Table) (id : Uuid) (row : Nat → t.Row) : Service t.Row := do
  onIntegrityError
    (do
      insert t row
      commit)
    (.raise .conflict)
  refresh t id

/-- `_persist` of a loaded entity. -/
def persistChange (t : Table) (loaded : t.Row) (change : Change t.Row) : Service t.Row := do
  onIntegrityError
    (do
      flushChange t loaded change
      commit)
    (.raise .conflict)
  refresh t (rowId loaded)

/-- `_profile_audit`, `_goal_audit`, `_autonomy_policy_audit` and `_competitor_audit`. -/
def recordAudit (context : TenantContext) (id : Uuid) (eventType resourceType : String)
    (resourceId workspaceId : Uuid) (changedFields : List String) (actorId : Option Uuid)
    (time : Nat) : AuditEvent :=
  ⟨id, context.tenantId, eventType, resourceType, resourceId, actorId,
    .changedFields workspaceId changedFields, time⟩

/-- The names of the columns that a mapping has, in their order. -/
def supplied (columns : List (String × Bool)) : List String :=
  (columns.filter (·.2)).map (·.1)

/-- `create_tenant`. -/
def createTenant (name : String) : Service Tenant := do
  let id ← uuid4
  persistNew .tenants id fun time => ⟨id, time, time, name⟩

/-- `get_tenant`. -/
def getTenant (context : TenantContext) : Service Tenant := do
  required (← findTenant context)

/-- A new name of a tenant. -/
def tenantChange (name : String) : Change Tenant :=
  .column (·.name) (fun name tenant => { tenant with name }) (some name)

/-- `update_tenant`. -/
def updateTenant (context : TenantContext) (name : String) : Service Tenant := do
  let tenant ← getTenant context
  persistChange .tenants tenant (tenantChange name)

/-- `create_workspace`. -/
def createWorkspace (context : TenantContext) (name : String) : Service Workspace := do
  let _ ← getTenant context
  let id ← uuid4
  persistNew .workspaces id fun time => ⟨id, time, time, context.tenantId, name⟩

/-- `create_membership`. -/
def createMembership (context : TenantContext) (workspaceId userId : Uuid)
    (role : MembershipRole) : Service Membership := do
  let _ ← requireOwned .workspaces context workspaceId
  let id ← uuid4
  persistNew .memberships id fun time =>
    ⟨id, time, time, context.tenantId, workspaceId, userId, role⟩

/-- `create_site`. -/
def createSite (context : TenantContext) (workspaceId : Uuid) (name url : String) :
    Service Site := do
  let _ ← requireOwned .workspaces context workspaceId
  let id ← uuid4
  persistNew .sites id fun time =>
    ⟨id, time, time, context.tenantId, workspaceId, some name, url⟩

/-- `create_connector`. -/
def createConnector (context : TenantContext) (workspaceId siteId : Uuid) (kind : String) :
    Service Connector := do
  let site ← requireOwned .sites context siteId
  if site.workspaceId ≠ workspaceId then .raise .notFound
  else do
    let id ← uuid4
    persistNew .connectors id fun time =>
      ⟨id, time, time, context.tenantId, workspaceId, siteId, kind, .notConfigured⟩

/-- `list_owned`. -/
def listOwnedPage (t : Table) (context : TenantContext) (page : PageRequest) :
    Service (List t.Row × Nat) := do
  let _ ← getTenant context
  listOwned t context page

/-- `update_owned`. -/
def updateOwned (t : Table) (context : TenantContext) (resourceId : Uuid)
    (change : Change t.Row) : Service t.Row := do
  let entity ← requireOwned t context resourceId
  persistChange t entity change

/-- A new name of a workspace. -/
def workspaceChange (name : String) : Change Workspace :=
  .column (·.name) (fun name workspace => { workspace with name }) (some name)

/-- A new role of a membership. -/
def membershipChange (role : MembershipRole) : Change Membership :=
  .column (·.role) (fun role membership => { membership with role }) (some role)

/-- A new status of a connector. -/
def connectorChange (status : ConnectorStatus) : Change Connector :=
  .column (·.status) (fun status connector => { connector with status }) (some status)

/-- The changes of a site. The name may be null. -/
structure SiteChanges where
  name : Option (Option String)
  url : Option String
  deriving DecidableEq, Repr

/-- The columns of a site that change. -/
def siteChange (changes : SiteChanges) : Change Site :=
  .and (.column (·.name) (fun name site => { site with name }) changes.name)
    (.column (·.url) (fun url site => { site with url }) changes.url)

/-- The changes to a site keep its identifier and its tenant. -/
theorem keeps_site (changes : SiteChanges) : @Change.Keeps .sites (siteChange changes) := by
  unfold siteChange
  refine .and ?_ ?_
  all_goals exact @Change.keeps_column .sites _ _ _ _ _ fun _ _ => ⟨rfl, rfl⟩

/-- `OnboardingStep`. -/
inductive OnboardingStep where
  | site
  | businessProfile
  | primaryGrowthGoal
  | autonomyPolicy
  deriving DecidableEq, Repr

/-- `OnboardingStatusResponse`. -/
structure OnboardingStatusResponse where
  tenantId : Uuid
  workspaceId : Uuid
  hasSite : Bool
  hasBusinessProfile : Bool
  hasPrimaryGrowthGoal : Bool
  hasAutonomyPolicy : Bool
  isFoundationComplete : Bool
  missingSteps : List OnboardingStep
  deriving DecidableEq, Repr

/-- `get_onboarding_status`. -/
def getOnboardingStatus (context : TenantContext) (workspaceId : Uuid) :
    Service OnboardingStatusResponse := do
  let _ ← requireOwned .workspaces context workspaceId
  let status ← getOnboardingRecordStatus context workspaceId
  let orderedSteps : List (OnboardingStep × Bool) :=
    [(.site, status.hasSite), (.businessProfile, status.hasBusinessProfile),
      (.primaryGrowthGoal, status.hasPrimaryGrowthGoal),
      (.autonomyPolicy, status.hasAutonomyPolicy)]
  pure
    { tenantId := context.tenantId
      workspaceId
      hasSite := status.hasSite
      hasBusinessProfile := status.hasBusinessProfile
      hasPrimaryGrowthGoal := status.hasPrimaryGrowthGoal
      hasAutonomyPolicy := status.hasAutonomyPolicy
      isFoundationComplete := orderedSteps.all (·.2)
      missingSteps := (orderedSteps.filter fun step => !step.2).map (·.1) }

/-! ## Records that a workspace has once -/

/-- A kind of record: its table, its column for the workspace, and its name in audit events. -/
structure RecordKind where
  table : Table
  workspaceOf : table.Row → Uuid
  resourceType : String

/-- `WorkspaceBusinessProfile`. -/
def businessProfiles : RecordKind :=
  ⟨.businessProfiles, (·.workspaceId), "workspace_business_profile"⟩

/-- `WorkspacePrimaryGrowthGoal`. -/
def growthGoals : RecordKind := ⟨.growthGoals, (·.workspaceId), "workspace_primary_growth_goal"⟩

/-- `WorkspaceAutonomyPolicy`. -/
def autonomyPolicies : RecordKind :=
  ⟨.autonomyPolicies, (·.workspaceId), "workspace_autonomy_policy"⟩

/-- Create the record of a workspace. -/
def createRecord (kind : RecordKind) (context : TenantContext) (workspaceId : Uuid)
    (row : Uuid → Nat → kind.table.Row) (fields : List String) (actorId : Option Uuid) :
    Service kind.table.Row := do
  let _ ← requireOwned .workspaces context workspaceId
  let id ← uuid4
  let auditId ← uuid4
  rollbackOnError do
    insert .auditEvents (recordAudit context auditId (kind.resourceType ++ ".created")
      kind.resourceType id workspaceId fields actorId)
    insert kind.table (row id)
    commit
  refresh kind.table id

/-- Get the record of a workspace. -/
def getRecord (kind : RecordKind) (context : TenantContext) (workspaceId : Uuid) :
    Service kind.table.Row := do
  let _ ← requireOwned .workspaces context workspaceId
  required (← findRecord kind.table kind.workspaceOf context workspaceId)

/-- Update the record of a workspace. -/
def updateRecord (kind : RecordKind) (context : TenantContext) (workspaceId : Uuid)
    (change : Change kind.table.Row) (fields : List String) (actorId : Option Uuid) :
    Service kind.table.Row := do
  let loaded ← getRecord kind context workspaceId
  let auditId ← uuid4
  rollbackOnError do
    insert .auditEvents (recordAudit context auditId (kind.resourceType ++ ".updated")
      kind.resourceType (rowId loaded) (kind.workspaceOf loaded) fields actorId)
    flushChange kind.table loaded change
    commit
  refresh kind.table (rowId loaded)

/-- The values of a new business profile. A column may be left out. -/
structure BusinessProfileValues where
  companyName : String
  businessDescription : Option (Option String)
  productsServices : Option (Option String)
  targetAudience : Option (Option String)
  positioning : Option (Option String)
  brandVoice : Option (Option String)
  deriving DecidableEq, Repr

/-- `sorted(values)`. -/
def BusinessProfileValues.fields (values : BusinessProfileValues) : List String :=
  supplied [("brand_voice", values.brandVoice.isSome),
    ("business_description", values.businessDescription.isSome), ("company_name", true),
    ("positioning", values.positioning.isSome),
    ("products_services", values.productsServices.isSome),
    ("target_audience", values.targetAudience.isSome)]

/-- `create_business_profile`. -/
def createBusinessProfile (context : TenantContext) (workspaceId : Uuid)
    (values : BusinessProfileValues) (actorId : Option Uuid) : Service WorkspaceBusinessProfile :=
  createRecord businessProfiles context workspaceId
    (fun id time => (⟨id, time, time, context.tenantId, workspaceId, values.companyName,
      values.businessDescription.join, values.productsServices.join, values.targetAudience.join,
      values.positioning.join, values.brandVoice.join⟩ : WorkspaceBusinessProfile))
    values.fields actorId

/-- `get_business_profile`. -/
def getBusinessProfile (context : TenantContext) (workspaceId : Uuid) :
    Service WorkspaceBusinessProfile :=
  getRecord businessProfiles context workspaceId

/-- The changes of a business profile. -/
structure BusinessProfileChanges where
  companyName : Option String
  businessDescription : Option (Option String)
  productsServices : Option (Option String)
  targetAudience : Option (Option String)
  positioning : Option (Option String)
  brandVoice : Option (Option String)
  deriving DecidableEq, Repr

/-- `sorted(changes)`. -/
def BusinessProfileChanges.fields (changes : BusinessProfileChanges) : List String :=
  supplied [("brand_voice", changes.brandVoice.isSome),
    ("business_description", changes.businessDescription.isSome),
    ("company_name", changes.companyName.isSome), ("positioning", changes.positioning.isSome),
    ("products_services", changes.productsServices.isSome),
    ("target_audience", changes.targetAudience.isSome)]

/-- The columns of a business profile that change. -/
def BusinessProfileChanges.change (changes : BusinessProfileChanges) :
    Change WorkspaceBusinessProfile :=
  .and (.column (·.companyName) (fun v r => { r with companyName := v }) changes.companyName)
    (.and (.column (·.businessDescription) (fun v r => { r with businessDescription := v })
        changes.businessDescription)
      (.and (.column (·.productsServices) (fun v r => { r with productsServices := v })
          changes.productsServices)
        (.and (.column (·.targetAudience) (fun v r => { r with targetAudience := v })
            changes.targetAudience)
          (.and (.column (·.positioning) (fun v r => { r with positioning := v })
              changes.positioning)
            (.column (·.brandVoice) (fun v r => { r with brandVoice := v })
              changes.brandVoice)))))

/-- `update_business_profile`. -/
def updateBusinessProfile (context : TenantContext) (workspaceId : Uuid)
    (changes : BusinessProfileChanges) (actorId : Option Uuid) :
    Service WorkspaceBusinessProfile :=
  updateRecord businessProfiles context workspaceId changes.change changes.fields actorId

/-- The values of a new goal. -/
structure GrowthGoalValues where
  objective : String
  successDefinition : Option (Option String)
  targetDate : Option (Option Nat)
  deriving DecidableEq, Repr

/-- `sorted(values)`. -/
def GrowthGoalValues.fields (values : GrowthGoalValues) : List String :=
  supplied [("objective", true), ("success_definition", values.successDefinition.isSome),
    ("target_date", values.targetDate.isSome)]

/-- `create_primary_growth_goal`. -/
def createPrimaryGrowthGoal (context : TenantContext) (workspaceId : Uuid)
    (values : GrowthGoalValues) (actorId : Option Uuid) : Service WorkspacePrimaryGrowthGoal :=
  createRecord growthGoals context workspaceId
    (fun id time => (⟨id, time, time, context.tenantId, workspaceId, values.objective,
      values.successDefinition.join, values.targetDate.join⟩ : WorkspacePrimaryGrowthGoal))
    values.fields actorId

/-- `get_primary_growth_goal`. -/
def getPrimaryGrowthGoal (context : TenantContext) (workspaceId : Uuid) :
    Service WorkspacePrimaryGrowthGoal :=
  getRecord growthGoals context workspaceId

/-- The changes of a goal. -/
structure GrowthGoalChanges where
  objective : Option String
  successDefinition : Option (Option String)
  targetDate : Option (Option Nat)
  deriving DecidableEq, Repr

/-- `sorted(changes)`. -/
def GrowthGoalChanges.fields (changes : GrowthGoalChanges) : List String :=
  supplied [("objective", changes.objective.isSome),
    ("success_definition", changes.successDefinition.isSome),
    ("target_date", changes.targetDate.isSome)]

/-- The columns of a goal that change. -/
def GrowthGoalChanges.change (changes : GrowthGoalChanges) : Change WorkspacePrimaryGrowthGoal :=
  .and (.column (·.objective) (fun v r => { r with objective := v }) changes.objective)
    (.and (.column (·.successDefinition) (fun v r => { r with successDefinition := v })
        changes.successDefinition)
      (.column (·.targetDate) (fun v r => { r with targetDate := v }) changes.targetDate))

/-- `update_primary_growth_goal`. -/
def updatePrimaryGrowthGoal (context : TenantContext) (workspaceId : Uuid)
    (changes : GrowthGoalChanges) (actorId : Option Uuid) : Service WorkspacePrimaryGrowthGoal :=
  updateRecord growthGoals context workspaceId changes.change changes.fields actorId

/-- The values of a new policy. -/
structure AutonomyPolicyValues where
  level : AutonomyLevel
  isPaused : Option Bool
  deriving DecidableEq, Repr

/-- `sorted(values)`. -/
def AutonomyPolicyValues.fields (values : AutonomyPolicyValues) : List String :=
  supplied [("is_paused", values.isPaused.isSome), ("level", true)]

/-- `create_autonomy_policy`. A policy is paused by default. -/
def createAutonomyPolicy (context : TenantContext) (workspaceId : Uuid)
    (values : AutonomyPolicyValues) (actorId : Option Uuid) : Service WorkspaceAutonomyPolicy :=
  createRecord autonomyPolicies context workspaceId
    (fun id time => (⟨id, time, time, context.tenantId, workspaceId, values.level,
      values.isPaused.getD true⟩ : WorkspaceAutonomyPolicy))
    values.fields actorId

/-- `get_autonomy_policy`. -/
def getAutonomyPolicy (context : TenantContext) (workspaceId : Uuid) :
    Service WorkspaceAutonomyPolicy :=
  getRecord autonomyPolicies context workspaceId

/-- The changes of a policy. -/
structure AutonomyPolicyChanges where
  level : Option AutonomyLevel
  isPaused : Option Bool
  deriving DecidableEq, Repr

/-- `sorted(changes)`. -/
def AutonomyPolicyChanges.fields (changes : AutonomyPolicyChanges) : List String :=
  supplied [("is_paused", changes.isPaused.isSome), ("level", changes.level.isSome)]

/-- The columns of a policy that change. -/
def AutonomyPolicyChanges.change (changes : AutonomyPolicyChanges) :
    Change WorkspaceAutonomyPolicy :=
  .and (.column (·.level) (fun v r => { r with level := v }) changes.level)
    (.column (·.isPaused) (fun v r => { r with isPaused := v }) changes.isPaused)

/-- `update_autonomy_policy`. -/
def updateAutonomyPolicy (context : TenantContext) (workspaceId : Uuid)
    (changes : AutonomyPolicyChanges) (actorId : Option Uuid) : Service WorkspaceAutonomyPolicy :=
  updateRecord autonomyPolicies context workspaceId changes.change changes.fields actorId

/-- The resource type of a competitor. -/
def competitorResource : String := "workspace_competitor"

/-- The values of a new competitor. -/
structure CompetitorValues where
  name : String
  websiteUrl : Option (Option String)
  notes : Option (Option String)
  deriving DecidableEq, Repr

/-- `sorted(values)`. -/
def CompetitorValues.fields (values : CompetitorValues) : List String :=
  supplied [("name", true), ("notes", values.notes.isSome),
    ("website_url", values.websiteUrl.isSome)]

/-- `create_competitor`. The competitor is flushed before its audit event is added. -/
def createCompetitor (context : TenantContext) (workspaceId : Uuid) (values : CompetitorValues)
    (actorId : Option Uuid) : Service WorkspaceCompetitor := do
  let _ ← requireOwned .workspaces context workspaceId
  let id ← uuid4
  rollbackOnError do
    insert .competitors fun time => ⟨id, time, time, context.tenantId, workspaceId, values.name,
      values.websiteUrl.join, values.notes.join⟩
    let auditId ← uuid4
    insert .auditEvents (recordAudit context auditId (competitorResource ++ ".created")
      competitorResource id workspaceId values.fields actorId)
    commit
  refresh .competitors id

/-- `list_competitors`. -/
def listCompetitors (context : TenantContext) (workspaceId : Uuid) (page : PageRequest) :
    Service (List WorkspaceCompetitor × Nat) := do
  let _ ← requireOwned .workspaces context workspaceId
  pageOfCompetitors context workspaceId page

/-- `get_competitor`. -/
def getCompetitor (context : TenantContext) (workspaceId competitorId : Uuid) :
    Service WorkspaceCompetitor := do
  let _ ← requireOwned .workspaces context workspaceId
  required (← findCompetitor context workspaceId competitorId)

/-- The changes of a competitor. -/
structure CompetitorChanges where
  name : Option String
  websiteUrl : Option (Option String)
  notes : Option (Option String)
  deriving DecidableEq, Repr

/-- `sorted(changes)`. -/
def CompetitorChanges.fields (changes : CompetitorChanges) : List String :=
  supplied [("name", changes.name.isSome), ("notes", changes.notes.isSome),
    ("website_url", changes.websiteUrl.isSome)]

/-- The columns of a competitor that change. -/
def CompetitorChanges.change (changes : CompetitorChanges) : Change WorkspaceCompetitor :=
  .and (.column (·.name) (fun v r => { r with name := v }) changes.name)
    (.and (.column (·.websiteUrl) (fun v r => { r with websiteUrl := v }) changes.websiteUrl)
      (.column (·.notes) (fun v r => { r with notes := v }) changes.notes))

/-- `update_competitor`. -/
def updateCompetitor (context : TenantContext) (workspaceId competitorId : Uuid)
    (changes : CompetitorChanges) (actorId : Option Uuid) : Service WorkspaceCompetitor := do
  let loaded ← getCompetitor context workspaceId competitorId
  let auditId ← uuid4
  rollbackOnError do
    insert .auditEvents (recordAudit context auditId (competitorResource ++ ".updated")
      competitorResource loaded.id loaded.workspaceId changes.fields actorId)
    flushChange .competitors loaded changes.change
    commit
  refresh .competitors loaded.id

end GrowthOs.Foundation
