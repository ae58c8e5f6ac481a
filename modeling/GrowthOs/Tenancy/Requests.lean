import GrowthOs.Execution.Queries
import GrowthOs.Foundation.Service

/-!
# The requests of a tenant

All operations of the foundation service and of the execution service.
-/

namespace GrowthOs.Tenancy

open Library Db Foundation Execution

/-- The models of `get_owned` and `list_owned`. -/
inductive OwnedModel where
  | workspace
  | membership
  | site
  | connector
  deriving DecidableEq, Repr

/-- The table of a model. -/
def OwnedModel.table : OwnedModel → Table
  | .workspace => .workspaces
  | .membership => .memberships
  | .site => .sites
  | .connector => .connectors

/-- The operations. -/
inductive Operation where
  | createTenant (name : String)
  | getTenant
  | updateTenant (name : String)
  | createWorkspace (name : String)
  | createMembership (workspaceId userId : Uuid) (role : MembershipRole)
  | createSite (workspaceId : Uuid) (name url : String)
  | createConnector (workspaceId siteId : Uuid) (kind : String)
  | getOwned (model : OwnedModel) (resourceId : Uuid)
  | listOwned (model : OwnedModel) (page : PageRequest)
  | updateWorkspace (resourceId : Uuid) (name : String)
  | updateMembership (resourceId : Uuid) (role : MembershipRole)
  | updateSite (resourceId : Uuid) (changes : SiteChanges)
  | updateConnector (resourceId : Uuid) (status : ConnectorStatus)
  | getOnboardingStatus (workspaceId : Uuid)
  | createBusinessProfile (workspaceId : Uuid) (values : BusinessProfileValues)
      (actorId : Option Uuid)
  | getBusinessProfile (workspaceId : Uuid)
  | updateBusinessProfile (workspaceId : Uuid) (changes : BusinessProfileChanges)
      (actorId : Option Uuid)
  | createPrimaryGrowthGoal (workspaceId : Uuid) (values : GrowthGoalValues)
      (actorId : Option Uuid)
  | getPrimaryGrowthGoal (workspaceId : Uuid)
  | updatePrimaryGrowthGoal (workspaceId : Uuid) (changes : GrowthGoalChanges)
      (actorId : Option Uuid)
  | createAutonomyPolicy (workspaceId : Uuid) (values : AutonomyPolicyValues)
      (actorId : Option Uuid)
  | getAutonomyPolicy (workspaceId : Uuid)
  | updateAutonomyPolicy (workspaceId : Uuid) (changes : AutonomyPolicyChanges)
      (actorId : Option Uuid)
  | createCompetitor (workspaceId : Uuid) (values : CompetitorValues) (actorId : Option Uuid)
  | listCompetitors (workspaceId : Uuid) (page : PageRequest)
  | getCompetitor (workspaceId competitorId : Uuid)
  | updateCompetitor (workspaceId competitorId : Uuid) (changes : CompetitorChanges)
      (actorId : Option Uuid)
  | createJob (request : JobRequest)
  | getJob (jobId : Uuid)
  | transitionJob (jobId : Uuid) (expectedStatus targetStatus : ExecutionStatus)
      (actorId : Option Uuid)
  | reserveRetry (jobId : Uuid) (expectedAttemptNumber : Int) (actorId : Option Uuid)
  | listJobs (filter : JobFilter) (page : PageRequest)
  | listRuns (jobId : Uuid) (page : PageRequest)
  | createProposal (request : ProposalRequest)
  | getProposal (proposalId : Uuid)
  | listProposals (filter : ProposalFilter) (page : PageRequest)
  | decideProposal (proposalId : Uuid) (decision : ApprovalDecisionValue) (decidedBy : Uuid)
      (reason : Option String)
  | listAuditEvents (filter : AuditFilter) (page : PageRequest)

/-- What the operations return. -/
inductive Reply where
  | row (t : Table) (row : t.Row)
  | page (t : Table) (items : List t.Row) (total : Nat)
  | job (result : JobResult)
  | jobs (results : List JobResult) (total : Nat)
  | onboarding (status : OnboardingStatusResponse)

/-- Return a row. -/
def replyRow (t : Table) (p : Service t.Row) : Service Reply := do
  let row ← p
  pure (.row t row)

/-- Return a page. -/
def replyPage (t : Table) (p : Service (List t.Row × Nat)) : Service Reply := do
  let (items, total) ← p
  pure (.page t items total)

/-- Return a job with its latest run. -/
def replyJob (p : Service JobResult) : Service Reply := do
  let result ← p
  pure (.job result)

/-- Perform an operation for a tenant. -/
def perform (context : TenantContext) : Operation → Service Reply
  | .createTenant name => replyRow .tenants (createTenant name)
  | .getTenant => replyRow .tenants (getTenant context)
  | .updateTenant name => replyRow .tenants (updateTenant context name)
  | .createWorkspace name => replyRow .workspaces (createWorkspace context name)
  | .createMembership workspaceId userId role =>
      replyRow .memberships (createMembership context workspaceId userId role)
  | .createSite workspaceId name url => replyRow .sites (createSite context workspaceId name url)
  | .createConnector workspaceId siteId kind =>
      replyRow .connectors (createConnector context workspaceId siteId kind)
  | .getOwned model resourceId =>
      replyRow model.table (requireOwned model.table context resourceId)
  | .listOwned model page => replyPage model.table (listOwnedPage model.table context page)
  | .updateWorkspace resourceId name =>
      replyRow .workspaces (updateOwned .workspaces context resourceId (workspaceChange name))
  | .updateMembership resourceId role =>
      replyRow .memberships (updateOwned .memberships context resourceId (membershipChange role))
  | .updateSite resourceId changes =>
      replyRow .sites (updateOwned .sites context resourceId (siteChange changes))
  | .updateConnector resourceId status =>
      replyRow .connectors (updateOwned .connectors context resourceId (connectorChange status))
  | .getOnboardingStatus workspaceId => do
      let status ← getOnboardingStatus context workspaceId
      pure (.onboarding status)
  | .createBusinessProfile workspaceId values actorId =>
      replyRow .businessProfiles (createBusinessProfile context workspaceId values actorId)
  | .getBusinessProfile workspaceId =>
      replyRow .businessProfiles (getBusinessProfile context workspaceId)
  | .updateBusinessProfile workspaceId changes actorId =>
      replyRow .businessProfiles (updateBusinessProfile context workspaceId changes actorId)
  | .createPrimaryGrowthGoal workspaceId values actorId =>
      replyRow .growthGoals (createPrimaryGrowthGoal context workspaceId values actorId)
  | .getPrimaryGrowthGoal workspaceId =>
      replyRow .growthGoals (getPrimaryGrowthGoal context workspaceId)
  | .updatePrimaryGrowthGoal workspaceId changes actorId =>
      replyRow .growthGoals (updatePrimaryGrowthGoal context workspaceId changes actorId)
  | .createAutonomyPolicy workspaceId values actorId =>
      replyRow .autonomyPolicies (createAutonomyPolicy context workspaceId values actorId)
  | .getAutonomyPolicy workspaceId =>
      replyRow .autonomyPolicies (getAutonomyPolicy context workspaceId)
  | .updateAutonomyPolicy workspaceId changes actorId =>
      replyRow .autonomyPolicies (updateAutonomyPolicy context workspaceId changes actorId)
  | .createCompetitor workspaceId values actorId =>
      replyRow .competitors (createCompetitor context workspaceId values actorId)
  | .listCompetitors workspaceId page =>
      replyPage .competitors (listCompetitors context workspaceId page)
  | .getCompetitor workspaceId competitorId =>
      replyRow .competitors (getCompetitor context workspaceId competitorId)
  | .updateCompetitor workspaceId competitorId changes actorId =>
      replyRow .competitors (updateCompetitor context workspaceId competitorId changes actorId)
  | .createJob request => replyJob (createJob context request)
  | .getJob jobId => replyJob (getJob context jobId)
  | .transitionJob jobId expectedStatus targetStatus actorId =>
      replyJob (transitionJob context jobId expectedStatus targetStatus actorId)
  | .reserveRetry jobId expectedAttemptNumber actorId =>
      replyJob (reserveRetry context jobId expectedAttemptNumber actorId)
  | .listJobs filter page => do
      let (results, total) ← listJobs context filter page
      pure (.jobs results total)
  | .listRuns jobId page => replyPage .runs (listRuns context jobId page)
  | .createProposal request => replyRow .proposals (createProposal context request)
  | .getProposal proposalId => replyRow .proposals (requireOwned .proposals context proposalId)
  | .listProposals filter page => replyPage .proposals (listProposals context filter page)
  | .decideProposal proposalId decision decidedBy reason =>
      replyRow .decisions (decideProposal context proposalId decision decidedBy reason)
  | .listAuditEvents filter page => replyPage .auditEvents (listAuditEvents context filter page)

/-! ## Identifiers -/

/-- Replace the identifiers that name rows. Users and actors are not rows. -/
def Operation.mapIds (f : Uuid → Uuid) : Operation → Operation
  | .createTenant name => .createTenant name
  | .getTenant => .getTenant
  | .updateTenant name => .updateTenant name
  | .createWorkspace name => .createWorkspace name
  | .createMembership workspaceId userId role => .createMembership (f workspaceId) userId role
  | .createSite workspaceId name url => .createSite (f workspaceId) name url
  | .createConnector workspaceId siteId kind => .createConnector (f workspaceId) (f siteId) kind
  | .getOwned model resourceId => .getOwned model (f resourceId)
  | .listOwned model page => .listOwned model page
  | .updateWorkspace resourceId name => .updateWorkspace (f resourceId) name
  | .updateMembership resourceId role => .updateMembership (f resourceId) role
  | .updateSite resourceId changes => .updateSite (f resourceId) changes
  | .updateConnector resourceId status => .updateConnector (f resourceId) status
  | .getOnboardingStatus workspaceId => .getOnboardingStatus (f workspaceId)
  | .createBusinessProfile workspaceId values actorId =>
      .createBusinessProfile (f workspaceId) values actorId
  | .getBusinessProfile workspaceId => .getBusinessProfile (f workspaceId)
  | .updateBusinessProfile workspaceId changes actorId =>
      .updateBusinessProfile (f workspaceId) changes actorId
  | .createPrimaryGrowthGoal workspaceId values actorId =>
      .createPrimaryGrowthGoal (f workspaceId) values actorId
  | .getPrimaryGrowthGoal workspaceId => .getPrimaryGrowthGoal (f workspaceId)
  | .updatePrimaryGrowthGoal workspaceId changes actorId =>
      .updatePrimaryGrowthGoal (f workspaceId) changes actorId
  | .createAutonomyPolicy workspaceId values actorId =>
      .createAutonomyPolicy (f workspaceId) values actorId
  | .getAutonomyPolicy workspaceId => .getAutonomyPolicy (f workspaceId)
  | .updateAutonomyPolicy workspaceId changes actorId =>
      .updateAutonomyPolicy (f workspaceId) changes actorId
  | .createCompetitor workspaceId values actorId =>
      .createCompetitor (f workspaceId) values actorId
  | .listCompetitors workspaceId page => .listCompetitors (f workspaceId) page
  | .getCompetitor workspaceId competitorId => .getCompetitor (f workspaceId) (f competitorId)
  | .updateCompetitor workspaceId competitorId changes actorId =>
      .updateCompetitor (f workspaceId) (f competitorId) changes actorId
  | .createJob request => .createJob { request with workspaceId := f request.workspaceId }
  | .getJob jobId => .getJob (f jobId)
  | .transitionJob jobId expectedStatus targetStatus actorId =>
      .transitionJob (f jobId) expectedStatus targetStatus actorId
  | .reserveRetry jobId expectedAttemptNumber actorId =>
      .reserveRetry (f jobId) expectedAttemptNumber actorId
  | .listJobs filter page => .listJobs { filter with workspaceId := filter.workspaceId.map f } page
  | .listRuns jobId page => .listRuns (f jobId) page
  | .createProposal request => .createProposal { request with jobId := f request.jobId }
  | .getProposal proposalId => .getProposal (f proposalId)
  | .listProposals filter page => .listProposals { filter with jobId := filter.jobId.map f } page
  | .decideProposal proposalId decision decidedBy reason =>
      .decideProposal (f proposalId) decision decidedBy reason
  | .listAuditEvents filter page =>
      .listAuditEvents { filter with resourceId := filter.resourceId.map f } page

end GrowthOs.Tenancy
