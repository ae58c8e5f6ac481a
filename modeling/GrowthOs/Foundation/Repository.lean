import GrowthOs.Db.Queries

/-!
# The foundation repository

`repositories.py`: the queries of tenants, workspaces and their records.
-/

namespace GrowthOs.Foundation

open Library Db

/-- `get_tenant`. -/
def findTenant (context : TenantContext) : Service (Option Tenant) :=
  scalar .tenants fun tenant => tenant.id = context.tenantId

/-- `list_owned`. -/
def listOwned (t : Table) (context : TenantContext) (page : PageRequest) :
    Service (List t.Row × Nat) :=
  listPage t (fun row => rowTenant row = context.tenantId) byCreation page

/-- The one record of a workspace in a table. -/
def findRecord (t : Table) (workspaceOf : t.Row → Uuid) (context : TenantContext)
    (workspaceId : Uuid) : Service (Option t.Row) :=
  scalar t fun row => rowTenant row = context.tenantId && workspaceOf row = workspaceId

/-- `get_competitor`. -/
def findCompetitor (context : TenantContext) (workspaceId competitorId : Uuid) :
    Service (Option WorkspaceCompetitor) :=
  scalar .competitors fun competitor => competitor.tenantId = context.tenantId &&
    competitor.workspaceId = workspaceId && competitor.id = competitorId

/-- `list_competitors`. -/
def pageOfCompetitors (context : TenantContext) (workspaceId : Uuid) (page : PageRequest) :
    Service (List WorkspaceCompetitor × Nat) :=
  listPage .competitors (fun competitor => competitor.tenantId = context.tenantId &&
    competitor.workspaceId = workspaceId) byCreation page

/-- `OnboardingRecordStatus`. -/
structure OnboardingRecordStatus where
  hasSite : Bool
  hasBusinessProfile : Bool
  hasPrimaryGrowthGoal : Bool
  hasAutonomyPolicy : Bool
  deriving DecidableEq, Repr

/-- `get_onboarding_record_status`. -/
def getOnboardingRecordStatus (context : TenantContext) (workspaceId : Uuid) :
    Service OnboardingRecordStatus :=
  statement (.select fun d =>
    { hasSite := (d .sites).any fun site =>
        site.tenantId = context.tenantId && site.workspaceId = workspaceId
      hasBusinessProfile := (d .businessProfiles).any fun profile =>
        profile.tenantId = context.tenantId && profile.workspaceId = workspaceId
      hasPrimaryGrowthGoal := (d .growthGoals).any fun goal =>
        goal.tenantId = context.tenantId && goal.workspaceId = workspaceId
      hasAutonomyPolicy := (d .autonomyPolicies).any fun policy =>
        policy.tenantId = context.tenantId && policy.workspaceId = workspaceId })

end GrowthOs.Foundation
