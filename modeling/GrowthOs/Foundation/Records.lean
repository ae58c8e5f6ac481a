import GrowthOs.Foundation.Service

/-!
# Requests that create and update the records of a workspace

The eight operations on business profiles, growth goals, autonomy policies and competitors, what
each of them asks for, and what it does to the database when it is committed.

A request writes only the columns whose value differs from the row that it has loaded. When another
request has changed the row in the meantime, the other columns keep what that request has written.
-/

namespace GrowthOs.Foundation

open Library Db

/-- What a column holds after a change of it: the session writes the value if it differs from the
loaded one. -/
def written {α : Type} [DecidableEq α] (value : Option α) (loaded current : α) : α :=
  match value with
  | some v => if loaded ≠ v then v else current
  | none => current

section Columns

variable {Row α : Type} [DecidableEq α]

/-- A column that has not changed since it was loaded holds the supplied value. -/
theorem written_self (value : Option α) (current : α) :
    written value current current = value.getD current := by
  cases value with
  | none => rfl
  | some v =>
      show (if current ≠ v then v else current) = v
      by_cases hv : current = v
      · rw [if_neg (not_not_intro hv), hv]
      · rw [if_pos hv]

/-- A change only writes columns with a supplied value. -/
theorem get_d_written (value : Option α) (loaded current : α) :
    value.getD (written value loaded current) = value.getD current := by
  cases value with
  | none => rfl
  | some v => rfl

/-- A column gets the value that differs from the loaded one. -/
theorem apply_column_written {get : Row → α} {set : α → Row → Row}
    (hset : ∀ row, set (get row) row = row) (value : Option α) (loaded current : Row) :
    (Change.column get set value).apply loaded current =
      set (written value (get loaded) (get current)) current := by
  cases value with
  | none => exact (hset current).symm
  | some v =>
      show (if get loaded ≠ v then set v current else current) =
        set (if get loaded ≠ v then v else get current) current
      by_cases hv : get loaded ≠ v
      · rw [if_pos hv, if_pos hv]
      · rw [if_neg hv, if_neg hv, hset]

/-- A change that sets no column to another value leaves the loaded row as it is. -/
def Clean (change : Change Row) : Prop := ∀ row, change.dirty row = false →
    change.apply row row = row

omit [DecidableEq α] in
/-- Two clean changes are. -/
theorem Clean.and {c c' : Change Row} (h : Clean c) (h' : Clean c') : Clean (c.and c') := by
  intro row hdirty
  obtain ⟨hc, hc'⟩ := Bool.or_eq_false_iff.mp hdirty
  rw [Change.apply_and, h row hc, h' row hc']

/-- The change of a column writes nothing where it is clean. -/
theorem clean_column {get : Row → α} {set : α → Row → Row} {value : Option α} :
    Clean (Change.column get set value) :=
  fun row hdirty => Change.apply_column_clean hdirty row

end Columns

/-- A business profile with the supplied values. -/
def BusinessProfileChanges.applied (changes : BusinessProfileChanges)
    (profile : WorkspaceBusinessProfile) : WorkspaceBusinessProfile :=
  { profile with
    companyName := changes.companyName.getD profile.companyName
    businessDescription := changes.businessDescription.getD profile.businessDescription
    productsServices := changes.productsServices.getD profile.productsServices
    targetAudience := changes.targetAudience.getD profile.targetAudience
    positioning := changes.positioning.getD profile.positioning
    brandVoice := changes.brandVoice.getD profile.brandVoice }

/-- A goal with the supplied values. -/
def GrowthGoalChanges.applied (changes : GrowthGoalChanges) (goal : WorkspacePrimaryGrowthGoal) :
    WorkspacePrimaryGrowthGoal :=
  { goal with
    objective := changes.objective.getD goal.objective
    successDefinition := changes.successDefinition.getD goal.successDefinition
    targetDate := changes.targetDate.getD goal.targetDate }

/-- A policy with the supplied values. -/
def AutonomyPolicyChanges.applied (changes : AutonomyPolicyChanges)
    (policy : WorkspaceAutonomyPolicy) : WorkspaceAutonomyPolicy :=
  { policy with
    level := changes.level.getD policy.level
    isPaused := changes.isPaused.getD policy.isPaused }

/-- A competitor with the supplied values. -/
def CompetitorChanges.applied (changes : CompetitorChanges) (competitor : WorkspaceCompetitor) :
    WorkspaceCompetitor :=
  { competitor with
    name := changes.name.getD competitor.name
    websiteUrl := changes.websiteUrl.getD competitor.websiteUrl
    notes := changes.notes.getD competitor.notes }

/-- A change that sets exactly the supplied values. -/
structure Change.Sets {t : Table} (change : Change t.Row) (applied : t.Row → t.Row) : Prop where
  id : ∀ loaded current : t.Row, rowId (change.apply loaded current) = rowId current
  parents : ∀ loaded current : t.Row, rowParents (change.apply loaded current) = rowParents current
  /-- On the row that was loaded. -/
  exact : ∀ row, change.apply row row = applied row
  /-- On any row, columns that are not supplied keep their values. -/
  frame : ∀ (loaded current : t.Row) (time : Nat),
    applied (rowTouch time (change.apply loaded current)) = applied (rowTouch time current)
  clean : Clean change

/-- The changes to a business profile set its columns. -/
theorem sets_business_profile (changes : BusinessProfileChanges) :
    @Change.Sets .businessProfiles changes.change changes.applied := by
  have happly : ∀ loaded current, changes.change.apply loaded current =
      { current with
        companyName := written changes.companyName loaded.companyName current.companyName
        businessDescription := written changes.businessDescription loaded.businessDescription
          current.businessDescription
        productsServices := written changes.productsServices loaded.productsServices
          current.productsServices
        targetAudience := written changes.targetAudience loaded.targetAudience
          current.targetAudience
        positioning := written changes.positioning loaded.positioning current.positioning
        brandVoice := written changes.brandVoice loaded.brandVoice current.brandVoice } := by
    intro loaded current
    unfold BusinessProfileChanges.change
    simp only [Change.apply_and]
    repeat rw [apply_column_written fun _ => rfl]
  refine ⟨fun loaded current => ?_, fun loaded current => ?_, fun row => ?_,
    fun loaded current time => ?_, ?_⟩
  · rw [happly]
    rfl
  · rw [happly]
    rfl
  · rw [happly]
    simp only [written_self]
    rfl
  · rw [happly]
    simp only [BusinessProfileChanges.applied, rowTouch, get_d_written]
  · unfold BusinessProfileChanges.change
    repeat first | exact clean_column | refine clean_column.and ?_

/-- So do those to a growth goal. -/
theorem sets_growth_goal (changes : GrowthGoalChanges) :
    @Change.Sets .growthGoals changes.change changes.applied := by
  have happly : ∀ loaded current, changes.change.apply loaded current =
      { current with
        objective := written changes.objective loaded.objective current.objective
        successDefinition := written changes.successDefinition loaded.successDefinition
          current.successDefinition
        targetDate := written changes.targetDate loaded.targetDate current.targetDate } := by
    intro loaded current
    unfold GrowthGoalChanges.change
    simp only [Change.apply_and]
    repeat rw [apply_column_written fun _ => rfl]
  refine ⟨fun loaded current => ?_, fun loaded current => ?_, fun row => ?_,
    fun loaded current time => ?_, ?_⟩
  · rw [happly]
    rfl
  · rw [happly]
    rfl
  · rw [happly]
    simp only [written_self]
    rfl
  · rw [happly]
    simp only [GrowthGoalChanges.applied, rowTouch, get_d_written]
  · unfold GrowthGoalChanges.change
    repeat first | exact clean_column | refine clean_column.and ?_

/-- So do those to an autonomy policy. -/
theorem sets_autonomy_policy (changes : AutonomyPolicyChanges) :
    @Change.Sets .autonomyPolicies changes.change changes.applied := by
  have happly : ∀ loaded current, changes.change.apply loaded current =
      { current with
        level := written changes.level loaded.level current.level
        isPaused := written changes.isPaused loaded.isPaused current.isPaused } := by
    intro loaded current
    unfold AutonomyPolicyChanges.change
    simp only [Change.apply_and]
    repeat rw [apply_column_written fun _ => rfl]
  refine ⟨fun loaded current => ?_, fun loaded current => ?_, fun row => ?_,
    fun loaded current time => ?_, ?_⟩
  · rw [happly]
    rfl
  · rw [happly]
    rfl
  · rw [happly]
    simp only [written_self]
    rfl
  · rw [happly]
    simp only [AutonomyPolicyChanges.applied, rowTouch, get_d_written]
  · unfold AutonomyPolicyChanges.change
    repeat first | exact clean_column | refine clean_column.and ?_

/-- So do those to a competitor. -/
theorem sets_competitor (changes : CompetitorChanges) :
    @Change.Sets .competitors changes.change changes.applied := by
  have happly : ∀ loaded current, changes.change.apply loaded current =
      { current with
        name := written changes.name loaded.name current.name
        websiteUrl := written changes.websiteUrl loaded.websiteUrl current.websiteUrl
        notes := written changes.notes loaded.notes current.notes } := by
    intro loaded current
    unfold CompetitorChanges.change
    simp only [Change.apply_and]
    repeat rw [apply_column_written fun _ => rfl]
  refine ⟨fun loaded current => ?_, fun loaded current => ?_, fun row => ?_,
    fun loaded current time => ?_, ?_⟩
  · rw [happly]
    rfl
  · rw [happly]
    rfl
  · rw [happly]
    simp only [written_self]
    rfl
  · rw [happly]
    simp only [CompetitorChanges.applied, rowTouch, get_d_written]
  · unfold CompetitorChanges.change
    repeat first | exact clean_column | refine clean_column.and ?_

/-! ## Requests -/

/-- The requests. -/
inductive RecordRequest where
  | createBusinessProfile (context : TenantContext) (workspaceId : Uuid)
      (values : BusinessProfileValues) (actorId : Option Uuid)
  | updateBusinessProfile (context : TenantContext) (workspaceId : Uuid)
      (changes : BusinessProfileChanges) (actorId : Option Uuid)
  | createPrimaryGrowthGoal (context : TenantContext) (workspaceId : Uuid)
      (values : GrowthGoalValues) (actorId : Option Uuid)
  | updatePrimaryGrowthGoal (context : TenantContext) (workspaceId : Uuid)
      (changes : GrowthGoalChanges) (actorId : Option Uuid)
  | createAutonomyPolicy (context : TenantContext) (workspaceId : Uuid)
      (values : AutonomyPolicyValues) (actorId : Option Uuid)
  | updateAutonomyPolicy (context : TenantContext) (workspaceId : Uuid)
      (changes : AutonomyPolicyChanges) (actorId : Option Uuid)
  | createCompetitor (context : TenantContext) (workspaceId : Uuid) (values : CompetitorValues)
      (actorId : Option Uuid)
  | updateCompetitor (context : TenantContext) (workspaceId competitorId : Uuid)
      (changes : CompetitorChanges) (actorId : Option Uuid)
  deriving DecidableEq, Repr

/-- A record of some kind. -/
abbrev Record := (t : Table) × t.Row

/-- Serve a request. -/
def serveRecord : RecordRequest → Service Record
  | .createBusinessProfile context workspaceId values actorId => do
      return ⟨.businessProfiles, ← createBusinessProfile context workspaceId values actorId⟩
  | .updateBusinessProfile context workspaceId changes actorId => do
      return ⟨.businessProfiles, ← updateBusinessProfile context workspaceId changes actorId⟩
  | .createPrimaryGrowthGoal context workspaceId values actorId => do
      return ⟨.growthGoals, ← createPrimaryGrowthGoal context workspaceId values actorId⟩
  | .updatePrimaryGrowthGoal context workspaceId changes actorId => do
      return ⟨.growthGoals, ← updatePrimaryGrowthGoal context workspaceId changes actorId⟩
  | .createAutonomyPolicy context workspaceId values actorId => do
      return ⟨.autonomyPolicies, ← createAutonomyPolicy context workspaceId values actorId⟩
  | .updateAutonomyPolicy context workspaceId changes actorId => do
      return ⟨.autonomyPolicies, ← updateAutonomyPolicy context workspaceId changes actorId⟩
  | .createCompetitor context workspaceId values actorId => do
      return ⟨.competitors, ← createCompetitor context workspaceId values actorId⟩
  | .updateCompetitor context workspaceId competitorId changes actorId => do
      return ⟨.competitors, ← updateCompetitor context workspaceId competitorId changes actorId⟩

/-- `WorkspaceCompetitor`. -/
def competitorRecords : RecordKind := ⟨.competitors, (·.workspaceId), competitorResource⟩

/-- The kind of the record of a request. -/
def RecordRequest.kind : RecordRequest → RecordKind
  | .createBusinessProfile .. => businessProfiles
  | .updateBusinessProfile .. => businessProfiles
  | .createPrimaryGrowthGoal .. => growthGoals
  | .updatePrimaryGrowthGoal .. => growthGoals
  | .createAutonomyPolicy .. => autonomyPolicies
  | .updateAutonomyPolicy .. => autonomyPolicies
  | .createCompetitor .. => competitorRecords
  | .updateCompetitor .. => competitorRecords

/-- A new record, with its identifier and the time of its creation, or a selected record with the
supplied values. -/
inductive RecordWrite (kind : RecordKind) where
  | create (row : Uuid → Nat → kind.table.Row)
  | update (selects : kind.table.Row → Bool) (applied : kind.table.Row → kind.table.Row)

/-- What a request asks for. -/
structure RecordTask (kind : RecordKind) where
  context : TenantContext
  workspaceId : Uuid
  actorId : Option Uuid
  /-- The sorted names of the supplied fields. -/
  fields : List String
  write : RecordWrite kind

/-- The record is that of a workspace of the tenant. -/
def inWorkspace (kind : RecordKind) (context : TenantContext) (workspaceId : Uuid)
    (row : kind.table.Row) : Bool :=
  rowTenant row = context.tenantId && kind.workspaceOf row = workspaceId

/-- What a request asks for: in a new record the columns without a supplied value are null, and a
policy is paused. -/
def RecordRequest.task : (request : RecordRequest) → RecordTask request.kind
  | .createBusinessProfile context workspaceId values actorId =>
      ⟨context, workspaceId, actorId, values.fields, .create fun id time =>
        (⟨id, time, time, context.tenantId, workspaceId, values.companyName,
          values.businessDescription.join, values.productsServices.join, values.targetAudience.join,
          values.positioning.join, values.brandVoice.join⟩ : WorkspaceBusinessProfile)⟩
  | .updateBusinessProfile context workspaceId changes actorId =>
      ⟨context, workspaceId, actorId, changes.fields,
        .update (inWorkspace businessProfiles context workspaceId) changes.applied⟩
  | .createPrimaryGrowthGoal context workspaceId values actorId =>
      ⟨context, workspaceId, actorId, values.fields, .create fun id time =>
        (⟨id, time, time, context.tenantId, workspaceId, values.objective,
          values.successDefinition.join, values.targetDate.join⟩ : WorkspacePrimaryGrowthGoal)⟩
  | .updatePrimaryGrowthGoal context workspaceId changes actorId =>
      ⟨context, workspaceId, actorId, changes.fields,
        .update (inWorkspace growthGoals context workspaceId) changes.applied⟩
  | .createAutonomyPolicy context workspaceId values actorId =>
      ⟨context, workspaceId, actorId, values.fields, .create fun id time =>
        (⟨id, time, time, context.tenantId, workspaceId, values.level,
          values.isPaused.getD true⟩ : WorkspaceAutonomyPolicy)⟩
  | .updateAutonomyPolicy context workspaceId changes actorId =>
      ⟨context, workspaceId, actorId, changes.fields,
        .update (inWorkspace autonomyPolicies context workspaceId) changes.applied⟩
  | .createCompetitor context workspaceId values actorId =>
      ⟨context, workspaceId, actorId, values.fields, .create fun id time =>
        (⟨id, time, time, context.tenantId, workspaceId, values.name,
          values.websiteUrl.join, values.notes.join⟩ : WorkspaceCompetitor)⟩
  | .updateCompetitor context workspaceId competitorId changes actorId =>
      ⟨context, workspaceId, actorId, changes.fields,
        .update (fun competitor => inWorkspace competitorRecords context workspaceId competitor &&
          rowId competitor = competitorId) changes.applied⟩

/-- The names of supplied fields are sorted. -/
theorem fields_sorted (request : RecordRequest) :
    request.task.fields.Pairwise (· < ·) := by
  have hsorted : ∀ columns : List (String × Bool), (columns.map (·.1)).Pairwise (· < ·) →
      (supplied columns).Pairwise (· < ·) := fun columns h =>
    h.sublist (List.filter_sublist.map _)
  cases request <;> refine hsorted _ ?_ <;> simp only [List.map_cons, List.map_nil] <;> decide

section Tasks

variable {kind : RecordKind}

/-- What the event of a request is called. -/
def RecordTask.eventType (task : RecordTask kind) : String :=
  match task.write with
  | .create _ => kind.resourceType ++ ".created"
  | .update _ _ => kind.resourceType ++ ".updated"

/-- The audit event of a request: it names the record, its workspace and the supplied fields. -/
def RecordTask.event (task : RecordTask kind) (auditId resourceId : Uuid) (time : Nat) :
    AuditEvent :=
  ⟨auditId, task.context.tenantId, task.eventType, kind.resourceType, resourceId, task.actorId,
    .changedFields task.workspaceId task.fields, time⟩

/-- The record that a request leaves, in the place of `old`. -/
inductive RecordWrite.Exact : RecordWrite kind → Option kind.table.Row → kind.table.Row → Prop where
  | create {row : Uuid → Nat → kind.table.Row} (id : Uuid) (time : Nat) :
      RecordWrite.Exact (.create row) none (row id time)
  | update {selects : kind.table.Row → Bool} {applied : kind.table.Row → kind.table.Row}
      {old : kind.table.Row} (selected : selects old = true) (time : Nat) :
      RecordWrite.Exact (.update selects applied) (some old) (rowTouch time (applied old))

/-- The record that a request leaves when others may have changed it since it was loaded: the
columns without a supplied value keep their values. -/
inductive RecordWrite.Frame : RecordWrite kind → Option kind.table.Row → kind.table.Row → Prop where
  | create {row : Uuid → Nat → kind.table.Row} (id : Uuid) (time : Nat) :
      RecordWrite.Frame (.create row) none (row id time)
  | update {selects : kind.table.Row → Bool} {applied : kind.table.Row → kind.table.Row}
      {old record : kind.table.Row} (selected : selects old = true) (time : Nat)
      (others : applied record = applied (rowTouch time old)) :
      RecordWrite.Frame (.update selects applied) (some old) record

/-- The effect of a committed request: one audit event, and one record that is new or in the place
of its old version. -/
structure Recorded (task : RecordTask kind) (before after : Database schema)
    (old : Option kind.table.Row) (record : kind.table.Row) : Prop where
  audit : ∃ auditId time,
    after .auditEvents = before .auditEvents ++ [task.event auditId (rowId record) time]
  records : after kind.table = (⟨kind.table, old, record⟩ : Write schema).rows (before kind.table)
  others : ∀ t, t ≠ .auditEvents → t ≠ kind.table → after t = before t
  replaces : ∀ row ∈ old, row ∈ before kind.table ∧ rowId row = rowId record ∧
    rowParents row = rowParents record
  placed : inWorkspace kind task.context task.workspaceId record = true

end Tasks

end GrowthOs.Foundation
