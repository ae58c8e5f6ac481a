import GrowthOs.Foundation.Records
import GrowthOs.Db.Rules

/-!
# What the requests for records keep

Every commit appends one audit event, so the audit log tells whether a database is still the one
that a request has read: as long as no event has been appended, nothing has changed.
-/

namespace GrowthOs.Foundation

open Library Db

/-- The kinds of records that a workspace has. -/
def recordKinds : List RecordKind :=
    [businessProfiles, growthGoals, autonomyPolicies, competitorRecords]

/-- The table of a kind holds records of workspaces. -/
structure RecordKind.Lawful (kind : RecordKind) : Prop where
  audit : kind.table ≠ .auditEvents
  workspaces : kind.table ≠ .workspaces
  parents : ∀ row : kind.table.Row,
    rowParents row = [(.workspaces, [kind.workspaceOf row, rowTenant row])]

/-- Every kind of record is lawful. -/
theorem lawful_of_mem {kind : RecordKind} (h : kind ∈ recordKinds) : kind.Lawful := by
  simp only [recordKinds, List.mem_cons, List.not_mem_nil, or_false] at h
  rcases h with rfl | rfl | rfl | rfl <;> exact ⟨nofun, nofun, fun _ => rfl⟩

/-- A table holds one kind of record. -/
theorem kind_eq_of_table {kind kind' : RecordKind} (h : kind ∈ recordKinds)
    (h' : kind' ∈ recordKinds) (htable : kind.table = kind'.table) : kind = kind' := by
  simp only [recordKinds, List.mem_cons, List.not_mem_nil, or_false] at h h'
  rcases h with rfl | rfl | rfl | rfl <;> rcases h' with rfl | rfl | rfl | rfl <;>
    first | rfl | cases htable

/-- The kind of a request is one of them. -/
theorem kind_mem (request : RecordRequest) : request.kind ∈ recordKinds := by
  cases request <;> simp [RecordRequest.kind, recordKinds]

/-- Rows with the same parents belong to the same workspace. -/
theorem in_workspace_eq {kind : RecordKind} (hkind : kind.Lawful) {context : TenantContext}
    {workspaceId : Uuid} {row row' : kind.table.Row} (h : rowParents row = rowParents row') :
    inWorkspace kind context workspaceId row = inWorkspace kind context workspaceId row' := by
  rw [hkind.parents, hkind.parents] at h
  simp only [List.cons.injEq, Prod.mk.injEq, and_true, true_and] at h
  unfold inWorkspace
  rw [h.1, h.2]

/-! ## The rules -/

/-- Every record belongs to a workspace of its tenant. -/
def Placed (d : Database schema) : Prop :=
  ∀ kind ∈ recordKinds, ∀ row ∈ d kind.table, ∃ workspace ∈ d .workspaces,
    workspace.id = kind.workspaceOf row ∧ workspace.tenantId = rowTenant row

/-- How the requests change a database. -/
structure RecordsEvolve (d d' : Database schema) : Prop where
  workspaces : d' .workspaces = d .workspaces
  auditEvents : d .auditEvents <+: d' .auditEvents
  /-- Nothing changes without an audit event. -/
  same : d' .auditEvents = d .auditEvents → d' = d
  kept : ∀ t, ∀ row ∈ d t, ∃ row' ∈ d' t, rowId row' = rowId row ∧ rowParents row' = rowParents row

/-- Records evolve into themselves. -/
theorem RecordsEvolve.refl (d : Database schema) : RecordsEvolve d d :=
  ⟨rfl, List.prefix_rfl, fun _ => rfl, fun _ row hrow => ⟨row, hrow, rfl, rfl⟩⟩

/-- They evolve on. -/
theorem RecordsEvolve.trans {d d' d'' : Database schema} (h : RecordsEvolve d d')
    (h' : RecordsEvolve d' d'') : RecordsEvolve d d'' := by
  refine ⟨h'.workspaces.trans h.workspaces, h.auditEvents.trans h'.auditEvents, fun hsame => ?_,
    fun t row hrow => ?_⟩
  · have hevents : d' .auditEvents = d .auditEvents :=
      (h'.auditEvents.eq_of_length_le (hsame ▸ h.auditEvents.length_le)).trans hsame
    rw [h'.same (hsame.trans hevents.symm), h.same hevents]
  · obtain ⟨row', hrow', hid, hparents⟩ := h.kept t row hrow
    obtain ⟨row'', hrow'', hid', hparents'⟩ := h'.kept t row' hrow'
    exact ⟨row'', hrow'', hid'.trans hid, hparents'.trans hparents⟩

/-- A database between two with the same events. -/
theorem RecordsEvolve.between {d d' d'' : Database schema} (h : RecordsEvolve d d')
    (h' : RecordsEvolve d' d'') (hsame : d'' .auditEvents = d .auditEvents) : d' = d ∧ d'' = d := by
  have hevents : d' .auditEvents = d .auditEvents :=
    (h'.auditEvents.eq_of_length_le (hsame ▸ h.auditEvents.length_le)).trans hsame
  exact ⟨h.same hevents, (h.trans h').same hsame⟩

/-- The rules of the requests. -/
def recordRules : Rules schema := ⟨Placed, RecordsEvolve, RecordsEvolve.refl, RecordsEvolve.trans⟩

section Effects

variable {kind : RecordKind} {task : RecordTask kind} {before after : Database schema}
  {old : Option kind.table.Row} {record : kind.table.Row}

/-- The record is stored. -/
theorem record_mem (h : Recorded task before after old record) : record ∈ after kind.table := by
  rw [h.records]
  cases old with
  | none => exact List.mem_append_right _ (List.mem_singleton_self _)
  | some row =>
      obtain ⟨hmem, hid, -⟩ := h.replaces row rfl
      exact List.mem_map.mpr ⟨row, hmem, if_pos hid⟩

/-- A stored record is the written one or an earlier one. -/
theorem mem_of_recorded (h : Recorded task before after old record) {row : kind.table.Row}
    (hrow : row ∈ after kind.table) : row = record ∨ row ∈ before kind.table := by
  rw [h.records] at hrow
  cases old with
  | none =>
      rcases List.mem_append.mp hrow with hrow | hrow
      · exact .inr hrow
      · exact .inl (List.mem_singleton.mp hrow)
  | some replaced =>
      obtain ⟨row', hrow', heq⟩ := List.mem_map.mp hrow
      by_cases hid : rowId row' = rowId record
      · exact .inl (heq.symm.trans (if_pos hid))
      · exact .inr (by rwa [← heq, if_neg hid])

/-- A recorded task lets them evolve. -/
theorem evolve_of_recorded (hkind : kind.Lawful) (hbefore : Consistent before)
    (h : Recorded task before after old record) : RecordsEvolve before after := by
  obtain ⟨auditId, time, haudit⟩ := h.audit
  refine ⟨h.others _ nofun hkind.workspaces.symm, ?_, fun hsame => ?_, fun t row hrow => ?_⟩
  · rw [haudit]
    exact List.prefix_append _ _
  · rw [haudit] at hsame
    have hlength := congrArg List.length hsame
    simp at hlength
  · by_cases hevents : t = .auditEvents
    · subst hevents
      rw [haudit]
      exact ⟨row, List.mem_append_left _ hrow, rfl, rfl⟩
    · by_cases htable : t = kind.table
      · subst htable
        rw [h.records]
        cases old with
        | none => exact ⟨row, List.mem_append_left _ hrow, rfl, rfl⟩
        | some replaced =>
            obtain ⟨hmem, hid, hparents⟩ := h.replaces replaced rfl
            by_cases hrowId : rowId row = rowId record
            · obtain rfl : row = replaced :=
                eq_of_ident_eq (hbefore kind.table) hrow hmem (hrowId.trans hid.symm)
              exact ⟨record, List.mem_map.mpr ⟨row, hrow, if_pos hrowId⟩, hid.symm, hparents.symm⟩
            · exact ⟨row, List.mem_map.mpr ⟨row, hrow, if_neg hrowId⟩, rfl, rfl⟩
      · rw [h.others t hevents htable]
        exact ⟨row, hrow, rfl, rfl⟩

/-- It leaves every record in its workspace. -/
theorem placed_of_recorded (hkind : kind ∈ recordKinds) (hbefore : Placed before)
    (h : Recorded task before after old record)
    (hnew : old = none → ∃ workspace ∈ before .workspaces, workspace.id = task.workspaceId ∧
      workspace.tenantId = task.context.tenantId) : Placed after := by
  have hlawful := lawful_of_mem hkind
  intro kind' hkind' row hrow
  rw [h.others .workspaces nofun hlawful.workspaces.symm]
  by_cases htable : kind'.table = kind.table
  · obtain rfl := kind_eq_of_table hkind' hkind htable
    rcases mem_of_recorded h hrow with rfl | hrow
    · cases old with
      | none =>
          obtain ⟨workspace, hworkspace, hid, htenant⟩ := hnew rfl
          have hplaced := h.placed
          simp only [inWorkspace, Bool.and_eq_true, decide_eq_true_eq] at hplaced
          exact ⟨workspace, hworkspace, hid.trans hplaced.2.symm, htenant.trans hplaced.1.symm⟩
      | some replaced =>
          obtain ⟨hmem, -, hparents⟩ := h.replaces replaced rfl
          rw [hlawful.parents, hlawful.parents] at hparents
          simp only [List.cons.injEq, Prod.mk.injEq, and_true, true_and] at hparents
          rw [← hparents.1, ← hparents.2]
          exact hbefore kind' hkind' replaced hmem
    · exact hbefore kind' hkind' row hrow
  · rw [h.others kind'.table (lawful_of_mem hkind').audit htable] at hrow
    exact hbefore kind' hkind' row hrow

/-- The effect of the pending writes of a request. -/
theorem recorded_of_pending {s : Session schema} {d : Database schema}
    (hd : recordRules.Relies s d) {auditId : Uuid} {time : Nat}
    (haudit : (⟨.auditEvents, none, task.event auditId (rowId record) time⟩ : Write schema) ∈
      s.pending)
    (hrecord : (⟨kind.table, old, record⟩ : Write schema) ∈ s.pending)
    (honly : ∀ w ∈ s.pending, w.table = .auditEvents ∨ w.table = kind.table)
    (hparents : ∀ row ∈ old, rowParents row = rowParents record)
    (hplaced : inWorkspace kind task.context task.workspaceId record = true) :
    Recorded task d (s.view d) old record := by
  refine ⟨⟨auditId, time, view_insert hd haudit rfl⟩, apply_all_written d hd.tidy.tables hrecord,
    fun t hevents htable => view_of_not_written fun w hw heq => ?_, fun row hrow => ?_, hplaced⟩
  · rcases honly w hw with hw | hw
    · exact hevents (heq.trans hw)
    · exact htable (heq.trans hw)
  · obtain ⟨hmem, hid⟩ := (hd.stands _ hrecord).replaces row hrow
    exact ⟨hmem, hid, hparents row hrow⟩

end Effects

section Answers

variable {kind : RecordKind}

/-- What a request has committed: `before` was the database at its commit, `writes` are its writes,
and `seen` is a later database. -/
structure Stored (task : RecordTask kind) (arrived before : Database schema)
    (old : Option kind.table.Row) (record : kind.table.Row) (writes : List (Write schema))
    (seen : Database schema) : Prop where
  arrives : RecordsEvolve arrived before
  recorded : Recorded task before (applyAll writes before) old record
  frame : task.write.Frame old record
  /-- No other request has committed since this one arrived. -/
  exact : before .auditEvents = arrived .auditEvents → task.write.Exact old record
  event : ∃ auditId time,
    @inserted schema Table.auditEvents writes = [task.event auditId (rowId record) time]
  inserts : ∀ w ∈ writes, w.table = Table.auditEvents → w.old = none
  seen : RecordsEvolve (applyAll writes before) seen

/-- The answer to a request. `arrived` is the committed database when it arrived. -/
inductive RecordAnswer (task : RecordTask kind) (arrived : Database schema) :
    Except ServiceError kind.table.Row → Session schema → Prop where
  | rejected {e : ServiceError} {s : Session schema} (written : s.written = [])
      (seen : RecordsEvolve arrived s.seen) : RecordAnswer task arrived (.error e) s
  /-- Reading the committed record back may still fail. -/
  | committed {result : Except ServiceError kind.table.Row} {s : Session schema}
      {before : Database schema} {old : Option kind.table.Row} {record : kind.table.Row}
      (stored : Stored task arrived before old record s.written s.seen)
      (answer : (result = .error (.database .operational) ∧ s.failed = true) ∨
        ∃ row ∈ s.seen kind.table, rowId row = rowId record ∧ result = .ok row) :
      RecordAnswer task arrived result s

/-- What the writes of a request and their commit lead to. -/
def Saved (task : RecordTask kind) (arrived : Database schema) (id : Uuid) :
    Except ServiceError Unit → Session schema → Prop
  | .ok (), s => s.pending = [] ∧ ∃ before old record, rowId record = id ∧
      Stored task arrived before old record s.written s.seen
  | .error _, s => s.written = [] ∧ RecordsEvolve arrived s.seen

variable {task : RecordTask kind} {arrived : Database schema} {s : Session schema}

/-- The commit of a request. -/
theorem wp_commit_record (hkind : kind ∈ recordKinds) (hwritten : s.written = [])
    (harrived : RecordsEvolve arrived s.seen) {auditId id : Uuid} {time : Nat}
    (hevent : @inserted schema Table.auditEvents s.pending = [task.event auditId id time])
    (hinserts : ∀ w ∈ s.pending, w.table = Table.auditEvents → w.old = none)
    (h : ∀ d, recordRules.Relies s d → ∃ old record, rowId record = id ∧
      Recorded task d (s.view d) old record ∧ task.write.Frame old record ∧
      (d .auditEvents = arrived .auditEvents → task.write.Exact old record) ∧
      (old = none → ∃ workspace ∈ d .workspaces, workspace.id = task.workspaceId ∧
        workspace.tenantId = task.context.tenantId)) :
    recordRules.wp commit s (Saved task arrived id) := by
  refine wp_commit fun d hd _ => ?_
  obtain ⟨old, record, rfl, hrecorded, hframe, hexact, hnew⟩ := h d hd
  have hevolves : RecordsEvolve s.seen d := hd.evolves
  have hpending : s.written ++ s.pending = s.pending := by rw [hwritten, List.nil_append]
  refine ⟨placed_of_recorded hkind hd.invariant hrecorded hnew,
    evolve_of_recorded (lawful_of_mem hkind) hd.consistent hrecorded, ?_,
    hwritten, harrived.trans hevolves⟩
  refine ⟨rfl, d, old, record, rfl, ?_⟩
  show Stored task arrived d old record (s.written ++ s.pending) (s.view d)
  rw [hpending]
  exact ⟨harrived.trans hevolves, hrecorded, hframe, hexact, ⟨auditId, time, hevent⟩, hinserts,
    .refl _⟩

/-- The handler of a request rolls back. -/
theorem wp_rollback_on_error {body : Service Unit} {id : Uuid}
    (h : recordRules.wp body s (Saved task arrived id)) :
    recordRules.wp (rollbackOnError body) s (Saved task arrived id) := by
  have hrollback : ∀ (e : ServiceError) (s' : Session schema), s'.written = [] →
      RecordsEvolve arrived s'.seen →
      recordRules.wp (do rollback; .raise e) s' (Saved task arrived id) := by
    intro e s' hwritten hseen
    refine each_bind (Rules.wp_rollback fun d hd => ?_)
    have hevolves : RecordsEvolve s'.seen d := hd.evolves
    exact ⟨⟨hwritten, hseen.trans hevolves⟩, hwritten, hseen.trans hevolves⟩
  refine each_handle (each_post h fun result s' hresult => ?_)
  match result, hresult with
  | .ok (), hsaved => exact hsaved
  | .error (.database .integrity), hsaved => exact hrollback .conflict s' hsaved.1 hsaved.2
  | .error .notFound, hsaved => exact hrollback _ s' hsaved.1 hsaved.2
  | .error .conflict, hsaved => exact hrollback _ s' hsaved.1 hsaved.2
  | .error (.invalidStateTransition message), hsaved => exact hrollback _ s' hsaved.1 hsaved.2
  | .error (.database .operational), hsaved => exact hrollback _ s' hsaved.1 hsaved.2
  | .error .invalidRequest, hsaved => exact hrollback _ s' hsaved.1 hsaved.2
  | .error .staleData, hsaved => exact hrollback _ s' hsaved.1 hsaved.2

/-- A request writes, commits and reads the record back. -/
theorem wp_save_refresh {body : Service Unit} {id : Uuid}
    (h : recordRules.wp body s (Saved task arrived id)) :
    recordRules.wp (do rollbackOnError body; refresh kind.table id) s
      (RecordAnswer task arrived) := by
  refine each_bind (each_post (wp_rollback_on_error h) fun result s' hsaved => ?_)
  cases result with
  | error e => exact .rejected hsaved.1 hsaved.2
  | ok value =>
      obtain ⟨hpending, before, old, record, rfl, hstored⟩ := hsaved
      refine wp_refresh fun d hd => ?_
      have hview : s'.view d = d := by
        unfold Session.view
        rw [hpending]
        rfl
      have hseen := hstored.seen.trans hd.evolves
      rw [hview]
      refine ⟨?_, fun row hrow hid => ?_, ?_⟩
      · obtain ⟨row, hrow, hid, -⟩ := hseen.kept _ _ (record_mem hstored.recorded)
        exact ⟨row, hrow, hid⟩
      · exact .committed { hstored with seen := hseen } (.inr ⟨row, hrow, hid, rfl⟩)
      · exact .committed { hstored with seen := hseen } (.inl ⟨rfl, rfl⟩)

end Answers

end GrowthOs.Foundation
