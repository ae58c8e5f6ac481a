import GrowthOs.Foundation.RecordRules
import GrowthOs.Library.Sequential

/-!
# The requests for records meet their contract

`createRecord` and `updateRecord` add the audit event before they write the record, and
`createCompetitor` after it has flushed the competitor.
-/

namespace GrowthOs.Foundation

open Library Db

section Creations

variable {kind : RecordKind} {context : TenantContext} {workspaceId : Uuid}
  {row : Uuid → Nat → kind.table.Row} {fields : List String} {actorId : Option Uuid}
  {arrived : Database schema} {s : Session schema}

/-- The commit of a new record, whichever of the two rows was written first. -/
theorem wp_commit_new (hkind : kind ∈ recordKinds)
    (hrow : ∀ id time, rowId (row id time) = id ∧
      inWorkspace kind context workspaceId (row id time) = true) {auditId id : Uuid}
    {time time' : Nat} (hwritten : s.written = []) (harrived : RecordsEvolve arrived s.seen)
    (hworkspace : ∃ workspace ∈ s.seen .workspaces, workspace.id = workspaceId ∧
      workspace.tenantId = context.tenantId)
    (hpending : s.pending =
        [⟨.auditEvents, none, recordAudit context auditId (kind.resourceType ++ ".created")
          kind.resourceType id workspaceId fields actorId time⟩, ⟨kind.table, none, row id time'⟩] ∨
      s.pending = [⟨kind.table, none, row id time'⟩,
        ⟨.auditEvents, none, recordAudit context auditId (kind.resourceType ++ ".created")
          kind.resourceType id workspaceId fields actorId time⟩]) :
    recordRules.wp commit s
      (Saved ⟨context, workspaceId, actorId, fields, .create row⟩ arrived id) := by
  let task : RecordTask kind := ⟨context, workspaceId, actorId, fields, .create row⟩
  have hid : rowId (row id time') = id := (hrow id time').1
  -- The order of the two inserts differs between the records; membership is all that matters.
  have hmem : ∀ w, w ∈ s.pending ↔
      w = ⟨.auditEvents, none, task.event auditId (rowId (row id time')) time⟩ ∨
        w = ⟨kind.table, none, row id time'⟩ := by
    intro w
    rw [hid]
    rcases hpending with hpending | hpending
    · rw [hpending, List.mem_cons, List.mem_singleton]
      rfl
    · rw [hpending, List.mem_cons, List.mem_singleton, or_comm]
      rfl
  have hevent : @inserted schema Table.auditEvents s.pending = [task.event auditId id time] := by
    have hother : ¬ kind.table = Table.auditEvents := (lawful_of_mem hkind).audit
    rcases hpending with hpending | hpending
    · simp [hpending, inserted, hother]
      rfl
    · simp [hpending, inserted, hother]
      rfl
  refine wp_commit_record hkind hwritten harrived hevent (fun w hw _ => ?_) fun d hd => ?_
  · rcases (hmem w).mp hw with rfl | rfl <;> rfl
  · have hrecorded : Recorded task d (s.view d) none (row id time') := by
      refine recorded_of_pending hd ((hmem _).mpr (.inl rfl)) ((hmem _).mpr (.inr rfl))
        (fun w hw => ?_) (fun _ hnone => ?_) (hrow id time').2
      rcases (hmem w).mp hw with rfl | rfl
      · exact .inl rfl
      · exact .inr rfl
      · cases hnone
    have hevolves : RecordsEvolve s.seen d := hd.evolves
    refine ⟨none, row id time', hid, hrecorded, .create id time', fun _ => .create id time',
      fun _ => ?_⟩
    rw [hevolves.workspaces]
    exact hworkspace

/-- The creation of a record commits it with its event. -/
theorem wp_create_record (hkind : kind ∈ recordKinds)
    (hrow : ∀ id time, rowId (row id time) = id ∧
      inWorkspace kind context workspaceId (row id time) = true) (d : Database schema) :
    recordRules.wp (createRecord kind context workspaceId row fields actorId) (.start d)
      (RecordAnswer ⟨context, workspaceId, actorId, fields, .create row⟩ d) := by
  have hother : kind.table ≠ .auditEvents := (lawful_of_mem hkind).audit
  refine each_bind (wp_require_owned fun d1 hd1 => ⟨fun workspace hworkspace hid htenant => ?_,
    fun _ => .rejected rfl hd1.evolves, .rejected rfl hd1.evolves⟩)
  have h1 : RecordsEvolve d d1 := hd1.evolves
  refine each_bind (wp_uuid4 fun d2 hd2 => ⟨fun id => ?_, .rejected rfl (h1.trans hd2.evolves)⟩)
  have h2 : RecordsEvolve d1 d2 := hd2.evolves
  refine each_bind (wp_uuid4 fun d3 hd3 => ⟨fun auditId => ?_,
    .rejected rfl ((h1.trans h2).trans hd3.evolves)⟩)
  have h3 : RecordsEvolve d2 d3 := hd3.evolves
  refine wp_save_refresh (each_bind (wp_insert (by simp [Session.start]) fun d4 hd4 => ?_))
  have h4 : RecordsEvolve d d4 := ((h1.trans h2).trans h3).trans hd4.evolves
  refine ⟨fun time => ?_, ⟨rfl, h4⟩, rfl, h4⟩
  refine each_bind (wp_insert (by simpa [Session.start] using hother) fun d5 hd5 => ?_)
  have h5 : RecordsEvolve d4 d5 := hd5.evolves
  refine ⟨fun time' => ?_, ⟨rfl, h4.trans h5⟩, rfl, h4.trans h5⟩
  refine wp_commit_new hkind hrow rfl (h4.trans h5) ⟨workspace, ?_, hid, htenant⟩ (.inl rfl)
  show workspace ∈ d5 .workspaces
  rw [(h4.trans h5).workspaces, ← h1.workspaces]
  exact hworkspace

end Creations

/-- So does that of a competitor. -/
theorem wp_create_competitor (context : TenantContext) (workspaceId : Uuid)
    (values : CompetitorValues) (actorId : Option Uuid) (d : Database schema) :
    recordRules.wp (createCompetitor context workspaceId values actorId) (.start d)
      (RecordAnswer (RecordRequest.createCompetitor context workspaceId values
        actorId).task d) := by
  have hkind : competitorRecords ∈ recordKinds := by simp [recordKinds]
  refine each_bind (wp_require_owned fun d1 hd1 => ⟨fun workspace hworkspace hid htenant => ?_,
    fun _ => .rejected rfl hd1.evolves, .rejected rfl hd1.evolves⟩)
  have h1 : RecordsEvolve d d1 := hd1.evolves
  refine each_bind (wp_uuid4 fun d2 hd2 => ⟨fun id => ?_, .rejected rfl (h1.trans hd2.evolves)⟩)
  have h2 : RecordsEvolve d d2 := h1.trans hd2.evolves
  refine @wp_save_refresh competitorRecords _ d _ _ id
    (each_bind (wp_insert (by simp [Session.start]) fun d3 hd3 => ?_))
  have h3 : RecordsEvolve d d3 := h2.trans hd3.evolves
  refine ⟨fun time => ?_, ⟨rfl, h3⟩, rfl, h3⟩
  -- The competitor is flushed, and its event is still to be added.
  refine each_bind (wp_uuid4 fun d4 hd4 => ⟨fun auditId => ?_, rfl, h3.trans hd4.evolves⟩)
  have h4 : RecordsEvolve d d4 := h3.trans hd4.evolves
  refine each_bind (wp_insert (by simp [Session.start]) fun d5 hd5 => ?_)
  have h5 : RecordsEvolve d d5 := h4.trans hd5.evolves
  refine ⟨fun time' => ?_, ⟨rfl, h5⟩, rfl, h5⟩
  refine wp_commit_new hkind (fun id time => ⟨rfl, ?_⟩) rfl h5 ⟨workspace, ?_, hid, htenant⟩
    (.inr rfl)
  · simp [inWorkspace, rowTenant, competitorRecords]
  · show workspace ∈ d5 .workspaces
    rw [h5.workspaces, ← h1.workspaces]
    exact hworkspace

section Updates

variable {kind : RecordKind} {context : TenantContext} {workspaceId : Uuid}
  {selects : kind.table.Row → Bool} {applied : kind.table.Row → kind.table.Row}
  {change : Change kind.table.Row} {fields : List String} {actorId : Option Uuid}
  {arrived : Database schema} {s : Session schema}

/-- The time of an update is no reference. -/
theorem row_parents_touch (time : Nat) {t : Table} (row : t.Row) :
    rowParents (rowTouch time row) = rowParents row := by
  cases t <;> rfl

/-- A row that has been touched at the time of its last update is as it was. -/
theorem exists_touch_eq {t : Table} (row : t.Row) : ∃ time, rowTouch time row = row := by
  cases t <;> first | exact ⟨row.updatedAt, rfl⟩ | exact ⟨0, rfl⟩

/-- What selects the record of an update does not change while the record is kept. -/
def Stable {kind : RecordKind} (context : TenantContext) (workspaceId : Uuid)
    (selects : kind.table.Row → Bool) : Prop :=
  (∀ row, selects row = true → inWorkspace kind context workspaceId row = true) ∧
    ∀ row row', rowId row = rowId row' → rowParents row = rowParents row' →
      selects row = selects row'

/-- The commit of a changed record. -/
theorem wp_commit_changed (hkind : kind ∈ recordKinds) (hsets : Change.Sets change applied)
    (hstable : Stable context workspaceId selects) {d1 d2 : Database schema}
    (h1 : RecordsEvolve arrived d1) {loaded old : kind.table.Row} (hloaded : loaded ∈ d1 kind.table)
    (hselected : selects loaded = true) (h2 : RecordsEvolve d1 d2) (hd2 : Consistent d2)
    (hold : old ∈ d2 kind.table) (hid : rowId old = rowId loaded) {auditId : Uuid}
    {time time' : Nat} (hwritten : s.written = []) (hseen : s.seen = d2)
    (hpending : s.pending =
      [⟨.auditEvents, none, recordAudit context auditId (kind.resourceType ++ ".updated")
        kind.resourceType (rowId loaded) workspaceId fields actorId time⟩,
        ⟨kind.table, some old, rowTouch time' (change.apply loaded old)⟩]) :
    recordRules.wp commit s (Saved ⟨context, workspaceId, actorId, fields, .update selects applied⟩
      arrived (rowId loaded)) := by
  let task : RecordTask kind := ⟨context, workspaceId, actorId, fields, .update selects applied⟩
  have hidRecord : rowId (rowTouch time' (change.apply loaded old)) = rowId loaded := by
    rw [row_id_touch, hsets.id, hid]
  have hparents : rowParents old = rowParents (rowTouch time' (change.apply loaded old)) := by
    rw [row_parents_touch, hsets.parents]
  have hselectedOld : selects old = true := by
    obtain ⟨kept, hkept, hkeptId, hkeptParents⟩ := h2.kept _ _ hloaded
    obtain rfl : old = kept := eq_of_ident_eq (hd2 kind.table) hold hkept (hid.trans hkeptId.symm)
    rw [hstable.2 old loaded hid hkeptParents]
    exact hselected
  have hevent : @inserted schema Table.auditEvents s.pending =
      [task.event auditId (rowId loaded) time] := by
    have hother : ¬ kind.table = Table.auditEvents := (lawful_of_mem hkind).audit
    simp [hpending, inserted, hother]
    rfl
  have harrived : RecordsEvolve arrived s.seen := by
    rw [hseen]
    exact h1.trans h2
  have hmem : ∀ w ∈ s.pending,
      w = ⟨.auditEvents, none, task.event auditId (rowId loaded) time⟩ ∨
        w = ⟨kind.table, some old, rowTouch time' (change.apply loaded old)⟩ := by
    intro w hw
    rw [hpending] at hw
    rcases List.mem_cons.mp hw with rfl | hw
    · exact .inl rfl
    · exact .inr (List.mem_singleton.mp hw)
  refine wp_commit_record hkind hwritten harrived hevent (fun w hw htable => ?_) fun d hd => ?_
  · rcases hmem w hw with rfl | rfl
    · rfl
    · exact absurd htable (lawful_of_mem hkind).audit
  · have haudit : (⟨.auditEvents, none, task.event auditId
        (rowId (rowTouch time' (change.apply loaded old))) time⟩ : Write schema) ∈ s.pending := by
      rw [hidRecord, hpending]
      exact List.mem_cons_self
    have hrecord : (⟨kind.table, some old, rowTouch time' (change.apply loaded old)⟩ :
        Write schema) ∈ s.pending := by
      rw [hpending]
      exact List.mem_cons_of_mem _ (List.mem_singleton_self _)
    have hrecorded : Recorded task d (s.view d) (some old)
        (rowTouch time' (change.apply loaded old)) := by
      refine recorded_of_pending hd haudit hrecord (fun w hw => ?_) (fun row hrow => ?_) ?_
      · rcases hmem w hw with rfl | rfl
        · exact .inl rfl
        · exact .inr rfl
      · obtain rfl : old = row := Option.some.inj hrow
        exact hparents
      · rw [← in_workspace_eq (lawful_of_mem hkind) hparents]
        exact hstable.1 old hselectedOld
    have hevolves : RecordsEvolve d2 d := hseen ▸ hd.evolves
    refine ⟨some old, _, hidRecord, hrecorded,
      .update hselectedOld time' (hsets.frame loaded old time'), fun hsame => ?_, fun hnone =>
      absurd hnone (Option.some_ne_none _)⟩
    -- No other request has committed, so the replaced row is the loaded one.
    obtain ⟨rfl, -⟩ := h1.between (h2.trans hevolves) hsame
    obtain ⟨rfl, -⟩ := h2.between hevolves hsame
    obtain rfl : old = loaded := eq_of_ident_eq (hd2 kind.table) hold hloaded hid
    rw [hsets.exact]
    exact .update hselected time'

/-- The commit of an update that sets no column to another value. -/
theorem wp_commit_unchanged (hkind : kind ∈ recordKinds) (hsets : Change.Sets change applied)
    (hstable : Stable context workspaceId selects) {d1 : Database schema}
    (h1 : RecordsEvolve arrived d1) {loaded : kind.table.Row} (hloaded : loaded ∈ d1 kind.table)
    (hselected : selects loaded = true) (hclean : change.dirty loaded = false)
    (h2 : RecordsEvolve d1 s.seen) {auditId : Uuid} {time : Nat} (hwritten : s.written = [])
    (hpending : s.pending =
      [⟨.auditEvents, none, recordAudit context auditId (kind.resourceType ++ ".updated")
        kind.resourceType (rowId loaded) workspaceId fields actorId time⟩]) :
    recordRules.wp commit s (Saved ⟨context, workspaceId, actorId, fields, .update selects applied⟩
      arrived (rowId loaded)) := by
  let task : RecordTask kind := ⟨context, workspaceId, actorId, fields, .update selects applied⟩
  have hevent : @inserted schema Table.auditEvents s.pending =
      [task.event auditId (rowId loaded) time] := by
    simp [hpending, inserted]
    rfl
  have hmem : ∀ w ∈ s.pending,
      w = ⟨.auditEvents, none, task.event auditId (rowId loaded) time⟩ := by
    intro w hw
    rw [hpending] at hw
    exact List.mem_singleton.mp hw
  refine wp_commit_record hkind hwritten (h1.trans h2) hevent (fun w hw _ => ?_) fun d hd => ?_
  · obtain rfl := hmem w hw
    rfl
  · have hevolves : RecordsEvolve d1 d := h2.trans hd.evolves
    obtain ⟨kept, hkept, hid, hparents⟩ := hevolves.kept _ _ hloaded
    have hselectedKept : selects kept = true := by
      rw [hstable.2 kept loaded hid hparents]
      exact hselected
    obtain ⟨touched, htouched⟩ := exists_touch_eq kept
    have haudit : (⟨.auditEvents, none, task.event auditId (rowId loaded) time⟩ : Write schema) ∈
        s.pending := by
      rw [hpending]
      exact List.mem_singleton_self _
    have hview : ∀ t, t ≠ .auditEvents → s.view d t = d t := by
      refine fun t ht => view_of_not_written fun w hw heq => ?_
      obtain rfl := hmem w hw
      exact ht heq
    -- No column changes, so the transaction is the event alone.
    have hrecorded : Recorded task d (s.view d) (some kept) kept := by
      refine ⟨⟨auditId, time, ?_⟩, ?_, fun t ht _ => hview t ht, fun row hrow => ?_,
        hstable.1 kept hselectedKept⟩
      · rw [hid]
        exact view_insert hd haudit rfl
      · rw [hview _ (lawful_of_mem hkind).audit]
        show d kind.table = (d kind.table).map _
        refine (List.map_id' _).symm.trans (List.map_congr_left fun row hrow => ?_)
        by_cases hrowId : rowId row = rowId kept
        · exact (eq_of_ident_eq (hd.consistent kind.table) hrow hkept hrowId).trans
            (if_pos hrowId).symm
        · exact (if_neg hrowId).symm
      · obtain rfl : kept = row := Option.some.inj hrow
        exact ⟨hkept, rfl, rfl⟩
    refine ⟨some kept, kept, hid, hrecorded, .update hselectedKept touched (by rw [htouched]),
      fun hsame => ?_, fun hnone => absurd hnone (Option.some_ne_none _)⟩
    obtain ⟨rfl, rfl⟩ := h1.between hevolves hsame
    obtain rfl : kept = loaded := eq_of_ident_eq (hd.consistent kind.table) hkept hloaded hid
    have hexact : RecordWrite.Exact (.update selects applied) (some kept)
        (rowTouch touched (applied kept)) := .update hselected touched
    rwa [← hsets.exact, hsets.clean _ hclean, htouched] at hexact

/-- A loaded record is saved. -/
theorem wp_save_loaded (hkind : kind ∈ recordKinds) (hsets : Change.Sets change applied)
    (hstable : Stable context workspaceId selects) {d1 : Database schema}
    (h1 : RecordsEvolve arrived d1) {loaded : kind.table.Row} (hloaded : loaded ∈ d1 kind.table)
    (hselected : selects loaded = true) (hpending : s.pending = []) (hwritten : s.written = [])
    (hseen : s.seen = d1) :
    recordRules.wp (do
      let auditId ← uuid4
      rollbackOnError do
        insert .auditEvents (recordAudit context auditId (kind.resourceType ++ ".updated")
          kind.resourceType (rowId loaded) (kind.workspaceOf loaded) fields actorId)
        flushChange kind.table loaded change
        commit
      refresh kind.table (rowId loaded)) s
      (RecordAnswer ⟨context, workspaceId, actorId, fields, .update selects applied⟩ arrived) := by
  have hother : kind.table ≠ .auditEvents := (lawful_of_mem hkind).audit
  have hworkspace : kind.workspaceOf loaded = workspaceId := by
    have hplaced := hstable.1 loaded hselected
    simp only [inWorkspace, Bool.and_eq_true, decide_eq_true_eq] at hplaced
    exact hplaced.2
  rw [hworkspace]
  have hwrite : ∀ w : Write schema, s.pending ++ [w] = [w] := fun w => by
    rw [hpending, List.nil_append]
  have hwrites : ∀ w w' : Write schema, s.pending ++ [w] ++ [w'] = [w, w'] := fun w w' => by
    rw [hwrite w]
    rfl
  refine each_bind (wp_uuid4 fun d2 hd2 => ?_)
  have h2 : RecordsEvolve d1 d2 := hseen ▸ hd2.evolves
  refine ⟨fun auditId => ?_, .rejected hwritten (h1.trans h2)⟩
  refine wp_save_refresh (each_bind (wp_insert (by simp [hpending]) fun d3 hd3 => ?_))
  have h3 : RecordsEvolve d1 d3 := h2.trans hd3.evolves
  refine ⟨fun time => ?_, ⟨hwritten, h1.trans h3⟩, hwritten, h1.trans h3⟩
  refine each_bind (each_ite (fun hdirty => ?_) fun hdirty => ?_)
  · refine wp_update_loaded (by simpa [hpending] using hother)
      (fun time row => by rw [row_id_touch, hsets.id]) fun d4 hd4 => ?_
    have h4 : RecordsEvolve d1 d4 := h3.trans hd4.evolves
    refine ⟨fun time' old hold hid => ⟨?_, hwritten, h1.trans h4⟩,
      fun _ => ⟨hwritten, h1.trans h4⟩, hwritten, h1.trans h4⟩
    refine wp_commit_changed hkind hsets hstable h1 hloaded hselected h4 hd4.consistent hold hid
      hwritten rfl (hwrites _ _)
  · refine wp_commit_unchanged hkind hsets hstable h1 hloaded hselected (by simpa using hdirty) h3
      hwritten (hwrite _)

/-- The update of a record commits it with its event. -/
theorem wp_update_record (hkind : kind ∈ recordKinds) (hsets : Change.Sets change applied)
    (d : Database schema) :
    recordRules.wp (updateRecord kind context workspaceId change fields actorId) (.start d)
      (RecordAnswer ⟨context, workspaceId, actorId, fields,
        .update (inWorkspace kind context workspaceId) applied⟩ d) := by
  refine each_bind (each_bind (wp_require_owned fun d1 hd1 => ⟨fun _ _ _ _ => ?_,
    fun _ => .rejected rfl hd1.evolves, .rejected rfl hd1.evolves⟩))
  have h1 : RecordsEvolve d d1 := hd1.evolves
  refine each_bind (wp_scalar fun d2 hd2 => ⟨fun loaded hloaded hselected => ?_,
    fun _ => .rejected rfl (h1.trans hd2.evolves), .rejected rfl (h1.trans hd2.evolves)⟩)
  exact wp_save_loaded hkind hsets
    ⟨fun _ h => h, fun _ _ _ h => in_workspace_eq (lawful_of_mem hkind) h⟩ (h1.trans hd2.evolves)
    hloaded hselected rfl rfl rfl

end Updates

/-- A competitor stays in its workspace. -/
theorem stable_competitor (context : TenantContext) (workspaceId competitorId : Uuid) :
    @Stable competitorRecords context workspaceId fun competitor =>
      inWorkspace competitorRecords context workspaceId competitor &&
        rowId competitor = competitorId := by
  refine ⟨fun row h => (Bool.and_eq_true_iff.mp h).1, fun row row' hid h => ?_⟩
  have hlawful : competitorRecords.Lawful := lawful_of_mem (by simp [recordKinds])
  show (inWorkspace competitorRecords context workspaceId row &&
    decide (rowId row = competitorId)) =
    (inWorkspace competitorRecords context workspaceId row' && decide (rowId row' = competitorId))
  rw [in_workspace_eq hlawful h, hid]

/-- The update of a competitor commits it with its event. -/
theorem wp_update_competitor (context : TenantContext) (workspaceId competitorId : Uuid)
    (changes : CompetitorChanges) (actorId : Option Uuid) (d : Database schema) :
    recordRules.wp (updateCompetitor context workspaceId competitorId changes actorId) (.start d)
      (RecordAnswer
        (RecordRequest.updateCompetitor context workspaceId competitorId changes
          actorId).task d) := by
  have hkind : competitorRecords ∈ recordKinds := by simp [recordKinds]
  refine each_bind (each_bind (wp_require_owned fun d1 hd1 => ⟨fun _ _ _ _ => ?_,
    fun _ => .rejected rfl hd1.evolves, .rejected rfl hd1.evolves⟩))
  have h1 : RecordsEvolve d d1 := hd1.evolves
  refine each_bind (wp_scalar fun d2 hd2 => ⟨fun loaded hloaded hselected => ?_,
    fun _ => .rejected rfl (h1.trans hd2.evolves), .rejected rfl (h1.trans hd2.evolves)⟩)
  exact @wp_save_loaded competitorRecords context workspaceId _ _ _ _ _ _ _ hkind
    (sets_competitor changes) (stable_competitor context workspaceId competitorId) _
    (h1.trans hd2.evolves) loaded hloaded hselected rfl rfl rfl

/-! ## All requests -/

/-- The answer to a request, with the record of its kind. -/
def Answers (request : RecordRequest) (arrived : Database schema)
    (result : Except ServiceError Record)
    (s : Session schema) : Prop :=
  ∃ answer, RecordAnswer request.task arrived answer s ∧
    result = answer.map fun row => ⟨request.kind.table, row⟩

/-- Every request meets its contract, whatever the others do. -/
theorem serves_records : Serves recordRules serveRecord Answers where
  start request d _ := by
    have hreturn : ∀ {kind : RecordKind} {task : RecordTask kind} {p : Service kind.table.Row},
        recordRules.wp p (.start d) (RecordAnswer task d) →
        recordRules.wp (do return (⟨kind.table, ← p⟩ : Record)) (.start d) fun result s =>
          ∃ answer, RecordAnswer task d answer s ∧
            result = answer.map fun row => ⟨kind.table, row⟩ := by
      intro kind task p h
      refine each_bind (each_post h fun result s hanswer => ?_)
      cases result with
      | ok row => exact ⟨_, hanswer, rfl⟩
      | error e => exact ⟨_, hanswer, rfl⟩
    have hkind := kind_mem request
    cases request with
    | createBusinessProfile context workspaceId values actorId =>
        exact hreturn (wp_create_record hkind (fun id time => ⟨rfl, by
          simp [inWorkspace, rowTenant, RecordRequest.kind, businessProfiles]⟩) d)
    | updateBusinessProfile context workspaceId changes actorId =>
        exact hreturn (wp_update_record hkind (sets_business_profile changes) d)
    | createPrimaryGrowthGoal context workspaceId values actorId =>
        exact hreturn (wp_create_record hkind (fun id time => ⟨rfl, by
          simp [inWorkspace, rowTenant, RecordRequest.kind, growthGoals]⟩) d)
    | updatePrimaryGrowthGoal context workspaceId changes actorId =>
        exact hreturn (wp_update_record hkind (sets_growth_goal changes) d)
    | createAutonomyPolicy context workspaceId values actorId =>
        exact hreturn (wp_create_record hkind (fun id time => ⟨rfl, by
          simp [inWorkspace, rowTenant, RecordRequest.kind, autonomyPolicies]⟩) d)
    | updateAutonomyPolicy context workspaceId changes actorId =>
        exact hreturn (wp_update_record hkind (sets_autonomy_policy changes) d)
    | createCompetitor context workspaceId values actorId =>
        exact @hreturn competitorRecords _ _
          (wp_create_competitor context workspaceId values actorId d)
    | updateCompetitor context workspaceId competitorId changes actorId =>
        exact @hreturn competitorRecords _ _
          (wp_update_competitor context workspaceId competitorId changes actorId d)
  close request d result s h := by
    obtain ⟨answer, hanswer, rfl⟩ := h
    refine ⟨answer, ?_, rfl⟩
    cases hanswer with
    | rejected written seen => exact .rejected written seen
    | committed stored answer => exact .committed stored answer

end GrowthOs.Foundation
