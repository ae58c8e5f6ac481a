import GrowthOs.Foundation.RecordRuns

/-!
# The records of workspaces and their audit log

A request that runs alone stores exactly the supplied values, or leaves the database as it was.
Under any interleaving a workspace keeps at most one record of each kind, and the audit log grows by
one event for every committed request. The events name the supplied fields and never their values.
-/

namespace GrowthOs.Foundation

open Library Db

/-- A workspace has at most one profile, goal and policy, and its competitors have different
names. -/
structure OnePerWorkspace (d : Database schema) : Prop where
  profiles : ((d .businessProfiles).map (·.workspaceId)).Nodup
  goals : ((d .growthGoals).map (·.workspaceId)).Nodup
  policies : ((d .autonomyPolicies).map (·.workspaceId)).Nodup
  competitors : ((d .competitors).map fun competitor =>
    (competitor.workspaceId, competitor.name)).Nodup

/-- Rows that a unique constraint tells apart by a key, since a workspace has one tenant. -/
theorem nodup_keys {kind : RecordKind} {d : Database schema} {β : Type} (hkind : kind ∈ recordKinds)
    (hd : Consistent d) (hplaced : Placed d) (key : kind.table.Row → β)
    (hkey : ∀ row row' : kind.table.Row, key row = key row' →
      kind.workspaceOf row = kind.workspaceOf row' ∧
        (rowTenant row = rowTenant row' → rowClash row row' = true)) :
    ((d kind.table).map key).Nodup := by
  refine List.Nodup.map_on (fun row hrow row' hrow' heq => ?_) (hd kind.table).nodup.of_map
  obtain ⟨hworkspace, hclash⟩ := hkey row row' heq
  obtain ⟨workspace, hmem, hid, htenant⟩ := hplaced kind hkind row hrow
  obtain ⟨workspace', hmem', hid', htenant'⟩ := hplaced kind hkind row' hrow'
  have hsame : workspace = workspace' := by
    refine eq_of_ident_eq (hd .workspaces) hmem hmem' ?_
    show workspace.id = workspace'.id
    rw [hid, hid', hworkspace]
  exact eq_of_clash (hd kind.table) hrow hrow' (hclash (by rw [← htenant, ← htenant', hsame]))

/-- A workspace has at most one record of each kind. -/
theorem one_per_workspace {d : Database schema} (hd : Consistent d) (hplaced : Placed d) :
    OnePerWorkspace d := by
  constructor
  · refine @nodup_keys businessProfiles d _ (by simp [recordKinds]) hd hplaced (·.workspaceId)
      fun row row' heq => ⟨heq, fun htenant =>
        (row_clash_iff row row').mpr ⟨htenant, Option.some_ne_none _, ?_⟩⟩
    show some ([row.workspaceId], [], []) = some ([row'.workspaceId], [], [])
    rw [heq]
  · refine @nodup_keys growthGoals d _ (by simp [recordKinds]) hd hplaced (·.workspaceId)
      fun row row' heq => ⟨heq, fun htenant =>
        (row_clash_iff row row').mpr ⟨htenant, Option.some_ne_none _, ?_⟩⟩
    show some ([row.workspaceId], [], []) = some ([row'.workspaceId], [], [])
    rw [heq]
  · refine @nodup_keys autonomyPolicies d _ (by simp [recordKinds]) hd hplaced (·.workspaceId)
      fun row row' heq => ⟨heq, fun htenant =>
        (row_clash_iff row row').mpr ⟨htenant, Option.some_ne_none _, ?_⟩⟩
    show some ([row.workspaceId], [], []) = some ([row'.workspaceId], [], [])
    rw [heq]
  · refine @nodup_keys competitorRecords d _ (by simp [recordKinds]) hd hplaced
      (fun competitor => (competitor.workspaceId, competitor.name)) fun row row' heq => ?_
    obtain ⟨hworkspace, hname⟩ := Prod.mk.inj heq
    refine ⟨hworkspace, fun htenant =>
      (row_clash_iff row row').mpr ⟨htenant, Option.some_ne_none _, ?_⟩⟩
    show some ([row.workspaceId], [], [row.name]) = some ([row'.workspaceId], [], [row'.name])
    rw [hworkspace, hname]

/-- A database that the constraints of the schema admit. -/
def Valid (d : Database schema) : Prop := Consistent d ∧ Placed d

/-- The systems that requests for records reach. -/
def RecordsReached (sys : System schema ServiceError Record RecordRequest) : Prop :=
  Reachable serveRecord Valid sys

/-- The audit events that a client has committed. -/
def recordEvents (c : Client schema ServiceError Record RecordRequest) : List AuditEvent :=
  @inserted schema Table.auditEvents c.session.written

/-- A reachable system is sound. -/
theorem sound_of_records {sys : System schema ServiceError Record RecordRequest}
    (h : RecordsReached sys) : Sound recordRules Answers sys :=
  sound_of_reachable serves_records (fun _ hd => ⟨hd.2, hd.1⟩) h

/-- What a client has committed so far: nothing, or the transaction of its request. -/
theorem stored_of_records {sys : System schema ServiceError Record RecordRequest}
    (h : RecordsReached sys) {c : Client schema ServiceError Record RecordRequest}
    (hc : c ∈ sys.clients) : c.session.written = [] ∨ ∃ before old record,
      Stored c.request.task c.arrived before old record c.session.written sys.committed := by
  obtain ⟨result, s, ⟨answer, hanswer, -⟩, hwritten, hseen⟩ :=
    exists_post_of_sound (sound_of_records h) hc
  rw [← hwritten]
  cases hanswer with
  | rejected written seen => exact .inl written
  | @committed _ _ before old record stored answer =>
      exact .inr ⟨before, old, record, { stored with seen := stored.seen.trans hseen }⟩

/-- The audit log holds the events of the initial database and those of the clients. -/
theorem record_events_perm {d : Database schema} (hd : Valid d)
    {sys : System schema ServiceError Record RecordRequest}
    (hsteps : Relation.ReflTransGen (Step serveRecord) ⟨d, []⟩ sys) :
    (sys.committed .auditEvents).Perm (d .auditEvents ++ sys.clients.flatMap recordEvents) := by
  refine committed_perm hsteps fun sys' hsteps' c hc w hw htable => ?_
  rcases stored_of_records ⟨d, hd, hsteps'⟩ hc with hnil | ⟨before, old, record, hstored⟩
  · rw [hnil] at hw
    cases hw
  · exact hstored.inserts w hw htable

/-- A request commits once when it succeeds, and not at all when it fails, unless reading the
committed record back fails. -/
structure CommitsOnce (committed : Database schema)
    (c : Client schema ServiceError Record RecordRequest) : Prop where
  writes : (c.session.written = [] ∧ recordEvents c = []) ∨ ∃ before old record auditId time,
    Stored c.request.task c.arrived before old record c.session.written committed ∧
      recordEvents c = [c.request.task.event auditId (rowId record) time]
  success : ∀ record, c.program = .done (.ok record) → c.session.written ≠ []
  failure : ∀ e, c.program = .done (.error e) →
    c.session.written = [] ∨ (e = .database .operational ∧ c.session.failed = true)

/-- A client commits at most once. -/
theorem commits_once {sys : System schema ServiceError Record RecordRequest}
    (h : RecordsReached sys) {c : Client schema ServiceError Record RecordRequest}
    (hc : c ∈ sys.clients) : CommitsOnce sys.committed c := by
  refine ⟨?_, fun record hdone => ?_, fun e hdone => ?_⟩
  · rcases stored_of_records h hc with hnil | ⟨before, old, record, hstored⟩
    · refine .inl ⟨hnil, ?_⟩
      rw [recordEvents, hnil]
      rfl
    · obtain ⟨auditId, time, hevent⟩ := hstored.event
      exact .inr ⟨before, old, record, auditId, time, hstored, hevent⟩
  · obtain ⟨answer, hanswer, hresult⟩ := post_of_sound (sound_of_records h) hc hdone
    cases hanswer with
    | rejected written seen => cases hresult
    | committed stored answer =>
        intro hnil
        obtain ⟨auditId, time, hevent⟩ := stored.event
        rw [hnil] at hevent
        cases hevent
  · obtain ⟨answer, hanswer, hresult⟩ := post_of_sound (sound_of_records h) hc hdone
    cases hanswer with
    | rejected written seen => exact .inl written
    | committed stored answer =>
        rcases answer with ⟨rfl, hfailed⟩ | ⟨row, hrow, hid, rfl⟩
        · exact .inr ⟨Except.error.inj hresult, hfailed⟩
        · cases hresult

/-- The outcomes of a request that runs alone: its result and the session that it leaves. -/
inductive RecordOutcome (request : RecordRequest) (d : Database schema) :
    Except ServiceError Record → Session schema → Prop where
  | rejected {e : ServiceError} {s : Session schema} (same : s.seen = d) :
      RecordOutcome request d (.error e) s
  /-- An error follows a commit only where the connection failed when the record was read back. -/
  | committed {result : Except ServiceError Record} {s : Session schema}
      {old : Option request.kind.table.Row} {record : request.kind.table.Row}
      (recorded : Recorded request.task d s.seen old record)
      (exact : request.task.write.Exact old record)
      (answer : result = .ok ⟨request.kind.table, record⟩ ∨
        (result = .error (.database .operational) ∧ s.failed = true)) :
      RecordOutcome request d result s

/-- Every request ends in its outcome, wherever the connection fails. -/
theorem record_outcome {d : Database schema} (hd : Valid d) (request : RecordRequest)
    (supply : Supply) (n : Nat) :
    RecordOutcome request d ((serveRecord request).run supply n (.start d)).1
      ((serveRecord request).run supply n (.start d)).2.1 := by
  let c : Client schema ServiceError Record RecordRequest :=
    ⟨request, d, .done ((serveRecord request).run supply n (.start d)).1,
      ((serveRecord request).run supply n (.start d)).2.1⟩
  have hsteps : Relation.ReflTransGen (Step serveRecord) ⟨d, []⟩ ⟨c.session.seen, [c]⟩ :=
    .head (.arrive request)
      (run_steps (by simp) request d supply (serveRecord request) n (.start d))
  have hreached : RecordsReached ⟨c.session.seen, [c]⟩ := ⟨d, hd, hsteps⟩
  have hsound := sound_of_records hreached
  have hc : c ∈ [c] := List.mem_singleton_self c
  -- The audit log has grown by the events of this client only.
  have hlength : (c.session.seen .auditEvents).length =
      (d .auditEvents).length + (recordEvents c).length := by
    rw [(record_events_perm hd hsteps).length_eq, List.length_append]
    simp
  obtain ⟨answer, hanswer, hresult⟩ := post_of_sound hsound hc rfl
  show RecordOutcome request d _ c.session
  rw [hresult]
  cases hanswer with
  | rejected written seen =>
      have hsame : c.session.seen = d := by
        refine seen.same (seen.auditEvents.eq_of_length_le ?_).symm
        rw [hlength, recordEvents, written]
        exact le_refl _
      exact .rejected hsame
  | @committed result s before old record stored answer =>
      obtain ⟨auditId, time, hevent⟩ := stored.event
      obtain ⟨auditId', time', hafter⟩ := stored.recorded.audit
      have hevents : (recordEvents c).length = 1 := congrArg List.length hevent
      have happended := congrArg List.length hafter
      rw [List.length_append, List.length_singleton] at happended
      have hgrown := stored.seen.auditEvents.length_le
      have hbefore : before = d := by
        refine stored.arrives.same (stored.arrives.auditEvents.eq_of_length_le ?_).symm
        show (before .auditEvents).length ≤ (d .auditEvents).length
        omega
      subst hbefore
      have hseen : c.session.seen = applyAll c.session.written before := by
        refine stored.seen.same (stored.seen.auditEvents.eq_of_length_le ?_).symm
        omega
      have hrecorded : Recorded request.task before c.session.seen old record := by
        rw [hseen]
        exact stored.recorded
      refine .committed hrecorded (stored.exact rfl) ?_
      rcases answer with ⟨rfl, hfailed⟩ | ⟨row, hrow, hid, rfl⟩
      · exact .inr ⟨rfl, hfailed⟩
      · obtain rfl : row = record :=
          eq_of_ident_eq (hsound.consistent _) hrow (record_mem hrecorded) hid
        exact .inl rfl

/-! ## What the audit log tells -/

/-- Two requests of one kind, for the same workspace and actor, that supply the same fields. -/
structure SameNames (request request' : RecordRequest) : Prop where
  resourceType : request.kind.resourceType = request'.kind.resourceType
  eventType : request.task.eventType = request'.task.eventType
  context : request.task.context = request'.task.context
  workspaceId : request.task.workspaceId = request'.task.workspaceId
  actorId : request.task.actorId = request'.task.actorId
  names : ∀ name, name ∈ request.task.fields ↔ name ∈ request'.task.fields

/-- An event without what the server has generated for it. -/
def withoutIds (event : AuditEvent) : AuditEvent :=
  { event with id := 0, resourceId := 0, createdAt := 0 }

/-- Requests with the same names have the same field names. -/
theorem fields_eq {request request' : RecordRequest} (h : SameNames request request') :
    request.task.fields = request'.task.fields := by
  have hsorted := fields_sorted request
  have hsorted' := fields_sorted request'
  have hperm := (List.perm_ext_iff_of_nodup (hsorted.imp String.ne_of_lt)
    (hsorted'.imp String.ne_of_lt)).mpr h.names
  exact hperm.eq_of_pairwise (fun _ _ _ _ hlt hgt => absurd hgt (String.lt_asymm hlt))
    hsorted hsorted'

/-- The events of two such requests tell the same. -/
theorem event_eq {request request' : RecordRequest} (h : SameNames request request')
    (auditId auditId' id id' : Uuid) (time time' : Nat) :
    (request.task.event auditId id time).details =
        (request'.task.event auditId' id' time').details ∧
      withoutIds (request.task.event auditId id time) =
        withoutIds (request'.task.event auditId' id' time') := by
  unfold withoutIds RecordTask.event
  rw [h.resourceType, h.eventType, h.context, h.workspaceId, h.actorId, fields_eq h]
  exact ⟨rfl, rfl⟩

/-- The events that clients of any two systems have committed for two such requests. -/
theorem record_events_eq {sys sys' : System schema ServiceError Record RecordRequest}
    (h : RecordsReached sys) (h' : RecordsReached sys')
    {c c' : Client schema ServiceError Record RecordRequest} (hc : c ∈ sys.clients)
    (hc' : c' ∈ sys'.clients) (hnames : SameNames c.request c'.request) :
    ∀ event ∈ recordEvents c, ∀ event' ∈ recordEvents c',
      event.details = event'.details ∧ withoutIds event = withoutIds event' := by
  intro event hevent event' hevent'
  rcases (commits_once h hc).writes with ⟨-, hnil⟩ | ⟨_, _, record, auditId, time, -, heq⟩
  · rw [hnil] at hevent
    cases hevent
  · rcases (commits_once h' hc').writes with ⟨-, hnil⟩ | ⟨_, _, record', auditId', time', -, heq'⟩
    · rw [hnil] at hevent'
      cases hevent'
    · rw [heq, List.mem_singleton] at hevent
      rw [heq', List.mem_singleton] at hevent'
      rw [hevent, hevent']
      exact event_eq hnames _ _ _ _ _ _

/-- From every valid database: a request that runs alone stores exactly the supplied values with one
audit event, or leaves the database as it was; the events of two requests that supply the same
fields are equal apart from generated identifiers and times; and under any interleaving every
committed database has at most one record of each kind a workspace, and one event for each committed
request. -/
theorem workspace_records {d : Database schema} (hd : Valid d) :
    (∀ request supply n,
      RecordOutcome request d ((serveRecord request).run supply n (.start d)).1
          ((serveRecord request).run supply n (.start d)).2.1 ∧
        request.task.fields.Pairwise (· < ·)) ∧
    (∀ sys sys', RecordsReached sys → RecordsReached sys' → ∀ c ∈ sys.clients, ∀ c' ∈ sys'.clients,
      SameNames c.request c'.request → ∀ event ∈ recordEvents c, ∀ event' ∈ recordEvents c',
        event.details = event'.details ∧ withoutIds event = withoutIds event') ∧
    ∀ sys, Relation.ReflTransGen (Step serveRecord) ⟨d, []⟩ sys →
      OnePerWorkspace sys.committed ∧
      (sys.committed .auditEvents).Perm (d .auditEvents ++ sys.clients.flatMap recordEvents) ∧
      ∀ c ∈ sys.clients, CommitsOnce sys.committed c := by
  refine ⟨fun request supply n => ⟨record_outcome hd request supply n, fields_sorted request⟩,
    fun sys sys' h h' c hc c' hc' => record_events_eq h h' hc hc', fun sys hsteps => ?_⟩
  have hreached : RecordsReached sys := ⟨d, hd, hsteps⟩
  have hsound := sound_of_records hreached
  exact ⟨one_per_workspace hsound.consistent hsound.invariant, record_events_perm hd hsteps,
    fun c hc => commits_once hreached hc⟩

/-- A database with the workspace 2 of the tenant 1. -/
def onboardedDatabase : Database schema
  | .tenants => [⟨1, 0, 0, "Tenant"⟩]
  | .workspaces => [⟨2, 0, 0, 1, "Workspace"⟩]
  | _ => []

/-- The sample database is valid. -/
theorem onboarded_valid : Valid onboardedDatabase := by
  refine ⟨fun t => ?_, ?_⟩
  · cases t <;> exact ⟨by decide, by simp [onboardedDatabase], by decide⟩
  · intro kind hkind row hrow
    simp only [recordKinds, List.mem_cons, List.not_mem_nil, or_false] at hkind
    rcases hkind with rfl | rfl | rfl | rfl <;> cases hrow

/-- The number of a statement is its identifier and its clock reading. -/
def countingSupply : Supply := ⟨id, id, fun _ => false⟩

/-- A profile is created twice, and an update clears its description. -/
def profileRequests : List RecordRequest :=
  [.createBusinessProfile ⟨1⟩ 2 ⟨"Acme", some (some "Tools"), none, some (some "Teams"), none, none⟩
      none,
    .createBusinessProfile ⟨1⟩ 2 ⟨"Acme", none, none, none, none, none⟩ (some 3),
    .updateBusinessProfile ⟨1⟩ 2 ⟨none, some none, none, none, none, none⟩ (some 3)]

/-- The system after these requests. -/
def profileSystem : System schema ServiceError Record RecordRequest :=
  (serveAll serveRecord countingSupply onboardedDatabase profileRequests).1

/-- A profile and its update. -/
theorem workspace_records_served :
    OnePerWorkspace profileSystem.committed ∧
      (profileSystem.committed .businessProfiles).map
          (fun profile => (profile.companyName, profile.businessDescription,
            profile.targetAudience)) = [("Acme", none, some "Teams")] ∧
      (profileSystem.committed .auditEvents).map (fun event => (event.eventType, event.details)) =
        [("workspace_business_profile.created", .changedFields 2
            ["business_description", "company_name", "target_audience"]),
          ("workspace_business_profile.updated", .changedFields 2 ["business_description"])] :=
  ⟨((workspace_records onboarded_valid).2.2 profileSystem
      (serve_all_steps serveRecord countingSupply profileRequests (⟨onboardedDatabase, []⟩, 0)
        (by simp [Idle])).1).1, by decide +kernel, by decide +kernel⟩

end GrowthOs.Foundation
