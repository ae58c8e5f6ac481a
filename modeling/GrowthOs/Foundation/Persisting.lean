import GrowthOs.Foundation.Service
import GrowthOs.Db.Rules
import GrowthOs.Library.Sequential

/-!
# What persisting commits

The outcomes of `createSite` and `updateOwned` when a request runs alone: every way in which they
can end, with the database that they leave.
-/

namespace GrowthOs.Foundation

open Library Db

section Statements

variable {t : Table} {s : Session schema}

/-- A query. -/
theorem alone_scalar {condition : t.Row → Bool}
    {Q : Except ServiceError (Option t.Row) → Session schema → Prop}
    (h : Q (.ok ((s.view s.seen t).find? condition)) s)
    (habort : Q (.error (.database .operational)) (s.interrupted s.seen)) :
    Alone (scalar t condition) s Q :=
  alone_execute (fun _ => h) habort

/-- The rule for a row of the tenant that is required. -/
theorem alone_require_owned {context : TenantContext} {id : Uuid}
    {Q : Except ServiceError t.Row → Session schema → Prop}
    (hfound : ∀ row ∈ s.view s.seen t, rowId row = id → rowTenant row = context.tenantId →
      Q (.ok row) s)
    (habsent : (∀ row ∈ s.view s.seen t, rowId row = id → rowTenant row ≠ context.tenantId) →
      Q (.error .notFound) s)
    (habort : Q (.error (.database .operational)) (s.interrupted s.seen)) :
    Alone (requireOwned t context id) s Q := by
  refine each_bind (alone_scalar ?_ habort)
  cases hfind : (s.view s.seen t).find? fun row => rowId row = id &&
    rowTenant row = context.tenantId with
  | none =>
      refine habsent fun row hrow hid htenant => ?_
      have hfalse := List.find?_eq_none.mp hfind row hrow
      simp [hid, htenant] at hfalse
  | some row =>
      have hcondition := List.find?_some hfind
      simp only [Bool.and_eq_true, decide_eq_true_eq] at hcondition
      exact hfound row (List.mem_of_find?_eq_some hfind) hcondition.1 hcondition.2

/-- A refresh of a row that is there. -/
theorem alone_refresh {id : Uuid} {Q : Except ServiceError t.Row → Session schema → Prop}
    (hstored : ∃ row ∈ s.view s.seen t, rowId row = id)
    (h : ∀ row ∈ s.view s.seen t, rowId row = id → Q (.ok row) s)
    (habort : Q (.error (.database .operational)) (s.interrupted s.seen)) :
    Alone (refresh t id) s Q := by
  refine each_bind (alone_scalar ?_ habort)
  obtain ⟨stored, hstored, hid⟩ := hstored
  cases hfind : (s.view s.seen t).find? fun row => rowId row = id with
  | none =>
      have hfalse := List.find?_eq_none.mp hfind stored hstored
      simp [hid] at hfalse
  | some row => exact h row (List.mem_of_find?_eq_some hfind) (by simpa using List.find?_some hfind)

/-- A refresh does not change the database, whatever it returns. -/
theorem alone_refresh_seen {id : Uuid} {Q : Except ServiceError t.Row → Session schema → Prop}
    (h : ∀ result s', s'.seen = s.seen → Q result s') : Alone (refresh t id) s Q := by
  refine each_bind (alone_scalar ?_ (h _ _ rfl))
  cases hfind : (s.view s.seen t).find? fun row => rowId row = id with
  | none => exact h _ s rfl
  | some row => exact h _ s rfl

/-- A commit, and the failure of the connection in its place. -/
theorem alone_commit {Q : Except ServiceError Unit → Session schema → Prop}
    (h : Q (.ok ()) (s.committed s.seen))
    (habort : Q (.error (.database .operational)) (s.interrupted s.seen)) : Alone commit s Q :=
  alone_execute (fun _ => h) habort

/-- The rule for a fresh identifier. -/
theorem alone_uuid4 {Q : Except ServiceError Uuid → Session schema → Prop}
    (h : ∀ id, Q (.ok id) { s with drawn := s.drawn ++ [id] })
    (habort : Q (.error (.database .operational)) (s.interrupted s.seen)) : Alone uuid4 s Q :=
  alone_execute h habort

/-- An insertion, which a constraint may refuse. -/
theorem alone_insert {row : Nat → t.Row} {Q : Except ServiceError Unit → Session schema → Prop}
    (hadmitted : ∀ time, admits (s.view s.seen) ⟨t, none, row time⟩ = true →
      Q (.ok ()) { s with pending := s.pending ++ [⟨t, none, row time⟩] })
    (hrefused : Q (.error (.database .integrity)) (s.refuse s.seen))
    (habort : Q (.error (.database .operational)) (s.interrupted s.seen)) :
    Alone (insert t row) s Q := by
  refine alone_execute (fun time => ?_) habort
  rw [Session.respond_insert]
  cases hadmits : admits (s.view s.seen) ⟨t, none, row time⟩ with
  | true =>
      rw [Session.write_of_admits () hadmits]
      exact hadmitted time hadmits
  | false =>
      rw [Session.write_of_refused () hadmits]
      exact hrefused

/-- A constraint refuses the statements of the body, and the handler raises after a rollback. -/
theorem alone_conflict {body : Service Unit} {Q : Except ServiceError Unit → Session schema → Prop}
    (h : Alone body s fun result s' => match result with
      | .error (.database .integrity) => Q (.error .conflict) (s'.rolledBack s'.seen) ∧
          Q (.error (.database .operational)) (s'.interrupted s'.seen)
      | result => Q result s') :
    Alone (onIntegrityError body (.raise .conflict)) s Q := by
  refine each_handle (each_post h fun result s' hresult => ?_)
  match result, hresult with
  | .ok (), hQ => exact hQ
  | .error (.database .integrity), hrefused =>
      exact each_bind (alone_execute (fun _ => hrefused.1) hrefused.2)
  | .error .notFound, hQ => exact hQ
  | .error .conflict, hQ => exact hQ
  | .error (.invalidStateTransition message), hQ => exact hQ
  | .error (.database .operational), hQ => exact hQ
  | .error .invalidRequest, hQ => exact hQ
  | .error .staleData, hQ => exact hQ

end Statements

section Updates

variable {t : Table} {d : Database schema}

/-- The write of a changed row. -/
def changeWrite (t : Table) (loaded : t.Row) (change : Change t.Row) (time : Nat) : Write schema :=
  ⟨t, some loaded, rowTouch time (change.apply loaded loaded)⟩

/-- The outcomes of `update_owned`: its result, and the session that it leaves. -/
inductive Updated (t : Table) (d : Database schema) (context : TenantContext) (id : Uuid)
    (change : Change t.Row) : Except ServiceError t.Row → Session schema → Prop where
  /-- The connection failed before the commit. -/
  | failed {s : Session schema} (seen : s.seen = d) (failed : s.failed = true) :
      Updated t d context id change (.error (.database .operational)) s
  /-- The tenant owns no such row. -/
  | missing {s : Session schema} (seen : s.seen = d)
      (absent : ∀ row ∈ d t, rowId row = id → rowTenant row ≠ context.tenantId) :
      Updated t d context id change (.error .notFound) s
  /-- No column has another value. -/
  | unchanged {s : Session schema} {loaded : t.Row} (seen : s.seen = d) (stored : loaded ∈ d t)
      (owned : rowId loaded = id ∧ rowTenant loaded = context.tenantId)
      (clean : change.dirty loaded = false) :
      Updated t d context id change (.ok loaded) s
  /-- A constraint refused the changed row. -/
  | refused {s : Session schema} {loaded : t.Row} {time : Nat} (seen : s.seen = d)
      (stored : loaded ∈ d t)
      (owned : rowId loaded = id ∧ rowTenant loaded = context.tenantId)
      (refused : admits d (changeWrite t loaded change time) = false) :
      Updated t d context id change (.error .conflict) s
  /-- The change is committed. Reading it back may still fail. -/
  | committed {s : Session schema} {loaded : t.Row} {time : Nat}
      {result : Except ServiceError t.Row}
      (seen : s.seen = (changeWrite t loaded change time).apply d) (stored : loaded ∈ d t)
      (owned : rowId loaded = id ∧ rowTenant loaded = context.tenantId)
      (dirty : change.dirty loaded = true)
      (admitted : admits d (changeWrite t loaded change time) = true)
      (answer : result = .ok (changeWrite t loaded change time).new ∨
        (result = .error (.database .operational) ∧ s.failed = true)) :
      Updated t d context id change result s

/-- The flush of a loaded row writes it, unless no column has another value. -/
theorem alone_flush_change (hd : Consistent d) {loaded : t.Row} (hloaded : loaded ∈ d t)
    (change : Change t.Row) {Q : Except ServiceError Unit → Session schema → Prop}
    (hclean : change.dirty loaded = false → Q (.ok ()) (.start d))
    (hadmitted : ∀ time, change.dirty loaded = true →
      admits d (changeWrite t loaded change time) = true →
      Q (.ok ()) { Session.start d with pending := [changeWrite t loaded change time] })
    (hrefused : ∀ time, change.dirty loaded = true →
      admits d (changeWrite t loaded change time) = false →
      Q (.error (.database .integrity)) ((Session.start d).refuse d))
    (habort : Q (.error (.database .operational)) ((Session.start d).interrupted d)) :
    Alone (flushChange t loaded change) (.start d) Q := by
  refine each_ite (fun hdirty => ?_) fun hdirty => hclean (by simpa using hdirty)
  refine each_bind (alone_execute (fun time => ?_) habort)
  -- The row with this primary key is the loaded one.
  cases hfind : ((Session.start d).view d t).find? fun row => rowId row = rowId loaded && true with
  | none =>
      have hfalse := List.find?_eq_none.mp hfind loaded hloaded
      simp at hfalse
  | some old =>
      have hold : old ∈ d t := List.mem_of_find?_eq_some hfind
      have hid : rowId old = rowId loaded := by simpa using List.find?_some hfind
      obtain rfl : old = loaded := eq_of_ident_eq (hd t) hold hloaded hid
      have hrespond : (Session.start d).respond time d (.update t (rowId old) (fun _ => true)
          fun time current => rowTouch time (change.apply old current)) =
            (Session.start d).write d (changeWrite t old change time) true :=
        Session.respond_update_some time _ hfind
      rw [show (Session.start d).seen = d from rfl, hrespond]
      cases hadmits : admits d (changeWrite t old change time) with
      | true =>
          rw [Session.write_of_admits true
            (show admits ((Session.start d).view d) _ = true from hadmits)]
          exact hadmitted time hdirty hadmits
      | false =>
          rw [Session.write_of_refused true
            (show admits ((Session.start d).view d) _ = false from hadmits)]
          exact hrefused time hdirty hadmits

/-- An admitted change of a stored row fits the database. -/
theorem stands_change {loaded : t.Row} (hloaded : loaded ∈ d t) {change : Change t.Row}
    (hchange : change.Keeps) {time : Nat}
    (hadmitted : admits d (changeWrite t loaded change time) = true) :
    Stands d (changeWrite t loaded change time) := by
  refine stands_of_admits_first hadmitted fun old hold => ?_
  obtain rfl : loaded = old := Option.some.inj hold
  refine ⟨hloaded, ?_⟩
  show rowId loaded = rowId (rowTouch time (change.apply loaded loaded))
  rw [row_id_touch, hchange.id]

/-- An update of an owned row by a session that runs alone. -/
theorem update_owned_alone (hd : Consistent d) (context : TenantContext) (id : Uuid)
    {change : Change t.Row} (hchange : change.Keeps) :
    Alone (updateOwned t context id change) (.start d) (Updated t d context id change) := by
  refine each_bind (alone_require_owned (fun loaded hloaded hid htenant => ?_)
    (fun habsent => .missing rfl habsent) (.failed rfl rfl))
  replace hloaded : loaded ∈ d t := hloaded
  refine each_bind (alone_conflict (each_bind (alone_flush_change hd hloaded change ?_ ?_ ?_ ?_)))
  · intro hclean
    refine alone_commit ?_ (.failed rfl rfl)
    refine alone_refresh ⟨loaded, hloaded, rfl⟩ (fun row hrow hrowId => ?_) (.failed rfl rfl)
    obtain rfl : row = loaded := eq_of_ident_eq (hd t) hrow hloaded hrowId
    exact .unchanged rfl hloaded ⟨hid, htenant⟩ hclean
  · intro time hdirty hadmitted
    refine alone_commit ?_ (.failed rfl rfl)
    have hstands := stands_change hloaded hchange hadmitted
    have hrows := fun row => mem_rows_iff (r := row) hstands
    have hid' : rowId (changeWrite t loaded change time).new = rowId loaded := by
      show rowId (rowTouch time (change.apply loaded loaded)) = rowId loaded
      rw [row_id_touch, hchange.id]
    have hview : (changeWrite t loaded change time).apply d t =
        (changeWrite t loaded change time).rows (d t) := apply_self ..
    refine alone_refresh ⟨_, ?_, hid'⟩ (fun row hrow hrowId => ?_) ?_
    · show _ ∈ (changeWrite t loaded change time).apply d t
      rw [hview]
      exact (hrows _).mpr (Or.inl rfl)
    · replace hrow : row ∈ (changeWrite t loaded change time).apply d t := hrow
      rw [hview] at hrow
      rcases (hrows row).mp hrow with rfl | hother
      · exact .committed rfl hloaded ⟨hid, htenant⟩ hdirty hadmitted (Or.inl rfl)
      · exact absurd (hrowId.trans hid'.symm) hother.2
    · exact .committed rfl hloaded ⟨hid, htenant⟩ hdirty hadmitted (Or.inr ⟨rfl, rfl⟩)
  · intro time hdirty hrefused
    exact ⟨.refused rfl hloaded ⟨hid, htenant⟩ hrefused, .failed rfl rfl⟩
  · exact .failed rfl rfl

end Updates

/-- The write of a new site. -/
def siteWrite (context : TenantContext) (workspaceId : Uuid) (name url : String) (id : Uuid)
    (time : Nat) : Write schema :=
  ⟨.sites, none, (⟨id, time, time, context.tenantId, workspaceId, some name, url⟩ : Site)⟩

/-- `create_site` leaves the database as it was, or inserts the site. -/
theorem create_site_alone (d : Database schema) (context : TenantContext) (workspaceId : Uuid)
    (name url : String) :
    Alone (createSite context workspaceId name url) (.start d) fun _ s => s.seen = d ∨
      ∃ id time, admits d (siteWrite context workspaceId name url id time) = true ∧
        s.seen = (siteWrite context workspaceId name url id time).apply d := by
  refine each_bind (alone_require_owned (fun workspace hworkspace hid htenant => ?_)
    (fun _ => Or.inl rfl) (Or.inl rfl))
  refine each_bind (alone_uuid4 (fun id => ?_) (Or.inl rfl))
  refine each_bind (alone_conflict (each_bind (alone_insert (fun time hadmitted => ?_)
    ⟨Or.inl rfl, Or.inl rfl⟩ (Or.inl rfl))))
  refine alone_commit ?_ (Or.inl rfl)
  exact alone_refresh_seen fun _ s hs => Or.inr ⟨id, time, hadmitted, hs⟩

end GrowthOs.Foundation
