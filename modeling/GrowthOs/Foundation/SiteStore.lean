import GrowthOs.Foundation.Sites
import GrowthOs.Foundation.Persisting

/-!
# The sites in the store

A site has a name and the string form of an http(s) URL as long as no update sets a field of a
stored site to null. `SiteUpdate` accepts null, and then the name violates a constraint and the URL
is stored as the text `None`.
-/

namespace GrowthOs.Foundation

open Library Db

variable {types : FieldTypes} {d d' : Database schema}

variable (types) in
/-- A site with a name that is not empty, and the string form of a URL. -/
structure SiteOk (site : Site) : Prop where
  name : ∃ name, site.name = some name ∧ name ≠ ""
  url : ∃ raw url, types.parseUrl raw = some url ∧ site.url = types.str url

variable (types) in
/-- A store of such sites. -/
structure SiteStore (d : Database schema) : Prop where
  consistent : Consistent d
  sites : ∀ site ∈ d .sites, SiteOk types site

/-- The site after an update of exactly the fields that are set to a value. -/
def SiteUpdate.applied (payload : SiteUpdate types) (time : Nat) (site : Site) : Site :=
  { site with
    updatedAt := time
    name := match payload.name with
      | .set name => some name.value
      | _ => site.name
    url := match payload.url with
      | .set url => types.str url
      | _ => site.url }

/-- What an accepted update does. A null changes nothing and is no conflict. -/
structure UpdateStep (d : Database schema) (context : TenantContext) (id : Uuid)
    (payload : SiteUpdate types) (result : Except ServiceError SiteReply)
    (d' : Database schema) : Prop where
  changes : d' .sites = d .sites ∨ ∃ time, d' .sites = (d .sites).map fun site =>
    if site.id = id ∧ site.tenantId = context.tenantId then payload.applied time site else site
  answer : ∀ site', result = .ok (.site site') → site' ∈ d' .sites ∧ ∃ site ∈ d .sites,
    site.id = id ∧ site.tenantId = context.tenantId ∧
      site' = payload.applied site'.updatedAt site
  no_conflict : payload.HasNull → result ≠ .error .conflict

variable (types) in
/-- What a request does: it keeps the store, and a PATCH body is rejected or its update applied. -/
def SiteStep (d : Database schema) (request : SiteRequest)
    (result : Except ServiceError SiteReply) (d' : Database schema) : Prop :=
  SiteStore types d' ∧ match request with
    | .create _ _ => True
    | .update context id body => match SiteUpdate.validate types body with
        | none => result = .ok .validationError ∧ d' = d
        | some payload => UpdateStep d context id payload result d'

variable (types) in
/-- The request does not set a field of a stored site to null. -/
def Harmless (d : Database schema) : SiteRequest → Prop
  | .create _ _ => True
  | .update context id body => ∀ payload, SiteUpdate.validate types body = some payload →
      payload.HasNull → ∀ site ∈ d .sites, site.id = id → site.tenantId ≠ context.tenantId

variable (types) in
/-- Serve a request from the `n`-th statement of a supply on: its response, and the database that it
leaves. -/
def serveOne (supply : Supply) (n : Nat) (d : Database schema) (request : SiteRequest) :
    Except ServiceError SiteReply × Database schema :=
  let (result, s, _) := (serveSite types request).run supply n (.start d)
  (result, s.seen)

variable (types) in
/-- A step of a run: some request that sets no field of a stored site to null is served. -/
inductive HarmlessStep : Database schema → Database schema → Prop where
  | serve {d : Database schema} {request : SiteRequest} (harmless : Harmless types d request)
      (supply : Supply) (n : Nat) : HarmlessStep d (serveOne types supply n d request).2

/-! ## One request -/

/-- The URL of a site is not the text `None`. -/
theorem site_url_ne_none {site : Site} (h : SiteOk types site) : site.url ≠ "None" := by
  obtain ⟨raw, url, -, hurl⟩ := h.url
  rw [hurl]
  intro heq
  have habsolute := types.absolute url
  rw [heq] at habsolute
  revert habsolute
  decide

/-- A stored site has no null. -/
theorem site_not_null {site : Site} (h : SiteOk types site) :
    ¬ (site.name = none ∨ site.url = "None") := by
  obtain ⟨name, hname, -⟩ := h.name
  rw [hname]
  rintro (hnone | hurl)
  · cases hnone
  · exact site_url_ne_none h hurl

/-- A column of a row that still has the loaded value is set to the value of a change. -/
theorem apply_column_eq {Row α : Type} [DecidableEq α] {get : Row → α} {set : α → Row → Row}
    (hset : ∀ row, set (get row) row = row) (value : Option α) {loaded current : Row}
    (hget : get current = get loaded) :
    (Change.column get set value).apply loaded current =
      value.elim current fun v => set v current := by
  cases value with
  | none => rfl
  | some v =>
      show (if get loaded ≠ v then set v current else current) = set v current
      by_cases hv : get loaded = v
      · rw [if_neg (not_not_intro hv), ← hv, ← hget, hset]
      · rw [if_pos hv]

/-- Without nulls, the columns that the service sets are the fields of the payload. -/
theorem apply_changes {payload : SiteUpdate types} (hnull : ¬ payload.HasNull) (time : Nat)
    (site : Site) :
    @rowTouch time .sites ((siteChange payload.changes).apply site site) =
      payload.applied time site := by
  unfold siteChange
  rw [Change.apply_and, apply_column_eq (fun _ => rfl) _ rfl, apply_column_eq (fun _ => rfl)]
  · unfold SiteUpdate.changes SiteUpdate.applied
    cases hname : payload.name with
    | null => exact absurd (Or.inl hname) hnull
    | absent =>
        cases hurl : payload.url with
        | null => exact absurd (Or.inr hurl) hnull
        | absent => rfl
        | set url => rfl
    | set name =>
        cases hurl : payload.url with
        | null => exact absurd (Or.inr hurl) hnull
        | absent => rfl
        | set url => rfl
  · cases payload.changes.name <;> rfl

/-- A change that sets no column to another value. -/
theorem apply_site_clean {changes : SiteChanges} {site : Site}
    (hclean : (siteChange changes).dirty site = false) :
    (siteChange changes).apply site site = site := by
  obtain ⟨hname, hurl⟩ := Bool.or_eq_false_iff.mp hclean
  unfold siteChange
  rw [Change.apply_and, Change.apply_column_clean hname, Change.apply_column_clean hurl]

/-- A payload that changes nothing leaves the site. -/
theorem applied_of_clean {payload : SiteUpdate types} (hnull : ¬ payload.HasNull) {site : Site}
    (hclean : (siteChange payload.changes).dirty site = false) :
    payload.applied site.updatedAt site = site := by
  rw [← apply_changes hnull, apply_site_clean hclean]
  rfl

/-- A null name is written as null, and a null URL as the text `None`. -/
theorem apply_null {payload : SiteUpdate types} (hnull : payload.HasNull) (site : Site) :
    ((siteChange payload.changes).apply site site).name = none ∨
      ((siteChange payload.changes).apply site site).url = "None" := by
  unfold siteChange
  rw [Change.apply_and, apply_column_eq (fun _ => rfl) _ rfl, apply_column_eq (fun _ => rfl)]
  · rcases hnull with hnull | hnull
    · refine Or.inl ?_
      simp only [SiteUpdate.changes, hnull]
      cases payload.url <;> rfl
    · refine Or.inr ?_
      simp only [SiteUpdate.changes, hnull]
      rfl
  · cases payload.changes.name <;> rfl

/-- A committed update rewrites one site. -/
theorem sites_of_change (hd : Consistent d) {loaded : Site} (hloaded : loaded ∈ d .sites)
    {payload : SiteUpdate types} (hnull : ¬ payload.HasNull) (time : Nat) :
    (changeWrite .sites loaded (siteChange payload.changes) time).apply d .sites =
      (d .sites).map fun site =>
        if site.id = loaded.id ∧ site.tenantId = loaded.tenantId then payload.applied time site
        else site := by
  have hnew : (changeWrite .sites loaded (siteChange payload.changes) time).new =
      payload.applied time loaded := apply_changes hnull time loaded
  rw [show (changeWrite .sites loaded (siteChange payload.changes) time).apply d .sites = _ from
    apply_self ..]
  show (d .sites).map _ = _
  rw [hnew]
  refine List.map_congr_left fun site hsite => ?_
  by_cases hid : site.id = loaded.id
  · obtain rfl : site = loaded := eq_of_ident_eq (hd .sites) hsite hloaded hid
    rw [if_pos ⟨rfl, rfl⟩]
    exact if_pos rfl
  · rw [if_neg fun h => hid h.1]
    exact if_neg hid

/-- A valid payload leaves a valid site. -/
theorem site_ok_applied {body : Body} {payload : SiteUpdate types}
    (hpayload : SiteUpdate.validate types body = some payload) {site : Site}
    (h : SiteOk types site) (time : Nat) : SiteOk types (payload.applied time site) := by
  unfold SiteUpdate.applied
  constructor
  · show ∃ name, (match payload.name with
      | .set name => some name.value
      | _ => site.name) = some name ∧ name ≠ ""
    cases payload.name with
    | set name => exact ⟨name.value, rfl, name.ne_empty⟩
    | absent => exact h.name
    | null => exact h.name
  · show ∃ raw url, types.parseUrl raw = some url ∧ (match payload.url with
      | .set url => types.str url
      | _ => site.url) = types.str url
    cases hurl : payload.url with
    | set url =>
        obtain ⟨raw, hraw⟩ := site_update_parsed hpayload hurl
        exact ⟨raw, url, hraw, rfl⟩
    | absent => exact h.url
    | null => exact h.url

/-- The response to an accepted body is that of the service. -/
theorem serve_update_alone (hd : Consistent d) (context : TenantContext) (id : Uuid) {body : Body}
    {payload : SiteUpdate types} (hpayload : SiteUpdate.validate types body = some payload) :
    Alone (serveSite types (.update context id body)) (.start d) fun result s =>
      ∃ updated, Updated .sites d context id (siteChange payload.changes) updated s ∧
        result = updated.map .site := by
  simp only [serveSite, hpayload]
  refine each_bind (each_post (update_owned_alone hd context id (keeps_site _)) ?_)
  intro result s hupdated
  cases result with
  | ok site => exact ⟨_, hupdated, rfl⟩
  | error e => exact ⟨_, hupdated, rfl⟩

/-- A harmless update keeps the store and does what it has to do. -/
theorem update_step (hd : SiteStore types d) {context : TenantContext} {id : Uuid} {body : Body}
    {payload : SiteUpdate types} (hpayload : SiteUpdate.validate types body = some payload)
    (hharmless : payload.HasNull → ∀ site ∈ d .sites, site.id = id →
      site.tenantId ≠ context.tenantId)
    {updated : Except ServiceError Table.sites.Row} {s : Session schema}
    (h : Updated .sites d context id (siteChange payload.changes) updated s) :
    SiteStore types s.seen ∧
      UpdateStep d context id payload (updated.map SiteReply.site) s.seen := by
  cases h with
  | failed seen failed =>
      rw [seen]
      exact ⟨hd, Or.inl rfl, fun _ hresult => (nomatch hresult), fun _ hresult => nomatch hresult⟩
  | missing seen absent =>
      rw [seen]
      exact ⟨hd, Or.inl rfl, fun _ hresult => (nomatch hresult), fun _ hresult => nomatch hresult⟩
  | refused seen stored owned refused =>
      rw [seen]
      exact ⟨hd, Or.inl rfl, fun _ hresult => (nomatch hresult),
        fun hnull => absurd owned.2 (hharmless hnull _ stored owned.1)⟩
  | @unchanged _ loaded seen stored owned clean =>
      have hnull : ¬ payload.HasNull := fun hnull => hharmless hnull _ stored owned.1 owned.2
      rw [seen]
      refine ⟨hd, Or.inl rfl, fun site' hresult => ?_, fun h => absurd h hnull⟩
      obtain rfl : loaded = site' := SiteReply.site.inj (Except.ok.inj hresult)
      exact ⟨stored, loaded, stored, owned.1, owned.2, (applied_of_clean hnull clean).symm⟩
  | @committed _ loaded time result seen stored owned dirty admitted answer =>
      have hnull : ¬ payload.HasNull := fun hnull => hharmless hnull _ stored owned.1 owned.2
      have hsites := sites_of_change hd.consistent stored hnull time
      rw [show loaded.id = id from owned.1, show loaded.tenantId = context.tenantId from owned.2]
        at hsites
      rw [seen]
      refine ⟨⟨?_, ?_⟩, Or.inr ⟨time, hsites⟩, ?_, fun h => absurd h hnull⟩
      · exact consistent_apply hd.consistent (stands_change stored (keeps_site _) admitted)
      · intro site hsite
        rw [hsites] at hsite
        obtain ⟨old, hold, rfl⟩ := List.mem_map.mp hsite
        split
        · exact site_ok_applied hpayload (hd.sites old hold) time
        · exact hd.sites old hold
      · intro site' hresult
        rcases answer with rfl | hfailed
        · have hnew : (changeWrite .sites loaded (siteChange payload.changes) time).new =
              payload.applied time loaded := apply_changes hnull time loaded
          have hsite' : payload.applied time loaded = site' := by
            rw [hnew] at hresult
            exact SiteReply.site.inj (Except.ok.inj hresult)
          refine ⟨?_, loaded, stored, owned.1, owned.2, by rw [← hsite']; rfl⟩
          rw [hsites, ← hsite']
          exact List.mem_map.mpr ⟨loaded, stored, if_pos owned⟩
        · rw [hfailed.1] at hresult
          cases hresult

/-- A creation inserts a site that is as it should be, or nothing. -/
theorem create_step (hd : SiteStore types d) (context : TenantContext) (body : Body) :
    Alone (serveSite types (.create context body)) (.start d) fun _ s =>
    SiteStore types s.seen := by
  cases hpayload : SiteCreate.validate types body with
  | none =>
      simp only [serveSite, hpayload]
      exact hd
  | some payload =>
      simp only [serveSite, hpayload]
      refine each_bind (each_post (create_site_alone d context payload.workspaceId
        payload.name.value (types.str payload.url)) fun result s hs => ?_)
      have hstore : SiteStore types s.seen := by
        rcases hs with hseen | ⟨id, time, hadmitted, hseen⟩
        · rw [hseen]
          exact hd
        · obtain ⟨raw, hraw⟩ := site_create_parsed hpayload
          have hstands := stands_of_admits_first hadmitted fun old hold => nomatch hold
          rw [hseen]
          refine ⟨consistent_apply hd.consistent hstands, fun site hsite => ?_⟩
          rw [show (siteWrite context payload.workspaceId payload.name.value
            (types.str payload.url) id time).apply d .sites = _ from apply_self ..] at hsite
          rcases (mem_rows_iff hstands).mp hsite with rfl | hold
          · exact ⟨⟨_, rfl, payload.name.ne_empty⟩, raw, _, hraw, rfl⟩
          · exact hd.sites site hold.1
      cases result with
      | ok site => exact hstore
      | error e => exact hstore

/-- An explicit null for a stored site is stored as text, or reported as a conflict. -/
theorem null_breaks_step (hd : SiteStore types d) {context : TenantContext} {id : Uuid}
    {payload : SiteUpdate types} (hnull : payload.HasNull) {site : Site} (hsite : site ∈ d .sites)
    (hid : site.id = id)
    (htenant : site.tenantId = context.tenantId)
    {updated : Except ServiceError Table.sites.Row} {s : Session schema}
    (hconnected : s.failed = false)
    (h : Updated .sites d context id (siteChange payload.changes) updated s) :
    ¬ (SiteStore types s.seen ∧
      UpdateStep d context id payload (updated.map SiteReply.site) s.seen) := by
  intro hstep
  obtain ⟨hstore, hupdate⟩ := hstep
  cases h with
  | failed seen failed => rw [failed] at hconnected; cases hconnected
  | missing seen absent => exact absent site hsite hid htenant
  | refused seen stored owned refused => exact hupdate.no_conflict hnull rfl
  | @unchanged _ loaded seen stored owned clean =>
      have hwritten := apply_null hnull loaded
      rw [apply_site_clean clean] at hwritten
      exact site_not_null (hd.sites loaded stored) hwritten
  | @committed _ loaded time result seen stored owned dirty admitted answer =>
      have hstands := stands_change stored (keeps_site payload.changes) admitted
      have hnew : (changeWrite .sites loaded (siteChange payload.changes) time).new ∈
          s.seen .sites := by
        rw [seen, show (changeWrite .sites loaded
          (siteChange payload.changes) time).apply d .sites = _ from apply_self ..]
        exact (mem_rows_iff hstands).mpr (Or.inl rfl)
      exact site_not_null (hstore.sites _ hnew) (apply_null hnull loaded)

/-- A request does what it has to do, on every connection, exactly when it sets no field of a stored
site to null. -/
theorem site_step_iff (hd : SiteStore types d) (request : SiteRequest) :
    (∀ supply n, SiteStep types d request (serveOne types supply n d request).1
      (serveOne types supply n d request).2) ↔ Harmless types d request := by
  cases request with
  | create context body =>
      refine iff_of_true (fun supply n => ⟨?_, trivial⟩) trivial
      exact run_of_alone (create_step hd context body) supply n
  | update context id body =>
      cases hpayload : SiteUpdate.validate types body with
      | none =>
          refine iff_of_true (fun supply n => ?_) fun payload h => by rw [hpayload] at h; cases h
          simp only [SiteStep, serveOne, serveSite, hpayload]
          exact ⟨hd, rfl, rfl⟩
      | some payload =>
          have halone := serve_update_alone hd.consistent context id hpayload
          simp only [SiteStep, Harmless, hpayload]
          constructor
          · intro hsteps other hother hnull site hsite hid htenant
            obtain rfl : payload = other := Option.some.inj hother
            -- A connection that never fails reaches the commit or a constraint.
            let supply : Supply := ⟨fun _ => 0, fun _ => 0, fun _ => false⟩
            obtain ⟨updated, hupdated, hresult⟩ := run_of_alone halone supply 0
            have hconnected : (Program.run supply (serveSite types (.update context id body)) 0
                (.start d)).2.1.failed = false :=
              run_not_failed (fun _ => rfl) _ 0 (.start d)
            have hstep := hsteps supply 0
            refine null_breaks_step hd hnull hsite hid htenant hconnected hupdated ?_
            rw [← hresult]
            exact hstep
          · intro hharmless supply n
            obtain ⟨updated, hupdated, hresult⟩ := run_of_alone halone supply n
            have hstep := update_step hd hpayload (hharmless payload rfl) hupdated
            rw [← hresult] at hstep
            exact hstep

/-- The URLs with an http(s) scheme that are their own string form, and one identifier. -/
def literalTypes : FieldTypes where
  parseUuid value := if value = "00000000-0000-0000-0000-000000000002" then some 2 else none
  AnyHttpUrl := { url : String //
    "http://".toList <+: url.toList ∨ "https://".toList <+: url.toList }
  parseUrl raw := if h : "http://".toList <+: raw.toList ∨ "https://".toList <+: raw.toList then
    some ⟨raw, h⟩ else none
  str url := url.val
  absolute url := url.property

/-- A database with the workspace 2 of the tenant 1. -/
def workspaceDatabase : Database schema
  | .tenants => [⟨1, 0, 0, "Tenant"⟩]
  | .workspaces => [⟨2, 0, 0, 1, "Workspace"⟩]
  | _ => []

/-- The sample database stores valid sites. -/
theorem workspace_database_store : SiteStore literalTypes workspaceDatabase := by
  refine ⟨fun t => ?_, by simp [workspaceDatabase]⟩
  cases t <;> exact ⟨by decide, by simp [workspaceDatabase], by decide⟩

/-- The number of a statement is its identifier and its clock reading. -/
def numberSupply : Supply := ⟨id, id, fun _ => false⟩

/-- The creation of the site 1. -/
def siteCreation : SiteRequest :=
  .create ⟨1⟩ [("workspace_id", .text "00000000-0000-0000-0000-000000000002"),
    ("name", .text " Blog "), ("url", .text "https://example.com/")]

/-- The database after the creation. -/
def createdDatabase : Database schema :=
  (serveOne literalTypes numberSupply 0 workspaceDatabase siteCreation).2

/-- A PATCH request for the site 1. -/
def siteUpdate (body : Body) : SiteRequest := .update ⟨1⟩ 1 body

/-- Its update is harmless. -/
theorem created_database_harmless :
    Harmless literalTypes createdDatabase (siteUpdate [("name", .text "News")]) := by
  intro payload hpayload hnull
  rcases lookup_of_null hpayload hnull with hname | hurl
  · exact absurd hname (by decide)
  · exact absurd hurl (by decide)

end GrowthOs.Foundation
