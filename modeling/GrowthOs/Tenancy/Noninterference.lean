import GrowthOs.Execution.Attempts
import GrowthOs.Tenancy.Identifiers
import GrowthOs.Tenancy.Locality
import GrowthOs.Tenancy.Permanence

/-!
# Tenants do not interfere

What a tenant is answered, and what it leaves in the database, depends on its own rows only. That a
database is well-formed is kept by all requests: `wellformed_of_reachable`.
-/

namespace GrowthOs.Tenancy

open Library Db Ownership Execution

/-- The rows of a tenant. -/
def rowsOf (tenantId : Uuid) (d : Database schema) (t : Table) : List t.Row :=
  (d t).filter fun row => rowTenant row = tenantId

/-- The identifiers that will be drawn are not in use by other tenants, as a row or as a tenant. -/
def Unused (supply : Supply) (tenantId : Uuid) (d : Database schema) : Prop :=
  ∀ t, ∀ row ∈ d t, rowTenant row ≠ tenantId →
    ∀ n, rowId row ≠ supply.ids n ∧ rowTenant row ≠ supply.ids n

/-- Two database states with the same rows of a tenant, and any rows of other tenants. -/
structure SameRows (supply : Supply) (tenantId : Uuid) (d d' : Database schema) : Prop where
  rows : ∀ t, rowsOf tenantId d t = rowsOf tenantId d' t
  consistent : Consistent d
  consistent' : Consistent d'
  unused : Unused supply tenantId d
  unused' : Unused supply tenantId d'

section Parties

variable (supply : Supply) (tenantId : Uuid)

open Classical in
/-- A tenant, and the tenants that it creates. -/
noncomputable def party : Uuid → Bool := fun id => id = tenantId ∨ ∃ n, supply.ids n = id

/-- The identifiers of the supply. -/
def Drawn (id : Uuid) : Prop := ∃ n, supply.ids n = id

variable {supply tenantId} {d d' : Database schema}

/-- The tenant, and the identifiers of the supply. -/
theorem party_iff {id : Uuid} : party supply tenantId id = true ↔ id = tenantId ∨
    Drawn supply id := by
  simp [party, Drawn]

/-- Before the requests, the party has the rows of the tenant. -/
theorem own_of_unused (h : Unused supply tenantId d) (t : Table) :
    (tenancy (party supply tenantId)).own d t = rowsOf tenantId d t := by
  refine List.filter_congr fun row hrow => ?_
  rw [Bool.eq_iff_iff, party_iff, decide_eq_true_eq]
  refine ⟨fun hcase => ?_, Or.inl⟩
  by_contra hne
  obtain ⟨n, hn⟩ := hcase.resolve_left hne
  exact (h t row hrow hne n).2 hn.symm

/-- Identifiers that are not used are apart. -/
theorem apart_of_unused (h : Unused supply tenantId d) :
    (tenancy (party supply tenantId)).Apart (Drawn supply) d := by
  rintro t row hrow hother ⟨n, hn⟩
  refine (h t row hrow fun htenant => ?_) n |>.1 hn.symm
  have hmine : party supply tenantId (rowTenant row) = true := party_iff.mpr (Or.inl htenant)
  exact Bool.noConfusion (hmine.symm.trans hother)

/-- Databases with the same rows of the tenant are twins. -/
theorem twin_of_same_rows (h : SameRows supply tenantId d d') :
    (tenancy (party supply tenantId)).Twin (Drawn supply) d d' where
  own := by
    funext t
    rw [own_of_unused h.unused, own_of_unused h.unused', h.rows]
  consistent := h.consistent
  consistent' := h.consistent'
  apart := apart_of_unused h.unused
  apart' := apart_of_unused h.unused'

/-- The same rows of a party are the same rows of the tenant. -/
theorem rows_of_own (h : (tenancy (party supply tenantId)).own d =
    (tenancy (party supply tenantId)).own d') (t : Table) :
    rowsOf tenantId d t = rowsOf tenantId d' t := by
  have hrows : ∀ d : Database schema, rowsOf tenantId d t =
      ((tenancy (party supply tenantId)).own d t).filter fun row => rowTenant row = tenantId := by
    intro d
    rw [own, List.filter_filter]
    refine List.filter_congr fun row _ => ?_
    rw [Bool.eq_iff_iff, Bool.and_eq_true, decide_eq_true_eq, party_iff]
    exact ⟨fun htenant => ⟨htenant, Or.inl htenant⟩, And.left⟩
  rw [hrows d, hrows d', h]

/-- A tenant outside of the party keeps its rows with those of the others. -/
theorem rows_of_others (h : (tenancy (party supply tenantId)).others d =
    (tenancy (party supply tenantId)).others d') {other : Uuid} (hother : other ≠ tenantId)
    (hdrawn : ¬ Drawn supply other) (t : Table) : rowsOf other d t = rowsOf other d' t := by
  have hrows : ∀ d : Database schema, rowsOf other d t =
      ((tenancy (party supply tenantId)).others d t).filter fun row => rowTenant row = other := by
    intro d
    rw [others, List.filter_filter]
    refine List.filter_congr fun row _ => ?_
    rw [Bool.eq_iff_iff, Bool.and_eq_true, decide_eq_true_eq, Bool.not_eq_true',
      ← Bool.not_eq_true, party_iff]
    refine ⟨fun htenant => ⟨htenant, fun hcase => ?_⟩, And.left⟩
    rw [htenant] at hcase
    exact hcase.elim hother hdrawn
  rw [hrows d, hrows d', h]

end Parties

/-- A database is well-formed if foreign keys and audit events name rows. -/
theorem wellformed_iff (d : Database schema) :
    Wellformed d ↔ Referential d ∧ lastingColumns.Named d := by
  constructor
  · refine fun h => ⟨h.references, fun t row hrow name hname => ?_⟩
    cases t with
    | auditEvents =>
        rw [List.mem_singleton.mp hname]
        obtain ⟨t, row', hrow', htenant, hid⟩ := h.audited row hrow
        exact ⟨t, row', hrow', Prod.ext htenant hid⟩
    | _ => cases hname
  · rintro ⟨hreferences, hnamed⟩
    refine ⟨hreferences, fun event hevent => ?_⟩
    obtain ⟨t, row, hrow, hname⟩ := hnamed .auditEvents event hevent _ (List.mem_singleton_self _)
    exact ⟨t, row, hrow, (Prod.mk.inj hname).1, (Prod.mk.inj hname).2⟩

/-- Requests that are served by operations of tenants keep a well-formed database well-formed, in
any order of their statements and with failures at any of them. -/
theorem wellformed_of_reachable {Req : Type} {tenantOf : Req → TenantContext}
    {operationOf : Req → Operation} {sys : System schema ServiceError Reply Req}
    (h : Reachable (fun request => perform (tenantOf request) (operationOf request))
      (fun d => Wellformed d ∧ Consistent d) sys) : Wellformed sys.committed := by
  have hserves : Serves (lastingColumns.rules True)
      (fun request => perform (tenantOf request) (operationOf request)) fun _ _ _ _ => True :=
    ⟨fun request d _ => wp_of_keeps (keeps_perform (operationOf request)) d,
      fun _ _ _ _ _ => trivial⟩
  have hsound := sound_of_reachable hserves (fun d hd => ?_) h
  · exact (wellformed_iff _).mpr ⟨hsound.invariant.1, hsound.invariant.2 trivial⟩
  · obtain ⟨hreferences, hnamed⟩ := (wellformed_iff d).mp hd.1
    exact ⟨⟨hreferences, fun _ => hnamed⟩, hd.2⟩

/-- What a tenant names in place of an identifier of another tenant. -/
def rename (x y : Uuid) (id : Uuid) : Uuid := if id = x then y else id

/-- On two database states with the same rows of a tenant, the same requests of the tenant are
answered the same and leave the same rows of the tenant, and every other tenant keeps its rows. On a
well-formed database, and the requests keep it well-formed, a request that names an identifier of
another tenant runs exactly as one that names an identifier that does not exist. -/
theorem tenant_noninterference {supply : Supply} {context : TenantContext}
    {d d' : Database schema} (h : SameRows supply context.tenantId d d')
    (operations : List Operation) :
    (serveAll (perform context) supply d operations).1.results =
        (serveAll (perform context) supply d' operations).1.results ∧
      (∀ t, rowsOf context.tenantId (serveAll (perform context) supply d operations).1.committed t =
        rowsOf context.tenantId (serveAll (perform context) supply d' operations).1.committed t) ∧
      (∀ other, other ≠ context.tenantId → (∀ n, other ≠ supply.ids n) → ∀ t,
        rowsOf other (serveAll (perform context) supply d operations).1.committed t =
            rowsOf other d t ∧
          rowsOf other (serveAll (perform context) supply d' operations).1.committed t =
            rowsOf other d' t) ∧
      (Wellformed d → Wellformed (serveAll (perform context) supply d operations).1.committed) ∧
      ∀ x y, Wellformed d → Unknown d context.tenantId x → Unknown d context.tenantId y →
        ∀ operation n,
          (perform context (operation.mapIds (rename x y))).run supply n (.start d) =
            (perform context operation).run supply n (.start d) := by
  have hlocal : ∀ operation ∈ operations, ∀ d, Local (tenancy (party supply context.tenantId))
      (Drawn supply) (Alone (tenancy (party supply context.tenantId)) (Drawn supply))
      (perform context operation) (.start d) fun _ _ => True := fun operation _ d =>
    local_perform (party_iff.mpr (Or.inl rfl)) (fun _ hid => party_iff.mpr (Or.inr hid))
      (by simp [Session.start]) operation
  obtain ⟨hsame, hothers, hothers'⟩ :=
    serve_all_agree (fun n => ⟨n, rfl⟩) hlocal (twin_of_same_rows h)
  refine ⟨hsame.results, rows_of_own hsame.twin.own, fun other hother hdrawn t => ?_,
    fun hd => ?_, fun x y hd hx hy operation n => ?_⟩
  · have hnew : ¬ Drawn supply other := by
      intro hother
      obtain ⟨n, hn⟩ := hother
      exact hdrawn n hn.symm
    exact ⟨rows_of_others hothers hother hnew t, rows_of_others hothers' hother hnew t⟩
  · have hsteps := (serve_all_steps (perform context) supply operations (⟨d, []⟩, 0)
      (by simp [Idle])).1
    exact @wellformed_of_reachable Operation (fun _ => context) id _ ⟨d, ⟨hd, h.consistent⟩, hsteps⟩
  · refine run_map_ids hd rfl (fun id => ?_) operation
    unfold rename
    by_cases hid : id = x
    · rw [if_pos hid, hid]
      exact Or.inr ⟨hx, hy⟩
    · exact Or.inl (if_neg hid)

/-! ## Two database states -/

/-- The new database with another tenant, that has a workspace of the same name and a job with the
same key. -/
def sharedDatabase : Database schema
  | .tenants => newDatabase .tenants ++ [⟨5, 0, 0, "Tenant"⟩]
  | .workspaces => newDatabase .workspaces ++ [⟨6, 0, 0, 5, "Workspace"⟩]
  | .jobs => [⟨7, 0, 0, 5, 6, "crawl", "key", .queued⟩]
  | t => newDatabase t

/-- The supply counts from 100 on. -/
theorem unused_of_lt {d : Database schema} {tenantId : Uuid}
    (h : ∀ t, ∀ row ∈ d t, rowId row < 100 ∧ rowTenant row < 100) :
    Unused countingSupply tenantId d := by
  intro t row hrow _ n
  obtain ⟨hid, htenant⟩ := h t row hrow
  have hdrawn : 100 ≤ countingSupply.ids n := Nat.le_add_right 100 n
  exact ⟨Nat.ne_of_lt (Nat.lt_of_lt_of_le hid hdrawn),
    Nat.ne_of_lt (Nat.lt_of_lt_of_le htenant hdrawn)⟩

/-- The two sample databases are. -/
theorem same_rows_shared :
    SameRows countingSupply newContext.tenantId sharedDatabase newDatabase where
  rows := fun t => by cases t <;> decide
  consistent := fun t => by cases t <;> exact ⟨by decide, by decide, by decide⟩
  consistent' := new_database_initial.consistent
  unused := unused_of_lt fun t => by cases t <;> decide
  unused' := unused_of_lt fun t => by cases t <;> decide

/-- The sample database is well formed. -/
theorem wellformed_shared : Wellformed sharedDatabase where
  references := fun t => by cases t <;> decide
  audited := fun _ hevent => by cases hevent

/-- A workspace of the name of the other tenant's, and a job with its key. -/
def sharedOperations : List Operation :=
  [.createWorkspace "Other", .createJob newRequest, .listJobs ⟨none, none, none⟩ ⟨10, 0⟩]

/-- The workspace of the other tenant is answered as one that does not exist. -/
theorem tenant_noninterference_shared :
    (serveAll (perform newContext) countingSupply sharedDatabase sharedOperations).1.results =
        (serveAll (perform newContext) countingSupply newDatabase sharedOperations).1.results ∧
      (perform newContext (.getOwned .workspace 9)).run countingSupply 0 (.start sharedDatabase) =
        (perform newContext (.getOwned .workspace 6)).run countingSupply 0
          (.start sharedDatabase) := by
  have hall := tenant_noninterference same_rows_shared sharedOperations
  have hunknown : ∀ id : Uuid, id ∈ [6, 9] → Unknown sharedDatabase newContext.tenantId id := by
    intro id hid t
    rcases List.mem_pair.mp hid with rfl | rfl <;> cases t <;> decide
  exact ⟨hall.1, hall.2.2.2.2 6 9 wellformed_shared (hunknown 6 (by decide))
    (hunknown 9 (by decide)) (.getOwned .workspace 6) 0⟩

end GrowthOs.Tenancy
