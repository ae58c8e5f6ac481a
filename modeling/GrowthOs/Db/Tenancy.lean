import GrowthOs.Db.Session
import GrowthOs.Library.Isolation

/-!
# Tenants

The rows of a tenant as an ownership of the schema, and the rules for the statements of a session
that runs alone: a statement is local when its condition names the tenant, or when it names the
identifier of a row that the session has found or drawn.
-/

namespace GrowthOs.Db

open Library Ownership

/-- The rows that a foreign key relates have one tenant. -/
theorem tenant_eq_of_parent {t : Table} {row : t.Row} {p : Table × List Uuid}
    (hp : p ∈ rowParents row) (parent : p.1.Row) (hcandidate : p.2 ∈ rowCandidates parent) :
    rowTenant parent = rowTenant row := by
  cases t <;> simp only [rowParents, List.mem_singleton, List.not_mem_nil] at hp <;> subst hp <;>
    simp only [rowCandidates, List.mem_singleton, List.cons.injEq] at hcandidate <;>
    simp [rowTenant, hcandidate]

/-- The rows of the tenants in `owners`. -/
@[reducible] def tenancy (owners : Uuid → Bool) : Ownership schema where
  mine row := owners (rowTenant row)
  clash h := by rw [tenant_eq_of_row_clash h]
  parents hp parent hcandidate := by rw [tenant_eq_of_parent hp parent hcandidate]

variable {owners : Uuid → Bool} {fresh : Uuid → Prop} {s : Session schema}

/-- A program whose statements are local, in a session that runs alone. -/
abbrev TenantLocal {α : Type} (owners : Uuid → Bool) (fresh : Uuid → Prop) (p : Service α)
    (s : Session schema) (Q : Except ServiceError α → Session schema → Prop) : Prop :=
  Local (tenancy owners) fresh (Alone (tenancy owners) fresh) p s Q

/-- The session sees an own row with this identifier. -/
def Known (owners : Uuid → Bool) (s : Session schema) (t : Table) (id : Uuid) : Prop :=
  ∃ row ∈ s.view s.seen t, owners (rowTenant row) = true ∧ rowId row = id

/-- What the session sees of its own stays. -/
def Grows (owners : Uuid → Bool) (s s' : Session schema) : Prop :=
  ∀ t id, Known owners s t id → Known owners s' t id

/-- What is known and drawn grows on. -/
theorem Grows.trans {s s' s'' : Session schema} (h : Grows owners s s')
    (h' : Grows owners s' s'') : Grows owners s s'' :=
  fun t id hknown => h' t id (h t id hknown)

/-- A known identifier names an own row in every database with the same own rows. -/
theorem mine_of_known {view view' : Database schema} (h : (tenancy owners).Twin fresh view view')
    {t : Table} {known row : t.Row} (hknown : known ∈ view t)
    (hmine : owners (rowTenant known) = true) (hrow : row ∈ view' t)
    (hid : rowId row = rowId known) : owners (rowTenant row) = true := by
  have hmem : known ∈ (tenancy owners).own view' t := h.own ▸ mem_own.mpr ⟨hknown, hmine⟩
  rw [eq_of_ident_eq (h.consistent' t) hrow (mem_own.mp hmem).1 hid]
  exact hmine

section Rules

variable {α : Type}

/-- A query that twins answer alike is local. -/
theorem local_select {query : Database schema → α} {Q : Except ServiceError α →
    Session schema → Prop}
    (hquery : ∀ view', (tenancy owners).Twin fresh (s.view s.seen) view' →
      query (s.view s.seen) = query view')
    (herror : ∀ e s', Q (.error e) s')
    (hok : ∀ s', Grows owners s s' → Q (.ok (query (s'.view s'.seen))) s') :
    TenantLocal owners fresh (statement (.select query)) s Q := by
  refine each_execute fun d hd => ?_
  obtain ⟨rfl, -, -⟩ := hd
  refine ⟨hquery, ?_⟩
  intro answer s' hanswer _
  cases hanswer with
  | respond value => exact hok { s with seen := s.seen } fun _ _ hknown => hknown
  | abort => exact herror _ _

/-- A query whose condition names the tenant. -/
theorem local_scalar {t : Table} {condition : t.Row → Bool}
    {Q : Except ServiceError (Option t.Row) → Session schema → Prop}
    (hcondition : ∀ row, condition row = true → owners (rowTenant row) = true)
    (herror : ∀ e s', Q (.error e) s')
    (hsome : ∀ row s', Grows owners s s' → Known owners s' t (rowId row) →
      condition row = true → Q (.ok (some row)) s')
    (hnone : ∀ s', Grows owners s s' → Q (.ok none) s') :
    TenantLocal owners fresh (scalar t condition) s Q := by
  refine local_select (fun view' htwin => ?_) herror fun s' hgrows => ?_
  · have hforeign : ∀ row : t.Row, owners (rowTenant row) = false → condition row = false := by
      intro row hrow
      by_contra hfound
      rw [hcondition row (by simpa using hfound)] at hrow
      cases hrow
    exact find_eq_of_own_eq htwin.own (fun row _ => hforeign row) fun row _ => hforeign row
  · cases hfind : (s'.view s'.seen t).find? condition with
    | none => exact hnone s' hgrows
    | some row =>
        have hrow := List.find?_some hfind
        exact hsome row s' hgrows
          ⟨row, List.mem_of_find?_eq_some hfind, hcondition row hrow, rfl⟩ hrow

/-- A row that is required is there or not. -/
theorem local_required {row : Option α} {Q : Except ServiceError α → Session schema → Prop}
    (herror : ∀ e s', Q (.error e) s') (hsome : ∀ a, row = some a → Q (.ok a) s) :
    TenantLocal owners fresh (required row) s Q := by
  cases row with
  | none => exact herror _ _
  | some a => exact hsome a rfl

/-- The row of an owner that is required is known. -/
theorem local_require_owned {t : Table} {context : TenantContext} {id : Uuid}
    {Q : Except ServiceError t.Row → Session schema → Prop}
    (howner : owners context.tenantId = true) (herror : ∀ e s', Q (.error e) s')
    (hok : ∀ row s', Grows owners s s' → Known owners s' t (rowId row) →
      rowTenant row = context.tenantId → Q (.ok row) s') :
    TenantLocal owners fresh (requireOwned t context id) s Q := by
  refine each_bind (local_scalar (fun row hrow => ?_) herror
    (fun row s' hgrows hknown hrow => ?_) fun s' _ => herror _ s')
  · simp only [Bool.and_eq_true, decide_eq_true_eq] at hrow
    rw [hrow.2]
    exact howner
  · simp only [Bool.and_eq_true, decide_eq_true_eq] at hrow
    exact hok row s' hgrows hknown hrow.2

/-- An identifier is drawn fresh. -/
theorem local_uuid4 {Q : Except ServiceError Uuid → Session schema → Prop}
    (herror : ∀ e s', Q (.error e) s')
    (hok : ∀ id s', fresh id → Grows owners s s' → Q (.ok id) s') :
    TenantLocal owners fresh uuid4 s Q := by
  refine each_execute fun d hd => ⟨trivial, ?_⟩
  obtain ⟨rfl, -, -⟩ := hd
  intro answer s' hanswer hdrawn
  cases hanswer with
  | respond value =>
      exact hok value _ (hdrawn value (by simp [Session.respond])) fun _ _ hknown => hknown
  | abort => exact herror _ _

/-- A row of an owner is inserted under a fresh identifier. -/
theorem local_insert {t : Table} {row : Nat → t.Row} {id : Uuid}
    {Q : Except ServiceError Unit → Session schema → Prop}
    (hmine : ∀ time, owners (rowTenant (row time)) = true)
    (hid : ∀ time, rowId (row time) = id) (hfresh : fresh id)
    (herror : ∀ e s', Q (.error e) s')
    (hok : ∀ s', Grows owners s s' → Known owners s' t id → Q (.ok ()) s') :
    TenantLocal owners fresh (insert t row) s Q := by
  refine each_execute fun d hd => ⟨fun time => ⟨hmine time, ?_⟩, ?_⟩
  · show fresh (rowId (row time))
    rw [hid time]
    exact hfresh
  obtain ⟨rfl, -, -⟩ := hd
  intro answer s' hanswer _
  cases hanswer with
  | abort => exact herror _ _
  | respond time =>
      rw [Session.respond_insert]
      cases hadmits : admits (s.view s.seen) ⟨t, none, row time⟩ with
      | false =>
          rw [Session.write_of_refused () hadmits]
          exact herror _ _
      | true =>
          rw [Session.write_of_admits () hadmits]
          have hview : applyAll (s.pending ++ [⟨t, none, row time⟩]) s.seen =
              Write.apply ⟨t, none, row time⟩ (s.view s.seen) := by
            rw [applyAll, List.foldl_append]
            rfl
          refine hok _ (fun t' id' hknown => ?_) ?_
          · obtain ⟨known, hknown, hown, hident⟩ := hknown
            refine ⟨known, ?_, hown, hident⟩
            show known ∈ applyAll (s.pending ++ [⟨t, none, row time⟩]) s.seen t'
            rw [hview]
            by_cases ht : t' = t
            · subst ht
              rw [apply_self ⟨t', none, row time⟩ (s.view s.seen)]
              exact List.mem_append_left _ hknown
            · rwa [apply_of_ne _ ht]
          · refine ⟨row time, ?_, hmine time, hid time⟩
            show row time ∈ applyAll (s.pending ++ [⟨t, none, row time⟩]) s.seen t
            rw [hview, apply_self ⟨t, none, row time⟩ (s.view s.seen)]
            exact List.mem_append_right _ (.head _)

/-- A commit is local. -/
theorem local_commit {Q : Except ServiceError Unit → Session schema → Prop}
    (herror : ∀ e s', Q (.error e) s') (hok : ∀ s', Grows owners s s' → Q (.ok ()) s') :
    TenantLocal owners fresh commit s Q := by
  refine each_execute fun d hd => ⟨trivial, ?_⟩
  obtain ⟨rfl, -, -⟩ := hd
  intro answer s' hanswer _
  cases hanswer with
  | respond value => exact hok _ fun _ _ hknown => hknown
  | abort => exact herror _ _

/-- So is a rollback. -/
theorem local_rollback {Q : Except ServiceError Unit → Session schema → Prop}
    (herror : ∀ e s', Q (.error e) s') (hok : ∀ s', Q (.ok ()) s') :
    TenantLocal owners fresh rollback s Q := by
  refine each_execute fun d hd => ⟨trivial, ?_⟩
  intro answer s' hanswer _
  cases hanswer with
  | respond value => exact hok _
  | abort => exact herror _ _

/-- An update by an identifier, whose condition names the tenant or whose identifier is known. -/
theorem local_update {t : Table} {id : Uuid} {condition : t.Row → Bool} {set : Nat → t.Row → t.Row}
    {Q : Except ServiceError Bool → Session schema → Prop}
    (hset : ∀ time row, rowId (set time row) = rowId row ∧ rowTenant (set time row) = rowTenant row)
    (hmine : (∀ row, condition row = true → owners (rowTenant row) = true) ∨ Known owners s t id)
    (herror : ∀ e s', Q (.error e) s') (hok : ∀ found s', Grows owners s s' → Q (.ok found) s') :
    TenantLocal owners fresh (statement (.update t id condition set)) s Q := by
  refine each_execute fun d hd => ?_
  obtain ⟨rfl, hconsistent, hapart⟩ := hd
  -- The condition asks for the tenant, or the row is known to belong to it.
  have hown : ∀ view', (tenancy owners).Twin fresh (s.view s.seen) view' → ∀ row ∈ view' t,
      rowId row = id → condition row = true → owners (rowTenant row) = true := by
    intro view' htwin row hrow hid hcondition
    rcases hmine with hcase | ⟨known, hknown, hknownMine, hknownId⟩
    · exact hcase row hcondition
    · exact mine_of_known htwin hknown hknownMine hrow (hid.trans hknownId.symm)
  refine ⟨⟨fun time row => ⟨(hset time row).1, ?_⟩, hown⟩, ?_⟩
  · show owners (rowTenant (set time row)) = owners (rowTenant row)
    rw [(hset time row).2]
  intro answer s' hanswer _
  cases hanswer with
  | abort => exact herror _ _
  | respond time =>
      cases hfind : (s.view s.seen t).find? fun row => schema.ident row = id && condition row with
      | none =>
          rw [Session.respond_update_none _ set hfind]
          exact hok false _ fun _ _ hknown => hknown
      | some old =>
          rw [Session.respond_update_some _ set hfind]
          have hold := List.mem_of_find?_eq_some hfind
          cases hadmits : admits (s.view s.seen) ⟨t, some old, set time old⟩ with
          | false =>
              rw [Session.write_of_refused true hadmits]
              exact herror _ _
          | true =>
              rw [Session.write_of_admits true hadmits]
              -- A known row stays known: it is the changed row itself, another of its table or of
              -- another table.
              have hview : applyAll (s.pending ++ [⟨t, some old, set time old⟩]) s.seen =
                  Write.apply ⟨t, some old, set time old⟩ (s.view s.seen) := by
                rw [applyAll, List.foldl_append]
                rfl
              refine hok true _ fun t' id' hknown => ?_
              obtain ⟨known, hknown, hknownMine, hknownId⟩ := hknown
              by_cases ht : t' = t
              · subst ht
                by_cases hsame : rowId known = rowId (set time old)
                · have heq : known = old := eq_of_ident_eq (hconsistent t') hknown hold
                    (hsame.trans (hset time old).1)
                  refine ⟨set time old, ?_, ?_, hsame.symm.trans hknownId⟩
                  · show set time old ∈ applyAll
                      (s.pending ++ [⟨t', some old, set time old⟩]) s.seen t'
                    rw [hview, apply_self ⟨t', some old, set time old⟩ (s.view s.seen)]
                    exact List.mem_map.mpr ⟨known, hknown, if_pos hsame⟩
                  · rw [(hset time old).2, ← heq]
                    exact hknownMine
                · refine ⟨known, ?_, hknownMine, hknownId⟩
                  show known ∈ applyAll (s.pending ++ [⟨t', some old, set time old⟩]) s.seen t'
                  rw [hview, apply_self ⟨t', some old, set time old⟩ (s.view s.seen)]
                  exact List.mem_map.mpr ⟨known, hknown, if_neg hsame⟩
              · refine ⟨known, ?_, hknownMine, hknownId⟩
                show known ∈ applyAll (s.pending ++ [⟨t, some old, set time old⟩]) s.seen t'
                rwa [hview, apply_of_ne _ ht]

/-- A known row is updated within its identifier and tenant. -/
theorem local_update_loaded {t : Table} {id : Uuid} {set : Nat → t.Row → t.Row}
    {Q : Except ServiceError Unit → Session schema → Prop}
    (hset : ∀ time row, rowId (set time row) = rowId row ∧ rowTenant (set time row) = rowTenant row)
    (hknown : Known owners s t id) (herror : ∀ e s', Q (.error e) s')
    (hok : ∀ s', Grows owners s s' → Q (.ok ()) s') :
    TenantLocal owners fresh (updateLoaded t id set) s Q := by
  refine each_bind (local_update hset (Or.inr hknown) herror fun found s' hgrows => ?_)
  cases found with
  | true => exact hok s' hgrows
  | false => exact herror _ s'

/-- A refresh of a row whose identifier the session has drawn or found. -/
theorem local_refresh {t : Table} {id : Uuid} {Q : Except ServiceError t.Row →
    Session schema → Prop}
    (hid : fresh id ∨ Known owners s t id) (herror : ∀ e s', Q (.error e) s')
    (hok : ∀ row s', Grows owners s s' → Q (.ok row) s') :
    TenantLocal owners fresh (refresh t id) s Q := by
  refine each_bind (local_select (fun view' htwin => ?_) herror fun s' hgrows => ?_)
  · -- No other party has a row with the identifier.
    have hforeign : ∀ view, (tenancy owners).Twin fresh (s.view s.seen) view → ∀ row ∈ view t,
        owners (rowTenant row) = false → decide (rowId row = id) = false := by
      intro view htwin row hrow hother
      simp only [decide_eq_false_iff_not]
      rintro rfl
      rcases hid with hfresh | ⟨known, hknown, hmine, hknownId⟩
      · exact htwin.apart' t row hrow hother hfresh
      · rw [mine_of_known htwin hknown hmine hrow hknownId.symm] at hother
        cases hother
    exact find_eq_of_own_eq htwin.own (hforeign _ (.refl htwin.consistent htwin.apart))
      (hforeign view' htwin)
  · dsimp only
    split
    · exact hok _ s' hgrows
    · exact herror _ s'

/-- A handler of integrity errors runs where its body is refused. -/
theorem local_on_integrity_error {body handler : Service α}
    {Q : Except ServiceError α → Session schema → Prop} (herror : ∀ e s', Q (.error e) s')
    (hhandler : ∀ s', TenantLocal owners fresh handler s' Q)
    (hbody : TenantLocal owners fresh body s fun result s' => match result with
      | .ok a => Q (.ok a) s'
      | .error _ => True) :
    TenantLocal owners fresh (onIntegrityError body handler) s Q := by
  refine each_handle (each_post hbody fun result s' hresult => ?_)
  match result, hresult with
  | .ok a, hQ => exact hQ
  | .error (.database .integrity), _ => exact each_bind (local_rollback herror hhandler)
  | .error .notFound, _ => exact herror _ _
  | .error .conflict, _ => exact herror _ _
  | .error (.invalidStateTransition message), _ => exact herror _ _
  | .error (.database .operational), _ => exact herror _ _
  | .error .invalidRequest, _ => exact herror _ _
  | .error .staleData, _ => exact herror _ _

end Rules

/-! ## Programs that append -/

section Appends

variable {α : Type} {Q : Except ServiceError α → Session schema → Prop}

/-- A program of a tenant that looks for rows of the tenant and inserts rows of the tenant. -/
abbrev TenantAppends (owners : Uuid → Bool) (p : Service α) (s : Session schema)
    (Q : Except ServiceError α → Session schema → Prop) : Prop :=
  AppendsOnly (tenancy owners) p s Q

/-- A statement that only appends. -/
theorem appends_statement {st : Statement schema α} (h : ∀ d, Appends (tenancy owners) s d st)
    (herror : ∀ e s', Q (.error e) s')
    (hok : ∀ a s', (∀ id ∈ s.drawn, id ∈ s'.drawn) → Q (.ok a) s') :
    TenantAppends owners (statement st) s Q := by
  refine each_execute fun d _ => ⟨h d, fun answer s' hanswer _ => ?_⟩
  cases answer with
  | ok a => exact hok a s' (Session.drawn_of_answers hanswer)
  | error e => exact herror _ s'

/-- An identifier that is drawn is known to the session. -/
theorem appends_uuid4 {Q : Except ServiceError Uuid → Session schema → Prop}
    (herror : ∀ e s', Q (.error e) s')
    (hok : ∀ id s', (∀ id ∈ s.drawn, id ∈ s'.drawn) → id ∈ s'.drawn → Q (.ok id) s') :
    TenantAppends owners uuid4 s Q := by
  refine each_execute fun d _ => ⟨trivial, fun answer s' hanswer _ => ?_⟩
  have hdrawn := Session.drawn_of_answers hanswer
  cases hanswer with
  | respond value => exact hok value _ hdrawn (by simp [Session.respond])
  | abort => exact herror _ _

/-- A query for a row that is found by its tenant or by a drawn identifier. -/
theorem appends_scalar {t : Table} {condition : t.Row → Bool}
    {Q : Except ServiceError (Option t.Row) → Session schema → Prop}
    (hcondition : ∀ row, condition row = true →
      owners (rowTenant row) = true ∨ rowId row ∈ s.drawn)
    (herror : ∀ e s', Q (.error e) s')
    (hok : ∀ found s', (∀ id ∈ s.drawn, id ∈ s'.drawn) → Q (.ok found) s') :
    TenantAppends owners (scalar t condition) s Q := by
  refine appends_statement (fun d fresh view view' hdrawn htwin => ?_) herror hok
  have hforeign : ∀ view : Database schema, (tenancy owners).Apart fresh view → ∀ row ∈ view t,
      owners (rowTenant row) = false → condition row = false := by
    intro view hapart row hrow hother
    by_contra hfound
    rcases hcondition row (by simpa using hfound) with hmine | hid
    · rw [hother] at hmine
      cases hmine
    · exact hapart t row hrow hother (hdrawn _ hid)
  exact find_eq_of_own_eq htwin.own (hforeign view htwin.apart) (hforeign view' htwin.apart')

/-- A row of an owner that is required. -/
theorem appends_require_owned {t : Table} {context : TenantContext} {id : Uuid}
    {Q : Except ServiceError t.Row → Session schema → Prop}
    (howner : owners context.tenantId = true) (herror : ∀ e s', Q (.error e) s')
    (hok : ∀ row s', (∀ id ∈ s.drawn, id ∈ s'.drawn) → Q (.ok row) s') :
    TenantAppends owners (requireOwned t context id) s Q := by
  refine each_bind (appends_scalar (fun row hrow => Or.inl ?_) herror fun found s' hdrawn => ?_)
  · simp only [Bool.and_eq_true, decide_eq_true_eq] at hrow
    rw [hrow.2]
    exact howner
  · cases found with
    | none => exact herror _ s'
    | some row => exact hok row s' hdrawn

/-- A row of an owner is appended under an identifier that has been drawn. -/
theorem appends_insert {t : Table} {row : Nat → t.Row}
    {Q : Except ServiceError Unit → Session schema → Prop}
    (hrow : ∀ time, owners (rowTenant (row time)) = true ∧ rowId (row time) ∈ s.drawn)
    (herror : ∀ e s', Q (.error e) s')
    (hok : ∀ s', (∀ id ∈ s.drawn, id ∈ s'.drawn) → Q (.ok ()) s') :
    TenantAppends owners (insert t row) s Q :=
  appends_statement (fun _ => hrow) herror fun _ => hok

/-- A row under such an identifier is read back. -/
theorem appends_refresh {t : Table} {id : Uuid} {Q : Except ServiceError t.Row →
    Session schema → Prop}
    (hid : id ∈ s.drawn) (herror : ∀ e s', Q (.error e) s')
    (hok : ∀ row s', (∀ id ∈ s.drawn, id ∈ s'.drawn) → Q (.ok row) s') :
    TenantAppends owners (refresh t id) s Q := by
  refine each_bind (appends_scalar (fun row hrow => Or.inr ?_) herror fun found s' hdrawn => ?_)
  · rwa [decide_eq_true_eq.mp hrow]
  · cases found with
    | none => exact herror _ s'
    | some row => exact hok row s' hdrawn

/-- A handler of integrity errors. -/
theorem appends_on_integrity_error {body handler : Service α} (herror : ∀ e s', Q (.error e) s')
    (hhandler : ∀ s', TenantAppends owners handler s' Q)
    (hbody : TenantAppends owners body s fun result s' => match result with
      | .ok a => Q (.ok a) s'
      | .error _ => True) :
    TenantAppends owners (onIntegrityError body handler) s Q := by
  refine each_handle (each_post hbody fun result s' hresult => ?_)
  match result, hresult with
  | .ok a, hQ => exact hQ
  | .error (.database .integrity), _ =>
      exact each_bind (appends_statement (fun _ => trivial) herror fun _ s'' _ => hhandler s'')
  | .error .notFound, _ => exact herror _ _
  | .error .conflict, _ => exact herror _ _
  | .error (.invalidStateTransition message), _ => exact herror _ _
  | .error (.database .operational), _ => exact herror _ _
  | .error .invalidRequest, _ => exact herror _ _
  | .error .staleData, _ => exact herror _ _

end Appends

end GrowthOs.Db
