import GrowthOs.Db.Queries
import GrowthOs.Library.Permanence

/-!
# The columns that last

`keptColumns` blanks the columns that some operation updates. Decisions and audit events have none.
An audit event names a row of its tenant, without a foreign key. The rules below compose orderly
programs: `Keeps before p after` says which tables the open transaction has written at most, and
which rows its audit events name.
-/

namespace GrowthOs.Db

open Library

/-- A row without the columns that an operation may update. -/
def keptColumns : {t : Table} → t.Row → t.Row
  | .tenants, r => { r with updatedAt := 0, name := "" }
  | .workspaces, r => { r with updatedAt := 0, name := "" }
  | .businessProfiles, r =>
      { r with
        updatedAt := 0
        companyName := ""
        businessDescription := none
        productsServices := none
        targetAudience := none
        positioning := none
        brandVoice := none }
  | .growthGoals, r =>
      { r with updatedAt := 0, objective := "", successDefinition := none, targetDate := none }
  | .autonomyPolicies, r => { r with updatedAt := 0, level := .observeOnly, isPaused := false }
  | .competitors, r => { r with updatedAt := 0, name := "", websiteUrl := none, notes := none }
  | .memberships, r => { r with updatedAt := 0, role := .viewer }
  | .sites, r => { r with updatedAt := 0, name := none, url := "" }
  | .connectors, r => { r with updatedAt := 0, status := .notConfigured }
  | .jobs, r => { r with updatedAt := 0, status := .queued }
  | .runs, r => { r with updatedAt := 0, status := .queued }
  | .proposals, r => { r with updatedAt := 0, status := .awaitingApproval }
  | .decisions, r => r
  | .auditEvents, r => r

/-- The tenant and the identifier of a row. -/
def rowName {t : Table} (row : t.Row) : Uuid × Uuid := (rowTenant row, rowId row)

/-- The row that an audit event names. -/
def auditedNames : {t : Table} → t.Row → List (Uuid × Uuid)
  | .auditEvents, event => [(event.tenantId, event.resourceId)]
  | _, _ => []

/-- Only audit events name rows. -/
theorem audited_names_nil {t : Table} (h : t ≠ .auditEvents) (row : t.Row) :
    auditedNames row = [] := by
  cases t with
  | auditEvents => exact absurd rfl h
  | _ => rfl

/-- The primary key, the tenant and the keys of the constraints are no such columns. -/
def lastingColumns : Lasting schema where
  kept := keptColumns
  Name := Uuid × Uuid
  name := rowName
  names := auditedNames
  ident_kept := @fun t _ => by cases t <;> rfl
  parents_kept := @fun t _ => by cases t <;> rfl
  candidates_kept := @fun t _ => by cases t <;> rfl
  name_kept := @fun t _ => by cases t <;> rfl
  names_kept := @fun t _ => by cases t <;> rfl

/-- The time of an update is no column that lasts. -/
@[simp] theorem kept_touch (time : Nat) {t : Table} (row : t.Row) :
    keptColumns (rowTouch time row) = keptColumns row := by
  cases t <;> rfl

/-- A change of columns that an operation may update. -/
def Change.Permitted {t : Table} (change : Change t.Row) : Prop :=
  ∀ loaded current : t.Row, keptColumns (change.apply loaded current) = keptColumns current

/-- A change of another column is permitted. -/
theorem permitted_column {t : Table} {α : Type} [DecidableEq α] {get : t.Row → α}
    {set : α → t.Row → t.Row} {value : Option α}
    (hset : ∀ v row, keptColumns (set v row) = keptColumns row) :
    Change.Permitted (Change.column get set value) := by
  intro loaded current
  rcases Change.apply_column get set value loaded current with heq | ⟨v, heq⟩
  · rw [heq]
  · rw [heq, hset]

/-- So are two permitted changes. -/
theorem Change.Permitted.and {t : Table} {c c' : Change t.Row} (h : c.Permitted)
    (h' : c'.Permitted) : (c.and c').Permitted :=
  fun loaded current => (h' loaded _).trans (h loaded current)

/-- What is known of an open transaction: the tables that it has written at most, rows that it has
seen or written, and the rows that its audit events name otherwise. -/
structure Open where
  tables : List Table
  held : List (Uuid × Uuid)
  owed : List (Uuid × Uuid)

namespace Open

/-- No transaction is open. -/
def idle : Open := ⟨[], [], []⟩

/-- A table is written. -/
def writes (o : Open) (t : Table) : Open := { o with tables := t :: o.tables }

/-- A row is seen, or written. -/
def holds (o : Open) (name : Uuid × Uuid) : Open := { o with held := name :: o.held }

/-- An audit event names a row. -/
def owes (o : Open) (name : Uuid × Uuid) : Open := { o with owed := name :: o.owed }

variable (o : Open) (t : Table) (name : Uuid × Uuid)

/-- An idle transaction has written to no table. -/
@[simp] theorem tables_idle : idle.tables = [] := rfl

/-- A write adds its table. -/
@[simp] theorem tables_writes : (o.writes t).tables = t :: o.tables := rfl

/-- A name that is held adds none. -/
@[simp] theorem tables_holds : (o.holds name).tables = o.tables := rfl

/-- Nor does one that is owed. -/
@[simp] theorem tables_owes : (o.owes name).tables = o.tables := rfl

/-- An idle transaction owes nothing. -/
@[simp] theorem owed_idle : idle.owed = [] := rfl

/-- A write adds nothing that is owed. -/
@[simp] theorem owed_writes : (o.writes t).owed = o.owed := rfl

/-- Nor does a name that is held. -/
@[simp] theorem owed_holds : (o.holds name).owed = o.owed := rfl

end Open

variable {α β : Type} {t : Table} {before middle after : Open} {s s' : Session schema}
  {d : Database schema} {context : TenantContext} {name : Uuid × Uuid}

/-- The open transaction is as described. -/
structure Wrote (o : Open) (s : Session schema) : Prop where
  tables : ∀ w ∈ s.pending, w.table ∈ o.tables
  held : ∀ name ∈ o.held, lastingColumns.Holds s name
  backed : ∀ w ∈ s.pending, w.old = none → ∀ name ∈ auditedNames w.new,
    lastingColumns.Holds s name ∨ name ∈ o.owed

/-- The program is orderly in a transaction as described by `before`, and where it returns, the open
transaction is as described by `after`. -/
def Keeps (before : Open) (p : Service α) (after : Open) : Prop :=
  ∀ s, Wrote before s → lastingColumns.Keeping p s fun result s' =>
    (∃ a, result = .ok a) → Wrote after s'

/-- The program is orderly and returns a row of the tenant that the session has seen. -/
def Finds (before : Open) (context : TenantContext) (p : Service t.Row) : Prop :=
  ∀ s, Wrote before s → lastingColumns.Keeping p s fun result s' =>
    ∀ row, result = .ok row → Wrote (before.holds (context.tenantId, rowId row)) s'

/-- Without pending writes nothing has been written. -/
theorem wrote_idle (h : s.pending = []) : Wrote .idle s := by
  constructor
  · intro w hw
    rw [h] at hw
    cases hw
  · nofun
  · intro w hw
    rw [h] at hw
    cases hw

/-- Some description fits every transaction. -/
theorem wrote_any (s : Session schema) :
    Wrote ⟨s.pending.map (·.table), [], s.pending.flatMap fun w => auditedNames w.new⟩ s where
  tables _ hw := List.mem_map_of_mem hw
  held := nofun
  backed _ hw _ _ hname := .inr (List.mem_flatMap.mpr ⟨_, hw, hname⟩)

/-- A statement that leaves the pending writes as they are. -/
theorem wrote_seen (h : Wrote before s) (hlasts : lastingColumns.Lasts s.seen d)
    (hseen : s'.seen = d)
    (hpending : s'.pending = s.pending) : Wrote before s' := by
  have hholds : ∀ {name}, lastingColumns.Holds s name → lastingColumns.Holds s' name :=
    Lasting.holds_lasts hlasts hseen fun w hw => hpending ▸ hw
  refine ⟨?_, fun name hname => hholds (h.held name hname), ?_⟩
  · rw [hpending]
    exact h.tables
  · rw [hpending]
    exact fun w hw hnone name hname => (h.backed w hw hnone name hname).imp_left hholds

/-- A name that the session holds may be added. -/
theorem wrote_holds (h : Wrote before s) (hname : lastingColumns.Holds s name) :
    Wrote (before.holds name) s where
  tables := h.tables
  held := List.forall_mem_cons.mpr ⟨hname, h.held⟩
  backed := h.backed

/-- Another table may be added. -/
theorem wrote_writes (h : Wrote before s) : Wrote (before.writes t) s where
  tables w hw := List.mem_cons_of_mem t (h.tables w hw)
  held := h.held
  backed := h.backed

/-- A table that is not listed has no pending write. -/
theorem not_written (h : Wrote before s) (ht : t ∉ before.tables) :
    ∀ w ∈ s.pending, t ≠ w.table := by
  intro w hw heq
  rw [heq] at ht
  exact ht (h.tables w hw)

/-- A value. -/
theorem keeps_pure (a : α) : Keeps before (pure a) before := fun _ hs _ => hs

/-- An exception, wherever it leaves the transaction. -/
theorem keeps_raise (e : ServiceError) : Keeps before (.raise e : Service α) after := by
  intro s _ hok
  obtain ⟨_, h⟩ := hok
  cases h

/-- Two programs, one after the other. -/
theorem keeps_bind {p : Service β} {f : β → Service α} (hp : Keeps before p middle)
    (hf : ∀ b, Keeps middle (f b) after) : Keeps before (p >>= f) after := by
  intro s hs
  refine each_bind (each_post (hp s hs) fun result s' hwrote => ?_)
  cases result with
  | ok b => exact hf b s' (hwrote ⟨b, rfl⟩)
  | error e =>
      rintro ⟨_, h⟩
      cases h

/-- What follows may rely on the row that is found. -/
theorem keeps_bind_row {p : Service t.Row} {f : t.Row → Service α} (hp : Finds before context p)
    (hf : ∀ row, Keeps (before.holds (context.tenantId, rowId row)) (f row) after) :
    Keeps before (p >>= f) after := by
  intro s hs
  refine each_bind (each_post (hp s hs) fun result s' hwrote => ?_)
  cases result with
  | ok row => exact hf row s' (hwrote row rfl)
  | error e =>
      rintro ⟨_, h⟩
      cases h

/-- A program in front of a lookup. -/
theorem finds_bind {p : Service β} {f : β → Service t.Row} (hp : Keeps before p before)
    (hf : ∀ b, Finds before context (f b)) : Finds before context (p >>= f) := by
  intro s hs
  refine each_bind (each_post (hp s hs) fun result s' hwrote => ?_)
  cases result with
  | ok b => exact hf b s' (hwrote ⟨b, rfl⟩)
  | error e =>
      intro row h
      cases h

/-- A lookup changes nothing. -/
theorem keeps_of_finds {p : Service t.Row} (hp : Finds before context p) :
    Keeps before p before := by
  intro s hs
  refine each_post (hp s hs) fun result s' hwrote hok => ?_
  obtain ⟨row, rfl⟩ := hok
  have hrow := hwrote row rfl
  exact ⟨hrow.tables, (List.forall_mem_cons.mp hrow.held).2, hrow.backed⟩

/-- A branch. -/
theorem keeps_ite {c : Prop} [Decidable c] {p q : Service α} (hp : c → Keeps before p after)
    (hq : ¬ c → Keeps before q after) : Keeps before (if c then p else q) after :=
  fun s hs => each_ite (fun hc => hp hc s hs) fun hc => hq hc s hs

/-- A statement, by what it leaves of the open transaction. -/
theorem keeps_statement {st : Statement schema α}
    (horderly : ∀ s d, Wrote before s → lastingColumns.Orderly s d st)
    (hafter : ∀ s d value a, lastingColumns.Lasts s.seen d → Wrote before s →
      (s.respond value d st).1 = .ok a → Wrote after (s.respond value d st).2) :
    Keeps before (statement st) after := by
  intro s hs
  refine each_execute fun d hd => ⟨horderly s d hs, fun answer s' hanswer _ => ?_⟩
  rintro ⟨a, hok⟩
  cases hanswer with
  | abort => cases hok
  | respond value =>
      cases hresult : (s.respond value d st).1 with
      | ok found => exact hafter s d value found hd hs hresult
      | error e =>
          rw [hresult] at hok
          cases hok

/-- A query. -/
theorem keeps_select {query : Database schema → α} :
    Keeps before (statement (.select query)) before :=
  keeps_statement (fun _ _ _ => trivial) fun _ _ _ _ hd hs _ => wrote_seen hs hd rfl rfl

/-- A fresh identifier. -/
theorem keeps_uuid4 : Keeps before uuid4 before :=
  keeps_statement (fun _ _ _ => trivial) fun _ _ _ _ hd hs _ => wrote_seen hs hd rfl rfl

/-- A commit, when the rows that the audit events name have been seen or written. -/
theorem keeps_commit (howed : before.owed ⊆ before.held) : Keeps before commit .idle := by
  refine keeps_statement (fun s d hs w hw hnone name hname => ?_) fun _ _ _ _ _ _ _ =>
    wrote_idle rfl
  exact (hs.backed w hw hnone name hname).elim id fun hmem => hs.held name (howed hmem)

/-- A rollback gives everything up. -/
theorem keeps_rollback : Keeps before rollback .idle :=
  keeps_statement (fun _ _ _ => trivial) fun _ _ _ _ _ _ _ => wrote_idle rfl

/-- A write that a constraint has not refused. -/
theorem wrote_write {w : Write schema} (hs : Wrote before s) (hd : lastingColumns.Lasts s.seen d)
    (hnames : w.old = none → ∀ name ∈ auditedNames w.new, name ∈ before.owed) {answer value : β}
    (hok : (s.write d w answer).1 = .ok value) :
    Wrote (before.writes w.table) (s.write d w answer).2 ∧
      lastingColumns.Holds (s.write d w answer).2 (rowName w.new) := by
  cases hadmits : admits (s.view d) w with
  | false =>
      rw [Session.write_of_refused answer hadmits] at hok
      cases hok
  | true =>
      rw [Session.write_of_admits answer hadmits]
      have hholds : ∀ {name}, lastingColumns.Holds s name → lastingColumns.Holds
          { s with pending := s.pending ++ [w], seen := d } name :=
        Lasting.holds_lasts hd rfl fun w' hw' => List.mem_append_left _ hw'
      have hmem : ∀ w' ∈ s.pending ++ [w], w' ∈ s.pending ∨ w' = w := by
        intro w' hw'
        simpa using hw'
      refine ⟨⟨fun w' hw' => ?_, fun name hname => hholds (hs.held name hname), ?_⟩,
        .inr ⟨w, List.mem_append_right _ (List.mem_singleton_self w), rfl⟩⟩
      · rcases hmem w' hw' with hw' | rfl
        · exact List.mem_cons_of_mem _ (hs.tables w' hw')
        · exact List.mem_cons_self
      · intro w' hw' hnone name hname
        rcases hmem w' hw' with hw' | rfl
        · exact (hs.backed w' hw' hnone name hname).imp_left hholds
        · exact .inr (hnames hnone name hname)

/-- An inserted row is held by its name. -/
theorem keeps_insert_row (name : Uuid × Uuid) {row : Nat → t.Row} (ht : t ∉ before.tables)
    (hplain : t ≠ .auditEvents) (hname : ∀ time, rowName (row time) = name) :
    Keeps before (insert t row) ((before.writes t).holds name) := by
  refine keeps_statement (fun _ _ hs => not_written hs ht) fun s d value a hd hs hok => ?_
  have hnames : ∀ name ∈ auditedNames (row value), name ∈ before.owed := by
    rw [audited_names_nil hplain]
    nofun
  obtain ⟨hwrote, hholds⟩ :=
    @wrote_write _ _ _ _ ⟨t, none, row value⟩ hs hd (fun _ => hnames) () a hok
  rw [hname value] at hholds
  exact wrote_holds hwrote hholds

/-- An insertion of a row that is no audit event. -/
theorem keeps_insert {row : Nat → t.Row} (ht : t ∉ before.tables) (hplain : t ≠ .auditEvents) :
    Keeps before (insert t row) (before.writes t) := by
  refine keeps_statement (fun _ _ hs => not_written hs ht) fun s d value a hd hs hok => ?_
  have hnames : ∀ name ∈ auditedNames (row value), name ∈ before.owed := by
    rw [audited_names_nil hplain]
    nofun
  exact (@wrote_write _ _ _ _ ⟨t, none, row value⟩ hs hd (fun _ => hnames) () a hok).1

/-- An audit event owes the row that it names. -/
theorem keeps_insert_audit (name : Uuid × Uuid) {event : Nat → AuditEvent}
    (ht : .auditEvents ∉ before.tables)
    (hname : ∀ time, ((event time).tenantId, (event time).resourceId) = name) :
    Keeps before (insert .auditEvents event) ((before.owes name).writes .auditEvents) := by
  refine keeps_statement (fun _ _ hs => not_written hs ht) fun s d value a hd hs hok => ?_
  have howes : Wrote (before.owes name) s :=
    ⟨hs.tables, hs.held, fun w hw hnone other hother =>
      (hs.backed w hw hnone other hother).imp_right (List.mem_cons_of_mem name)⟩
  refine (@wrote_write _ _ _ _ ⟨.auditEvents, none, event value⟩ howes hd (fun _ other hother => ?_)
    () a hok).1
  rw [List.mem_singleton.mp hother, hname value]
  exact List.mem_cons_self

/-- An update of the columns that do not last. -/
theorem keeps_update {id : Uuid} {condition : t.Row → Bool} {set : Nat → t.Row → t.Row}
    (ht : t ∉ before.tables) (hset : ∀ time row, keptColumns (set time row) = keptColumns row) :
    Keeps before (statement (.update t id condition set)) (before.writes t) := by
  refine keeps_statement (fun _ _ hs => ⟨not_written hs ht, hset⟩) fun s d value a hd hs hok => ?_
  cases hfind : (s.view d t).find? fun r => schema.ident r = id && condition r with
  | none =>
      rw [Session.respond_update_none value set hfind]
      exact wrote_writes (wrote_seen hs hd rfl rfl)
  | some old =>
      rw [Session.respond_update_some value set hfind] at hok ⊢
      exact (@wrote_write _ _ _ _ ⟨t, some old, set value old⟩ hs hd nofun true a hok).1

/-- A table may be listed that has not been written to. -/
theorem keeps_weaken {p : Service α} (h : Keeps before p after) : Keeps before p (after.writes t) :=
  fun s hs => each_post (h s hs) fun _ _ hwrote hok => wrote_writes (hwrote hok)

/-! ## The statements of the repositories -/

/-- The query of one row. -/
theorem keeps_scalar {condition : t.Row → Bool} : Keeps before (scalar t condition) before :=
  keeps_select

/-- A row that is required. -/
theorem keeps_required (found : Option α) : Keeps before (required found) before := by
  cases found with
  | some row => exact keeps_pure row
  | none => exact keeps_raise _

/-- A query of a row of the tenant. -/
theorem finds_scalar {condition : t.Row → Bool}
    (hcondition : ∀ row, condition row = true → rowTenant row = context.tenantId) :
    Finds before context (do required (← scalar t condition)) := by
  intro s hs
  refine each_bind (each_execute fun d hd => ⟨trivial, fun answer s' hanswer _ => ?_⟩)
  cases hanswer with
  | abort => nofun
  | respond value =>
      show lastingColumns.Keeping (required ((s.view d t).find? condition)) _ _
      cases hfind : (s.view d t).find? condition with
      | none => nofun
      | some row =>
          rintro _ ⟨⟩
          refine wrote_holds (wrote_seen hs hd rfl rfl) ?_
          have hname : rowName row = (context.tenantId, rowId row) :=
            congrArg (·, rowId row) (hcondition row (List.find?_some hfind))
          rw [← hname]
          have hmem : row ∈ applyAll s.pending d t := List.mem_of_find?_eq_some hfind
          rcases mem_of_apply_all hmem with hrow | ⟨old, hw⟩
          · exact .inl ⟨t, row, hrow, rfl⟩
          · exact .inr ⟨_, hw, rfl⟩

/-- `get_owned` of the services finds a row of the tenant. -/
theorem finds_require_owned {id : Uuid} : Finds before context (requireOwned t context id) :=
  finds_scalar fun row hrow => by
    rw [Bool.and_eq_true, decide_eq_true_eq, decide_eq_true_eq] at hrow
    exact hrow.2

/-- It changes nothing. -/
theorem keeps_require_owned {id : Uuid} : Keeps before (requireOwned t context id) before :=
  keeps_of_finds finds_require_owned

/-- Nor does a refresh. -/
theorem keeps_refresh {id : Uuid} : Keeps before (refresh t id) before := by
  refine keeps_bind keeps_scalar fun found => ?_
  cases found with
  | some row => exact keeps_pure row
  | none => exact keeps_raise _

/-- Nor does a page. -/
theorem keeps_list_page {condition : t.Row → Bool} {key : t.Row → Int} {page : PageRequest} :
    Keeps before (listPage t condition key page) before :=
  keeps_bind keeps_select fun _ => keeps_bind keeps_select fun _ => keeps_pure _

/-- An update of a row that has been loaded. -/
theorem keeps_update_loaded {id : Uuid} {set : Nat → t.Row → t.Row} (ht : t ∉ before.tables)
    (hset : ∀ time row, keptColumns (set time row) = keptColumns row) :
    Keeps before (updateLoaded t id set) (before.writes t) :=
  keeps_bind (keeps_update ht hset) fun _ => keeps_ite (fun _ => keeps_pure _)
    fun _ => keeps_raise _

/-- The flush of a permitted change. -/
theorem keeps_flush_change {loaded : t.Row} {change : Change t.Row} (ht : t ∉ before.tables)
    (hchange : change.Permitted) :
    Keeps before (flushChange t loaded change) (before.writes t) := by
  refine keeps_ite (fun _ => keeps_update_loaded ht fun time row => ?_) fun _ =>
    keeps_weaken (keeps_pure _)
  rw [kept_touch, hchange]

/-- Where the body ends in a commit, no transaction is open behind it. -/
theorem keeps_on_integrity_error {body handler : Service α} (hbody : Keeps before body .idle)
    (hhandler : Keeps .idle handler .idle) :
    Keeps before (onIntegrityError body handler) .idle := by
  intro s hs
  refine each_handle (each_post (hbody s hs) fun result s' hwrote => ?_)
  have hraised : ∀ (e : ServiceError) (s' : Session schema),
      lastingColumns.Keeping (.raise e : Service α) s' fun result s' =>
        (∃ a, result = .ok a) → Wrote .idle s' := by
    intro e s' hok
    obtain ⟨_, h⟩ := hok
    cases h
  cases result with
  | ok a => exact hwrote
  | error e =>
      cases e with
      | database e =>
          cases e with
          | integrity =>
              exact keeps_bind keeps_rollback (fun _ => hhandler) s' (wrote_any s')
          | operational => exact hraised _ s'
      | notFound | conflict | invalidStateTransition | invalidRequest | staleData =>
          exact hraised _ s'

/-- A handler that rolls back keeps what its body keeps. -/
theorem keeps_rollback_on_error {body : Service α} (hbody : Keeps before body after) :
    Keeps before (rollbackOnError body) after := by
  intro s hs
  refine each_handle (each_post (hbody s hs) fun result s' hwrote => ?_)
  have hraised : ∀ e : ServiceError, lastingColumns.Keeping (do rollback; .raise e : Service α) s'
      fun result s' => (∃ a, result = .ok a) → Wrote after s' := fun e =>
    keeps_bind keeps_rollback (fun _ => keeps_raise e) s' (wrote_any s')
  cases result with
  | ok a => exact hwrote
  | error e =>
      cases e with
      | database e =>
          cases e with
          | integrity => exact hraised .conflict
          | operational => exact hraised _
      | notFound | conflict | invalidStateTransition | invalidRequest | staleData =>
          exact hraised _

/-- An orderly program keeps the rules, whether names are watched or not. -/
theorem wp_of_keeps {watched : Prop} {p : Service α} (h : Keeps .idle p .idle)
    (d : Database schema) : (lastingColumns.rules watched).wp p (.start d) fun _ _ => True :=
  each_post (Lasting.wp_of_keeping (h (.start d) (wrote_idle rfl)) (Lasting.tracked_nil rfl))
    fun _ _ _ => trivial

end GrowthOs.Db
