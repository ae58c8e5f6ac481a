import GrowthOs.Db.Session
import GrowthOs.Library.Interleaving

/-!
# Proof rules of repository sessions

The rule of each statement that `Db.Session` offers. Every rule leaves three cases to its user: the
answers of the database, and a failure of the connection.
-/

namespace GrowthOs.Db

open Library

variable {R : Rules schema} {s : Session schema}

/-- The rule for the query of one row. -/
theorem wp_scalar {t : Table} {condition : t.Row → Bool}
    {Q : Except ServiceError (Option t.Row) → Session schema → Prop}
    (h : ∀ d, R.Relies s d →
      (∀ row ∈ s.view d t, condition row = true → Q (.ok (some row)) { s with seen := d }) ∧
      ((∀ row ∈ s.view d t, condition row = false) → Q (.ok none) { s with seen := d }) ∧
      Q (.error (.database .operational)) (s.interrupted d)) :
    R.wp (scalar t condition) s Q := by
  refine Rules.wp_select fun d hd => ?_
  obtain ⟨hsome, hnone, hfailed⟩ := h d hd
  refine ⟨?_, hfailed⟩
  cases hfind : (s.view d t).find? condition with
  | none =>
      refine hnone fun row hrow => ?_
      simpa using List.find?_eq_none.mp hfind row hrow
  | some row => exact hsome row (List.mem_of_find?_eq_some hfind) (List.find?_some hfind)

/-- The rule for a row that is required. -/
theorem wp_required {α : Type} {row : Option α} {Q : Except ServiceError α → Session schema → Prop}
    (hsome : ∀ a, row = some a → Q (.ok a) s) (hnone : row = none → Q (.error .notFound) s) :
    R.wp (required row) s Q := by
  cases row with
  | none => exact hnone rfl
  | some a => exact hsome a rfl

/-- The rule for a row of the tenant that is required. -/
theorem wp_require_owned {t : Table} {context : TenantContext} {id : Uuid}
    {Q : Except ServiceError t.Row → Session schema → Prop}
    (h : ∀ d, R.Relies s d →
      (∀ row ∈ s.view d t, rowId row = id → rowTenant row = context.tenantId →
        Q (.ok row) { s with seen := d }) ∧
      ((∀ row ∈ s.view d t, rowId row = id → rowTenant row ≠ context.tenantId) →
        Q (.error .notFound) { s with seen := d }) ∧
      Q (.error (.database .operational)) (s.interrupted d)) :
    R.wp (requireOwned t context id) s Q := by
  refine each_bind (wp_scalar fun d hd => ?_)
  obtain ⟨hsome, hnone, hfailed⟩ := h d hd
  refine ⟨fun row hrow hcondition => ?_, fun habsent => ?_, hfailed⟩
  · simp only [Bool.and_eq_true, decide_eq_true_eq] at hcondition
    exact hsome row hrow hcondition.1 hcondition.2
  · refine hnone fun row hrow hid htenant => ?_
    have hfalse := habsent row hrow
    simp [hid, htenant] at hfalse

/-- The rule for a fresh identifier. -/
theorem wp_uuid4 {Q : Except ServiceError Uuid → Session schema → Prop}
    (h : ∀ d, R.Relies s d → (∀ id, Q (.ok id) { s with drawn := s.drawn ++ [id], seen := d }) ∧
      Q (.error (.database .operational)) (s.interrupted d)) : R.wp uuid4 s Q :=
  Rules.wp_uuid4 h

/-- The rule for a commit. -/
theorem wp_commit {Q : Except ServiceError Unit → Session schema → Prop}
    (h : ∀ d, R.Relies s d → Consistent (s.view d) →
      R.invariant (s.view d) ∧ R.evolves d (s.view d) ∧ Q (.ok ()) (s.committed d) ∧
      Q (.error (.database .operational)) (s.interrupted d)) : R.wp commit s Q :=
  Rules.wp_commit h

/-- The rule for an insertion into a table without pending writes. -/
theorem wp_insert {t : Table} {row : Nat → t.Row}
    {Q : Except ServiceError Unit → Session schema → Prop} (hfresh : ∀ w ∈ s.pending, t ≠ w.table)
    (h : ∀ d, R.Relies s d →
      (∀ time, Q (.ok ()) { s with pending := s.pending ++ [⟨t, none, row time⟩], seen := d }) ∧
      Q (.error (.database .integrity)) (s.refuse d) ∧
      Q (.error (.database .operational)) (s.interrupted d)) : R.wp (insert t row) s Q := by
  refine Rules.wp_insert hfresh fun d hd => ?_
  obtain ⟨hok, hrefused, hfailed⟩ := h d hd
  exact ⟨fun time _ => hok time, fun _ _ => hrefused, hfailed⟩

/-- An update by primary key of a row that a condition selects. -/
theorem wp_update {t : Table} {id : Uuid} {condition : t.Row → Bool} {set : Nat → t.Row → t.Row}
    {Q : Except ServiceError Bool → Session schema → Prop} (hfresh : ∀ w ∈ s.pending, t ≠ w.table)
    (hset : ∀ time row, rowId (set time row) = rowId row)
    (h : ∀ d, R.Relies s d →
      (∀ time, ∀ old ∈ d t, rowId old = id → condition old = true →
        Q (.ok true) { s with pending := s.pending ++ [⟨t, some old, set time old⟩], seen := d } ∧
        Q (.error (.database .integrity)) (s.refuse d)) ∧
      ((∀ row ∈ d t, rowId row = id → condition row = false) → Q (.ok false) { s with seen := d }) ∧
      Q (.error (.database .operational)) (s.interrupted d)) :
    R.wp (statement (.update t id condition set)) s Q := by
  refine Rules.wp_update hfresh hset fun d hd => ?_
  obtain ⟨hfound, habsent, hfailed⟩ := h d hd
  refine ⟨fun time old hold hid hcondition => ?_, habsent, hfailed⟩
  obtain ⟨hok, hrefused⟩ := hfound time old hold hid hcondition
  exact ⟨hok, fun _ => hrefused⟩

/-- The rule for an update of a row that has been loaded. -/
theorem wp_update_loaded {t : Table} {id : Uuid} {set : Nat → t.Row → t.Row}
    {Q : Except ServiceError Unit → Session schema → Prop} (hfresh : ∀ w ∈ s.pending, t ≠ w.table)
    (hset : ∀ time row, rowId (set time row) = rowId row)
    (h : ∀ d, R.Relies s d →
      (∀ time, ∀ old ∈ d t, rowId old = id →
        Q (.ok ()) { s with pending := s.pending ++ [⟨t, some old, set time old⟩], seen := d } ∧
        Q (.error (.database .integrity)) (s.refuse d)) ∧
      ((∀ row ∈ d t, rowId row ≠ id) → Q (.error .staleData) { s with seen := d }) ∧
      Q (.error (.database .operational)) (s.interrupted d)) :
    R.wp (updateLoaded t id set) s Q := by
  refine each_bind (wp_update hfresh hset fun d hd => ?_)
  obtain ⟨hfound, habsent, hfailed⟩ := h d hd
  refine ⟨fun time old hold hid _ => hfound time old hold hid, fun hnone => ?_, hfailed⟩
  · exact habsent fun row hrow hid => nomatch hnone row hrow hid

/-- A refresh of a row that has not disappeared. -/
theorem wp_refresh {t : Table} {id : Uuid} {Q : Except ServiceError t.Row → Session schema → Prop}
    (h : ∀ d, R.Relies s d →
      (∃ row ∈ s.view d t, rowId row = id) ∧
      (∀ row ∈ s.view d t, rowId row = id → Q (.ok row) { s with seen := d }) ∧
      Q (.error (.database .operational)) (s.interrupted d)) : R.wp (refresh t id) s Q := by
  refine each_bind (wp_scalar fun d hd => ?_)
  obtain ⟨⟨stored, hstored, hid⟩, hfound, hfailed⟩ := h d hd
  refine ⟨fun row hrow hcondition => ?_, fun habsent => ?_, hfailed⟩
  · exact hfound row hrow (by simpa using hcondition)
  · have hfalse := habsent stored hstored
    simp [hid] at hfalse

/-- `except IntegrityError`: the handler starts after a rollback. -/
theorem wp_on_integrity_error {α : Type} {body handler : Service α}
    {Q : Except ServiceError α → Session schema → Prop}
    (h : R.wp body s fun result s' => match result with
      | .error (.database .integrity) => ∀ d, R.Relies s' d →
          R.wp handler (s'.rolledBack d) Q ∧
            Q (.error (.database .operational)) (s'.interrupted d)
      | result => Q result s') : R.wp (onIntegrityError body handler) s Q := by
  refine each_handle (each_post h fun result s' hresult => ?_)
  match result, hresult with
  | .ok a, hQ => exact hQ
  | .error (.database .integrity), hhandler => exact each_bind (Rules.wp_rollback hhandler)
  | .error .notFound, hQ => exact hQ
  | .error .conflict, hQ => exact hQ
  | .error (.invalidStateTransition message), hQ => exact hQ
  | .error (.database .operational), hQ => exact hQ
  | .error .invalidRequest, hQ => exact hQ
  | .error .staleData, hQ => exact hQ

end GrowthOs.Db
