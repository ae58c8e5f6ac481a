import GrowthOs.Db.Queries
import GrowthOs.Library.Pages
import GrowthOs.Library.Sequential

/-!
# What reads return

A service that only reads, on a database that does not change. `Reads` says what it returns unless
the connection fails at a statement, and `PageLaw` what a list operation returns at every limit and
offset.
-/

namespace GrowthOs.Db

open Library

variable {α β : Type} {d : Database schema}

/-- The run of a service ends in `Q`, unless its connection has failed at a statement: then it
raises the failure. -/
def Within (Q : Except ServiceError α → Prop) (result : Except ServiceError α)
    (s : Session schema) : Prop :=
  if s.failed then result = .error (.database .operational) else Q result

/-- On the database `d`, the service returns or raises something in `Q`, unless the connection
fails. -/
def Reads (d : Database schema) (p : Service α) (Q : Except ServiceError α → Prop) : Prop :=
  ∀ s : Session schema, s.pending = [] → s.seen = d → s.failed = false → Alone p s fun result s' =>
    s'.pending = [] ∧ s'.seen = d ∧ Within Q result s'

/-- A session whose connection has not failed. -/
theorem within_of_not_failed {Q : Except ServiceError α → Prop} {result : Except ServiceError α}
    {s : Session schema} (hs : s.failed = false) (h : Q result) : Within Q result s := by
  unfold Within
  rw [if_neg (by simp [hs])]
  exact h

/-- A weaker condition on the result. -/
theorem within_mono {Q Q' : Except ServiceError α → Prop} {result : Except ServiceError α}
    {s : Session schema} (h : Within Q result s) (hQ : Q result → Q' result) :
    Within Q' result s := by
  unfold Within at h ⊢
  split
  · rw [if_pos ‹_›] at h
    exact h
  · rw [if_neg ‹_›] at h
    exact hQ h

/-- What a service returns, with a weaker condition. -/
theorem reads_post {p : Service α} {Q Q' : Except ServiceError α → Prop} (h : Reads d p Q)
    (hQ : ∀ result, Q result → Q' result) : Reads d p Q' :=
  fun s hpending hseen hs => each_post (h s hpending hseen hs) fun _ _ hresult =>
    ⟨hresult.1, hresult.2.1, within_mono hresult.2.2 (hQ _)⟩

/-- A query returns its value on the database. -/
theorem reads_select (query : Database schema → α) :
    Reads d (statement (.select query)) (· = .ok (query d)) := by
  intro s hpending hseen hs
  have hview : s.view s.seen = d := by
    unfold Session.view
    rw [hpending, applyAll, List.foldl_nil, hseen]
  refine alone_execute (fun value => ⟨hpending, hseen, within_of_not_failed hs ?_⟩)
    ⟨rfl, hseen, rfl⟩
  exact congrArg Except.ok (congrArg query hview)

/-- A value. -/
theorem reads_pure (a : α) : Reads d (pure a : Service α) (· = .ok a) :=
  fun _ hpending hseen hs => ⟨hpending, hseen, within_of_not_failed hs rfl⟩

/-- An error. -/
theorem reads_raise (e : ServiceError) : Reads d (.raise e : Service α) (· = .error e) :=
  fun _ hpending hseen hs => ⟨hpending, hseen, within_of_not_failed hs rfl⟩

/-- What the second service returns on the value of the first. -/
theorem reads_bind {p : Service β} {f : β → Service α} {P : Except ServiceError β → Prop}
    {Q : Except ServiceError α → Prop} (h : Reads d p P)
    (hok : ∀ b, P (.ok b) → Reads d (f b) Q) (herror : ∀ e, P (.error e) → Q (.error e)) :
    Reads d (p >>= f) Q := by
  intro s hpending hseen hs
  refine each_bind (each_post (h s hpending hseen hs) fun result s' hresult => ?_)
  obtain ⟨hpending', hseen', hresult⟩ := hresult
  unfold Within at hresult
  cases hfailed : s'.failed with
  | true =>
      rw [if_pos hfailed] at hresult
      subst hresult
      refine ⟨hpending', hseen', ?_⟩
      unfold Within
      rw [if_pos hfailed]
  | false =>
      rw [if_neg (by simp [hfailed])] at hresult
      cases result with
      | ok b => exact hok b hresult s' hpending' hseen' hfailed
      | error e => exact ⟨hpending', hseen', within_of_not_failed hfailed (herror e hresult)⟩

/-- A run of the service on the database. -/
theorem run_of_reads {p : Service α} {Q : Except ServiceError α → Prop} (h : Reads d p Q)
    (supply : Supply) (n : Nat) :
    Within Q (p.run supply n (.start d)).1 (p.run supply n (.start d)).2.1 :=
  (run_of_alone (h (.start d) rfl rfl rfl) supply n).2.2

/-- A run whose connection never fails. -/
theorem run_of_reads_unfailing {p : Service α} {Q : Except ServiceError α → Prop} (h : Reads d p Q)
    {supply : Supply} (hsupply : ∀ m, supply.fails m = false) (n : Nat) :
    Q (p.run supply n (.start d)).1 := by
  have hwithin := run_of_reads h supply n
  unfold Within at hwithin
  rw [run_not_failed hsupply p n (.start d), if_neg (by simp [Session.start])] at hwithin
  exact hwithin

/-- The tenant owns the row. -/
def Owns (d : Database schema) (t : Table) (context : TenantContext) (id : Uuid) : Prop :=
  ∃ row ∈ d t, rowId row = id ∧ rowTenant row = context.tenantId

/-- A required row is found exactly when the tenant owns it. -/
theorem reads_require_owned (t : Table) (context : TenantContext) (id : Uuid) :
    Reads d (requireOwned t context id) fun result =>
      (Owns d t context id ∧ ∃ row, result = .ok row) ∨
        (¬ Owns d t context id ∧ result = .error .notFound) := by
  refine reads_bind (reads_select _) (fun row hrow => ?_) (fun e he => nomatch he)
  have hrow := Except.ok.inj hrow
  cases row with
  | some row =>
      refine reads_post (reads_pure row) fun result hresult => .inl ⟨?_, row, hresult⟩
      have hmem := List.mem_of_find?_eq_some hrow.symm
      have hcondition := List.find?_some hrow.symm
      simp only [Bool.and_eq_true, decide_eq_true_eq] at hcondition
      exact ⟨row, hmem, hcondition⟩
  | none =>
      refine reads_post (reads_raise .notFound) fun result hresult => .inr ⟨?_, hresult⟩
      rintro ⟨row, hmem, hid, htenant⟩
      have hfalse := List.find?_eq_none.mp hrow.symm row hmem
      simp [hid, htenant] at hfalse

/-! ## Pages -/

/-- The rows of a table with a condition. -/
def matching (d : Database schema) {t : Table} (condition : t.Row → Bool) : List t.Row :=
  (d t).filter condition

/-- The order of the pages: a key, and the primary key where it is the same. -/
def RowOrder {t : Table} (key : t.Row → Int) : t.Row → t.Row → Prop := byKeys key rowId

/-- What a list operation answers: unless it is refused, the part of the matching rows in their
order that the limit and the offset say, with the number of all matching rows. `project` is the row
of an item. -/
def IsPage {t : Table} (d : Database schema) (condition : t.Row → Bool) (key : t.Row → Int)
    (project : α → t.Row) (refused : Prop) (request : PageRequest)
    (result : Except ServiceError (List α × Nat)) : Prop :=
  (refused ∧ result = .error .notFound) ∨
    ¬ refused ∧ ∃ items, result = .ok (items, (matching d condition).length) ∧
      ∀ rows, Arranged (RowOrder key) (matching d condition) rows →
        items.map project = pageOf rows request.limit request.offset

/-- A list operation: every answer of it is its page, unless the connection fails at a statement,
and the pages of one size that are read without a failure go through the matching rows once. -/
structure PageLaw {t : Table} (d : Database schema) (condition : t.Row → Bool) (key : t.Row → Int)
    (project : α → t.Row) (refused : Prop) (operation : PageRequest → Service (List α × Nat)) :
    Prop where
  page : ∀ request supply n, Within (IsPage d condition key project refused request)
    ((operation request).run supply n (.start d)).1
    ((operation request).run supply n (.start d)).2.1
  pages : ¬ refused → ∀ size (supply : Nat → Supply) (start : Nat → Nat),
    (∀ k m, (supply k).fails m = false) → ∃ answers : Nat → List α × Nat,
      (∀ k, ((operation ⟨size, k * size⟩).run (supply k) (start k) (.start d)).1 =
        .ok (answers k)) ∧
      ∀ count, (matching d condition).length ≤ count * size →
        Arranged (RowOrder key) (matching d condition)
          (((List.range count).flatMap fun k => (answers k).1).map project)

/-- Sorting arranges the matching rows. -/
theorem arranged_order_by {t : Table} {key : t.Row → Int} (hd : Consistent d)
    (condition : t.Row → Bool) :
    Arranged (RowOrder key) (matching d condition) (orderBy key (matching d condition)) :=
  arranged_merge_sort ((hd t).nodup.sublist (List.filter_sublist.map _))

/-- The page law from what one page returns. -/
theorem page_law_of_reads {t : Table} {condition : t.Row → Bool} {key : t.Row → Int}
    {project : α → t.Row} {refused : Prop} {operation : PageRequest → Service (List α × Nat)}
    (hd : Consistent d)
    (h : ∀ request, Reads d (operation request) fun result =>
      (refused ∧ result = .error .notFound) ∨ ¬ refused ∧ ∃ items,
        result = .ok (items, (matching d condition).length) ∧ items.map project =
          pageOf (orderBy key (matching d condition)) request.limit request.offset) :
    PageLaw d condition key project refused operation := by
  have harranged : Arranged (RowOrder key) (matching d condition)
      (orderBy key (matching d condition)) := arranged_order_by hd condition
  have hasymm : ∀ a b : t.Row, RowOrder key a b → ¬ RowOrder key b a := by_keys_asymm
  refine ⟨fun request supply n => ?_, fun haccepted size supply start hsupply => ?_⟩
  · refine within_mono (run_of_reads (h request) supply n) (Or.imp id fun hpage => ?_)
    obtain ⟨haccepted, items, hresult, hitems⟩ := hpage
    refine ⟨haccepted, items, hresult, fun rows hrows => ?_⟩
    rw [hitems, arranged_unique hasymm hrows harranged]
  · have hpage : ∀ k, ∃ items,
      ((operation ⟨size, k * size⟩).run (supply k) (start k) (.start d)).1 =
        .ok (items, (matching d condition).length) ∧ items.map project =
          pageOf (orderBy key (matching d condition)) size (k * size) := by
      intro k
      rcases run_of_reads_unfailing (h ⟨size, k * size⟩) (hsupply k) (start k) with hrefused | hpage
      · exact absurd hrefused.1 haccepted
      · exact hpage.2
    choose items hanswers hitems using hpage
    refine ⟨fun k => (items k, (matching d condition).length), hanswers, fun count hcount => ?_⟩
    rw [List.map_flatMap, List.flatMap_congr fun k _ => hitems k, pages_flatten]
    · exact harranged
    · rw [harranged.perm.length_eq]
      exact hcount

/-- One page of a table. -/
theorem reads_list_page (t : Table) (condition : t.Row → Bool) (key : t.Row → Int)
    (page : PageRequest) : Reads d (listPage t condition key page) fun result =>
      result = .ok (pageOf (orderBy key (matching d condition)) page.limit page.offset,
        (matching d condition).length) := by
  refine reads_bind (reads_select _) (fun items hitems => ?_) (fun e he => nomatch he)
  refine reads_bind (reads_select _) (fun total htotal => ?_) (fun e he => nomatch he)
  refine reads_post (reads_pure _) fun result hresult => ?_
  rw [hresult, Except.ok.inj hitems, Except.ok.inj htotal]
  rfl

end GrowthOs.Db
