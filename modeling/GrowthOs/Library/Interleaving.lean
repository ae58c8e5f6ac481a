import GrowthOs.Library.Program
import Mathlib.Logic.Relation
import Mathlib.Data.List.Pairwise

/-!
# Interleaved sessions

Any number of clients run programs against one database, one statement at a time in any order. A
statement waits while it conflicts with a pending write of another client, and every statement may
fail.

The proof rules are those of a rely/guarantee calculus. `Rules` names an invariant of the committed
database and a preorder along which it evolves. `wp` is what a program needs so that each of its
commits keeps both whatever the other clients have committed in between, and `sound_of_reachable`
is the soundness theorem: a system whose programs meet their `wp` keeps the invariant in every
reachable state, and every client ends in its postcondition.
-/

namespace GrowthOs.Library

variable {S : Schema} {ε α β : Type}

/-- The pending writes of a transaction that the proof rules admit: at most one a table, and no
update changes a primary key. -/
structure Tidy (ws : List (Write S)) : Prop where
  tables : ws.Pairwise fun w w' => w.table ≠ w'.table
  idents : ∀ w ∈ ws, ∀ old ∈ w.old, S.ident old = S.ident w.new

/-- An invariant of the committed database and the preorder along which it evolves. -/
structure Rules (S : Schema) where
  invariant : Database S → Prop
  evolves : Database S → Database S → Prop
  refl : ∀ d, evolves d d
  trans : ∀ {d d' d''}, evolves d d' → evolves d' d'' → evolves d d''

namespace Rules

variable (R : Rules S)

/-- What a session can rely on at its next statement: the committed database has evolved, and its
pending writes still fit. -/
structure Relies (s : Session S) (d : Database S) : Prop where
  evolves : R.evolves s.seen d
  invariant : R.invariant d
  consistent : Consistent d
  stands : ∀ w ∈ s.pending, Stands d w
  tidy : Tidy s.pending

/-- What a session guarantees with a statement. -/
structure Guarantees (d : Database S) (s' : Session S) : Prop where
  invariant : R.invariant s'.seen
  evolves : R.evolves d s'.seen
  tidy : Tidy s'.pending

/-- Whatever the answer to the statement is, the session guarantees the rules. -/
def Steady (s : Session S) (d : Database S) (statement : Statement S β) : Prop :=
  ∀ answer s', s.Answers d statement answer s' → R.Guarantees d s'

/-- The program keeps the rules from the state `s` on and ends in `Q`. -/
abbrev wp (p : Program S ε α) (s : Session S) (Q : Except ε α → Session S → Prop) : Prop :=
  Each R.Relies (fun _ => True) R.Steady p s Q

end Rules

/-- Tidy writes are separate. -/
theorem separate_of_tidy {ws : List (Write S)} (h : Tidy ws) : Separate ws :=
  h.tables.imp fun hne => not_conflicts_of_table_ne hne

/-- No writes are tidy. -/
theorem tidy_nil : Tidy ([] : List (Write S)) := ⟨List.Pairwise.nil, by simp⟩

/-- A write to a table that the transaction has not written yet. -/
theorem tidy_concat {ws : List (Write S)} {w : Write S} (h : Tidy ws)
    (hfresh : ∀ w' ∈ ws, w.table ≠ w'.table) (hident : ∀ old ∈ w.old, S.ident old = S.ident w.new) :
    Tidy (ws ++ [w]) := by
  refine ⟨?_, ?_⟩
  · rw [List.pairwise_append]
    refine ⟨h.tables, List.pairwise_singleton _ _, fun w' hw' w'' hw'' => ?_⟩
    rw [List.mem_singleton] at hw''
    subst hw''
    exact (hfresh w' hw').symm
  · intro w' hw'
    rcases List.mem_append.mp hw' with hw' | hw'
    · exact h.idents w' hw'
    · rw [List.mem_singleton] at hw'
      subst hw'
      exact hident

/-- An admitted write to a table that the transaction has not written yet fits the committed
database. -/
theorem stands_of_admits {ws : List (Write S)} {w : Write S} {d : Database S}
    (hadmits : admits (applyAll ws d) w = true) (hfresh : ∀ w' ∈ ws, w.table ≠ w'.table)
    (hold : ∀ old ∈ w.old, old ∈ d w.table ∧ S.ident old = S.ident w.new) : Stands d w := by
  rw [admits, apply_all_of_not_written d hfresh] at hadmits
  simp only [Bool.and_eq_true, List.all_eq_true] at hadmits
  obtain ⟨⟨hcheck, hrows⟩, -⟩ := hadmits
  refine ⟨hcheck, hold, ?_, ?_⟩
  · intro hnone r hr heq
    have hrow := hrows r hr
    rw [if_pos heq, hnone] at hrow
    cases hrow
  · intro r hr hne
    have hrow := hrows r hr
    rw [if_neg hne] at hrow
    simpa using hrow

/-- The first write of a transaction. -/
theorem stands_of_admits_first {w : Write S} {d : Database S} (hadmits : admits d w = true)
    (hold : ∀ old ∈ w.old, old ∈ d w.table ∧ S.ident old = S.ident w.new) : Stands d w :=
  @stands_of_admits S [] w d hadmits (by simp) hold

namespace Rules

variable {R : Rules S} {fault : DbError → ε} {s : Session S} {Q : Except ε α → Session S → Prop}

/-- A statement that only answers: it leaves the committed database and the pending writes. -/
theorem Relies.guarantees {d : Database S} (hd : R.Relies s d) {s' : Session S}
    (hseen : s'.seen = d)
    (htidy : Tidy s'.pending) : R.Guarantees d s' :=
  ⟨hseen ▸ hd.invariant, hseen ▸ R.refl d, htidy⟩

/-- A program of one statement. Its answer and its failure have to meet the postcondition. -/
theorem wp_execute {statement : Statement S α}
    (h : ∀ d, R.Relies s d →
      (∀ value, R.Guarantees d (s.respond value d statement).2 ∧
        Q ((s.respond value d statement).1.mapError fault) (s.respond value d statement).2) ∧
      Q (.error (fault .operational)) (s.interrupted d)) :
    R.wp (.execute fault statement) s Q := by
  refine each_execute fun d hd => ?_
  obtain ⟨hrespond, habort⟩ := h d hd
  refine ⟨fun answer s' hanswer => ?_, fun answer s' hanswer _ => ?_⟩
  · cases hanswer with
    | respond value => exact (hrespond value).1
    | abort => exact hd.guarantees rfl tidy_nil
  · cases hanswer with
    | respond value => exact (hrespond value).2
    | abort => exact habort

/-- The rule for a fresh identifier. -/
theorem wp_uuid4 {Q : Except ε Nat → Session S → Prop}
    (h : ∀ d, R.Relies s d → (∀ id, Q (.ok id) { s with drawn := s.drawn ++ [id], seen := d }) ∧
      Q (.error (fault .operational)) (s.interrupted d)) :
    R.wp (.execute fault .uuid4) s Q :=
  wp_execute fun d hd => ⟨fun value => ⟨hd.guarantees rfl hd.tidy, (h d hd).1 value⟩, (h d hd).2⟩

/-- The rule for a query. -/
theorem wp_select {query : Database S → α}
    (h : ∀ d, R.Relies s d → Q (.ok (query (s.view d))) { s with seen := d } ∧
      Q (.error (fault .operational)) (s.interrupted d)) :
    R.wp (.execute fault (.select query)) s Q :=
  wp_execute fun d hd => ⟨fun _ => ⟨hd.guarantees rfl hd.tidy, (h d hd).1⟩, (h d hd).2⟩

/-- The rule for a rollback. -/
theorem wp_rollback {Q : Except ε Unit → Session S → Prop}
    (h : ∀ d, R.Relies s d → Q (.ok ()) (s.rolledBack d) ∧
      Q (.error (fault .operational)) (s.interrupted d)) :
    R.wp (.execute fault .rollback) s Q :=
  wp_execute fun d hd => ⟨fun _ => ⟨hd.guarantees rfl tidy_nil, (h d hd).1⟩, (h d hd).2⟩

/-- A commit has to keep the invariant and to evolve the database, whatever the database has become
in the meantime. -/
theorem wp_commit {Q : Except ε Unit → Session S → Prop}
    (h : ∀ d, R.Relies s d → Consistent (s.view d) →
      R.invariant (s.view d) ∧ R.evolves d (s.view d) ∧ Q (.ok ()) (s.committed d) ∧
      Q (.error (fault .operational)) (s.interrupted d)) :
    R.wp (.execute fault .commit) s Q := by
  refine wp_execute fun d hd => ?_
  have hconsistent : Consistent (s.view d) :=
    consistent_apply_all hd.consistent hd.stands (separate_of_tidy hd.tidy)
  obtain ⟨hinvariant, hevolves, hok, habort⟩ := h d hd hconsistent
  exact ⟨fun _ => ⟨⟨hinvariant, hevolves, tidy_nil⟩, hok⟩, habort⟩

/-- A write that a constraint may refuse. -/
theorem guarantees_write {d : Database S} (hd : R.Relies s d) {w : Write S} (answer : β)
    (hfresh : ∀ w' ∈ s.pending, w.table ≠ w'.table)
    (hident : ∀ old ∈ w.old, S.ident old = S.ident w.new) :
    R.Guarantees d (s.write d w answer).2 := by
  unfold Session.write
  split
  · exact hd.guarantees rfl (tidy_concat hd.tidy hfresh hident)
  · exact hd.guarantees rfl tidy_nil

/-- The rule for an insertion. -/
theorem wp_insert {Q : Except ε Unit → Session S → Prop} {t : S.Table} {row : Nat → S.Row t}
    (hfresh : ∀ w ∈ s.pending, t ≠ w.table)
    (h : ∀ d, R.Relies s d →
      (∀ time, admits (s.view d) ⟨t, none, row time⟩ = true →
        Q (.ok ()) { s with pending := s.pending ++ [⟨t, none, row time⟩], seen := d }) ∧
      (∀ time, admits (s.view d) ⟨t, none, row time⟩ = false →
        Q (.error (fault .integrity)) (s.refuse d)) ∧
      Q (.error (fault .operational)) (s.interrupted d)) :
    R.wp (.execute fault (.insert t row)) s Q := by
  refine wp_execute fun d hd => ?_
  obtain ⟨hok, hrefused, habort⟩ := h d hd
  refine ⟨fun time => ⟨guarantees_write hd () hfresh (by simp), ?_⟩, habort⟩
  rw [Session.respond_insert]
  cases hadmits : admits (s.view d) ⟨t, none, row time⟩ with
  | true =>
      rw [Session.write_of_admits () hadmits]
      exact hok time hadmits
  | false =>
      rw [Session.write_of_refused () hadmits]
      exact hrefused time hadmits

/-- An update of a row by its primary key, where `set` keeps the key. It finds the row in the
committed database, since the transaction has not written the table yet. -/
theorem wp_update {Q : Except ε Bool → Session S → Prop} {t : S.Table} {id : Nat}
    {condition : S.Row t → Bool} {set : Nat → S.Row t → S.Row t}
    (hfresh : ∀ w ∈ s.pending, t ≠ w.table) (hset : ∀ time r, S.ident (set time r) = S.ident r)
    (h : ∀ d, R.Relies s d →
      (∀ time, ∀ old ∈ d t, S.ident old = id → condition old = true →
        Q (.ok true) { s with pending := s.pending ++ [⟨t, some old, set time old⟩], seen := d } ∧
        (admits (s.view d) ⟨t, some old, set time old⟩ = false →
          Q (.error (fault .integrity)) (s.refuse d))) ∧
      ((∀ r ∈ d t, S.ident r = id → condition r = false) → Q (.ok false) { s with seen := d }) ∧
      Q (.error (fault .operational)) (s.interrupted d)) :
    R.wp (.execute fault (.update t id condition set)) s Q := by
  refine wp_execute fun d hd => ?_
  obtain ⟨hfound, hnone, habort⟩ := h d hd
  refine ⟨fun time => ?_, habort⟩
  have hview : s.view d t = d t := apply_all_of_not_written d hfresh
  cases hfind : (d t).find? fun r => S.ident r = id && condition r with
  | none =>
      rw [Session.respond_update_none _ set (by rwa [hview])]
      refine ⟨hd.guarantees rfl hd.tidy, hnone fun r hr hident => ?_⟩
      have hfalse := List.find?_eq_none.mp hfind r hr
      simpa [hident] using hfalse
  | some old =>
      have hmem := List.mem_of_find?_eq_some hfind
      have hcond := List.find?_some hfind
      simp only [Bool.and_eq_true, decide_eq_true_eq] at hcond
      obtain ⟨hok, hrefused⟩ := hfound time old hmem hcond.1 hcond.2
      rw [Session.respond_update_some _ set (by rwa [hview])]
      refine ⟨guarantees_write hd true hfresh (by simp [hset]), ?_⟩
      cases hadmits : admits (s.view d) ⟨t, some old, set time old⟩ with
      | true =>
          rw [Session.write_of_admits true hadmits]
          exact hok
      | false =>
          rw [Session.write_of_refused true hadmits]
          exact hrefused hadmits

/-- A program that keeps the rules can be aborted at every statement, so its postcondition already
holds of some end with the writes that are committed now. -/
theorem exists_of_wp {p : Program S ε α} (h : R.wp p s Q) {d : Database S} (hd : R.Relies s d) :
    ∃ result s', Q result s' ∧ s'.written = s.written ∧ R.evolves s'.seen d := by
  induction p generalizing s with
  | done result => exact ⟨result, s, h, rfl, hd.evolves⟩
  | perform statement next ih =>
      have hnext := (h d hd).2 _ _ .abort trivial
      obtain ⟨result, s', hQ, hwritten, hevolves⟩ :=
        ih _ hnext ⟨R.refl d, hd.invariant, hd.consistent, by simp [Session.interrupted], tidy_nil⟩
      exact ⟨result, s', hQ, hwritten, hevolves⟩

end Rules

section Commit

variable {R : Rules S} {s : Session S} {d : Database S}

/-- A written table holds, beside the written row, the rows with another primary key. -/
theorem mem_view_iff (hd : R.Relies s d) {w : Write S} (hw : w ∈ s.pending) {r : S.Row w.table} :
    r ∈ s.view d w.table ↔ r = w.new ∨ (r ∈ d w.table ∧ S.ident r ≠ S.ident w.new) := by
  rw [Session.view, apply_all_written d hd.tidy.tables hw]
  exact mem_rows_iff (hd.stands w hw)

/-- A table with an insertion has the new row at its end. -/
theorem view_insert (hd : R.Relies s d) {w : Write S} (hw : w ∈ s.pending) (hold : w.old = none) :
    s.view d w.table = d w.table ++ [w.new] := by
  rw [Session.view, apply_all_written d hd.tidy.tables hw, Write.rows, hold]

/-- A table that is not written keeps its rows. -/
theorem view_of_not_written {t : S.Table} (ht : ∀ w ∈ s.pending, t ≠ w.table) : s.view d t = d t :=
  apply_all_of_not_written d ht

end Commit

/-! ## Systems of clients -/

/-- A client: its request, the committed database when it arrived, the rest of its program, and its
session. -/
structure Client (S : Schema) (ε α R : Type) where
  request : R
  arrived : Database S
  program : Program S ε α
  session : Session S

/-- The committed database and the clients that have arrived. -/
structure System (S : Schema) (ε α R : Type) where
  committed : Database S
  clients : List (Client S ε α R)

/-- Two sessions do not wait for one another. -/
def Compatible (s s' : Session S) : Prop :=
  ∀ w ∈ s.pending, ∀ w' ∈ s'.pending, ¬ Conflicts w w'

/-- One step of the system: a client arrives, a client performs its next statement, or a session
whose program has ended is closed, which rolls back what it has not committed. -/
inductive Step {Req : Type} (serve : Req → Program S ε α) :
    System S ε α Req → System S ε α Req → Prop where
  | arrive {d : Database S} {clients : List (Client S ε α Req)} (request : Req) :
      Step serve ⟨d, clients⟩ ⟨d, clients ++ [⟨request, d, serve request, .start d⟩]⟩
  | act {d : Database S} {before after : List (Client S ε α Req)} {c : Client S ε α Req} {β : Type}
      {statement : Statement S β} {next : Except DbError β → Program S ε α}
      {answer : Except DbError β} {s' : Session S} (program : c.program = .perform statement next)
      (answers : c.session.Answers d statement answer s')
      (free : ∀ other ∈ before ++ after, Compatible s' other.session) :
      Step serve ⟨d, before ++ c :: after⟩
        ⟨s'.seen, before ++ { c with program := next answer, session := s' } :: after⟩
  | close {d : Database S} {before after : List (Client S ε α Req)} {c : Client S ε α Req}
      {result : Except ε α} (program : c.program = .done result) :
      Step serve ⟨d, before ++ c :: after⟩
        ⟨d, before ++ { c with session := { c.session with pending := [] } } :: after⟩

/-- The systems that some order of steps reaches from an initial database without clients. -/
def Reachable {Req : Type} (serve : Req → Program S ε α) (initial : Database S → Prop)
    (sys : System S ε α Req) : Prop :=
  ∃ d, initial d ∧ Relation.ReflTransGen (Step serve) ⟨d, []⟩ sys

/-- A property of a client that its own steps preserve holds of every client. The steps of the
others do not change it. -/
theorem client_of_steps {Req : Type} {serve : Req → Program S ε α} {P : Client S ε α Req → Prop}
    (harrive : ∀ request d, P ⟨request, d, serve request, .start d⟩)
    (hact : ∀ (c : Client S ε α Req) (d : Database S) {β : Type} (statement : Statement S β)
      (next : Except DbError β → Program S ε α) (answer : Except DbError β) (s' : Session S),
      c.program = .perform statement next → c.session.Answers d statement answer s' → P c →
      P { c with program := next answer, session := s' })
    (hclose : ∀ (c : Client S ε α Req) (result : Except ε α), c.program = .done result → P c →
      P { c with session := { c.session with pending := [] } })
    {sys sys' : System S ε α Req} (hsteps : Relation.ReflTransGen (Step serve) sys sys')
    (h : ∀ c ∈ sys.clients, P c) : ∀ c ∈ sys'.clients, P c := by
  induction hsteps with
  | refl => exact h
  | tail _ hstep ih =>
      cases hstep with
      | arrive request =>
          intro c hc
          rcases List.mem_append.mp hc with hc | hc
          · exact ih c hc
          · obtain rfl := List.mem_singleton.mp hc
            exact harrive request _
      | @act d before after c β statement next answer s' program answers free =>
          intro c' hc'
          have hcase : c' ∈ before ++ after ∨
              c' = { c with program := next answer, session := s' } := by
            simp only [List.mem_append, List.mem_cons] at hc' ⊢
            tauto
          rcases hcase with hc' | rfl
          · refine ih c' ?_
            simp only [List.mem_append, List.mem_cons] at hc' ⊢
            tauto
          · exact hact c d statement next answer s' program answers (ih c (by simp))
      | @close d before after c result program =>
          intro c' hc'
          have hcase : c' ∈ before ++ after ∨
              c' = { c with session := { c.session with pending := [] } } := by
            simp only [List.mem_append, List.mem_cons] at hc' ⊢
            tauto
          rcases hcase with hc' | rfl
          · refine ih c' ?_
            simp only [List.mem_append, List.mem_cons] at hc' ⊢
            tauto
          · exact hclose c result program (ih c (by simp))

/-- The clients that arrive in a run arrive at the committed databases of that run. -/
theorem arrived_of_steps {Req : Type} {serve : Req → Program S ε α} {P : Database S → Prop}
    {sys sys' : System S ε α Req} (hsteps : Relation.ReflTransGen (Step serve) sys sys')
    (h : ∀ sys'' : System S ε α Req, Relation.ReflTransGen (Step serve) sys sys'' →
      P sys''.committed) :
    ∃ later : List (Database S), sys'.clients.map (·.arrived) =
      sys.clients.map (·.arrived) ++ later ∧ ∀ d ∈ later, P d := by
  induction hsteps with
  | refl => exact ⟨[], by simp, by simp⟩
  | tail hbefore hstep ih =>
      obtain ⟨later, hlater, hP⟩ := ih
      cases hstep with
      | @arrive d clients request =>
          refine ⟨later ++ [d], ?_, ?_⟩
          · rw [List.map_append, hlater]
            simp
          · intro d' hd'
            rcases List.mem_append.mp hd' with hd' | hd'
            · exact hP d' hd'
            · obtain rfl := List.mem_singleton.mp hd'
              exact h _ hbefore
      | act => exact ⟨later, by simpa using hlater, hP⟩
      | close => exact ⟨later, by simpa using hlater, hP⟩

/-- A client that has arrived in a run. -/
theorem arrived_of_drop {Req : Type} {serve : Req → Program S ε α} {P : Database S → Prop}
    {sys sys' : System S ε α Req} (hsteps : Relation.ReflTransGen (Step serve) sys sys')
    (h : ∀ sys'' : System S ε α Req, Relation.ReflTransGen (Step serve) sys sys'' →
      P sys''.committed) {c : Client S ε α Req}
    (hc : c ∈ sys'.clients.drop sys.clients.length) : P c.arrived := by
  obtain ⟨later, hlater, hP⟩ := arrived_of_steps hsteps h
  have hmem : c.arrived ∈ (sys'.clients.map (·.arrived)).drop sys.clients.length := by
    rw [← List.map_drop]
    exact List.mem_map_of_mem hc
  rw [hlater, List.drop_left' (by simp)] at hmem
  exact hP _ hmem

section Soundness

variable {Req : Type} (R : Rules S) (serve : Req → Program S ε α)
  (Post : Req → Database S → Except ε α → Session S → Prop)

/-- Every program meets its `wp` when it arrives, and the postcondition does not depend on pending
writes. -/
structure Serves : Prop where
  start : ∀ request d, R.invariant d → R.wp (serve request) (.start d) (Post request d)
  close : ∀ request d result s, Post request d result s →
    Post request d result { s with pending := [] }

/-- What holds of a client while the committed database is `d`. -/
structure ClientSound (d : Database S) (c : Client S ε α Req) : Prop where
  evolves : R.evolves c.session.seen d
  tidy : Tidy c.session.pending
  stands : ∀ w ∈ c.session.pending, Stands d w
  safe : R.wp c.program c.session (Post c.request c.arrived)

/-- What holds of a reachable system. -/
structure Sound (sys : System S ε α Req) : Prop where
  invariant : R.invariant sys.committed
  consistent : Consistent sys.committed
  clients : ∀ c ∈ sys.clients, ClientSound R Post sys.committed c
  separate : sys.clients.Pairwise fun c c' => Compatible c.session c'.session

variable {R serve Post}

/-- Two sessions are compatible with each other. -/
theorem compatible_symm {s s' : Session S} (h : Compatible s s') : Compatible s' s :=
  fun w hw w' hw' hconflict => h w' hw' w hw (conflicts_symm hconflict)

/-- A session without pending writes is compatible with every other. -/
theorem compatible_nil {s s' : Session S} (h : s.pending = []) : Compatible s s' := by
  intro w hw
  rw [h] at hw
  cases hw

/-- The pairwise condition with one client in front. -/
theorem separate_iff {before after : List (Client S ε α Req)} {c : Client S ε α Req} :
    (before ++ c :: after).Pairwise (fun c c' => Compatible c.session c'.session) ↔
      (∀ other ∈ before ++ after, Compatible c.session other.session) ∧
        (before ++ after).Pairwise (fun c c' => Compatible c.session c'.session) := by
  rw [List.pairwise_middle fun h => compatible_symm h, List.pairwise_cons]

/-- What a step of one client preserves of that client and of the committed database. -/
theorem client_sound_act {d : Database S} (hinvariant : R.invariant d) (hd : Consistent d)
    {c : Client S ε α Req} (hc : ClientSound R Post d c) {β : Type} {statement : Statement S β}
    {next : Except DbError β → Program S ε α} {answer : Except DbError β} {s' : Session S}
    (hprogram : c.program = .perform statement next)
    (hanswers : c.session.Answers d statement answer s') :
    R.invariant s'.seen ∧ R.evolves d s'.seen ∧ Consistent s'.seen ∧
      ClientSound R Post s'.seen { c with program := next answer, session := s' } := by
  obtain ⟨hevolves, htidy, hstands, hsafe⟩ := hc
  rw [hprogram] at hsafe
  obtain ⟨hsteady, hafter⟩ := hsafe d ⟨hevolves, hinvariant, hd, hstands, htidy⟩
  have hguarantees := hsteady answer s' hanswers
  have hnext := hafter answer s' hanswers trivial
  have hkeeps : Consistent s'.seen ∧ ∀ w ∈ s'.pending, Stands s'.seen w := by
    have hpending := hguarantees.tidy
    cases Session.effect_of_answers hanswers with
    | keeps drawn => exact ⟨hd, hstands⟩
    | drops refused failed => exact ⟨hd, by simp⟩
    | commits =>
        exact ⟨consistent_apply_all hd hstands (separate_of_tidy htidy), by simp
          [Session.committed]⟩
    | writes w admitted replaces =>
        refine ⟨hd, fun w' hw' => ?_⟩
        rcases List.mem_append.mp hw' with hw' | hw'
        · exact hstands w' hw'
        · obtain rfl := List.mem_singleton.mp hw'
          have hfresh : ∀ w'' ∈ c.session.pending, w'.table ≠ w''.table := fun w'' hw'' =>
            ((List.pairwise_append.mp hpending.tables).2.2 w'' hw'' w' (by simp)).symm
          refine stands_of_admits admitted hfresh fun old hold => ⟨?_, ?_⟩
          · show old ∈ d w'.table
            rw [← apply_all_of_not_written d hfresh]
            exact replaces old hold
          · exact hpending.idents w' (by simp) old hold
  exact ⟨hguarantees.invariant, hguarantees.evolves, hkeeps.1,
    ⟨R.refl _, hguarantees.tidy, hkeeps.2, hnext⟩⟩

/-- A step of one client preserves what holds of another one. -/
theorem client_sound_other {d : Database S} {s s' : Session S} (heffect : s.Effect d s')
    (hstands : ∀ w ∈ s.pending, Stands d w) (htidy : Tidy s.pending)
    (hevolves : R.evolves d s'.seen) {c : Client S ε α Req} (hc : ClientSound R Post d c)
    (hfree : Compatible s c.session) : ClientSound R Post s'.seen c := by
  refine ⟨R.trans hc.evolves hevolves, hc.tidy, ?_, hc.safe⟩
  cases heffect with
  | commits =>
      exact fun w hw => stands_apply_all (hc.stands w hw) hstands (separate_of_tidy htidy)
        fun w' hw' hconflict => hfree w' hw' w hw (conflicts_symm hconflict)
  | _ => exact hc.stands

/-- One step of the system keeps everything and evolves the committed database. -/
theorem sound_step (hserves : Serves R serve Post) {sys sys' : System S ε α Req}
    (h : Sound R Post sys) (hstep : Step serve sys sys') :
    Sound R Post sys' ∧ R.evolves sys.committed sys'.committed := by
  obtain ⟨hinvariant, hconsistent, hclients, hseparate⟩ := h
  cases hstep with
  | @arrive d clients request =>
      refine ⟨⟨hinvariant, hconsistent, ?_, ?_⟩, R.refl d⟩
      · intro c hc
        rcases List.mem_append.mp hc with hc | hc
        · exact hclients c hc
        · obtain rfl := List.mem_singleton.mp hc
          exact ⟨R.refl d, tidy_nil, by simp [Session.start], hserves.start request d hinvariant⟩
      · rw [List.pairwise_append]
        refine ⟨hseparate, List.pairwise_singleton _ _, fun c _ c' hc' => ?_⟩
        obtain rfl := List.mem_singleton.mp hc'
        exact compatible_symm (compatible_nil rfl)
  | @act d before after c β statement next answer s' program answers free =>
      have hc := hclients c (by simp)
      obtain ⟨hfree, hrest⟩ := separate_iff.mp hseparate
      obtain ⟨hinvariant', hevolves, hconsistent', hc'⟩ :=
        client_sound_act hinvariant hconsistent hc program answers
      refine ⟨⟨hinvariant', hconsistent', ?_, separate_iff.mpr ⟨free, hrest⟩⟩, hevolves⟩
      intro other hother
      have hcase : other ∈ before ++ after ∨
          other = { c with program := next answer, session := s' } := by
        simp only [List.mem_append, List.mem_cons] at hother ⊢
        tauto
      rcases hcase with hother | rfl
      · have hmem : other ∈ before ++ c :: after := by
          simp only [List.mem_append, List.mem_cons] at hother ⊢
          tauto
        exact client_sound_other (Session.effect_of_answers answers) hc.stands hc.tidy hevolves
          (hclients other hmem) (hfree other hother)
      · exact hc'
  | @close d before after c result program =>
      obtain ⟨-, hrest⟩ := separate_iff.mp hseparate
      refine ⟨⟨hinvariant, hconsistent, ?_, separate_iff.mpr ⟨fun _ _ =>
        compatible_nil rfl, hrest⟩⟩, R.refl d⟩
      intro other hother
      have hcase : other ∈ before ++ c :: after ∨
          other = { c with session := { c.session with pending := [] } } := by
        simp only [List.mem_append, List.mem_cons] at hother ⊢
        tauto
      rcases hcase with hother | rfl
      · exact hclients other hother
      · obtain ⟨hevolves, -, -, hsafe⟩ := hclients c (by simp)
        refine ⟨hevolves, tidy_nil, by simp, ?_⟩
        rw [program] at hsafe ⊢
        exact hserves.close _ _ _ _ hsafe

/-- Every run from a sound system stays sound and evolves the committed database. -/
theorem sound_of_steps (hserves : Serves R serve Post) {sys sys' : System S ε α Req}
    (h : Sound R Post sys) (hsteps : Relation.ReflTransGen (Step serve) sys sys') :
    Sound R Post sys' ∧ R.evolves sys.committed sys'.committed := by
  induction hsteps with
  | refl => exact ⟨h, R.refl _⟩
  | tail _ hstep ih =>
      obtain ⟨hsound, hevolves⟩ := ih
      obtain ⟨hsound', hevolves'⟩ := sound_step hserves hsound hstep
      exact ⟨hsound', R.trans hevolves hevolves'⟩

/-- Every reachable system is sound. -/
theorem sound_of_reachable (hserves : Serves R serve Post) {initial : Database S → Prop}
    (hinitial : ∀ d, initial d → R.invariant d ∧ Consistent d) {sys : System S ε α Req}
    (h : Reachable serve initial sys) : Sound R Post sys := by
  obtain ⟨d, hd, hsteps⟩ := h
  obtain ⟨hinvariant, hconsistent⟩ := hinitial d hd
  have hstart : Sound R Post (⟨d, []⟩ : System S ε α Req) :=
    ⟨hinvariant, hconsistent, by simp, List.Pairwise.nil⟩
  exact (sound_of_steps hserves hstart hsteps).1

/-- What a client in a reachable system has committed, whether or not its program has ended. -/
theorem exists_post_of_sound {sys : System S ε α Req} (h : Sound R Post sys)
    {c : Client S ε α Req} (hc : c ∈ sys.clients) :
    ∃ result s, Post c.request c.arrived result s ∧ s.written = c.session.written ∧
      R.evolves s.seen sys.committed := by
  obtain ⟨hevolves, htidy, hstands, hsafe⟩ := h.clients c hc
  exact Rules.exists_of_wp hsafe ⟨hevolves, h.invariant, h.consistent, hstands, htidy⟩

/-- A client whose program has ended meets its postcondition. -/
theorem post_of_sound {sys : System S ε α Req} (h : Sound R Post sys) {c : Client S ε α Req}
    (hc : c ∈ sys.clients) {result : Except ε α} (hdone : c.program = .done result) :
    Post c.request c.arrived result c.session := by
  have hsafe := (h.clients c hc).safe
  rw [hdone] at hsafe
  exact hsafe

end Soundness

/-- The rows that writes insert into a table. -/
def inserted (t : S.Table) (ws : List (Write S)) : List (S.Row t) :=
  ws.filterMap fun w => if h : w.table = t then some (h ▸ w.new) else none

/-- The rows that two lists of writes insert. -/
theorem inserted_append (t : S.Table) (ws ws' : List (Write S)) :
    inserted t (ws ++ ws') = inserted t ws ++ inserted t ws' :=
  List.filterMap_append

/-- A transaction without updates of a table appends the rows that it inserts. -/
theorem apply_all_inserted {ws : List (Write S)} {t : S.Table} (d : Database S)
    (h : ∀ w ∈ ws, w.table = t → w.old = none) : applyAll ws d t = d t ++ inserted t ws := by
  induction ws generalizing d with
  | nil => simp [inserted]
  | cons w ws ih =>
      rw [apply_all_cons, ih _ fun w' hw' => h w' (by simp [hw'])]
      by_cases ht : w.table = t
      · subst ht
        rw [apply_self, Write.rows, h w (by simp) rfl]
        simp [inserted]
      · rw [apply_of_ne d fun heq => ht heq.symm]
        simp [inserted, ht]

/-- A table that no client updates holds, beside its initial rows, what the clients have
inserted. -/
theorem committed_perm {Req : Type} {serve : Req → Program S ε α} {d : Database S}
    {sys : System S ε α Req} (hsteps : Relation.ReflTransGen (Step serve) ⟨d, []⟩ sys) {t : S.Table}
    (hinserts : ∀ sys' : System S ε α Req, Relation.ReflTransGen (Step serve) ⟨d, []⟩ sys' →
      ∀ c ∈ sys'.clients, ∀ w ∈ c.session.written, w.table = t → w.old = none) :
    (sys.committed t).Perm
      (d t ++ sys.clients.flatMap fun c => inserted t c.session.written) := by
  induction hsteps with
  | refl => simp
  | tail hbefore hstep ih =>
      have hafter := hinserts _ (hbefore.tail hstep)
      cases hstep with
      | arrive request => simpa [Session.start, inserted] using ih
      | @act d' before after c β statement next answer s' program answers free =>
          cases Session.effect_of_answers answers with
          | keeps drawn => simpa using ih
          | drops refused failed => simpa using ih
          | writes w admitted replaces => simpa using ih
          | commits =>
              have hpending : ∀ w ∈ c.session.pending, w.table = t → w.old = none := fun w hw =>
                hafter { c with program := next answer, session := c.session.committed d' }
                  (by simp) w (by simp [Session.committed, hw])
              show (applyAll c.session.pending d' t).Perm _
              rw [apply_all_inserted d' hpending]
              simp only [Session.committed, List.flatMap_append, List.flatMap_cons,
                inserted_append] at ih ⊢
              refine (ih.append_right _).trans ?_
              simp only [List.append_assoc]
              refine List.Perm.append_left _ (List.Perm.append_left _ (List.Perm.append_left _ ?_))
              exact List.perm_append_comm
      | close program => simpa using ih

end GrowthOs.Library
