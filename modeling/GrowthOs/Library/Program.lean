import GrowthOs.Library.Relational

/-!
# Programs over a database session

A program issues statements one at a time and continues with the answer to each. `respond` is the
answer of a database with read-committed isolation to one statement of a session: reads see the
committed rows and the session's own pending writes, and a statement that a constraint refuses
rolls the transaction back.

A session also remembers what the results speak about: the writes it has committed, the
identifiers it has drawn, the databases at which a statement of it was refused, whether its
connection has failed, and the database at its last statement.

`Each` states a property of every statement of a program.
-/

namespace GrowthOs.Library

/-- Why a statement raises. -/
inductive DbError where
  | integrity
  | operational
  deriving DecidableEq, Repr

/-- The statements of a session. `uuid4` draws a random identifier. The row that `insert` or
`update` writes depends on the clock of the database. `update` names a row by its primary key and
a condition, and answers whether it was there. -/
inductive Statement (S : Schema) : Type → Type 1 where
  | uuid4 : Statement S Nat
  | select {β : Type} (query : Database S → β) : Statement S β
  | insert (t : S.Table) (row : Nat → S.Row t) : Statement S Unit
  | update (t : S.Table) (id : Nat) (condition : S.Row t → Bool)
      (set : Nat → S.Row t → S.Row t) : Statement S Bool
  | commit : Statement S Unit
  | rollback : Statement S Unit

/-- A program that raises `ε` or returns `α`. -/
inductive Program (S : Schema) (ε α : Type) : Type 1 where
  | done (result : Except ε α) : Program S ε α
  | perform {β : Type} (statement : Statement S β) (next : Except DbError β → Program S ε α) :
      Program S ε α

namespace Program

variable {S : Schema} {ε α β : Type}

/-- Run a second program on the value of the first. -/
def bind : Program S ε α → (α → Program S ε β) → Program S ε β
  | done (.ok a), f => f a
  | done (.error e), _ => done (.error e)
  | perform statement next, f => perform statement fun answer => (next answer).bind f

/-- `try … except`: run a handler on the exception of a program. -/
def handle : Program S ε α → (ε → Program S ε α) → Program S ε α
  | done (.ok a), _ => done (.ok a)
  | done (.error e), h => h e
  | perform statement next, h => perform statement fun answer => (next answer).handle h

/-- Raise an exception. -/
def raise (e : ε) : Program S ε α := done (.error e)

instance : Monad (Program S ε) where
  pure a := done (.ok a)
  bind := bind

/-- Issue one statement. -/
def execute (fault : DbError → ε) (statement : Statement S β) : Program S ε β :=
  perform statement fun
    | .ok answer => done (.ok answer)
    | .error e => done (.error (fault e))

end Program

/-- A database session. -/
structure Session (S : Schema) where
  /-- The writes of the open transaction. -/
  pending : List (Write S)
  /-- The writes that the session has committed. -/
  written : List (Write S)
  /-- The random identifiers that the session has drawn. -/
  drawn : List Nat
  /-- The committed databases at which a constraint refused a statement of the session. -/
  refused : List (Database S)
  /-- The connection has failed at a statement. -/
  failed : Bool
  /-- The committed database after the last statement of the session. -/
  seen : Database S

namespace Session

variable {S : Schema} {β : Type}

/-- A session before its first statement. -/
def start (d : Database S) : Session S := ⟨[], [], [], [], false, d⟩

/-- What the session reads. -/
def view (s : Session S) (d : Database S) : Database S := applyAll s.pending d

/-- The transaction is rolled back. -/
def rolledBack (s : Session S) (d : Database S) : Session S := { s with pending := [], seen := d }

/-- The connection failed, which rolls the transaction back. -/
def interrupted (s : Session S) (d : Database S) : Session S :=
  { s with pending := [], failed := true, seen := d }

/-- A constraint refused a statement. -/
def refuse (s : Session S) (d : Database S) : Session S :=
  { s with pending := [], refused := s.refused ++ [d], seen := d }

/-- The transaction is committed. -/
def committed (s : Session S) (d : Database S) : Session S :=
  { s with pending := [], written := s.written ++ s.pending, seen := s.view d }

/-- Write a row, unless a constraint refuses it. -/
def write (s : Session S) (d : Database S) (w : Write S) (answer : β) :
    Except DbError β × Session S :=
  if admits (s.view d) w then
    (.ok answer, { s with pending := s.pending ++ [w], seen := d })
  else (.error .integrity, s.refuse d)

/-- A write that is admitted becomes pending. -/
theorem write_of_admits {s : Session S} {d : Database S} {w : Write S} (answer : β)
    (h : admits (s.view d) w = true) :
    s.write d w answer = (.ok answer, { s with pending := s.pending ++ [w], seen := d }) :=
  if_pos h

/-- A write that is not is refused. -/
theorem write_of_refused {s : Session S} {d : Database S} {w : Write S} (answer : β)
    (h : admits (s.view d) w = false) :
    s.write d w answer = (.error .integrity, s.refuse d) :=
  if_neg (by simp [h])

/-- The answer to a statement at the committed database `d`. `value` is the next random identifier
or clock reading. -/
def respond (s : Session S) (value : Nat) (d : Database S) {β : Type} :
    Statement S β → Except DbError β × Session S
  | .uuid4 => (.ok value, { s with drawn := s.drawn ++ [value], seen := d })
  | .select query => (.ok (query (s.view d)), { s with seen := d })
  | .insert t row => s.write d ⟨t, none, row value⟩ ()
  | .update t id condition set =>
      match (s.view d t).find? fun r => S.ident r = id && condition r with
      | none => (.ok false, { s with seen := d })
      | some old => s.write d ⟨t, some old, set value old⟩ true
  | .commit => (.ok (), s.committed d)
  | .rollback => (.ok (), s.rolledBack d)

/-- An insertion writes its row. -/
theorem respond_insert (s : Session S) (value : Nat) (d : Database S) {t : S.Table}
    (row : Nat → S.Row t) :
    s.respond value d (.insert t row) = s.write d ⟨t, none, row value⟩ () := rfl

/-- An update without a row writes nothing. -/
theorem respond_update_none {s : Session S} (value : Nat) {d : Database S} {t : S.Table} {id : Nat}
    {condition : S.Row t → Bool} (set : Nat → S.Row t → S.Row t)
    (h : ((s.view d t).find? fun r => S.ident r = id && condition r) = none) :
    s.respond value d (.update t id condition set) = (.ok false, { s with seen := d }) := by
  simp only [respond, h]

/-- An update writes the row that it finds. -/
theorem respond_update_some {s : Session S} (value : Nat) {d : Database S} {t : S.Table} {id : Nat}
    {condition : S.Row t → Bool} (set : Nat → S.Row t → S.Row t) {old : S.Row t}
    (h : ((s.view d t).find? fun r => S.ident r = id && condition r) = some old) :
    s.respond value d (.update t id condition set) =
      s.write d ⟨t, some old, set value old⟩ true := by
  simp only [respond, h]

/-- What can happen at a statement: the answer of the database, or a failure of the connection. -/
inductive Answers (s : Session S) (d : Database S) (statement : Statement S β) :
    Except DbError β → Session S → Prop where
  | respond (value : Nat) :
      Answers s d statement (s.respond value d statement).1 (s.respond value d statement).2
  | abort : Answers s d statement (.error .operational) (s.interrupted d)

/-- All that a statement can do to a session at the committed database `d`. -/
inductive Effect (s : Session S) (d : Database S) : Session S → Prop where
  | keeps (drawn : List Nat) : Effect s d { s with drawn := drawn, seen := d }
  | drops (refused : List (Database S)) (failed : Bool) :
      Effect s d { s with pending := [], refused := refused, failed := failed, seen := d }
  | writes (w : Write S) (admitted : admits (s.view d) w = true)
      (replaces : ∀ old ∈ w.old, old ∈ s.view d w.table) :
      Effect s d { s with pending := s.pending ++ [w], seen := d }
  | commits : Effect s d (s.committed d)

/-- A write has an effect on the session only. -/
theorem effect_write {s : Session S} {d : Database S} {w : Write S} (answer : β)
    (replaces : ∀ old ∈ w.old, old ∈ s.view d w.table) : Effect s d (s.write d w answer).2 := by
  cases hadmits : admits (s.view d) w with
  | true =>
      rw [write_of_admits answer hadmits]
      exact .writes w hadmits replaces
  | false =>
      rw [write_of_refused answer hadmits]
      exact .drops _ s.failed

/-- So has every statement. -/
theorem effect_of_answers {s s' : Session S} {d : Database S} {statement : Statement S β}
    {answer : Except DbError β} (h : s.Answers d statement answer s') : Effect s d s' := by
  cases h with
  | abort => exact .drops s.refused true
  | respond value =>
      cases statement with
      | uuid4 => exact .keeps (s.drawn ++ [value])
      | select query => exact .keeps s.drawn
      | insert t row => exact effect_write () (by simp)
      | update t id condition set =>
          cases hfind : (s.view d t).find? fun r => S.ident r = id && condition r with
          | none =>
              rw [respond_update_none value set hfind]
              exact .keeps s.drawn
          | some old =>
              rw [respond_update_some value set hfind]
              exact effect_write true (by simpa using List.mem_of_find?_eq_some hfind)
      | commit => exact .commits
      | rollback => exact .drops s.refused s.failed

/-- A session keeps the identifiers that it has drawn. -/
theorem drawn_of_answers {s s' : Session S} {d : Database S} {statement : Statement S β}
    {answer : Except DbError β} (h : s.Answers d statement answer s') :
    ∀ id ∈ s.drawn, id ∈ s'.drawn := by
  have hwrite : ∀ {γ : Type} (w : Write S) (answer : γ),
      (s.write d w answer).2.drawn = s.drawn := by
    intro γ w answer
    unfold write
    split <;> rfl
  intro id hid
  cases h with
  | abort => exact hid
  | respond value =>
      cases statement with
      | uuid4 => exact List.mem_append_left _ hid
      | insert t row =>
          rw [respond_insert, hwrite]
          exact hid
      | update t key condition set =>
          cases hfind : (s.view d t).find? fun r => S.ident r = key && condition r with
          | none =>
              rw [respond_update_none value set hfind]
              exact hid
          | some old =>
              rw [respond_update_some value set hfind, hwrite]
              exact hid
      | _ => exact hid

/-- The database never answers with a failure of the connection. -/
theorem respond_failed (s : Session S) (value : Nat) (d : Database S) (statement : Statement S β) :
    (s.respond value d statement).2.failed = s.failed := by
  have hwrite : ∀ {γ : Type} (w : Write S) (answer : γ),
      (s.write d w answer).2.failed = s.failed := by
    intro γ w answer
    unfold write
    split <;> rfl
  cases statement with
  | insert t row => exact hwrite ..
  | update t key condition set =>
      cases hfind : (s.view d t).find? fun r => S.ident r = key && condition r with
      | none => rw [respond_update_none value set hfind]
      | some old => rw [respond_update_some value set hfind, hwrite]
  | _ => rfl

end Session

/-! ## Properties of every statement -/

section Each

variable {S : Schema} {ε α β : Type} {rely : Session S → Database S → Prop}
  {keep : Session S → Prop} {P : {γ : Type} → Session S → Database S → Statement S γ → Prop}
  {s : Session S} {Q : Except ε α → Session S → Prop}

/-- Every statement of a program satisfies `P` at every database that `rely` admits, whatever the
answers are as long as they keep `keep`, and the program ends in `Q`. -/
def Each (rely : Session S → Database S → Prop) (keep : Session S → Prop)
    (P : {γ : Type} → Session S → Database S → Statement S γ → Prop) :
    Program S ε α → Session S → (Except ε α → Session S → Prop) → Prop
  | .done result, s, Q => Q result s
  | .perform statement next, s, Q => ∀ d, rely s d → P s d statement ∧
      ∀ answer s', s.Answers d statement answer s' → keep s' →
        Each rely keep P (next answer) s' Q

/-- A property of every statement from a stronger one. -/
theorem each_mono {rely' : Session S → Database S → Prop} {keep' : Session S → Prop}
    {P' : {γ : Type} → Session S → Database S → Statement S γ → Prop}
    {Q' : Except ε α → Session S → Prop} {p : Program S ε α} (h : Each rely keep P p s Q)
    (hs : keep' s) (hrely : ∀ s d, rely' s d → rely s d) (hkeep : ∀ s, keep' s → keep s)
    (hP : ∀ {γ : Type} (s : Session S) (d : Database S) (statement : Statement S γ), keep' s →
      P s d statement → P' s d statement)
    (hQ : ∀ result s', Q result s' → Q' result s') : Each rely' keep' P' p s Q' := by
  induction p generalizing s with
  | done result => exact hQ result s h
  | perform statement next ih =>
      intro d hd
      obtain ⟨hstatement, hnext⟩ := h d (hrely s d hd)
      exact ⟨hP s d statement hs hstatement,
        fun answer s' hanswer hs' => ih answer (hnext answer s' hanswer (hkeep s' hs')) hs'⟩

/-- A weaker end. -/
theorem each_post {Q' : Except ε α → Session S → Prop} {p : Program S ε α}
    (h : Each rely keep P p s Q) (hQ : ∀ result s', Q result s' → Q' result s') :
    Each rely keep P p s Q' := by
  induction p generalizing s with
  | done result => exact hQ result s h
  | perform statement next ih =>
      intro d hd
      obtain ⟨hstatement, hnext⟩ := h d hd
      exact ⟨hstatement, fun answer s' hanswer hs' => ih answer (hnext answer s' hanswer hs')⟩

/-- The rule for two programs. -/
theorem each_bind {p : Program S ε β} {f : β → Program S ε α}
    (h : Each rely keep P p s fun result s' => match result with
      | .ok b => Each rely keep P (f b) s' Q
      | .error e => Q (.error e) s') : Each rely keep P (p >>= f) s Q := by
  show Each rely keep P (p.bind f) s Q
  induction p generalizing s with
  | done result =>
      cases result with
      | ok b => exact h
      | error e => exact h
  | perform statement next ih =>
      intro d hd
      obtain ⟨hstatement, hnext⟩ := h d hd
      exact ⟨hstatement, fun answer s' hanswer hs' => ih answer (hnext answer s' hanswer hs')⟩

/-- The rule for a handler. -/
theorem each_handle {p : Program S ε α} {handler : ε → Program S ε α}
    (h : Each rely keep P p s fun result s' => match result with
      | .ok a => Q (.ok a) s'
      | .error e => Each rely keep P (handler e) s' Q) :
    Each rely keep P (p.handle handler) s Q := by
  induction p generalizing s with
  | done result =>
      cases result with
      | ok a => exact h
      | error e => exact h
  | perform statement next ih =>
      intro d hd
      obtain ⟨hstatement, hnext⟩ := h d hd
      exact ⟨hstatement, fun answer s' hanswer hs' => ih answer (hnext answer s' hanswer hs')⟩

/-- The rule for a branch. -/
theorem each_ite {c : Prop} [Decidable c] {p q : Program S ε α}
    (hp : c → Each rely keep P p s Q) (hq : ¬ c → Each rely keep P q s Q) :
    Each rely keep P (if c then p else q) s Q := by
  by_cases hc : c
  · rw [if_pos hc]
    exact hp hc
  · rw [if_neg hc]
    exact hq hc

/-- A program of one statement. -/
theorem each_execute {fault : DbError → ε} {statement : Statement S α}
    (h : ∀ d, rely s d → P s d statement ∧
      ∀ answer s', s.Answers d statement answer s' → keep s' → Q (answer.mapError fault) s') :
    Each rely keep P (.execute fault statement) s Q := by
  intro d hd
  obtain ⟨hstatement, hQ⟩ := h d hd
  refine ⟨hstatement, fun answer s' hanswer hs' => ?_⟩
  have hresult := hQ answer s' hanswer hs'
  cases answer with
  | ok a => exact hresult
  | error e => exact hresult

end Each

end GrowthOs.Library
