import GrowthOs.Library.Interleaving

/-!
# Programs that run alone

`Program.run` answers every statement of a program from the database that its session has left, with
identifiers, clock readings and failures of the connection from a supply. Requests that are served
one after the other are one order of the steps of a system, so what holds of every reachable system
holds after them.
-/

namespace GrowthOs.Library

variable {S : Schema} {ε α β Req : Type}

/-- The random identifiers and the clock readings of a run, and the failures of the connection, by
the number of the statement. -/
structure Supply where
  ids : Nat → Nat
  clock : Nat → Nat
  fails : Nat → Bool

/-- The value that a statement takes from the supply. -/
def Supply.value (supply : Supply) (n : Nat) : Statement S β → Nat
  | .uuid4 => supply.ids n
  | _ => supply.clock n

/-- The answer to a statement of a session that runs alone. -/
def Supply.answer (supply : Supply) (n : Nat) (s : Session S) (statement : Statement S β) :
    Except DbError β × Session S :=
  if supply.fails n then (.error .operational, s.interrupted s.seen)
  else s.respond (supply.value n statement) s.seen statement

/-- A supply answers a statement. -/
theorem Supply.answers (supply : Supply) (n : Nat) (s : Session S) (statement : Statement S β) :
    s.Answers s.seen statement (supply.answer n s statement).1 (supply.answer n s statement).2 := by
  unfold Supply.answer
  split
  · exact .abort
  · exact .respond _

/-- Run a program alone, from the `n`-th statement of the supply on. -/
def Program.run (supply : Supply) : Program S ε α → Nat → Session S → Except ε α × Session S × Nat
  | .done result, n, s => (result, s, n)
  | .perform statement next, n, s =>
      let answered := supply.answer n s statement
      (next answered.1).run supply (n + 1) answered.2

/-- The run of a sequence of two programs. -/
theorem run_bind (supply : Supply) (p : Program S ε β) (f : β → Program S ε α) (n : Nat)
    (s : Session S) : (p >>= f).run supply n s = match p.run supply n s with
      | (.ok b, s', n') => (f b).run supply n' s'
      | (.error e, s', n') => (.error e, s', n') := by
  show (p.bind f).run supply n s = _
  induction p generalizing n s with
  | done result =>
      cases result with
      | ok b => rfl
      | error e => rfl
  | perform statement next ih => exact ih _ (n + 1) _

/-- The run of one query. -/
theorem run_select (supply : Supply) (fault : DbError → ε) (query : Database S → β) (n : Nat)
    (s : Session S) : (Program.execute fault (.select query)).run supply n s =
      if supply.fails n then (.error (fault .operational), s.interrupted s.seen, n + 1)
      else (.ok (query (s.view s.seen)), s, n + 1) := by
  cases hfails : supply.fails n with
  | true => simp [Program.execute, Program.run, Supply.answer, hfails]
  | false => simp [Program.execute, Program.run, Supply.answer, hfails, Session.respond]

/-- A run is one order of the steps of a client, if no other client has pending writes. -/
theorem run_steps {serve : Req → Program S ε α} {clients : List (Client S ε α Req)}
    (hidle : ∀ c ∈ clients, c.session.pending = []) (request : Req) (arrived : Database S)
    (supply : Supply) (p : Program S ε α) (n : Nat) (s : Session S) :
    Relation.ReflTransGen (Step serve)
      ⟨s.seen, clients ++ [⟨request, arrived, p, s⟩]⟩
      ⟨(p.run supply n s).2.1.seen,
        clients ++ [⟨request, arrived, .done (p.run supply n s).1, (p.run supply n s).2.1⟩]⟩ := by
  induction p generalizing n s with
  | done result => exact .refl
  | perform statement next ih =>
      refine .head ?_ (ih _ (n + 1) _)
      refine .act rfl (supply.answers n s statement) ?_
      intro other hother
      exact compatible_symm (compatible_nil (hidle other (by simpa using hother)))

/-- Serve one request alone. -/
def serveAlone (serve : Req → Program S ε α) (supply : Supply) (state : System S ε α Req × Nat)
    (request : Req) : System S ε α Req × Nat :=
  let (result, s, n) := (serve request).run supply state.2 (.start state.1.committed)
  (⟨s.seen, state.1.clients ++
    [⟨request, state.1.committed, .done result, { s with pending := [] }⟩]⟩, n)

/-- Serve requests one after the other. -/
def serveAll (serve : Req → Program S ε α) (supply : Supply) (d : Database S)
    (requests : List Req) : System S ε α Req × Nat :=
  requests.foldl (serveAlone serve supply) (⟨d, []⟩, 0)

/-- The result of a program that has ended. -/
def Program.result? : Program S ε α → Option (Except ε α)
  | .done result => some result
  | .perform _ _ => none

/-- The results of the clients. -/
def System.results (sys : System S ε α Req) : List (Option (Except ε α)) :=
  sys.clients.map fun c => c.program.result?

/-- No client has pending writes. -/
def Idle (sys : System S ε α Req) : Prop := ∀ c ∈ sys.clients, c.session.pending = []

/-- Serving one request alone is a run of the system. -/
theorem serve_alone_steps (serve : Req → Program S ε α) (supply : Supply)
    {state : System S ε α Req × Nat} (hidle : Idle state.1) (request : Req) :
    Relation.ReflTransGen (Step serve) state.1 (serveAlone serve supply state request).1 ∧
      Idle (serveAlone serve supply state request).1 := by
  refine ⟨?_, fun c hc => ?_⟩
  · exact (Relation.ReflTransGen.single (.arrive request)).trans
      ((run_steps hidle request state.1.committed supply (serve request) state.2
        (.start state.1.committed)).tail (.close rfl))
  · rcases List.mem_append.mp hc with hc | hc
    · exact hidle c hc
    · obtain rfl := List.mem_singleton.mp hc
      rfl

/-- The client of a request that is served alone is the last one. -/
theorem mem_drop_serve_alone (serve : Req → Program S ε α) (supply : Supply)
    (state : System S ε α Req × Nat) (request : Req) :
    ⟨request, state.1.committed,
        .done ((serve request).run supply state.2 (.start state.1.committed)).1,
        { ((serve request).run supply state.2 (.start state.1.committed)).2.1 with
          pending := [] }⟩ ∈
      (serveAlone serve supply state request).1.clients.drop state.1.clients.length := by
  unfold serveAlone
  rw [List.drop_left' rfl]
  exact List.mem_singleton_self _

/-- Serving requests one after the other is a run of the system. -/
theorem serve_all_steps (serve : Req → Program S ε α) (supply : Supply) (requests : List Req)
    (state : System S ε α Req × Nat) (hidle : Idle state.1) :
    Relation.ReflTransGen (Step serve) state.1
        (requests.foldl (serveAlone serve supply) state).1 ∧
      Idle (requests.foldl (serveAlone serve supply) state).1 := by
  induction requests generalizing state with
  | nil => exact ⟨.refl, hidle⟩
  | cons request requests ih =>
      obtain ⟨hsteps, hidle'⟩ := serve_alone_steps serve supply hidle request
      obtain ⟨hrest, hlast⟩ := ih _ hidle'
      exact ⟨hsteps.trans hrest, hlast⟩

/-- No client is left when all requests have been served. -/
theorem serve_all_idle (serve : Req → Program S ε α) (supply : Supply) (d : Database S)
    (requests : List Req) : Idle (serveAll serve supply d requests).1 :=
  (serve_all_steps serve supply requests (⟨d, []⟩, 0) (by simp [Idle])).2

/-- Requests that are served one after the other reach their state. -/
theorem serve_all_reachable (serve : Req → Program S ε α) (supply : Supply)
    {initial : Database S → Prop} {d : Database S} (hd : initial d) (requests : List Req) :
    Reachable serve initial (serveAll serve supply d requests).1 :=
  ⟨d, hd, (serve_all_steps serve supply requests (⟨d, []⟩, 0) (by simp [Idle])).1⟩

/-! ## Properties of a run -/

section Alone

variable {s : Session S} {Q : Except ε α → Session S → Prop}

/-- A program that runs alone ends in `Q`, whatever its identifiers, clock readings and failures
are. -/
abbrev Alone (p : Program S ε α) (s : Session S) (Q : Except ε α → Session S → Prop) : Prop :=
  Each (fun s d => d = s.seen) (fun _ => True) (fun _ _ _ => True) p s Q

/-- A program of one statement. -/
theorem alone_execute {fault : DbError → ε} {statement : Statement S α}
    (hrespond : ∀ value, Q ((s.respond value s.seen statement).1.mapError fault)
      (s.respond value s.seen statement).2)
    (habort : Q (.error (fault .operational)) (s.interrupted s.seen)) :
    Alone (.execute fault statement) s Q := by
  refine each_execute fun d hd => ⟨trivial, fun answer s' hanswer _ => ?_⟩
  subst hd
  cases hanswer with
  | respond value => exact hrespond value
  | abort => exact habort

/-- A run of the program ends in `Q`. -/
theorem run_of_alone {p : Program S ε α} (h : Alone p s Q) (supply : Supply) (n : Nat) :
    Q (p.run supply n s).1 (p.run supply n s).2.1 := by
  induction p generalizing n s with
  | done result => exact h
  | perform statement next ih =>
      obtain ⟨-, hnext⟩ := h s.seen rfl
      exact ih _ (hnext _ _ (supply.answers n s statement) trivial) (n + 1)

/-- A connection that never fails does not fail in a run. -/
theorem run_not_failed {supply : Supply} (hsupply : ∀ n, supply.fails n = false)
    (p : Program S ε α) (n : Nat) (s : Session S) :
    (p.run supply n s).2.1.failed = s.failed := by
  induction p generalizing n s with
  | done result => rfl
  | perform statement next ih =>
      show ((next (supply.answer n s statement).1).run supply (n + 1)
        (supply.answer n s statement).2).2.1.failed = s.failed
      rw [ih]
      unfold Supply.answer
      rw [hsupply n, if_neg Bool.false_ne_true]
      exact s.respond_failed _ _ statement

end Alone

end GrowthOs.Library
