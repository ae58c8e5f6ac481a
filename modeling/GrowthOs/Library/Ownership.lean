import GrowthOs.Library.Sequential

/-!
# Parties that share a database

An ownership says which rows are a party's own. A program is local when each of its statements
depends on the party's own rows only and writes no others. Two runs of a local program on databases
with the same own rows answer the same, leave the same own rows, and leave every other row as it
was.

Random identifiers are fresh: no other party has a row with one of them.
-/

namespace GrowthOs.Library

variable {S : Schema} {ε α β : Type}

/-- Which rows are a party's own. Rows that violate a unique constraint together, and rows that a
foreign key relates, have one owner. -/
structure Ownership (S : Schema) where
  mine : {t : S.Table} → S.Row t → Bool
  clash : ∀ {t : S.Table} {r r' : S.Row t}, S.clash r r' = true → mine r = mine r'
  parents : ∀ {t : S.Table} {r : S.Row t} {p : S.Table × List Nat}, p ∈ S.parents r →
    ∀ r' : S.Row p.1, p.2 ∈ S.candidates r' → mine r' = mine r

namespace Ownership

variable (O : Ownership S)

/-- The party's own rows. -/
def own (d : Database S) : Database S := fun t => (d t).filter O.mine

/-- The rows of the others. -/
def others (d : Database S) : Database S := fun t => (d t).filter fun r => !O.mine r

/-- No other party has a row with a fresh identifier. -/
def Apart (fresh : Nat → Prop) (d : Database S) : Prop :=
  ∀ t, ∀ r ∈ d t, O.mine r = false → ¬ fresh (S.ident r)

/-- Two databases that the party cannot tell apart. -/
structure Twin (fresh : Nat → Prop) (d d' : Database S) : Prop where
  own : O.own d = O.own d'
  consistent : Consistent d
  consistent' : Consistent d'
  apart : O.Apart fresh d
  apart' : O.Apart fresh d'

variable {O} {fresh : Nat → Prop} {d d' : Database S}

/-- A row that is owned. -/
theorem mem_own {t : S.Table} {r : S.Row t} : r ∈ O.own d t ↔ r ∈ d t ∧ O.mine r = true :=
  List.mem_filter

/-- A search only looks at the elements that it can find. -/
theorem find_filter {p q : α → Bool} {l : List α} (h : ∀ a ∈ l, q a = false → p a = false) :
    l.find? p = (l.filter q).find? p := by
  induction l with
  | nil => rfl
  | cons a l ih =>
      have hrest := ih fun b hb => h b (List.mem_cons_of_mem a hb)
      cases hq : q a with
      | true => rw [List.filter_cons_of_pos hq, List.find?_cons, List.find?_cons, hrest]
      | false =>
          rw [List.filter_cons_of_neg (by simp [hq]), List.find?_cons_of_neg
            (by simp [h a List.mem_cons_self hq]), hrest]

/-- A search for own rows only looks at these. -/
theorem find_own {t : S.Table} {p : S.Row t → Bool} (d : Database S)
    (hp : ∀ r ∈ d t, O.mine r = false → p r = false) : (d t).find? p = (O.own d t).find? p :=
  find_filter hp

/-- A search for own rows in two databases with the same own rows. -/
theorem find_eq_of_own_eq {t : S.Table} {p : S.Row t → Bool} (hown : O.own d = O.own d')
    (hp : ∀ r ∈ d t, O.mine r = false → p r = false)
    (hp' : ∀ r ∈ d' t, O.mine r = false → p r = false) : (d t).find? p = (d' t).find? p := by
  rw [find_own d hp, find_own d' hp', hown]

/-- A write of an own row that replaces no row of another party. -/
structure Keeps (O : Ownership S) (d : Database S) (w : Write S) : Prop where
  mine : O.mine w.new = true
  ident : ∀ r ∈ d w.table, O.mine r = false → S.ident r ≠ S.ident w.new

/-- Constraints only look at own rows. -/
theorem admits_own {w : Write S} (h : Keeps O d w) : admits d w = admits (O.own d) w := by
  have hrows : (d w.table).all (fun r =>
      if S.ident r = S.ident w.new then w.old.isSome else !S.clash r w.new) =
      (O.own d w.table).all fun r =>
        if S.ident r = S.ident w.new then w.old.isSome else !S.clash r w.new := by
    rw [Bool.eq_iff_iff, List.all_eq_true, List.all_eq_true]
    refine ⟨fun hall r hr => hall r (mem_own.mp hr).1, fun hall r hr => ?_⟩
    cases hmine : O.mine r with
    | true => exact hall r (mem_own.mpr ⟨hr, hmine⟩)
    | false =>
        have hclash : S.clash r w.new = false := by
          by_contra hclash
          have hsame := O.clash (by simpa using hclash)
          rw [hmine, h.mine] at hsame
          cases hsame
        rw [if_neg (h.ident r hr hmine), hclash]
        rfl
  have hparents : w.newParents.all (fun p => (d p.1).any fun r => p.2 ∈ S.candidates r) =
      w.newParents.all fun p => (O.own d p.1).any fun r => p.2 ∈ S.candidates r := by
    rw [Bool.eq_iff_iff, List.all_eq_true, List.all_eq_true]
    refine forall₂_congr fun p hp => ?_
    simp only [List.any_eq_true, decide_eq_true_eq]
    constructor
    · rintro ⟨r, hr, hcandidate⟩
      have hsame := O.parents (List.mem_filter.mp hp).1 r hcandidate
      exact ⟨r, mem_own.mpr ⟨hr, hsame.trans h.mine⟩, hcandidate⟩
    · rintro ⟨r, hr, hcandidate⟩
      exact ⟨r, (mem_own.mp hr).1, hcandidate⟩
  rw [admits, admits, hrows, hparents]

/-- The own rows after a write. -/
theorem own_apply {w : Write S} (h : Keeps O d w) : O.own (w.apply d) = w.apply (O.own d) := by
  funext t
  by_cases ht : t = w.table
  · subst ht
    rw [own, apply_self, apply_self, Write.rows, Write.rows]
    cases w.old with
    | none => simp [own, h.mine]
    | some old =>
        rw [own, List.filter_map]
        refine congrArg _ (List.filter_congr fun r hr => ?_)
        simp only [Function.comp_apply]
        split
        · rename_i heq
          cases hmine : O.mine r with
          | true => exact h.mine
          | false => exact absurd heq (h.ident r hr hmine)
        · rfl
  · rw [own, apply_of_ne d ht, apply_of_ne _ ht, own]

/-- The rows of the others after a write. -/
theorem others_apply {w : Write S} (h : Keeps O d w) : O.others (w.apply d) = O.others d := by
  funext t
  by_cases ht : t = w.table
  · subst ht
    rw [others, others, apply_self, Write.rows]
    cases w.old with
    | none => simp [h.mine]
    | some old =>
        rw [List.filter_map]
        have hsame : (d w.table).filter ((fun r => !O.mine r) ∘ fun r =>
            if S.ident r = S.ident w.new then w.new else r) =
            (d w.table).filter fun r => !O.mine r := by
          refine List.filter_congr fun r hr => ?_
          simp only [Function.comp_apply]
          split
          · rename_i heq
            cases hmine : O.mine r with
            | true => simp [h.mine]
            | false => exact absurd heq (h.ident r hr hmine)
          · rfl
        rw [hsame]
        refine List.map_congr_left (fun r hr => ?_) |>.trans (List.map_id _)
        obtain ⟨hr, hmine⟩ := List.mem_filter.mp hr
        exact if_neg (h.ident r hr (by simpa using hmine))
  · rw [others, others, apply_of_ne d ht]

/-- A row that is not. -/
theorem mem_others {t : S.Table} {r : S.Row t} :
    r ∈ O.others d t ↔ r ∈ d t ∧ O.mine r = false := by
  simp [others]

/-- Databases with the same rows of others are equally apart. -/
theorem apart_of_others_eq (h : O.others d' = O.others d) (hd : O.Apart fresh d) :
    O.Apart fresh d' := by
  intro t r hr hmine
  have hmem : r ∈ O.others d t := h ▸ mem_others.mpr ⟨hr, hmine⟩
  exact hd t r (mem_others.mp hmem).1 hmine

/-- A database is its own twin. -/
theorem Twin.refl (hconsistent : Consistent d) (hapart : O.Apart fresh d) : O.Twin fresh d d :=
  ⟨rfl, hconsistent, hconsistent, hapart, hapart⟩

/-- Twins are twins of each other. -/
theorem Twin.symm (h : O.Twin fresh d d') : O.Twin fresh d' d :=
  ⟨h.own.symm, h.consistent', h.consistent, h.apart', h.apart⟩

/-- A party that is not told apart writes the same own rows. -/
theorem twin_apply {w : Write S} (h : O.Twin fresh d d') (hkeeps : Keeps O d w)
    (hkeeps' : Keeps O d' w) (hstands : Stands d w) (hstands' : Stands d' w) :
    O.Twin fresh (w.apply d) (w.apply d') where
  own := by rw [own_apply hkeeps, own_apply hkeeps', h.own]
  consistent := consistent_apply h.consistent hstands
  consistent' := consistent_apply h.consistent' hstands'
  apart := apart_of_others_eq (others_apply hkeeps) h.apart
  apart' := apart_of_others_eq (others_apply hkeeps') h.apart'

/-- A statement depends on the own rows of what the session sees, and writes no other rows. -/
def LocalAt (O : Ownership S) (fresh : Nat → Prop) (view : Database S) :
    {β : Type} → Statement S β → Prop
  | _, .select query => ∀ view', O.Twin fresh view view' → query view = query view'
  | _, .insert _ row => ∀ time, O.mine (row time) = true ∧ fresh (S.ident (row time))
  | _, .update t id condition set =>
      (∀ time r, S.ident (set time r) = S.ident r ∧ O.mine (set time r) = O.mine r) ∧
        ∀ view', O.Twin fresh view view' → ∀ r ∈ view' t, S.ident r = id → condition r = true →
          O.mine r = true
  | _, .uuid4 => True
  | _, .commit => True
  | _, .rollback => True

/-- Two sessions of a party that it cannot tell apart. What they have written is the party's own. -/
structure Twins (O : Ownership S) (fresh : Nat → Prop) (s s' : Session S) : Prop where
  pending : s.pending = s'.pending
  seen : O.Twin fresh s.seen s'.seen
  view : O.Twin fresh (s.view s.seen) (s'.view s'.seen)
  others : O.others (s.view s.seen) = O.others s.seen
  others' : O.others (s'.view s'.seen) = O.others s'.seen

/-- Sessions of twins start as twins. -/
theorem twins_start (h : O.Twin fresh d d') : Twins O fresh (.start d) (.start d') :=
  ⟨rfl, h, h, rfl, rfl⟩

/-- Two sessions without pending writes. -/
theorem twins_of_pending_nil {s s' : Session S} (h : s.pending = []) (h' : s'.pending = [])
    (hseen : O.Twin fresh s.seen s'.seen) : Twins O fresh s s' := by
  have hview : s.view s.seen = s.seen := by rw [Session.view, h]; rfl
  have hview' : s'.view s'.seen = s'.seen := by rw [Session.view, h']; rfl
  refine ⟨h.trans h'.symm, hseen, ?_, ?_, ?_⟩
  · rw [hview, hview']
    exact hseen
  · rw [hview]
  · rw [hview']

/-- What one statement of two sessions preserves. -/
structure Agree (O : Ownership S) (fresh : Nat → Prop) (s s' : Session S)
    (after after' : Except DbError β × Session S) : Prop where
  answer : after.1 = after'.1
  twins : Twins O fresh after.2 after'.2
  others : O.others after.2.seen = O.others s.seen
  others' : O.others after'.2.seen = O.others s'.seen

variable {s s' : Session S}

/-- The same write of two sessions. -/
theorem agree_write (h : Twins O fresh s s') {w : Write S} {answer : β}
    (hkeeps : Keeps O (s.view s.seen) w) (hkeeps' : Keeps O (s'.view s'.seen) w)
    (hold : ∀ old ∈ w.old, old ∈ s.view s.seen w.table ∧ S.ident old = S.ident w.new)
    (hold' : ∀ old ∈ w.old, old ∈ s'.view s'.seen w.table ∧ S.ident old = S.ident w.new) :
    Agree O fresh s s' (s.write s.seen w answer) (s'.write s'.seen w answer) := by
  have hadmits : admits (s.view s.seen) w = admits (s'.view s'.seen) w := by
    rw [admits_own hkeeps, admits_own hkeeps', h.view.own]
  cases hcase : admits (s.view s.seen) w with
  | false =>
      rw [Session.write_of_refused answer hcase, Session.write_of_refused answer (hadmits ▸ hcase)]
      exact ⟨rfl, twins_of_pending_nil rfl rfl h.seen, rfl, rfl⟩
  | true =>
      have hcase' := hadmits ▸ hcase
      rw [Session.write_of_admits answer hcase, Session.write_of_admits answer hcase']
      have happly : ∀ (s : Session S) (d : Database S),
          applyAll (s.pending ++ [w]) d = w.apply (s.view d) := fun s d => by
        rw [applyAll, List.foldl_append]
        rfl
      have hstands : Stands (s.view s.seen) w :=
        @stands_of_admits S [] w (s.view s.seen) hcase (by simp) hold
      have hstands' : Stands (s'.view s'.seen) w :=
        @stands_of_admits S [] w (s'.view s'.seen) hcase' (by simp) hold'
      refine ⟨rfl, ⟨?_, h.seen, ?_, ?_, ?_⟩, rfl, rfl⟩
      · show s.pending ++ [w] = s'.pending ++ [w]
        rw [h.pending]
      · show O.Twin fresh (applyAll (s.pending ++ [w]) s.seen)
          (applyAll (s'.pending ++ [w]) s'.seen)
        rw [happly, happly]
        exact twin_apply h.view hkeeps hkeeps' hstands hstands'
      · show O.others (applyAll (s.pending ++ [w]) s.seen) = O.others s.seen
        rw [happly, others_apply hkeeps, h.others]
      · show O.others (applyAll (s'.pending ++ [w]) s'.seen) = O.others s'.seen
        rw [happly, others_apply hkeeps', h.others']

/-- A row of another party is not replaced by the update of an own row. -/
theorem keeps_of_replaced {t : S.Table} {view : Database S} {old new : S.Row t}
    (hconsistent : Consistent view) (hold : old ∈ view t) (hmine : O.mine old = true)
    (hident : S.ident new = S.ident old) (hnew : O.mine new = O.mine old) :
    Keeps O view ⟨t, some old, new⟩ := by
  refine ⟨hnew.trans hmine, fun r hr hother heq => ?_⟩
  have hsame : r = old := eq_of_ident_eq (hconsistent t) hr hold (heq.trans hident)
  rw [hsame, hmine] at hother
  cases hother

/-- A local statement of two sessions has the same answer. -/
theorem agree_respond (h : Twins O fresh s s') {statement : Statement S β}
    (hlocal : LocalAt O fresh (s.view s.seen) statement) (value : Nat) :
    Agree O fresh s s' (s.respond value s.seen statement) (s'.respond value s'.seen statement) := by
  cases statement with
  | uuid4 => exact ⟨rfl, ⟨h.pending, h.seen, h.view, h.others, h.others'⟩, rfl, rfl⟩
  | select query =>
      refine ⟨?_, ⟨h.pending, h.seen, h.view, h.others, h.others'⟩, rfl, rfl⟩
      show Except.ok (query (s.view s.seen)) = Except.ok (query (s'.view s'.seen))
      rw [hlocal _ h.view]
  | insert t row =>
      obtain ⟨hmine, hfresh⟩ := hlocal value
      refine agree_write h ⟨hmine, fun r hr hother heq => ?_⟩ ⟨hmine, fun r hr hother heq => ?_⟩
        (by simp) (by simp)
      · exact h.view.apart t r hr hother (heq ▸ hfresh)
      · exact h.view.apart' t r hr hother (heq ▸ hfresh)
  | update t id condition set =>
      obtain ⟨hset, hmine⟩ := hlocal
      have hself := hmine _ (.refl h.view.consistent h.view.apart)
      have hother := hmine _ h.view
      -- Only an own row can meet the condition, so both views find the same one.
      have hfind : ((s.view s.seen t).find? fun r => S.ident r = id && condition r) =
          (s'.view s'.seen t).find? fun r => S.ident r = id && condition r :=
        find_eq_of_own_eq h.view.own (fun r hr hforeign => by
          by_contra hfound
          simp only [Bool.not_eq_false, Bool.and_eq_true, decide_eq_true_eq] at hfound
          rw [hself r hr hfound.1 hfound.2] at hforeign
          cases hforeign) (fun r hr hforeign => by
          by_contra hfound
          simp only [Bool.not_eq_false, Bool.and_eq_true, decide_eq_true_eq] at hfound
          rw [hother r hr hfound.1 hfound.2] at hforeign
          cases hforeign)
      cases hcase : (s.view s.seen t).find? fun r => S.ident r = id && condition r with
      | none =>
          rw [Session.respond_update_none value set hcase,
            Session.respond_update_none value set (hfind ▸ hcase)]
          exact ⟨rfl, ⟨h.pending, h.seen, h.view, h.others, h.others'⟩, rfl, rfl⟩
      | some old =>
          have hcase' := hfind ▸ hcase
          have hold := List.mem_of_find?_eq_some hcase
          have hold' := List.mem_of_find?_eq_some hcase'
          have hcondition := List.find?_some hcase
          simp only [Bool.and_eq_true, decide_eq_true_eq] at hcondition
          have hown := hself old hold hcondition.1 hcondition.2
          obtain ⟨hident, hsame⟩ := hset value old
          rw [Session.respond_update_some value set hcase,
            Session.respond_update_some value set hcase']
          refine agree_write h (keeps_of_replaced h.view.consistent hold hown hident hsame)
            (keeps_of_replaced h.view.consistent' hold' hown hident hsame) ?_ ?_
          · intro old' heq
            obtain rfl := Option.some_inj.mp heq
            exact ⟨hold, hident.symm⟩
          · intro old' heq
            obtain rfl := Option.some_inj.mp heq
            exact ⟨hold', hident.symm⟩
  | commit =>
      refine ⟨rfl, twins_of_pending_nil rfl rfl h.view, h.others, h.others'⟩
  | rollback => exact ⟨rfl, twins_of_pending_nil rfl rfl h.seen, rfl, rfl⟩

/-- Every statement of a program is local, whatever the answers, and it ends in `Q`. `rely` says at
which databases the statements of a session are performed. -/
abbrev Local (O : Ownership S) (fresh : Nat → Prop) (rely : Session S → Database S → Prop)
    (p : Program S ε α) (s : Session S) (Q : Except ε α → Session S → Prop) : Prop :=
  Each rely (fun s => ∀ id ∈ s.drawn, fresh id)
    (fun s d statement => LocalAt O fresh (s.view d) statement) p s Q

/-! ## Two runs -/

/-- The database at which a session that runs alone performs its next statement. -/
structure Alone (O : Ownership S) (fresh : Nat → Prop) (s : Session S) (d : Database S) : Prop where
  seen : d = s.seen
  consistent : Consistent (s.view d)
  apart : O.Apart fresh (s.view d)

/-- A session only draws identifiers from the supply. -/
theorem answer_drawn (supply : Supply) (n : Nat) (s : Session S) (statement : Statement S β) :
    ∀ id ∈ (supply.answer n s statement).2.drawn, id ∈ s.drawn ∨ id = supply.ids n := by
  have hwrite : ∀ {γ : Type} (w : Write S) (answer : γ),
      (s.write s.seen w answer).2.drawn = s.drawn := by
    intro γ w answer
    unfold Session.write
    split <;> rfl
  unfold Supply.answer
  split
  · exact fun id hid => Or.inl hid
  · cases statement with
    | uuid4 => simp [Session.respond, Supply.value]
    | insert t row =>
        rw [Session.respond_insert, hwrite]
        exact fun id hid => Or.inl hid
    | update t id condition set =>
        cases hfind : (s.view s.seen t).find? fun r => S.ident r = id && condition r with
        | none =>
            rw [Session.respond_update_none _ set hfind]
            exact fun id hid => Or.inl hid
        | some old =>
            rw [Session.respond_update_some _ set hfind, hwrite]
            exact fun id hid => Or.inl hid
    | _ => exact fun id hid => Or.inl hid

/-- The same statement of two sessions that run alone. -/
theorem agree_answer (h : Twins O fresh s s') {statement : Statement S β}
    (hlocal : LocalAt O fresh (s.view s.seen) statement) (supply : Supply) (n : Nat) :
    Agree O fresh s s' (supply.answer n s statement) (supply.answer n s' statement) := by
  unfold Supply.answer
  split
  · exact ⟨rfl, twins_of_pending_nil rfl rfl h.seen, rfl, rfl⟩
  · exact agree_respond h hlocal _

/-- Two runs of a local program return the same, draw the same from the supply, leave the same own
rows, and leave the rows of the others as they were. -/
theorem run_agree {supply : Supply} (hfresh : ∀ n, fresh (supply.ids n)) {p : Program S ε α}
    {Q : Except ε α → Session S → Prop} (hlocal : Local O fresh (Alone O fresh) p s Q)
    (h : Twins O fresh s s') (hdrawn : ∀ id ∈ s.drawn, fresh id) (n : Nat) :
    (p.run supply n s).1 = (p.run supply n s').1 ∧
    (p.run supply n s).2.2 = (p.run supply n s').2.2 ∧
    O.Twin fresh (p.run supply n s).2.1.seen (p.run supply n s').2.1.seen ∧
    O.others (p.run supply n s).2.1.seen = O.others s.seen ∧
    O.others (p.run supply n s').2.1.seen = O.others s'.seen := by
  induction p generalizing s s' n with
  | done result => exact ⟨rfl, rfl, h.seen, rfl, rfl⟩
  | perform statement next ih =>
      obtain ⟨hstatement, hnext⟩ := hlocal s.seen ⟨rfl, h.view.consistent, h.view.apart⟩
      obtain ⟨hanswer, htwins, hothers, hothers'⟩ := agree_answer h hstatement supply n
      have hdrawn' : ∀ id ∈ (supply.answer n s statement).2.drawn, fresh id := by
        intro id hid
        rcases answer_drawn supply n s statement id hid with hid | rfl
        · exact hdrawn id hid
        · exact hfresh n
      obtain ⟨hresult, hcount, htwin, hleft, hright⟩ :=
        ih _ (hnext _ _ (supply.answers n s statement) hdrawn') htwins hdrawn' (n + 1)
      simp only [Program.run]
      rw [← hanswer]
      exact ⟨hresult, hcount, htwin, hleft.trans hothers, hright.trans hothers'⟩

/-- Two systems that a party cannot tell apart after the same requests. -/
structure SameAnswers (O : Ownership S) (fresh : Nat → Prop) {Req : Type}
    (state state' : System S ε α Req × Nat) : Prop where
  twin : O.Twin fresh state.1.committed state'.1.committed
  count : state.2 = state'.2
  results : state.1.results = state'.1.results

/-- Serving a local request keeps two systems alike, and leaves the rows of the others. -/
theorem serve_alone_agree {Req : Type} {serve : Req → Program S ε α} {supply : Supply}
    (hfresh : ∀ n, fresh (supply.ids n)) {request : Req}
    (hlocal : ∀ d, Local O fresh (Alone O fresh) (serve request) (.start d) fun _ _ => True)
    {state state' : System S ε α Req × Nat} (h : SameAnswers O fresh state state') :
    SameAnswers O fresh (serveAlone serve supply state request)
        (serveAlone serve supply state' request) ∧
      O.others (serveAlone serve supply state request).1.committed =
        O.others state.1.committed ∧
      O.others (serveAlone serve supply state' request).1.committed =
        O.others state'.1.committed := by
  obtain ⟨htwin, hcount, hresults⟩ := h
  obtain ⟨hresult, hcount', htwin', hleft, hright⟩ :=
    run_agree hfresh (hlocal state.1.committed) (twins_start htwin) (by simp [Session.start])
      state.2
  refine ⟨⟨?_, ?_, ?_⟩, hleft, ?_⟩
  · simp only [serveAlone]
    rw [← hcount]
    exact htwin'
  · simp only [serveAlone]
    rw [← hcount]
    exact hcount'
  · simp only [System.results, serveAlone, List.map_append, List.map_cons, List.map_nil,
      Program.result?] at hresults ⊢
    rw [hresults, ← hcount, hresult]
  · simp only [serveAlone]
    rw [← hcount]
    exact hright

/-- The same requests of a party on databases with the same own rows are answered the same, leave
the same own rows, and leave every other row. -/
theorem serve_all_agree {Req : Type} {serve : Req → Program S ε α} {supply : Supply}
    (hfresh : ∀ n, fresh (supply.ids n)) {requests : List Req}
    (hlocal : ∀ request ∈ requests, ∀ d,
      Local O fresh (Alone O fresh) (serve request) (.start d) fun _ _ => True)
    (h : O.Twin fresh d d') :
    SameAnswers O fresh (serveAll serve supply d requests) (serveAll serve supply d' requests) ∧
      O.others (serveAll serve supply d requests).1.committed = O.others d ∧
      O.others (serveAll serve supply d' requests).1.committed = O.others d' := by
  suffices hfold : ∀ state state' : System S ε α Req × Nat, SameAnswers O fresh state state' →
      SameAnswers O fresh (requests.foldl (serveAlone serve supply) state)
          (requests.foldl (serveAlone serve supply) state') ∧
        O.others (requests.foldl (serveAlone serve supply) state).1.committed =
          O.others state.1.committed ∧
        O.others (requests.foldl (serveAlone serve supply) state').1.committed =
          O.others state'.1.committed from hfold (⟨d, []⟩, 0) (⟨d', []⟩, 0) ⟨h, rfl, rfl⟩
  induction requests with
  | nil => exact fun state state' hstate => ⟨hstate, rfl, rfl⟩
  | cons request requests ih =>
      intro state state' hstate
      obtain ⟨hnext, hleft, hright⟩ :=
        serve_alone_agree hfresh (hlocal request List.mem_cons_self) hstate
      obtain ⟨hlast, hleft', hright'⟩ :=
        ih (fun r hr => hlocal r (List.mem_cons_of_mem request hr)) _ _ hnext
      exact ⟨hlast, hleft'.trans hleft, hright'.trans hright⟩

end Ownership

end GrowthOs.Library
