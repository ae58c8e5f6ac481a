import GrowthOs.Library.Ownership

/-!
# Parties that do not affect one another

A program that only looks for own rows and only inserts own rows, under identifiers that it has
drawn, is not affected by such a program of another party: it never waits for it, and its commit
changes no answer.
-/

namespace GrowthOs.Library.Ownership

variable {S : Schema} {ε α β Req : Type} {O O' : Ownership S} {d : Database S}
  {s s' other : Session S}

/-- A query that finds own rows or rows with drawn identifiers, or the insertion of an own row with
a drawn identifier. -/
def Appends (O : Ownership S) : {β : Type} → Session S → Database S → Statement S β → Prop
  | _, s, _, .select query => ∀ fresh view view', (∀ id ∈ s.drawn, fresh id) →
      O.Twin fresh view view' → query view = query view'
  | _, s, _, .insert _ row => ∀ time, O.mine (row time) = true ∧ S.ident (row time) ∈ s.drawn
  | _, _, _, .update _ _ _ _ => False
  | _, _, _, .uuid4 => True
  | _, _, _, .commit => True
  | _, _, _, .rollback => True

/-- Every statement of a program appends, whatever the answers are and whatever the database is. -/
abbrev AppendsOnly (O : Ownership S) (p : Program S ε α) (s : Session S)
    (Q : Except ε α → Session S → Prop) : Prop :=
  Each (fun _ _ => True) (fun _ => True) (Appends O) p s Q

/-- A statement that only appends is local. -/
theorem local_at_of_appends {fresh : Nat → Prop} {statement : Statement S β}
    (hdrawn : ∀ id ∈ s.drawn, fresh id) (h : Appends O s d statement) (view : Database S) :
    LocalAt O fresh view statement := by
  cases statement with
  | select query => exact fun view' => h fresh view view' hdrawn
  | insert t row => exact fun time => ⟨(h time).1, hdrawn _ (h time).2⟩
  | update t id condition set => exact h.elim
  | _ => trivial

/-- A program that appends is local. -/
theorem local_of_appends {fresh : Nat → Prop} {rely : Session S → Database S → Prop}
    {p : Program S ε α} {Q : Except ε α → Session S → Prop} (h : AppendsOnly O p s Q)
    (hs : ∀ id ∈ s.drawn, fresh id) : Local O fresh rely p s Q :=
  each_mono h hs (fun _ _ _ => trivial) (fun _ _ => trivial)
    (fun s d _ hdrawn happends => local_at_of_appends hdrawn happends (s.view d))
    fun _ _ hQ => hQ

/-- An inserted own row with a drawn identifier. -/
structure Appended (O : Ownership S) (drawn : List Nat) (w : Write S) : Prop where
  inserts : w.old = none
  mine : O.mine w.new = true
  drawn : S.ident w.new ∈ drawn

/-- What a statement that appends leaves pending. -/
theorem appended_of_answers {statement : Statement S β} {answer : Except DbError β}
    (h : ∀ w ∈ s.pending, Appended O s.drawn w) (happends : Appends O s d statement)
    (hanswer : s.Answers d statement answer s') : ∀ w ∈ s'.pending, Appended O s.drawn w := by
  cases hanswer with
  | abort => simp [Session.interrupted]
  | respond value =>
      cases statement with
      | insert t row =>
          rw [Session.respond_insert]
          cases hadmits : admits (s.view d) ⟨t, none, row value⟩ with
          | false =>
              rw [Session.write_of_refused () hadmits]
              simp [Session.refuse]
          | true =>
              rw [Session.write_of_admits () hadmits]
              intro w hw
              rcases List.mem_append.mp hw with hw | hw
              · exact h w hw
              · obtain rfl := List.mem_singleton.mp hw
                exact ⟨rfl, (happends value).1, (happends value).2⟩
      | update t id condition set => exact happends.elim
      | uuid4 => exact h
      | select query => exact h
      | commit => simp [Session.respond, Session.committed]
      | rollback => simp [Session.respond, Session.rolledBack]

/-- Insertions keep the rows of a table. -/
theorem mem_apply_all {ws : List (Write S)} (hws : ∀ w ∈ ws, w.old = none) {t : S.Table}
    {r : S.Row t} (hr : r ∈ d t) : r ∈ applyAll ws d t := by
  induction ws generalizing d with
  | nil => exact hr
  | cons w ws ih =>
      rw [apply_all_cons]
      refine ih (fun w' hw' => hws w' (List.mem_cons_of_mem w hw')) ?_
      by_cases ht : t = w.table
      · subst ht
        rw [apply_self, Write.rows, hws w List.mem_cons_self]
        exact List.mem_append_left _ hr
      · rwa [apply_of_ne d ht]

/-- Insertions put their rows in. -/
theorem new_mem_apply_all {ws : List (Write S)} (hws : ∀ w ∈ ws, w.old = none) {w : Write S}
    (hw : w ∈ ws) : w.new ∈ applyAll ws d w.table := by
  induction ws generalizing d with
  | nil => cases hw
  | cons w' ws ih =>
      have hrest : ∀ w ∈ ws, w.old = none := fun w hw => hws w (List.mem_cons_of_mem w' hw)
      rw [apply_all_cons]
      rcases List.mem_cons.mp hw with rfl | hw
      · refine mem_apply_all hrest ?_
        rw [apply_self, Write.rows, hws w List.mem_cons_self]
        exact List.mem_append_right _ List.mem_cons_self
      · exact ih hrest hw

/-- The insertions of another party leave the own rows. -/
theorem own_apply_all_foreign {ws : List (Write S)} (hws : ∀ w ∈ ws, w.old = none)
    (hforeign : ∀ w ∈ ws, O.mine w.new = false) : O.own (applyAll ws d) = O.own d := by
  induction ws generalizing d with
  | nil => rfl
  | cons w ws ih =>
      rw [apply_all_cons, ih (fun w' hw' => hws w' (List.mem_cons_of_mem w hw'))
        fun w' hw' => hforeign w' (List.mem_cons_of_mem w hw')]
      funext t
      by_cases ht : t = w.table
      · subst ht
        simp [own, apply_self, Write.rows, hws w List.mem_cons_self,
          hforeign w List.mem_cons_self]
      · rw [own, own, apply_of_ne d ht]

/-- Own insertions next to the rows of other parties. -/
theorem own_apply_all {ws : List (Write S)} {drawn : List Nat}
    (hws : ∀ w ∈ ws, Appended O drawn w) (hd : O.Apart (· ∈ drawn) d) :
    O.own (applyAll ws d) = applyAll ws (O.own d) ∧
      O.others (applyAll ws d) = O.others d := by
  induction ws generalizing d with
  | nil => exact ⟨rfl, rfl⟩
  | cons w ws ih =>
      have hw := hws w List.mem_cons_self
      have hkeeps : Keeps O d w := by
        refine ⟨hw.mine, fun r hr hforeign heq => hd w.table r hr hforeign ?_⟩
        rw [heq]
        exact hw.drawn
      obtain ⟨hown, hothers⟩ := ih (fun w' hw' => hws w' (List.mem_cons_of_mem w hw'))
        (apart_of_others_eq (others_apply hkeeps) hd)
      rw [apply_all_cons, apply_all_cons]
      exact ⟨by rw [hown, own_apply hkeeps], hothers.trans (others_apply hkeeps)⟩

/-! ## Two sessions -/

/-- A session with own insertions at two databases with the same own rows. -/
theorem twins_of_appended {d' : Database S} (h : ∀ w ∈ s.pending, Appended O s.drawn w)
    (hview : Consistent (s.view d)) (hview' : Consistent (s.view d'))
    (htwin : O.Twin (· ∈ s.drawn) d d') :
    Twins O (· ∈ s.drawn) { s with seen := d } { s with seen := d' } := by
  obtain ⟨hown, hothers⟩ := own_apply_all h htwin.apart
  obtain ⟨hown', hothers'⟩ := own_apply_all h htwin.apart'
  refine ⟨rfl, htwin, ⟨?_, hview, hview', ?_, ?_⟩, hothers, hothers'⟩
  · show O.own (applyAll s.pending d) = O.own (applyAll s.pending d')
    rw [hown, hown', htwin.own]
  · exact apart_of_others_eq hothers htwin.apart
  · exact apart_of_others_eq hothers' htwin.apart'

/-- A session is not affected by another one: it does not wait for it, and the commit of the other
does not change its next answer. -/
structure Unaffected (d : Database S) (s other : Session S) (statement : Statement S β) : Prop where
  waits : ∀ answer s', s.Answers d statement answer s' → Compatible s' other
  answer : ∀ value, (s.respond value d statement).1 = (s.respond value (other.view d) statement).1

/-- Sessions of different parties that append do not affect one another. -/
theorem unaffected_of_appends (hparties : ∀ {t : S.Table} {r : S.Row t}, O'.mine r = true →
      O.mine r = false) (hd : Consistent d) (hs : ∀ w ∈ s.pending, Stands d w)
    (hseparate : Separate s.pending) (hother : ∀ w ∈ other.pending, Stands d w)
    (hseparate' : Separate other.pending) (hcompatible : Compatible s other)
    (happended : ∀ w ∈ s.pending, Appended O s.drawn w)
    (happended' : ∀ w ∈ other.pending, Appended O' other.drawn w)
    (hapart : O.Apart (· ∈ s.drawn) (other.view d)) :
    O.own (other.view d) = O.own d ∧
      ∀ {β : Type} (statement : Statement S β), Appends O s d statement →
        Unaffected d s other statement := by
  have hinserts : ∀ w ∈ other.pending, w.old = none := fun w hw => (happended' w hw).inserts
  have hown : O.own (other.view d) = O.own d :=
    own_apply_all_foreign hinserts fun w hw => hparties (happended' w hw).mine
  have hapart' : O.Apart (· ∈ s.drawn) d :=
    fun t r hr => hapart t r (mem_apply_all hinserts hr)
  refine ⟨hown, fun {β} statement happends => ⟨fun answer s' hanswer w hw w' hw' hconflict => ?_,
    fun value => ?_⟩⟩
  · -- Rows of two parties can only have the same identifier, and that one is drawn.
    have hrow := appended_of_answers happended happends hanswer w hw
    have hmem : w'.new ∈ other.view d w'.table := new_mem_apply_all hinserts hw'
    have hforeign : O.mine w'.new = false := hparties (happended' w' hw').mine
    cases hconflict with
    | intro hcase =>
        rcases hcase with hident | hclash
        · exact hapart _ _ hmem hforeign (hident ▸ hrow.drawn)
        · have hsame := O.clash hclash
          rw [hrow.mine, hforeign] at hsame
          cases hsame
  · have hotherConsistent : Consistent (other.view d) := consistent_apply_all hd hother hseparate'
    have hstands : ∀ w ∈ s.pending, Stands (other.view d) w := fun w hw =>
      stands_apply_all (hs w hw) hother hseparate' fun w' hw' => hcompatible w hw w' hw'
    have htwins := twins_of_appended happended
      (consistent_apply_all hd hs hseparate)
      (consistent_apply_all hotherConsistent hstands hseparate)
      ⟨hown.symm, hd, hotherConsistent, hapart', hapart⟩
    have hlocal : LocalAt O (· ∈ s.drawn) (s.view d) statement :=
      local_at_of_appends (fun _ hid => hid) happends (s.view d)
    exact (agree_respond htwins hlocal value).answer

end GrowthOs.Library.Ownership
