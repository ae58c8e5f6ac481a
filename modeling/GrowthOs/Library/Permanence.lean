import GrowthOs.Library.Interleaving

/-!
# Rows that last

A `Lasting` names the columns of a row that no update changes: the primary key, the foreign keys and
the keys that they refer to are among them. A transaction is orderly if it writes no table twice,
its updates keep these columns, and the rows that its insertions name without a foreign key are
there when it commits. Where all transactions are orderly, no row is ever lost or changed in these
columns and every foreign key and every such name is that of a row, in any order of the statements.
-/

namespace GrowthOs.Library

variable {S : Schema} {ε α β : Type}

/-- Every foreign key of a row names a row. -/
def Referential (d : Database S) : Prop :=
  ∀ t, ∀ row ∈ d t, ∀ key ∈ S.parents row, ∃ parent ∈ d key.1, key.2 ∈ S.candidates parent

/-- The columns of a row that no update changes. A row has a name, and names other rows that no
foreign key refers to. -/
structure Lasting (S : Schema) where
  kept : {t : S.Table} → S.Row t → S.Row t
  Name : Type
  name : {t : S.Table} → S.Row t → Name
  names : {t : S.Table} → S.Row t → List Name
  ident_kept : ∀ {t : S.Table} (row : S.Row t), S.ident (kept row) = S.ident row
  parents_kept : ∀ {t : S.Table} (row : S.Row t), S.parents (kept row) = S.parents row
  candidates_kept : ∀ {t : S.Table} (row : S.Row t), S.candidates (kept row) = S.candidates row
  name_kept : ∀ {t : S.Table} (row : S.Row t), name (kept row) = name row
  names_kept : ∀ {t : S.Table} (row : S.Row t), names (kept row) = names row

namespace Lasting

variable (L : Lasting S)

/-- Every row of the first database is a row of the second one, with the columns that it keeps. -/
def Lasts (d d' : Database S) : Prop :=
  ∀ t, ∀ row ∈ d t, ∃ row' ∈ d' t, L.kept row' = L.kept row

/-- Some row has the name. -/
def Stored (d : Database S) (name : L.Name) : Prop := ∃ t, ∃ row ∈ d t, L.name row = name

/-- The rows that a row names are there. -/
def Named (d : Database S) : Prop := ∀ t, ∀ row ∈ d t, ∀ name ∈ L.names row, L.Stored d name

/-- Foreign keys name rows, other names do where they are watched, and rows last. -/
def rules (watched : Prop) : Rules S where
  invariant d := Referential d ∧ (watched → L.Named d)
  evolves := L.Lasts
  refl _ _ row hrow := ⟨row, hrow, rfl⟩
  trans h h' t row hrow := by
    obtain ⟨row', hrow', hkept⟩ := h t row hrow
    obtain ⟨row'', hrow'', hkept'⟩ := h' t row' hrow'
    exact ⟨row'', hrow'', hkept'.trans hkept⟩

/-- A row has the name that was there at the last statement, or one that is to be written. -/
def Holds (s : Session S) (name : L.Name) : Prop :=
  L.Stored s.seen name ∨ ∃ w ∈ s.pending, L.name w.new = name

/-- The rows that the insertions of the transaction name. -/
def Backed (s : Session S) : Prop :=
  ∀ w ∈ s.pending, w.old = none → ∀ name ∈ L.names w.new, L.Holds s name

/-- The statement writes no table that the transaction has written, and keeps the columns. A commit
leaves no name without a row. -/
def Orderly : {β : Type} → Session S → Database S → Statement S β → Prop
  | _, s, _, .insert t _ => ∀ w ∈ s.pending, t ≠ w.table
  | _, s, _, .update t _ _ set => (∀ w ∈ s.pending, t ≠ w.table) ∧
      ∀ time row, L.kept (set time row) = L.kept row
  | _, s, _, .commit => L.Backed s
  | _, _, _, _ => True

/-- Every statement of the program is orderly. -/
abbrev Keeping (p : Program S ε α) (s : Session S) (Q : Except ε α → Session S → Prop) : Prop :=
  Each (fun s d => L.Lasts s.seen d) (fun _ => True) L.Orderly p s Q

/-- A key that a foreign key may refer to: a row has it that was there at the last statement, or one
that is to be written. -/
def Provides (s : Session S) (key : S.Table × List Nat) : Prop :=
  (∃ row ∈ s.seen key.1, key.2 ∈ S.candidates row) ∨
    ∃ old new, (⟨key.1, old, new⟩ : Write S) ∈ s.pending ∧ key.2 ∈ S.candidates new

/-- What holds of the pending writes of an orderly transaction. -/
structure Tracked (s : Session S) : Prop where
  tidy : Tidy s.pending
  keeps : ∀ w ∈ s.pending, ∀ old ∈ w.old, L.kept old = L.kept w.new
  provides : ∀ w ∈ s.pending, w.old = none → ∀ key ∈ S.parents w.new, Provides s key

variable {L} {watched : Prop} {s : Session S} {d d' : Database S}

/-- Kept columns keep the identifier. -/
theorem ident_of_kept {t : S.Table} {row row' : S.Row t} (h : L.kept row = L.kept row') :
    S.ident row = S.ident row' := by
  rw [← L.ident_kept row, h, L.ident_kept]

/-- They keep the references. -/
theorem parents_of_kept {t : S.Table} {row row' : S.Row t} (h : L.kept row = L.kept row') :
    S.parents row = S.parents row' := by
  rw [← L.parents_kept row, h, L.parents_kept]

/-- They keep the keys that others may refer to. -/
theorem candidates_of_kept {t : S.Table} {row row' : S.Row t} (h : L.kept row = L.kept row') :
    S.candidates row = S.candidates row' := by
  rw [← L.candidates_kept row, h, L.candidates_kept]

/-- They keep the name of the row. -/
theorem name_of_kept {t : S.Table} {row row' : S.Row t} (h : L.kept row = L.kept row') :
    L.name row = L.name row' := by
  rw [← L.name_kept row, h, L.name_kept]

/-- They keep the names that it refers to. -/
theorem names_of_kept {t : S.Table} {row row' : S.Row t} (h : L.kept row = L.kept row') :
    L.names row = L.names row' := by
  rw [← L.names_kept row, h, L.names_kept]

/-- A name that was there stays. -/
theorem stored_lasts (h : L.Lasts d d') {name : L.Name} (hname : L.Stored d name) :
    L.Stored d' name := by
  obtain ⟨t, row, hrow, rfl⟩ := hname
  obtain ⟨row', hrow', hkept⟩ := h t row hrow
  exact ⟨t, row', hrow', name_of_kept hkept⟩

/-- A name that the session holds stays, as long as its pending writes do. -/
theorem holds_lasts (h : L.Lasts s.seen d) {s' : Session S} (hseen : s'.seen = d)
    (hpending : ∀ w ∈ s.pending, w ∈ s'.pending) {name : L.Name} (hname : L.Holds s name) :
    L.Holds s' name := by
  rcases hname with hstored | ⟨w, hw, heq⟩
  · left
    rw [hseen]
    exact stored_lasts h hstored
  · exact .inr ⟨w, hpending w hw, heq⟩

/-- A key that was there stays. -/
theorem candidate_lasts (h : L.Lasts d d') {key : S.Table × List Nat}
    (hkey : ∃ row ∈ d key.1, key.2 ∈ S.candidates row) :
    ∃ row ∈ d' key.1, key.2 ∈ S.candidates row := by
  obtain ⟨row, hrow, hcandidate⟩ := hkey
  obtain ⟨row', hrow', hkept⟩ := h key.1 row hrow
  rw [← candidates_of_kept hkept] at hcandidate
  exact ⟨row', hrow', hcandidate⟩

/-- A session without pending writes. -/
theorem tracked_nil (h : s.pending = []) : L.Tracked s := by
  constructor
  · rw [h]
    exact tidy_nil
  · intro w hw
    rw [h] at hw
    cases hw
  · intro w hw
    rw [h] at hw
    cases hw

/-- The rows last while the transaction is committed. -/
theorem lasts_view (hd : (L.rules watched).Relies s d)
    (hkeeps : ∀ w ∈ s.pending, ∀ old ∈ w.old, L.kept old = L.kept w.new) :
    L.Lasts d (s.view d) := by
  intro t row hrow
  by_cases hwritten : ∃ w ∈ s.pending, w.table = t
  · obtain ⟨w, hw, rfl⟩ := hwritten
    by_cases hident : S.ident row = S.ident w.new
    · -- The row is the one that the write replaces.
      have hstands := hd.stands w hw
      cases hold : w.old with
      | none => exact absurd hident (hstands.inserts hold row hrow)
      | some old =>
          obtain ⟨hmem, hsame⟩ := hstands.replaces old hold
          have heq : row = old := eq_of_ident_eq (hd.consistent w.table) hrow hmem
            (hident.trans hsame.symm)
          refine ⟨w.new, (mem_view_iff hd hw).mpr (.inl rfl), ?_⟩
          rw [heq, hkeeps w hw old hold]
    · exact ⟨row, (mem_view_iff hd hw).mpr (.inr ⟨hrow, hident⟩), rfl⟩
  · rw [view_of_not_written fun w hw heq => hwritten ⟨w, hw, heq.symm⟩]
    exact ⟨row, hrow, rfl⟩

/-- What a session provides it provides later. -/
theorem provides_seen (h : L.Lasts s.seen d) {s' : Session S} (hseen : s'.seen = d)
    (hpending : ∀ w ∈ s.pending, w ∈ s'.pending) {key : S.Table × List Nat}
    (hkey : Provides s key) : Provides s' key := by
  rcases hkey with hrow | ⟨old, new, hw, hcandidate⟩
  · left
    rw [hseen]
    exact candidate_lasts h hrow
  · exact .inr ⟨old, new, hpending _ hw, hcandidate⟩

/-- A key that is provided is that of a row. -/
theorem candidate_of_provides (hd : (L.rules watched).Relies s d) (hs : L.Tracked s)
    {key : S.Table × List Nat} (hkey : Provides s key) :
    ∃ row ∈ s.view d key.1, key.2 ∈ S.candidates row := by
  rcases hkey with hrow | ⟨old, new, hw, hcandidate⟩
  · exact candidate_lasts (lasts_view hd hs.keeps) (candidate_lasts hd.evolves hrow)
  · exact ⟨new, (mem_view_iff hd hw).mpr (.inl rfl), hcandidate⟩

/-- References stay intact in the view of a session. -/
theorem referential_view (hd : (L.rules watched).Relies s d) (hs : L.Tracked s) :
    Referential (s.view d) := by
  have hcommitted : ∀ {t : S.Table} {row : S.Row t}, row ∈ d t → ∀ key ∈ S.parents row,
      ∃ parent ∈ s.view d key.1, key.2 ∈ S.candidates parent := fun hrow key hkey =>
    candidate_lasts (lasts_view hd hs.keeps) (hd.invariant.1 _ _ hrow key hkey)
  intro t row hrow key hkey
  rcases mem_of_apply_all hrow with hrow | ⟨old, hw⟩
  · exact hcommitted hrow key hkey
  · cases old with
    | none => exact candidate_of_provides hd hs (hs.provides _ hw rfl key hkey)
    | some old =>
        rw [← parents_of_kept (hs.keeps _ hw old rfl)] at hkey
        exact hcommitted ((hd.stands _ hw).replaces old rfl).1 key hkey

/-- What the transaction names is there when it is committed. -/
theorem named_view (hd : (L.rules watched).Relies s d) (hs : L.Tracked s) (hbacked : L.Backed s)
    (hwatched : watched) : L.Named (s.view d) := by
  have hcommitted : ∀ {t : S.Table} {row : S.Row t}, row ∈ d t → ∀ name ∈ L.names row,
      L.Stored (s.view d) name := fun hrow name hname =>
    stored_lasts (lasts_view hd hs.keeps) (hd.invariant.2 hwatched _ _ hrow name hname)
  intro t row hrow name hname
  rcases mem_of_apply_all hrow with hrow | ⟨old, hw⟩
  · exact hcommitted hrow name hname
  · cases old with
    | none =>
        rcases hbacked _ hw rfl name hname with hstored | ⟨w, hpending, heq⟩
        · exact stored_lasts (lasts_view hd hs.keeps) (stored_lasts hd.evolves hstored)
        · exact ⟨w.table, w.new, (mem_view_iff hd hpending).mpr (.inl rfl), heq⟩
    | some old =>
        rw [← names_of_kept (hs.keeps _ hw old rfl)] at hname
        exact hcommitted ((hd.stands _ hw).replaces old rfl).1 name hname

/-! ## Orderly programs -/

/-- A statement that leaves the pending writes as they are. -/
theorem tracked_seen (hd : (L.rules watched).Relies s d) (hs : L.Tracked s) {s' : Session S}
    (hseen : s'.seen = d) (hpending : s'.pending = s.pending) : L.Tracked s' := by
  constructor
  · rw [hpending]
    exact hs.tidy
  · rw [hpending]
    exact hs.keeps
  · intro w hw hnone key hkey
    rw [hpending] at hw
    exact provides_seen hd.evolves hseen (fun w hw => hpending ▸ hw)
      (hs.provides w hw hnone key hkey)

/-- A write that the constraints admit. -/
theorem tracked_write (hd : (L.rules watched).Relies s d) (hs : L.Tracked s) {w : Write S}
    (hfresh : ∀ w' ∈ s.pending, w.table ≠ w'.table)
    (hkeeps : ∀ old ∈ w.old, L.kept old = L.kept w.new) (answer : β) :
    L.Tracked (s.write d w answer).2 := by
  cases hadmits : admits (s.view d) w with
  | false =>
      rw [Session.write_of_refused answer hadmits]
      exact tracked_nil rfl
  | true =>
      rw [Session.write_of_admits answer hadmits]
      have hmem : ∀ w' ∈ s.pending ++ [w], w' ∈ s.pending ∨ w' = w := by
        intro w' hw'
        simpa using hw'
      constructor
      · exact tidy_concat hs.tidy hfresh fun old hold => ident_of_kept (hkeeps old hold)
      · intro w' hw'
        rcases hmem w' hw' with hw' | rfl
        · exact hs.keeps w' hw'
        · exact hkeeps
      · intro w' hw' hnone key hkey
        rcases hmem w' hw' with hw' | rfl
        · exact provides_seen hd.evolves rfl (fun w hw => List.mem_append_left _ hw)
            (hs.provides w' hw' hnone key hkey)
        · -- The constraint has found the row that the foreign key names.
          have hkey' : key ∈ w'.newParents := by
            unfold Write.newParents
            rw [hnone]
            simpa using hkey
          unfold admits at hadmits
          simp only [Bool.and_eq_true, List.all_eq_true, List.any_eq_true, decide_eq_true_eq]
            at hadmits
          obtain ⟨parent, hparent, hcandidate⟩ := hadmits.2 key hkey'
          rcases mem_of_apply_all hparent with hparent | ⟨old, hw⟩
          · exact .inl ⟨parent, hparent, hcandidate⟩
          · exact .inr ⟨old, parent, List.mem_append_left _ hw, hcandidate⟩

/-- An orderly statement keeps the rules, and the transaction stays orderly. -/
theorem steady_of_orderly (hd : (L.rules watched).Relies s d) (hs : L.Tracked s)
    {statement : Statement S β}
    (h : L.Orderly s d statement) {answer : Except DbError β} {s' : Session S}
    (hanswer : s.Answers d statement answer s') :
    (L.rules watched).Guarantees d s' ∧ L.Tracked s' := by
  cases hanswer with
  | abort => exact ⟨hd.guarantees rfl tidy_nil, tracked_nil rfl⟩
  | respond value =>
      cases statement with
      | uuid4 => exact ⟨hd.guarantees rfl hd.tidy, tracked_seen hd hs rfl rfl⟩
      | select query => exact ⟨hd.guarantees rfl hd.tidy, tracked_seen hd hs rfl rfl⟩
      | insert t row =>
          rw [Session.respond_insert]
          have hfresh : ∀ w ∈ s.pending, t ≠ w.table := h
          exact ⟨Rules.guarantees_write hd () hfresh (by simp),
            tracked_write (w := ⟨t, none, row value⟩) hd hs hfresh (by simp) ()⟩
      | update t id condition set =>
          cases hfind : (s.view d t).find? fun r => S.ident r = id && condition r with
          | none =>
              rw [Session.respond_update_none value set hfind]
              exact ⟨hd.guarantees rfl hd.tidy, tracked_seen hd hs rfl rfl⟩
          | some old =>
              rw [Session.respond_update_some value set hfind]
              have hkeeps : ∀ old' ∈ some old, L.kept old' = L.kept (set value old) := by
                intro old' hold
                rw [Option.mem_some_iff] at hold
                rw [← hold, h.2]
              exact ⟨Rules.guarantees_write hd true h.1 fun old' hold =>
                ident_of_kept (hkeeps old' hold), tracked_write hd hs h.1 hkeeps true⟩
      | commit =>
          exact ⟨⟨⟨referential_view hd hs, named_view hd hs h⟩, lasts_view hd hs.keeps, tidy_nil⟩,
            tracked_nil rfl⟩
      | rollback => exact ⟨hd.guarantees rfl tidy_nil, tracked_nil rfl⟩

/-- An orderly program keeps the rules. -/
theorem wp_of_keeping {p : Program S ε α} {Q : Except ε α → Session S → Prop}
    (h : L.Keeping p s Q) (hs : L.Tracked s) : (L.rules watched).wp p s Q := by
  induction p generalizing s with
  | done result => exact h
  | perform statement next ih =>
      intro d hd
      obtain ⟨horderly, hnext⟩ := h d hd.evolves
      refine ⟨fun answer s' hanswer => (steady_of_orderly hd hs horderly hanswer).1, ?_⟩
      intro answer s' hanswer _
      exact ih answer (hnext answer s' hanswer trivial) (steady_of_orderly hd hs horderly hanswer).2

end Lasting

end GrowthOs.Library
