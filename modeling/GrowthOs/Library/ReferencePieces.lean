import GrowthOs.Library.CharacterReferences
import Mathlib.Data.List.Perm.Basic

/-!
# References one by one

When the references of a text are decoded one by one as the parser reports them, without word of
whether a semicolon followed, the pieces that come out differ from what the decoder makes of the
whole text in three ways. No two differences make up for each other, also where white space does not
count: the texts agree only when every piece does (`flat_eq_iff`).
-/

namespace GrowthOs.Library

open Text

/-- No semicolon and no number sign. -/
def Clean (s : Text) : Prop := ∀ c ∈ s, c ≠ 0x3B ∧ c ≠ 0x23

/-- How the visible text of a piece differs: it has a semicolon too many, it starts with another
character, or it spells a number out. -/
inductive Differs : Text → Text → Prop where
  | longer {s : Text} : s ≠ [] → Clean s → Differs (s ++ [0x3B]) s
  | other {s t : Text} : t ≠ [] → Clean t → s.length ≤ t.length →
      (s = [] ∨ s.head? ≠ t.head?) → Differs s t
  | spelled {digits text : Text} {letter : Nat} : digits ≠ [] → (∀ c ∈ digits, isDigit c = true) →
      isHexLetter letter = true → text.length ≤ 1 →
      Differs (0x26 :: 0x23 :: (digits ++ [letter])) (text ++ [letter])

/-- Texts that differ are not equal. -/
theorem Differs.ne {s t : Text} (h : Differs s t) : s ≠ t := by
  cases h with
  | longer => simp
  | other hne _ _ hhead =>
      rintro rfl
      rcases hhead with hnil | hhead
      · exact hne hnil
      · exact hhead rfl
  | spelled hdigits _ _ htext =>
      intro h
      have hlength := congrArg List.length h
      simp only [List.length_cons, List.length_append, List.length_nil] at hlength
      omega

/-- Clean texts are clean together. -/
theorem Clean.append {s t : Text} (hs : Clean s) (ht : Clean t) : Clean (s ++ t) :=
  fun c hc => (List.mem_append.mp hc).elim (hs c) (ht c)

/-- So is a text of clean characters. -/
theorem Clean.of_subset {s t : Text} (ht : Clean t) (hst : ∀ c ∈ s, c ∈ t) : Clean s :=
  fun c hc => ht c (hst c hc)

/-- A semicolon starts no clean text. -/
theorem Clean.head_ne {s t u : Text} (hs : s ≠ []) (hclean : Clean s) : 0x3B :: t ≠ s ++ u := by
  intro h
  cases s with
  | nil => exact hs rfl
  | cons c s =>
      rw [List.cons_append, List.cons.injEq] at h
      exact (hclean c List.mem_cons_self).1 h.1.symm

/-- A hexadecimal letter is no punctuation of a reference, no digit and no space. -/
theorem hex_letter_cases {letter : Nat} (h : isHexLetter letter = true) :
    letter ≠ 0x3B ∧ letter ≠ 0x23 ∧ letter ≠ 0x26 ∧ isDigit letter = false ∧
      isSpace letter = false := by
  have hsmall : letter < 0x67 := by
    simp only [isHexLetter, Bool.or_eq_true, Bool.and_eq_true, decide_eq_true_eq] at h
    omega
  have hall : ∀ c < 0x67, isHexLetter c = true →
      c ≠ 0x3B ∧ c ≠ 0x23 ∧ c ≠ 0x26 ∧ isDigit c = false ∧ isSpace c = false := by decide
  exact hall letter hsmall h

/-- The first part of a text is the first part of the longer first part. -/
theorem first_part {a u v w : Text} (hle : a.length ≤ w.length) (h : a ++ u = w ++ v) :
    ∃ rest, w = a ++ rest ∧ u = rest ++ v := by
  obtain ⟨rest, hrest⟩ := List.prefix_of_prefix_length_le (List.prefix_append a u)
    (h ▸ List.prefix_append w v) hle
  refine ⟨rest, hrest.symm, ?_⟩
  rw [← hrest, List.append_assoc] at h
  exact List.append_cancel_left h

/-- A letter after one character at most is the first or the second character. -/
theorem letter_of_append {c d letter : Nat} {s text rest : Text} (htext : text.length ≤ 1)
    (h : c :: d :: s = text ++ [letter] ++ rest) : c = letter ∨ d = letter := by
  match text with
  | [] => exact Or.inl (List.cons.inj h).1
  | [t] => exact Or.inr (List.cons.inj (List.cons.inj h).2).1
  | _ :: _ :: _ => simp at htext

/-- A character that is the same in front of a text and after it is cancelled. -/
theorem cancel_shift {c : Nat} {s t u : Text} (h : c :: (s ++ t) = s ++ u) : c :: t = u := by
  induction s with
  | nil => exact h
  | cons d s ih =>
      obtain ⟨rfl, h⟩ := List.cons.inj h
      exact ih h

section

variable {pieces : List (Text × Text)}
  (hpieces : ∀ piece ∈ pieces, piece.1 = piece.2 ∨ Differs piece.1 piece.2)

include hpieces

/-- A debt of the first texts is never made up for. -/
theorem debt_right {w : Text} (hw : w ≠ []) (hclean : Clean w) :
    pieces.flatMap Prod.fst ≠ w ++ pieces.flatMap Prod.snd := by
  induction pieces generalizing w with
  | nil => simpa using hw.symm
  | cons piece pieces ih =>
      obtain ⟨a, b⟩ := piece
      rw [List.forall_mem_cons] at hpieces
      obtain ⟨hpiece, hpieces⟩ := hpieces
      have hlength : 0 < w.length := List.length_pos_iff.mpr hw
      intro h
      rw [List.flatMap_cons, List.flatMap_cons, ← List.append_assoc] at h
      change a = b ∨ Differs a b at hpiece
      change a ++ pieces.flatMap Prod.fst = (w ++ b) ++ pieces.flatMap Prod.snd at h
      rcases hpiece with rfl | hdiffers
      · -- What is taken from the front of the debt is added at its end.
        obtain ⟨rest, hrest, htail⟩ := first_part (by simp) h
        have hperm : (a ++ rest).Perm (a ++ w) := hrest ▸ List.perm_append_comm
        have hrestperm := (List.perm_append_left_iff a).mp hperm
        refine ih hpieces ?_ (hclean.of_subset fun c hc => hrestperm.mem_iff.mp hc) htail
        rw [← List.length_pos_iff, hrestperm.length_eq]
        exact hlength
      · cases hdiffers with
        | longer hb hbclean =>
            obtain ⟨rest, hrest, -⟩ := first_part (by simp; omega) h
            have hmem : 0x3B ∈ w ++ b := by
              rw [hrest]
              simp
            exact (hclean.append hbclean _ hmem).1 rfl
        | other hb hbclean hle _ =>
            obtain ⟨rest, hrest, htail⟩ := first_part (by simp; omega) h
            have hsub : ∀ c ∈ rest, c ∈ w ++ b := fun c hc => by
              rw [hrest]
              exact List.mem_append_right _ hc
            refine ih hpieces ?_ ((hclean.append hbclean).of_subset hsub) htail
            have hsum := congrArg List.length hrest
            rw [List.length_append, List.length_append] at hsum
            rw [← List.length_pos_iff]
            omega
        | @spelled digits text letter hdigits hall hletter htext =>
            -- The number sign would have to be in the debt, or what it is compared with is a letter.
            cases w with
            | nil => exact hw rfl
            | cons c w =>
                obtain ⟨-, h⟩ := List.cons.inj h
                cases w with
                | nil =>
                    cases digits with
                    | nil => exact hdigits rfl
                    | cons digit digits =>
                        rcases letter_of_append htext h with heq | heq
                        · exact (hex_letter_cases hletter).2.1 heq.symm
                        · have hdigit := hall digit List.mem_cons_self
                          rw [heq, (hex_letter_cases hletter).2.2.2.1] at hdigit
                          cases hdigit
                | cons d w =>
                    obtain ⟨rfl, -⟩ := List.cons.inj h
                    exact (hclean 0x23 (by simp)).2 rfl

/-- A semicolon that the first texts are short of is never made up for. -/
theorem debt_left : 0x3B :: pieces.flatMap Prod.fst ≠ pieces.flatMap Prod.snd := by
  induction pieces with
  | nil => exact List.cons_ne_nil _ _
  | cons piece pieces ih =>
      obtain ⟨a, b⟩ := piece
      rw [List.forall_mem_cons] at hpieces
      obtain ⟨hpiece, hpieces⟩ := hpieces
      intro h
      change a = b ∨ Differs a b at hpiece
      change 0x3B :: (a ++ pieces.flatMap Prod.fst) = b ++ pieces.flatMap Prod.snd at h
      rcases hpiece with rfl | hdiffers
      · exact ih hpieces (cancel_shift h)
      · cases hdiffers with
        | longer hb hbclean => exact hbclean.head_ne hb h
        | other hb hbclean _ _ => exact hbclean.head_ne hb h
        | spelled hdigits hall hletter htext =>
            rcases letter_of_append htext h with heq | heq
            · exact (hex_letter_cases hletter).1 heq.symm
            · exact (hex_letter_cases hletter).2.2.1 heq.symm

/-- The texts agree exactly where all their pieces do. -/
theorem flat_eq_iff :
    pieces.flatMap Prod.fst = pieces.flatMap Prod.snd ↔ ∀ piece ∈ pieces, piece.1 = piece.2 := by
  constructor
  · intro h
    induction pieces with
    | nil => exact fun _ hmem => nomatch hmem
    | cons piece pieces ih =>
        obtain ⟨a, b⟩ := piece
        rw [List.forall_mem_cons] at hpieces ⊢
        obtain ⟨hpiece, hpieces⟩ := hpieces
        change a = b ∨ Differs a b at hpiece
        change a ++ pieces.flatMap Prod.fst = b ++ pieces.flatMap Prod.snd at h
        rcases hpiece with rfl | hdiffers
        · exact ⟨rfl, ih hpieces (List.append_cancel_left h)⟩
        · -- The first piece that differs is never made up for.
          exfalso
          cases hdiffers with
          | longer hb hbclean =>
              rw [List.append_assoc] at h
              exact debt_left hpieces (List.append_cancel_left h)
          | other hb hbclean _ hhead =>
              cases a with
              | nil => exact debt_right hpieces hb hbclean h
              | cons c a =>
                  cases b with
                  | nil => exact hb rfl
                  | cons d b =>
                      have hcd : c = d := (List.cons.inj h).1
                      rcases hhead with hhead | hhead
                      · cases hhead
                      · exact hhead (congrArg some hcd)
          | spelled hdigits hall hletter htext =>
              rcases letter_of_append htext h with heq | heq
              · exact (hex_letter_cases hletter).2.2.1 heq.symm
              · exact (hex_letter_cases hletter).2.1 heq.symm
  · intro h
    rw [List.flatMap_congr h]

end

/-- A name starts with a letter, and a number that is spelled out is followed by a letter. -/
def Segment.WellFormed : Segment → Prop
  | .named name _ => name.head?.any isLetter = true ∧ ∀ c ∈ name, isEntityChar c = true
  | .stray digits letter =>
      digits ≠ [] ∧ (∀ c ∈ digits, isDigit c = true) ∧ isHexLetter letter = true
  | _ => True

/-- A number in front of a hexadecimal digit is a decimal one. -/
theorem match_number_stray {s body rest : Text} {d : Nat}
    (h : matchNumber s = some (body, d :: rest))
    (hd : isHexDigit d = true) : (Segment.stray body d).WellFormed := by
  cases s with
  | nil => cases h
  | cons c s =>
      by_cases hc : isDigit c = true
      · rw [matchNumber, if_pos hc] at h
        obtain ⟨rfl, hdrop⟩ := Prod.mk.inj (Option.some.inj h)
        have hdigit : isDigit d = false := by
          have hnot := List.head?_dropWhile_not isDigit s
          rw [hdrop] at hnot
          simpa using hnot
        refine ⟨List.cons_ne_nil _ _, ?_, ?_⟩
        · rw [List.forall_mem_cons]
          exact ⟨hc, fun e he => List.mem_takeWhile_imp he⟩
        · rwa [isHexDigit, hdigit, Bool.false_or] at hd
      · by_cases hx : (c = 0x78 ∨ c = 0x58) ∧ s.takeWhile isHexDigit ≠ []
        · rw [matchNumber, if_neg hc, if_pos hx] at h
          obtain ⟨-, hdrop⟩ := Prod.mk.inj (Option.some.inj h)
          have hnot := List.head?_dropWhile_not isHexDigit s
          rw [hdrop] at hnot
          simp [hd] at hnot
        · rw [matchNumber, if_neg hc, if_neg hx] at h
          cases h

/-- The pieces of a text are well formed. -/
theorem segments_well_formed (s : Text) : ∀ piece ∈ segments s, piece.WellFormed := by
  fun_induction segments s with
  | case1 => exact fun _ hmem => absurd hmem List.not_mem_nil
  | case2 s name rest hentity _ _ ih =>
      obtain ⟨-, hletter, hname, -⟩ := match_entity_split hentity
      exact List.forall_mem_cons.mpr ⟨⟨hletter, hname⟩, ih⟩
  | case3 s hentity body hhash =>
      exact List.forall_mem_cons.mpr ⟨trivial, fun _ hmem => absurd hmem List.not_mem_nil⟩
  | case4 s hentity body d rest hhash _ _ _ hd ih =>
      refine List.forall_mem_cons.mpr ⟨?_, ih⟩
      unfold matchHash at hhash
      split at hhash
      · exact match_number_stray hhash hd
      · cases hhash
  | case5 s hentity body d rest hhash _ _ _ hd ih => exact List.forall_mem_cons.mpr ⟨trivial, ih⟩
  | case6 s hentity hhash ih => exact List.forall_mem_cons.mpr ⟨trivial, ih⟩
  | case7 c s hc ih => exact List.forall_mem_cons.mpr ⟨trivial, ih⟩

section

variable (table : EntityTable)

/-- Is what the handlers make of the piece what the decoder makes of it? A name without a semicolon
must be one that may go without. -/
def Segment.faithful : Segment → Bool
  | .named name closed => closed || (table.legacy name).isSome
  | .stray _ _ => false
  | _ => true

/-- Does the piece raise for its handler? -/
def Segment.raises : Segment → Bool
  | .number body _ => numberText body == none
  | _ => false

end

variable {table : EntityTable}

/-- A name that may go without its semicolon. -/
theorem named_text_legacy {name text : Text} (h : table.legacy name = some text) (closed : Bool) :
    namedText table name closed = text := by
  have hlast : name.getLast? ≠ some 0x3B := by
    intro hlast
    have hspelled := (table.named_spelled (table.named_of_legacy h)).2.2
    cases hspelled _ (List.mem_of_getLast? hlast)
  have hopen : table.html5 name = some text := by rw [EntityTable.html5, if_neg hlast, h]
  have hclosed : table.html5 (name ++ [0x3B]) = some text := by
    rw [EntityTable.html5, if_pos (by simp), List.dropLast_concat, table.named_of_legacy h]
  rw [namedText, if_pos (table.legacy_short h)]
  cases closed with
  | false => simp [replaceNamed, hopen]
  | true => simp [replaceNamed, hclosed]

/-- A faithful piece is the same for both. -/
theorem Segment.parsed_of_faithful {piece : Segment} (h : piece.faithful table = true) :
    piece.parsed table = piece.decoded table := by
  cases piece with
  | plain c => rfl
  | number body closed => rfl
  | stray digits letter => cases h
  | named name closed =>
      cases closed with
      | true => rfl
      | false =>
          obtain ⟨text, htext⟩ := Option.isSome_iff_exists.mp h
          rw [Segment.parsed, Segment.decoded, named_text_legacy htext, named_text_legacy htext]

/-- White space is left out part by part. -/
@[simp] theorem visible_append (s t : Text) : visible (s ++ t) = visible s ++ visible t :=
  List.filter_append ..

/-- A text without white space is visible. -/
theorem visible_eq_self {s : Text} (h : ∀ c ∈ s, isSpace c = false) : visible s = s := by
  rw [visible, List.filter_eq_self]
  intro c hc
  rw [h c hc]
  rfl

/-- So is a name. -/
theorem visible_of_entity_chars {s : Text} (h : ∀ c ∈ s, isEntityChar c = true) : visible s = s :=
  visible_eq_self fun c hc => (entity_char_cases (h c hc)).2.2.2.2

/-- The visible part of a clean text is clean. -/
theorem Clean.visible {s : Text} (h : Clean s) : Clean (visible s) :=
  h.of_subset fun _ hc => List.mem_of_mem_filter hc

/-- A name is clean. -/
theorem clean_of_entity_chars {s : Text} (h : ∀ c ∈ s, isEntityChar c = true) : Clean s :=
  fun c hc => ⟨(entity_char_cases (h c hc)).2.2.1, (entity_char_cases (h c hc)).2.2.2.1⟩

/-- The names that are replaced within a longer one. -/
theorem prefix_text_some {s text : Text} {x : Nat} (h : prefixText table s x = some text) :
    ∃ start more found, s = start ++ more ∧ start.length ≤ x ∧
      table.html5 start = some found ∧ text = found ++ more := by
  induction x with
  | zero => cases h
  | succ x ih =>
      rw [prefix_text_step] at h
      split at h
      · next found hfound =>
          cases h
          exact ⟨s.take (x + 1), s.drop (x + 1), found, (List.take_append_drop _ _).symm,
            List.length_take_le _ _, hfound, rfl⟩
      · obtain ⟨start, more, found, hs, hlength, hfound, htext⟩ := ih h
        exact ⟨start, more, found, hs, by omega, hfound, htext⟩

/-- A name without its semicolon is looked up among those that may go without. -/
theorem html5_open {name : Text} (h : ∀ c ∈ name, isEntityChar c = true) :
    table.html5 name = table.legacy name := by
  refine if_neg fun hlast => ?_
  exact (entity_char_cases (h _ (List.mem_of_getLast? hlast))).2.2.1 rfl

/-- What becomes of a name: it stands for a text, a shorter name in front of the rest does, or it
stays. -/
theorem replace_named_parts {name : Text} (hname : ∀ c ∈ name, isEntityChar c = true)
    (hletter : name ≠ []) :
    table.legacy name = some (replaceNamed table name) ∨
      replaceNamed table name = 0x26 :: name ∨
      ∃ start more found, name = start ++ more ∧ more ≠ [] ∧ table.legacy start = some found ∧
        replaceNamed table name = found ++ more := by
  unfold replaceNamed
  rw [html5_open hname]
  cases table.legacy name with
  | some text => exact Or.inl rfl
  | none =>
      right
      cases hprefix : prefixText table name (name.length - 1) with
      | none => exact Or.inl rfl
      | some text =>
          obtain ⟨start, more, found, hs, hlength, hfound, htext⟩ := prefix_text_some hprefix
          have hstart : ∀ c ∈ start, isEntityChar c = true := by
            intro c hc
            exact hname c (by rw [hs]; exact List.mem_append_left _ hc)
          refine Or.inr ⟨start, more, found, hs, ?_, html5_open hstart ▸ hfound, htext⟩
          rintro rfl
          rw [List.append_nil] at hs
          have hpos := List.length_pos_iff.mpr hletter
          rw [← hs] at hlength
          omega

/-- What replaces such a name is clean. -/
theorem clean_replace_named {name : Text} (hname : ∀ c ∈ name, isEntityChar c = true)
    (hletter : name ≠ []) : Clean (replaceNamed table name) := by
  rcases replace_named_parts hname hletter with
    hlegacy | hsame | ⟨start, more, found, rfl, hmore, hfound, htext⟩
  · exact (table.legacy_text hlegacy).2
  · rw [hsame]
    have hampersand : Clean [0x26] := by
      unfold Clean
      decide
    exact hampersand.append (clean_of_entity_chars hname)
  · rw [htext]
    refine Clean.append (table.legacy_text hfound).2 (clean_of_entity_chars ?_)
    exact fun c hc => hname c (List.mem_append_right _ hc)

/-- Where the name stays, some of it is visible. -/
theorem visible_replace_named {name : Text} (hname : ∀ c ∈ name, isEntityChar c = true)
    (hne : name ≠ []) (hlegacy : table.legacy name = none) :
    visible (replaceNamed table name) ≠ [] := by
  rcases replace_named_parts hname hne with
    hsome | hsame | ⟨start, more, found, rfl, hmore, hfound, htext⟩
  · rw [hlegacy] at hsome
    cases hsome
  · rw [hsame]
    exact List.cons_ne_nil _ _
  · have hvisible := visible_of_entity_chars fun c hc => hname c (List.mem_append_right start hc)
    rw [htext, visible_append, hvisible]
    exact fun hnil => hmore (List.append_eq_nil_iff.mp hnil).2

/-- No reference is what a name with its semicolon is, so the semicolon stays. -/
theorem replace_named_semicolon {name : Text} (hname : ∀ c ∈ name, isEntityChar c = true)
    (hne : name ≠ []) (hnamed : table.named name = none) :
    replaceNamed table (name ++ [0x3B]) = replaceNamed table name ++ [0x3B] := by
  have hlegacy : table.legacy name = none := by
    cases h : table.legacy name with
    | none => rfl
    | some text =>
        rw [table.named_of_legacy h] at hnamed
        cases hnamed
  have hopen : table.html5 name = none := (html5_open hname).trans hlegacy
  have hclosed : table.html5 (name ++ [0x3B]) = none := by
    rw [EntityTable.html5, if_pos (by simp), List.dropLast_concat, hnamed]
  obtain ⟨x, hx⟩ : ∃ x, name.length = x + 1 :=
    ⟨name.length - 1, by have := List.length_pos_iff.mpr hne; omega⟩
  have hall : (name ++ [0x3B]).take (x + 1) = name := by rw [← hx, List.take_left]
  unfold replaceNamed
  rw [hclosed, hopen, List.length_append, hx]
  show (prefixText table (name ++ [0x3B]) (x + 1)).getD _ = (prefixText table name x).getD _ ++ _
  rw [prefix_text_step, hall, hopen]
  show (prefixText table (name ++ [0x3B]) x).getD _ = _
  rw [prefix_text_append name _ (by omega)]
  cases prefixText table name x <;> rfl

/-- The text of a name that needs its semicolon is not what stands for the name without one. -/
theorem named_differs {name text : Text} (hname : ∀ c ∈ name, isEntityChar c = true)
    (hne : name ≠ []) (hlegacy : table.legacy name = none) (hnamed : table.named name = some text) :
    Differs (visible text) (visible (replaceNamed table name)) := by
  obtain ⟨hshort, hampersand, hstart⟩ := table.named_distinct hnamed hlegacy
  have hlength : (visible text).length ≤ 2 := (List.length_filter_le _ _).trans hshort
  have hnonempty := visible_replace_named hname hne hlegacy
  have hclean := (@clean_replace_named table name hname hne).visible
  rcases replace_named_parts hname hne with
    hsome | hsame | ⟨start, more, found, hsplit, hmore, hfound, htext⟩
  · rw [hlegacy] at hsome
    cases hsome
  · have hvisible : visible (replaceNamed table name) = 0x26 :: name := by
      rw [hsame]
      exact congrArg (0x26 :: ·) (visible_of_entity_chars hname)
    rw [hvisible] at hnonempty hclean ⊢
    refine .other hnonempty hclean ?_ (Or.inr hampersand)
    have hpos := List.length_pos_iff.mpr hne
    rw [List.length_cons]
    omega
  · obtain ⟨hfirst, hhead⟩ := hstart hsplit hfound
    have hchars : ∀ c ∈ more, isEntityChar c = true := by
      intro c hc
      exact hname c (by rw [hsplit]; exact List.mem_append_right _ hc)
    have hvisible : visible (replaceNamed table name) = visible found ++ more := by
      rw [htext, visible_append, visible_of_entity_chars hchars]
    rw [hvisible] at hnonempty hclean ⊢
    refine .other hnonempty hclean ?_ (Or.inr ?_)
    · have hfirstpos := List.length_pos_iff.mpr hfirst
      have hmorepos := List.length_pos_iff.mpr hmore
      rw [List.length_append]
      omega
    · rwa [List.head?_append, Option.or_of_isSome (by simpa using hfirst)]

/-- An open name that may not go without its semicolon is decoded differently with one. -/
theorem named_text_differs {name : Text} (hletter : name.head?.any isLetter = true)
    (hname : ∀ c ∈ name, isEntityChar c = true) (hlegacy : table.legacy name = none) :
    Differs (visible (namedText table name true)) (visible (namedText table name false)) := by
  have hne : name ≠ [] := by
    rintro rfl
    cases hletter
  by_cases hlong : name.length ≤ 32
  · have htrue : namedText table name true = replaceNamed table (name ++ [0x3B]) := if_pos hlong
    have hfalse : namedText table name false = replaceNamed table name := by
      rw [namedText, if_pos hlong]
      simp
    rw [htrue, hfalse]
    cases hnamed : table.named name with
    | none =>
        rw [replace_named_semicolon hname hne hnamed, visible_append]
        exact .longer (visible_replace_named hname hne hlegacy)
          (clean_replace_named hname hne).visible
    | some text =>
        have hclosed : table.html5 (name ++ [0x3B]) = some text := by
          rw [EntityTable.html5, if_pos (by simp), List.dropLast_concat, hnamed]
        have htext : replaceNamed table (name ++ [0x3B]) = text := by rw [replaceNamed, hclosed]
        rw [htext]
        exact named_differs hname hne hlegacy hnamed
  · -- Beyond 32 characters the semicolon is never part of the reference.
    have hrest : name.drop 32 ≠ [] := by
      rw [Ne, List.drop_eq_nil_iff]
      exact hlong
    have hchars : ∀ c ∈ name.drop 32, isEntityChar c = true :=
      fun c hc => hname c (List.mem_of_mem_drop hc)
    have hfirst : Clean (replaceNamed table (name.take 32)) := by
      refine clean_replace_named (fun c hc => hname c (List.mem_of_mem_take hc)) ?_
      simp [hne]
    rw [namedText, namedText, if_neg hlong, if_neg hlong]
    simp only [if_true, Bool.false_eq_true, if_false, List.append_nil, visible_append,
      visible_of_entity_chars hchars]
    refine .longer ?_ (hfirst.visible.append (clean_of_entity_chars hchars))
    exact fun hnil => hrest (List.append_eq_nil_iff.mp hnil).2

/-- A numeric reference stands for one character at most. -/
theorem code_text_length (code : Nat) : (codeText code).length ≤ 1 := by
  unfold codeText
  split_ifs <;> simp

/-- So does its body. -/
theorem number_text_length {body text : Text} (h : numberText body = some text) :
    text.length ≤ 1 := by
  unfold numberText at h
  split at h
  · cases h
  · split_ifs at h <;> cases h <;> exact code_text_length _

/-- Two texts are joined where neither raised. -/
theorem join_text_some_iff {first second : Option Text} {text : Text}
    (h : joinText first second = some text) :
    ∃ s t, first = some s ∧ second = some t ∧ text = s ++ t := by
  obtain ⟨s, rfl, h⟩ := Option.bind_eq_some_iff.mp h
  obtain ⟨t, rfl, rfl⟩ := Option.map_eq_some_iff.mp h
  exact ⟨s, t, rfl, rfl, rfl⟩

/-- A piece that is not faithful is decoded differently. -/
theorem Segment.differs {piece : Segment} (hformed : piece.WellFormed)
    (hunfaithful : piece.faithful table = false) {first second : Text}
    (hfirst : piece.parsed table = some first) (hsecond : piece.decoded table = some second) :
    Differs (visible first) (visible second) := by
  cases piece with
  | plain c => cases hunfaithful
  | number body closed => cases hunfaithful
  | named name closed =>
      cases hfirst
      cases hsecond
      cases closed with
      | true => cases hunfaithful
      | false =>
          have hlegacy : table.legacy name = none := by
            simpa [Segment.faithful] using hunfaithful
          exact named_text_differs hformed.1 hformed.2 hlegacy
  | stray digits letter =>
      obtain ⟨hne, hdigits, hletter⟩ := hformed
      cases hfirst
      obtain ⟨text, _, htext, hlast, rfl⟩ := join_text_some_iff hsecond
      cases hlast
      have hspace := (hex_letter_cases hletter).2.2.2.2
      have hspelled : visible (0x26 :: 0x23 :: digits ++ [letter]) =
          0x26 :: 0x23 :: (digits ++ [letter]) := by
        refine visible_eq_self fun c hc => ?_
        simp only [List.cons_append, List.mem_cons, List.mem_append, List.not_mem_nil,
          or_false] at hc
        rcases hc with rfl | rfl | hc | rfl
        · rfl
        · rfl
        · exact (entity_char_cases (by simp [isEntityChar, hdigits c hc])).2.2.2.2
        · exact hspace
      have hlast : visible [letter] = [letter] := visible_eq_self (by simpa using hspace)
      rw [hspelled, visible_append, hlast]
      exact .spelled hne hdigits hletter
        ((List.length_filter_le _ _).trans (number_text_length htext))

/-- What the handlers and the decoder leave visible of the pieces. -/
def pieceTexts (table : EntityTable) (pieces : List Segment) : List (Text × Text) :=
  pieces.map fun piece =>
    (visible ((piece.parsed table).getD []), visible ((piece.decoded table).getD []))

/-- Where nothing raises, what is visible is what is visible of the pieces. -/
theorem visible_join_all {f : Segment → Option Text} {pieces : List Segment} {text : Text}
    (h : joinAll (pieces.map f) = some text) :
    visible text = pieces.flatMap (fun piece => visible ((f piece).getD [])) ∧
      ∀ piece ∈ pieces, ∃ s, f piece = some s := by
  induction pieces generalizing text with
  | nil =>
      cases h
      exact ⟨rfl, fun _ hmem => nomatch hmem⟩
  | cons piece pieces ih =>
      obtain ⟨s, t, hpiece, hpieces, rfl⟩ := join_text_some_iff h
      obtain ⟨hvisible, hall⟩ := ih hpieces
      refine ⟨?_, List.forall_mem_cons.mpr ⟨⟨s, hpiece⟩, hall⟩⟩
      rw [visible_append, hvisible, List.flatMap_cons, hpiece, Option.getD_some]

/-- Where neither raises and the same is visible, every piece is faithful. -/
theorem faithful_of_visible {pieces : List Segment} {first second : Text}
    (hformed : ∀ piece ∈ pieces, piece.WellFormed)
    (hfirst : joinAll (pieces.map (Segment.parsed table)) = some first)
    (hsecond : joinAll (pieces.map (Segment.decoded table)) = some second)
    (hvisible : visible first = visible second) :
    ∀ piece ∈ pieces, piece.faithful table = true := by
  obtain ⟨hfirsts, hparsed⟩ := visible_join_all hfirst
  obtain ⟨hseconds, hdecoded⟩ := visible_join_all hsecond
  have hdiffers : ∀ piece ∈ pieces, piece.faithful table = false →
      Differs (visible ((piece.parsed table).getD []))
      (visible ((piece.decoded table).getD [])) := by
    intro piece hmem hunfaithful
    obtain ⟨s, hs⟩ := hparsed piece hmem
    obtain ⟨t, ht⟩ := hdecoded piece hmem
    rw [hs, ht]
    exact Segment.differs (hformed piece hmem) hunfaithful hs ht
  have hpieces : ∀ texts ∈ pieceTexts table pieces, texts.1 = texts.2 ∨
      Differs texts.1 texts.2 := by
    intro texts htexts
    obtain ⟨piece, hmem, rfl⟩ := List.mem_map.mp htexts
    cases hfaithful : piece.faithful table with
    | true => exact Or.inl (by rw [Segment.parsed_of_faithful hfaithful])
    | false => exact Or.inr (hdiffers piece hmem hfaithful)
  have hflat : (pieceTexts table pieces).flatMap Prod.fst =
      (pieceTexts table pieces).flatMap Prod.snd := by
    rw [pieceTexts, List.flatMap_map, List.flatMap_map, ← hfirsts, ← hseconds, hvisible]
  have hequal := (flat_eq_iff hpieces).mp hflat
  intro piece hmem
  cases hfaithful : piece.faithful table with
  | true => rfl
  | false =>
      have hsame := hequal _ (List.mem_map_of_mem hmem)
      exact absurd hsame (hdiffers piece hmem hfaithful).ne

/-- Faithful pieces are decoded as the whole text is. -/
theorem joined_of_faithful {pieces : List Segment}
    (h : ∀ piece ∈ pieces, piece.faithful table = true) :
    joinAll (pieces.map (Segment.parsed table)) = joinAll (pieces.map (Segment.decoded table)) := by
  rw [List.map_congr_left fun piece hmem => Segment.parsed_of_faithful (h piece hmem)]

/-! ## Whole texts -/

/-- Does a numeric reference raise that the parser reports? -/
def raises (s : Text) : Bool := (segments s).any Segment.raises

/-- Are all references of the text decoded one by one as they are in the whole text? -/
def faithful (table : EntityTable) (s : Text) : Bool := (segments s).all (Segment.faithful table)

/-- A number that raises makes the whole text raise. -/
theorem joined_of_raises {f : Segment → Option Text} {pieces : List Segment}
    (hf : ∀ {body : Text} {closed : Bool}, f (.number body closed) = numberText body)
    (h : pieces.any Segment.raises = true) : joinAll (pieces.map f) = none := by
  induction pieces with
  | nil => cases h
  | cons piece pieces ih =>
      rw [List.map_cons, join_all_cons]
      rw [List.any_cons, Bool.or_eq_true] at h
      rcases h with hpiece | hpieces
      · cases piece with
        | number body closed =>
            have hnone : numberText body = none := by simpa [Segment.raises] using hpiece
            rw [hf, hnone]
            rfl
        | _ => cases hpiece
      · rw [ih hpieces]
        cases f piece <;> rfl

/-- Without such a reference the handlers raise nothing. -/
theorem parsed_of_not_raises {pieces : List Segment} (h : pieces.any Segment.raises = false) :
    ∃ text, joinAll (pieces.map (Segment.parsed table)) = some text := by
  induction pieces with
  | nil => exact ⟨[], rfl⟩
  | cons piece pieces ih =>
      rw [List.any_cons, Bool.or_eq_false_iff] at h
      obtain ⟨t, ht⟩ := ih h.2
      have hpiece : ∃ s, piece.parsed table = some s := by
        cases piece with
        | plain c => exact ⟨_, rfl⟩
        | named name closed => exact ⟨_, rfl⟩
        | stray digits letter => exact ⟨_, rfl⟩
        | number body closed =>
            have hsome : (numberText body).isSome = true := by simpa [Segment.raises] using h.1
            exact Option.isSome_iff_exists.mp hsome
      obtain ⟨s, hs⟩ := hpiece
      exact ⟨s ++ t, by rw [List.map_cons, join_all_cons, hs, ht]; rfl⟩

/-- The references that the parser reports for a text, decoded one by one, are the decoded text as
far as a function that keeps what is visible can tell, exactly where one of them raises or all are
faithful. -/
theorem parsed_text_iff {α : Type} {f : Text → α} {g : α → Text}
    (hf : ∀ text, g (f text) = visible text) (s : Text) :
    (joinAll ((parseText s).map (TextEvent.decoded table))).map f = (unescape table s).map f ↔
      raises s = true ∨ faithful table s = true := by
  rw [parse_segments, unescape_segments]
  cases hraises : raises s with
  | true =>
      rw [joined_of_raises rfl hraises, joined_of_raises rfl hraises]
      simp
  | false =>
      obtain ⟨first, hfirst⟩ := parsed_of_not_raises hraises
      constructor
      · intro h
        right
        rw [hfirst, Option.map_some, eq_comm, Option.map_eq_some_iff] at h
        obtain ⟨second, hsecond, heq⟩ := h
        have hvisible : visible first = visible second := by
          rw [← hf, ← hf, heq]
        exact List.all_eq_true.mpr
          (faithful_of_visible (segments_well_formed s) hfirst hsecond hvisible)
      · rintro (h | h)
        · cases h
        · rw [joined_of_faithful (List.all_eq_true.mp h)]

end GrowthOs.Library
