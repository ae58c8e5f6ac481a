import GrowthOs.Library.Text

/-!
# Character references

`html.unescape`, and the references that `HTMLParser` finds in a text when it does not convert them.
Both read the same text with different expressions: `segments` cuts a text where either finds
something, `unescape_segments` and `parse_segments` say what each makes of the pieces.
-/

namespace GrowthOs.Library

namespace Text

/-- `str.isspace` of a character, which is also `\s` of a regular expression. -/
def isSpace (c : Nat) : Bool :=
  (0x09 ≤ c && c ≤ 0x0D) || (0x1C ≤ c && c ≤ 0x20) || c == 0x85 || c == 0xA0 || c == 0x1680 ||
    (0x2000 ≤ c && c ≤ 0x200A) || c == 0x2028 || c == 0x2029 || c == 0x202F || c == 0x205F ||
    c == 0x3000

/-- What is left of a text without its white space. -/
def visible (s : Text) : Text := s.filter fun c => !isSpace c

/-- `[0-9]`. -/
def isDigit (c : Nat) : Bool := 0x30 ≤ c && c ≤ 0x39

/-- `[a-zA-Z]`. -/
def isLetter (c : Nat) : Bool := (0x41 ≤ c && c ≤ 0x5A) || (0x61 ≤ c && c ≤ 0x7A)

/-- `[a-fA-F]`. -/
def isHexLetter (c : Nat) : Bool := (0x41 ≤ c && c ≤ 0x46) || (0x61 ≤ c && c ≤ 0x66)

/-- `[0-9a-fA-F]`. -/
def isHexDigit (c : Nat) : Bool := isDigit c || isHexLetter c

/-- The number that digits spell in a base. -/
def digitValue (c : Nat) : Nat :=
  if isDigit c then c - 0x30 else if c ≤ 0x46 then c - 0x41 + 10 else c - 0x61 + 10

/-- `int(digits, base)`. -/
def number (base : Nat) (digits : Text) : Nat :=
  digits.foldl (fun total c => total * base + digitValue c) 0

end Text

open Text

/-- The named references of HTML: those that may go without their semicolon, and all of them. A name
is made of letters and digits, and no text of a name that needs its semicolon could be mistaken for
what a shorter name without one stands for. -/
structure EntityTable where
  legacy : Text → Option Text
  named : Text → Option Text
  named_of_legacy : ∀ {name text}, legacy name = some text → named name = some text
  named_spelled : ∀ {name text}, named name = some text →
    2 ≤ name.length ∧ name.head?.any isLetter = true ∧ ∀ c ∈ name, (isLetter c || isDigit c) = true
  legacy_short : ∀ {name text}, legacy name = some text → name.length ≤ 32
  legacy_text : ∀ {name text}, legacy name = some text →
    text ≠ [] ∧ ∀ c ∈ text, c ≠ 0x3B ∧ c ≠ 0x23
  named_distinct : ∀ {name text}, named name = some text → legacy name = none →
    text.length ≤ 2 ∧ (visible text).head? ≠ some 0x26 ∧
      ∀ {start more other}, name = start ++ more → legacy start = some other →
        visible other ≠ [] ∧ (visible text).head? ≠ (visible other).head?

/-- `html.entities.html5`, whose keys have the semicolon. -/
def EntityTable.html5 (table : EntityTable) (key : Text) : Option Text :=
  if key.getLast? = some 0x3B then table.named key.dropLast else table.legacy key

/-- `_invalid_charrefs` from 0x80 on. -/
def windowsCodes : List Nat :=
  [0x20AC, 0x81, 0x201A, 0x192, 0x201E, 0x2026, 0x2020, 0x2021, 0x2C6, 0x2030, 0x160, 0x2039, 0x152,
    0x8D, 0x17D, 0x8F, 0x90, 0x2018, 0x2019, 0x201C, 0x201D, 0x2022, 0x2013, 0x2014, 0x2DC, 0x2122,
    0x161, 0x203A, 0x153, 0x9D, 0x17E, 0x178]

/-- `_invalid_codepoints`, as far as `_invalid_charrefs` does not come before it. -/
def isInvalidCode (code : Nat) : Bool :=
  (0x1 ≤ code && code ≤ 0x8) || code == 0xB || (0xE ≤ code && code ≤ 0x1F) || code == 0x7F ||
    (0xFDD0 ≤ code && code ≤ 0xFDEF) || code % 0x10000 == 0xFFFE || code % 0x10000 == 0xFFFF

/-- The text of a numeric reference. -/
def codeText (code : Nat) : Text :=
  if code = 0 then [0xFFFD]
  else if 0x80 ≤ code ∧ code ≤ 0x9F then [windowsCodes.getD (code - 0x80) 0]
  else if (0xD800 ≤ code ∧ code ≤ 0xDFFF) ∨ 0x10FFFF < code then [0xFFFD]
  else if isInvalidCode code then []
  else [code]

/-- `sys.int_info.default_max_str_digits`. -/
def maxDecimalDigits : Nat := 4300

/-- The text of the numeric reference with this body, after `&#`. `int` raises `ValueError` on too
many decimal digits. -/
def numberText : Text → Option Text
  | [] => none
  | c :: digits =>
      if c = 0x78 ∨ c = 0x58 then some (codeText (number 16 digits))
      else if maxDecimalDigits < (c :: digits).length then none
      else some (codeText (number 10 (c :: digits)))

section

variable (table : EntityTable)

/-- The longest name at the start of `s`, of at most `x` and at least two characters, replaced. -/
def prefixText (s : Text) : Nat → Option Text
  | 0 => none
  | 1 => none
  | x + 2 =>
      match table.html5 (s.take (x + 2)) with
      | some text => some (text ++ s.drop (x + 2))
      | none => prefixText s (x + 1)

/-- `_replace_charref` of a name, with its semicolon if it has one. -/
def replaceNamed (s : Text) : Text :=
  match table.html5 s with
  | some text => text
  | none => (prefixText table s (s.length - 1)).getD (0x26 :: s)

/-- `[^\t\n\f <&#;]`. -/
def isReferenceChar (c : Nat) : Bool :=
  !([0x09, 0x0A, 0x0C, 0x20, 0x3C, 0x26, 0x23, 0x3B].contains c)

/-- `[0-9]+` or `[xX][0-9a-fA-F]+`, and the text after it. -/
def matchNumber : Text → Option (Text × Text)
  | [] => none
  | c :: s =>
      if isDigit c then some (c :: s.takeWhile isDigit, s.dropWhile isDigit)
      else if (c = 0x78 ∨ c = 0x58) ∧ s.takeWhile isHexDigit ≠ [] then
        some (c :: s.takeWhile isHexDigit, s.dropWhile isHexDigit)
      else none

/-- Does the reference before this text end with a semicolon? -/
def closes (s : Text) : Bool := s.head? == some 0x3B

/-- `;?`. -/
def dropSemicolon (s : Text) : Text := if closes s then s.drop 1 else s

/-- A match of `_charref` after its ampersand: what it is replaced by, and the text after it. -/
def matchReference (s : Text) : Option (Option Text × Text) :=
  match s with
  | 0x23 :: s => (matchNumber s).map fun found => (numberText found.1, dropSemicolon found.2)
  | s =>
      let name := (s.takeWhile isReferenceChar).take 32
      let rest := s.drop name.length
      if name = [] then none
      else some (some (replaceNamed table (name ++ if closes rest then [0x3B] else [])),
        dropSemicolon rest)

/-- Two texts one after the other, where neither raised. -/
def joinText (first second : Option Text) : Option Text :=
  first.bind fun s => second.map (s ++ ·)

/-- A text is not longer without its semicolon. -/
theorem drop_semicolon_length (s : Text) : (dropSemicolon s).length ≤ s.length := by
  unfold dropSemicolon
  split
  · exact (List.drop_sublist 1 s).length_le
  · exact le_rfl

/-- A number leaves a shorter text. -/
theorem match_number_length {s body rest : Text} (h : matchNumber s = some (body, rest)) :
    rest.length < s.length := by
  cases s with
  | nil => cases h
  | cons c s =>
      have hdigits := (List.dropWhile_sublist isDigit (l := s)).length_le
      have hhex := (List.dropWhile_sublist isHexDigit (l := s)).length_le
      unfold matchNumber at h
      grind

/-- A reference leaves no longer text. -/
theorem match_reference_length {s rest : Text} {text : Option Text}
    (h : matchReference table s = some (text, rest)) : rest.length ≤ s.length := by
  unfold matchReference at h
  split at h
  · next s =>
      obtain ⟨⟨body, after⟩, hnumber, heq⟩ := Option.map_eq_some_iff.mp h
      cases heq
      have hlength := match_number_length hnumber
      have hdrop := drop_semicolon_length after
      simp only [List.length_cons]
      omega
  · simp only at h
    split at h
    · cases h
    · cases h
      exact (drop_semicolon_length _).trans (List.drop_sublist _ _).length_le

/-- `html.unescape`. -/
def unescape : Text → Option Text
  | [] => some []
  | c :: s =>
      if c = 0x26 then
        match h : matchReference table s with
        | some (text, rest) =>
            have := match_reference_length table h
            joinText text (unescape rest)
        | none => (unescape s).map (c :: ·)
      else (unescape s).map (c :: ·)
termination_by s => s.length

end

/-- What `HTMLParser` without `convert_charrefs` calls its handlers with while it reads a text:
`handle_data`, `handle_entityref` or `handle_charref`. -/
inductive TextEvent where
  | data (text : Text)
  | entityref (name : Text)
  | charref (name : Text)
  deriving DecidableEq

/-- `[-.a-zA-Z0-9]`. -/
def isEntityChar (c : Nat) : Bool := isLetter c || isDigit c || c == 0x2D || c == 0x2E

/-- A match of `entityref` after its ampersand: the name, and the text after it. Where the text
ends, a tag begins. -/
def matchEntity (s : Text) : Option (Text × Text) :=
  if s.head?.any isLetter then some (s.takeWhile isEntityChar, s.dropWhile isEntityChar) else none

/-- `#[0-9]+` or `#[xX][0-9a-fA-F]+` without its number sign, and the text after it. -/
def matchHash : Text → Option (Text × Text)
  | 0x23 :: s => matchNumber s
  | _ => none

/-- A match of `charref` after its ampersand: the name, and the text after it, which does not go on
with a hexadecimal digit. -/
def matchCharref (s : Text) : Option (Text × Text) :=
  (matchHash s).filter fun found => !found.2.head?.any isHexDigit

/-- Nor does a name. -/
theorem match_entity_length {s name rest : Text} (h : matchEntity s = some (name, rest)) :
    rest.length ≤ s.length := by
  unfold matchEntity at h
  split at h
  · cases h
    exact (List.dropWhile_sublist _).length_le
  · cases h

/-- Nor does a number behind its number sign. -/
theorem match_hash_length {s body rest : Text} (h : matchHash s = some (body, rest)) :
    rest.length ≤ s.length := by
  unfold matchHash at h
  split at h
  · have hnumber := match_number_length h
    simp only [List.length_cons]
    omega
  · cases h

/-- Nor does a whole numeric reference. -/
theorem match_charref_length {s name rest : Text} (h : matchCharref s = some (name, rest)) :
    rest.length ≤ s.length :=
  match_hash_length (Option.filter_eq_some_iff.mp h).1

/-- The handler calls for a text without `<` in front of a tag, as the results assume them: a
reference calls its handler, and all other text is passed to `handle_data`. The parser of the
standard library stops at an `&#` that starts no reference. -/
def parseText : Text → List TextEvent
  | [] => []
  | c :: s =>
      if c = 0x26 then
        match hentity : matchEntity s with
        | some (name, rest) =>
            have := match_entity_length hentity
            have := drop_semicolon_length rest
            .entityref name :: parseText (dropSemicolon rest)
        | none =>
            match hcharref : matchCharref s with
            | some (name, rest) =>
                have := match_charref_length hcharref
                have := drop_semicolon_length rest
                .charref name :: parseText (dropSemicolon rest)
            | none => .data [c] :: parseText s
      else .data [c] :: parseText s
termination_by s => s.length

/-- A piece of a text: a character by itself, a named or numeric reference that both expressions
find, with or without its semicolon, or a decimal number that only the decoder takes for a
reference, because a letter that is a hexadecimal digit follows it. -/
inductive Segment where
  | plain (c : Nat)
  | named (name : Text) (closed : Bool)
  | number (body : Text) (closed : Bool)
  | stray (digits : Text) (letter : Nat)
  deriving DecidableEq

/-- The pieces of a text. -/
def segments : Text → List Segment
  | [] => []
  | c :: s =>
      if c = 0x26 then
        match hentity : matchEntity s with
        | some (name, rest) =>
            have := match_entity_length hentity
            have := drop_semicolon_length rest
            .named name (closes rest) :: segments (dropSemicolon rest)
        | none =>
            match hhash : matchHash s with
            | some (body, []) => [.number body false]
            | some (body, d :: rest) =>
                have := match_hash_length hhash
                have := drop_semicolon_length (d :: rest)
                have : rest.length < (d :: rest).length := Nat.lt_succ_self _
                if isHexDigit d then .stray body d :: segments rest
                else .number body (closes (d :: rest)) :: segments (dropSemicolon (d :: rest))
            | none => .plain c :: segments s
      else .plain c :: segments s
termination_by s => s.length

/-- Texts one after the other, where none raised. -/
def joinAll (texts : List (Option Text)) : Option Text := texts.foldr joinText (some [])

section

variable (table : EntityTable)

/-- What `html.unescape` makes of a handler call's reference. -/
def TextEvent.decoded : TextEvent → Option Text
  | .data text => some text
  | .entityref name => unescape table (0x26 :: (name ++ [0x3B]))
  | .charref name => unescape table (0x26 :: 0x23 :: (name ++ [0x3B]))

/-- What the decoder makes of a named reference: at most 32 characters are looked at. -/
def namedText (name : Text) (closed : Bool) : Text :=
  let final : Text := if closed then [0x3B] else []
  if name.length ≤ 32 then replaceNamed table (name ++ final)
  else replaceNamed table (name.take 32) ++ name.drop 32 ++ final

/-- What the handlers make of a piece. -/
def Segment.parsed : Segment → Option Text
  | .plain c => some [c]
  | .named name _ => some (namedText table name true)
  | .number body _ => numberText body
  | .stray digits letter => some (0x26 :: 0x23 :: digits ++ [letter])

/-- What the decoder makes of a piece. -/
def Segment.decoded : Segment → Option Text
  | .plain c => some [c]
  | .named name closed => some (namedText table name closed)
  | .number body _ => numberText body
  | .stray digits letter => joinText (numberText digits) (some [letter])

end

/-! ## What the decoder makes of a text -/

section

variable {table : EntityTable}

/-- A text in front of one that may be missing. -/
theorem join_text_some (s : Text) (t : Option Text) : joinText (some s) t = t.map (s ++ ·) := rfl

/-- The empty text is decoded to itself. -/
theorem unescape_nil : unescape table [] = some [] := by
  rw [unescape]

/-- So is a character that is no ampersand. -/
theorem unescape_plain {c : Nat} (hc : c ≠ 0x26) (s : Text) :
    unescape table (c :: s) = (unescape table s).map (c :: ·) := by
  rw [unescape, if_neg hc]

/-- A reference is replaced. -/
theorem unescape_reference {s rest : Text} {text : Option Text}
    (h : matchReference table s = some (text, rest)) :
    unescape table (0x26 :: s) = joinText text (unescape table rest) := by
  rw [unescape, if_pos rfl]
  split
  · next hfound =>
      rw [h] at hfound
      cases hfound
      rfl
  · next hnone =>
      rw [h] at hnone
      cases hnone

/-- An ampersand that starts none stays. -/
theorem unescape_ampersand {s : Text} (h : matchReference table s = none) :
    unescape table (0x26 :: s) = (unescape table s).map (0x26 :: ·) := by
  rw [unescape, if_pos rfl]
  split
  · next hfound =>
      rw [h] at hfound
      cases hfound
  · rfl

/-- Text without an ampersand stays. -/
theorem unescape_append {first : Text} (h : 0x26 ∉ first) (rest : Text) :
    unescape table (first ++ rest) = (unescape table rest).map (first ++ ·) := by
  induction first with
  | nil =>
      show _ = (unescape table rest).map id
      rw [Option.map_id, id]
      rfl
  | cons c first ih =>
      rw [List.mem_cons, not_or] at h
      rw [List.cons_append, unescape_plain (Ne.symm h.1), ih h.2, Option.map_map]
      rfl

/-- A key is a name, or a name with its semicolon. -/
theorem html5_some {key text : Text} (h : table.html5 key = some text) :
    ∃ name, table.named name = some text ∧ (key = name ∨ key = name ++ [0x3B]) := by
  unfold EntityTable.html5 at h
  split at h
  · next hlast =>
      refine ⟨key.dropLast, h, Or.inr ?_⟩
      obtain ⟨init, rfl⟩ := List.getLast?_eq_some_iff.mp hlast
      rw [List.dropLast_concat]
  · exact ⟨key, table.named_of_legacy h, Or.inl rfl⟩

/-- No key has a character that is no letter, no digit and no semicolon. -/
theorem html5_none {first rest : Text} {c : Nat} (hc : (isLetter c || isDigit c) = false)
    (hsemicolon : c ≠ 0x3B) : table.html5 (first ++ c :: rest) = none := by
  cases h : table.html5 (first ++ c :: rest) with
  | none => rfl
  | some text =>
      obtain ⟨name, hname, hkey⟩ := html5_some h
      have hmem : c ∈ first ++ c :: rest := by simp
      have hin : c ∈ name := by
        rcases hkey with hkey | hkey
        · rwa [hkey] at hmem
        · rw [hkey, List.mem_append, List.mem_singleton] at hmem
          exact hmem.resolve_right hsemicolon
      rw [(table.named_spelled hname).2.2 c hin] at hc
      cases hc

/-- A key starts with a letter, and has two characters at least. -/
theorem html5_start {key text : Text} (h : table.html5 key = some text) :
    2 ≤ key.length ∧ key.head?.any isLetter = true := by
  obtain ⟨name, hname, hkey⟩ := html5_some h
  obtain ⟨hlength, hhead, -⟩ := table.named_spelled hname
  rcases hkey with rfl | rfl
  · exact ⟨hlength, hhead⟩
  · cases name with
    | nil => cases hhead
    | cons c name => exact ⟨hlength.trans (by simp), hhead⟩

/-- The longest known name is looked for from the right. -/
theorem prefix_text_step (s : Text) (x : Nat) :
    prefixText table s (x + 1) =
      match table.html5 (s.take (x + 1)) with
      | some text => some (text ++ s.drop (x + 1))
      | none => prefixText table s x := by
  cases x with
  | zero =>
      split
      · next text h =>
          have hlength := (html5_start h).1
          rw [List.length_take] at hlength
          omega
      · rfl
  | succ x => rfl

/-- What follows a name does not matter for the names that are no longer. -/
theorem prefix_text_append (name extra : Text) {x : Nat} (hx : x ≤ name.length) :
    prefixText table (name ++ extra) x = (prefixText table name x).map (· ++ extra) := by
  induction x with
  | zero => rfl
  | succ x ih =>
      rw [prefix_text_step, prefix_text_step, List.take_append_of_le_length hx,
        List.drop_append_of_le_length hx]
      split
      · rw [Option.map_some, List.append_assoc]
      · exact ih (by omega)

/-- No name reaches beyond a character that no name has. -/
theorem prefix_text_beyond (name more : Text) {c : Nat} (hc : (isLetter c || isDigit c) = false)
    (hsemicolon : c ≠ 0x3B) (y : Nat) :
    prefixText table (name ++ c :: more) (name.length + y) =
      prefixText table (name ++ c :: more) name.length := by
  induction y with
  | zero => rfl
  | succ y ih =>
      have htake : (name ++ c :: more).take (name.length + (y + 1)) = name ++ c :: more.take y := by
        rw [List.take_length_add_append]
        rfl
      rw [← Nat.add_assoc, prefix_text_step, Nat.add_assoc, htake, html5_none hc hsemicolon]
      exact ih

/-- What follows a name after such a character stays. -/
theorem replace_named_append (name more : Text) {c : Nat} (hc : (isLetter c || isDigit c) = false)
    (hsemicolon : c ≠ 0x3B) :
    replaceNamed table (name ++ c :: more) = replaceNamed table name ++ c :: more := by
  have hlast : (name ++ c :: more).length - 1 = name.length + more.length := by
    rw [List.length_append, List.length_cons]
    omega
  unfold replaceNamed
  rw [html5_none hc hsemicolon, hlast, prefix_text_beyond name more hc hsemicolon]
  cases hname : name.length with
  | zero =>
      rw [List.length_eq_zero_iff] at hname
      subst hname
      cases hempty : table.html5 [] with
      | some text => exact absurd (html5_start hempty).1 (by simp)
      | none => rfl
  | succ x =>
      have hall : (name ++ c :: more).take (x + 1) = name := by
        rw [← hname, List.take_left]
      have hrest : (name ++ c :: more).drop (x + 1) = c :: more := by
        rw [← hname, List.drop_left]
      rw [prefix_text_step, hall, hrest]
      cases table.html5 name with
      | some text => rfl
      | none =>
          show (prefixText table (name ++ c :: more) x).getD _ = (prefixText table name x).getD _ ++
            _
          rw [prefix_text_append name _ (by omega)]
          cases prefixText table name x <;> rfl

/-- What does not start with a letter is no reference. -/
theorem replace_named_other {s : Text} (h : s.head?.any isLetter = false) :
    replaceNamed table s = 0x26 :: s := by
  have hnone : ∀ x, table.html5 (s.take (x + 1)) = none := by
    intro x
    cases hkey : table.html5 (s.take (x + 1)) with
    | none => rfl
    | some text =>
        have hhead := (html5_start hkey).2
        cases s with
        | nil => cases hhead
        | cons c s =>
            rw [List.take_succ_cons, List.head?_cons] at hhead
            rw [List.head?_cons, hhead] at h
            cases h
  have hprefix : ∀ x, prefixText table s x = none := by
    intro x
    induction x with
    | zero => rfl
    | succ x ih => rw [prefix_text_step, hnone, ih]
  have hwhole := hnone s.length
  rw [List.take_of_length_le (Nat.le_succ _)] at hwhole
  rw [replaceNamed, hwhole, hprefix]
  rfl

/-- Two texts in front of one that may be missing. -/
theorem join_text_append (s : Text) (t u : Text) (v : Option Text) :
    joinText (some (s ++ (t ++ u))) v = joinText (some s) (v.map ((t ++ ·) ∘ (u ++ ·))) := by
  cases v <;> simp [joinText]

/-- A character and two texts in front of it. -/
theorem join_text_cons (c : Nat) (t u : Text) (v : Option Text) :
    joinText (some (c :: (t ++ u))) v = ((v.map (u ++ ·)).map (t ++ ·)).map (c :: ·) := by
  cases v <;> simp [joinText]

/-- A text between two that may be missing. -/
theorem join_text_map (first second : Option Text) (s : Text) :
    joinText (joinText first (some s)) second = joinText first (second.map (s ++ ·)) := by
  cases first with
  | none => rfl
  | some f =>
      cases second with
      | none => rfl
      | some t => simp [joinText]

/-- A reference that is closed is closed by a semicolon. -/
theorem closes_append {rest : Text} (h : closes rest = true) :
    rest = 0x3B :: dropSemicolon rest := by
  cases rest with
  | nil => cases h
  | cons c rest =>
      have hc : c = 0x3B := by simpa [closes] using h
      rw [hc]
      rfl

/-- A reference that is not closed leaves its text. -/
theorem drop_semicolon_open {rest : Text} (h : closes rest = false) :
    dropSemicolon rest = rest := by
  rw [dropSemicolon, h]
  rfl

/-- A reference's text, what follows it and the semicolon between them. -/
theorem unescape_final (rest : Text) :
    unescape table rest = (unescape table (dropSemicolon rest)).map
      ((if closes rest then [0x3B] else []) ++ ·) := by
  cases h : closes rest with
  | true =>
      exact (congrArg (unescape table) (closes_append h)).trans (unescape_plain (by decide) _)
  | false =>
      rw [drop_semicolon_open h]
      cases unescape table rest <;> rfl

/-- The characters of a name are ASCII. -/
theorem entity_char_ascii {c : Nat} (h : isEntityChar c = true) : c < 0x7B := by
  simp only [isEntityChar, isLetter, isDigit, Bool.or_eq_true, Bool.and_eq_true, decide_eq_true_eq,
    beq_iff_eq] at h
  omega

/-- They are characters of a reference, and neither spaces nor punctuation of one. -/
theorem entity_char_cases {c : Nat} (h : isEntityChar c = true) :
    isReferenceChar c = true ∧ c ≠ 0x26 ∧ c ≠ 0x3B ∧ c ≠ 0x23 ∧ isSpace c = false := by
  have hall : ∀ c < 0x7B, isEntityChar c = true →
      isReferenceChar c = true ∧ c ≠ 0x26 ∧ c ≠ 0x3B ∧ c ≠ 0x23 ∧ isSpace c = false := by decide
  exact hall c (entity_char_ascii h) h

/-- A letter is a character of a name. -/
theorem letter_entity_char {c : Nat} (h : isLetter c = true) : isEntityChar c = true := by
  simp [isEntityChar, h]

/-- The parts of a match of a name. -/
theorem match_entity_split {s name rest : Text} (h : matchEntity s = some (name, rest)) :
    s = name ++ rest ∧ name.head?.any isLetter = true ∧ (∀ c ∈ name, isEntityChar c = true) ∧
      rest.head?.any isEntityChar = false := by
  unfold matchEntity at h
  split at h
  · next hhead =>
      cases h
      refine ⟨List.takeWhile_append_dropWhile.symm, ?_, fun c hc => List.mem_takeWhile_imp hc, ?_⟩
      · cases s with
        | nil => cases hhead
        | cons c s =>
            have hc : isLetter c = true := hhead
            rw [List.takeWhile_cons_of_pos (letter_entity_char hc)]
            exact hc
      · cases hrest : s.dropWhile isEntityChar with
        | nil => rfl
        | cons c rest =>
            have hc := List.head?_dropWhile_not isEntityChar s
            rw [hrest] at hc
            simpa using hc
  · cases h

/-- What the decoder matches of a text that does not start with a number sign. -/
def matchedName (s : Text) : Text := (s.takeWhile isReferenceChar).take 32

/-- The name that the decoder matches consists of characters of references. -/
theorem matched_name_chars (s : Text) : ∀ c ∈ matchedName s, isReferenceChar c = true :=
  fun _ hc => List.mem_takeWhile_imp (List.mem_of_mem_take hc)

/-- It stands at the start of the text. -/
theorem matched_name_split (s : Text) : s = matchedName s ++ s.drop (matchedName s).length := by
  have hprefix : matchedName s <+: s := (List.take_prefix 32 _).trans (List.takeWhile_prefix _)
  exact (List.prefix_iff_eq_append.mp hprefix).symm

/-- The decoder replaces the name that it matches, with its semicolon. -/
theorem unescape_matched {s : Text} (hhead : ∀ c ∈ s.head?, isReferenceChar c = true)
    (hs : s ≠ []) :
    unescape table (0x26 :: s) =
      joinText (some (replaceNamed table (matchedName s ++
        if closes (s.drop (matchedName s).length) then [0x3B] else [])))
        (unescape table (dropSemicolon (s.drop (matchedName s).length))) := by
  refine unescape_reference ?_
  cases s with
  | nil => exact absurd rfl hs
  | cons c s =>
      have hc : isReferenceChar c = true := hhead c rfl
      have hne : matchedName (c :: s) ≠ [] := by
        rw [matchedName, List.takeWhile_cons_of_pos hc]
        exact List.cons_ne_nil _ _
      unfold matchReference
      split
      · next heq =>
          cases heq
          cases hc
      · exact if_neg hne

/-- A character of a reference at which a name ends is no letter or digit. -/
theorem reference_char_alnum {d : Nat} {s : Text} (hd : isReferenceChar d = true)
    (hs : (d :: s).head?.any isEntityChar = false) :
    (isLetter d || isDigit d) = false ∧ d ≠ 0x3B := by
  have hentity : isEntityChar d = false := hs
  simp only [isEntityChar, Bool.or_eq_false_iff] at hentity
  refine ⟨?_, ?_⟩
  · rw [hentity.1.1.1, hentity.1.1.2]
    rfl
  · intro heq
    rw [heq] at hd
    cases hd

/-- A named reference is decoded by itself. -/
theorem unescape_named {s name rest : Text} (h : matchEntity s = some (name, rest)) :
    unescape table (0x26 :: s) =
      joinText (some (namedText table name (closes rest)))
      (unescape table (dropSemicolon rest)) := by
  obtain ⟨rfl, hletter, hname, hrest⟩ := match_entity_split h
  have hne : name ≠ [] := by
    intro hnil
    rw [hnil] at hletter
    cases hletter
  have hchars : ∀ c ∈ name, isReferenceChar c = true :=
    fun c hc => (entity_char_cases (hname c hc)).1
  have hhead : ∀ c ∈ (name ++ rest).head?, isReferenceChar c = true := by
    intro c hc
    rw [List.head?_append, Option.or_of_isSome (by simpa using hne)] at hc
    exact hchars c (List.mem_of_mem_head? hc)
  have htake : (name ++ rest).takeWhile isReferenceChar = name ++ rest.takeWhile isReferenceChar :=
    List.takeWhile_append_of_pos hchars
  rw [unescape_matched hhead (by simp [hne])]
  by_cases hlong : name.length ≤ 32
  · -- The whole name is matched, and what follows it as far as 32 characters go.
    have hmatched : matchedName (name ++ rest) =
        name ++ (rest.takeWhile isReferenceChar).take (32 - name.length) := by
      rw [matchedName, htake, List.take_append, List.take_of_length_le hlong]
    have hmore := List.take_prefix (32 - name.length) (rest.takeWhile isReferenceChar)
    have hafter := List.prefix_iff_eq_append.mp (hmore.trans (List.takeWhile_prefix _))
    generalize hm : (rest.takeWhile isReferenceChar).take (32 - name.length) = more
      at hmatched hafter
    have hall : ∀ c ∈ more, isReferenceChar c = true := by
      intro c hc
      rw [← hm] at hc
      exact List.mem_takeWhile_imp (List.mem_of_mem_take hc)
    generalize rest.drop more.length = after at hafter
    subst hafter
    rw [hmatched, List.length_append, List.drop_length_add_append, List.drop_left, namedText,
      if_pos hlong]
    -- A character of the name can stand behind it only past the 32nd, and it opens no reference.
    cases more with
    | nil => rw [List.append_nil, List.nil_append]
    | cons d more =>
        obtain ⟨hd, hsemicolon⟩ := reference_char_alnum (hall d List.mem_cons_self) hrest
        have hopen : closes (d :: more ++ after) = false := by simp [closes, hsemicolon]
        rw [hopen, drop_semicolon_open hopen, List.append_assoc, List.cons_append,
          replace_named_append _ _ hd hsemicolon]
        have hplain : 0x26 ∉ d :: more := fun hmem => by cases hall _ hmem
        rw [unescape_append hplain, unescape_final after, Option.map_map]
        simp only [Bool.false_eq_true, if_false, List.append_nil]
        exact join_text_append _ (d :: more) _ _
  · -- The first 32 characters of the name are matched.
    have hmatched : matchedName (name ++ rest) = name.take 32 := by
      rw [matchedName, htake, List.take_append_of_le_length (by omega)]
    have hlength : (name.take 32).length = 32 := by
      rw [List.length_take]
      omega
    have hdrop : (name ++ rest).drop 32 = name.drop 32 ++ rest :=
      List.drop_append_of_le_length (by omega)
    have hopen : closes (name.drop 32 ++ rest) = false := by
      cases hd : name.drop 32 with
      | nil => simp at hd; omega
      | cons d more =>
          have hmem : d ∈ name :=
            List.mem_of_mem_drop (i := 32) (by rw [hd]; exact List.mem_cons_self)
          have hne := (entity_char_cases (hname d hmem)).2.2.1
          simp [closes, hne]
    rw [hmatched, hlength, hdrop, hopen, drop_semicolon_open hopen, namedText, if_neg hlong]
    have hplain : 0x26 ∉ name.drop 32 := by
      intro hmem
      exact (entity_char_cases (hname _ (List.mem_of_mem_drop hmem))).2.1 rfl
    rw [unescape_append hplain, unescape_final rest, Option.map_map]
    simp only [Bool.false_eq_true, if_false, List.append_nil, List.append_assoc]
    exact (join_text_append _ _ _ _).symm

/-- What starts neither like a name nor like a number is no reference. -/
theorem unescape_other {s : Text} (hentity : matchEntity s = none) (hhash : matchHash s = none) :
    unescape table (0x26 :: s) = (unescape table s).map (0x26 :: ·) := by
  have hletter : s.head?.any isLetter = false := by
    cases hhead : s.head?.any isLetter with
    | false => rfl
    | true =>
        rw [matchEntity, hhead] at hentity
        cases hentity
  match s with
  | [] => exact unescape_ampersand rfl
  | c :: s =>
      by_cases hsharp : c = 0x23
      · subst hsharp
        refine unescape_ampersand ?_
        rw [matchHash] at hhash
        rw [matchReference, hhash]
        rfl
      -- No letter follows, so what is matched names no reference.
      · by_cases hc : isReferenceChar c = true
        · have hhead : ∀ d ∈ (c :: s).head?, isReferenceChar d = true := by
            intro d hd
            cases hd
            exact hc
          have hfound : (matchedName (c :: s)).head?.any isLetter = false := by
            rw [matchedName, List.takeWhile_cons_of_pos hc]
            exact hletter
          have hchars := matched_name_chars (c :: s)
          have hsplit := matched_name_split (c :: s)
          rw [unescape_matched hhead (List.cons_ne_nil c s)]
          generalize (c :: s).drop (matchedName (c :: s)).length = after at hsplit
          generalize matchedName (c :: s) = found at *
          have hplain : 0x26 ∉ found := fun hmem => by cases hchars _ hmem
          rw [hsplit, replace_named_other, unescape_append hplain, unescape_final after]
          · exact join_text_cons _ _ _ _
          · cases found with
            | nil => cases closes after <;> rfl
            | cons d found => exact hfound
        · refine unescape_ampersand ?_
          have hnone : (c :: s).takeWhile isReferenceChar = [] :=
            List.takeWhile_cons_of_neg hc
          unfold matchReference
          split
          · next heq =>
              cases heq
              exact absurd rfl hsharp
          · rw [hnone]
            rfl

/-- A numeric reference is decoded by itself. -/
theorem unescape_number {s body rest : Text} (h : matchHash s = some (body, rest)) :
    unescape table (0x26 :: s) =
      joinText (numberText body) (unescape table (dropSemicolon rest)) := by
  unfold matchHash at h
  split at h
  · refine unescape_reference ?_
    rw [matchReference, h]
    rfl
  · cases h

/-- No texts. -/
@[simp] theorem join_all_nil : joinAll [] = some [] := rfl

/-- A text in front of the others. -/
@[simp] theorem join_all_cons (text : Option Text) (texts : List (Option Text)) :
    joinAll (text :: texts) = joinText text (joinAll texts) := rfl

/-- A hexadecimal digit is no ampersand or semicolon. -/
theorem hex_digit_cases {d : Nat} (h : isHexDigit d = true) : d ≠ 0x26 ∧ d ≠ 0x3B := by
  constructor <;>
  · intro heq
    rw [heq] at h
    cases h

/-- The decoder works on the pieces of a text one by one. -/
theorem unescape_segments (s : Text) :
    unescape table s = joinAll ((segments s).map (Segment.decoded table)) := by
  fun_induction segments s with
  | case1 => exact unescape_nil
  | case2 s name rest hentity _ _ ih =>
      rw [unescape_named hentity, ih]
      rfl
  | case3 s hentity body hhash =>
      have hrest : unescape table (dropSemicolon []) = some [] := unescape_nil
      rw [unescape_number hhash, hrest]
      rfl
  | case4 s hentity body d rest hhash _ _ _ hd ih =>
      -- The letter is no semicolon, so it is read as a character by itself.
      obtain ⟨hampersand, hsemicolon⟩ := hex_digit_cases hd
      have hopen : closes (d :: rest) = false := by simp [closes, hsemicolon]
      rw [unescape_number hhash, drop_semicolon_open hopen, unescape_plain hampersand, ih]
      exact (join_text_map _ _ [d]).symm
  | case5 s hentity body d rest hhash _ _ _ hd ih =>
      rw [unescape_number hhash, ih]
      rfl
  | case6 s hentity hhash ih =>
      rw [unescape_other hentity hhash, ih]
      rfl
  | case7 c s hc ih =>
      rw [unescape_plain hc, ih]
      rfl

/-- The empty text calls no handler. -/
theorem parse_nil : parseText [] = [] := by
  rw [parseText]

/-- A character that is no ampersand is data. -/
theorem parse_plain {c : Nat} (hc : c ≠ 0x26) (s : Text) :
    parseText (c :: s) = .data [c] :: parseText s := by
  rw [parseText, if_neg hc]

/-- A named reference calls its handler. -/
theorem parse_entity {s name rest : Text} (h : matchEntity s = some (name, rest)) :
    parseText (0x26 :: s) = .entityref name :: parseText (dropSemicolon rest) := by
  rw [parseText, if_pos rfl]
  split
  · next hfound =>
      rw [h] at hfound
      cases hfound
      rfl
  · next hnone =>
      rw [h] at hnone
      cases hnone

/-- So does a numeric one. -/
theorem parse_charref {s name rest : Text} (hentity : matchEntity s = none)
    (h : matchCharref s = some (name, rest)) :
    parseText (0x26 :: s) = .charref name :: parseText (dropSemicolon rest) := by
  rw [parseText, if_pos rfl]
  split
  · next hfound =>
      rw [hentity] at hfound
      cases hfound
  · split
    · next hfound =>
        rw [h] at hfound
        cases hfound
        rfl
    · next hnone =>
        rw [h] at hnone
        cases hnone

/-- An ampersand that starts none is data. -/
theorem parse_ampersand {s : Text} (hentity : matchEntity s = none) (h : matchCharref s = none) :
    parseText (0x26 :: s) = .data [0x26] :: parseText s := by
  rw [parseText, if_pos rfl]
  split
  · next hfound =>
      rw [hentity] at hfound
      cases hfound
  · split
    · next hfound =>
        rw [h] at hfound
        cases hfound
    · rfl

/-- Text without an ampersand is passed on. -/
theorem parse_append {first : Text} (h : 0x26 ∉ first) (rest : Text) :
    joinAll ((parseText (first ++ rest)).map (TextEvent.decoded table)) =
      (joinAll ((parseText rest).map (TextEvent.decoded table))).map (first ++ ·) := by
  induction first with
  | nil =>
      show _ = Option.map id _
      rw [Option.map_id, id]
      rfl
  | cons c first ih =>
      rw [List.mem_cons, not_or] at h
      rw [List.cons_append, parse_plain (Ne.symm h.1), List.map_cons, join_all_cons, ih h.2]
      exact Option.map_map _ _ _

/-- A run of characters ends where the next character is another. -/
theorem span_append {p : Nat → Bool} {first after : Text} (hfirst : ∀ c ∈ first, p c = true)
    (hafter : after.head?.any p = false) :
    (first ++ after).takeWhile p = first ∧ (first ++ after).dropWhile p = after := by
  rw [List.takeWhile_append_of_pos hfirst, List.dropWhile_append_of_pos hfirst]
  cases after with
  | nil => exact ⟨List.append_nil _, rfl⟩
  | cons c after =>
      have hc : ¬ p c = true := by simpa using hafter
      rw [List.takeWhile_cons_of_neg hc, List.dropWhile_cons_of_neg hc, List.append_nil]
      exact ⟨rfl, rfl⟩

/-- A weaker test of the first character. -/
theorem head_any_mono {p q : Nat → Bool} (hpq : ∀ c, p c = true → q c = true) {s : Text}
    (h : s.head?.any q = false) : s.head?.any p = false := by
  cases s with
  | nil => rfl
  | cons c s =>
      cases hc : p c with
      | false => exact hc
      | true =>
          rw [List.head?_cons, Option.any_some, hpq c hc] at h
          cases h

/-- A digit is a hexadecimal digit. -/
theorem digit_hex {c : Nat} (h : isDigit c = true) : isHexDigit c = true := by
  rw [isHexDigit, h, Bool.true_or]

/-- The parts of a match of a number. -/
theorem match_number_split {s body rest : Text} (h : matchNumber s = some (body, rest)) :
    s = body ++ rest ∧ (∀ c ∈ body, c ≠ 0x26) ∧
      ∀ after, after.head?.any isHexDigit = false →
        matchNumber (body ++ after) = some (body, after) := by
  have hplain : ∀ {c : Nat}, isHexDigit c = true → c ≠ 0x26 := fun hc => (hex_digit_cases hc).1
  cases s with
  | nil => cases h
  | cons c s =>
      by_cases hc : isDigit c = true
      · rw [matchNumber, if_pos hc] at h
        cases h
        have hrun : ∀ d ∈ s.takeWhile isDigit, isDigit d = true :=
          fun d hd => List.mem_takeWhile_imp hd
        refine ⟨?_, ?_, ?_⟩
        · rw [List.cons_append, List.takeWhile_append_dropWhile]
        · rw [List.forall_mem_cons]
          exact ⟨hplain (digit_hex hc), fun d hd => hplain (digit_hex (hrun d hd))⟩
        · intro after hafter
          obtain ⟨htake, hdrop⟩ := span_append hrun (head_any_mono (fun _ => digit_hex) hafter)
          rw [List.cons_append, matchNumber, if_pos hc, htake, hdrop]
      · by_cases hx : (c = 0x78 ∨ c = 0x58) ∧ s.takeWhile isHexDigit ≠ []
        · rw [matchNumber, if_neg hc, if_pos hx] at h
          cases h
          have hrun : ∀ d ∈ s.takeWhile isHexDigit, isHexDigit d = true :=
            fun d hd => List.mem_takeWhile_imp hd
          refine ⟨?_, ?_, ?_⟩
          · rw [List.cons_append, List.takeWhile_append_dropWhile]
          · rw [List.forall_mem_cons]
            exact ⟨by omega, fun d hd => hplain (hrun d hd)⟩
          · intro after hafter
            obtain ⟨htake, hdrop⟩ := span_append hrun hafter
            rw [List.cons_append, matchNumber, if_neg hc, htake, hdrop, if_pos hx]
        · rw [matchNumber, if_neg hc, if_neg hx] at h
          cases h

/-- A number ends where no hexadecimal digit follows, whatever does. -/
theorem match_hash_split {s body rest : Text} (h : matchHash s = some (body, rest)) :
    s = 0x23 :: (body ++ rest) ∧ (∀ c ∈ body, c ≠ 0x26) ∧
      ∀ after, after.head?.any isHexDigit = false → matchHash (0x23 :: (body ++ after)) =
        some (body, after) := by
  unfold matchHash at h
  split at h
  · obtain ⟨rfl, hbody, hafter⟩ := match_number_split h
    exact ⟨rfl, hbody, hafter⟩
  · cases h

/-- A named reference by itself. -/
theorem decoded_entityref {s name rest : Text} (h : matchEntity s = some (name, rest)) :
    (TextEvent.entityref name).decoded table = some (namedText table name true) := by
  obtain ⟨-, hletter, hname, -⟩ := match_entity_split h
  have hmatch : matchEntity (name ++ [0x3B]) = some (name, [0x3B]) := by
    have hhead : (name ++ [0x3B]).head?.any isLetter = true := by
      cases name with
      | nil => cases hletter
      | cons c name => exact hletter
    have hclosed : ([0x3B] : Text).head?.any isEntityChar = false := rfl
    obtain ⟨htake, hdrop⟩ := span_append hname hclosed
    rw [matchEntity, if_pos hhead, htake, hdrop]
  have hone := @unescape_named table _ _ _ hmatch
  rw [show dropSemicolon [0x3B] = [] from rfl, unescape_nil] at hone
  show unescape table (0x26 :: (name ++ [0x3B])) = _
  rw [hone]
  exact congrArg some (List.append_nil _)

/-- A numeric reference by itself. -/
theorem decoded_charref {s body rest : Text} (h : matchHash s = some (body, rest)) :
    (TextEvent.charref body).decoded table = numberText body := by
  have hone := @unescape_number table _ _ _ ((match_hash_split h).2.2 [0x3B] rfl)
  rw [show dropSemicolon [0x3B] = [] from rfl, unescape_nil] at hone
  show unescape table (0x26 :: 0x23 :: (body ++ [0x3B])) = _
  rw [hone]
  cases numberText body with
  | none => rfl
  | some text => exact congrArg some (List.append_nil _)

/-- The handler calls of a text, decoded, are what the handlers make of its pieces. -/
theorem parse_segments (s : Text) :
    joinAll ((parseText s).map (TextEvent.decoded table)) =
      joinAll ((segments s).map (Segment.parsed table)) := by
  -- The cases are those of the scan: an entity, a number that ends the text, one cut short by a hex
  -- digit, a closed number, a lone ampersand and a plain character.
  fun_induction segments s with
  | case1 => rw [parseText]; rfl
  | case2 s name rest hentity _ _ ih =>
      rw [parse_entity hentity, List.map_cons, List.map_cons, join_all_cons, join_all_cons, ih,
        decoded_entityref hentity]
      rfl
  | case3 s hentity body hhash =>
      have hcharref : matchCharref s = some (body, []) := by
        rw [matchCharref, hhash]
        rfl
      rw [parse_charref hentity hcharref, List.map_cons, join_all_cons, decoded_charref hhash]
      rw [show parseText (dropSemicolon []) = [] by rw [dropSemicolon]; exact parse_nil]
      rfl
  | case4 s hentity body d rest hhash _ _ _ hd ih =>
      have hcharref : matchCharref s = none := by
        rw [matchCharref, hhash]
        simp [hd]
      obtain ⟨hs, hbody, -⟩ := match_hash_split hhash
      have hsplit : s = (0x23 :: (body ++ [d])) ++ rest := by
        rw [hs]
        simp
      have hplain : 0x26 ∉ 0x23 :: (body ++ [d]) := by
        intro hmem
        simp only [List.mem_cons, List.mem_append, List.not_mem_nil, or_false] at hmem
        rcases hmem with hmem | hmem | hmem
        · cases hmem
        · exact hbody _ hmem rfl
        · exact (hex_digit_cases hd).1 hmem.symm
      rw [parse_ampersand hentity hcharref, List.map_cons, join_all_cons, hsplit,
        parse_append hplain, ih]
      exact Option.map_map _ _ _
  | case5 s hentity body d rest hhash _ _ _ hd ih =>
      have hcharref : matchCharref s = some (body, d :: rest) := by
        rw [matchCharref, hhash]
        simp [hd]
      rw [parse_charref hentity hcharref, List.map_cons, List.map_cons, join_all_cons,
        join_all_cons, ih, decoded_charref hhash]
      rfl
  | case6 s hentity hhash ih =>
      rw [parse_ampersand hentity (by rw [matchCharref, hhash]; rfl), List.map_cons, List.map_cons,
        join_all_cons, join_all_cons, ih]
      rfl
  | case7 c s hc ih =>
      rw [parse_plain hc, List.map_cons, List.map_cons, join_all_cons, join_all_cons, ih]
      rfl

end

end GrowthOs.Library
