import GrowthOs.Library.Text
import Mathlib.Data.List.Nodup

/-!
# JSON texts

`json.loads` of the standard library on a string. An object is read as the list of its members in
the order of the text, repeated keys included: the dictionary that Python builds keeps the last
value of a key, and `lookup` is that dictionary. What a number denotes is left out, its spelling is
kept. `loads_plain` is the lexical fact that text formats around a JSON text rest on: outside of its
strings it has no character but JSON's own, and a string has no line break.
-/

namespace GrowthOs.Library

/-- A decoded JSON text. -/
inductive Json where
  | null
  | bool (value : Bool)
  | number (spelling : Text)
  | string (text : Text)
  | array (items : List Json)
  | object (members : List (Text × Json))

namespace Json

/-- Why a text is not decoded: `json.JSONDecodeError`, the `ValueError` for an integer of too many
digits, or `RecursionError`. -/
inductive Failure where
  | decode
  | digits (count : Nat)
  | recursion
  deriving DecidableEq

/-- A value and the text after it. -/
abbrev Read (α : Type) : Type := Except Failure (α × Text)

/-- JSON's white space. -/
def isBlank (c : Nat) : Bool := c == 0x20 || c == 0x09 || c == 0x0A || c == 0x0D

/-- The text from its first character that is no white space. -/
def skip (s : Text) : Text := s.dropWhile isBlank

/-- The value of a hexadecimal digit. -/
def hexValue (c : Nat) : Option Nat :=
  if 0x30 ≤ c ∧ c ≤ 0x39 then some (c - 0x30)
  else if 0x41 ≤ c ∧ c ≤ 0x46 then some (c - 0x41 + 10)
  else if 0x61 ≤ c ∧ c ≤ 0x66 then some (c - 0x61 + 10)
  else none

/-- The code that four hexadecimal digits spell. -/
def hexCode (a b c d : Nat) : Option Nat := do
  let a ← hexValue a
  let b ← hexValue b
  let c ← hexValue c
  let d ← hexValue d
  return ((a * 16 + b) * 16 + c) * 16 + d

/-- The character of a backslash escape other than `\u`. -/
def escaped (c : Nat) : Option Nat :=
  if c = 0x22 ∨ c = 0x5C ∨ c = 0x2F then some c
  else if c = 0x62 then some 0x08
  else if c = 0x66 then some 0x0C
  else if c = 0x6E then some 0x0A
  else if c = 0x72 then some 0x0D
  else if c = 0x74 then some 0x09
  else none

/-- The low surrogate that the text escapes in its first six characters. -/
def lowEscape : Text → Option Nat
  | 0x5C :: 0x75 :: a :: b :: c :: d :: _ =>
      (hexCode a b c d).filter fun code => 0xDC00 ≤ code ∧ code ≤ 0xDFFF
  | _ => none

/-- An escaped code in front of a string whose text goes on with `rest`: two escaped surrogates are
one character. -/
def consEscape (code : Nat) (rest tail : Text) : Text :=
  match lowEscape rest with
  | some low =>
      if 0xD800 ≤ code ∧ code ≤ 0xDBFF then
        (0x10000 + (code - 0xD800) * 0x400 + (low - 0xDC00)) :: tail.drop 1
      else code :: tail
  | none => code :: tail

/-- Put text in front of a string that has been read. -/
def prepend (build : Text → Text) : Read Text → Read Text
  | .ok (text, rest) => .ok (build text, rest)
  | .error failure => .error failure

/-- `scanstring` after the opening quote, with `strict=True`: no control character stands in it. -/
def scanString : Text → Read Text
  | [] => .error .decode
  | 0x22 :: rest => .ok ([], rest)
  | 0x5C :: 0x75 :: a :: b :: c :: d :: rest =>
      match hexCode a b c d with
      | some code => prepend (consEscape code rest) (scanString rest)
      | none => .error .decode
  | 0x5C :: c :: rest =>
      match escaped c with
      | some code => prepend (code :: ·) (scanString rest)
      | none => .error .decode
  | c :: rest => if c ≤ 0x1F ∨ c = 0x5C then .error .decode else prepend (c :: ·) (scanString rest)

/-- `[0-9]`. -/
def isDigit (c : Nat) : Bool := 0x30 ≤ c && c ≤ 0x39

/-- The digits of an integer without a superfluous zero. -/
def integerPart : Text → Option (Text × Text)
  | [] => none
  | c :: rest =>
      if c = 0x30 then some ([c], rest)
      else if isDigit c then some (c :: rest.takeWhile isDigit, rest.dropWhile isDigit)
      else none

/-- A fraction, nothing where no digit follows the point. -/
def fractionPart : Text → Text × Text
  | 0x2E :: d :: rest =>
      if isDigit d then (0x2E :: d :: rest.takeWhile isDigit, rest.dropWhile isDigit)
      else ([], 0x2E :: d :: rest)
  | rest => ([], rest)

/-- The sign of an exponent. -/
def exponentSign : Text → Text × Text
  | c :: rest => if c = 0x2B ∨ c = 0x2D then ([c], rest) else ([], c :: rest)
  | [] => ([], [])

/-- An exponent, nothing where it has no digit. -/
def exponentPart : Text → Text × Text
  | [] => ([], [])
  | c :: rest =>
      if c = 0x65 ∨ c = 0x45 then
        let (sign, after) := exponentSign rest
        let digits := after.takeWhile isDigit
        if digits = [] then ([], c :: rest) else (c :: sign ++ digits, after.dropWhile isDigit)
      else ([], c :: rest)

/-- `sys.int_info.default_max_str_digits`. -/
def maxIntegerDigits : Nat := 4300

/-- A number without its sign. An integer of more digits than Python converts raises. -/
def magnitude (sign s : Text) : Read Json :=
  match integerPart s with
  | none => .error .decode
  | some (digits, rest) =>
      let (fraction, rest) := fractionPart rest
      let (exponent, rest) := exponentPart rest
      if fraction = [] ∧ exponent = [] ∧ maxIntegerDigits < digits.length then
        .error (.digits digits.length)
      else .ok (.number (sign ++ digits ++ fraction ++ exponent), rest)

/-- `_match_number`. -/
def matchNumber : Text → Read Json
  | 0x2D :: rest => magnitude [0x2D] rest
  | s => magnitude [] s

/-- The constants that are written as a word. `json.loads` takes the last three as numbers. -/
def names : List (Text × Json) :=
  [(Text.ofString "null", .null), (Text.ofString "true", .bool true),
    (Text.ofString "false", .bool false), (Text.ofString "NaN", .number (Text.ofString "NaN")),
    (Text.ofString "Infinity", .number (Text.ofString "Infinity")),
    (Text.ofString "-Infinity", .number (Text.ofString "-Infinity"))]

/-- A constant or a number. -/
def scalar (s : Text) : Read Json :=
  match names.find? fun name => name.1.isPrefixOf s with
  | some (word, value) => .ok (value, s.drop word.length)
  | none => matchNumber s

section

variable (value : Text → Read Json)

/-- The items of an array that is not empty, and the text after its bracket. Every round reads a
character, so the rounds do not run out where there are more than characters. -/
def items : Nat → Text → Read (List Json)
  | 0, _ => .error .decode
  | rounds + 1, s =>
      match value s with
      | .error failure => .error failure
      | .ok (item, rest) =>
          match skip rest with
          | 0x5D :: rest => .ok ([item], rest)
          | 0x2C :: rest =>
              match items rounds (skip rest) with
              | .error failure => .error failure
              | .ok (more, rest) => .ok (item :: more, rest)
          | _ => .error .decode

/-- `JSONArray`, after the opening bracket. -/
def jsonArray (s : Text) : Read Json :=
  match skip s with
  | 0x5D :: rest => .ok (.array [], rest)
  | rest =>
      match items value (rest.length + 1) rest with
      | .error failure => .error failure
      | .ok (found, rest) => .ok (.array found, rest)

/-- A key with its colon, and the text of its value. -/
def key : Text → Read Text
  | 0x22 :: rest =>
      match scanString rest with
      | .error failure => .error failure
      | .ok (name, rest) =>
          match skip rest with
          | 0x3A :: rest => .ok (name, skip rest)
          | _ => .error .decode
  | _ => .error .decode

/-- The members of an object that is not empty, and the text after its brace. -/
def members : Nat → Text → Read (List (Text × Json))
  | 0, _ => .error .decode
  | rounds + 1, s =>
      match key s with
      | .error failure => .error failure
      | .ok (name, rest) =>
          match value rest with
          | .error failure => .error failure
          | .ok (found, rest) =>
              match skip rest with
              | 0x7D :: rest => .ok ([(name, found)], rest)
              | 0x2C :: rest =>
                  match members rounds (skip rest) with
                  | .error failure => .error failure
                  | .ok (more, rest) => .ok ((name, found) :: more, rest)
              | _ => .error .decode

/-- `JSONObject`, after the opening brace. -/
def jsonObject (s : Text) : Read Json :=
  match skip s with
  | 0x7D :: rest => .ok (.object [], rest)
  | rest =>
      match members value (rest.length + 1) rest with
      | .error failure => .error failure
      | .ok (found, rest) => .ok (.object found, rest)

end

/-- `scan_once`, with the scanner for what is inside a container, or `none` where the interpreter
allows no deeper recursion. -/
def scan (inner : Option (Text → Read Json)) : Text → Read Json
  | 0x22 :: rest =>
      match scanString rest with
      | .error failure => .error failure
      | .ok (text, rest) => .ok (.string text, rest)
  | 0x7B :: rest => inner.elim (.error .recursion) (jsonObject · rest)
  | 0x5B :: rest => inner.elim (.error .recursion) (jsonArray · rest)
  | s => scalar s

/-- `scan_once`, where `limit` containers may be inside each other. -/
def scanOnce : Nat → Text → Read Json
  | 0 => scan none
  | limit + 1 => scan (some (scanOnce limit))

/-- `json.loads`. -/
def loads (limit : Nat) (s : Text) : Except Failure Json :=
  match scanOnce limit (skip s) with
  | .error failure => .error failure
  | .ok (value, rest) => if skip rest = [] then .ok value else .error .decode

/-- A character that a JSON text has outside of its strings. -/
def isOwn (c : Nat) : Bool :=
  isBlank c || isDigit c || (Text.ofString "{}[],:+-.NIEaefilnrstuy").contains c

/-- JSON's own characters, and strings without a line break. -/
inductive Lexed : Text → Prop where
  | nil : Lexed []
  | own {c : Nat} {s : Text} : isOwn c = true → Lexed s → Lexed (c :: s)
  | quoted {body s : Text} : 0x0A ∉ body → Lexed s → Lexed (0x22 :: (body ++ s))

/-- From `s`, at least `least` characters have been read up to `rest`. -/
def Reads (least : Nat) (s rest : Text) : Prop :=
  ∃ read, s = read ++ rest ∧ least ≤ read.length ∧ ∀ after, Lexed after → Lexed (read ++ after)

/-- Nothing has been read. -/
theorem Reads.refl (s : Text) : Reads 0 s s := ⟨[], rfl, le_rfl, fun _ h => h⟩

/-- Two parts are read one after the other. -/
theorem Reads.trans {m n : Nat} {s t u : Text} (hs : Reads m s t) (ht : Reads n t u) :
    Reads (m + n) s u := by
  obtain ⟨first, rfl, hfirst, hs⟩ := hs
  obtain ⟨second, rfl, hsecond, ht⟩ := ht
  refine ⟨first ++ second, by rw [List.append_assoc], ?_, ?_⟩
  · rw [List.length_append]
    omega
  · intro after hafter
    rw [List.append_assoc]
    exact hs _ (ht after hafter)

/-- Fewer characters were asked for. -/
theorem Reads.mono {m n : Nat} {s t : Text} (h : Reads n s t) (hle : m ≤ n) : Reads m s t := by
  obtain ⟨read, hs, hread, h⟩ := h
  exact ⟨read, hs, hle.trans hread, h⟩

/-- What is read is at least so long. -/
theorem Reads.length_le {n : Nat} {s t : Text} (h : Reads n s t) : t.length + n ≤ s.length := by
  obtain ⟨read, rfl, hread, -⟩ := h
  rw [List.length_append]
  omega

/-- Characters of JSON's own have been read. -/
theorem reads_own {read : Text} (h : ∀ c ∈ read, isOwn c = true) (rest : Text) :
    Reads read.length (read ++ rest) rest := by
  refine ⟨read, rfl, le_rfl, ?_⟩
  intro after hafter
  induction read with
  | nil => exact hafter
  | cons c read ih =>
      exact .own (h c List.mem_cons_self) (ih fun d hd => h d (List.mem_cons_of_mem c hd))

/-- A character of JSON's own is read. -/
theorem reads_char {c : Nat} (h : isOwn c = true) (rest : Text) : Reads 1 (c :: rest) rest :=
  @reads_own [c] (by simpa using h) rest

/-- White space is read. -/
theorem reads_skip (s : Text) : Reads 0 s (skip s) := by
  have hblank : ∀ c ∈ s.takeWhile isBlank, isOwn c = true := by
    intro c hc
    simp [isOwn, List.mem_takeWhile_imp hc]
  have h := reads_own hblank (skip s)
  rw [skip, List.takeWhile_append_dropWhile] at h
  exact h.mono (Nat.zero_le _)

/-- A code is spelled by hexadecimal digits. -/
theorem hex_code_digits {a b c d code : Nat} (h : hexCode a b c d = some code) :
    ∀ digit ∈ [a, b, c, d], hexValue digit ≠ none := by
  simp only [hexCode, bind, Option.bind_eq_some_iff] at h
  obtain ⟨va, ha, vb, hb, vc, hc, vd, hd, -⟩ := h
  simp [ha, hb, hc, hd]

/-- A text with something in front of it is read behind it. -/
theorem read_of_prepend {build : Text → Text} {read : Read Text} {text rest : Text}
    (h : prepend build read = .ok (text, rest)) : ∃ tail, read = .ok (tail, rest) := by
  cases read with
  | error failure => cases h
  | ok found =>
      cases h
      exact ⟨_, rfl⟩

/-- A string that is read has its closing quote in the text, and no line break before it. -/
theorem scan_string_split {s text rest : Text} (h : scanString s = .ok (text, rest)) :
    ∃ body, s = body ++ 0x22 :: rest ∧ 0x0A ∉ body := by
  fun_induction scanString s generalizing text with
  | case1 => cases h
  | case2 after =>
      cases h
      exact ⟨[], rfl, List.not_mem_nil⟩
  | case3 a b c d after code hcode ih =>
      obtain ⟨tail, htail⟩ := read_of_prepend h
      obtain ⟨body, rfl, hbody⟩ := ih htail
      refine ⟨[0x5C, 0x75] ++ [a, b, c, d] ++ body, rfl, ?_⟩
      have hdigits : 0x0A ∉ [a, b, c, d] := fun hmem => hex_code_digits hcode _ hmem rfl
      rw [List.mem_append, List.mem_append, not_or, not_or]
      exact ⟨⟨by decide, hdigits⟩, hbody⟩
  | case4 => cases h
  | case5 c after _ code hcode ih =>
      obtain ⟨tail, htail⟩ := read_of_prepend h
      obtain ⟨body, rfl, hbody⟩ := ih htail
      refine ⟨0x5C :: c :: body, rfl, ?_⟩
      have hc : 0x0A ≠ c := by
        intro hc
        rw [← hc] at hcode
        cases hcode
      simp [hc, hbody]
  | case6 => cases h
  | case7 => cases h
  | case8 c after _ _ _ hplain ih =>
      obtain ⟨tail, htail⟩ := read_of_prepend h
      obtain ⟨body, rfl, hbody⟩ := ih htail
      refine ⟨c :: body, rfl, ?_⟩
      have hc : 0x0A ≠ c := by omega
      simp [hc, hbody]

/-- A string with its opening quote has been read. -/
theorem reads_string {s text rest : Text} (h : scanString s = .ok (text, rest)) :
    Reads 1 (0x22 :: s) rest := by
  obtain ⟨body, rfl, hbody⟩ := scan_string_split h
  have hquoted : 0x0A ∉ body ++ [0x22] := by simp [hbody]
  exact ⟨0x22 :: (body ++ [0x22]), by simp, by simp, fun after hafter => .quoted hquoted hafter⟩

/-! ## What the scanner reads -/

/-- Digits are read. -/
theorem reads_digits (s : Text) : Reads 0 s (s.dropWhile isDigit) := by
  have hdigit : ∀ c ∈ s.takeWhile isDigit, isOwn c = true := by
    intro c hc
    simp [isOwn, List.mem_takeWhile_imp hc]
  have h := reads_own hdigit (s.dropWhile isDigit)
  rw [List.takeWhile_append_dropWhile] at h
  exact h.mono (Nat.zero_le _)

/-- The integer part of a number is not empty. -/
theorem reads_integer {s digits rest : Text} (h : integerPart s = some (digits, rest)) :
    Reads 1 s rest := by
  cases s with
  | nil => cases h
  | cons c s =>
      by_cases hzero : c = 0x30
      · rw [integerPart, if_pos hzero] at h
        cases h
        exact reads_char (by rw [hzero]; decide) rest
      · by_cases hc : isDigit c = true
        · have hown : isOwn c = true := by simp [isOwn, hc]
          rw [integerPart, if_neg hzero, if_pos hc] at h
          cases h
          exact (reads_char hown s).trans (reads_digits s)
        · rw [integerPart, if_neg hzero, if_neg hc] at h
          cases h

/-- Its fraction is read, if there is one. -/
theorem reads_fraction (s : Text) : Reads 0 s (fractionPart s).2 := by
  unfold fractionPart
  split
  · next d rest =>
      split
      · next hd =>
          have hdigit : isOwn d = true := by simp [isOwn, hd]
          have hpoint := reads_char (c := 0x2E) (by decide) (d :: rest)
          exact ((hpoint.trans (reads_char hdigit rest)).trans (reads_digits rest)).mono (by omega)
      · exact .refl _
  · exact .refl _

/-- So is the sign of the exponent. -/
theorem reads_exponent_sign (s : Text) : Reads 0 s (exponentSign s).2 := by
  unfold exponentSign
  split
  · next c rest =>
      split
      · next hc =>
          have hsign : isOwn c = true := by
            rcases hc with rfl | rfl <;> decide
          exact (reads_char hsign rest).mono (Nat.zero_le _)
      · exact .refl _
  · exact .refl _

/-- So is the exponent. -/
theorem reads_exponent (s : Text) : Reads 0 s (exponentPart s).2 := by
  cases s with
  | nil => exact .refl _
  | cons c rest =>
      by_cases hc : c = 0x65 ∨ c = 0x45
      · have hletter : isOwn c = true := by
          rcases hc with rfl | rfl <;> decide
        rw [exponentPart, if_pos hc]
        by_cases hnone : (exponentSign rest).2.takeWhile isDigit = []
        · simp only [hnone, if_true]
          exact .refl _
        · have hsign := (reads_char hletter rest).trans (reads_exponent_sign rest)
          simp only [hnone, if_false]
          exact (hsign.trans (reads_digits _)).mono (by omega)
      · rw [exponentPart, if_neg hc]
        exact .refl _

/-- A number without its sign is read. -/
theorem reads_magnitude {sign s rest : Text} {value : Json}
    (h : magnitude sign s = .ok (value, rest)) : Reads 1 s rest := by
  unfold magnitude at h
  split at h
  · cases h
  · next digits after hinteger =>
      have hread := (reads_integer hinteger).trans (reads_fraction after)
      have hread := hread.trans (reads_exponent (fractionPart after).2)
      simp only at h
      split at h
      · cases h
      · cases h
        exact hread

/-- So is a number. -/
theorem reads_number {s rest : Text} {value : Json} (h : matchNumber s = .ok (value, rest)) :
    Reads 1 s rest := by
  unfold matchNumber at h
  split at h
  · next after =>
      exact ((reads_char (by decide) after).trans (reads_magnitude h)).mono (by omega)
  · exact reads_magnitude h

/-- So is a string, a number or a name. -/
theorem reads_scalar {s rest : Text} {value : Json} (h : scalar s = .ok (value, rest)) :
    Reads 1 s rest := by
  unfold scalar at h
  split at h
  · next word found hfind =>
      have hown : ∀ name ∈ names, name.1 ≠ [] ∧ ∀ c ∈ name.1, isOwn c = true := by decide
      obtain ⟨hword, hchars⟩ := hown _ (List.mem_of_find?_eq_some hfind)
      have hpre : word.isPrefixOf s = true := by simpa using List.find?_some hfind
      obtain ⟨after, rfl⟩ := List.isPrefixOf_iff_prefix.mp hpre
      have hlength : 1 ≤ word.length := List.length_pos_iff.mpr hword
      rw [List.drop_left] at h
      cases h
      exact (reads_own hchars rest).mono hlength
  · exact reads_number h

/-- So is a key with its colon. -/
theorem reads_key {s rest name : Text} (h : key s = .ok (name, rest)) : Reads 1 s rest := by
  unfold key at h
  split at h
  · split at h
    · cases h
    · next name after hstring =>
        have hskip := (reads_string hstring).trans (reads_skip after)
        split at h
        · next more hmore =>
            rw [hmore] at hskip
            cases h
            have hcolon := (hskip.trans (reads_char (by decide) more)).trans (reads_skip more)
            exact hcolon.mono (by omega)
        · cases h
  · cases h

section

variable {value : Text → Read Json}
  (hvalue : ∀ {s rest : Text} {found : Json}, value s = .ok (found, rest) → Reads 1 s rest)

include hvalue

/-- So are the items of an array, where their values are. -/
theorem reads_items {rounds : Nat} {s rest : Text} {found : List Json}
    (h : items value rounds s = .ok (found, rest)) : Reads 1 s rest := by
  induction rounds generalizing s rest found with
  | zero => cases h
  | succ rounds ih =>
      unfold items at h
      split at h
      · cases h
      · next item after hitem =>
          have hskip := (hvalue hitem).trans (reads_skip after)
          split at h
          · next last hlast =>
              rw [hlast] at hskip
              cases h
              exact (hskip.trans (reads_char (by decide) rest)).mono (by omega)
          · next more hmore =>
              rw [hmore] at hskip
              have hcomma := (hskip.trans (reads_char (by decide) more)).trans (reads_skip more)
              split at h
              · cases h
              · next tail after hitems =>
                  cases h
                  exact (hcomma.trans (ih hitems)).mono (by omega)
          · cases h

/-- So is an array. -/
theorem reads_array {s rest : Text} {found : Json} (h : jsonArray value s = .ok (found, rest)) :
    Reads 0 s rest := by
  have hskip := reads_skip s
  unfold jsonArray at h
  split at h
  · next last hlast =>
      rw [hlast] at hskip
      cases h
      exact (hskip.trans (reads_char (by decide) rest)).mono (by omega)
  · split at h
    · cases h
    · next tail after hitems =>
        cases h
        exact (hskip.trans (reads_items hvalue hitems)).mono (by omega)

/-- So are the members of an object. -/
theorem reads_members {rounds : Nat} {s rest : Text} {found : List (Text × Json)}
    (h : members value rounds s = .ok (found, rest)) : Reads 1 s rest := by
  induction rounds generalizing s rest found with
  | zero => cases h
  | succ rounds ih =>
      unfold members at h
      split at h
      · cases h
      · next name after hkey =>
          split at h
          · cases h
          · next item after hitem =>
              have hskip := (reads_key hkey).trans ((hvalue hitem).trans (reads_skip after))
              split at h
              · next last hlast =>
                  rw [hlast] at hskip
                  cases h
                  exact (hskip.trans (reads_char (by decide) rest)).mono (by omega)
              · next more hmore =>
                  rw [hmore] at hskip
                  have hcomma :=
                    (hskip.trans (reads_char (by decide) more)).trans (reads_skip more)
                  split at h
                  · cases h
                  · next tail after hmembers =>
                      cases h
                      exact (hcomma.trans (ih hmembers)).mono (by omega)
              · cases h

/-- So is an object. -/
theorem reads_object {s rest : Text} {found : Json} (h : jsonObject value s = .ok (found, rest)) :
    Reads 0 s rest := by
  have hskip := reads_skip s
  unfold jsonObject at h
  split at h
  · next last hlast =>
      rw [hlast] at hskip
      cases h
      exact (hskip.trans (reads_char (by decide) rest)).mono (by omega)
  · split at h
    · cases h
    · next tail after hmembers =>
        cases h
        exact (hskip.trans (reads_members hvalue hmembers)).mono (by omega)

end

/-- One step of `scan_once`, given what the scanner of the nested values reads. -/
theorem reads_scan {inner : Option (Text → Read Json)} {s rest : Text} {found : Json}
    (hinner : ∀ value ∈ inner, ∀ {s rest : Text} {found : Json},
      value s = .ok (found, rest) → Reads 1 s rest)
    (h : scan inner s = .ok (found, rest)) : Reads 1 s rest := by
  unfold scan at h
  split at h
  · split at h
    · cases h
    · next text after hstring =>
        cases h
        exact reads_string hstring
  · next after =>
      cases inner with
      | none => cases h
      | some value =>
          exact (reads_char (by decide) after).trans (reads_object (hinner value rfl) h)
  · next after =>
      cases inner with
      | none => cases h
      | some value =>
          exact (reads_char (by decide) after).trans (reads_array (hinner value rfl) h)
  · exact reads_scalar h

/-- Every value is read, by induction on its depth. -/
theorem reads_scan_once {limit : Nat} {s rest : Text} {found : Json}
    (h : scanOnce limit s = .ok (found, rest)) : Reads 1 s rest := by
  induction limit generalizing s rest found with
  | zero =>
      refine reads_scan ?_ h
      intro value hvalue
      cases hvalue
  | succ limit ih =>
      refine reads_scan ?_ h
      intro value hvalue s rest found hread
      cases hvalue
      exact ih hread

/-- A text that is decoded consists of JSON's own characters and of strings without a line break. -/
theorem loads_lexed {limit : Nat} {s : Text} {found : Json} (h : loads limit s = .ok found) :
    Lexed s := by
  unfold loads at h
  split at h
  · cases h
  · next value rest hscan =>
      split at h
      · next hend =>
          have hread := (reads_skip s).trans ((reads_scan_once hscan).trans (reads_skip rest))
          rw [hend] at hread
          obtain ⟨read, hs, -, hlexed⟩ := hread
          rw [hs]
          exact hlexed [] .nil
      · cases h

/-- What starts with `a` is in the part that has an `a`. -/
theorem infix_of_append {a : Nat} {more body s : Text} (hbody : a ∉ body)
    (h : a :: more <:+: body ++ s) : a :: more <:+: s := by
  induction body with
  | nil => exact h
  | cons b body ih =>
      rw [List.mem_cons, not_or] at hbody
      rw [List.cons_append, List.infix_cons_iff, List.cons_prefix_cons] at h
      rcases h with ⟨hhead, -⟩ | hinfix
      · exact absurd hhead hbody.1
      · exact ih hbody.2 hinfix

/-- No character but JSON's own, or a string, is at the start of a line. -/
theorem Lexed.line_start {s : Text} (h : Lexed s) {c : Nat} (hc : isOwn c = false)
    (hquote : c ≠ 0x22) : ¬ [0x0A, c] <:+: s := by
  have hhead : ∀ {t : Text}, Lexed t → ¬ [c] <+: t := by
    intro t ht
    cases ht with
    | nil => simp
    | own hown =>
        intro hpre
        rw [List.cons_prefix_cons] at hpre
        rw [hpre.1, hown] at hc
        cases hc
    | quoted =>
        intro hpre
        rw [List.cons_prefix_cons] at hpre
        exact hquote hpre.1
  induction h with
  | nil => simp
  | own hown hs ih =>
      rw [List.infix_cons_iff, List.cons_prefix_cons]
      rintro (⟨-, hpre⟩ | hinfix)
      · exact hhead hs hpre
      · exact ih hinfix
  | quoted hbody hs ih =>
      rw [List.infix_cons_iff, List.cons_prefix_cons]
      rintro (⟨hquote, -⟩ | hinfix)
      · cases hquote
      · exact ih (infix_of_append hbody hinfix)

/-- The value that the dictionary of an object has for a key: the last one. -/
def lookup (members : List (Text × Json)) (name : Text) : Option Json :=
  (members.reverse.find? fun entry => entry.1 == name).map Prod.snd

/-- It is the value of a member behind which the key does not stand again. -/
theorem lookup_eq_some {members : List (Text × Json)} {name : Text} {value : Json} :
    lookup members name = some value ↔ ∃ front back, members = front ++ (name, value) :: back ∧
      ∀ later ∈ back, later.1 ≠ name := by
  rw [lookup, Option.map_eq_some_iff]
  constructor
  · rintro ⟨entry, hfind, rfl⟩
    obtain ⟨hname, front, back, heq, hbefore⟩ := List.find?_eq_some_iff_append.mp hfind
    obtain rfl : entry.1 = name := beq_iff_eq.mp hname
    refine ⟨back.reverse, front.reverse, ?_, fun later hlater => ?_⟩
    · rw [← List.reverse_reverse members, heq]
      simp
    · simpa using hbefore later (List.mem_reverse.mp hlater)
  · rintro ⟨front, back, rfl, hback⟩
    refine ⟨(name, value), List.find?_eq_some_iff_append.mpr ⟨beq_self_eq_true name, back.reverse,
      front.reverse, by simp, fun later hlater => ?_⟩, rfl⟩
    simpa using hback later (List.mem_reverse.mp hlater)

end Json

end GrowthOs.Library
