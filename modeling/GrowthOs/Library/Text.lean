import Mathlib.Data.List.TakeWhile

/-!
# Python strings

A string is the list of its code points, so a lone surrogate is a value like any other.
The operations are the ones a line-oriented parser uses: splitting at the first separator,
trimming, case folding of ASCII letters, line splitting, and UTF-8.
-/

namespace GrowthOs.Library

/-- A Python string: its code points, lone surrogates included. -/
abbrev Text := List Nat

instance : LawfulBEq Text := inferInstance

namespace Text

/-- The code points of a string literal. -/
def ofString (s : String) : Text := s.toList.map Char.toNat

/-- `str.split(sep, 1)`: the text before the first separator, and the text after it when the
separator occurs. -/
def splitFirst (sep : Nat) : Text → Text × Option Text
  | [] => ([], none)
  | c :: rest =>
      if c = sep then ([], some rest)
      else
        let (before, after) := splitFirst sep rest
        (c :: before, after)

/-- `str.strip(chars)`, where `drop` recognises the characters to remove. -/
def strip (drop : Nat → Bool) (s : Text) : Text :=
  ((s.dropWhile drop).reverse.dropWhile drop).reverse

/-- The ASCII part of `str.lower`. -/
def lowerChar (c : Nat) : Nat := if 0x41 ≤ c ∧ c ≤ 0x5A then c + 0x20 else c

/-- `str.lower` on text whose only upper-case letters are ASCII. -/
def lower (s : Text) : Text := s.map lowerChar

/-- Carriage return or line feed. -/
def isLineBreak (c : Nat) : Bool := c == 0x0D || c == 0x0A

/-- Put a character in front of the first line. -/
def consFirst (c : Nat) : List Text → List Text
  | [] => [[c]]
  | line :: lines => (c :: line) :: lines

/-- `re.split(r"\r\n|\r|\n", s)`. -/
def splitLines : Text → List Text
  | [] => [[]]
  | [c] => if isLineBreak c then [[], []] else [[c]]
  | c :: d :: rest =>
      if c == 0x0D && d == 0x0A then [] :: splitLines rest
      else if isLineBreak c then [] :: splitLines (d :: rest)
      else consFirst c (splitLines (d :: rest))

/-- `c.encode("utf-8")` as octets, `none` where Python raises `UnicodeEncodeError`. -/
def encodeUtf8 (c : Nat) : Option (List Nat) :=
  if 0xD800 ≤ c ∧ c ≤ 0xDFFF then none
  else some ((String.utf8EncodeChar (Char.ofNat c)).map UInt8.toNat)

/-- `b.decode("utf-8", errors="strict")`, `none` where Python raises `UnicodeDecodeError`. -/
def decodeUtf8 (b : ByteArray) : Option Text := (String.fromUTF8? b).map ofString

/-- `text.encode("utf-8")` of a text without surrogates. -/
def toUtf8 (t : Text) : ByteArray := (String.ofList (t.map Char.ofNat)).toUTF8

/-- What is encoded decodes to the same text. -/
theorem decode_to_utf8 {t : Text} (h : ∀ c ∈ t, c.isValidChar) :
    decodeUtf8 (toUtf8 t) = some t := by
  have hdecode : String.fromUTF8? (toUtf8 t) = some (String.ofList (t.map Char.ofNat)) := by
    unfold String.fromUTF8? toUtf8
    exact dif_pos (String.ofList (t.map Char.ofNat)).isValidUTF8
  have hchars : ofString (String.ofList (t.map Char.ofNat)) = t := by
    unfold ofString
    rw [String.toList_ofList, List.map_map]
    refine (List.map_congr_left fun c hc => ?_).trans (List.map_id t)
    show (Char.ofNat c).toNat = c
    unfold Char.ofNat
    rw [dif_pos (h c hc)]
    rfl
  rw [decodeUtf8, hdecode, Option.map_some, hchars]

/-- The empty text has no separator. -/
@[simp] theorem split_first_nil (sep : Nat) : splitFirst sep [] = ([], none) := rfl

/-- Text without the separator is returned whole. -/
theorem split_first_of_not_mem {sep : Nat} {s : Text} (h : sep ∉ s) :
    splitFirst sep s = (s, none) := by
  induction s with
  | nil => rfl
  | cons c rest ih =>
      simp only [List.mem_cons, not_or] at h
      simp [splitFirst, Ne.symm h.1, ih h.2]

/-- Text split at a separator that its first part does not contain. -/
theorem split_first_append {sep : Nat} {s : Text} (rest : Text) (h : sep ∉ s) :
    splitFirst sep (s ++ sep :: rest) = (s, some rest) := by
  induction s with
  | nil => simp [splitFirst]
  | cons c s ih =>
      simp only [List.mem_cons, not_or] at h
      simp [splitFirst, Ne.symm h.1, ih h.2]

/-- The first part of a split never contains the separator. -/
theorem not_mem_split_first (sep : Nat) (s : Text) : sep ∉ (splitFirst sep s).1 := by
  induction s with
  | nil => simp
  | cons c rest ih =>
      by_cases hc : c = sep
      · simp [splitFirst, hc]
      · simp [splitFirst, hc, Ne.symm hc, ih]

/-- A text is put together from the parts of its split. -/
theorem split_first_join (sep : Nat) (s : Text) :
    s = (splitFirst sep s).1 ++ (splitFirst sep s).2.elim [] (sep :: ·) := by
  induction s with
  | nil => rfl
  | cons c rest ih =>
      by_cases hc : c = sep
      · simp [splitFirst, hc]
      · simp only [splitFirst, if_neg hc, List.cons_append]
        rw [← ih]

/-- Trimming removes padding on both sides of text that neither starts nor ends with it. -/
theorem strip_append {drop : Nat → Bool} {before s after : Text}
    (hbefore : ∀ c ∈ before, drop c = true) (hafter : ∀ c ∈ after, drop c = true)
    (hhead : ∀ c ∈ s.head?, drop c = false) (hlast : ∀ c ∈ s.getLast?, drop c = false) :
    strip drop (before ++ s ++ after) = s := by
  cases s with
  | nil =>
      have hall : ∀ c ∈ before ++ after, drop c = true := by
        intro c hc
        rcases List.mem_append.mp hc with hc | hc
        · exact hbefore c hc
        · exact hafter c hc
      simp [strip, List.dropWhile_eq_nil_iff.mpr hall]
  | cons c s =>
      have hfront : (before ++ (c :: s) ++ after).dropWhile drop = (c :: s) ++ after := by
        rw [List.append_assoc, List.dropWhile_append_of_pos hbefore, List.cons_append,
          List.dropWhile_cons_of_neg (by simp [hhead c (by simp)])]
      have hback : (after.reverse ++ (c :: s).reverse).dropWhile drop = (c :: s).reverse := by
        rw [List.dropWhile_append_of_pos (by simpa using hafter)]
        cases hrev : (c :: s).reverse with
        | nil => simp at hrev
        | cons d ds =>
            have hd : (c :: s).getLast? = some d := by
              rw [← List.head?_reverse, hrev]; rfl
            exact List.dropWhile_cons_of_neg (by simp [hlast d (by simp [hd])])
      simp only [strip, hfront, List.reverse_append]
      rw [hback, List.reverse_reverse]

/-- A stripped text consists of characters of the text. -/
theorem mem_of_mem_strip {drop : Nat → Bool} {s : Text} {c : Nat} (h : c ∈ strip drop s) :
    c ∈ s := by
  unfold strip at h
  rw [List.mem_reverse] at h
  have hback := List.mem_reverse.mp ((List.dropWhile_suffix drop).mem h)
  exact (List.dropWhile_suffix drop).mem hback

/-! ## Lines -/

/-- A character that breaks no line belongs to the first. -/
theorem split_lines_cons {c : Nat} (hc : isLineBreak c = false) (rest : Text) :
    splitLines (c :: rest) = consFirst c (splitLines rest) := by
  have hreturn : (c == 0x0D) = false := by
    simp [isLineBreak] at hc
    simp [hc]
  match rest with
  | [] => simp [splitLines, consFirst, hc]
  | d :: rest =>
      rw [splitLines]
      simp [hc, hreturn]

/-- A line feed ends a line. -/
theorem split_lines_feed (rest : Text) : splitLines (0x0A :: rest) = [] :: splitLines rest := by
  match rest with
  | [] => rfl
  | d :: rest => rfl

/-- A line feed splits text before which there is no line break. -/
theorem split_lines_append {s : Text} (hs : ∀ c ∈ s, isLineBreak c = false) (t : Text) :
    splitLines (s ++ 0x0A :: t) = s :: splitLines t := by
  induction s with
  | nil => exact split_lines_feed t
  | cons c s ih =>
      rw [List.cons_append, split_lines_cons (hs c List.mem_cons_self),
        ih fun d hd => hs d (List.mem_cons_of_mem c hd)]
      rfl

/-- A text without line breaks is one line. -/
theorem split_lines_single {s : Text} (hs : ∀ c ∈ s, isLineBreak c = false) :
    splitLines s = [s] := by
  induction s with
  | nil => rfl
  | cons c s ih =>
      rw [split_lines_cons (hs c List.mem_cons_self),
        ih fun d hd => hs d (List.mem_cons_of_mem c hd)]
      rfl

end Text

end GrowthOs.Library
