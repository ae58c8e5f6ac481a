import GrowthOs.Robots.Grouping
import GrowthOs.Robots.Normalization
import Mathlib.Data.List.DropRight
import Mathlib.Logic.Relation

/-!
# Spellings of targets and rules

An unreserved or non-ASCII character can be written raw or as the triplets of its octets, and a
triplet with hexadecimal digits in either case. `Respelling` relates the spellings of a path, and
`BodyRespelling` the files whose rules are so related; the decision is the same on both.
-/

namespace GrowthOs.Robots

open Library

/-- Hexadecimal digits of one value. -/
def SameDigit (c c' : Nat) : Prop :=
  isHexDigit c = true ∧ isHexDigit c' = true ∧ hexValue c = hexValue c'

/-- The text is made of triplets for these octets, with digits in either case. -/
inductive Triplets : List Nat → Text → Prop where
  | nil : Triplets [] []
  | cons {high low : Nat} {octets : List Nat} {text : Text} (hhigh : isHexDigit high = true)
      (hlow : isHexDigit low = true) (rest : Triplets octets text) :
      Triplets ((16 * hexValue high + hexValue low) :: octets) (0x25 :: high :: low :: text)

/-- The character may be percent-encoded: it is unreserved ASCII or not ASCII at all. -/
def MayEncode (c : Nat) : Prop := isUnreserved c = true ∨ 0x80 ≤ c

/-- Two spellings of a path: any number of characters outside its triplets are encoded or decoded,
and any number of triplets change the case of their digits. -/
inductive Respelling : Text → Text → Prop where
  | nil : Respelling [] []
  | char {c : Nat} {s s' : Text} (hc : c ≠ 0x25) (rest : Respelling s s') :
      Respelling (c :: s) (c :: s')
  | triplet {high low high' low' : Nat} {s s' : Text} (hhigh : SameDigit high high')
      (hlow : SameDigit low low') (rest : Respelling s s') :
      Respelling (0x25 :: high :: low :: s) (0x25 :: high' :: low' :: s')
  | encode {c : Nat} {octets : List Nat} {text s s' : Text} (hc : MayEncode c)
      (hoctets : Text.encodeUtf8 c = some octets) (spelled : Triplets octets text)
      (rest : Respelling s s') : Respelling (c :: s) (text ++ s')
  | decode {c : Nat} {octets : List Nat} {text s s' : Text} (hc : MayEncode c)
      (hoctets : Text.encodeUtf8 c = some octets) (spelled : Triplets octets text)
      (rest : Respelling s s') : Respelling (text ++ s) (c :: s')

/-- The normal form of the octets of triplets. -/
def octetsNormal (octets : List Nat) : Text × List Token :=
  (octets.flatMap octetText, octets.map fun octet => some (octetToken octet))

/-- Triplets are normalized to the octets that they encode. -/
theorem normalize_triplets (pattern : Bool) {octets : List Nat} {text : Text}
    (h : Triplets octets text) (rest : Text) : normalize pattern (text ++ rest) =
      (normalize pattern rest).map (prependNormal (octetsNormal octets)) := by
  induction h with
  | nil =>
      show normalize pattern rest = _
      cases normalize pattern rest with
      | none => rfl
      | some result => rfl
  | cons hhigh hlow _ ih =>
      rw [List.cons_append, List.cons_append, List.cons_append,
        normalize_triplet pattern hhigh hlow, ih, map_prepend_normal]
      rfl

/-- A character that may be encoded has the normal form of its octets. -/
theorem normalize_char_encoded (pattern : Bool) {c : Nat} (hc : MayEncode c) {octets : List Nat}
    (hoctets : Text.encodeUtf8 c = some octets) :
    c ≠ 0x25 ∧ normalizeChar pattern c = some (octetsNormal octets) := by
  obtain ⟨-, hascii, hother⟩ := encode_utf8_octets hoctets
  unfold normalizeChar
  cases hc with
  | inl hunreserved =>
      have hrange : c < 0x80 ∧ c ≠ 0x2A ∧ c ≠ 0x25 := by
        simp [isUnreserved] at hunreserved
        omega
      rw [if_neg fun h => hrange.2.1 h.2, if_pos hrange.1, hascii hrange.1]
      refine ⟨hrange.2.2, ?_⟩
      simp [octetsNormal, octetText, octetToken, hunreserved]
  | inr hlarge =>
      rw [if_neg fun h => by omega, if_neg (Nat.not_lt.mpr hlarge), hoctets]
      refine ⟨by omega, congrArg some (Prod.ext ?_ ?_)⟩
      · show octets.flatMap percentOctet = octets.flatMap octetText
        refine List.flatMap_congr fun octet hoctet => ?_
        exact (if_neg (by simp [hother hlarge octet hoctet])).symm
      · show (octets.map fun octet => some (256 + octet)) = octets.map _
        refine List.map_congr_left fun octet hoctet => congrArg some ?_
        exact (if_neg (by simp [hother hlarge octet hoctet])).symm

/-- Spellings of a path have one normal form. -/
theorem normalize_respelled (pattern : Bool) {s s' : Text} (h : Respelling s s') :
    normalize pattern s = normalize pattern s' := by
  have hencode : ∀ {c octets text} (t : Text), MayEncode c → Text.encodeUtf8 c = some octets →
      Triplets octets text → normalize pattern (c :: t) = normalize pattern (text ++ t) := by
    intro c octets text t hc hoctets hspelled
    obtain ⟨hpercent, hchar⟩ := normalize_char_encoded pattern hc hoctets
    rw [normalize_char pattern hpercent, hchar, normalize_triplets pattern hspelled]
    rfl
  have happend : ∀ {octets text} {t t' : Text}, Triplets octets text →
      normalize pattern t = normalize pattern t' →
      normalize pattern (text ++ t) = normalize pattern (text ++ t') := by
    intro octets text t t' hspelled hsame
    rw [normalize_triplets pattern hspelled, normalize_triplets pattern hspelled, hsame]
  induction h with
  | nil => rfl
  | char hc _ ih => rw [normalize_char pattern hc, normalize_char pattern hc, ih]
  | triplet hhigh hlow _ ih =>
      rw [normalize_triplet pattern hhigh.1 hlow.1,
        normalize_triplet pattern hhigh.2.1 hlow.2.1, ih, hhigh.2.2, hlow.2.2]
  | @encode c octets text s s' hc hoctets hspelled _ ih =>
      exact (hencode s hc hoctets hspelled).trans (happend hspelled ih)
  | @decode c octets text s s' hc hoctets hspelled _ ih =>
      exact (happend hspelled ih).trans (hencode s' hc hoctets hspelled).symm

/-- Any number of triplets of a text change the case of their digits. -/
inductive HexCase : Text → Text → Prop where
  | nil : HexCase [] []
  | char (c : Nat) {s s' : Text} (rest : HexCase s s') : HexCase (c :: s) (c :: s')
  | triplet {high low high' low' : Nat} {s s' : Text} (hhigh : SameDigit high high')
      (hlow : SameDigit low low') (rest : HexCase s s') :
      HexCase (0x25 :: high :: low :: s) (0x25 :: high' :: low' :: s')

/-- A line of the file: a record whose value is the path of a well-formed rule in another spelling,
or any line with triplets in another case. -/
inductive LineRespelling : Text → Text → Prop where
  | path {name value value' line line' : Text} (valid : ValidPattern value)
      (written : FieldLine name value line) (respelled : Respelling value value')
      (written' : FieldLine name value' line') : LineRespelling line line'
  | hexCase {line line' : Text} (h : HexCase line line') : LineRespelling line line'

/-- Any number of lines are respelled, any number of times. -/
def BodyRespelling (body body' : Text) : Prop :=
  List.Forall₂ (Relation.ReflTransGen LineRespelling) (Text.splitLines body) (Text.splitLines body')

/-- The digits of a triplet differ from every character that the line parser looks for. -/
theorem hex_digit_range {c : Nat} (h : isHexDigit c = true) :
    0x30 ≤ c ∧ c ≤ 0x66 ∧ c ≠ 0x3A ∧ c ≠ 0x5F := by
  simp [isHexDigit] at h
  omega

/-- The two cases of a digit have one lower case. -/
theorem same_digit_lower {c c' : Nat} (h : SameDigit c c') :
    Text.lowerChar c = Text.lowerChar c' := by
  obtain ⟨hc, hc', hvalue⟩ := h
  simp only [isHexDigit, Bool.or_eq_true, Bool.and_eq_true, decide_eq_true_eq] at hc hc'
  unfold hexValue at hvalue
  unfold Text.lowerChar
  split at hvalue <;> split at hvalue <;> (try split at hvalue) <;> (try split at hvalue) <;>
    split <;> split <;> omega

/-- Which of two spellings is called the other does not matter. -/
theorem HexCase.symm {s s' : Text} (h : HexCase s s') : HexCase s' s := by
  induction h with
  | nil => exact .nil
  | char c _ ih => exact .char c ih
  | triplet hhigh hlow _ ih =>
      exact .triplet ⟨hhigh.2.1, hhigh.1, hhigh.2.2.symm⟩ ⟨hlow.2.1, hlow.1, hlow.2.2.symm⟩ ih

/-- Digits without a percent sign in front are kept. -/
theorem hex_case_digits {high low : Nat} {t s' : Text} (h : HexCase (high :: low :: t) s')
    (hhigh : isHexDigit high = true) (hlow : isHexDigit low = true) :
    ∃ t', s' = high :: low :: t' ∧ HexCase t t' := by
  cases h with
  | triplet => exact absurd rfl (hex_digit_ne hhigh)
  | char _ rest =>
      cases rest with
      | triplet => exact absurd rfl (hex_digit_ne hlow)
      | char _ rest => exact ⟨_, rfl, rest⟩

/-- An incomplete triplet has no normal form. -/
theorem normalize_stuck (pattern : Bool) {rest : Text}
    (h : ¬ ∃ high low t, rest = high :: low :: t ∧ isHexDigit high = true ∧ isHexDigit low = true) :
    normalize pattern (0x25 :: rest) = none := by
  cases hnormal : normalize pattern (0x25 :: rest) with
  | none => rfl
  | some normal =>
      rcases well_formed_cases (normalize_well_formed hnormal) with
        ⟨high, low, t, -, hrest, hhigh, hlow, -⟩ | ⟨hc, -⟩
      · exact absurd ⟨high, low, t, hrest, hhigh, hlow⟩ h
      · exact absurd rfl hc

/-- The case of triplets does not matter to the normal form, of malformed text neither. -/
theorem normalize_hex_case (pattern : Bool) {s s' : Text} (h : HexCase s s') :
    normalize pattern s = normalize pattern s' := by
  induction hlength : s.length using Nat.strong_induction_on generalizing s s' with
  | _ n ih =>
  cases h with
  | nil => rfl
  | triplet hhigh hlow rest =>
      rw [normalize_triplet pattern hhigh.1 hlow.1, normalize_triplet pattern hhigh.2.1 hlow.2.1,
        hhigh.2.2, hlow.2.2]
      simp only [List.length_cons] at hlength
      rw [ih _ (by omega) rest rfl]
  | @char c s s' rest =>
      by_cases hc : c = 0x25
      · subst hc
        by_cases hdigits : ∃ high low t, s = high :: low :: t ∧ isHexDigit high = true ∧
            isHexDigit low = true
        · obtain ⟨high, low, t, rfl, hhigh, hlow⟩ := hdigits
          obtain ⟨t', rfl, htail⟩ := hex_case_digits rest hhigh hlow
          simp only [List.length_cons] at hlength
          rw [normalize_triplet pattern hhigh hlow, normalize_triplet pattern hhigh hlow,
            ih _ (by omega) htail rfl]
        · rw [normalize_stuck pattern hdigits, normalize_stuck pattern fun h => ?_]
          obtain ⟨high, low, t, rfl, hhigh, hlow⟩ := h
          obtain ⟨t', rfl, -⟩ := hex_case_digits rest.symm hhigh hlow
          exact hdigits ⟨high, low, t', rfl, hhigh, hlow⟩
      · simp only [List.length_cons] at hlength
        rw [normalize_char pattern hc, normalize_char pattern hc, ih _ (by omega) rest rfl]

/-- The parts around a separator are spelled alike, case aside. -/
theorem split_first_hex_case {sep : Nat} (hsep : sep ≠ 0x25) (hdigit : isHexDigit sep = false)
    {s s' : Text} (h : HexCase s s') :
    HexCase (Text.splitFirst sep s).1 (Text.splitFirst sep s').1 ∧
      Option.Rel HexCase (Text.splitFirst sep s).2 (Text.splitFirst sep s').2 := by
  have hother : ∀ {c : Nat}, isHexDigit c = true → c ≠ sep := fun {c} hc heq => by
    rw [heq, hdigit] at hc
    cases hc
  induction h with
  | nil => exact ⟨.nil, .none⟩
  | @char c s s' rest ih =>
      unfold Text.splitFirst
      split
      · exact ⟨.nil, .some rest⟩
      · exact ⟨.char c ih.1, ih.2⟩
  | triplet hhigh hlow rest ih =>
      simp only [Text.splitFirst, if_neg hsep.symm, if_neg (hother hhigh.1), if_neg (hother hlow.1),
        if_neg (hother hhigh.2.1), if_neg (hother hlow.2.1)]
      exact ⟨.triplet hhigh hlow ih.1, ih.2⟩

/-- A digit is no blank. -/
theorem blank_digit {c : Nat} (h : isHexDigit c = true) : isBlank c = false := by
  have hrange := hex_digit_range h
  simp [isBlank]
  omega

/-- Blanks in front are dropped alike. -/
theorem drop_blanks_hex_case {s s' : Text} (h : HexCase s s') :
    HexCase (s.dropWhile isBlank) (s'.dropWhile isBlank) := by
  induction h with
  | nil => exact .nil
  | @char c s s' rest ih =>
      cases hc : isBlank c with
      | true =>
          rw [List.dropWhile_cons_of_pos hc, List.dropWhile_cons_of_pos hc]
          exact ih
      | false =>
          rw [List.dropWhile_cons_of_neg (by simp [hc]), List.dropWhile_cons_of_neg (by simp [hc])]
          exact .char c rest
  | triplet hhigh hlow rest _ => exact .triplet hhigh hlow rest

/-- What is dropped from the end, from the front. -/
theorem rdrop_while_cons {α : Type} (p : α → Bool) (a : α) (l : List α) :
    (a :: l).rdropWhile p = if l.rdropWhile p = [] ∧
    p a = true then [] else a :: l.rdropWhile p := by
  unfold List.rdropWhile
  rw [List.reverse_cons, List.dropWhile_append]
  cases hdropped : l.reverse.dropWhile p with
  | nil =>
      cases hp : p a with
      | true => simp [hp]
      | false => simp [hp]
  | cons b rest => simp

/-- A character that is kept keeps what is before it. -/
theorem rdrop_while_keep {α : Type} {p : α → Bool} {a : α} (h : p a = false) (l : List α) :
    (a :: l).rdropWhile p = a :: l.rdropWhile p := by
  rw [rdrop_while_cons, if_neg (by simp [h])]

/-- Two spellings are empty together. -/
theorem hex_case_nil_iff {s s' : Text} (h : HexCase s s') : s = [] ↔ s' = [] := by
  cases h with
  | nil => exact Iff.rfl
  | char | triplet => exact iff_of_false (List.cons_ne_nil _ _) (List.cons_ne_nil _ _)

/-- Blanks at the end are dropped alike. -/
theorem rdrop_blanks_hex_case {s s' : Text} (h : HexCase s s') :
    HexCase (s.rdropWhile isBlank) (s'.rdropWhile isBlank) := by
  induction h with
  | nil => exact .nil
  | @char c s s' rest ih =>
      have hempty := hex_case_nil_iff ih
      rw [rdrop_while_cons, rdrop_while_cons]
      by_cases hdrop : s.rdropWhile isBlank = [] ∧ isBlank c = true
      · rw [if_pos hdrop, if_pos ⟨hempty.mp hdrop.1, hdrop.2⟩]
        exact .nil
      · rw [if_neg hdrop, if_neg fun h => hdrop ⟨hempty.mpr h.1, h.2⟩]
        exact .char c ih
  | triplet hhigh hlow rest ih =>
      rw [rdrop_while_keep (by decide), rdrop_while_keep (blank_digit hhigh.1),
        rdrop_while_keep (blank_digit hlow.1), rdrop_while_keep (by decide),
        rdrop_while_keep (blank_digit hhigh.2.1), rdrop_while_keep (blank_digit hlow.2.1)]
      exact .triplet hhigh hlow ih

/-- So are both. -/
theorem strip_hex_case {s s' : Text} (h : HexCase s s') :
    HexCase (Text.strip isBlank s) (Text.strip isBlank s') :=
  rdrop_blanks_hex_case (drop_blanks_hex_case h)

/-- Two spellings have one lower case. -/
theorem lower_hex_case {s s' : Text} (h : HexCase s s') : Text.lower s = Text.lower s' := by
  induction h with
  | nil => rfl
  | char c _ ih => exact congrArg (Text.lowerChar c :: ·) ih
  | triplet hhigh hlow _ ih =>
      show _ :: _ :: _ :: Text.lower _ = _ :: _ :: _ :: Text.lower _
      rw [same_digit_lower hhigh, same_digit_lower hlow, ih]

/-- A record keeps its field name, and its value changes the case of triplets. -/
theorem line_field_hex_case {line line' : Text} (h : HexCase line line') :
    (lineField line = none ∧ lineField line' = none) ∨
      ∃ field value value', lineField line = some (field, value) ∧
        lineField line' = some (field, value') ∧ HexCase value value' := by
  have hhash : (0x23 : Nat) ≠ 0x25 := by decide
  have hcolon : (0x3A : Nat) ≠ 0x25 := by decide
  have huncommented := (split_first_hex_case hhash (by decide) h).1
  obtain ⟨hfield, hvalue⟩ := split_first_hex_case hcolon (by decide) huncommented
  unfold lineField
  dsimp only
  generalize Text.splitFirst 0x3A (Text.splitFirst 0x23 line).1 = split at hfield hvalue ⊢
  generalize Text.splitFirst 0x3A (Text.splitFirst 0x23 line').1 = split' at hfield hvalue ⊢
  obtain ⟨rawField, rawValue⟩ := split
  obtain ⟨rawField', rawValue'⟩ := split'
  cases hvalue with
  | none => exact .inl ⟨rfl, rfl⟩
  | some hvalue =>
      refine .inr ⟨_, _, _, rfl, ?_, strip_hex_case hvalue⟩
      rw [lower_hex_case (strip_hex_case hfield)]

/-- Text without a percent sign is not touched. -/
theorem hex_case_eq {s s' : Text} (h : HexCase s s') : s = s' ∨ (0x25 ∈ s ∧ 0x25 ∈ s') := by
  induction h with
  | nil => exact .inl rfl
  | char c _ ih =>
      rcases ih with rfl | ⟨hmem, hmem'⟩
      · exact .inl rfl
      · exact .inr ⟨List.mem_cons_of_mem c hmem, List.mem_cons_of_mem c hmem'⟩
  | triplet => exact .inr ⟨List.mem_cons_self, List.mem_cons_self⟩

/-- A product token has no percent sign. -/
theorem product_token_no_percent {value : Text} (h : 0x25 ∈ value) :
    isProductToken value = false := by
  have hwildcard : value ≠ wildcardAgent := fun heq => by
    rw [heq] at h
    exact absurd h (by decide)
  unfold isProductToken
  rw [Bool.or_eq_false_iff, Bool.and_eq_false_iff]
  refine ⟨by simpa using hwildcard, .inr ?_⟩
  rw [List.all_eq_false]
  exact ⟨0x25, h, by decide⟩

/-- It starts with no slash. -/
theorem product_token_no_slash {value : Text} (h : value.head? = some 0x2F) :
    isProductToken value = false := by
  cases value with
  | nil => rfl
  | cons c rest =>
      cases h
      rfl

/-- Two spellings of a pattern are one rule. -/
theorem parse_rule_hex_case {value value' : Text} (h : HexCase value value') (allowed : Bool) :
    parseRule value allowed = parseRule value' allowed := by
  have hhead : value.head? = value'.head? := by
    cases h with
    | nil | char | triplet => rfl
  have hvisible : (value.any fun c => c ≤ 0x20 || c == 0x7F) =
      value'.any fun c => c ≤ 0x20 || c == 0x7F := by
    have hdigit : ∀ {c : Nat}, isHexDigit c = true → (decide (c ≤ 0x20) || c == 0x7F) = false :=
      fun {c} hc => by
        have hrange := hex_digit_range hc
        simp
        omega
    clear hhead
    induction h with
    | nil => rfl
    | char c _ ih => rw [List.any_cons, List.any_cons, ih]
    | triplet hhigh hlow _ ih =>
        simp only [List.any_cons, hdigit hhigh.1, hdigit hhigh.2.1, hdigit hlow.1,
          hdigit hlow.2.1, ih]
  unfold parseRule
  rw [hhead, hvisible, normalize_hex_case true h]

/-! ## The parser on other spellings -/

/-- A visible character that starts no comment. -/
def PathChar (c : Nat) : Prop := 0x20 < c ∧ c ≠ 0x7F ∧ c ≠ 0x23

/-- Triplets are characters of a path. -/
theorem path_char_triplets {octets : List Nat} {text : Text} (h : Triplets octets text) :
    ∀ c ∈ text, PathChar c := by
  induction h with
  | nil => exact fun c hc => nomatch hc
  | cons hhigh hlow _ ih =>
      have hhighRange := hex_digit_range hhigh
      have hlowRange := hex_digit_range hlow
      intro c hc
      unfold PathChar
      rcases List.mem_cons.mp hc with rfl | hc
      · decide
      · rcases List.mem_cons.mp hc with rfl | hc
        · omega
        · rcases List.mem_cons.mp hc with rfl | hc
          · omega
          · exact ih c hc

/-- A respelled path consists of characters of a path. -/
theorem path_char_respelled {s s' : Text} (h : Respelling s s') (hs : ∀ c ∈ s, PathChar c) :
    ∀ c ∈ s', PathChar c := by
  induction h with
  | nil => exact hs
  | @char c s s' hc _ ih =>
      intro d hd
      rcases List.mem_cons.mp hd with rfl | hd
      · exact hs d List.mem_cons_self
      · exact ih (fun e he => hs e (List.mem_cons_of_mem c he)) d hd
  | @triplet high low high' low' s s' hhigh hlow _ ih =>
      have htriplet : Triplets [16 * hexValue high' + hexValue low'] [0x25, high', low'] :=
        .cons hhigh.2.1 hlow.2.1 .nil
      intro d hd
      rcases List.mem_append.mp (show d ∈ [0x25, high', low'] ++ s' from hd) with hd | hd
      · exact path_char_triplets htriplet d hd
      · exact ih (fun e he => hs e (by simp [he])) d hd
  | @encode c octets text s s' hc hoctets hspelled _ ih =>
      intro d hd
      rcases List.mem_append.mp hd with hd | hd
      · exact path_char_triplets hspelled d hd
      · exact ih (fun e he => hs e (List.mem_cons_of_mem c he)) d hd
  | @decode c octets text s s' hc hoctets hspelled _ ih =>
      intro d hd
      rcases List.mem_cons.mp hd with rfl | hd
      · unfold PathChar
        rcases hc with hunreserved | hlarge
        · simp [isUnreserved] at hunreserved
          omega
        · omega
      · exact ih (fun e he => hs e (List.mem_append_right text he)) d hd

/-- It starts with the same slash. -/
theorem slash_respelled {s s' : Text} (h : Respelling s s') (hs : s.head? = some 0x2F) :
    s'.head? = some 0x2F := by
  cases h with
  | nil => cases hs
  | char => exact hs
  | triplet => cases hs
  | encode hc =>
      cases hs
      exact absurd hc (by unfold MayEncode; decide)
  | @decode c octets text s s' hc hoctets hspelled =>
      cases hspelled with
      | nil =>
          have hscalar : ¬(0xD800 ≤ c ∧ c ≤ 0xDFFF) := fun hsurrogate => by
            rw [Text.encodeUtf8, if_pos hsurrogate] at hoctets
            cases hoctets
          obtain ⟨octet, rest, hsome⟩ := encode_utf8_ne_nil hscalar
          cases hsome.symm.trans hoctets
      | cons => cases hs

/-- A respelled pattern is the same rule. -/
theorem parse_rule_respelled {value value' : Text} (hvalid : ValidPattern value)
    (h : Respelling value value') (allowed : Bool) :
    parseRule value allowed = parseRule value' allowed := by
  have hchars : ∀ c ∈ value, PathChar c := fun c hc =>
    ⟨(hvalid.visible c hc).1, (hvalid.visible c hc).2, fun heq => hvalid.uncommented (heq ▸ hc)⟩
  have hvisible : ∀ {pattern : Text}, (∀ c ∈ pattern, PathChar c) →
      ¬ (pattern.any fun c => c ≤ 0x20 || c == 0x7F) = true := by
    intro pattern hpattern hany
    obtain ⟨c, hc, hbad⟩ := List.any_eq_true.mp hany
    have hchar := hpattern c hc
    unfold PathChar at hchar
    simp at hbad
    omega
  unfold parseRule
  rw [hvalid.slash, slash_respelled h hvalid.slash, if_neg (hvisible hchars),
    if_neg (hvisible (path_char_respelled h hchars)), normalize_respelled true h]

/-- Two lines with one field have one effect, where their values are read alike. -/
theorem parse_line_congr {line line' : Text} {field value value' : Text}
    (hfield : lineField line = some (field, value))
    (hfield' : lineField line' = some (field, value'))
    (hagent : isProductToken value = true ∨ isProductToken value' = true → value = value')
    (hrule : ∀ allowed, parseRule value allowed = parseRule value' allowed) (state : ParseState) :
    parseLine state line = parseLine state line' := by
  have hadd : ∀ allowed, state.addRule value allowed = state.addRule value' allowed :=
    fun allowed => by
    unfold ParseState.addRule
    rw [hrule allowed]
  unfold parseLine
  rw [hfield, hfield']
  simp only [hadd]
  cases hproduct : isProductToken value with
  | true =>
      obtain rfl := hagent (.inl hproduct)
      simp only [hproduct]
  | false =>
      cases hproduct' : isProductToken value' with
      | true =>
          obtain rfl := hagent (.inr hproduct')
          rw [hproduct] at hproduct'
          cases hproduct'
      | false => simp

/-- A respelled line acts on the groups as the line does. -/
theorem parse_line_respelled {line line' : Text} (h : LineRespelling line line')
    (state : ParseState) : parseLine state line = parseLine state line' := by
  cases h with
  | @path name value value' line line' hvalid hwritten hrespelled hwritten' =>
      refine parse_line_congr (line_field_of_field_line hwritten)
        (line_field_of_field_line hwritten') (fun hagent => ?_)
        (parse_rule_respelled hvalid hrespelled)
        state
      rw [product_token_no_slash hvalid.slash,
        product_token_no_slash (slash_respelled hrespelled hvalid.slash)] at hagent
      simp at hagent
  | hexCase h =>
      rcases line_field_hex_case h with ⟨hnone, hnone'⟩ |
        ⟨field, value, value', hfield, hfield', hvalue⟩
      · unfold parseLine
        rw [hnone, hnone']
      · refine parse_line_congr hfield hfield' (fun hagent => ?_) (parse_rule_hex_case hvalue) state
        rcases hex_case_eq hvalue with rfl | ⟨hmem, hmem'⟩
        · rfl
        · rw [product_token_no_percent hmem, product_token_no_percent hmem'] at hagent
          simp at hagent

/-- Files whose lines are respelled have the same groups. -/
theorem parse_groups_respelled {body body' : Text} (h : BodyRespelling body body') :
    parseGroups body = parseGroups body' := by
  have hline : ∀ {line line' : Text}, Relation.ReflTransGen LineRespelling line line' →
      ∀ state, parseLine state line = parseLine state line' := by
    intro line line' hchain state
    induction hchain with
    | refl => rfl
    | tail _ hstep ih => exact ih.trans (parse_line_respelled hstep state)
  have hlines : ∀ {lines lines' : List Text},
      List.Forall₂ (Relation.ReflTransGen LineRespelling) lines lines' →
      ∀ state, lines.foldl parseLine state = lines'.foldl parseLine state := by
    intro lines lines' hforall
    induction hforall with
    | nil => exact fun _ => rfl
    | cons hfirst _ ih =>
        intro state
        rw [List.foldl_cons, List.foldl_cons, hline hfirst state, ih]
  exact congrArg ParseState.groups (hlines h ⟨[], none⟩)

/-- The decision is the same on every spelling of the target and of the rules. -/
theorem decision_respelled {robotsTxt robotsTxt' : ByteArray} {body body' target target' : Text}
    (hsize : robotsTxt.size ≤ maxRobotsBytes) (hsize' : robotsTxt'.size ≤ maxRobotsBytes)
    (hdecode : Text.decodeUtf8 robotsTxt = some body)
    (hdecode' : Text.decodeUtf8 robotsTxt' = some body')
    (hvalid : validateTarget target = .ok ()) (hvalid' : validateTarget target' = .ok ())
    (hbody : BodyRespelling body body') (htarget : Respelling target target') :
    ∃ decision, evaluateRobots robotsTxt target = .ok decision ∧
      evaluateRobots robotsTxt' target' = .ok decision := by
  have hcopy := (validate_target_ok_iff target).mp hvalid
  obtain ⟨normal, hnormal⟩ := normalize_is_some false hcopy.scalar hcopy.triplets
  refine ⟨decideTarget (parseGroups body) normal,
    evaluate_robots_ok hsize hdecode hvalid hnormal, ?_⟩
  rw [parse_groups_respelled hbody]
  exact evaluate_robots_ok hsize' hdecode' hvalid' 
    ((normalize_respelled false htarget).symm.trans hnormal)

/-- `é` and its triplets in either case. -/
theorem triplets_acute : Text.encodeUtf8 0xE9 = some [0xC3, 0xA9] ∧
    Triplets [0xC3, 0xA9] (Text.ofString "%C3%A9") ∧
    Triplets [0xC3, 0xA9] (Text.ofString "%c3%a9") := by
  refine ⟨by decide +kernel, ?_, ?_⟩
  · exact @Triplets.cons 0x43 0x33 _ _ rfl rfl (@Triplets.cons 0x41 0x39 _ _ rfl rfl .nil)
  · exact @Triplets.cons 0x63 0x33 _ _ rfl rfl (@Triplets.cons 0x61 0x39 _ _ rfl rfl .nil)

/-- A rule in two spellings before a comment, and a target in two spellings. -/
theorem decision_respelled_cafe :
    ∃ decision, evaluateRobots "User-agent: *\nDisallow: /caf%c3%a9~ # x".toUTF8
        (Text.ofString "/café/a%2fb") = .ok decision ∧
      evaluateRobots "User-agent: *\nDisallow: /café%7E # x".toUTF8
        (Text.ofString "/caf%C3%A9/a%2Fb") = .ok decision := by
  obtain ⟨hencode, hupper, hlower⟩ := triplets_acute
  have hdecode : Text.decodeUtf8 "User-agent: *\nDisallow: /caf%c3%a9~ # x".toUTF8 =
      some (Text.ofString "User-agent: *\nDisallow: /caf%c3%a9~ # x") := by
    decide +kernel
  have hdecode' : Text.decodeUtf8 "User-agent: *\nDisallow: /café%7E # x".toUTF8 =
      some (Text.ofString "User-agent: *\nDisallow: /café%7E # x") := by
    decide +kernel
  -- Characters in front that open no triplet are the same in both spellings.
  have hkeep : ∀ (before s s' : Text), 0x25 ∉ before → Respelling s s' →
      Respelling (before ++ s) (before ++ s') := by
    intro before s s' hbefore h
    induction before with
    | nil => exact h
    | cons c before ih =>
        exact .char (fun heq => hbefore (by simp [heq])) (ih fun hmem => hbefore (by simp [hmem]))
  have hrule : Respelling (Text.ofString "/caf%c3%a9~") (Text.ofString "/café%7E") := by
    refine hkeep (Text.ofString "/caf") (Text.ofString "%c3%a9" ++ [0x7E])
      (0xE9 :: Text.ofString "%7E" ++ []) (by decide) ?_
    refine .decode (.inr (by decide)) hencode hlower ?_
    exact .encode (.inl rfl) (by decide +kernel) (@Triplets.cons 0x37 0x45 _ _ rfl rfl .nil) .nil
  have htarget : Respelling (Text.ofString "/café/a%2fb") (Text.ofString "/caf%C3%A9/a%2Fb") := by
    refine hkeep (Text.ofString "/caf") (0xE9 :: Text.ofString "/a%2fb")
      (Text.ofString "%C3%A9" ++ Text.ofString "/a%2Fb") (by decide) ?_
    refine .encode (.inr (by decide)) hencode hupper ?_
    refine hkeep (Text.ofString "/a") (Text.ofString "%2fb") (Text.ofString "%2Fb") (by decide) ?_
    exact .triplet ⟨rfl, rfl, rfl⟩ ⟨rfl, rfl, rfl⟩ (.char (by decide) .nil)
  have hline : ∀ value, Trimmed value → 0x23 ∉ value → FieldLine (Text.ofString "disallow") value
      (Text.ofString "Disallow: " ++ value ++ Text.ofString " # x") := by
    intro value htrimmed hvalue
    have hblank : Blanks (Text.ofString " ") := by unfold Blanks; decide +kernel
    refine ⟨[], Text.ofString "Disallow", [], Text.ofString " ", Text.ofString " ",
      Text.ofString "# x", ?_, nofun, nofun, hblank, hblank, .inr rfl, ⟨?_, ?_⟩, ?_, ?_, ?_,
      htrimmed, hvalue⟩
    · show (Text.ofString "Disallow" ++ 0x3A :: Text.ofString " ") ++ value ++
        (Text.ofString " " ++ Text.ofString "# x") = _
      simp only [List.nil_append, List.append_nil, List.append_assoc, List.cons_append]
    all_goals decide +kernel
  refine decision_respelled ?_ ?_ hdecode hdecode' ?_ ?_ ?_ htarget
  · decide +kernel
  · decide +kernel
  · exact (validate_target_ok_iff _).mpr (by constructor <;> decide +kernel)
  · exact (validate_target_ok_iff _).mpr (by constructor <;> decide +kernel)
  · have hlines : Text.splitLines (Text.ofString "User-agent: *\nDisallow: /caf%c3%a9~ # x") =
        [Text.ofString "User-agent: *",
          Text.ofString "Disallow: " ++ Text.ofString "/caf%c3%a9~" ++ Text.ofString " # x"] := by
      decide +kernel
    have hlines' : Text.splitLines (Text.ofString "User-agent: *\nDisallow: /café%7E # x") =
        [Text.ofString "User-agent: *",
          Text.ofString "Disallow: " ++ Text.ofString "/café%7E" ++ Text.ofString " # x"] := by
      decide +kernel
    have hvalid : ValidPattern (Text.ofString "/caf%c3%a9~") := by constructor <;> decide +kernel
    unfold BodyRespelling
    rw [hlines, hlines']
    refine .cons .refl (.cons (.single (.path hvalid (hline _ ⟨?_, ?_⟩ ?_) hrule
      (hline _ ⟨?_, ?_⟩ ?_))) .nil)
    all_goals decide +kernel

end GrowthOs.Robots
