import GrowthOs.Robots.Policy

/-!
# The normal form of a text

`normalize` reads a text piece by piece: triplets and other characters. A target denotes the list of
its octets.
-/

namespace GrowthOs.Robots

open Library

/-- The token of a percent-encoded octet. -/
def octetToken (octet : Nat) : Nat := if isUnreserved octet then octet else 256 + octet

/-- The normal form of a percent-encoded octet. -/
def octetText (octet : Nat) : Text := if isUnreserved octet then [octet] else percentOctet octet

/-- The normal form and the tokens of a character that is not part of a triplet. -/
def normalizeChar (pattern : Bool) (c : Nat) : Option (Text × List Token) :=
  if pattern ∧ c = 0x2A then some ([c], [none])
  else if c < 0x80 then some ([c], [some c])
  else (Text.encodeUtf8 c).map fun octets =>
    (octets.flatMap percentOctet, octets.map fun octet => some (256 + octet))

/-- Put the normal form of a piece in front. -/
def prependNormal (piece rest : Text × List Token) : Text × List Token :=
  (piece.1 ++ rest.1, piece.2 ++ rest.2)

/-- Two pieces in front of a normal form. -/
theorem map_prepend_normal (piece piece' : Text × List Token) (rest : Option (Text × List Token)) :
    (rest.map (prependNormal piece')).map (prependNormal piece) =
      rest.map (prependNormal (prependNormal piece piece')) := by
  rw [Option.map_map]
  refine congrArg (rest.map ·) (funext fun result => ?_)
  show (piece.1 ++ (piece'.1 ++ result.1), piece.2 ++ (piece'.2 ++ result.2)) = _
  rw [← List.append_assoc, ← List.append_assoc]
  rfl

/-- A triplet is normalized by its octet. -/
theorem normalize_triplet (pattern : Bool) {high low : Nat} (hhigh : isHexDigit high = true)
    (hlow : isHexDigit low = true) (rest : Text) :
    normalize pattern (0x25 :: high :: low :: rest) = (normalize pattern rest).map
      (prependNormal (octetText (16 * hexValue high + hexValue low),
        [some (octetToken (16 * hexValue high + hexValue low))])) := by
  rw [normalize, if_pos rfl]
  simp only [hhigh, hlow, Bool.and_self, if_true]
  cases normalize pattern rest with
  | none => rfl
  | some result =>
      by_cases hoctet : isUnreserved (16 * hexValue high + hexValue low) = true
      · simp [hoctet, octetText, octetToken, prependNormal]
      · simp [hoctet, octetText, octetToken, prependNormal]

/-- Every other character by itself. -/
theorem normalize_char (pattern : Bool) {c : Nat} (hc : c ≠ 0x25) (rest : Text) :
    normalize pattern (c :: rest) = (normalizeChar pattern c).bind fun piece =>
      (normalize pattern rest).map (prependNormal piece) := by
  rw [normalize.eq_def]
  simp only [if_neg hc]
  unfold normalizeChar
  cases normalize pattern rest with
  | none =>
      by_cases hstar : pattern = true ∧ c = 0x2A
      · simp [hstar]
      · by_cases hascii : c < 0x80
        · simp [hstar, hascii]
        · simp [hstar, hascii]
  | some result =>
      by_cases hstar : pattern = true ∧ c = 0x2A
      · simp [hstar, prependNormal]
      · by_cases hascii : c < 0x80
        · simp [hstar, hascii, prependNormal]
        · cases hoctets : Text.encodeUtf8 c with
          | none => simp [hstar, hascii]
          | some octets => simp [hstar, hascii, prependNormal]

/-- A character that is no percent sign does not matter to the triplets. -/
theorem well_formed_cons {c : Nat} (hc : c ≠ 0x25) (rest : Text) :
    wellFormedTriplets (c :: rest) = wellFormedTriplets rest := by
  rw [wellFormedTriplets.eq_def]
  simp only [if_neg hc, Bool.true_and]

/-- A digit is no percent sign. -/
theorem hex_digit_ne {c : Nat} (h : isHexDigit c = true) : c ≠ 0x25 := by
  simp [isHexDigit] at h
  omega

/-- The value of a digit. -/
theorem hex_value_lt {c : Nat} (h : isHexDigit c = true) : hexValue c < 16 := by
  simp [isHexDigit] at h
  unfold hexValue
  split
  · omega
  · split <;> omega

/-- A text with well-formed triplets starts with a triplet or with another character. -/
theorem well_formed_cases {c : Nat} {rest : Text} (h : wellFormedTriplets (c :: rest) = true) :
    (∃ high low tail, c = 0x25 ∧ rest = high :: low :: tail ∧ isHexDigit high = true ∧
        isHexDigit low = true ∧ wellFormedTriplets tail = true) ∨
      (c ≠ 0x25 ∧ wellFormedTriplets rest = true) := by
  by_cases hc : c = 0x25
  · match rest with
    | high :: low :: tail =>
        rw [wellFormedTriplets] at h
        simp only [hc, if_true, Bool.and_eq_true] at h
        obtain ⟨⟨hhigh, hlow⟩, htail⟩ := h
        rw [well_formed_cons (hex_digit_ne hhigh), well_formed_cons (hex_digit_ne hlow)] at htail
        exact Or.inl ⟨high, low, tail, hc, rfl, hhigh, hlow, htail⟩
    | [d] => simp [wellFormedTriplets, hc] at h
    | [] => simp [wellFormedTriplets, hc] at h
  · exact Or.inr ⟨hc, by rwa [well_formed_cons hc] at h⟩

/-- A triplet in front of complete ones. -/
theorem well_formed_triplet {high low : Nat} {rest : Text} (hhigh : isHexDigit high = true)
    (hlow : isHexDigit low = true) (hrest : wellFormedTriplets rest = true) :
    wellFormedTriplets (0x25 :: high :: low :: rest) = true := by
  rw [wellFormedTriplets, well_formed_cons (hex_digit_ne hhigh),
    well_formed_cons (hex_digit_ne hlow)]
  simp [hhigh, hlow, hrest]

/-- Induction on a text with well-formed triplets, by triplets and other characters. -/
theorem well_formed_induction {motive : (s : Text) → wellFormedTriplets s = true → Prop}
    (nil : motive [] rfl)
    (triplet : ∀ high low rest (hhigh : isHexDigit high = true) (hlow : isHexDigit low = true)
      (hrest : wellFormedTriplets rest = true), motive rest hrest →
      motive (0x25 :: high :: low :: rest) (well_formed_triplet hhigh hlow hrest))
    (char : ∀ c rest (hc : c ≠ 0x25) (hrest : wellFormedTriplets rest = true), motive rest hrest →
      motive (c :: rest) ((well_formed_cons hc rest).trans hrest))
    (s : Text) (h : wellFormedTriplets s = true) : motive s h := by
  induction hlength : s.length using Nat.strong_induction_on generalizing s with
  | _ n ih =>
      match s with
      | [] => exact nil
      | c :: rest =>
          rw [List.length_cons] at hlength
          rcases well_formed_cases h with
            ⟨high, low, tail, rfl, rfl, hhigh, hlow, htail⟩ | ⟨hc, hrest⟩
          · rw [List.length_cons, List.length_cons] at hlength
            exact triplet high low tail hhigh hlow htail (ih tail.length (by omega) tail htail rfl)
          · exact char c rest hc hrest (ih rest.length (by omega) rest hrest rfl)

/-- A triplet never spans the end of a well-formed text. -/
theorem well_formed_append {s t : Text} (h : wellFormedTriplets s = true) :
    wellFormedTriplets (s ++ t) = wellFormedTriplets t := by
  induction s with
  | nil => rfl
  | cons c rest ih =>
      match rest with
      | high :: low :: tail =>
          simp only [wellFormedTriplets, List.cons_append, Bool.and_eq_true] at h ih ⊢
          rw [ih h.2, h.1, Bool.true_and]
      | [d] =>
          by_cases hc : c = 0x25
          · simp [wellFormedTriplets, hc] at h
          · simp only [wellFormedTriplets, if_neg hc, Bool.true_and] at h
            rw [List.cons_append, wellFormedTriplets.eq_def]
            simp only [if_neg hc, Bool.true_and]
            exact ih h
      | [] =>
          by_cases hc : c = 0x25
          · simp [wellFormedTriplets, hc] at h
          · rw [List.cons_append, wellFormedTriplets.eq_def]
            simp only [if_neg hc, Bool.true_and, List.nil_append]

/-- Only a text with well-formed triplets has a normal form. -/
theorem normalize_well_formed {pattern : Bool} {s : Text} {normal : Text × List Token}
    (h : normalize pattern s = some normal) : wellFormedTriplets s = true := by
  fun_induction normalize pattern s generalizing normal with
  | case1 => rfl
  | case2 high low rest hhex octet =>
      rename_i ih
      obtain ⟨result, hresult, -⟩ := Option.bind_eq_some_iff.mp h
      rw [Bool.and_eq_true] at hhex
      exact well_formed_triplet hhex.1 hhex.2 (ih hresult)
  | case3 => cases h
  | case4 => cases h
  | case5 c rest hc ih =>
      obtain ⟨result, hresult, -⟩ := Option.bind_eq_some_iff.mp h
      rw [well_formed_cons hc]
      exact ih hresult

/-- The octets of a text, as the evaluator normalizes a target. -/
def Denotes (s : Text) (tokens : List Token) : Prop :=
  ∃ normalized, normalize false s = some (normalized, tokens)

/-- A text denotes one list of tokens. -/
theorem denotes_unique {s : Text} {tokens tokens' : List Token} (h : Denotes s tokens)
    (h' : Denotes s tokens') : tokens = tokens' := by
  obtain ⟨normalized, h⟩ := h
  obtain ⟨normalized', h'⟩ := h'
  rw [h] at h'
  exact (Prod.mk.inj (Option.some.inj h')).2

/-- The empty text denotes none. -/
theorem denotes_nil : Denotes [] [] := ⟨[], rfl⟩

/-- A triplet denotes its octet. -/
theorem denotes_triplet {high low : Nat} {rest : Text} {tokens : List Token}
    (hhigh : isHexDigit high = true) (hlow : isHexDigit low = true) (h : Denotes rest tokens) :
    Denotes (0x25 :: high :: low :: rest)
      (some (octetToken (16 * hexValue high + hexValue low)) :: tokens) := by
  obtain ⟨normalized, h⟩ := h
  exact ⟨_, by rw [normalize_triplet false hhigh hlow, h]; rfl⟩

/-- Every other character what it is normalized to. -/
theorem denotes_char {c : Nat} {rest : Text} {piece : Text × List Token} {tokens : List Token}
    (hc : c ≠ 0x25) (hpiece : normalizeChar false c = some piece) (h : Denotes rest tokens) :
    Denotes (c :: rest) (piece.2 ++ tokens) := by
  obtain ⟨normalized, h⟩ := h
  exact ⟨_, by rw [normalize_char false hc, hpiece, h]; rfl⟩

/-- An ASCII character is normalized to itself. -/
theorem normalize_char_ascii {c : Nat} (h : c < 0x80) :
    normalizeChar false c = some ([c], [some c]) := by
  simp [normalizeChar, h]

/-- A text with complete triplets denotes tokens. -/
theorem denotes_is_some {s : Text} (hscalar : ∀ c ∈ s, ¬(0xD800 ≤ c ∧ c ≤ 0xDFFF))
    (h : wellFormedTriplets s = true) : ∃ tokens, Denotes s tokens := by
  obtain ⟨⟨normalized, tokens⟩, hnormal⟩ := normalize_is_some false hscalar h
  exact ⟨tokens, normalized, hnormal⟩

/-- A text is normalized piece by piece. -/
theorem denotes_append {s t : Text} {tokens tokens' : List Token}
    (hwell : wellFormedTriplets s = true) (h : Denotes s tokens) (h' : Denotes t tokens') :
    Denotes (s ++ t) (tokens ++ tokens') := by
  induction s, hwell using well_formed_induction generalizing tokens with
  | nil =>
      rw [denotes_unique h denotes_nil]
      exact h'
  | triplet high low rest hhigh hlow hrest ih =>
      obtain ⟨normalized, h⟩ := h
      rw [normalize_triplet false hhigh hlow] at h
      obtain ⟨result, hresult, heq⟩ := Option.map_eq_some_iff.mp h
      cases heq
      exact denotes_triplet hhigh hlow (ih ⟨_, hresult⟩)
  | char c rest hc hrest ih =>
      obtain ⟨normalized, h⟩ := h
      rw [normalize_char false hc] at h
      obtain ⟨piece, hpiece, h⟩ := Option.bind_eq_some_iff.mp h
      obtain ⟨result, hresult, heq⟩ := Option.map_eq_some_iff.mp h
      cases heq
      show Denotes (c :: (rest ++ t)) (piece.2 ++ result.2 ++ tokens')
      rw [List.append_assoc]
      exact denotes_char hc hpiece (ih ⟨_, hresult⟩)

/-- Without a star, a rule has the tokens of a target. -/
theorem normalize_star_free {s : Text} (hstar : 0x2A ∉ s) (h : wellFormedTriplets s = true) :
    normalize true s = normalize false s := by
  induction s, h using well_formed_induction with
  | nil => rfl
  | triplet high low rest hhigh hlow hrest ih =>
      rw [normalize_triplet true hhigh hlow, normalize_triplet false hhigh hlow,
        ih fun hmem => hstar (by simp [hmem])]
  | char c rest hc hrest ih =>
      have hne : c ≠ 0x2A := fun heq => hstar (by simp [heq])
      rw [normalize_char true hc, normalize_char false hc, ih fun hmem => hstar (by simp [hmem])]
      simp [normalizeChar, hne]

/-- Without a star, no token is a wildcard. -/
theorem tokens_no_star {s : Text} {tokens : List Token} (hwell : wellFormedTriplets s = true)
    (h : Denotes s tokens) : none ∉ tokens := by
  induction s, hwell using well_formed_induction generalizing tokens with
  | nil =>
      rw [denotes_unique h denotes_nil]
      exact List.not_mem_nil
  | triplet high low rest hhigh hlow hrest ih =>
      obtain ⟨normalized, h⟩ := h
      rw [normalize_triplet false hhigh hlow] at h
      obtain ⟨result, hresult, heq⟩ := Option.map_eq_some_iff.mp h
      cases heq
      have hrestTokens := ih ⟨_, hresult⟩
      simp [hrestTokens]
  | char c rest hc hrest ih =>
      obtain ⟨normalized, h⟩ := h
      rw [normalize_char false hc] at h
      obtain ⟨piece, hpiece, h⟩ := Option.bind_eq_some_iff.mp h
      obtain ⟨result, hresult, heq⟩ := Option.map_eq_some_iff.mp h
      cases heq
      have hpieceTokens : none ∉ piece.2 := by
        unfold normalizeChar at hpiece
        rw [if_neg (by simp)] at hpiece
        split at hpiece
        · cases hpiece
          simp
        · obtain ⟨octets, -, rfl⟩ := Option.map_eq_some_iff.mp hpiece
          simp
      intro hmem
      rcases List.mem_append.mp hmem with hmem | hmem
      · exact hpieceTokens hmem
      · exact ih ⟨_, hresult⟩ hmem

/-! ## Percent-encoded octets -/

/-- The digit of a value has that value. -/
theorem hex_digit_spec {nibble : Nat} (h : nibble < 16) :
    isHexDigit (hexDigit nibble) = true ∧ hexValue (hexDigit nibble) = nibble := by
  have hall : ∀ n < 16, isHexDigit (hexDigit n) = true ∧ hexValue (hexDigit n) = n := by decide
  exact hall nibble h

/-- The triplet of an octet denotes it. -/
theorem denotes_percent_octet {octet : Nat} (h : octet < 256) :
    Denotes (percentOctet octet) [some (octetToken octet)] := by
  obtain ⟨hhigh, hhighValue⟩ := hex_digit_spec (show octet / 16 < 16 by omega)
  obtain ⟨hlow, hlowValue⟩ := hex_digit_spec (show octet % 16 < 16 by omega)
  have htriplet := denotes_triplet hhigh hlow denotes_nil
  rw [hhighValue, hlowValue, Nat.div_add_mod] at htriplet
  exact htriplet

/-- It is complete. -/
theorem well_formed_percent_octet {octet : Nat} (h : octet < 256) :
    wellFormedTriplets (percentOctet octet) = true :=
  well_formed_triplet (hex_digit_spec (show octet / 16 < 16 by omega)).1
    (hex_digit_spec (show octet % 16 < 16 by omega)).1 rfl

/-- The triplets of octets denote them. -/
theorem denotes_percent_octets {octets : List Nat} (h : ∀ octet ∈ octets, octet < 256) :
    Denotes (octets.flatMap percentOctet) (octets.map fun octet => some (octetToken octet)) := by
  induction octets with
  | nil => exact denotes_nil
  | cons octet octets ih =>
      have hoctet : octet < 256 := h octet List.mem_cons_self
      exact denotes_append (well_formed_percent_octet hoctet) (denotes_percent_octet hoctet)
        (ih fun other hother => h other (List.mem_cons_of_mem octet hother))

/-- They are complete. -/
theorem well_formed_percent_octets {octets : List Nat} (h : ∀ octet ∈ octets, octet < 256) :
    wellFormedTriplets (octets.flatMap percentOctet) = true := by
  induction octets with
  | nil => rfl
  | cons octet octets ih =>
      rw [List.flatMap_cons, well_formed_append (well_formed_percent_octet
        (h octet List.mem_cons_self))]
      exact ih fun other hother => h other (List.mem_cons_of_mem octet hother)

/-- A number is a character, unless it is a surrogate or too large. -/
theorem char_of_nat_val (c : Nat) :
    (Char.ofNat c).val.toNat = c ∨ (Char.ofNat c).val.toNat = 0 ∧ 0x80 ≤ c := by
  unfold Char.ofNat
  by_cases h : c.isValidChar
  · rw [dif_pos h]
    exact .inl rfl
  · rw [dif_neg h]
    refine .inr ⟨rfl, ?_⟩
    by_contra hlt
    exact h (Or.inl (by omega))

/-- The octets of a character. Those of a non-ASCII character are not unreserved. -/
theorem encode_utf8_octets {c : Nat} {octets : List Nat} (h : Text.encodeUtf8 c = some octets) :
    (∀ octet ∈ octets, octet < 256) ∧ (c < 0x80 → octets = [c]) ∧
      (0x80 ≤ c → ∀ octet ∈ octets, isUnreserved octet = false) := by
  unfold Text.encodeUtf8 at h
  split at h
  · cases h
  · cases h
    have hval := char_of_nat_val c
    unfold String.utf8EncodeChar
    generalize (Char.ofNat c).val.toNat = v at hval
    refine ⟨fun octet hoctet => ?_, fun hascii => ?_, fun hascii octet hoctet => ?_⟩
    · obtain ⟨byte, -, rfl⟩ := List.mem_map.mp hoctet
      exact byte.toNat_lt
    · obtain rfl : v = c := by omega
      simp only [show v ≤ 0x7F by omega, if_true, List.map_cons, List.map_nil]
      simp
      omega
    · have hrange : octet = 0 ∨ 0x80 ≤ octet := by
        dsimp only at hoctet
        split at hoctet
        · simp at hoctet
          omega
        · split at hoctet
          · simp at hoctet
            omega
          · split at hoctet <;> simp at hoctet <;> omega
      simp [isUnreserved]
      omega

/-- A scalar value has an encoding. -/
theorem encode_utf8_ne_nil {c : Nat} (hscalar : ¬(0xD800 ≤ c ∧ c ≤ 0xDFFF)) :
    ∃ octet octets, Text.encodeUtf8 c = some (octet :: octets) := by
  unfold Text.encodeUtf8
  rw [if_neg hscalar]
  cases hbytes : String.utf8EncodeChar (Char.ofNat c) with
  | nil => exact absurd hbytes String.utf8EncodeChar_ne_nil
  | cons byte bytes => exact ⟨_, _, rfl⟩

end GrowthOs.Robots
