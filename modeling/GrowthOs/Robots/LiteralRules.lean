import GrowthOs.Robots.Matching

/-!
# Rules for one path

A rule that spells the operators of a target as triplets and ends in `$` is meant for that target
alone. `LiteralRuleExact` says that it matches the target and nothing else.
-/

namespace GrowthOs.Robots

open Library

/-- The text with each raw `*` written as `%2A` and each raw `$` as `%24`. -/
def escapeOperators (t : Text) : Text :=
  t.flatMap fun c => if c = 0x2A ∨ c = 0x24 then percentOctet c else [c]

/-- The text has no raw operator. -/
def OperatorFree (t : Text) : Prop := 0x2A ∉ t ∧ 0x24 ∉ t

/-- The path pattern of the rule that is meant for `t` alone. -/
def literalRule (t : Text) : Text := escapeOperators t ++ [0x24]

/-- The normal form of a target, in which a raw operator and its triplet name the same octet. -/
def literalForm (t : Text) : Option Text :=
  (normalize false t).map fun normal => escapeOperators normal.1

/-- The rule matches a target. -/
def MatchesTarget (rule : Rule) (t : Text) : Prop :=
  ∃ normal, normalize false t = some normal ∧ ruleMatches rule normal.2 = true

/-- The rule that is meant for `t` alone matches `t`, and no target of another normal form. -/
def LiteralRuleExact (t : Text) (allowed : Bool) : Prop :=
  ∃ rule, parseRule (literalRule t) allowed = some rule ∧ MatchesTarget rule t ∧
    ∀ u, ValidTarget u → MatchesTarget rule u → literalForm u = literalForm t

/-- Operators are escaped part by part. -/
theorem escape_operators_append (s t : Text) :
    escapeOperators (s ++ t) = escapeOperators s ++ escapeOperators t := List.flatMap_append

/-- A character that is no operator stays. -/
theorem escape_operators_cons {c : Nat} (hc : ¬ (c = 0x2A ∨ c = 0x24)) (t : Text) :
    escapeOperators (c :: t) = c :: escapeOperators t := by
  show (if c = 0x2A ∨ c = 0x24 then percentOctet c else [c]) ++ escapeOperators t = _
  rw [if_neg hc]
  rfl

/-- A text is free of operators where its first character is none and the rest is. -/
theorem operator_free_cons {c : Nat} {t : Text} :
    OperatorFree (c :: t) ↔ ¬ (c = 0x2A ∨ c = 0x24) ∧ OperatorFree t := by
  unfold OperatorFree
  simp only [List.mem_cons, not_or, eq_comm (a := c)]
  exact and_and_and_comm

/-- Such a text stays as it is. -/
theorem escape_operators_plain {t : Text} (h : OperatorFree t) : escapeOperators t = t := by
  induction t with
  | nil => rfl
  | cons c t ih =>
      obtain ⟨hc, ht⟩ := operator_free_cons.mp h
      rw [escape_operators_cons hc, ih ht]

/-- What is escaped has no operator, and no other new characters than those of triplets. -/
theorem mem_escape_operators {t : Text} {c : Nat} (h : c ∈ escapeOperators t) :
    c ≠ 0x2A ∧ c ≠ 0x24 ∧ (c ∈ t ∨ c = 0x25 ∨ isHexDigit c = true) := by
  obtain ⟨d, hd, hc⟩ := List.mem_flatMap.mp h
  split at hc
  · rename_i hoperator
    have hall : ∀ e ∈ percentOctet 0x2A ++ percentOctet 0x24,
        e ≠ 0x2A ∧ e ≠ 0x24 ∧ (e = 0x25 ∨ isHexDigit e = true) := by decide
    obtain ⟨hstar, hdollar, hchar⟩ := hall c (by
      rcases hoperator with rfl | rfl
      · exact List.mem_append_left _ hc
      · exact List.mem_append_right _ hc)
    exact ⟨hstar, hdollar, .inr hchar⟩
  · rename_i hoperator
    obtain rfl := List.mem_singleton.mp hc
    exact ⟨fun h => hoperator (.inl h), fun h => hoperator (.inr h), .inl hd⟩

/-- Escaping twice is escaping once. -/
theorem escape_operators_idem (t : Text) :
    escapeOperators (escapeOperators t) = escapeOperators t :=
  escape_operators_plain ⟨fun h => (mem_escape_operators h).1 rfl,
    fun h => (mem_escape_operators h).2.1 rfl⟩

/-- A digit is no operator. -/
theorem hex_digit_not_operator {c : Nat} (h : isHexDigit c = true) : ¬ (c = 0x2A ∨ c = 0x24) := by
  simp [isHexDigit] at h
  omega

/-- A triplet has no operator. -/
theorem escape_percent_octet (octet : Nat) :
    escapeOperators (percentOctet octet) = percentOctet octet := by
  have hdigit : ∀ nibble, 0x30 ≤ hexDigit nibble := fun nibble => by
    unfold hexDigit
    split <;> omega
  have hhigh := hdigit (octet / 16)
  have hlow := hdigit (octet % 16)
  have hother : ∀ c ∈ percentOctet octet, c = 0x25 ∨ 0x30 ≤ c := by
    intro c hc
    simp only [percentOctet, List.mem_cons, List.not_mem_nil, or_false] at hc
    omega
  refine escape_operators_plain ⟨fun h => ?_, fun h => ?_⟩
  · have hchar := hother _ h
    omega
  · have hchar := hother _ h
    omega

/-- The token of an escaped octet. -/
def escapeToken (token : Token) : Token :=
  token.map fun octet => if octet = 0x2A ∨ octet = 0x24 then 256 + octet else octet

/-- The normal form of an octet by its token. -/
def tokenText : Token → Text
  | none => []
  | some octet => if octet < 256 then [octet] else percentOctet (octet - 256)

/-- The normal form of an escaped text. -/
def escapeNormal (normal : Text × List Token) : Text × List Token :=
  (escapeOperators normal.1, normal.2.map escapeToken)

/-- A normal form is escaped piece by piece. -/
theorem escape_normal_prepend (piece rest : Text × List Token) :
    escapeNormal (prependNormal piece rest) =
      prependNormal (escapeNormal piece) (escapeNormal rest) :=
  Prod.ext (escape_operators_append piece.1 rest.1) List.map_append

/-- The normal form is the text of the tokens. -/
def IsTokenText (normal : Text × List Token) : Prop := normal.2.flatMap tokenText = normal.1

/-- Its text is that of its tokens, piece by piece. -/
theorem is_token_text_prepend {piece rest : Text × List Token} (hpiece : IsTokenText piece)
    (hrest : IsTokenText rest) : IsTokenText (prependNormal piece rest) := by
  show (piece.2 ++ rest.2).flatMap tokenText = piece.1 ++ rest.1
  rw [List.flatMap_append, hpiece, hrest]

/-- An encoded octet is no operator. -/
theorem escape_token_encoded (octet : Nat) :
    escapeToken (some (256 + octet)) = some (256 + octet) := by
  show some (if 256 + octet = 0x2A ∨ 256 + octet = 0x24 then _ else 256 + octet) = _
  rw [if_neg (by omega)]

/-- Its text is a triplet. -/
theorem token_text_encoded (octet : Nat) : tokenText (some (256 + octet)) = percentOctet octet := by
  show (if 256 + octet < 256 then _ else percentOctet (256 + octet - 256)) = _
  rw [if_neg (by omega), Nat.add_sub_cancel_left]

/-- An unreserved octet is no operator either. -/
theorem unreserved_not_operator {octet : Nat} (h : isUnreserved octet = true) :
    ¬ (octet = 0x2A ∨ octet = 0x24) ∧ octet < 256 := by
  simp [isUnreserved] at h
  omega

/-- The text of an escaped token is escaped. -/
theorem token_text_escape (token : Token) :
    tokenText (escapeToken token) = escapeOperators (tokenText token) := by
  cases token with
  | none => rfl
  | some octet =>
      by_cases hlt : octet < 256
      · have htext : tokenText (some octet) = [octet] := if_pos hlt
        by_cases hoperator : octet = 0x2A ∨ octet = 0x24
        · have htoken : escapeToken (some octet) = some (256 + octet) :=
            congrArg some (if_pos hoperator)
          rw [htext, htoken, token_text_encoded]
          simp [escapeOperators, hoperator]
        · have htoken : escapeToken (some octet) = some octet := congrArg some (if_neg hoperator)
          rw [htext, htoken, htext, escape_operators_cons hoperator]
          rfl
      · obtain ⟨encoded, rfl⟩ := Nat.exists_eq_add_of_le (Nat.not_lt.mp hlt)
        rw [escape_token_encoded, token_text_encoded, escape_percent_octet]

/-- So is that of a normal form. -/
theorem is_token_text_escape {normal : Text × List Token} (h : IsTokenText normal) :
    IsTokenText (escapeNormal normal) := by
  show (normal.2.map escapeToken).flatMap tokenText = escapeOperators normal.1
  unfold IsTokenText at h
  rw [← h, List.flatMap_map]
  unfold escapeOperators
  rw [List.flatMap_assoc]
  exact congrArg (normal.2.flatMap ·) (funext token_text_escape)

/-- The octet of a triplet is no operator. -/
theorem escape_normal_octet (octet : Nat) :
    escapeNormal (octetText octet, [some (octetToken octet)]) =
        (octetText octet, [some (octetToken octet)]) ∧
      IsTokenText (octetText octet, [some (octetToken octet)]) := by
  unfold octetText octetToken IsTokenText escapeNormal
  split
  · rename_i hoctet
    obtain ⟨hoperator, hlt⟩ := unreserved_not_operator hoctet
    simp [escapeOperators, escapeToken, tokenText, hoperator, hlt]
  · simp [escape_percent_octet, escape_token_encoded, token_text_encoded]

/-- Nor is a character, unless it is one of the two. -/
theorem escape_normal_char {c : Nat} (hc : ¬ (c = 0x2A ∨ c = 0x24)) {piece : Text × List Token}
    (hpiece : normalizeChar false c = some piece) :
    normalizeChar true c = some piece ∧ escapeNormal piece = piece := by
  have hsame : normalizeChar true c = normalizeChar false c := by
    have hstar : c ≠ 0x2A := fun h => hc (.inl h)
    simp [normalizeChar, hstar]
  refine ⟨hsame.trans hpiece, ?_⟩
  unfold normalizeChar at hpiece
  rw [if_neg (by simp)] at hpiece
  split at hpiece
  · cases hpiece
    simp [escapeNormal, escapeOperators, escapeToken, hc]
  · obtain ⟨octets, -, rfl⟩ := Option.map_eq_some_iff.mp hpiece
    refine Prod.ext ?_ ?_
    · show (octets.flatMap percentOctet).flatMap _ = octets.flatMap percentOctet
      rw [List.flatMap_assoc]
      exact congrArg (octets.flatMap ·) (funext escape_percent_octet)
    · show (octets.map fun octet => some (256 + octet)).map escapeToken = _
      rw [List.map_map]
      exact List.map_congr_left fun octet _ => escape_token_encoded octet

/-- A character is normalized to the text of its tokens. -/
theorem is_token_text_char {c : Nat} {piece : Text × List Token}
    (hpiece : normalizeChar false c = some piece) : IsTokenText piece := by
  unfold normalizeChar at hpiece
  rw [if_neg (by simp)] at hpiece
  split at hpiece
  · rename_i hascii
    cases hpiece
    have hlt : c < 256 := by omega
    simp [IsTokenText, tokenText, hlt]
  · obtain ⟨octets, -, rfl⟩ := Option.map_eq_some_iff.mp hpiece
    show (octets.map fun octet => some (256 + octet)).flatMap tokenText = _
    rw [List.flatMap_map]
    exact congrArg (octets.flatMap ·) (funext token_text_encoded)

/-- An operator is a literal of a target, and its triplet one of a rule. -/
theorem escape_normal_operator {c : Nat} (hc : c = 0x2A ∨ c = 0x24) (rest : Text) :
    normalizeChar false c = some ([c], [some c]) ∧
      normalize true (percentOctet c ++ rest) =
        (normalize true rest).map (prependNormal (escapeNormal ([c], [some c]))) := by
  rcases hc with rfl | rfl
  · exact ⟨rfl, normalize_triplet true rfl rfl rest⟩
  · exact ⟨rfl, normalize_triplet true rfl rfl rest⟩

/-- A rule takes an escaped text for the literals that the text is. -/
theorem normalize_escaped {t : Text} (hwell : wellFormedTriplets t = true)
    {normal : Text × List Token} (h : normalize false t = some normal) (rest : Text) :
    normalize true (escapeOperators t ++ rest) =
      (normalize true rest).map (prependNormal (escapeNormal normal)) := by
  induction t, hwell using well_formed_induction generalizing normal with
  | nil =>
      cases h
      show normalize true rest = _
      cases normalize true rest with
      | none => rfl
      | some result => rfl
  | triplet high low tail hhigh hlow htail ih =>
      rw [normalize_triplet false hhigh hlow] at h
      obtain ⟨result, hresult, rfl⟩ := Option.map_eq_some_iff.mp h
      rw [escape_operators_cons (by decide), escape_operators_cons (hex_digit_not_operator hhigh),
        escape_operators_cons (hex_digit_not_operator hlow), List.cons_append, List.cons_append,
        List.cons_append, normalize_triplet true hhigh hlow, ih hresult, map_prepend_normal,
        escape_normal_prepend, (escape_normal_octet _).1]
  | char c tail hc htail ih =>
      rw [normalize_char false hc] at h
      obtain ⟨piece, hpiece, h⟩ := Option.bind_eq_some_iff.mp h
      obtain ⟨result, hresult, rfl⟩ := Option.map_eq_some_iff.mp h
      by_cases hoperator : c = 0x2A ∨ c = 0x24
      · have hescaped := escape_normal_operator hoperator (escapeOperators tail ++ rest)
        cases hescaped.1.symm.trans hpiece
        have hspelled : escapeOperators (c :: tail) = percentOctet c ++ escapeOperators tail := by
          show (if c = 0x2A ∨ c = 0x24 then percentOctet c else [c]) ++ escapeOperators tail = _
          rw [if_pos hoperator]
        rw [hspelled, List.append_assoc, hescaped.2, ih hresult, map_prepend_normal,
          escape_normal_prepend]
      · obtain ⟨hplain, hsame⟩ := escape_normal_char hoperator hpiece
        rw [escape_operators_cons hoperator, List.cons_append, normalize_char true hc, hplain]
        show (normalize true (escapeOperators tail ++ rest)).map (prependNormal piece) = _
        rw [ih hresult, map_prepend_normal, escape_normal_prepend, hsame]

/-- The normal form of a target is the text of its tokens, and no token is an operator unless the
target has it raw. -/
theorem target_tokens {t : Text} (hwell : wellFormedTriplets t = true)
    {normal : Text × List Token} (h : normalize false t = some normal) :
    IsTokenText normal ∧ (normal.2.map escapeToken = normal.2 ↔ OperatorFree t) := by
  induction t, hwell using well_formed_induction generalizing normal with
  | nil =>
      cases h
      exact ⟨rfl, ⟨fun _ => ⟨List.not_mem_nil, List.not_mem_nil⟩, fun _ => rfl⟩⟩
  | triplet high low tail hhigh hlow htail ih =>
      rw [normalize_triplet false hhigh hlow] at h
      obtain ⟨result, hresult, rfl⟩ := Option.map_eq_some_iff.mp h
      obtain ⟨hescaped, htext⟩ := escape_normal_octet (16 * hexValue high + hexValue low)
      obtain ⟨hrest, hsame⟩ := ih hresult
      have htoken : escapeToken (some (octetToken (16 * hexValue high + hexValue low))) =
          some (octetToken (16 * hexValue high + hexValue low)) :=
        List.head_eq_of_cons_eq (Prod.mk.inj hescaped).2
      refine ⟨is_token_text_prepend htext hrest, ?_⟩
      have hhighChar := hex_digit_not_operator hhigh
      have hlowChar := hex_digit_not_operator hlow
      show escapeToken _ :: result.2.map escapeToken = _ :: result.2 ↔ _
      rw [htoken, List.cons_inj_right, hsame, operator_free_cons, operator_free_cons,
        operator_free_cons]
      exact ⟨fun hfree => ⟨by decide, hhighChar, hlowChar, hfree⟩, fun h => h.2.2.2⟩
  | char c tail hc htail ih =>
      rw [normalize_char false hc] at h
      obtain ⟨piece, hpiece, h⟩ := Option.bind_eq_some_iff.mp h
      obtain ⟨result, hresult, rfl⟩ := Option.map_eq_some_iff.mp h
      obtain ⟨hrest, hsame⟩ := ih hresult
      refine ⟨is_token_text_prepend (is_token_text_char hpiece) hrest, ?_⟩
      show (piece.2 ++ result.2).map escapeToken = piece.2 ++ result.2 ↔ _
      rw [List.map_append]
      by_cases hoperator : c = 0x2A ∨ c = 0x24
      · cases (escape_normal_operator hoperator []).1.symm.trans hpiece
        rw [operator_free_cons]
        refine iff_of_false (fun heq => ?_) fun hfree => hfree.1 hoperator
        have htoken := List.head_eq_of_cons_eq heq
        rcases hoperator with rfl | rfl
        · exact absurd htoken (by decide)
        · exact absurd htoken (by decide)
      · have hpieceSame := (Prod.mk.inj (escape_normal_char hoperator hpiece).2).2
        rw [hpieceSame, List.append_right_inj, hsame, operator_free_cons]
        exact ⟨fun hfree => ⟨hoperator, hfree⟩, fun h => h.2⟩

/-! ## The rule for one path -/

/-- The rule that is meant for a target alone is anchored, and its tokens are those of the target
with the operators escaped. -/
theorem parse_literal_rule {t : Text} (hvalid : ValidTarget t) (hspace : 0x20 ∉ t)
    {normal : Text × List Token} (h : normalize false t = some normal) (allowed : Bool) :
    ∃ rule, parseRule (literalRule t) allowed = some rule ∧ rule.anchored = true ∧
      rule.tokens = normal.2.map escapeToken := by
  have hslash : (literalRule t).head? = some 0x2F := by
    cases t with
    | nil => cases hvalid.slash
    | cons c rest =>
        cases hvalid.slash
        rfl
  have hvisible : ¬ ((literalRule t).any fun c => c ≤ 0x20 || c == 0x7F) = true := by
    intro hany
    obtain ⟨c, hc, hbad⟩ := List.any_eq_true.mp hany
    have hchar : 0x20 < c ∧ c ≠ 0x7F := by
      rcases List.mem_append.mp hc with hescaped | hend
      · rcases (mem_escape_operators hescaped).2.2 with hraw | rfl | hhex
        · have hraw' := hvalid.visible c hraw
          have hne : c ≠ 0x20 := fun heq => hspace (heq ▸ hraw)
          omega
        · decide
        · simp [isHexDigit] at hhex
          omega
      · rw [List.mem_singleton.mp hend]
        decide
    simp at hbad
    omega
  have hnormal : normalize true (literalRule t) =
      some (prependNormal (escapeNormal normal) ([0x24], [some 0x24])) :=
    normalize_escaped hvalid.triplets h [0x24]
  have hanchored : (escapeOperators normal.1 ++ [0x24]).getLast? = some 0x24 :=
    List.getLast?_concat
  unfold parseRule
  rw [if_neg (not_not.mpr hslash), if_neg hvisible, hnormal]
  refine ⟨_, rfl, ?_, ?_⟩
  · show ((escapeOperators normal.1 ++ [0x24]).getLast? == some 0x24) = true
    rw [hanchored]
    rfl
  · show (if (escapeOperators normal.1 ++ [0x24]).getLast? == some 0x24 then
      (normal.2.map escapeToken ++ [some 0x24]).dropLast else _) = normal.2.map escapeToken
    rw [if_pos (by rw [hanchored]; rfl), List.dropLast_concat]

/-- An anchored rule without wildcards matches its own tokens only. -/
theorem matches_escaped_iff {rule : Rule} {tokens target : List Token}
    (hanchored : rule.anchored = true) (hrule : rule.tokens = tokens.map escapeToken)
    (htokens : none ∉ tokens) (htarget : none ∉ target) :
    ruleMatches rule target = true ↔ tokens.map escapeToken = target := by
  obtain ⟨octets, rfl⟩ := octets_of_no_star htarget
  have hliteral : none ∉ tokens.map escapeToken := fun hmem => by
    obtain ⟨token, htoken, hnone⟩ := List.mem_map.mp hmem
    exact htokens (Option.map_eq_none_iff.mp hnone ▸ htoken)
  obtain ⟨literals, hliterals⟩ := octets_of_no_star hliteral
  rw [matches_literal (hrule.trans hliterals), hanchored, if_pos rfl, hliterals]
  exact ⟨fun heq => heq ▸ rfl, fun heq => List.map_injective_iff.mpr
    (fun _ _ h => Option.some.inj h) heq⟩

/-- What the rule that is meant for a target alone matches. -/
theorem literal_rule_matches {t : Text} (hvalid : ValidTarget t) (hspace : 0x20 ∉ t)
    (allowed : Bool) :
    ∃ normal rule, normalize false t = some normal ∧
      parseRule (literalRule t) allowed = some rule ∧ ∀ u, MatchesTarget rule u ↔
        ∃ other, normalize false u = some other ∧ other.2 = normal.2.map escapeToken := by
  obtain ⟨normal, hnormal⟩ := normalize_is_some false hvalid.scalar hvalid.triplets
  obtain ⟨rule, hrule, hanchored, htokens⟩ := parse_literal_rule hvalid hspace hnormal allowed
  have hliteral : ∀ {s : Text} {result : Text × List Token}, normalize false s = some result →
      none ∉ result.2 := fun {s result} h => tokens_no_star (normalize_well_formed h) ⟨result.1, h⟩
  refine ⟨normal, rule, hnormal, hrule, fun u => ?_⟩
  refine exists_congr fun other => and_congr_right fun hother => ?_
  rw [matches_escaped_iff hanchored htokens (hliteral hnormal) (hliteral hother)]
  exact eq_comm

/-- Targets whose tokens are the escaped ones of `t` have its normal form. -/
theorem literal_form_of_tokens {t u : Text} {normal other : Text × List Token}
    (ht : normalize false t = some normal) (hu : normalize false u = some other)
    (hsame : other.2 = normal.2.map escapeToken) : literalForm u = literalForm t := by
  have htext : other.2.flatMap tokenText = other.1 :=
    (target_tokens (normalize_well_formed hu) hu).1
  have hescaped : (normal.2.map escapeToken).flatMap tokenText = escapeOperators normal.1 :=
    is_token_text_escape (target_tokens (normalize_well_formed ht) ht).1
  have hsameText : other.1 = escapeOperators normal.1 := by rw [← htext, hsame, hescaped]
  unfold literalForm
  rw [ht, hu]
  show some (escapeOperators other.1) = some (escapeOperators normal.1)
  rw [hsameText, escape_operators_idem]

/-- The literal rule of a target matches it exactly when it has no operator. -/
theorem literal_rule_matches_self {t : Text} (hvalid : ValidTarget t) (hspace : 0x20 ∉ t)
    {allowed : Bool} {rule : Rule} (hrule : parseRule (literalRule t) allowed = some rule) :
    MatchesTarget rule t ↔ OperatorFree t := by
  obtain ⟨normal, parsed, hnormal, hparsed, hmatches⟩ :=
    literal_rule_matches hvalid hspace allowed
  obtain rfl := Option.some.inj (hparsed.symm.trans hrule)
  rw [hmatches, ← (target_tokens hvalid.triplets hnormal).2]
  constructor
  · rintro ⟨other, hother, hsame⟩
    obtain rfl := Option.some.inj (hnormal.symm.trans hother)
    exact hsame.symm
  · exact fun hsame => ⟨normal, hnormal, hsame.symm⟩

/-- A rule that spells the operators of a target as triplets and ends in `$` matches that target
alone exactly when there is no raw operator: a triplet of a rule never matches the raw character. -/
theorem literal_rule_exact_iff {t : Text} (hvalid : validateTarget t = .ok ()) (hspace : 0x20 ∉ t)
    (allowed : Bool) : LiteralRuleExact t allowed ↔ OperatorFree t := by
  have hvalid := (validate_target_ok_iff t).mp hvalid
  constructor
  · rintro ⟨rule, hrule, hmatch, -⟩
    exact (literal_rule_matches_self hvalid hspace hrule).mp hmatch
  · intro hfree
    obtain ⟨normal, rule, hnormal, hrule, hmatches⟩ := literal_rule_matches hvalid hspace allowed
    refine ⟨rule, hrule, (literal_rule_matches_self hvalid hspace hrule).mpr hfree,
      fun u _ hu => ?_⟩
    obtain ⟨other, hother, hsame⟩ := (hmatches u).mp hu
    exact literal_form_of_tokens hnormal hother hsame

/-- A path with an encoded operator has a rule of its own. -/
theorem literal_rule_exact_encoded : LiteralRuleExact (Text.ofString "/a%2ab?c=%24") false := by
  refine (literal_rule_exact_iff ((validate_target_ok_iff _).mpr ?_) ?_ false).mpr ⟨?_, ?_⟩
  · constructor <;> decide +kernel
  · decide +kernel
  · decide +kernel
  · decide +kernel

/-- A path with a raw operator has none. -/
theorem literal_rule_misses_star : ValidTarget (Text.ofString "/a*b") ∧
    0x20 ∉ Text.ofString "/a*b" ∧ ¬ LiteralRuleExact (Text.ofString "/a*b") false := by
  have hvalid : ValidTarget (Text.ofString "/a*b") := by constructor <;> decide +kernel
  have hspace : 0x20 ∉ Text.ofString "/a*b" := by decide +kernel
  refine ⟨hvalid, hspace, ?_⟩
  rintro ⟨rule, hrule, hmatch, -⟩
  exact ((literal_rule_matches_self hvalid hspace hrule).mp hmatch).1 (by decide +kernel)

end GrowthOs.Robots
