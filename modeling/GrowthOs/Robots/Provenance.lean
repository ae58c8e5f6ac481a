import GrowthOs.Robots.Decision
import GrowthOs.Robots.Matching
import GrowthOs.Robots.Outcomes
import GrowthOs.Robots.Respelling
import GrowthOs.Robots.Spelling

/-!
# The matched rule as a rule

A decision reports its rule in normal form. The normal form is its own normal form, and a robots
file that states it alone parses to the rule of the decision.
-/

namespace GrowthOs.Robots

open Library

/-- The text of the piece is visible ASCII without a comment and has the piece as its normal form,
whatever stands behind it. -/
structure IsNormal (piece : Text × List Token) : Prop where
  fixed : ∀ rest, normalize true (piece.1 ++ rest) =
    (normalize true rest).map (prependNormal piece)
  visible : ∀ c ∈ piece.1, 0x20 < c ∧ c < 0x7F ∧ c ≠ 0x23

/-- The empty text is normal. -/
theorem is_normal_nil : IsNormal ([], []) := by
  refine ⟨fun rest => ?_, nofun⟩
  show normalize true rest = _
  cases normalize true rest with
  | none => rfl
  | some result => rfl

/-- Two normal pieces are. -/
theorem is_normal_prepend {piece piece' : Text × List Token} (h : IsNormal piece)
    (h' : IsNormal piece') : IsNormal (prependNormal piece piece') := by
  refine ⟨fun rest => ?_, fun c hc => ?_⟩
  · show normalize true (piece.1 ++ piece'.1 ++ rest) = _
    rw [List.append_assoc, h.fixed, h'.fixed, map_prepend_normal]
  · rcases List.mem_append.mp hc with hc | hc
    · exact h.visible c hc
    · exact h'.visible c hc

/-- A visible ASCII character other than `#` and `%` is written as it is. -/
theorem is_normal_ascii {c : Nat} (hvisible : 0x20 < c ∧ c < 0x7F ∧ c ≠ 0x23) (hc : c ≠ 0x25) :
    IsNormal ([c], [if c = 0x2A then none else some c]) := by
  refine ⟨fun rest => ?_, fun d hd => List.mem_singleton.mp hd ▸ hvisible⟩
  show normalize true (c :: rest) = _
  rw [normalize_char true hc]
  unfold normalizeChar
  by_cases hstar : c = 0x2A
  · rw [if_pos ⟨rfl, hstar⟩, if_pos hstar]
    rfl
  · rw [if_neg fun h => hstar h.2, if_pos (by omega), if_neg hstar]
    rfl

/-- An octet is written as an unreserved character or as a triplet that is not decoded again. -/
theorem is_normal_octet {octet : Nat} (h : octet < 256) :
    IsNormal (octetText octet, [some (octetToken octet)]) := by
  unfold octetText octetToken
  by_cases hunreserved : isUnreserved octet = true
  · rw [if_pos hunreserved, if_pos hunreserved]
    have hrange : (0x20 < octet ∧ octet < 0x7F ∧ octet ≠ 0x23) ∧ octet ≠ 0x25 ∧ octet ≠ 0x2A := by
      simp [isUnreserved] at hunreserved
      omega
    have hascii := is_normal_ascii hrange.1 hrange.2.1
    rwa [if_neg hrange.2.2] at hascii
  · rw [if_neg hunreserved, if_neg hunreserved]
    refine ⟨fun rest => ?_, percent_octet_visible h⟩
    obtain ⟨hhigh, hhighValue⟩ := hex_digit_spec (show octet / 16 < 16 by omega)
    obtain ⟨hlow, hlowValue⟩ := hex_digit_spec (show octet % 16 < 16 by omega)
    show normalize true (0x25 :: hexDigit (octet / 16) :: hexDigit (octet % 16) :: rest) = _
    rw [normalize_triplet true hhigh hlow, hhighValue, hlowValue, Nat.div_add_mod]
    unfold octetText octetToken
    rw [if_neg hunreserved, if_neg hunreserved]

/-- So are octets. -/
theorem is_normal_octets {octets : List Nat} (h : ∀ octet ∈ octets, octet < 256) :
    IsNormal (octetsNormal octets) := by
  induction octets with
  | nil => exact is_normal_nil
  | cons octet octets ih =>
      exact is_normal_prepend (is_normal_octet (h octet List.mem_cons_self))
        (ih fun other hother => h other (List.mem_cons_of_mem octet hother))

/-- The normal form of a pattern without blanks and comments is a normal form. -/
theorem normalize_is_normal {s : Text} {normal : Text × List Token}
    (hs : ∀ c ∈ s, 0x20 < c ∧ c ≠ 0x7F ∧ c ≠ 0x23) (h : normalize true s = some normal) :
    IsNormal normal := by
  have hwell := normalize_well_formed h
  induction s, hwell using well_formed_induction generalizing normal with
  | nil =>
      cases h
      exact is_normal_nil
  | triplet high low rest hhigh hlow hrest ih =>
      rw [normalize_triplet true hhigh hlow] at h
      obtain ⟨result, hresult, rfl⟩ := Option.map_eq_some_iff.mp h
      have hhigh' := hex_value_lt hhigh
      have hlow' := hex_value_lt hlow
      exact is_normal_prepend (is_normal_octet (by omega))
        (ih (fun c hc => hs c (by simp [hc])) hresult)
  | char c rest hc hrest ih =>
      rw [normalize_char true hc] at h
      obtain ⟨piece, hpiece, h⟩ := Option.bind_eq_some_iff.mp h
      obtain ⟨result, hresult, rfl⟩ := Option.map_eq_some_iff.mp h
      refine is_normal_prepend ?_ (ih (fun d hd => hs d (List.mem_cons_of_mem c hd)) hresult)
      have hvisible := hs c List.mem_cons_self
      by_cases hascii : c < 0x80
      · have hnormal := is_normal_ascii ⟨hvisible.1, by omega, hvisible.2.2⟩ hc
        unfold normalizeChar at hpiece
        by_cases hstar : c = 0x2A
        · rw [if_pos ⟨rfl, hstar⟩] at hpiece
          rw [if_pos hstar] at hnormal
          cases hpiece
          exact hnormal
        · rw [if_neg fun h => hstar h.2, if_pos hascii] at hpiece
          rw [if_neg hstar] at hnormal
          cases hpiece
          exact hnormal
      · obtain ⟨octets, hoctets⟩ : ∃ octets, Text.encodeUtf8 c = some octets := by
          unfold normalizeChar at hpiece
          rw [if_neg fun h => by omega, if_neg hascii] at hpiece
          obtain ⟨octets, hoctets, -⟩ := Option.map_eq_some_iff.mp hpiece
          exact ⟨octets, hoctets⟩
        -- A character outside ASCII is written as the triplets of its octets.
        have hencoded := (normalize_char_encoded true (Or.inr (by omega)) hoctets).2
        rw [hencoded] at hpiece
        cases hpiece
        exact is_normal_octets (encode_utf8_octets hoctets).1

/-- A normal form is normalized to itself. -/
theorem IsNormal.fixed_point {normal : Text × List Token} (h : IsNormal normal) :
    normalize true normal.1 = some normal := by
  have hfixed := h.fixed []
  rw [List.append_nil] at hfixed
  rw [hfixed]
  show some (normal.1 ++ [], normal.2 ++ []) = _
  rw [List.append_nil, List.append_nil]

/-- What the parser reads out of a value. -/
theorem parse_rule_inv {value : Text} {allowed : Bool} {rule : Rule}
    (h : parseRule value allowed = some rule) :
    value.head? = some 0x2F ∧ (∀ c ∈ value, 0x20 < c ∧ c ≠ 0x7F) ∧ rule.allowed = allowed ∧
      ∃ tokens, normalize true value = some (rule.normalized, tokens) := by
  unfold parseRule at h
  split at h
  · cases h
  · rename_i hslash
    split at h
    · cases h
    · rename_i hvisible
      obtain ⟨normal, hnormal, hrule⟩ := Option.bind_eq_some_iff.mp h
      cases hrule
      refine ⟨not_not.mp hslash, fun c hc => ?_, rfl, normal.2, hnormal⟩
      by_contra hbad
      refine hvisible (List.any_eq_true.mpr ⟨c, hc, ?_⟩)
      simp
      omega

/-- The rule was read out of a value without a comment. -/
def Parsed (rule : Rule) : Prop :=
  ∃ value, parseRule value rule.allowed = some rule ∧ 0x23 ∉ value

/-- The normal form of a parsed rule is a valid pattern that parses to the same rule. -/
theorem parsed_normalized {rule : Rule} (h : Parsed rule) :
    ValidPattern rule.normalized ∧ parseRule rule.normalized rule.allowed = some rule ∧
      (∃ tokens, normalize true rule.normalized = some (rule.normalized, tokens)) ∧
      ∀ c ∈ rule.normalized, c < 0x7F := by
  obtain ⟨value, hrule, hcomment⟩ := h
  obtain ⟨hslash, hvisible, -, tokens, hnormal⟩ := parse_rule_inv hrule
  have hvalue : ∀ c ∈ value, 0x20 < c ∧ c ≠ 0x7F ∧ c ≠ 0x23 := fun c hc =>
    ⟨(hvisible c hc).1, (hvisible c hc).2, fun heq => hcomment (heq ▸ hc)⟩
  have hisNormal := normalize_is_normal hvalue hnormal
  have hfixed : normalize true rule.normalized = some (rule.normalized, tokens) :=
    hisNormal.fixed_point
  have hhead : rule.normalized.head? = some 0x2F := by
    cases value with
    | nil => cases hslash
    | cons c rest =>
        cases hslash
        rw [normalize_char true (by decide)] at hnormal
        obtain ⟨piece, hpiece, hrest⟩ := Option.bind_eq_some_iff.mp hnormal
        obtain ⟨result, -, heq⟩ := Option.map_eq_some_iff.mp hrest
        cases hpiece
        rw [← (Prod.mk.inj heq).1]
        rfl
  have hpattern : ValidPattern rule.normalized := by
    refine ⟨hhead, fun c hc => ?_, fun hmem => ?_, fun c hc => ?_, normalize_well_formed hfixed⟩
    · have hchar := hisNormal.visible c hc
      omega
    · exact (hisNormal.visible 0x23 hmem).2.2 rfl
    · have hchar := hisNormal.visible c hc
      omega
  refine ⟨hpattern, ?_, ⟨tokens, hfixed⟩, fun c hc => (hisNormal.visible c hc).2.1⟩
  -- Both values start with a slash, have no blank and have one normal form.
  rw [← hrule]
  have hplain : ∀ {s : Text}, (∀ c ∈ s, 0x20 < c ∧ c ≠ 0x7F) →
      ¬ (s.any fun c => c ≤ 0x20 || c == 0x7F) = true := by
    intro s hs hany
    obtain ⟨c, hc, hbad⟩ := List.any_eq_true.mp hany
    have hchar := hs c hc
    simp at hbad
    omega
  unfold parseRule
  rw [if_neg (not_not.mpr hhead), if_neg (not_not.mpr hslash), if_neg (hplain hpattern.visible),
    if_neg (hplain hvisible), hfixed, hnormal]

/-- The value of a line has no comment. -/
theorem line_field_uncommented {rawLine field value : Text}
    (h : lineField rawLine = some (field, value)) : 0x23 ∉ value := by
  have hline := Text.not_mem_split_first 0x23 rawLine
  have hjoin := Text.split_first_join 0x3A (Text.splitFirst 0x23 rawLine).1
  obtain ⟨⟨rawField, rawValue⟩, hparts⟩ :
      ∃ parts, Text.splitFirst 0x3A (Text.splitFirst 0x23 rawLine).1 = parts := ⟨_, rfl⟩
  rw [hparts] at hjoin
  simp only [lineField, hparts] at h
  cases rawValue with
  | none => cases h
  | some rawValue =>
      cases h
      intro hmem
      rw [hjoin] at hline
      refine hline (List.mem_append_right _ ?_)
      exact List.mem_cons_of_mem _ (Text.mem_of_mem_strip hmem)

/-- Every rule of the groups so far was read out of a value without a comment. -/
def AllParsed (groups : List Group) : Prop :=
  ∀ group ∈ groups, ∀ rule ∈ group.rules, Parsed rule

/-- A user agent adds no rule. -/
theorem all_parsed_add_agent {state : ParseState} (h : AllParsed state.groups) (value : Text) :
    AllParsed (state.addAgent value).groups := by
  obtain ⟨earlier, current⟩ := state
  have hnew : ∀ rule ∈ (⟨[value], []⟩ : Group).rules, Parsed rule := nofun
  cases current with
  | none =>
      intro group hgroup
      rcases List.mem_append.mp hgroup with hgroup | hgroup
      · exact h group (List.mem_append_left _ hgroup)
      · rw [List.mem_singleton.mp hgroup]
        exact hnew
  | some current =>
      intro group hgroup
      unfold ParseState.addAgent at hgroup
      dsimp only at hgroup
      split at hgroup
      · rcases List.mem_append.mp hgroup with hgroup | hgroup
        · exact h group (List.mem_append_left _ hgroup)
        · rw [List.mem_singleton.mp hgroup]
          exact h current (List.mem_append_right _ (List.mem_singleton_self current))
      · rcases List.mem_append.mp hgroup with hgroup | hgroup
        · exact h group hgroup
        · rw [List.mem_singleton.mp hgroup]
          exact hnew

/-- A rule that is added is parsed. -/
theorem all_parsed_add_rule {state : ParseState} (h : AllParsed state.groups) {value : Text}
    (hvalue : 0x23 ∉ value) (allowed : Bool) :
    AllParsed (state.addRule value allowed).groups := by
  obtain ⟨earlier, current⟩ := state
  unfold ParseState.addRule
  cases current with
  | none => exact h
  | some current =>
      cases hrule : parseRule value allowed with
      | none => exact h
      | some rule =>
          intro group hgroup
          rcases List.mem_append.mp hgroup with hgroup | hgroup
          · exact h group (List.mem_append_left _ hgroup)
          · rw [List.mem_singleton.mp hgroup]
            intro other hother
            rcases List.mem_append.mp hother with hother | hother
            · exact h current (List.mem_append_right _ (List.mem_singleton_self current)) other
                hother
            · rw [List.mem_singleton.mp hother]
              have hallowed := (parse_rule_inv hrule).2.2.1
              exact ⟨value, by rw [hallowed, hrule], hvalue⟩

/-- Every line keeps the rules parsed. -/
theorem all_parsed_line {state : ParseState} (h : AllParsed state.groups) (rawLine : Text) :
    AllParsed (parseLine state rawLine).groups := by
  unfold parseLine
  cases hfield : lineField rawLine with
  | none => exact h
  | some parts =>
      obtain ⟨field, value⟩ := parts
      have hvalue := line_field_uncommented hfield
      dsimp only
      split
      · split
        · exact all_parsed_add_agent h value
        · exact h
      · split
        · exact all_parsed_add_rule h hvalue true
        · split
          · exact all_parsed_add_rule h hvalue false
          · exact h

/-- Every rule of a parsed body was read out of a value without a comment. -/
theorem all_parsed_groups (robotsText : Text) : AllParsed (parseGroups robotsText) := by
  have hrun : ∀ (lines : List Text) (state : ParseState), AllParsed state.groups →
      AllParsed (lines.foldl parseLine state).groups := by
    intro lines
    induction lines with
    | nil => exact fun _ h => h
    | cons line lines ih => exact fun state h => ih _ (all_parsed_line h line)
  exact hrun _ ⟨[], none⟩ nofun

/-! ## The decision on the rule alone -/

/-- The decision that a rule of the crawler's own group makes. -/
def ruleDecision (rule : Rule) : RobotsDecision :=
  ⟨rule.allowed, if rule.allowed then .matchedAllow else .matchedDisallow, some productToken,
    some rule.normalized⟩

/-- A matching rule alone decides as it says. -/
theorem decide_groups_own_rule {rule : Rule} {target : List Token}
    (h : ruleMatches rule target = true) :
    decideGroups [⟨[productToken], [rule]⟩] target = ruleDecision rule := by
  have hproduct : Group.namesProduct ⟨[productToken], [rule]⟩ = true := by
    show ([productToken].any fun agent => Text.lower agent == Text.lower productToken) = true
    decide +kernel
  have hexact : exactGroups [⟨[productToken], [rule]⟩] = [⟨[productToken], [rule]⟩] := by
    simp [exactGroups, hproduct]
  have hselected : selectedGroups [⟨[productToken], [rule]⟩] = [⟨[productToken], [rule]⟩] := by
    simp [selectedGroups, hexact]
  unfold decideGroups
  rw [hselected, if_neg (by simp)]
  simp only [selectedRules, hselected, List.flatMap_cons, List.flatMap_nil, List.append_nil]
  simp [pickWinner, h, List.eraseDups_cons, matchedAgent, hexact, ruleDecision]

/-- What a returned decision was made on. -/
theorem evaluate_robots_ok_inv {robotsTxt : ByteArray} {target : Text} {decision : RobotsDecision}
    (h : evaluateRobots robotsTxt target = .ok decision) :
    ∃ robotsText normal, Text.decodeUtf8 robotsTxt = some robotsText ∧ ValidTarget target ∧
      normalize false target = some normal ∧
      decision = decideTarget (parseGroups robotsText) normal := by
  obtain ⟨hsize, hdecodes⟩ := evaluate_robots_inv h
  obtain ⟨robotsText, hdecode⟩ := Option.ne_none_iff_exists'.mp hdecodes
  by_cases htarget : IsTarget target
  · have hvalid := is_target_iff.mp htarget
    obtain ⟨normal, hnormal⟩ := normalize_is_some false hvalid.scalar hvalid.triplets
    rw [evaluate_robots_ok hsize hdecode ((validate_target_ok_iff target).mpr hvalid) hnormal] at h
    exact ⟨robotsText, normal, hdecode, hvalid, hnormal, (Except.ok.inj h).symm⟩
  · rw [evaluate_robots_invalid hsize (decode_utf8_is_some_iff.mp ⟨_, hdecode⟩) htarget] at h
    cases h

/-- A decision with a matched rule is the decision of a winning rule. -/
theorem decide_target_matched {groups : List Group} {target : Text × List Token} {m : Text}
    (h : (decideTarget groups target).matchedRule = some m) :
    (Text.splitFirst 0x3F target.1).1 ≠ Text.ofString "/robots.txt" ∧
      ∃ rule, Wins groups target.2 rule ∧ rule.normalized = m ∧
        { decideTarget groups target with matchedUserAgent := some productToken } =
          ruleDecision rule := by
  by_cases hexempt : (Text.splitFirst 0x3F target.1).1 = Text.ofString "/robots.txt"
  · rw [decideTarget, if_pos hexempt] at h
    cases h
  · have hreports := decide_groups_reports groups target.2
    rw [decideTarget, if_neg hexempt] at h ⊢
    refine ⟨hexempt, ?_⟩
    generalize decideGroups groups target.2 = decision at h hreports ⊢
    cases hreports with
    | noGroup none_selected => cases h
    | noRule some_selected none_applies reported => cases h
    | @allow agent rule wins allowed reported =>
        exact ⟨rule, wins, Option.some.inj h, by simp [ruleDecision, allowed]⟩
    | @disallow agent rule wins denied reported =>
        exact ⟨rule, wins, Option.some.inj h, by simp [ruleDecision, denied]⟩

/-- The matched rule of a decision is its own normal form. The file that states it alone, for the
crawler by name and with the field that the decision tells, parses to the winning rule and decides
the target in the same way. -/
theorem matched_rule_round_trip {robotsTxt : ByteArray} {target m : Text}
    {decision : RobotsDecision} (h : evaluateRobots robotsTxt target = .ok decision)
    (hmatched : decision.matchedRule = some m) :
    (∃ tokens, normalize true m = some (m, tokens)) ∧
      ∃ robotsText normal rule, Text.decodeUtf8 robotsTxt = some robotsText ∧
        normalize false target = some normal ∧ Wins (parseGroups robotsText) normal.2 rule ∧
        rule.normalized = m ∧ rule.allowed = decision.allowed ∧
        ∀ ending, ending = [] ∨ ending = [0x0A] →
          ∃ body, Text.decodeUtf8 body =
              some (ruleBody productToken decision.allowed m ++ ending) ∧
            parseGroups (ruleBody productToken decision.allowed m ++ ending) =
              [⟨[productToken], [rule]⟩] ∧
            (body.size ≤ maxRobotsBytes → evaluateRobots body target =
              .ok { decision with matchedUserAgent := some productToken }) := by
  obtain ⟨robotsText, normal, hdecode, hvalid, hnormal, rfl⟩ := evaluate_robots_ok_inv h
  obtain ⟨hexempt, rule, hwins, rfl, hdecision⟩ := decide_target_matched hmatched
  obtain ⟨⟨group, hgroup, -, hrule⟩, hmatches⟩ := hwins.applies
  obtain ⟨hpattern, hparse, hfixed, hascii⟩ :=
    parsed_normalized (all_parsed_groups robotsText group hgroup rule hrule)
  have hallowed : rule.allowed = (decideTarget (parseGroups robotsText) normal).allowed :=
    (congrArg RobotsDecision.allowed hdecision).symm
  refine ⟨hfixed, robotsText, normal, rule, hdecode, hnormal, hwins, rfl, hallowed,
    fun ending hending => ?_⟩
  rw [hallowed] at hparse
  have hproduct : isProductToken productToken = true := by decide +kernel
  have hgroups := parse_groups_rule_body hproduct hpattern hparse hending
  generalize decideTarget (parseGroups robotsText) normal = decision at hdecision hgroups ⊢
  have hchars : ∀ c ∈ ruleBody productToken decision.allowed rule.normalized ++ ending,
      c.isValidChar := by
    have hbefore : ∀ c ∈ Text.ofString "User-agent: " ++ productToken ++ 0x0A ::
        Text.ofString (if decision.allowed then "Allow: " else "Disallow: "), c < 0x7F := by
      cases decision.allowed <;> decide +kernel
    have hafter : ∀ c ∈ ending, c < 0x7F := by
      rcases hending with rfl | rfl
      · nofun
      · decide
    intro c hc
    have hbound : c < 0x7F → c.isValidChar := fun h => Or.inl (by omega)
    refine hbound ?_
    rcases List.mem_append.mp hc with hc | hc
    · rw [ruleBody, ← List.cons_append, ← List.append_assoc] at hc
      rcases List.mem_append.mp hc with hc | hc
      · exact hbefore c hc
      · exact hascii c hc
    · exact hafter c hc
  refine ⟨_, Text.decode_to_utf8 hchars, hgroups, fun hsize => ?_⟩
  rw [evaluate_robots_ok hsize (Text.decode_to_utf8 hchars)
    ((validate_target_ok_iff target).mpr hvalid) hnormal, hgroups, decideTarget, if_neg hexempt,
    decide_groups_own_rule hmatches]
  exact congrArg Except.ok hdecision.symm

/-- A pattern with an encoded letter, an encoded slash, an encoded `#` and a wildcard. -/
theorem matched_rule_round_trip_encoded :
    (∃ tokens, normalize true (Text.ofString "/a%2F%23*") =
      some (Text.ofString "/a%2F%23*", tokens)) ∧
    ∃ body, Text.decodeUtf8 body =
        some (Text.ofString "User-agent: GrowthOSBot\nDisallow: /a%2F%23*") ∧
      (body.size ≤ maxRobotsBytes → evaluateRobots body (Text.ofString "/a%2f%23c") =
        .ok ⟨false, .matchedDisallow, some productToken, some (Text.ofString "/a%2F%23*")⟩) := by
  let rule : Rule := ⟨false, Text.ofString "/a%2F%23*",
    [some 0x2F, some 0x61, some (256 + 0x2F), some (256 + 0x23), none], false, 4⟩
  have hmatches : ruleMatches rule
      ([0x2F, 0x61, 256 + 0x2F, 256 + 0x23, 0x63].map some) = true := by
    refine (matches_of_loop rule _).mpr ⟨fun _ => [], ?_⟩
    show fill (fun _ => []) rule.tokens <+: _
    decide
  have hgroups : parseGroups (Text.ofString "User-agent: GrowthOSBot\nDisallow: /%61%2f%23*") =
      [⟨[productToken], [rule]⟩] := by
    decide +kernel
  have hdecoded : Text.decodeUtf8 "User-agent: GrowthOSBot\nDisallow: /%61%2f%23*".toUTF8 =
      some (Text.ofString "User-agent: GrowthOSBot\nDisallow: /%61%2f%23*") := by
    decide +kernel
  have hnormal : normalize false (Text.ofString "/a%2f%23c") = some (Text.ofString "/a%2F%23c",
      [0x2F, 0x61, 256 + 0x2F, 256 + 0x23, 0x63].map some) := by
    decide +kernel
  have hexempt : (Text.splitFirst 0x3F (Text.ofString "/a%2F%23c")).1 ≠
      Text.ofString "/robots.txt" := by
    decide +kernel
  have hdecision : evaluateRobots "User-agent: GrowthOSBot\nDisallow: /%61%2f%23*".toUTF8
      (Text.ofString "/a%2f%23c") = .ok ⟨false, .matchedDisallow, some productToken,
        some (Text.ofString "/a%2F%23*")⟩ := by
    rw [evaluate_robots_ok (by decide +kernel) hdecoded (by decide +kernel) hnormal, hgroups,
      decideTarget, if_neg hexempt, decide_groups_own_rule hmatches]
    rfl
  have hbody : ruleBody productToken false (Text.ofString "/a%2F%23*") ++ [] =
      Text.ofString "User-agent: GrowthOSBot\nDisallow: /a%2F%23*" := by
    decide +kernel
  obtain ⟨hfixed, _, _, _, _, _, _, _, _, hbodies⟩ := matched_rule_round_trip hdecision rfl
  obtain ⟨body, hdecode, -, hevaluate⟩ := hbodies [] (Or.inl rfl)
  rw [hbody] at hdecode
  exact ⟨hfixed, body, hdecode, hevaluate⟩

end GrowthOs.Robots
