import GrowthOs.Robots.Matching
import GrowthOs.Robots.Spelling

/-!
# A rule for one target

A robots file that disallows a target as a URL spells it denies that URL exactly when requoting and
the removal of dot segments leave its spelling alone.
-/

namespace GrowthOs.Robots

open Library Acquisition

/-- A rule without operators matches the targets that start with it. -/
theorem rule_matches_prefix {pattern target : List Token} (hpattern : none ∉ pattern)
    (htarget : none ∉ target) {rule : Rule} (htokens : rule.tokens = pattern)
    (hanchored : rule.anchored = false) : ruleMatches rule target = true ↔ pattern <+: target := by
  obtain ⟨literals, rfl⟩ := octets_of_no_star hpattern
  obtain ⟨octets, rfl⟩ := octets_of_no_star htarget
  rw [matches_literal htokens, hanchored]
  exact (List.prefix_map_iff_of_injective fun _ _ h => Option.some.inj h).symm

/-- The robots file that disallows a spelling. -/
def disallowBody (p : Text) : Text := Text.ofString "User-agent: *\nDisallow: " ++ p

/-- A spelling that a rule takes literally. -/
structure LiteralTarget (p : Text) : Prop extends ValidTarget p where
  no_star : 0x2A ∉ p
  no_dollar : 0x24 ∉ p
  no_space : 0x20 ∉ p

/-- The normal form of a text ends with a dollar sign only when the text has one. -/
theorem normalized_no_dollar {s normalized : Text} {tokens : List Token}
    (hwell : wellFormedTriplets s = true) (hdollar : 0x24 ∉ s)
    (h : normalize false s = some (normalized, tokens)) : 0x24 ∉ normalized := by
  have hpercent : ∀ {octet : Nat}, octet < 256 → 0x24 ∉ percentOctet octet := by
    intro octet hoctet hmem
    have hdigit : ∀ n < 16, hexDigit n ≠ 0x24 := by decide
    unfold percentOctet at hmem
    simp only [List.mem_cons, List.not_mem_nil, or_false] at hmem
    rcases hmem with hmem | hmem | hmem
    · omega
    · exact hdigit (octet / 16) (by omega) hmem.symm
    · exact hdigit (octet % 16) (by omega) hmem.symm
  induction s, hwell using well_formed_induction generalizing normalized tokens with
  | nil =>
      cases h
      exact List.not_mem_nil
  | triplet high low rest hhigh hlow hrest ih =>
      rw [normalize_triplet false hhigh hlow] at h
      obtain ⟨result, hresult, heq⟩ := Option.map_eq_some_iff.mp h
      cases heq
      have hrestDollar := ih (fun hmem => hdollar (by simp [hmem])) hresult
      have hhigh' := hex_value_lt hhigh
      have hlow' := hex_value_lt hlow
      intro hmem
      rcases List.mem_append.mp hmem with hmem | hmem
      · unfold octetText at hmem
        split at hmem
        · rename_i hunreserved
          rw [← List.mem_singleton.mp hmem] at hunreserved
          exact absurd hunreserved (by decide)
        · exact hpercent (by omega) hmem
      · exact hrestDollar hmem
  | char c rest hc hrest ih =>
      rw [normalize_char false hc] at h
      obtain ⟨piece, hpiece, h⟩ := Option.bind_eq_some_iff.mp h
      obtain ⟨result, hresult, heq⟩ := Option.map_eq_some_iff.mp h
      cases heq
      rw [List.mem_cons, not_or] at hdollar
      intro hmem
      rcases List.mem_append.mp hmem with hmem | hmem
      · unfold normalizeChar at hpiece
        rw [if_neg (by simp)] at hpiece
        split at hpiece
        · cases hpiece
          exact hdollar.1 (List.mem_singleton.mp hmem)
        · obtain ⟨octets, hoctets, rfl⟩ := Option.map_eq_some_iff.mp hpiece
          obtain ⟨octet, hoctet, hmem⟩ := List.mem_flatMap.mp hmem
          exact hpercent ((encode_utf8_octets hoctets).1 octet hoctet) hmem
      · exact ih hdollar.2 hresult hmem

/-- The rule of a literal spelling has its tokens, and matches wherever they are a prefix. -/
theorem parse_rule_literal {p : Text} {tokens : List Token} (h : LiteralTarget p)
    (htokens : Denotes p tokens) :
    ∃ rule, parseRule p false = some rule ∧ rule.allowed = false ∧ rule.tokens = tokens ∧
      rule.anchored = false := by
  obtain ⟨normalized, hnormal⟩ := htokens
  have hvisible : ¬ (p.any fun c => c ≤ 0x20 || c == 0x7F) = true := by
    intro hany
    obtain ⟨c, hc, hbad⟩ := List.any_eq_true.mp hany
    have hvisible := h.visible c hc
    have hspace : c ≠ 0x20 := fun heq => h.no_space (heq ▸ hc)
    simp at hbad
    omega
  have hdollar := normalized_no_dollar h.triplets h.no_dollar hnormal
  have hanchored : (normalized.getLast? == some 0x24) = false := by
    rw [beq_eq_false_iff_ne]
    exact fun hlast => hdollar (List.mem_of_getLast? hlast)
  unfold parseRule
  rw [if_neg (by simp [h.slash]), if_neg hvisible,
    normalize_star_free h.no_star h.triplets, hnormal]
  exact ⟨_, rfl, rfl, by simp [hanchored], hanchored⟩

/-- The file has one group, for every crawler, with the rule. -/
theorem parse_groups_disallow {p : Text} {rule : Rule} (h : LiteralTarget p)
    (hrule : parseRule p false = some rule) :
    parseGroups (disallowBody p) = [⟨[wildcardAgent], [rule]⟩] := by
  have hvisible : ∀ c ∈ p, 0x20 < c ∧ c ≠ 0x7F := by
    intro c hc
    have hbound := h.visible c hc
    have hspace : c ≠ 0x20 := fun heq => h.no_space (heq ▸ hc)
    exact ⟨by omega, hbound.2⟩
  have hpattern : ValidPattern p :=
    ⟨h.slash, hvisible, h.no_fragment, h.scalar, h.triplets⟩
  have hbody : disallowBody p = ruleBody wildcardAgent false p ++ [] := by
    rw [List.append_nil, disallowBody, ruleBody, show Text.ofString "User-agent: *\nDisallow: " =
      Text.ofString "User-agent: " ++ wildcardAgent ++
        0x0A :: Text.ofString "Disallow: " by decide +kernel]
    simp
  rw [hbody]
  exact parse_groups_rule_body (by decide +kernel) hpattern hrule (Or.inl rfl)

/-- The decision on one group with one disallow rule. -/
theorem decide_groups_disallow {rule : Rule} (hrule : rule.allowed = false) (target : List Token) :
    (decideGroups [⟨[wildcardAgent], [rule]⟩] target).allowed = false ↔
      ruleMatches rule target = true := by
  have hproduct : Group.namesProduct ⟨[wildcardAgent], [rule]⟩ = false := by
    show ([wildcardAgent].any fun agent => Text.lower agent == Text.lower productToken) = false
    decide +kernel
  have hselected : selectedGroups [⟨[wildcardAgent], [rule]⟩] = [⟨[wildcardAgent], [rule]⟩] := by
    simp [selectedGroups, exactGroups, hproduct, Group.namesWildcard]
  unfold decideGroups
  rw [hselected, if_neg (by simp)]
  simp only [selectedRules, hselected, List.flatMap_cons, List.flatMap_nil, List.append_nil]
  by_cases hmatch : ruleMatches rule target = true
  · simp [pickWinner, hmatch, hrule, List.eraseDups_cons]
  · simp [pickWinner, hmatch, List.eraseDups_cons]

/-- On a valid target, the file denies exactly the targets that the spelling is a prefix of. -/
theorem evaluate_disallow_iff {p target : Text} {tokens targetTokens : List Token}
    (h : LiteralTarget p) (htokens : Denotes p tokens) (hvalid : ValidTarget target)
    (htarget : Denotes target targetTokens)
    (hexempt : ∀ normal, normalize false target = some normal →
      (Text.splitFirst 0x3F normal.1).1 ≠ Text.ofString "/robots.txt")
    {body : ByteArray} (hsize : body.size ≤ maxRobotsBytes)
    (hdecode : Text.decodeUtf8 body = some (disallowBody p)) :
    ∃ decision, evaluateRobots body target = .ok decision ∧
      (decision.allowed = false ↔ tokens <+: targetTokens) := by
  have htargetStar := tokens_no_star hvalid.triplets htarget
  obtain ⟨normalized, hnormal⟩ := htarget
  obtain ⟨rule, hrule, hallowed, hruleTokens, hanchored⟩ := parse_rule_literal h htokens
  refine ⟨_, evaluate_robots_ok hsize hdecode ((validate_target_ok_iff target).mpr hvalid) hnormal,
    ?_⟩
  rw [parse_groups_disallow h hrule, decideTarget, if_neg (hexempt _ hnormal),
    decide_groups_disallow hallowed]
  exact rule_matches_prefix (tokens_no_star h.triplets htokens) htargetStar hruleTokens hanchored

/-- What the binding derives from a URL with the spelling. -/
def requotedTarget (p : Text) : Text :=
  let path := requotedPath (Text.splitFirst 0x3F p).1
  let query := requotedQuery (Text.splitFirst 0x3F p).2
  if query = [] then path else path ++ 0x3F :: query

/-- The URL package keeps every octet of the spelling, and the path has no dot segments. -/
def SpellingKept (p : Text) : Prop :=
  keepsSpelling pathQuoter (Text.splitFirst 0x3F p).1 = true ∧
    ¬ HasDotSegment (requote pathQuoter (Text.splitFirst 0x3F p).1) ∧
    ∀ query ∈ (Text.splitFirst 0x3F p).2, query ≠ [] ∧ keepsSpelling queryQuoter query = true

/-- The parts of a literal spelling. -/
theorem split_literal {p : Text} (h : LiteralTarget p) :
    ∃ rest query?, Text.splitFirst 0x3F p = (0x2F :: rest, query?) ∧
      p = 0x2F :: rest ++ query?.elim [] (0x3F :: ·) ∧
      wellFormedTriplets (0x2F :: rest) = true ∧
      ∀ query ∈ query?, wellFormedTriplets query = true := by
  have hjoin := Text.split_first_join 0x3F p
  have hslash := h.slash
  have hwell := h.triplets
  match p with
  | [] => cases hslash
  | c :: tail =>
      cases hslash
      have hsplit : Text.splitFirst 0x3F (0x2F :: tail) =
          (0x2F :: (Text.splitFirst 0x3F tail).1, (Text.splitFirst 0x3F tail).2) := by
        rw [Text.splitFirst, if_neg (by decide)]
      rw [hsplit] at hjoin
      refine ⟨_, _, hsplit, hjoin, ?_, ?_⟩
      · rw [hjoin] at hwell
        cases hquery : (Text.splitFirst 0x3F tail).2 with
        | none =>
            rw [hquery] at hwell
            simpa using hwell
        | some query =>
            rw [hquery] at hwell
            exact well_formed_before (by decide) hwell
      · intro query hquery
        rw [hjoin, Option.mem_def.mp hquery] at hwell
        have hpath : wellFormedTriplets (0x2F :: (Text.splitFirst 0x3F tail).1) = true :=
          well_formed_before (by decide) hwell
        rw [well_formed_append hpath] at hwell
        exact (well_formed_cons (by decide) query).symm.trans hwell

/-- Requoting leaves something of a text. -/
theorem requote_ne_nil {quoter : Quoter} {s : Text} (hscalar : ∀ c ∈ s, ¬(0xD800 ≤ c ∧ c ≤ 0xDFFF))
    (hwell : wellFormedTriplets s = true) (h : s ≠ []) : requote quoter s ≠ [] := by
  match s with
  | [] => exact absurd rfl h
  | c :: rest =>
      rcases well_formed_cases hwell with ⟨high, low, tail, rfl, rfl, hhigh, hlow, -⟩ | ⟨hc, -⟩
      · rw [requote_triplet quoter hhigh hlow]
        unfold Quoter.octet
        split
        · simp
        · simp [percentOctet]
      · rw [requote_char quoter hc]
        obtain ⟨octet, octets, hoctets⟩ := encode_utf8_ne_nil (hscalar c List.mem_cons_self)
        unfold Quoter.char
        rw [hoctets]
        split
        · simp
        · split
          · simp
          · simp [percentOctet]

/-- A prefix of the same length is the text. -/
theorem prefix_iff_eq {α : Type} {s t : List α} (h : s.length = t.length) : s <+: t ↔ s = t :=
  ⟨fun hprefix => hprefix.eq_of_length h, fun heq => heq ▸ List.prefix_rfl⟩

/-- What becomes of the octets of a path: some are lost with a dot segment, and none are lost
without. -/
theorem requoted_path_denotes {rest : Text} (hspace : 0x20 ∉ 0x2F :: rest)
    (hscalar : ∀ c ∈ 0x2F :: rest, ¬(0xD800 ≤ c ∧ c ≤ 0xDFFF))
    (hwell : wellFormedTriplets (0x2F :: rest) = true) :
    ∃ tokens tokens', Denotes (0x2F :: rest) tokens ∧
      wellFormedTriplets (requotedPath (0x2F :: rest)) = true ∧
      Denotes (requotedPath (0x2F :: rest)) tokens' ∧
      (HasDotSegment (requote pathQuoter (0x2F :: rest)) → tokens'.length < tokens.length) ∧
      (¬ HasDotSegment (requote pathQuoter (0x2F :: rest)) →
        requotedPath (0x2F :: rest) = requote pathQuoter (0x2F :: rest) ∧
        tokens'.length = tokens.length ∧
        (tokens' = tokens ↔ keepsSpelling pathQuoter (0x2F :: rest) = true)) := by
  obtain ⟨tokens, htokens⟩ := denotes_is_some hscalar hwell
  obtain ⟨hwell', tokens', htokens', hlength, hkept⟩ :=
    requote_denotes hspace hwell htokens
  have hvisible : ∀ c ∈ requote pathQuoter (0x2F :: rest), 0x20 < c ∧ c < 0x7F ∧ c ≠ 0x23 :=
    requote_visible hwell
  have hpath : requotedPath (0x2F :: rest) = normalizePath (requote pathQuoter (0x2F :: rest)) :=
    rfl
  rw [hpath]
  rw [requote_slash] at hwell' htokens' hvisible ⊢
  by_cases hdot : HasDotSegment (0x2F :: requote pathQuoter rest)
  · have hascii : ∀ c ∈ requote pathQuoter rest, c < 0x80 := fun c hc => by
      have hbound := hvisible c (List.mem_cons_of_mem _ hc)
      omega
    obtain ⟨hnormalWell, shorter, hshorter, hless⟩ :=
      normalize_path_shorter hdot hascii hwell' htokens'
    exact ⟨tokens, shorter, htokens, hnormalWell, hshorter, fun _ => by omega,
      fun hplain => absurd hdot hplain⟩
  · rw [normalize_path_plain hdot]
    exact ⟨tokens, tokens', htokens, hwell', htokens', fun h => absurd h hdot,
      fun _ => ⟨rfl, hlength, hkept⟩⟩

/-- A path starts with two slashes. -/
theorem take_two_iff {t : Text} : (0x2F :: t).take 2 = [0x2F, 0x2F] ↔ t.head? = some 0x2F := by
  match t with
  | [] => simp
  | d :: rest => simp

/-- Without dot segments, the derived target is a valid one. -/
theorem requoted_target_valid {p : Text} (h : LiteralTarget p)
    (hdot : ¬ HasDotSegment (requote pathQuoter (Text.splitFirst 0x3F p).1)) :
    ValidTarget (requotedTarget p) := by
  obtain ⟨rest, query?, hsplit, hp, hpathWell, hqueryWell⟩ := split_literal h
  have hsub : ∀ c ∈ 0x2F :: rest, c ∈ p := fun c hc => by
    rw [hp]
    exact List.mem_append_left _ hc
  have hspace : 0x20 ∉ 0x2F :: rest := fun hmem => h.no_space (hsub _ hmem)
  obtain ⟨_, _, -, -, -, -, hplain⟩ :=
    requoted_path_denotes hspace (fun c hc => h.scalar c (hsub c hc)) hpathWell
  rw [hsplit] at hdot
  obtain ⟨hpath, -, -⟩ := hplain hdot
  rw [requote_slash] at hpath
  have hrestWell : wellFormedTriplets rest = true := by
    rwa [well_formed_cons (by decide)] at hpathWell
  have hquery : wellFormedTriplets (query?.getD []) = true := by
    cases query? with
    | none => rfl
    | some query => exact hqueryWell query rfl
  have hsubQuery : ∀ c ∈ query?.getD [], c ∈ p := by
    intro c hc
    cases query? with
    | none => exact absurd hc List.not_mem_nil
    | some query =>
        rw [hp]
        exact List.mem_append_right _ (List.mem_cons_of_mem _ hc)
  -- Every unit of the target is the slash, the question mark or a requoted one.
  have hvisible : ∀ c ∈ requotedTarget p, 0x20 < c ∧ c < 0x7F ∧ c ≠ 0x23 := by
    have hrest := @requote_visible pathQuoter _ hrestWell
    have hqueryVisible := @requote_visible queryQuoter _ hquery
    intro c hc
    unfold requotedTarget at hc
    rw [hsplit, hpath] at hc
    dsimp only at hc
    have hcases : c = 0x2F ∨ c ∈ requote pathQuoter rest ∨ c = 0x3F ∨
        c ∈ requote queryQuoter (query?.getD []) := by
      unfold requotedQuery at hc
      split at hc
      · rcases List.mem_cons.mp hc with hc | hc
        · exact Or.inl hc
        · exact Or.inr (Or.inl hc)
      · simpa using hc
    rcases hcases with rfl | hc | rfl | hc
    · omega
    · exact hrest c hc
    · omega
    · exact hqueryVisible c hc
  have hshape : ∃ suffix, requotedTarget p = 0x2F :: (requote pathQuoter rest ++ suffix) ∧
      (suffix = [] ∨ suffix = 0x3F :: requote queryQuoter (query?.getD [])) := by
    unfold requotedTarget
    rw [hsplit, hpath]
    dsimp only
    unfold requotedQuery
    split
    · exact ⟨[], by rw [List.append_nil], Or.inl rfl⟩
    · exact ⟨_, rfl, Or.inr rfl⟩
  obtain ⟨suffix, htarget, hsuffix⟩ := hshape
  have hrestRequoted : wellFormedTriplets (requote pathQuoter rest) = true :=
    requote_well_formed (fun hmem => hspace (List.mem_cons_of_mem _ hmem))
      (fun c hc => h.scalar c (hsub c (List.mem_cons_of_mem _ hc))) hrestWell
  refine ⟨by rw [htarget]; rfl, ?_, fun hhash => (hvisible _ hhash).2.2 rfl, ?_, ?_, ?_⟩
  -- Two slashes in front would come from two slashes of the spelling, which names no authority.
  · rw [htarget]
    intro hslashes
    have hhead := take_two_iff.mp hslashes
    have hrestHead : rest.head? = some 0x2F := by
      match hrequoted : requote pathQuoter rest with
      | [] =>
          rw [hrequoted, List.nil_append] at hhead
          rcases hsuffix with rfl | rfl <;> cases hhead
      | d :: tail =>
          refine requote_head (fun c hc => h.scalar c (hsub c (List.mem_cons_of_mem _ hc)))
            hrestWell ?_
          rw [hrequoted] at hhead ⊢
          exact hhead
    refine h.no_authority ?_
    rw [hp, List.cons_append]
    refine take_two_iff.mpr ?_
    rw [List.head?_append, hrestHead]
    rfl
  · intro c hc
    have hbound := hvisible c hc
    omega
  · intro c hc
    have hbound := hvisible c hc
    omega
  · rw [htarget, well_formed_cons (by decide), well_formed_append hrestRequoted]
    rcases hsuffix with rfl | rfl
    · rfl
    · rw [well_formed_cons (by decide)]
      exact requote_well_formed (fun hmem => h.no_space (hsubQuery _ hmem))
        (fun c hc => h.scalar c (hsubQuery c hc)) hquery

/-- The spelling is a prefix of a valid derived target exactly when it is kept. -/
theorem requoted_target_prefix_iff {p : Text} (h : LiteralTarget p) :
    (ValidTarget (requotedTarget p) ∧
        ∃ tokens targetTokens, Denotes p tokens ∧ Denotes (requotedTarget p) targetTokens ∧
          tokens <+: targetTokens) ↔ SpellingKept p := by
  have hvalid := requoted_target_valid h
  obtain ⟨rest, query?, hsplit, hp, hpathWell, hqueryWell⟩ := split_literal h
  have hsub : ∀ c ∈ 0x2F :: rest, c ∈ p := fun c hc => by
    rw [hp]
    exact List.mem_append_left _ hc
  obtain ⟨tokens, tokens', htokens, hwell', htokens', hless, hplain⟩ :=
    requoted_path_denotes (fun hmem => h.no_space (hsub _ hmem))
      (fun c hc => h.scalar c (hsub c hc)) hpathWell
  unfold SpellingKept
  rw [hsplit] at hvalid ⊢
  have htarget : requotedTarget p = if requotedQuery query? = [] then requotedPath (0x2F :: rest)
      else requotedPath (0x2F :: rest) ++ 0x3F :: requotedQuery query? := by
    unfold requotedTarget
    rw [hsplit]
  -- A dot segment leaves fewer tokens than the rule has, so no prefix survives it; without one the
  -- lengths agree and a prefix is an equality.
  cases query? with
  | none =>
      have hempty : requotedQuery none = [] := rfl
      have hpath : p = 0x2F :: rest := by simpa using hp
      rw [if_pos hempty] at htarget
      constructor
      · intro hprefix
        obtain ⟨-, t, u, ht, hu, hprefix⟩ := hprefix
        rw [hpath] at ht
        rw [htarget] at hu
        rw [denotes_unique ht htokens, denotes_unique hu htokens'] at hprefix
        have hlength := hprefix.length_le
        have hdot : ¬ HasDotSegment (requote pathQuoter (0x2F :: rest)) := fun hdot => by
          have hfewer := hless hdot
          omega
        obtain ⟨-, hsame, hkept⟩ := hplain hdot
        exact ⟨hkept.mp ((prefix_iff_eq hsame.symm).mp hprefix).symm, hdot, nofun⟩
      · intro hkept
        obtain ⟨hpathKept, hdot, -⟩ := hkept
        refine ⟨hvalid hdot, tokens, tokens', by rwa [hpath], by rwa [htarget], ?_⟩
        rewrite [(hplain hdot).2.2.mpr hpathKept]
        exact List.prefix_rfl
  | some query =>
      have hquerySub : ∀ c ∈ query, c ∈ p := fun c hc => by
        rw [hp]
        exact List.mem_append_right _ (List.mem_cons_of_mem _ hc)
      have hqueryScalar : ∀ c ∈ query, ¬(0xD800 ≤ c ∧ c ≤ 0xDFFF) :=
        fun c hc => h.scalar c (hquerySub c hc)
      have hwell := hqueryWell query rfl
      obtain ⟨queryTokens, hqueryTokens⟩ := denotes_is_some hqueryScalar hwell
      obtain ⟨-, queryTokens', hqueryTokens', hqueryLength, hqueryKept⟩ :=
        requote_denotes (fun hmem => h.no_space (hquerySub _ hmem)) hwell
          hqueryTokens
      have hmark : normalizeChar false 0x3F = some ([0x3F], [some 0x3F]) :=
        normalize_char_ascii (by decide)
      have hpTokens : Denotes p (tokens ++ (some 0x3F :: queryTokens)) := by
        rw [hp]
        exact denotes_append hpathWell htokens (denotes_char (by decide) hmark hqueryTokens)
      by_cases hempty : query = []
      · -- The question mark of the spelling is lost.
        rw [hempty] at htarget
        rw [if_pos (by rfl)] at htarget
        refine iff_of_false (fun hprefix => ?_) fun hkept => (hkept.2.2 query rfl).1 hempty
        obtain ⟨-, t, u, ht, hu, hprefix⟩ := hprefix
        rw [htarget] at hu
        rw [denotes_unique ht hpTokens, denotes_unique hu htokens'] at hprefix
        have hlength := hprefix.length_le
        rw [List.length_append, List.length_cons] at hlength
        by_cases hdot : HasDotSegment (requote pathQuoter (0x2F :: rest))
        · have hfewer := hless hdot
          omega
        · have hsame := (hplain hdot).2.1
          omega
      · have hrequoted : requotedQuery (some query) ≠ [] := requote_ne_nil hqueryScalar hwell hempty
        rw [if_neg hrequoted] at htarget
        have htargetTokens :
            Denotes (requotedTarget p) (tokens' ++ (some 0x3F :: queryTokens')) := by
          rw [htarget]
          exact denotes_append hwell' htokens' (denotes_char (by decide) hmark hqueryTokens')
        constructor
        · intro hprefix
          obtain ⟨-, t, u, ht, hu, hprefix⟩ := hprefix
          rw [denotes_unique ht hpTokens, denotes_unique hu htargetTokens] at hprefix
          have hlength := hprefix.length_le
          simp only [List.length_append, List.length_cons] at hlength
          have hdot : ¬ HasDotSegment (requote pathQuoter (0x2F :: rest)) := fun hdot => by
            have hfewer := hless hdot
            omega
          obtain ⟨-, hsame, hkept⟩ := hplain hdot
          rw [prefix_iff_eq (by simp [hsame, hqueryLength])] at hprefix
          -- The paths have one length, so the equality splits at the question mark.
          obtain ⟨hpathEq, hqueryEq⟩ := List.append_inj hprefix hsame.symm
          refine ⟨hkept.mp hpathEq.symm, hdot, fun other hother => ?_⟩
          obtain rfl : query = other := Option.some.inj hother
          exact ⟨hempty, hqueryKept.mp (List.cons.inj hqueryEq).2.symm⟩
        · intro hkept
          obtain ⟨hpathKept, hdot, hqueryKept'⟩ := hkept
          refine ⟨hvalid hdot, _, _, hpTokens, htargetTokens, ?_⟩
          rewrite [(hplain hdot).2.2.mpr hpathKept, hqueryKept.mpr (hqueryKept' query rfl).2]
          exact List.prefix_rfl

/-! ## The binding of a spelled target -/

/-- The raw path and query of a URL that `normalize_url` accepts are the requoted forms of what its
text spells, and those of any URL stay the same when the host, the port or the fragment changes. -/
structure Requotes (lib : UrlLibrary) : Prop where
  path : ∀ rawUrl parsed url, lib.parse rawUrl = .ok parsed →
    normalizeUrl lib rawUrl false none = .ok url →
    lib.rawPath parsed = requotedPath (spelledPath rawUrl)
  query : ∀ rawUrl parsed url, lib.parse rawUrl = .ok parsed →
    normalizeUrl lib rawUrl false none = .ok url →
    lib.rawQueryString parsed = requotedQuery (spelledQuery rawUrl)
  with_host : ∀ url host hosted, lib.withHost url host = .ok hosted →
    lib.rawPath hosted = lib.rawPath url ∧ lib.rawQueryString hosted = lib.rawQueryString url
  without_port : ∀ url ported, lib.withoutPort url = .ok ported →
    lib.rawPath ported = lib.rawPath url ∧ lib.rawQueryString ported = lib.rawQueryString url
  without_fragment : ∀ url bare, lib.withoutFragment url = .ok bare →
    lib.rawPath bare = lib.rawPath url ∧ lib.rawQueryString bare = lib.rawQueryString url

variable {lib : UrlLibrary}

/-- The binding derives the requoted target of what the URL spells. -/
theorem path_and_query_requoted (requotes : Requotes lib) {targetUrl : Text} {target : lib.Url}
    (h : normalizeUrl lib targetUrl false none = .ok target) :
    pathAndQuery lib target = requotedTarget (spelledTarget targetUrl) := by
  obtain ⟨parsed, host, hosted, ported, hparse, -, hhosted, hported, htarget⟩ := normalize_url_inv h
  obtain ⟨hhostedPath, hhostedQuery⟩ := requotes.with_host parsed host hosted hhosted
  obtain ⟨hbarePath, hbareQuery⟩ := requotes.without_fragment ported target htarget
  have hportedSame : lib.rawPath ported = lib.rawPath hosted ∧
      lib.rawQueryString ported = lib.rawQueryString hosted := by
    rcases hported with rfl | hported
    · exact ⟨rfl, rfl⟩
    · exact requotes.without_port hosted ported hported
  have hpath : lib.rawPath target = requotedPath (spelledPath targetUrl) := by
    rw [hbarePath, hportedSame.1, hhostedPath]
    exact requotes.path targetUrl parsed target (hparse rfl) h
  have hquery : lib.rawQueryString target = requotedQuery (spelledQuery targetUrl) := by
    rw [hbareQuery, hportedSame.2, hhostedQuery]
    exact requotes.query targetUrl parsed target (hparse rfl) h
  unfold pathAndQuery requotedTarget
  rw [hpath, hquery]
  rfl

/-- A fetched file that disallows a literal spelling denies a target exactly when the octets of the
spelling are a prefix of those of the derived target. -/
theorem bound_disallow_iff (urls : AbsoluteUrls lib) {siteUrl targetUrl : Text}
    {site target : lib.Url} (hsite : normalizeUrl lib siteUrl false none = .ok site)
    (htarget : normalizeUrl lib targetUrl false none = .ok target)
    (hsame : SameOrigin lib site target) {p : Text} (hliteral : LiteralTarget p)
    (hexempt : ∀ normal, normalize false (pathAndQuery lib target) = some normal →
      (Text.splitFirst 0x3F normal.1).1 ≠ Text.ofString "/robots.txt")
    {fetched : FetchedRobots} (hvalidated : validateFetchedRobots fetched = .ok ())
    (hrequested : fetched.requestedSiteUrl = lib.toText site) {body : ByteArray}
    (hbody : fetched.body = some body) (hsize : body.size ≤ maxRobotsBytes)
    (hdecode : Text.decodeUtf8 body = some (disallowBody p)) :
    (∃ result, evaluateBoundRobots lib siteUrl targetUrl (some fetched) none = .ok result ∧
        result.gateDecision.allowed = false) ↔
      ValidTarget (pathAndQuery lib target) ∧
        ∃ tokens targetTokens, Denotes p tokens ∧
          Denotes (pathAndQuery lib target) targetTokens ∧ tokens <+: targetTokens := by
  have houtcome : ValidOutcome (some fetched) none := hvalidated
  have hrequested : ∀ other ∈ some fetched, other.requestedSiteUrl = lib.toText site := by
    intro other hother
    obtain rfl : fetched = other := Option.some.inj hother
    exact hrequested
  rw [evaluate_bound_robots_eq urls hsite htarget hsame Bool.noConfusion hrequested]
  generalize pathAndQuery lib target = derived at hexempt ⊢
  by_cases hvalid : ValidTarget derived
  · obtain ⟨gate, hgate, -⟩ := evaluate_robots_gate_valid houtcome hvalid
    obtain ⟨tokens, htokens⟩ := denotes_is_some hliteral.scalar hliteral.triplets
    obtain ⟨targetTokens, htargetTokens⟩ := denotes_is_some hvalid.scalar hvalid.triplets
    obtain ⟨decision, hdecision, hdenied⟩ := evaluate_disallow_iff hliteral htokens hvalid
      htargetTokens hexempt hsize hdecode
    have hspec := evaluate_robots_gate_spec hgate
    have hstatus : fetched.statusCode = 200 :=
      (hspec.served fetched rfl).mp (by rw [hbody]; rfl)
    have hallowed : gate.allowed = true ↔ decision.allowed = true := by
      rw [hspec.allowed_iff]
      simp [Permits, hstatus, hbody, hdecision]
    have hgateDenied : gate.allowed = false ↔ tokens <+: targetTokens := by
      rw [← hdenied, ← Bool.not_eq_true, hallowed, Bool.not_eq_true]
    rw [hgate]
    constructor
    · intro h
      obtain ⟨result, hresult, hfalse⟩ := h
      cases hresult
      exact ⟨hvalid, tokens, targetTokens, htokens, htargetTokens, hgateDenied.mp hfalse⟩
    · intro h
      obtain ⟨-, t, u, ht, hu, hprefix⟩ := h
      rw [denotes_unique ht htokens, denotes_unique hu htargetTokens] at hprefix
      exact ⟨_, rfl, hgateDenied.mpr hprefix⟩
  · rw [evaluate_robots_gate_invalid houtcome hvalid]
    refine iff_of_false (fun h => ?_) fun h => hvalid h.1
    obtain ⟨_, hresult, _⟩ := h
    cases hresult

/-- A fetched file that disallows the path and query of a target as its URL spells them denies the
URL exactly when requoting and the removal of dot segments keep the spelling. -/
theorem spelled_disallow_denies_iff (urls : AbsoluteUrls lib) (requotes : Requotes lib)
    {siteUrl targetUrl : Text} {site target : lib.Url}
    (hsite : normalizeUrl lib siteUrl false none = .ok site)
    (htarget : normalizeUrl lib targetUrl false none = .ok target)
    (hsame : SameOrigin lib site target) (hliteral : LiteralTarget (spelledTarget targetUrl))
    (hexempt : ∀ normal, normalize false (pathAndQuery lib target) = some normal →
      (Text.splitFirst 0x3F normal.1).1 ≠ Text.ofString "/robots.txt")
    {fetched : FetchedRobots} (hvalidated : validateFetchedRobots fetched = .ok ())
    (hrequested : fetched.requestedSiteUrl = lib.toText site) {body : ByteArray}
    (hbody : fetched.body = some body) (hsize : body.size ≤ maxRobotsBytes)
    (hdecode : Text.decodeUtf8 body = some (disallowBody (spelledTarget targetUrl))) :
    (∃ result, evaluateBoundRobots lib siteUrl targetUrl (some fetched) none = .ok result ∧
        result.gateDecision.allowed = false) ↔ SpellingKept (spelledTarget targetUrl) := by
  rw [bound_disallow_iff urls hsite htarget hsame hliteral hexempt hvalidated hrequested hbody
    hsize hdecode, path_and_query_requoted requotes htarget]
  exact requoted_target_prefix_iff hliteral

/-- The library of the sample requotes as described. -/
theorem requotes_plain : Requotes plainLibrary.toUrlLibrary where
  path rawUrl parsed url h haccepted := by
    obtain ⟨absolute, -, -, -, hparse, habsolute, -⟩ := normalize_url_inv haccepted
    obtain rfl : parsed = absolute := Except.ok.inj (h.symm.trans (hparse rfl))
    obtain rfl : PlainUrl.parse rawUrl = parsed := Except.ok.inj h
    show (PlainUrl.parse rawUrl).path = requotedPath (spelledPath rawUrl)
    have hauthority : (PlainUrl.parse rawUrl).authority.isSome = true := habsolute
    unfold PlainUrl.parse at hauthority ⊢
    split
    · rfl
    · rename_i hnone
      rw [hnone] at hauthority
      cases hauthority
  query rawUrl parsed url h _ := by
    obtain rfl : PlainUrl.parse rawUrl = parsed := Except.ok.inj h
    show (PlainUrl.parse rawUrl).query = requotedQuery (spelledQuery rawUrl)
    unfold PlainUrl.parse
    split <;> rfl
  with_host _ _ _ h := by
    cases h
    exact ⟨rfl, rfl⟩
  without_port _ _ h := by
    cases h
    exact ⟨rfl, rfl⟩
  without_fragment _ _ h := by
    cases h
    exact ⟨rfl, rfl⟩

/-- A robots file of the site `https://example.com/`. -/
def servedFile (text : String) : FetchedRobots :=
  ⟨Text.ofString "https://example.com/", Text.ofString "https://example.com/robots.txt",
    Text.ofString "https://example.com/robots.txt", 200, some (Text.ofString "text/plain"),
    some text.toUTF8, [Text.ofString "https://example.com/robots.txt"]⟩

/-- An encoded slash in the path is kept, so the rule denies the URL. -/
theorem spelled_disallow_denies_iff_path :
    ∃ result, evaluateBoundRobots plainLibrary.toUrlLibrary (Text.ofString "https://example.com/")
        (Text.ofString "https://example.com/a%2fb?c")
        (some (servedFile "User-agent: *\nDisallow: /a%2fb?c")) none = .ok result ∧
      result.gateDecision.allowed = false := by
  have hspelled : spelledTarget (Text.ofString "https://example.com/a%2fb?c") =
      Text.ofString "/a%2fb?c" := by decide +kernel
  have hsite : normalizeUrl plainLibrary.toUrlLibrary (Text.ofString "https://example.com/") false
      none = .ok ⟨Text.ofString "https", some (Text.ofString "example.com"), Text.ofString "/",
        []⟩ := by
    decide +kernel
  have htarget : normalizeUrl plainLibrary.toUrlLibrary
      (Text.ofString "https://example.com/a%2fb?c") false none =
        .ok ⟨Text.ofString "https", some (Text.ofString "example.com"), Text.ofString "/a%2Fb",
          Text.ofString "c"⟩ := by
    decide +kernel
  have hliteral : LiteralTarget (spelledTarget (Text.ofString "https://example.com/a%2fb?c")) := by
    rw [hspelled]
    refine ⟨⟨?_, ?_, ?_, ?_, ?_, ?_⟩, ?_, ?_, ?_⟩ <;> decide +kernel
  have hvalidated : validateFetchedRobots (servedFile "User-agent: *\nDisallow: /a%2fb?c") =
      .ok () := by
    decide +kernel
  have hsize : ("User-agent: *\nDisallow: /a%2fb?c".toUTF8).size ≤ maxRobotsBytes := by
    decide +kernel
  have hdecode : Text.decodeUtf8 "User-agent: *\nDisallow: /a%2fb?c".toUTF8 =
      some (disallowBody (spelledTarget (Text.ofString "https://example.com/a%2fb?c"))) := by
    rw [hspelled]
    decide +kernel
  have hbody : (servedFile "User-agent: *\nDisallow: /a%2fb?c").body =
      some "User-agent: *\nDisallow: /a%2fb?c".toUTF8 := rfl
  have hrequested : (servedFile "User-agent: *\nDisallow: /a%2fb?c").requestedSiteUrl =
      plainLibrary.toUrlLibrary.toText ⟨Text.ofString "https",
        some (Text.ofString "example.com"), Text.ofString "/", []⟩ := by
    decide +kernel
  have hderived : pathAndQuery plainLibrary.toUrlLibrary ⟨Text.ofString "https",
      some (Text.ofString "example.com"), Text.ofString "/a%2Fb", Text.ofString "c"⟩ =
        Text.ofString "/a%2Fb?c" := by
    decide +kernel
  have hnormal : normalize false (Text.ofString "/a%2Fb?c") =
      some (Text.ofString "/a%2Fb?c", [some 0x2F, some 0x61, some (256 + 0x2F), some 0x62,
        some 0x3F, some 0x63]) := by
    decide +kernel
  have hkept : SpellingKept (Text.ofString "/a%2fb?c") := by
    have hquery : (Text.splitFirst 0x3F (Text.ofString "/a%2fb?c")).2 =
        some (Text.ofString "c") := by
      decide +kernel
    refine ⟨by decide +kernel, by unfold HasDotSegment; decide +kernel, fun query h => ?_⟩
    rw [hquery] at h
    obtain rfl : Text.ofString "c" = query := Option.some.inj h
    exact ⟨by decide +kernel, by decide +kernel⟩
  refine (spelled_disallow_denies_iff absolute_plain requotes_plain hsite htarget
    (same_origin_plain _ _ _ _) hliteral (fun normal h => ?_) hvalidated hrequested hbody
    hsize hdecode).mpr ?_
  · rw [hderived, hnormal] at h
    rw [← Option.some.inj h]
    decide +kernel
  · rw [hspelled]
    exact hkept

/-- An encoded slash in the query is decoded, so the rule that spells it allows the URL. -/
theorem encoded_query_allowed :
    spelledTarget (Text.ofString "https://example.com/?q=%2F") = Text.ofString "/?q=%2F" ∧
      LiteralTarget (Text.ofString "/?q=%2F") ∧ ¬ HasDotSegment (Text.ofString "/") ∧
      validateFetchedRobots (servedFile "User-agent: *\nDisallow: /?q=%2F") = .ok () ∧
      ∃ result, evaluateBoundRobots plainLibrary.toUrlLibrary (Text.ofString "https://example.com/")
          (Text.ofString "https://example.com/?q=%2F")
          (some (servedFile "User-agent: *\nDisallow: /?q=%2F")) none = .ok result ∧
        result.gateDecision.allowed = true := by
  have hspelled : spelledTarget (Text.ofString "https://example.com/?q=%2F") =
      Text.ofString "/?q=%2F" := by
    decide +kernel
  have hsite : normalizeUrl plainLibrary.toUrlLibrary (Text.ofString "https://example.com/") false
      none = .ok ⟨Text.ofString "https", some (Text.ofString "example.com"), Text.ofString "/",
        []⟩ := by
    decide +kernel
  have htarget : normalizeUrl plainLibrary.toUrlLibrary
      (Text.ofString "https://example.com/?q=%2F") false none =
        .ok ⟨Text.ofString "https", some (Text.ofString "example.com"), Text.ofString "/",
          Text.ofString "q=/"⟩ := by
    decide +kernel
  have hliteral : LiteralTarget (Text.ofString "/?q=%2F") := by
    refine ⟨⟨?_, ?_, ?_, ?_, ?_, ?_⟩, ?_, ?_, ?_⟩ <;> decide +kernel
  have hdot : ¬ HasDotSegment (Text.ofString "/") := by
    unfold HasDotSegment
    decide +kernel
  have hvalidated : validateFetchedRobots (servedFile "User-agent: *\nDisallow: /?q=%2F") =
      .ok () := by
    decide +kernel
  have hbody : (servedFile "User-agent: *\nDisallow: /?q=%2F").body =
      some "User-agent: *\nDisallow: /?q=%2F".toUTF8 := rfl
  have hrequested : (servedFile "User-agent: *\nDisallow: /?q=%2F").requestedSiteUrl =
      plainLibrary.toUrlLibrary.toText ⟨Text.ofString "https",
        some (Text.ofString "example.com"), Text.ofString "/", []⟩ := by
    decide +kernel
  have hsize : ("User-agent: *\nDisallow: /?q=%2F".toUTF8).size ≤ maxRobotsBytes := by
    decide +kernel
  have hdecode : Text.decodeUtf8 "User-agent: *\nDisallow: /?q=%2F".toUTF8 =
      some (disallowBody (Text.ofString "/?q=%2F")) := by
    decide +kernel
  have hderived : pathAndQuery plainLibrary.toUrlLibrary ⟨Text.ofString "https",
      some (Text.ofString "example.com"), Text.ofString "/", Text.ofString "q=/"⟩ =
        Text.ofString "/?q=/" := by
    decide +kernel
  -- The rule has the token of an encoded slash, the derived target that of a raw one.
  have htokens : Denotes (Text.ofString "/?q=%2F")
      [some 0x2F, some 0x3F, some 0x71, some 0x3D, some (256 + 0x2F)] :=
    ⟨Text.ofString "/?q=%2F", by decide +kernel⟩
  have hnormal : normalize false (Text.ofString "/?q=/") =
      some (Text.ofString "/?q=/", [some 0x2F, some 0x3F, some 0x71, some 0x3D, some 0x2F]) := by
    decide +kernel
  have hevaluates : (evaluateBoundRobots plainLibrary.toUrlLibrary
      (Text.ofString "https://example.com/") (Text.ofString "https://example.com/?q=%2F")
      (some (servedFile "User-agent: *\nDisallow: /?q=%2F")) none).map (fun _ => ()) = .ok () := by
    decide +kernel
  have hallowed := bound_disallow_iff absolute_plain hsite htarget (same_origin_plain _ _ _ _)
    hliteral (fun normal h => by
      rw [hderived, hnormal] at h
      rw [← Option.some.inj h]
      decide +kernel) hvalidated hrequested hbody hsize hdecode
  refine ⟨hspelled, hliteral, hdot, hvalidated, ?_⟩
  generalize evaluateBoundRobots plainLibrary.toUrlLibrary _ _ _ _ = evaluated
    at hevaluates hallowed ⊢
  cases evaluated with
  | error failure => cases hevaluates
  | ok result =>
      refine ⟨result, rfl, Bool.not_eq_false _ ▸ fun hfalse => ?_⟩
      obtain ⟨-, t, u, ht, hu, hprefix⟩ := hallowed.mp ⟨result, rfl, hfalse⟩
      rw [hderived] at hu
      rw [denotes_unique ht htokens, denotes_unique hu ⟨_, hnormal⟩] at hprefix
      exact absurd hprefix (by decide)

end GrowthOs.Robots
