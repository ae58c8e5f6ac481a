import GrowthOs.Robots.Grouping
import GrowthOs.Robots.Totality
import Mathlib.Algebra.GroupWithZero.Nat

/-!
# Rules that spell a target

A rule is normalized from the text of a robots file, a target from what the URL package made of the
caller's URL. They agree on a spelling exactly when requoting keeps each of its octets.
-/

namespace GrowthOs.Robots

open Library Acquisition

/-- A triplet is requoted by its octet. -/
theorem requote_triplet (quoter : Quoter) {high low : Nat} (hhigh : isHexDigit high = true)
    (hlow : isHexDigit low = true) (rest : Text) :
    requote quoter (0x25 :: high :: low :: rest) =
      quoter.octet (16 * hexValue high + hexValue low) ++ requote quoter rest := by
  rw [requote, if_pos ⟨rfl, hhigh, hlow⟩]

/-- Every other character by itself. -/
theorem requote_char (quoter : Quoter) {c : Nat} (hc : c ≠ 0x25) (rest : Text) :
    requote quoter (c :: rest) = quoter.char c ++ requote quoter rest := by
  match rest with
  | [] => rw [requote.eq_def]
  | [d] => rw [requote.eq_def]
  | d :: e :: tail => rw [requote, if_neg fun h => hc h.1]

/-- Requoting leaves the octet of a triplet what it is: it keeps the triplet, or the octet is
unreserved and spelled either way the same. -/
def keepsOctet (quoter : Quoter) (octet : Nat) : Bool :=
  isUnreserved octet || !(quoter.safe octet && !quoter.isProtected octet)

/-- Requoting leaves a character what it is: it encodes non-ASCII characters only, or those that are
unreserved and spelled either way the same. -/
def keepsChar (quoter : Quoter) (c : Nat) : Bool :=
  decide (0x80 ≤ c) || quoter.safe c || isUnreserved c

/-- Requoting changes no octet of the text. -/
def keepsSpelling (quoter : Quoter) : Text → Bool
  | [] => true
  | c :: high :: low :: rest =>
      if c = 0x25 ∧ isHexDigit high ∧ isHexDigit low then
        keepsOctet quoter (16 * hexValue high + hexValue low) && keepsSpelling quoter rest
      else keepsChar quoter c && keepsSpelling quoter (high :: low :: rest)
  | c :: rest => keepsChar quoter c && keepsSpelling quoter rest

/-- A spelling is kept where its first triplet is and the rest. -/
theorem keeps_spelling_triplet (quoter : Quoter) {high low : Nat} (hhigh : isHexDigit high = true)
    (hlow : isHexDigit low = true) (rest : Text) :
    keepsSpelling quoter (0x25 :: high :: low :: rest) =
      (keepsOctet quoter (16 * hexValue high + hexValue low) && keepsSpelling quoter rest) := by
  rw [keepsSpelling, if_pos ⟨rfl, hhigh, hlow⟩]

/-- The same for a character. -/
theorem keeps_spelling_char (quoter : Quoter) {c : Nat} (hc : c ≠ 0x25) (rest : Text) :
    keepsSpelling quoter (c :: rest) = (keepsChar quoter c && keepsSpelling quoter rest) := by
  match rest with
  | [] => rw [keepsSpelling.eq_def]
  | [d] => rw [keepsSpelling.eq_def]
  | d :: e :: tail => rw [keepsSpelling, if_neg fun h => hc h.1]

section Requote

variable {quoter : Quoter}

/-- What requoting makes of a triplet is well formed, and denotes one octet: the same exactly when
it is kept. -/
theorem requoted_octet {octet : Nat} (h : octet < 256) :
    wellFormedTriplets (quoter.octet octet) = true ∧
      ∃ token, Denotes (quoter.octet octet) [some token] ∧
        (token = octetToken octet ↔ keepsOctet quoter octet = true) := by
  unfold Quoter.octet keepsOctet octetToken
  by_cases hdecoded : (quoter.safe octet && !quoter.isProtected octet) = true
  · have hsafe : quoter.safe octet = true := (Bool.and_eq_true_iff.mp hdecoded).1
    obtain ⟨-, hascii, -, hpercent⟩ := quoter.safe_visible octet hsafe
    rw [if_pos hdecoded]
    refine ⟨well_formed_cons hpercent [], octet, ?_, ?_⟩
    · exact denotes_char hpercent (normalize_char_ascii (by omega)) denotes_nil
    · by_cases hunreserved : isUnreserved octet = true
      · simp [hunreserved]
      · simp [hunreserved, hdecoded]
  · rw [if_neg hdecoded]
    refine ⟨well_formed_percent_octet h, _, denotes_percent_octet h, iff_of_true rfl ?_⟩
    simp [Bool.not_eq_true _ ▸ hdecoded]

/-- What requoting makes of another character is well formed, and denotes as many octets as the
character: the same exactly when it is kept. -/
theorem requoted_char {c : Nat} {piece : Text × List Token} (hc : c ≠ 0x25) (hspace : c ≠ 0x20)
    (hpiece : normalizeChar false c = some piece) :
    wellFormedTriplets (quoter.char c) = true ∧
      ∃ tokens, Denotes (quoter.char c) tokens ∧ tokens.length = piece.2.length ∧
        (tokens = piece.2 ↔ keepsChar quoter c = true) := by
  unfold Quoter.char keepsChar
  rw [if_neg (by simp [hspace])]
  by_cases hsafe : (decide (c < 0x80) && quoter.safe c) = true
  · obtain ⟨hascii, hkept⟩ := Bool.and_eq_true_iff.mp hsafe
    rw [normalize_char_ascii (of_decide_eq_true hascii)] at hpiece
    cases hpiece
    rw [if_pos hsafe]
    exact ⟨well_formed_cons hc [], _,
      denotes_char hc (normalize_char_ascii (of_decide_eq_true hascii)) denotes_nil, rfl,
      iff_of_true rfl (by simp [hkept])⟩
  · rw [if_neg hsafe]
    by_cases hascii : c < 0x80
    · have hunsafe : quoter.safe c = false := by simpa [hascii] using hsafe
      have hencode : Text.encodeUtf8 c = some [c] := by
        cases hoctets : Text.encodeUtf8 c with
        | none => simp [Text.encodeUtf8] at hoctets; omega
        | some octets => rw [(encode_utf8_octets hoctets).2.1 hascii]
      rw [normalize_char_ascii hascii] at hpiece
      cases hpiece
      rw [hencode]
      have hoctet : ∀ octet ∈ [c], octet < 256 := by simp; omega
      refine ⟨well_formed_percent_octets hoctet, _, denotes_percent_octets hoctet, rfl, ?_⟩
      unfold octetToken
      by_cases hunreserved : isUnreserved c = true
      · simp [hunreserved]
      · simp [hunreserved, hunsafe, hascii]
    · unfold normalizeChar at hpiece
      rw [if_neg (by simp), if_neg hascii] at hpiece
      obtain ⟨octets, hoctets, rfl⟩ := Option.map_eq_some_iff.mp hpiece
      obtain ⟨hrange, -, hreserved⟩ := encode_utf8_octets hoctets
      rw [hoctets]
      refine ⟨well_formed_percent_octets hrange, _, denotes_percent_octets hrange, by simp, ?_⟩
      refine iff_of_true (List.map_congr_left fun octet hoctet => ?_) (by simp; omega)
      rw [octetToken, hreserved (by omega) octet hoctet]
      rfl

/-- Requoting makes a well-formed text of as many octets, and the same octets exactly when it keeps
the spelling. -/
theorem requote_denotes {s : Text} {tokens : List Token} (hspace : 0x20 ∉ s)
    (hwell : wellFormedTriplets s = true) (h : Denotes s tokens) :
    wellFormedTriplets (requote quoter s) = true ∧
      ∃ tokens', Denotes (requote quoter s) tokens' ∧ tokens'.length = tokens.length ∧
        (tokens' = tokens ↔ keepsSpelling quoter s = true) := by
  induction s, hwell using well_formed_induction generalizing tokens with
  | nil =>
      rw [denotes_unique h denotes_nil]
      exact ⟨rfl, [], denotes_nil, rfl, iff_of_true rfl rfl⟩
  | triplet high low rest hhigh hlow hrest ih =>
      obtain ⟨normalized, h⟩ := h
      rw [normalize_triplet false hhigh hlow] at h
      obtain ⟨result, hresult, heq⟩ := Option.map_eq_some_iff.mp h
      cases heq
      obtain ⟨hwell', tokens', htokens', hlength, hkept⟩ :=
        ih (fun hmem => hspace (by simp [hmem])) ⟨_, hresult⟩
      have hoctet : 16 * hexValue high + hexValue low < 256 := by
        have hhigh' := hex_value_lt hhigh
        have hlow' := hex_value_lt hlow
        omega
      obtain ⟨hpiece, token, htoken, hkeeps⟩ := requoted_octet hoctet
      rw [requote_triplet quoter hhigh hlow, keeps_spelling_triplet quoter hhigh hlow,
        well_formed_append hpiece]
      refine ⟨hwell', _, denotes_append hpiece htoken htokens', by simpa using hlength, ?_⟩
      rw [Bool.and_eq_true, ← hkeeps, ← hkept]
      simp
  | char c rest hc hrest ih =>
      obtain ⟨normalized, h⟩ := h
      rw [normalize_char false hc] at h
      obtain ⟨piece, hpiece, h⟩ := Option.bind_eq_some_iff.mp h
      obtain ⟨result, hresult, heq⟩ := Option.map_eq_some_iff.mp h
      cases heq
      rw [List.mem_cons, not_or] at hspace
      obtain ⟨hwell', tokens', htokens', hlength, hkept⟩ := ih hspace.2 ⟨_, hresult⟩
      obtain ⟨hchar, front, hfront, hfrontLength, hkeeps⟩ :=
        requoted_char hc (Ne.symm hspace.1) hpiece
      rw [requote_char quoter hc, keeps_spelling_char quoter hc, well_formed_append hchar]
      refine ⟨hwell', _, denotes_append hchar hfront htokens', by simp [hlength, hfrontLength], ?_⟩
      rw [Bool.and_eq_true, ← hkeeps, ← hkept]
      refine ⟨fun heq => List.append_inj heq hfrontLength, fun heq => ?_⟩
      rw [heq.1, heq.2]

/-- What is requoted has complete triplets. -/
theorem requote_well_formed {s : Text} (hspace : 0x20 ∉ s)
    (hscalar : ∀ c ∈ s, ¬(0xD800 ≤ c ∧ c ≤ 0xDFFF)) (hwell : wellFormedTriplets s = true) :
    wellFormedTriplets (requote quoter s) = true := by
  obtain ⟨tokens, htokens⟩ := denotes_is_some hscalar hwell
  exact (requote_denotes hspace hwell htokens).1

/-- A triplet is made of visible ASCII characters. -/
theorem percent_octet_visible {octet : Nat} (h : octet < 256) :
    ∀ c ∈ percentOctet octet, 0x20 < c ∧ c < 0x7F ∧ c ≠ 0x23 := by
  have hdigit : ∀ n < 16, 0x20 < hexDigit n ∧ hexDigit n < 0x7F ∧ hexDigit n ≠ 0x23 := by decide
  intro c hc
  unfold percentOctet at hc
  simp only [List.mem_cons, List.not_mem_nil, or_false] at hc
  rcases hc with rfl | rfl | rfl
  · omega
  · exact hdigit (octet / 16) (by omega)
  · exact hdigit (octet % 16) (by omega)

/-- Requoting leaves visible characters only, and no `#`. -/
theorem requote_visible {s : Text} (hwell : wellFormedTriplets s = true) :
    ∀ c ∈ requote quoter s, 0x20 < c ∧ c < 0x7F ∧ c ≠ 0x23 := by
  have hsafe : ∀ {c : Nat}, quoter.safe c = true → 0x20 < c ∧ c < 0x7F ∧ c ≠ 0x23 := by
    intro c hc
    obtain ⟨hlow, hhigh, hhash, -⟩ := quoter.safe_visible c hc
    exact ⟨hlow, hhigh, hhash⟩
  induction s, hwell using well_formed_induction with
  | nil => nofun
  | triplet high low rest hhigh hlow hrest ih =>
      intro c hc
      rw [requote_triplet quoter hhigh hlow, List.mem_append] at hc
      rcases hc with hc | hc
      · unfold Quoter.octet at hc
        split at hc
        · rename_i hdecoded
          rw [List.mem_singleton.mp hc]
          exact hsafe (Bool.and_eq_true_iff.mp hdecoded).1
        · have hhigh' := hex_value_lt hhigh
          have hlow' := hex_value_lt hlow
          exact percent_octet_visible (by omega) c hc
      · exact ih c hc
  | char d rest hd hrest ih =>
      intro c hc
      rw [requote_char quoter hd, List.mem_append] at hc
      rcases hc with hc | hc
      · unfold Quoter.char at hc
        split at hc
        · rw [List.mem_singleton.mp hc]
          omega
        · split at hc
          · rename_i hkept
            rw [List.mem_singleton.mp hc]
            exact hsafe (Bool.and_eq_true_iff.mp hkept).2
          · cases hoctets : Text.encodeUtf8 d with
            | none => simp [hoctets] at hc
            | some octets =>
                rw [hoctets] at hc
                obtain ⟨octet, hoctet, hc⟩ := List.mem_flatMap.mp hc
                exact percent_octet_visible ((encode_utf8_octets hoctets).1 octet hoctet) c hc
      · exact ih c hc

end Requote

/-- A requoted path starts with a slash that the path has. -/
theorem requote_slash (rest : Text) :
    requote pathQuoter (0x2F :: rest) = 0x2F :: requote pathQuoter rest := by
  rw [requote_char pathQuoter (by decide)]
  rfl

/-- A path that starts with a slash after requoting did before. -/
theorem requote_head {s : Text} (hscalar : ∀ c ∈ s, ¬(0xD800 ≤ c ∧ c ≤ 0xDFFF))
    (hwell : wellFormedTriplets s = true)
    (h : (requote pathQuoter s).head? = some 0x2F) : s.head? = some 0x2F := by
  match s with
  | [] => cases h
  | c :: rest =>
      rcases well_formed_cases hwell with ⟨high, low, tail, rfl, rfl, hhigh, hlow, -⟩ | ⟨hc, -⟩
      · rw [requote_triplet pathQuoter hhigh hlow] at h
        unfold Quoter.octet at h
        split at h
        · rename_i hdecoded
          have hslash : 16 * hexValue high + hexValue low = 0x2F := by simpa using h
          rw [hslash] at hdecoded
          exact absurd hdecoded (by decide +kernel)
        · cases h
      · rw [requote_char pathQuoter hc] at h
        unfold Quoter.char at h
        rw [show pathQuoter.spaceAsPlus = false from rfl, Bool.false_and, if_neg Bool.false_ne_true]
          at h
        split at h
        · exact h
        · obtain ⟨octet, octets, hoctets⟩ := encode_utf8_ne_nil (hscalar c List.mem_cons_self)
          rw [hoctets] at h
          cases h

/-! ## Dot segments -/

/-- A dot segment. -/
def IsDotSegment (segment : Text) : Prop :=
  segment = Text.ofString "." ∨ segment = Text.ofString ".."

instance (segment : Text) : Decidable (IsDotSegment segment) :=
  inferInstanceAs (Decidable (_ ∨ _))

/-- The segments of a path, each behind its slash. -/
def joinSegments (segments : List Text) : Text := segments.flatMap fun segment => 0x2F :: segment

/-- Segments are joined behind a slash. -/
theorem join_segments_eq {segments : List Text} (h : segments ≠ []) :
    0x2F :: List.intercalate [0x2F] segments = joinSegments segments := by
  induction segments with
  | nil => exact absurd rfl h
  | cons segment rest ih =>
      match rest with
      | [] => simp [joinSegments, List.intercalate]
      | next :: rest =>
          rw [List.intercalate_cons_cons]
          have hrest := ih (by simp)
          show 0x2F :: (segment ++ [0x2F] ++ List.intercalate [0x2F] (next :: rest)) =
            0x2F :: segment ++ joinSegments (next :: rest)
          rw [← hrest]
          simp

/-- A path is joined from its segments. -/
theorem split_segments (rest : Text) :
    joinSegments (rest.splitOn 0x2F) = 0x2F :: rest := by
  rw [← join_segments_eq (List.splitOn_ne_nil 0x2F rest), List.intercalate_splitOn]

/-- The number of octets of a segment. -/
def octetCount (s : Text) : Nat := ((normalize false s).map fun result => result.2.length).getD 0

/-- The number of octets of segments behind their slashes. -/
def segmentsCount (segments : List Text) : Nat :=
  (segments.map fun segment => octetCount segment + 1).sum

/-- The octets that a text denotes, counted. -/
theorem octet_count_eq {s : Text} {tokens : List Token} (h : Denotes s tokens) :
    octetCount s = tokens.length := by
  obtain ⟨normalized, h⟩ := h
  unfold octetCount
  rw [h]
  rfl

/-- A triplet has no separator in it. -/
theorem well_formed_before {sep : Nat} (hsep : isHexDigit sep = false) {s t : Text}
    (h : wellFormedTriplets (s ++ sep :: t) = true) : wellFormedTriplets s = true := by
  induction s with
  | nil => rfl
  | cons c rest ih =>
      rw [List.cons_append] at h
      rcases well_formed_cases h with
        ⟨high, low, tail, rfl, hrest, hhigh, hlow, htail⟩ | ⟨hc, hrest⟩
      · match rest with
        | [] =>
            obtain ⟨rfl, -⟩ := List.cons.inj hrest
            rw [hsep] at hhigh
            cases hhigh
        | [d] =>
            obtain ⟨-, hrest⟩ := List.cons.inj hrest
            obtain ⟨rfl, -⟩ := List.cons.inj hrest
            rw [hsep] at hlow
            cases hlow
        | d :: e :: rest =>
            simp only [List.cons_append, List.cons.injEq] at hrest
            obtain ⟨rfl, rfl, rfl⟩ := hrest
            have hwell : wellFormedTriplets (d :: e :: rest) = true := by
              refine ih ?_
              rw [List.cons_append, List.cons_append, well_formed_cons (hex_digit_ne hhigh),
                well_formed_cons (hex_digit_ne hlow)]
              exact htail
            rw [well_formed_cons (hex_digit_ne hhigh), well_formed_cons (hex_digit_ne hlow)]
              at hwell
            exact well_formed_triplet hhigh hlow hwell
      · rw [well_formed_cons hc]
        exact ih hrest

/-- The segments of a well-formed path are well formed. -/
theorem well_formed_segments {segments : List Text}
    (h : wellFormedTriplets (joinSegments segments) = true) :
    ∀ segment ∈ segments, wellFormedTriplets segment = true := by
  induction segments with
  | nil => nofun
  | cons segment rest ih =>
      have hsegment : wellFormedTriplets segment = true := by
        match rest with
        | [] =>
            have hlast : wellFormedTriplets (0x2F :: segment) = true := by
              simpa [joinSegments] using h
            rwa [well_formed_cons (by decide)] at hlast
        | next :: rest =>
            have hfirst : wellFormedTriplets (0x2F :: (segment ++ 0x2F :: (next ++
                joinSegments rest))) = true := by
              simpa [joinSegments] using h
            rw [well_formed_cons (by decide)] at hfirst
            exact well_formed_before (by decide) hfirst
      have hrest : wellFormedTriplets (joinSegments rest) = true := by
        have hjoin : joinSegments (segment :: rest) = 0x2F :: (segment ++ joinSegments rest) := rfl
        rwa [hjoin, well_formed_cons (by decide), well_formed_append hsegment] at h
      intro other hother
      rcases List.mem_cons.mp hother with rfl | hother
      · exact hsegment
      · exact ih hrest other hother

/-- Joined segments denote what their parts do. -/
theorem denotes_segments {segments : List Text}
    (h : ∀ segment ∈ segments, wellFormedTriplets segment = true ∧
      ∃ tokens, Denotes segment tokens) :
    wellFormedTriplets (joinSegments segments) = true ∧
      ∃ tokens, Denotes (joinSegments segments) tokens ∧
        tokens.length = segmentsCount segments := by
  induction segments with
  | nil => exact ⟨rfl, [], denotes_nil, rfl⟩
  | cons segment rest ih =>
      obtain ⟨hwell, front, hfront⟩ := h segment List.mem_cons_self
      obtain ⟨hrest, tokens, htokens, hlength⟩ :=
        ih fun other hother => h other (List.mem_cons_of_mem _ hother)
      have hjoin : joinSegments (segment :: rest) = 0x2F :: (segment ++ joinSegments rest) := rfl
      refine ⟨?_, _, denotes_char (by decide) (normalize_char_ascii (by decide))
        (denotes_append hwell hfront htokens), ?_⟩
      · rwa [hjoin, well_formed_cons (by decide), well_formed_append hwell]
      simp only [segmentsCount, List.map_cons, List.sum_cons, octet_count_eq hfront,
        List.length_append, hlength, List.length_singleton]
      omega

/-- Their octets add up. -/
theorem segments_count_append (segments segments' : List Text) :
    segmentsCount (segments ++ segments') = segmentsCount segments + segmentsCount segments' := by
  simp [segmentsCount]

/-- A segment less has no more octets. -/
theorem segments_count_drop_last (segments : List Text) :
    segmentsCount segments.dropLast ≤ segmentsCount segments := by
  rcases List.eq_nil_or_concat segments with rfl | ⟨front, last, rfl⟩
  · exact Nat.le_refl _
  · rw [List.concat_eq_append, List.dropLast_concat, segments_count_append]
    omega

/-- A dot segment has an octet. -/
theorem dot_segment_count {segment : Text} (h : IsDotSegment segment) : 1 ≤ octetCount segment := by
  rcases h with rfl | rfl
  · decide +kernel
  · decide +kernel

/-- One segment: a dot segment is lost with its octets, any other is kept. -/
theorem add_segment_count (resolved : List Text) (segment : Text) :
    segmentsCount (addSegment resolved segment) + (if IsDotSegment segment then 2 else 0) ≤
      segmentsCount resolved + segmentsCount [segment] := by
  have hsegment : segmentsCount [segment] = octetCount segment + 1 := rfl
  unfold addSegment
  by_cases hparent : segment = Text.ofString ".."
  · have hdot : IsDotSegment segment := Or.inr hparent
    have hcount := dot_segment_count hdot
    have hdropped := segments_count_drop_last resolved
    rw [if_pos hparent, if_pos hdot]
    omega
  · by_cases hself : segment = Text.ofString "."
    · have hdot : IsDotSegment segment := Or.inl hself
      have hcount := dot_segment_count hdot
      rw [if_neg hparent, if_pos hself, if_pos hdot]
      omega
    · have hplain : ¬ IsDotSegment segment := fun hdot => hdot.elim hself hparent
      rw [if_neg hparent, if_neg hself, if_neg hplain, segments_count_append]
      omega

/-- A resolved dot segment costs at least two octets. -/
theorem foldl_add_segment_count (segments resolved : List Text) :
    segmentsCount (segments.foldl addSegment resolved) +
        (if ∃ segment ∈ segments, IsDotSegment segment then 2 else 0) ≤
      segmentsCount resolved + segmentsCount segments := by
  induction segments generalizing resolved with
  | nil => simp [segmentsCount]
  | cons segment rest ih =>
      have hstep := add_segment_count resolved segment
      have hrest := ih (addSegment resolved segment)
      have hcons : segmentsCount (segment :: rest) = segmentsCount [segment] + segmentsCount rest :=
        segments_count_append [segment] rest
      rw [List.foldl_cons, hcons]
      by_cases hdot : IsDotSegment segment
      · rw [if_pos hdot] at hstep
        rw [if_pos ⟨segment, List.mem_cons_self, hdot⟩]
        omega
      · rw [if_neg hdot] at hstep
        simp only [List.mem_cons, exists_eq_or_imp, hdot, false_or]
        omega

/-- Resolution invents no segment. -/
theorem mem_foldl_add_segment (segments resolved : List Text) :
    ∀ segment ∈ segments.foldl addSegment resolved, segment ∈ resolved ∨ segment ∈ segments := by
  induction segments generalizing resolved with
  | nil => exact fun segment hsegment => Or.inl hsegment
  | cons next rest ih =>
      intro segment hsegment
      rcases ih (addSegment resolved next) segment hsegment with hmem | hmem
      · unfold addSegment at hmem
        split at hmem
        · exact Or.inl (List.dropLast_subset resolved hmem)
        · split at hmem
          · exact Or.inl hmem
          · rcases List.mem_append.mp hmem with hmem | hmem
            · exact Or.inl hmem
            · exact Or.inr (List.mem_cons.mpr (Or.inl (List.mem_singleton.mp hmem)))
      · exact Or.inr (List.mem_cons_of_mem next hmem)

/-- Without dot segments all are kept. -/
theorem foldl_add_segment_plain {segments : List Text}
    (h : ∀ segment ∈ segments, ¬ IsDotSegment segment) (resolved : List Text) :
    segments.foldl addSegment resolved = resolved ++ segments := by
  induction segments generalizing resolved with
  | nil => rw [List.foldl_nil, List.append_nil]
  | cons segment rest ih =>
      have hplain := h segment List.mem_cons_self
      rw [List.foldl_cons, ih fun other hother => h other (List.mem_cons_of_mem segment hother)]
      unfold addSegment
      rw [if_neg fun heq => hplain (Or.inr heq), if_neg fun heq => hplain (Or.inl heq),
        List.append_assoc]
      rfl

/-- The last segment is a dot segment. -/
theorem last_dot_iff (segments : List Text) :
    (segments.getLast?.any fun last => decide (last = Text.ofString "." ∨
      last = Text.ofString "..")) = true ↔ ∃ segment ∈ segments.getLast?, IsDotSegment segment := by
  simp [Option.any_eq_true, IsDotSegment]

/-- Such segments stay as they are. -/
theorem normalize_segments_plain {segments : List Text}
    (h : ∀ segment ∈ segments, ¬ IsDotSegment segment) : normalizeSegments segments = segments := by
  unfold normalizeSegments
  rw [foldl_add_segment_plain h, if_neg, List.nil_append]
  rw [last_dot_iff]
  exact fun ⟨segment, hlast, hdot⟩ => h segment (List.mem_of_getLast? hlast) hdot

/-- A path keeps at least one segment. -/
theorem normalize_segments_ne_nil {segments : List Text} (h : segments ≠ []) :
    normalizeSegments segments ≠ [] := by
  unfold normalizeSegments
  split
  · simp
  · rename_i hlast
    rw [last_dot_iff] at hlast
    rcases List.eq_nil_or_concat segments with rfl | ⟨front, last, rfl⟩
    · exact absurd rfl h
    · rw [List.concat_eq_append] at hlast ⊢
      have hplain : ¬ IsDotSegment last := fun hdot => hlast ⟨last, by simp, hdot⟩
      rw [List.foldl_append, List.foldl_cons, List.foldl_nil]
      unfold addSegment
      rw [if_neg fun heq => hplain (Or.inr heq), if_neg fun heq => hplain (Or.inl heq)]
      simp

/-- Removing dot segments removes octets. -/
theorem normalize_segments_count {segments : List Text}
    (h : ∃ segment ∈ segments, IsDotSegment segment) :
    segmentsCount (normalizeSegments segments) < segmentsCount segments := by
  have hcount := foldl_add_segment_count segments []
  rw [if_pos h] at hcount
  have hempty : segmentsCount [] = 0 := rfl
  have hlast : segmentsCount [[]] = 1 := rfl
  unfold normalizeSegments
  dsimp only
  split
  · rw [segments_count_append]
    omega
  · omega

/-- A normalized segment is empty or one of them. -/
theorem mem_normalize_segments {segments : List Text} :
    ∀ segment ∈ normalizeSegments segments, segment = [] ∨ segment ∈ segments := by
  intro segment hsegment
  unfold normalizeSegments at hsegment
  split at hsegment
  · rcases List.mem_append.mp hsegment with hmem | hmem
    · exact Or.inr ((mem_foldl_add_segment segments [] segment hmem).resolve_left List.not_mem_nil)
    · exact Or.inl (List.mem_singleton.mp hmem)
  · exact Or.inr ((mem_foldl_add_segment segments
      [] segment hsegment).resolve_left List.not_mem_nil)

/-- A path is normalized by its segments. -/
theorem normalize_path_eq (rest : Text) :
    normalizePath (0x2F :: rest) = joinSegments (normalizeSegments (rest.splitOn 0x2F)) := by
  rw [normalizePath, if_pos rfl,
    join_segments_eq (normalize_segments_ne_nil (List.splitOn_ne_nil 0x2F rest))]

/-- A dot segment of the path. -/
def HasDotSegment (path : Text) : Prop := ∃ segment ∈ path.tail.splitOn 0x2F, IsDotSegment segment

/-- Without dot segments it stays as it is. -/
theorem normalize_path_plain {rest : Text} (h : ¬ HasDotSegment (0x2F :: rest)) :
    normalizePath (0x2F :: rest) = 0x2F :: rest := by
  have hplain : ∀ segment ∈ rest.splitOn 0x2F, ¬ IsDotSegment segment :=
    fun segment hsegment hdot => h ⟨segment, hsegment, hdot⟩
  rw [normalize_path_eq, normalize_segments_plain hplain, split_segments]

/-- The path without its dot segments denotes fewer octets. -/
theorem normalize_path_shorter {rest : Text} {tokens : List Token}
    (h : HasDotSegment (0x2F :: rest)) (hascii : ∀ c ∈ rest, c < 0x80)
    (hwell : wellFormedTriplets (0x2F :: rest) = true)
    (htokens : Denotes (0x2F :: rest) tokens) :
    wellFormedTriplets (normalizePath (0x2F :: rest)) = true ∧
      ∃ tokens', Denotes (normalizePath (0x2F :: rest)) tokens' ∧
        tokens'.length < tokens.length := by
  rw [← split_segments rest] at hwell htokens
  have hsegments : ∀ segment ∈ rest.splitOn 0x2F,
      wellFormedTriplets segment = true ∧ ∃ tokens, Denotes segment tokens := by
    intro segment hsegment
    have hsegmentWell := well_formed_segments hwell segment hsegment
    refine ⟨hsegmentWell, denotes_is_some (fun c hc => ?_) hsegmentWell⟩
    have hmem : c ∈ 0x2F :: rest := by
      rw [← split_segments rest]
      exact List.mem_flatMap.mpr ⟨segment, hsegment, List.mem_cons_of_mem _ hc⟩
    have hlow : c < 0x80 := by
      rcases List.mem_cons.mp hmem with rfl | hmem
      · omega
      · exact hascii c hmem
    omega
  have hkept : ∀ segment ∈ normalizeSegments (rest.splitOn 0x2F),
      wellFormedTriplets segment = true ∧ ∃ tokens, Denotes segment tokens := by
    intro segment hsegment
    rcases mem_normalize_segments segment hsegment with rfl | hmem
    · exact ⟨rfl, [], denotes_nil⟩
    · exact hsegments segment hmem
  obtain ⟨-, all, hall, hallLength⟩ := denotes_segments hsegments
  obtain ⟨hkeptWell, kept, hkeptTokens, hkeptLength⟩ := denotes_segments hkept
  rw [normalize_path_eq]
  refine ⟨hkeptWell, kept, hkeptTokens, ?_⟩
  rw [denotes_unique htokens hall, hallLength, hkeptLength]
  exact normalize_segments_count h

end GrowthOs.Robots
