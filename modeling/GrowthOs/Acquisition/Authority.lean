import GrowthOs.Acquisition.PlainUrl

/-!
# The authority of a reference

`_raw_authority` looks for `://` anywhere in the text, RFC 3986 for a scheme in front of it. The two
agree exactly on the references that do not carry another URL as data.
-/

namespace GrowthOs.Acquisition

open Library

/-- `://`. -/
def schemeSeparator : Text := [0x3A, 0x2F, 0x2F]

/-- A letter, and then letters, digits, `+`, `-` and `.`. -/
def IsScheme (scheme : Text) : Prop :=
  (∃ c ∈ scheme.head?, isAlnum c = true ∧ ¬(0x30 ≤ c ∧ c ≤ 0x39)) ∧
    ∀ c ∈ scheme, isAlnum c = true ∨ c = 0x2B ∨ c = 0x2D ∨ c = 0x2E

instance (scheme : Text) : Decidable (IsScheme scheme) := by
  unfold IsScheme
  infer_instance

/-- The text up to the path, the query or the fragment. -/
def authorityText (s : Text) : Text := s.takeWhile fun c => !(c == 0x2F || c == 0x3F || c == 0x23)

/-- The authority component of a URL reference. -/
def authorityComponent (reference : Text) : Option Text :=
  if reference.take 2 = [0x2F, 0x2F] then some (authorityText (reference.drop 2))
  else
    match Text.splitFirst 0x3A reference with
    | (scheme, some rest) =>
        if IsScheme scheme ∧ rest.take 2 = [0x2F, 0x2F] then some (authorityText (rest.drop 2))
        else none
    | (_, none) => none

/-- The reference has an authority: it starts with `//`, or with a scheme and `://`. -/
def HasAuthority (reference : Text) : Prop :=
  (∃ rest, reference = [0x2F, 0x2F] ++ rest) ∨
    ∃ scheme rest, IsScheme scheme ∧ reference = scheme ++ schemeSeparator ++ rest

/-- The text contains `://`. -/
def ContainsSeparator (s : Text) : Prop := ∃ before rest, s = before ++ schemeSeparator ++ rest

/-- `normalize_url`, where the checks of user information and port look at this authority. -/
def normalizeReference (lib : UrlLibrary) (authority : Option Text) (rawUrl : Text)
    (redirect : Bool) (base : Option lib.Url) : Except TransportFailure lib.Url := do
  let code := if redirect then TransportCode.invalidRedirect else .invalidUrl
  if (authority.bind rawExplicitPort).any fun rawPort => !isAllowedPortText rawPort then
    throw (.transportError .disallowedPort)
  let target ← guarded code (lib.parse rawUrl)
  let parsed ← match base with
    | none => pure target
    | some base => guarded code (lib.join base target)
  normalizeParsed lib code authority parsed

/-- `_raw_authority` finds an authority exactly where there is one, and `normalize_url` rejects no
user information and no port outside of it. -/
def ReadsAuthority (lib : UrlLibrary) (reference : Text) : Prop :=
  ((rawAuthority reference).isSome = true ↔ HasAuthority reference) ∧
    ∀ redirect base, normalizeUrl lib reference redirect base =
      normalizeReference lib (authorityComponent reference) reference redirect base

/-! ## The two parsers -/

/-- The reference starts with two slashes. -/
theorem take_two_slashes {s : Text} :
    s.take 2 = [0x2F, 0x2F] ↔ ∃ rest, s = [0x2F, 0x2F] ++ rest := by
  constructor
  · exact fun h => ⟨s.drop 2, by rw [← h, List.take_append_drop]⟩
  · rintro ⟨rest, rfl⟩
    rfl

/-- The separator is at this index. -/
theorem separator_at_iff {s : Text} {index : Nat} :
    (s.drop index).take 3 = schemeSeparator ↔
    ∃ rest, s = s.take index ++ schemeSeparator ++ rest := by
  constructor
  · intro h
    refine ⟨(s.drop index).drop 3, ?_⟩
    rw [← h, List.append_assoc, List.take_append_drop, List.take_append_drop]
  · rintro ⟨rest, h⟩
    have hdrop : s.drop index = schemeSeparator ++ rest := by
      have hsplit := (List.take_append_drop index s).trans h
      rw [List.append_assoc] at hsplit
      exact List.append_cancel_left hsplit
    rw [hdrop]
    rfl

/-- The search for the separator of the scheme. -/
theorem find_separator_is_some {s : Text} :
    (findFrom schemeSeparator 0 s).isSome = true ↔ ContainsSeparator s := by
  unfold findFrom
  rw [List.find?_isSome]
  constructor
  · rintro ⟨index, -, h⟩
    rw [Bool.and_eq_true, beq_iff_eq] at h
    obtain ⟨rest, hrest⟩ := separator_at_iff.mp h.2
    exact ⟨s.take index, rest, hrest⟩
  · rintro ⟨before, rest, rfl⟩
    refine ⟨before.length, ?_, ?_⟩
    · rw [List.mem_range, List.length_append, List.length_append]
      omega
    · rw [List.append_assoc, List.drop_left]
      rfl

/-- Behind a text without a colon, the separator is the first one. -/
theorem find_separator_scheme {scheme rest : Text} (h : 0x3A ∉ scheme) :
    findFrom schemeSeparator 0 (scheme ++ schemeSeparator ++ rest) = some scheme.length := by
  unfold findFrom
  rw [List.find?_range_eq_some]
  refine ⟨?_, ?_, fun index hindex => ?_⟩
  · rw [List.append_assoc, List.drop_left]
    rfl
  · rw [List.mem_range, List.length_append, List.length_append]
    omega
  · have hne : scheme[index] ≠ 0x3A := fun heq => h (heq ▸ List.getElem_mem hindex)
    have hdrop : (scheme ++ schemeSeparator ++ rest).drop index =
        scheme[index] :: (scheme.drop (index + 1) ++ (schemeSeparator ++ rest)) := by
      rw [List.append_assoc, List.drop_append_of_le_length (Nat.le_of_lt hindex),
        List.drop_eq_getElem_cons hindex, List.cons_append]
    have hother : (scheme[index] :: (scheme.drop (index + 1) ++ (schemeSeparator ++ rest))).take 3 ≠
        schemeSeparator := fun heq => hne (List.head_eq_of_cons_eq heq)
    rw [hdrop]
    show (!(decide (0 ≤ index) && (List.take 3 _ == schemeSeparator))) = true
    rw [beq_false_of_ne hother, Bool.and_false]
    rfl

/-- `_raw_authority` finds something after `//` in front or `://` anywhere. -/
theorem raw_authority_is_some {reference : Text} : (rawAuthority reference).isSome = true ↔
    (∃ rest, reference = [0x2F, 0x2F] ++ rest) ∨ ContainsSeparator reference := by
  unfold rawAuthority
  dsimp only
  rw [Option.isSome_map]
  split
  · rename_i hslashes
    exact iff_of_true rfl (.inl (take_two_slashes.mp hslashes))
  · rename_i hslashes
    rw [Option.isSome_map]
    refine find_separator_is_some.trans ⟨.inr, fun h => h.resolve_left fun hrest => ?_⟩
    exact hslashes (take_two_slashes.mpr hrest)

/-- A scheme has no colon. -/
theorem scheme_no_colon {scheme : Text} (h : IsScheme scheme) : 0x3A ∉ scheme := fun hmem => by
  have hchar := h.2 0x3A hmem
  revert hchar
  decide

/-- A reference with an authority starts with two slashes or contains the separator. -/
theorem contains_of_has_authority {reference : Text} (h : HasAuthority reference) :
    (∃ rest, reference = [0x2F, 0x2F] ++ rest) ∨ ContainsSeparator reference := by
  rcases h with h | ⟨scheme, rest, -, hreference⟩
  · exact .inl h
  · exact .inr ⟨scheme, rest, hreference⟩

/-- Where there is an authority, both parsers read the same text. -/
theorem raw_authority_of_has_authority {reference : Text} (h : HasAuthority reference) :
    rawAuthority reference = authorityComponent reference := by
  unfold rawAuthority authorityComponent
  by_cases hslashes : reference.take 2 = [0x2F, 0x2F]
  · rw [if_pos hslashes, if_pos hslashes]
    rfl
  · rw [if_neg hslashes, if_neg hslashes]
    rcases h with hrest | ⟨scheme, rest, hscheme, rfl⟩
    · exact absurd (take_two_slashes.mpr hrest) hslashes
    · have hfind : findFrom (Text.ofString "://") 0 (scheme ++ schemeSeparator ++ rest) =
          some scheme.length := find_separator_scheme (scheme_no_colon hscheme)
      have hsplit : Text.splitFirst 0x3A (scheme ++ schemeSeparator ++ rest) =
          (scheme, some ([0x2F, 0x2F] ++ rest)) := by
        rw [List.append_assoc]
        exact Text.split_first_append _ (scheme_no_colon hscheme)
      have hdrop : (scheme ++ schemeSeparator ++ rest).drop (scheme.length + 3) = rest := by
        have hlength : (scheme ++ schemeSeparator).length = scheme.length + 3 := by
          rw [List.length_append]
          rfl
        rw [← hlength, List.drop_left]
      rw [hfind, hsplit]
      show some (authorityText ((scheme ++ schemeSeparator ++ rest).drop (scheme.length + 3))) =
        if IsScheme scheme ∧ ([0x2F, 0x2F] ++ rest).take 2 = [0x2F, 0x2F] then some _ else none
      rw [hdrop, if_pos ⟨hscheme, rfl⟩]
      rfl

/-- The authority component is found exactly when there is one. -/
theorem authority_component_is_some {reference : Text} :
    (authorityComponent reference).isSome = true ↔ HasAuthority reference := by
  constructor
  · intro h
    unfold authorityComponent at h
    split at h
    · rename_i hslashes
      exact .inl (take_two_slashes.mp hslashes)
    · have hjoin := Text.split_first_join 0x3A reference
      generalize Text.splitFirst 0x3A reference = split at h hjoin
      obtain ⟨scheme, rest⟩ := split
      cases rest with
      | none => cases h
      | some rest =>
          dsimp only at h
          split at h
          · rename_i hscheme
            obtain ⟨tail, rfl⟩ := take_two_slashes.mp hscheme.2
            refine .inr ⟨scheme, tail, hscheme.1, ?_⟩
            rw [hjoin, List.append_assoc]
            rfl
          · cases h
  · intro h
    rw [← raw_authority_of_has_authority h, raw_authority_is_some]
    exact contains_of_has_authority h

/-- `normalize_url` depends on the raw authority and the reference. -/
theorem normalize_url_reference (lib : UrlLibrary) (rawUrl : Text) (redirect : Bool)
    (base : Option lib.Url) : normalizeUrl lib rawUrl redirect base =
      normalizeReference lib (rawAuthority rawUrl) rawUrl redirect base :=
  normalize_url_eq lib rawUrl redirect base

/-- `normalize_url` reads the authority of a reference as RFC 3986 does exactly when the reference
has one or contains no `://` at all. -/
theorem reads_authority_iff (lib : UrlLibrary) (reference : Text) :
    ReadsAuthority lib reference ↔ HasAuthority reference ∨ ¬ ContainsSeparator reference := by
  constructor
  · intro h
    by_cases hauthority : HasAuthority reference
    · exact .inl hauthority
    · refine .inr fun hcontains => hauthority (h.1.mp ?_)
      exact raw_authority_is_some.mpr (.inr hcontains)
  · intro h
    have hiff : (rawAuthority reference).isSome = true ↔ HasAuthority reference := by
      rw [raw_authority_is_some]
      refine ⟨fun hfound => ?_, contains_of_has_authority⟩
      rcases h with hauthority | hnone
      · exact hauthority
      · exact .inl (hfound.resolve_right hnone)
    have hsame : rawAuthority reference = authorityComponent reference := by
      by_cases hauthority : HasAuthority reference
      · exact raw_authority_of_has_authority hauthority
      · have hraw := mt hiff.mp hauthority
        have hcomponent := mt authority_component_is_some.mp hauthority
        rw [Option.not_isSome_iff_eq_none] at hraw hcomponent
        rw [hraw, hcomponent]
    refine ⟨hiff, fun redirect base => ?_⟩
    rw [← hsame]
    exact normalize_url_reference lib reference redirect base

/-- The package for plain URLs, with references that carry another URL in their query. -/
def referenceLibrary : UrlLibrary :=
  { plainLibrary.toUrlLibrary with
    parse := fun rawUrl => .ok <|
      if (authorityComponent rawUrl).isSome then PlainUrl.parse rawUrl
      else
        ⟨[], none, requote pathQuoter (Text.splitFirst 0x3F rawUrl).1,
          requotedQuery (Text.splitFirst 0x3F rawUrl).2⟩ }

instance : DecidableEq referenceLibrary.Url := inferInstanceAs (DecidableEq PlainUrl)

/-- A redirect to a path that carries another URL in its query. -/
def loginRedirect : Text := Text.ofString "/login?next=http://user@host/"

/-- The user information of the carried URL is refused as that of the redirect. -/
theorem carried_url_rejected :
    ¬ HasAuthority loginRedirect ∧ ¬ ReadsAuthority referenceLibrary loginRedirect ∧
      normalizeUrl referenceLibrary loginRedirect true
        (some ⟨Text.ofString "https", some (Text.ofString "example.com"), Text.ofString "/", []⟩) =
          .error (.transportError .invalidRedirect) ∧
      normalizeReference referenceLibrary (authorityComponent loginRedirect) loginRedirect true
        (some ⟨Text.ofString "https", some (Text.ofString "example.com"), Text.ofString "/", []⟩) =
          .ok ⟨Text.ofString "https", some (Text.ofString "example.com"), Text.ofString "/login",
            Text.ofString "next=http://user@host/"⟩ := by
  have hnone : authorityComponent loginRedirect = none := by decide +kernel
  have hauthority : ¬ HasAuthority loginRedirect := fun h => by
    have hsome := authority_component_is_some.mpr h
    rw [hnone] at hsome
    cases hsome
  refine ⟨hauthority, fun h => hauthority (h.1.mp ?_), ?_, ?_⟩
  · decide +kernel
  · decide +kernel
  · decide +kernel

end GrowthOs.Acquisition
