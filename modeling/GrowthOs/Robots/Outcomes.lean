import GrowthOs.Robots.Totality

/-!
# The outcomes of the evaluator

Which code `evaluate_robots` raises on a body and a target, for every body and every target. Read
`evaluate_robots_outcome` first: the checks come in the order of the source, each code is raised
exactly when its check is the first to fail, and nothing else is raised.
-/

namespace GrowthOs.Robots

open Library

/-- Every percent sign starts a triplet, wherever it stands. -/
def PercentTriplets (t : Text) : Prop :=
  ∀ before after, t = before ++ 0x25 :: after →
    ∃ high low rest, after = high :: low :: rest ∧ isHexDigit high = true ∧ isHexDigit low = true

/-- The triplets of a text, from its first character on. -/
theorem percent_triplets_cons {c : Nat} {rest : Text} :
    PercentTriplets (c :: rest) ↔ PercentTriplets rest ∧ (c = 0x25 →
      ∃ high low tail, rest = high :: low :: tail ∧ isHexDigit high = true ∧
        isHexDigit low = true) := by
  constructor
  · intro h
    refine ⟨fun before after heq => h (c :: before) after ?_, fun hc => h [] rest ?_⟩
    · rw [heq]
      rfl
    · rw [hc]
      rfl
  · intro h before after heq
    cases before with
    | nil =>
        obtain ⟨hc, hrest⟩ := List.cons.inj heq
        exact hrest ▸ h.2 hc
    | cons d before =>
        obtain ⟨-, hrest⟩ := List.cons.inj heq
        exact h.1 before after hrest

/-- The recursive test of the triplets finds every percent sign. -/
theorem well_formed_triplets_iff {t : Text} : wellFormedTriplets t = true ↔ PercentTriplets t := by
  induction t with
  | nil =>
      refine iff_of_true rfl fun before after heq => ?_
      cases before with
      | nil => cases heq
      | cons d before => cases heq
  | cons c rest ih =>
      rw [percent_triplets_cons, ← ih]
      by_cases hc : c = 0x25
      · subst hc
        cases rest with
        | nil => simp [wellFormedTriplets]
        | cons high rest =>
            cases rest with
            | nil => simp [wellFormedTriplets]
            | cons low tail => simp [wellFormedTriplets, and_comm]
      · simp [wellFormedTriplets, hc]

/-- What `_validate_target` asks of a target: an absolute path without an authority, a fragment, a
control character or a surrogate, in which every percent sign starts a triplet. -/
structure IsTarget (t : Text) : Prop where
  slash : ∃ rest, t = 0x2F :: rest
  no_authority : ¬ ∃ rest, t = 0x2F :: 0x2F :: rest
  no_fragment : 0x23 ∉ t
  visible : ∀ c ∈ t, 0x20 ≤ c ∧ c ≠ 0x7F
  scalar : ∀ c ∈ t, ¬ (0xD800 ≤ c ∧ c ≤ 0xDFFF)
  triplets : PercentTriplets t

/-- The two notions of a target agree. -/
theorem is_target_iff {t : Text} : IsTarget t ↔ ValidTarget t := by
  have hslash : (∃ rest, t = 0x2F :: rest) ↔ t.head? = some 0x2F := by
    cases t with
    | nil => simp
    | cons c rest => simp
  have hauthority : (∃ rest, t = 0x2F :: 0x2F :: rest) ↔ t.take 2 = [0x2F, 0x2F] := by
    cases t with
    | nil => simp
    | cons c rest =>
        cases rest with
        | nil => simp
        | cons d rest => simp
  constructor
  · intro h
    exact ⟨hslash.mp h.slash, fun htake => h.no_authority (hauthority.mpr htake), h.no_fragment,
      h.visible, h.scalar, well_formed_triplets_iff.mpr h.triplets⟩
  · intro h
    exact ⟨hslash.mpr h.slash, fun hrest => h.no_authority (hauthority.mp hrest), h.no_fragment,
      h.visible, h.scalar, well_formed_triplets_iff.mp h.triplets⟩

/-- A body is decoded exactly when it is UTF-8. -/
theorem decode_utf8_is_some_iff {b : ByteArray} :
    (∃ text, Text.decodeUtf8 b = some text) ↔ b.IsValidUTF8 := by
  unfold Text.decodeUtf8 String.fromUTF8?
  split
  · rename_i hvalid
    exact iff_of_true ⟨_, rfl⟩ hvalid
  · rename_i hinvalid
    refine iff_of_false (fun h => ?_) hinvalid
    obtain ⟨text, htext⟩ := h
    cases htext

/-! ## The checks in their order -/

section

variable {robotsTxt : ByteArray} {targetPath : Text}

/-- A large body is refused. -/
theorem evaluate_robots_large (h : maxRobotsBytes < robotsTxt.size) :
    evaluateRobots robotsTxt targetPath = .error (.policyError .tooLarge) := by
  unfold evaluateRobots
  rw [if_pos h]
  rfl

/-- So is one that cannot be decoded. -/
theorem evaluate_robots_undecodable (hsize : robotsTxt.size ≤ maxRobotsBytes)
    (h : ¬ robotsTxt.IsValidUTF8) :
    evaluateRobots robotsTxt targetPath = .error (.policyError .invalidEncoding) := by
  have hdecode : Text.decodeUtf8 robotsTxt = none := by
    rw [← decode_utf8_is_some_iff] at h
    exact Option.eq_none_iff_forall_ne_some.mpr fun text htext => h ⟨text, htext⟩
  simp only [evaluateRobots, Nat.not_lt.mpr hsize, if_false, hdecode]
  rfl

/-- So is an invalid target. -/
theorem evaluate_robots_invalid (hsize : robotsTxt.size ≤ maxRobotsBytes)
    (hvalid : robotsTxt.IsValidUTF8) (h : ¬ IsTarget targetPath) :
    evaluateRobots robotsTxt targetPath = .error (.policyError .invalidInput) := by
  obtain ⟨text, hdecode⟩ := decode_utf8_is_some_iff.mpr hvalid
  have htarget : validateTarget targetPath = .error (.policyError .invalidInput) :=
    validate_target_error fun hcopy => h (is_target_iff.mpr hcopy)
  simp only [evaluateRobots, Nat.not_lt.mpr hsize, if_false, hdecode, htarget]
  rfl

/-- An accepted target has a normal form, so its evaluation returns. -/
theorem evaluate_robots_returns (hsize : robotsTxt.size ≤ maxRobotsBytes)
    (hvalid : robotsTxt.IsValidUTF8) (h : IsTarget targetPath) :
    ∃ decision, evaluateRobots robotsTxt targetPath = .ok decision := by
  obtain ⟨text, hdecode⟩ := decode_utf8_is_some_iff.mpr hvalid
  have hcopy : ValidTarget targetPath := is_target_iff.mp h
  obtain ⟨normal, hnormal⟩ := normalize_is_some false hcopy.scalar hcopy.triplets
  exact ⟨_, evaluate_robots_ok hsize hdecode
    ((validate_target_ok_iff targetPath).mpr hcopy) hnormal⟩

end

/-- The outcomes of `evaluate_robots` on every body and target: an oversized body, then one that is
not UTF-8, then an invalid target, each with its code, and in every other case a decision. -/
theorem evaluate_robots_outcome (robotsTxt : ByteArray) (targetPath : Text) :
    (evaluateRobots robotsTxt targetPath = .error (.policyError .tooLarge) ↔
      512000 < robotsTxt.size) ∧
    (evaluateRobots robotsTxt targetPath = .error (.policyError .invalidEncoding) ↔
      robotsTxt.size ≤ 512000 ∧ ¬ robotsTxt.IsValidUTF8) ∧
    (evaluateRobots robotsTxt targetPath = .error (.policyError .invalidInput) ↔
      robotsTxt.size ≤ 512000 ∧ robotsTxt.IsValidUTF8 ∧ ¬ IsTarget targetPath) ∧
    ((∃ decision, evaluateRobots robotsTxt targetPath = .ok decision) ↔
      robotsTxt.size ≤ 512000 ∧ robotsTxt.IsValidUTF8 ∧ IsTarget targetPath) ∧
    (∀ failure, evaluateRobots robotsTxt targetPath = .error failure →
      ∃ code, failure = .policyError code) ∧
    (validateTarget targetPath = .ok () → ∃ normal, normalize false targetPath = some normal) := by
  have hnormal : validateTarget targetPath = .ok () →
      ∃ normal, normalize false targetPath = some normal := by
    intro h
    have hcopy := (validate_target_ok_iff targetPath).mp h
    exact normalize_is_some false hcopy.scalar hcopy.triplets
  by_cases hsize : robotsTxt.size ≤ 512000
  · by_cases hvalid : robotsTxt.IsValidUTF8
    · by_cases htarget : IsTarget targetPath
      · obtain ⟨decision, heq⟩ := evaluate_robots_returns hsize hvalid htarget
        rw [heq]
        refine ⟨?_, ?_, ?_, ?_, ?_, hnormal⟩
        all_goals simp [hsize, hvalid, htarget]
      · rw [evaluate_robots_invalid hsize hvalid htarget]
        refine ⟨?_, ?_, ?_, ?_, ?_, hnormal⟩
        all_goals simp [hsize, hvalid, htarget]
    · rw [evaluate_robots_undecodable hsize hvalid]
      refine ⟨?_, ?_, ?_, ?_, ?_, hnormal⟩
      all_goals simp [hsize, hvalid]
  · have hlarge : 512000 < robotsTxt.size := Nat.not_le.mp hsize
    rw [evaluate_robots_large hlarge]
    refine ⟨?_, ?_, ?_, ?_, ?_, hnormal⟩
    all_goals simp [hsize, hlarge]

end GrowthOs.Robots
