import GrowthOs.Acquisition.PlainUrl
import GrowthOs.Robots.Normalization
import GrowthOs.Robots.Binding

/-!
# When the pipeline decides

The layers over the evaluator return a decision on every valid outcome of a fetch, provided that the
evaluator accepts the target. On a target that it rejects they all raise its `INVALID_INPUT`.
-/

namespace GrowthOs.Robots

open Library Acquisition

/-- What the evaluator does with a valid target. -/
theorem evaluate_robots_valid (robotsTxt : ByteArray) {targetPath : Text}
    (h : ValidTarget targetPath) :
    (∃ decision, evaluateRobots robotsTxt targetPath = .ok decision) ∨
      (robotsTxt.size > maxRobotsBytes ∧
        evaluateRobots robotsTxt targetPath = .error (.policyError .tooLarge)) ∨
      evaluateRobots robotsTxt targetPath = .error (.policyError .invalidEncoding) := by
  by_cases hsize : robotsTxt.size ≤ maxRobotsBytes
  · cases hdecode : Text.decodeUtf8 robotsTxt with
    | none =>
        refine Or.inr (Or.inr ?_)
        simp only [evaluateRobots, Nat.not_lt.mpr hsize, if_false, hdecode]
        rfl
    | some robotsText =>
        obtain ⟨target, htarget⟩ := normalize_is_some false h.scalar h.triplets
        exact Or.inl ⟨_, evaluate_robots_ok hsize hdecode
          ((validate_target_ok_iff targetPath).mpr h) htarget⟩
  · refine Or.inr (Or.inl ⟨Nat.not_le.mp hsize, ?_⟩)
    simp only [evaluateRobots, Nat.not_le.mp hsize, if_true]
    rfl

/-- The empty body is small enough. -/
theorem size_empty_le : ByteArray.empty.size ≤ maxRobotsBytes := by
  rw [ByteArray.size_empty]
  exact Nat.zero_le maxRobotsBytes

/-- It is the empty text. -/
theorem decode_utf8_empty : Text.decodeUtf8 .empty = some [] := by
  decide +kernel

/-- An invalid target is refused. -/
theorem validate_target_error {targetPath : Text} (h : ¬ ValidTarget targetPath) :
    validateTarget targetPath = .error (.policyError .invalidInput) := by
  rw [← validate_target_ok_iff] at h
  unfold validateTarget at h ⊢
  split
  · rfl
  · split
    · rfl
    · split
      · rfl
      · rename_i hshape hchars htriplets
        rw [if_neg hshape, if_neg hchars, if_neg htriplets] at h
        exact absurd rfl h

/-- The evaluation of the empty file validates the target. -/
theorem evaluate_robots_empty_invalid {targetPath : Text} (h : ¬ ValidTarget targetPath) :
    evaluateRobots .empty targetPath = .error (.policyError .invalidInput) := by
  simp only [evaluateRobots, Nat.not_lt.mpr size_empty_le, if_false, decode_utf8_empty,
    validate_target_error h]
  rfl

/-- The empty body decides every valid target. -/
theorem evaluate_robots_empty_valid {targetPath : Text} (h : ValidTarget targetPath) :
    ∃ decision, evaluateRobots .empty targetPath = .ok decision := by
  obtain ⟨target, htarget⟩ := normalize_is_some false h.scalar h.triplets
  exact ⟨_, evaluate_robots_ok size_empty_le decode_utf8_empty
    ((validate_target_ok_iff targetPath).mpr h) htarget⟩

/-- A valid target gets a decision from every fetched file. -/
theorem evaluate_robots_access_valid {statusCode : Option Int} {robotsTxt : Option ByteArray}
    {targetPath : Text} (hinput : isAccessInput statusCode robotsTxt = true)
    (h : ValidTarget targetPath) :
    ∃ access, evaluateRobotsAccess statusCode robotsTxt targetPath = .ok access ∧
      ((∀ body ∈ robotsTxt, body.size ≤ maxRobotsBytes) →
        access.policyErrorCode ≠ some .tooLarge) := by
  obtain ⟨decision, hempty⟩ := evaluate_robots_empty_valid h
  unfold evaluateRobotsAccess
  rw [if_neg (by simp [hinput]), hempty]
  simp only [ok_bind]
  split
  · rename_i body
    rcases evaluate_robots_valid body h with ⟨decision, hdecision⟩ | ⟨hsize, hlarge⟩ | hencoding
    · rw [hdecision]
      exact ⟨_, rfl, fun _ => nofun⟩
    · rw [hlarge]
      exact ⟨_, rfl, fun hbody => absurd (hbody body rfl) (Nat.not_le.mpr hsize)⟩
    · rw [hencoding]
      exact ⟨_, rfl, fun _ => nofun⟩
  · exact ⟨_, rfl, fun _ => nofun⟩
  · split
    · exact ⟨_, rfl, fun _ => nofun⟩
    · split
      · exact ⟨_, rfl, fun _ => nofun⟩
      · exact ⟨_, rfl, fun _ => nofun⟩

/-- An invalid one is refused. -/
theorem evaluate_robots_access_invalid {statusCode : Option Int} {robotsTxt : Option ByteArray}
    {targetPath : Text} (hinput : isAccessInput statusCode robotsTxt = true)
    (h : ¬ ValidTarget targetPath) :
    evaluateRobotsAccess statusCode robotsTxt targetPath =
      .error (.policyError .invalidInput) := by
  unfold evaluateRobotsAccess
  rw [if_neg (by simp [hinput]), evaluate_robots_empty_invalid h]
  rfl

/-- A fetch result that the gate accepts, or an error code. -/
def ValidOutcome : Option FetchedRobots → Option RobotsFetchErrorCode → Prop
  | some fetched, none => validateFetchedRobots fetched = .ok ()
  | none, some _ => True
  | _, _ => False

/-- A validated file is an input of the evaluator. -/
theorem access_input_of_validated {fetched : FetchedRobots}
    (h : validateFetchedRobots fetched = .ok ()) :
    isAccessInput (some fetched.statusCode) fetched.body = true := by
  unfold validateFetchedRobots at h
  rw [guard_eq_ok] at h
  simp only [not_or, not_not] at h
  obtain ⟨⟨-, -, -, -, -, -, hrange, hserved, hother⟩, -⟩ := h
  unfold isAccessInput
  by_cases hstatus : fetched.statusCode = 200
  · have hbody : fetched.body ≠ none := fun hnone => hserved ⟨hstatus, Or.inr hnone⟩
    simp [hstatus, Option.isSome_iff_ne_none.mpr hbody]
  · have hbody : fetched.body = none :=
      by_contra fun hsome => hother ⟨hstatus, Or.inr hsome⟩
    simp [hstatus, hbody, hrange]

/-- On a valid outcome and a valid target the gate decides, and a body within the limit of the
evaluator is not too large. -/
theorem evaluate_robots_gate_valid {fetchedRobots : Option FetchedRobots}
    {fetchErrorCode : Option RobotsFetchErrorCode} {targetPath : Text}
    (houtcome : ValidOutcome fetchedRobots fetchErrorCode) (h : ValidTarget targetPath) :
    ∃ gate, evaluateRobotsGate fetchedRobots fetchErrorCode targetPath = .ok gate ∧
      ((∀ fetched ∈ fetchedRobots, ∀ body ∈ fetched.body, body.size ≤ maxRobotsBytes) →
        ∀ access ∈ gate.accessDecision, access.policyErrorCode ≠ some .tooLarge) := by
  unfold evaluateRobotsGate
  split
  · rename_i fetched
    obtain ⟨access, haccess, hlarge⟩ :=
      evaluate_robots_access_valid (access_input_of_validated houtcome) h
    rw [show validateFetchedRobots fetched = .ok () from houtcome, haccess]
    refine ⟨_, rfl, fun hbody other hother => ?_⟩
    obtain rfl : access = other := Option.some.inj hother
    exact hlarge (hbody fetched rfl)
  · rename_i code
    obtain ⟨access, haccess, hlarge⟩ :=
      evaluate_robots_access_valid (show isAccessInput none none = true from rfl) h
    rw [haccess]
    simp only [Except.mapError, ok_bind]
    split
    · refine ⟨_, rfl, fun _ other hother => ?_⟩
      obtain rfl : access = other := Option.some.inj hother
      exact hlarge fun _ hbody => nomatch hbody
    · exact ⟨_, rfl, fun _ _ haccess => nomatch haccess⟩
  · rename_i hneither hcode
    cases fetchedRobots with
    | none =>
        cases fetchErrorCode with
        | none => exact absurd houtcome id
        | some code => exact absurd rfl (hcode code rfl)
    | some fetched =>
        cases fetchErrorCode with
        | none => exact absurd rfl (hneither fetched rfl)
        | some code => exact absurd houtcome id

/-- The gate refuses an invalid target. -/
theorem evaluate_robots_gate_invalid {fetchedRobots : Option FetchedRobots}
    {fetchErrorCode : Option RobotsFetchErrorCode} {targetPath : Text}
    (houtcome : ValidOutcome fetchedRobots fetchErrorCode) (h : ¬ ValidTarget targetPath) :
    evaluateRobotsGate fetchedRobots fetchErrorCode targetPath =
      .error (.policy (.policyError .invalidInput)) := by
  unfold evaluateRobotsGate
  cases fetchedRobots with
  | none =>
      cases fetchErrorCode with
      | none => exact absurd houtcome id
      | some code =>
          rw [evaluate_robots_access_invalid rfl h]
          rfl
  | some fetched =>
      cases fetchErrorCode with
      | none =>
          dsimp only
          rw [show validateFetchedRobots fetched = .ok () from houtcome, ok_bind,
            evaluate_robots_access_invalid (access_input_of_validated houtcome) h]
          rfl
      | some code => exact absurd houtcome id

/-! ## The binding -/

section Binding

variable {lib : UrlLibrary} {siteUrl targetUrl : Text} {site target : lib.Url}
  {fetchedRobots : Option FetchedRobots} {fetchErrorCode : Option RobotsFetchErrorCode}

/-- A URL that is normalized is normalized for the binding. -/
theorem normalize_bound_of_ok {rawUrl : Text} {url : lib.Url}
    (h : normalizeUrl lib rawUrl false none = .ok url) : normalizeBound lib rawUrl = .ok url := by
  rw [normalizeBound, h]

/-- On accepted URLs of one origin, with an outcome that was requested for the site, the pipeline is
the gate on the path and query of the target. -/
theorem evaluate_bound_robots_eq (urls : AbsoluteUrls lib)
    (hsite : normalizeUrl lib siteUrl false none = .ok site)
    (htarget : normalizeUrl lib targetUrl false none = .ok target)
    (hsame : SameOrigin lib site target) (hone : fetchedRobots.isNone ≠ fetchErrorCode.isNone)
    (hrequested : ∀ fetched ∈ fetchedRobots, fetched.requestedSiteUrl = lib.toText site) :
    evaluateBoundRobots lib siteUrl targetUrl fetchedRobots fetchErrorCode =
      ((evaluateRobotsGate fetchedRobots fetchErrorCode (pathAndQuery lib target)).mapError
        BindingFailure.gate).map fun gate =>
          ⟨lib.toText site, lib.toText target, pathAndQuery lib target, gate⟩ := by
  obtain ⟨siteOrigin, hsiteOrigin, htargetOrigin⟩ := hsame
  have hinput : ¬ (siteUrl.isEmpty = true ∨ targetUrl.isEmpty = true ∨
      fetchedRobots.isNone = fetchErrorCode.isNone) := by
    simp [List.isEmpty_iff, normalize_url_ne_nil urls hsite,
      normalize_url_ne_nil urls htarget, hone]
  have hprovenance : (fetchedRobots.any fun fetched =>
      decide (fetched.requestedSiteUrl ≠ lib.toText site)) = false := by
    cases fetchedRobots with
    | none => rfl
    | some fetched => simp [hrequested fetched rfl]
  unfold evaluateBoundRobots
  simp only [if_neg hinput, normalize_bound_of_ok hsite, normalize_bound_of_ok htarget, hsiteOrigin,
    htargetOrigin, hprovenance, Except.mapError, ok_bind, ne_eq, not_true_eq_false, if_false]
  cases evaluateRobotsGate fetchedRobots fetchErrorCode (pathAndQuery lib target) with
  | error failure => rfl
  | ok gate => rfl

/-- A valid outcome is a file or an error. -/
theorem one_of_valid_outcome (h : ValidOutcome fetchedRobots fetchErrorCode) :
    fetchedRobots.isNone ≠ fetchErrorCode.isNone := by
  cases fetchedRobots with
  | none =>
      cases fetchErrorCode with
      | none => exact absurd h id
      | some code => exact Bool.noConfusion
  | some fetched =>
      cases fetchErrorCode with
      | none => exact Bool.noConfusion
      | some code => exact absurd h id

end Binding

/-- What the URL package says about the raw path of an absolute URL. -/
structure AbsolutePath (path : Text) : Prop where
  slash : path.head? = some 0x2F
  ascii : ∀ c ∈ path, c < 0x80
  triplets : wellFormedTriplets path = true

/-- Visible characters other than `#`. -/
def PlainChars (s : Text) : Prop :=
  ∀ c ∈ s, 0x20 ≤ c ∧ c ≠ 0x7F ∧ c ≠ 0x23 ∧ ¬(0xD800 ≤ c ∧ c ≤ 0xDFFF)

/-- The triplets of a target are those of its path and query. -/
theorem well_formed_path_and_query {lib : UrlLibrary} {url : lib.Url}
    (h : wellFormedTriplets (lib.rawPath url) = true) :
    wellFormedTriplets (pathAndQuery lib url) = wellFormedTriplets (lib.rawQueryString url) := by
  unfold pathAndQuery
  split
  · rename_i hquery
    rw [h, hquery]
    rfl
  · rw [well_formed_append h]
    rfl

/-- The derived target is valid exactly when it does not start with two slashes, has visible
characters only and no `#`, and the triplets of its query are well formed. -/
theorem valid_path_and_query_iff {lib : UrlLibrary} {url : lib.Url}
    (h : AbsolutePath (lib.rawPath url)) :
    ValidTarget (pathAndQuery lib url) ↔
      (pathAndQuery lib url).take 2 ≠ [0x2F, 0x2F] ∧ PlainChars (pathAndQuery lib url) ∧
        wellFormedTriplets (lib.rawQueryString url) = true := by
  constructor
  · intro hvalid
    refine ⟨hvalid.no_authority, fun c hc => ?_, ?_⟩
    · exact ⟨(hvalid.visible c hc).1, (hvalid.visible c hc).2,
        fun hhash => hvalid.no_fragment (hhash ▸ hc), hvalid.scalar c hc⟩
    · rw [← well_formed_path_and_query h.triplets]
      exact hvalid.triplets
  · intro hplain
    obtain ⟨hauthority, hchars, htriplets⟩ := hplain
    refine ⟨?_, hauthority, fun hhash => (hchars 0x23 hhash).2.2.1 rfl,
      fun c hc => ⟨(hchars c hc).1, (hchars c hc).2.1⟩, fun c hc => (hchars c hc).2.2.2, ?_⟩
    · unfold pathAndQuery
      split
      · exact h.slash
      · rw [List.head?_append, h.slash]
        rfl
    · rw [well_formed_path_and_query h.triplets]
      exact htriplets

/-- The two slashes are in the path. -/
theorem path_and_query_take_iff {lib : UrlLibrary} {url : lib.Url}
    (h : AbsolutePath (lib.rawPath url)) :
    (pathAndQuery lib url).take 2 = [0x2F, 0x2F] ↔ (lib.rawPath url).take 2 = [0x2F, 0x2F] := by
  unfold pathAndQuery
  split
  · exact Iff.rfl
  · have hslash := h.slash
    generalize lib.rawPath url = path at hslash ⊢
    match path with
    | [c] => simp
    | c :: d :: rest => simp

/-- On every valid outcome the pipeline decides exactly for the targets whose raw path does not
start with two slashes and whose path and query have admissible characters. For the others it raises
the evaluator's `INVALID_INPUT`. -/
theorem evaluate_bound_robots_total_iff {lib : UrlLibrary} (urls : AbsoluteUrls lib)
    {siteUrl targetUrl : Text} {site target : lib.Url}
    {fetchedRobots : Option FetchedRobots} {fetchErrorCode : Option RobotsFetchErrorCode}
    (hsite : normalizeUrl lib siteUrl false none = .ok site)
    (htarget : normalizeUrl lib targetUrl false none = .ok target)
    (hpath : AbsolutePath (lib.rawPath target)) (hsame : SameOrigin lib site target)
    (houtcome : ValidOutcome fetchedRobots fetchErrorCode)
    (hrequested : ∀ fetched ∈ fetchedRobots, fetched.requestedSiteUrl = lib.toText site) :
    ((∃ result, evaluateBoundRobots lib siteUrl targetUrl fetchedRobots fetchErrorCode =
        .ok result) ↔
      (lib.rawPath target).take 2 ≠ [0x2F, 0x2F] ∧ PlainChars (pathAndQuery lib target) ∧
        wellFormedTriplets (lib.rawQueryString target) = true) ∧
      ∀ failure, evaluateBoundRobots lib siteUrl targetUrl fetchedRobots fetchErrorCode =
        .error failure → failure = .gate (.policy (.policyError .invalidInput)) := by
  have hvalid := valid_path_and_query_iff hpath
  rw [ne_eq, path_and_query_take_iff hpath, ← ne_eq] at hvalid
  rw [← hvalid, evaluate_bound_robots_eq urls hsite htarget hsame (one_of_valid_outcome houtcome)
    hrequested]
  by_cases h : ValidTarget (pathAndQuery lib target)
  · obtain ⟨gate, hgate, -⟩ := evaluate_robots_gate_valid houtcome h
    rw [hgate]
    exact ⟨iff_of_true ⟨_, rfl⟩ h, nofun⟩
  · rw [evaluate_robots_gate_invalid houtcome h]
    exact ⟨iff_of_false (fun ⟨_, hresult⟩ => nomatch hresult) h,
      fun failure hfailure => (Except.error.inj hfailure).symm⟩

/-- The plain URL library keeps the promises about absolute URLs. -/
theorem absolute_plain : AbsoluteUrls plainLibrary.toUrlLibrary where
  parse_empty _ h := by
    cases h
    rfl
  with_host _ _ _ h := by
    cases h
    rfl
  without_port _ _ h habsolute := by
    cases h
    exact habsolute
  without_fragment _ _ h habsolute := by
    cases h
    exact habsolute

/-- Plain URLs of one host have one origin. -/
theorem same_origin_plain (path query path' query' : Text) :
    SameOrigin plainLibrary.toUrlLibrary
      ⟨Text.ofString "https", some (Text.ofString "example.com"), path, query⟩
      ⟨Text.ofString "https", some (Text.ofString "example.com"), path', query'⟩ :=
  ⟨_, rfl, rfl⟩

/-- A query below an ordinary path, after a fetch that timed out. -/
theorem evaluate_bound_robots_total_iff_timeout :
    ∃ result, evaluateBoundRobots plainLibrary.toUrlLibrary (Text.ofString "https://example.com/")
      (Text.ofString "https://example.com/a?b") none (some .timeout) = .ok result := by
  have hsite : normalizeUrl plainLibrary.toUrlLibrary (Text.ofString "https://example.com/") false
      none = .ok ⟨Text.ofString "https", some (Text.ofString "example.com"), Text.ofString "/",
        []⟩ := by
    decide +kernel
  have htarget : normalizeUrl plainLibrary.toUrlLibrary (Text.ofString "https://example.com/a?b")
      false none = .ok ⟨Text.ofString "https", some (Text.ofString "example.com"),
        Text.ofString "/a", Text.ofString "b"⟩ := by
    decide +kernel
  have houtcome : ValidOutcome none (some .timeout) := trivial
  refine (evaluate_bound_robots_total_iff absolute_plain hsite htarget ?_
    (same_origin_plain _ _ _ _) houtcome fun _ hfetched => nomatch hfetched).1.mpr ?_
  · constructor <;> decide +kernel
  · exact ⟨by decide +kernel, by unfold PlainChars; decide +kernel, by decide +kernel⟩

/-- A path of two slashes makes the pipeline raise `RobotsPolicyError`, although the URL package
promises all that is assumed of a raw path. -/
theorem double_slash_raises :
    ∃ site target, normalizeUrl plainLibrary.toUrlLibrary (Text.ofString "https://example.com/")
        false none = .ok site ∧
      normalizeUrl plainLibrary.toUrlLibrary (Text.ofString "https://example.com//x") false none =
        .ok target ∧
      AbsolutePath (plainLibrary.rawPath target) ∧
      SameOrigin plainLibrary.toUrlLibrary site target ∧ ValidOutcome none (some .timeout) ∧
      (evaluateBoundRobots plainLibrary.toUrlLibrary (Text.ofString "https://example.com/")
        (Text.ofString "https://example.com//x") none (some .timeout)).map (fun _ => ()) =
          .error (.gate (.policy (.policyError .invalidInput))) := by
  refine ⟨⟨Text.ofString "https", some (Text.ofString "example.com"), Text.ofString "/", []⟩,
    ⟨Text.ofString "https", some (Text.ofString "example.com"), Text.ofString "//x",
      []⟩, ?_, ?_, ?_,
    same_origin_plain _ _ _ _, trivial, ?_⟩
  · decide +kernel
  · decide +kernel
  · constructor <;> decide +kernel
  · decide +kernel

end GrowthOs.Robots
