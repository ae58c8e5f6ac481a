import GrowthOs.Acquisition.Transport
import GrowthOs.Robots.Gate

/-!
# Binding a fetch result to a target

`robots/binding.py`, and what a decision of the whole pipeline says.
-/

namespace GrowthOs.Robots

open Library Acquisition

/-- `RobotsBindingErrorCode`. -/
inductive RobotsBindingErrorCode where
  | invalidInput
  | invalidUrl
  | disallowedPort
  | crossOrigin
  | provenanceMismatch
  deriving DecidableEq, Repr

/-- `BoundRobotsDecision`. -/
structure BoundRobotsDecision where
  siteUrl : Text
  targetUrl : Text
  targetPath : Text
  gateDecision : RobotsGateDecision

/-- What leaves `evaluate_bound_robots`. -/
inductive BindingFailure where
  | binding (code : RobotsBindingErrorCode)
  | gate (failure : GateFailure)
  | unhandled (error : LibraryError)
  deriving DecidableEq, Repr

section Binding

variable (lib : UrlLibrary)

/-- `_normalize`. -/
def normalizeBound (rawUrl : Text) : Except BindingFailure lib.Url :=
  match normalizeUrl lib rawUrl false none with
  | .ok url => .ok url
  | .error (.transportError .disallowedPort) => .error (.binding .disallowedPort)
  | .error (.transportError _) => .error (.binding .invalidUrl)
  | .error (.unhandled error) => .error (.unhandled error)

/-- `(url.scheme, url.host, url.port)`. -/
def origin (url : lib.Url) : Except LibraryError (Text × Option Text × Option Nat) := do
  pure (lib.scheme url, ← lib.host url, ← lib.port url)

/-- `target_path`: the path of a URL, and its query when there is one. -/
def pathAndQuery (url : lib.Url) : Text :=
  if lib.rawQueryString url = [] then lib.rawPath url
  else lib.rawPath url ++ 0x3F :: lib.rawQueryString url

/-- `evaluate_bound_robots`. -/
def evaluateBoundRobots (siteUrl targetUrl : Text) (fetchedRobots : Option FetchedRobots)
    (fetchErrorCode : Option RobotsFetchErrorCode) :
    Except BindingFailure BoundRobotsDecision := do
  if siteUrl.isEmpty ∨ targetUrl.isEmpty ∨ fetchedRobots.isNone = fetchErrorCode.isNone then
    throw (.binding .invalidInput)
  let site ← normalizeBound lib siteUrl
  let target ← normalizeBound lib targetUrl
  let siteOrigin ← (origin lib site).mapError BindingFailure.unhandled
  let targetOrigin ← (origin lib target).mapError BindingFailure.unhandled
  if siteOrigin ≠ targetOrigin then throw (.binding .crossOrigin)
  if fetchedRobots.any (·.requestedSiteUrl ≠ lib.toText site) then
    throw (.binding .provenanceMismatch)
  let gateDecision ← (evaluateRobotsGate fetchedRobots fetchErrorCode
    (pathAndQuery lib target)).mapError BindingFailure.gate
  pure ⟨lib.toText site, lib.toText target, pathAndQuery lib target, gateDecision⟩

end Binding

/-- Two URLs have the same scheme, host and port. -/
def SameOrigin (lib : UrlLibrary) (site target : lib.Url) : Prop :=
  ∃ siteOrigin, origin lib site = .ok siteOrigin ∧ origin lib target = .ok siteOrigin

/-- A URL that is normalized for the binding is normalized. -/
theorem normalize_bound_ok {lib : UrlLibrary} {rawUrl : Text} {url : lib.Url}
    (h : normalizeBound lib rawUrl = .ok url) : normalizeUrl lib rawUrl false none = .ok url := by
  unfold normalizeBound at h
  split at h
  · rename_i hurl
    rw [hurl, Except.ok.inj h]
  all_goals cases h

/-- A decision of the pipeline was made for two normalized URLs of one origin and for a fetch of
the site, and it is the gate's decision on the path and query of the target. -/
theorem evaluate_bound_robots_inv {lib : UrlLibrary} {siteUrl targetUrl : Text}
    {fetchedRobots : Option FetchedRobots} {fetchErrorCode : Option RobotsFetchErrorCode}
    {result : BoundRobotsDecision}
    (h : evaluateBoundRobots lib siteUrl targetUrl fetchedRobots fetchErrorCode = .ok result) :
    ∃ site target, normalizeUrl lib siteUrl false none = .ok site ∧
      normalizeUrl lib targetUrl false none = .ok target ∧ SameOrigin lib site target ∧
      (fetchedRobots.isNone ≠ fetchErrorCode.isNone) ∧
      (∀ fetched ∈ fetchedRobots, fetched.requestedSiteUrl = lib.toText site) ∧
      evaluateRobotsGate fetchedRobots fetchErrorCode (pathAndQuery lib target) =
        .ok result.gateDecision := by
  simp only [evaluateBoundRobots, throw_bind, guard_eq_ok, bind_eq_ok, map_error_eq_ok,
    pure_eq_ok] at h
  obtain ⟨hinput, site, hsite, target, htarget, siteOrigin, hsiteOrigin, targetOrigin,
    htargetOrigin, hsame, hprovenance, gate, hgate, rfl⟩ := h
  have hone : fetchedRobots.isNone ≠ fetchErrorCode.isNone := fun heq =>
    hinput (Or.inr (Or.inr heq))
  refine ⟨site, target, normalize_bound_ok hsite, normalize_bound_ok htarget, ?_, hone, ?_, hgate⟩
  · rw [not_not] at hsame
    exact ⟨siteOrigin, hsiteOrigin, hsame ▸ htargetOrigin⟩
  · intro fetched hfetched
    simp only [Option.mem_def.mp hfetched, Option.any_some, decide_eq_true_eq, not_not]
      at hprovenance
    exact hprovenance

/-- The pipeline is fail-closed: it allows exactly on a fetch of the normalized site, for a target
of the site's origin, that reports a missing file or whose rules allow the target. -/
theorem evaluate_bound_robots_fail_closed {lib : UrlLibrary} {siteUrl targetUrl : Text}
    {fetchedRobots : Option FetchedRobots} {fetchErrorCode : Option RobotsFetchErrorCode}
    {result : BoundRobotsDecision}
    (h : evaluateBoundRobots lib siteUrl targetUrl fetchedRobots fetchErrorCode = .ok result) :
    ∃ site target, normalizeUrl lib siteUrl false none = .ok site ∧
      normalizeUrl lib targetUrl false none = .ok target ∧
      (result.gateDecision.allowed = true ↔ ∃ fetched, fetchedRobots = some fetched ∧
        fetched.requestedSiteUrl = lib.toText site ∧ SameOrigin lib site target ∧
        ((400 ≤ fetched.statusCode ∧ fetched.statusCode ≤ 499) ∨
          (fetched.statusCode = 200 ∧ ∃ body decision, fetched.body = some body ∧
            evaluateRobots body (pathAndQuery lib target) = .ok decision ∧
            decision.allowed = true))) ∧
      (∀ code, fetchErrorCode = some code → result.gateDecision.allowed = false) ∧
      (∀ fetched, fetchedRobots = some fetched →
        fetched.statusCode < 400 ∧ fetched.statusCode ≠ 200 ∨ 500 ≤ fetched.statusCode →
        result.gateDecision.allowed = false) ∧
      (∀ fetched body, fetchedRobots = some fetched → fetched.body = some body →
        body.size > maxRobotsBytes ∨ Text.decodeUtf8 body = none →
        result.gateDecision.allowed = false) ∧
      (∀ access ∈ result.gateDecision.accessDecision,
        access.allowed = result.gateDecision.allowed ∧
        ∀ decision ∈ access.policyDecision, decision.allowed = result.gateDecision.allowed) ∧
      result.gateDecision.fetchedRobots = fetchedRobots ∧
      result.gateDecision.fetchErrorCode = fetchErrorCode := by
  obtain ⟨site, target, hsite, htarget, hsame, hone, hprovenance, hgate⟩ :=
    evaluate_bound_robots_inv h
  have hspec := evaluate_robots_gate_spec hgate
  refine ⟨site, target, hsite, htarget, ?_, ?_, ?_, ?_, hspec.access, hspec.fetched,
    hspec.error_code⟩
  · rw [hspec.allowed_iff]
    constructor
    · rintro ⟨fetched, hfetched, hpermits⟩
      refine ⟨fetched, hfetched, hprovenance fetched hfetched, hsame, ?_⟩
      simpa [Permits] using hpermits
    · rintro ⟨fetched, hfetched, -, -, hpermits⟩
      exact ⟨fetched, hfetched, by simpa [Permits] using hpermits⟩
  -- A fetch error comes without a fetched file, and a missing file is never allowed.
  · intro code hcode
    have hnone : fetchedRobots = none := by
      cases fetchedRobots with
      | none => rfl
      | some fetched => simp [hcode] at hone
    rw [← Bool.not_eq_true, hspec.allowed_iff]
    simp [hnone]
  · rintro fetched hfetched hstatus
    rw [← Bool.not_eq_true, hspec.allowed_iff]
    rintro ⟨fetched', hfetched', hpermits⟩
    obtain rfl : fetched = fetched' := by simpa [hfetched] using hfetched'
    rcases hpermits with ⟨status, heq, hlow, hhigh⟩ | ⟨hok, -⟩
    · obtain rfl : fetched.statusCode = status := by simpa using heq
      omega
    · have hok : fetched.statusCode = 200 := by simpa using hok
      omega
  · intro fetched body hfetched hbody hbad
    rw [← Bool.not_eq_true, hspec.allowed_iff]
    rintro ⟨fetched', hfetched', hpermits⟩
    obtain rfl : fetched = fetched' := by simpa [hfetched] using hfetched'
    -- Only a status of 200 comes with a body.
    have hstatus : fetched.statusCode = 200 :=
      (hspec.served fetched hfetched).mp (by simp [hbody])
    rcases hpermits with ⟨status, heq, hlow, -⟩ | ⟨-, body', decision, hbody', heval, -⟩
    · obtain rfl : fetched.statusCode = status := by simpa using heq
      omega
    · obtain rfl : body = body' := by simpa [hbody] using hbody'
      obtain ⟨hsize, hdecode⟩ := evaluate_robots_inv heval
      rcases hbad with hlarge | hnone
      · omega
      · exact hdecode hnone

/-- A URL package that knows the one URL `https://example.com/`, in its parsed form. -/
def exampleUrls : UrlLibrary where
  Url := Unit
  parse rawUrl :=
    if rawUrl = Text.ofString "https://example.com/" then .ok () else .error .valueError
  join _ url := .ok url
  scheme _ := Text.ofString "https"
  isAbsolute _ := true
  user _ := .ok none
  password _ := .ok none
  host _ := .ok (some (Text.ofString "example.com"))
  rawHost _ := .ok (some (Text.ofString "example.com"))
  port _ := .ok (some 443)
  explicitPort _ := .ok none
  withHost url _ := .ok url
  withoutPort url := .ok url
  withoutFragment url := .ok url
  toText _ := Text.ofString "https://example.com/"
  rawPath _ := Text.ofString "/"
  rawQueryString _ := []
  isIpAddress _ := false

/-- A fetch of the robots file of that site which found none. -/
def missingFile : FetchedRobots :=
  ⟨Text.ofString "https://example.com/", Text.ofString "https://example.com/robots.txt",
    Text.ofString "https://example.com/robots.txt", 404, none, none,
    [Text.ofString "https://example.com/robots.txt"]⟩

/-- A missing robots file allows the target, and it was fetched for the normalized site. -/
theorem evaluate_bound_robots_fail_closed_missing :
    ∃ site target, normalizeUrl exampleUrls (Text.ofString "https://example.com/") false none =
        .ok site ∧ missingFile.requestedSiteUrl = exampleUrls.toText site ∧
      SameOrigin exampleUrls site target := by
  have hrun : (evaluateBoundRobots exampleUrls (Text.ofString "https://example.com/")
      (Text.ofString "https://example.com/") (some missingFile) none).toOption.map
        (fun result => result.gateDecision.allowed) = some true := by
    decide +kernel
  cases hresult : evaluateBoundRobots exampleUrls (Text.ofString "https://example.com/")
      (Text.ofString "https://example.com/") (some missingFile) none with
  | error failure => simp [hresult, Except.toOption] at hrun
  | ok result =>
      have hbit : result.gateDecision.allowed = true := by
        simpa [hresult, Except.toOption] using hrun
      obtain ⟨site, target, hsite, -, hallowed, -⟩ := evaluate_bound_robots_fail_closed hresult
      obtain ⟨fetched, hfetched, hrequested, hsame, -⟩ := hallowed.mp hbit
      obtain rfl : missingFile = fetched := Option.some.inj hfetched
      exact ⟨site, target, hsite, hrequested, hsame⟩

end GrowthOs.Robots
