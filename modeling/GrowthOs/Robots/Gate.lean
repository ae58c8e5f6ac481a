import GrowthOs.Library.Except
import GrowthOs.Robots.Policy

/-!
# The robots gate

`robots/access.py` and `robots/gate.py`, over the fetch results of `acquisition/robots.py`. Each
layer wraps the decision of the one below. `Permits` is the one condition under which they allow.
-/

namespace GrowthOs.Robots

open Library

/-- `RobotsFetchErrorCode`. -/
inductive RobotsFetchErrorCode where
  | invalidUrl
  | disallowedPort
  | dnsFailure
  | disallowedAddress
  | timeout
  | tlsFailure
  | networkFailure
  | tooManyRedirects
  | invalidRedirect
  | unsupportedContentType
  | bodyTooLarge
  | unsupportedCharset
  deriving DecidableEq, Repr

/-- `FetchedRobots`. -/
structure FetchedRobots where
  requestedSiteUrl : Text
  robotsUrl : Text
  finalUrl : Text
  statusCode : Int
  contentType : Option Text
  body : Option ByteArray
  redirectChain : List Text

/-- `RobotsAccessReason`. -/
inductive RobotsAccessReason where
  | policy
  | unavailable
  | unreachable
  | indeterminate
  | invalidPolicy
  deriving DecidableEq, Repr

/-- `RobotsAccessDecision`. -/
structure RobotsAccessDecision where
  allowed : Bool
  reason : RobotsAccessReason
  statusCode : Option Int
  policyDecision : Option RobotsDecision
  policyErrorCode : Option RobotsPolicyErrorCode
  deriving DecidableEq, Repr

/-- `RobotsGateReason`. -/
inductive RobotsGateReason where
  | access
  | fetchUnreachable
  | fetchRejected
  deriving DecidableEq, Repr

/-- `RobotsGateDecision`. -/
structure RobotsGateDecision where
  allowed : Bool
  reason : RobotsGateReason
  fetchedRobots : Option FetchedRobots
  accessDecision : Option RobotsAccessDecision
  fetchErrorCode : Option RobotsFetchErrorCode

/-- What leaves the gate: its own `INVALID_INPUT`, or a failure of the evaluator. -/
inductive GateFailure where
  | invalidInput
  | policy (failure : PolicyFailure)
  deriving DecidableEq, Repr

/-- The input check of `evaluate_robots_access`. -/
def isAccessInput (statusCode : Option Int) (robotsTxt : Option ByteArray) : Bool :=
  statusCode.all (fun status => 100 ≤ status && status ≤ 599) &&
    (statusCode == some 200) == robotsTxt.isSome

/-- `evaluate_robots_access`. -/
def evaluateRobotsAccess (statusCode : Option Int) (robotsTxt : Option ByteArray)
    (targetPath : Text) : Except PolicyFailure RobotsAccessDecision := do
  if !isAccessInput statusCode robotsTxt then throw (.policyError .invalidInput)
  let _ ← evaluateRobots .empty targetPath
  match statusCode, robotsTxt with
  | some 200, some robotsTxt =>
      match evaluateRobots robotsTxt targetPath with
      | .ok policyDecision =>
          pure ⟨policyDecision.allowed, .policy, some 200, some policyDecision, none⟩
      | .error (.policyError .invalidInput) => throw (.policyError .invalidInput)
      | .error (.policyError code) => pure ⟨false, .invalidPolicy, some 200, none, some code⟩
      | .error .valueError => throw .valueError
  | none, _ => pure ⟨false, .unreachable, none, none, none⟩
  | some status, _ =>
      if status ≥ 500 then pure ⟨false, .unreachable, some status, none, none⟩
      else if status ≥ 400 then pure ⟨true, .unavailable, some status, none, none⟩
      else pure ⟨false, .indeterminate, some status, none, none⟩

/-- `_UNREACHABLE`. -/
def isUnreachable : RobotsFetchErrorCode → Bool
  | .dnsFailure | .timeout | .tlsFailure | .networkFailure => true
  | _ => false

/-- `_validate_fetched_robots`. -/
def validateFetchedRobots (value : FetchedRobots) : Except GateFailure Unit :=
  if value.requestedSiteUrl.isEmpty ∨ value.robotsUrl.isEmpty ∨ value.finalUrl.isEmpty ∨
      value.redirectChain.any List.isEmpty ∨
      some value.robotsUrl ≠ value.redirectChain.head? ∨
      some value.finalUrl ≠ value.redirectChain.getLast? ∨
      ¬(100 ≤ value.statusCode ∧ value.statusCode ≤ 599) ∨
      (value.statusCode = 200 ∧
        (value.contentType ≠ some (Text.ofString "text/plain") ∨ value.body = none)) ∨
      (value.statusCode ≠ 200 ∧ (value.contentType ≠ none ∨ value.body ≠ none)) then
    throw .invalidInput
  else pure ()

/-- `evaluate_robots_gate`. -/
def evaluateRobotsGate (fetchedRobots : Option FetchedRobots)
    (fetchErrorCode : Option RobotsFetchErrorCode) (targetPath : Text) :
    Except GateFailure RobotsGateDecision := do
  match fetchedRobots, fetchErrorCode with
  | some fetched, none =>
      validateFetchedRobots fetched
      let access ← (evaluateRobotsAccess (some fetched.statusCode) fetched.body targetPath).mapError
        GateFailure.policy
      pure ⟨access.allowed, .access, some fetched, some access, none⟩
  | none, some code =>
      let access ← (evaluateRobotsAccess none none targetPath).mapError GateFailure.policy
      if isUnreachable code then
        pure ⟨false, .fetchUnreachable, none, some access, some code⟩
      else pure ⟨false, .fetchRejected, none, none, some code⟩
  | _, _ => throw .invalidInput

/-! ## What the layers allow -/

/-- The fetch permits the target: the file does not exist, or its rules allow the target. -/
def Permits (statusCode : Option Int) (robotsTxt : Option ByteArray) (targetPath : Text) : Prop :=
  (∃ status, statusCode = some status ∧ 400 ≤ status ∧ status ≤ 499) ∨
    (statusCode = some 200 ∧ ∃ body decision, robotsTxt = some body ∧
      evaluateRobots body targetPath = .ok decision ∧ decision.allowed = true)

/-- An access decision is made for a body exactly with status 200. It allows exactly what is
permitted, and its policy decision agrees. -/
structure AccessSpec (statusCode : Option Int) (robotsTxt : Option ByteArray) (targetPath : Text)
    (access : RobotsAccessDecision) : Prop where
  served : robotsTxt.isSome = true ↔ statusCode = some 200
  allowed_iff : access.allowed = true ↔ Permits statusCode robotsTxt targetPath
  policy : ∀ decision ∈ access.policyDecision, decision.allowed = access.allowed

/-- A run of the evaluator on a served file decides the policy, or reports why it has none. -/
theorem evaluate_robots_access_spec {statusCode : Option Int} {robotsTxt : Option ByteArray}
    {targetPath : Text} {access : RobotsAccessDecision}
    (h : evaluateRobotsAccess statusCode robotsTxt targetPath = .ok access) :
    AccessSpec statusCode robotsTxt targetPath access := by
  simp only [evaluateRobotsAccess, throw_bind, guard_eq_ok, bind_eq_ok] at h
  obtain ⟨hinput, -, -, h⟩ := h
  have hserved : robotsTxt.isSome = true ↔ statusCode = some 200 := by
    simp only [isAccessInput] at hinput
    simp at hinput
    simp [← hinput.2]
  split at h
  · rename_i body
    cases heval : evaluateRobots body targetPath with
    | ok decision =>
        simp only [heval, pure_eq_ok] at h
        subst h
        exact ⟨hserved, by simp [Permits, heval], by simp⟩
    | error failure =>
        have hdenied : access.allowed = false ∧ access.policyDecision = none := by
          cases failure with
          | valueError => simp only [heval, throw_eq_ok] at h
          | policyError code =>
              cases code with
              | invalidInput => simp only [heval, throw_eq_ok] at h
              | tooLarge => simp only [heval, pure_eq_ok] at h; simp [← h]
              | invalidEncoding => simp only [heval, pure_eq_ok] at h; simp [← h]
        exact ⟨hserved, by simp [Permits, heval, hdenied], by simp [hdenied]⟩
  · simp only [pure_eq_ok] at h
    subst h
    exact ⟨hserved, by simp [Permits], by simp⟩
  · rename_i status hunserved
    have hstatus : status ≠ 200 := by
      rintro rfl
      obtain ⟨body, hbody⟩ := Option.isSome_iff_exists.mp (hserved.mpr rfl)
      exact hunserved body hbody rfl
    have hrange : 100 ≤ status ∧ status ≤ 599 := by
      simp only [isAccessInput] at hinput
      simp at hinput
      exact hinput.1
    have hpermits : Permits (some status) robotsTxt targetPath ↔ 400 ≤ status ∧ status ≤ 499 := by
      simp [Permits, hstatus]
    split at h
    · simp only [pure_eq_ok] at h
      subst h
      exact ⟨hserved, by simp [hpermits]; omega, by simp⟩
    · split at h
      · simp only [pure_eq_ok] at h
        subst h
        exact ⟨hserved, by simp [hpermits]; omega, by simp⟩
      · simp only [pure_eq_ok] at h
        subst h
        exact ⟨hserved, by simp [hpermits]; omega, by simp⟩

/-- A gate decision holds what it was given, allows exactly what is permitted, and the decisions
nested in it agree. -/
structure GateSpec (fetchedRobots : Option FetchedRobots)
    (fetchErrorCode : Option RobotsFetchErrorCode) (targetPath : Text)
    (gate : RobotsGateDecision) : Prop where
  fetched : gate.fetchedRobots = fetchedRobots
  error_code : gate.fetchErrorCode = fetchErrorCode
  served : ∀ fetched ∈ fetchedRobots, fetched.body.isSome = true ↔ fetched.statusCode = 200
  allowed_iff : gate.allowed = true ↔ ∃ fetched, fetchedRobots = some fetched ∧
    Permits (some fetched.statusCode) fetched.body targetPath
  access : ∀ access ∈ gate.accessDecision, access.allowed = gate.allowed ∧
    ∀ decision ∈ access.policyDecision, decision.allowed = gate.allowed

/-- What the gate decides, and from which outcome. -/
theorem evaluate_robots_gate_spec {fetchedRobots : Option FetchedRobots}
    {fetchErrorCode : Option RobotsFetchErrorCode} {targetPath : Text} {gate : RobotsGateDecision}
    (h : evaluateRobotsGate fetchedRobots fetchErrorCode targetPath = .ok gate) :
    GateSpec fetchedRobots fetchErrorCode targetPath gate := by
  unfold evaluateRobotsGate at h
  split at h
  · rename_i fetched
    simp only [bind_eq_ok, map_error_eq_ok, pure_eq_ok] at h
    obtain ⟨-, -, access, haccess, rfl⟩ := h
    have hspec := evaluate_robots_access_spec haccess
    exact ⟨rfl, rfl, by simpa using hspec.served, by simp [hspec.allowed_iff],
      by simpa using hspec.policy⟩
  · rename_i code
    simp only [bind_eq_ok, map_error_eq_ok] at h
    obtain ⟨access, haccess, h⟩ := h
    have hspec := evaluate_robots_access_spec haccess
    have hdenied : access.allowed = false := by
      rw [← Bool.not_eq_true, hspec.allowed_iff]
      simp [Permits]
    split at h
    · simp only [pure_eq_ok] at h
      subst h
      exact ⟨rfl, rfl, by simp, by simp, by simpa [hdenied] using hspec.policy⟩
    · simp only [pure_eq_ok] at h
      subst h
      exact ⟨rfl, rfl, by simp, by simp, by simp⟩
  · simp only [throw_eq_ok] at h

end GrowthOs.Robots
