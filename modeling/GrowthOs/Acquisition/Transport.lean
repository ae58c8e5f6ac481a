import GrowthOs.Library.Except
import GrowthOs.Library.Text

/-!
# URL normalization

`acquisition/_transport.py`: `normalize_url` over the URL package and the address parser that the
source imports. Both are parameters, and each of their functions that can raise returns the
exception.
-/

namespace GrowthOs.Acquisition

open Library

/-- An exception of a library call, as far as the handlers tell exceptions apart. -/
inductive LibraryError where
  | typeError
  | valueError
  | other
  deriving DecidableEq, Repr

/-- The URL package and the address parser. -/
structure UrlLibrary where
  Url : Type
  parse : Text → Except LibraryError Url
  join : Url → Url → Except LibraryError Url
  scheme : Url → Text
  isAbsolute : Url → Bool
  user : Url → Except LibraryError (Option Text)
  password : Url → Except LibraryError (Option Text)
  host : Url → Except LibraryError (Option Text)
  rawHost : Url → Except LibraryError (Option Text)
  port : Url → Except LibraryError (Option Nat)
  explicitPort : Url → Except LibraryError (Option Nat)
  withHost : Url → Text → Except LibraryError Url
  withoutPort : Url → Except LibraryError Url
  withoutFragment : Url → Except LibraryError Url
  toText : Url → Text
  rawPath : Url → Text
  rawQueryString : Url → Text
  isIpAddress : Text → Bool

/-- The codes of a `TransportError` of `normalize_url`. -/
inductive TransportCode where
  | invalidUrl
  | invalidRedirect
  | disallowedPort
  deriving DecidableEq, Repr

/-- What leaves `normalize_url`: a `TransportError`, or an exception that it does not handle. -/
inductive TransportFailure where
  | transportError (code : TransportCode)
  | unhandled (error : LibraryError)
  deriving DecidableEq, Repr

/-- The first index of the separator at or after `start`. -/
def findFrom (sep : Text) (start : Nat) (s : Text) : Option Nat :=
  (List.range (s.length + 1)).find? fun index =>
    start ≤ index && (s.drop index).take sep.length == sep

/-- `_raw_authority`. -/
def rawAuthority (rawUrl : Text) : Option Text :=
  let authorityStart :=
    if rawUrl.take 2 = [0x2F, 0x2F] then some 2
    else (findFrom (Text.ofString "://") 0 rawUrl).map (· + 3)
  authorityStart.map fun authorityStart =>
    (rawUrl.drop authorityStart).takeWhile fun c => !(c == 0x2F || c == 0x3F || c == 0x23)

/-- `s.rsplit(sep, 1)[-1]`: the text after the last separator. -/
def afterLast (sep : Nat) (s : Text) : Text := (s.reverse.takeWhile (· ≠ sep)).reverse

/-- `_raw_explicit_port`. -/
def rawExplicitPort (authority : Text) : Option Text :=
  let hostPort := afterLast 0x40 authority
  if hostPort.head? = some 0x5B then
    match (Text.splitFirst 0x5D hostPort).2 with
    | some (0x3A :: port) => some port
    | _ => none
  else if 0x3A ∈ hostPort then some (afterLast 0x3A hostPort)
  else none

/-- `str.isdecimal` on ASCII text. -/
def isDecimal (s : Text) : Bool := !s.isEmpty && s.all fun c => 0x30 ≤ c && c ≤ 0x39

/-- `int` on a decimal text. -/
def decimalValue (s : Text) : Nat := s.foldl (fun value c => 10 * value + (c - 0x30)) 0

/-- The test of a port written in the authority. -/
def isAllowedPortText (rawPort : Text) : Bool :=
  let stripped := rawPort.dropWhile (· == 0x30)
  let normalizedPort := if stripped.isEmpty then [0x30] else stripped
  rawPort.all (· < 0x80) && isDecimal rawPort && decide (normalizedPort.length ≤ 5) &&
    decide (decimalValue normalizedPort ≤ 65535)

/-- `str.isalnum` on an ASCII character. -/
def isAlnum (c : Nat) : Bool :=
  (0x30 ≤ c && c ≤ 0x39) || (0x41 ≤ c && c ≤ 0x5A) || (0x61 ≤ c && c ≤ 0x7A)

/-- A label of `_is_dns_hostname`. -/
def isDnsLabel (label : Text) : Bool :=
  !label.isEmpty && decide (label.length ≤ 63) && label.all (· < 0x80) &&
    label.head?.all isAlnum && label.getLast?.all isAlnum &&
    label.all fun c => isAlnum c || c == 0x2D

/-- `_is_dns_hostname`. -/
def isDnsHostname (host : Text) : Bool :=
  let hostname := if host.getLast? = some 0x2E then host.dropLast else host
  !hostname.isEmpty && decide (hostname.length ≤ 253) &&
    (hostname.splitOn 0x2E).all isDnsLabel

/-- `_DEFAULT_PORTS`, defined on `_ALLOWED_SCHEMES`. -/
def defaultPort (scheme : Text) : Option Nat :=
  if scheme = Text.ofString "http" then some 80
  else if scheme = Text.ofString "https" then some 443
  else none

section Normalize

variable (lib : UrlLibrary)

/-- A library call inside the `try` of `normalize_url`: `TypeError` and `ValueError` become a
`TransportError`. -/
def guarded {α : Type} (code : TransportCode) (call : Except LibraryError α) :
    Except TransportFailure α :=
  match call with
  | .ok value => .ok value
  | .error .other => .error (.unhandled .other)
  | .error _ => .error (.transportError code)

/-- `parsed.explicit_port`, whose `ValueError` is a disallowed port. -/
def readExplicitPort (code : TransportCode) (url : lib.Url) :
    Except TransportFailure (Option Nat) :=
  match lib.explicitPort url with
  | .error .valueError => .error (.transportError .disallowedPort)
  | call => guarded code call

/-- `normalize_url`. -/
def normalizeUrl (rawUrl : Text) (redirect : Bool) (base : Option lib.Url) :
    Except TransportFailure lib.Url := do
  let code := if redirect then TransportCode.invalidRedirect else .invalidUrl
  let authority := rawAuthority rawUrl
  if let some rawPort := authority.bind rawExplicitPort then
    if !isAllowedPortText rawPort then throw (.transportError .disallowedPort)
  let mut parsed ← guarded code (lib.parse rawUrl)
  if let some base := base then
    parsed ← guarded code (lib.join base parsed)
  let scheme := Text.lower (lib.scheme parsed)
  let some schemePort := defaultPort scheme | throw (.transportError code)
  if !lib.isAbsolute parsed then throw (.transportError code)
  let some host ← guarded code (lib.host parsed) | throw (.transportError code)
  if authority.any (0x40 ∈ ·) then throw (.transportError code)
  if (← guarded code (lib.user parsed)).isSome then throw (.transportError code)
  if (← guarded code (lib.password parsed)).isSome then throw (.transportError code)
  parsed ← guarded code (lib.withHost parsed host)
  let some normalizedHost ← guarded code (lib.host parsed) | throw (.transportError code)
  if !lib.isIpAddress normalizedHost then
    let some rawHost ← guarded code (lib.rawHost parsed) | throw (.transportError code)
    if !isDnsHostname rawHost then throw (.transportError code)
  let explicitPort ← readExplicitPort lib code parsed
  if let some port := explicitPort then
    if port ≠ schemePort then throw (.transportError .disallowedPort)
    parsed ← guarded code (lib.withoutPort parsed)
  guarded code (lib.withoutFragment parsed)

/-- `normalize_url` from the explicit port on. -/
def normalizePort (code : TransportCode) (schemePort : Nat) (parsed : lib.Url) :
    Except TransportFailure lib.Url := do
  let explicitPort ← readExplicitPort lib code parsed
  let mut parsed := parsed
  if let some port := explicitPort then
    if port ≠ schemePort then throw (.transportError .disallowedPort)
    parsed ← guarded code (lib.withoutPort parsed)
  guarded code (lib.withoutFragment parsed)

/-- `normalize_url` from the scheme on. -/
def normalizeParsed (code : TransportCode) (authority : Option Text) (parsed : lib.Url) :
    Except TransportFailure lib.Url := do
  let scheme := Text.lower (lib.scheme parsed)
  let some schemePort := defaultPort scheme | throw (.transportError code)
  if !lib.isAbsolute parsed then throw (.transportError code)
  let some host ← guarded code (lib.host parsed) | throw (.transportError code)
  if authority.any (0x40 ∈ ·) then throw (.transportError code)
  if (← guarded code (lib.user parsed)).isSome then throw (.transportError code)
  if (← guarded code (lib.password parsed)).isSome then throw (.transportError code)
  let parsed ← guarded code (lib.withHost parsed host)
  let some normalizedHost ← guarded code (lib.host parsed) | throw (.transportError code)
  if !lib.isIpAddress normalizedHost then
    let some rawHost ← guarded code (lib.rawHost parsed) | throw (.transportError code)
    if !isDnsHostname rawHost then throw (.transportError code)
  normalizePort lib code schemePort parsed

/-- The stages of `normalize_url`. -/
theorem normalize_url_eq (rawUrl : Text) (redirect : Bool) (base : Option lib.Url) :
    normalizeUrl lib rawUrl redirect base =
      (do
        let code := if redirect then TransportCode.invalidRedirect else .invalidUrl
        if ((rawAuthority rawUrl).bind rawExplicitPort).any fun rawPort =>
            !isAllowedPortText rawPort then
          throw (.transportError .disallowedPort)
        let target ← guarded code (lib.parse rawUrl)
        let parsed ← match base with
          | none => pure target
          | some base => guarded code (lib.join base target)
        normalizeParsed lib code (rawAuthority rawUrl) parsed) := by
  unfold normalizeUrl
  dsimp only
  cases hport : (rawAuthority rawUrl).bind rawExplicitPort with
  | none => cases base <;> rfl
  | some rawPort => cases base <;> rfl

variable {lib}

/-- A guarded call returns what the call does. -/
theorem guarded_eq_ok {α : Type} {code : TransportCode} {call : Except LibraryError α}
    {value : α} : guarded code call = .ok value ↔ call = .ok value := by
  cases call with
  | ok other => exact ⟨fun h => congrArg _ (Except.ok.inj h), fun h => congrArg _ (Except.ok.inj h)⟩
  | error error => cases error <;> exact ⟨nofun, nofun⟩

/-- What the check of the port has found. -/
theorem normalize_port_inv {code : TransportCode} {schemePort : Nat} {parsed url : lib.Url}
    (h : normalizePort lib code schemePort parsed = .ok url) :
    ∃ ported, (ported = parsed ∨ lib.withoutPort parsed = .ok ported) ∧
      lib.withoutFragment ported = .ok url := by
  unfold normalizePort at h
  rw [bind_eq_ok] at h
  obtain ⟨explicitPort, -, h⟩ := h
  cases explicitPort with
  | none => exact ⟨parsed, Or.inl rfl, guarded_eq_ok.mp h⟩
  | some port =>
      simp only [throw_bind, guard_eq_ok, bind_eq_ok, guarded_eq_ok] at h
      obtain ⟨-, ported, hported, h⟩ := h
      exact ⟨ported, Or.inr hported, h⟩

/-- What the checks of a parsed URL have found. -/
theorem normalize_parsed_inv {code : TransportCode} {authority : Option Text}
    {parsed url : lib.Url} (h : normalizeParsed lib code authority parsed = .ok url) :
    ∃ host hosted ported, lib.isAbsolute parsed = true ∧ lib.withHost parsed host = .ok hosted ∧
      (ported = hosted ∨ lib.withoutPort hosted = .ok ported) ∧
      lib.withoutFragment ported = .ok url := by
  unfold normalizeParsed at h
  dsimp only at h
  split at h
  · simp only [throw_bind, guard_eq_ok, bind_eq_ok, guarded_eq_ok] at h
    obtain ⟨habsolute, host?, -, h⟩ := h
    cases host? with
    | none => cases h
    | some host =>
        simp only [guard_eq_ok, bind_eq_ok, guarded_eq_ok] at h
        obtain ⟨-, user, -, -, password, -, -, hosted, hhosted, normalized?, -, h⟩ := h
        cases normalized? with
        | none => cases h
        | some normalized =>
            have hport : ∃ schemePort, normalizePort lib code schemePort hosted = .ok url := by
              dsimp only at h
              split at h
              · rw [bind_eq_ok] at h
                obtain ⟨rawHost?, -, h⟩ := h
                cases rawHost? with
                | none => cases h
                | some rawHost =>
                    rw [guard_eq_ok] at h
                    exact ⟨_, h.2⟩
              · exact ⟨_, h⟩
            obtain ⟨schemePort, hport⟩ := hport
            obtain ⟨ported, hported, hurl⟩ := normalize_port_inv hport
            exact ⟨host, hosted, ported, by simpa using habsolute, hhosted, hported, hurl⟩
  · cases h

/-- A normalized URL comes from a parsed absolute one, whose host, port and fragment were
rewritten. -/
theorem normalize_url_inv {rawUrl : Text} {redirect : Bool} {base : Option lib.Url}
    {url : lib.Url} (h : normalizeUrl lib rawUrl redirect base = .ok url) :
    ∃ parsed host hosted ported, (base = none → lib.parse rawUrl = .ok parsed) ∧
      lib.isAbsolute parsed = true ∧ lib.withHost parsed host = .ok hosted ∧
      (ported = hosted ∨ lib.withoutPort hosted = .ok ported) ∧
      lib.withoutFragment ported = .ok url := by
  rw [normalize_url_eq] at h
  simp only [throw_bind, guard_eq_ok, bind_eq_ok, guarded_eq_ok] at h
  obtain ⟨-, target, htarget, h⟩ := h
  cases base with
  | none =>
      obtain ⟨host, hosted, ported, hrest⟩ := normalize_parsed_inv h
      exact ⟨target, host, hosted, ported, fun _ => htarget, hrest⟩
  | some base =>
      dsimp only at h
      rw [bind_eq_ok] at h
      obtain ⟨parsed, -, h⟩ := h
      obtain ⟨host, hosted, ported, hrest⟩ := normalize_parsed_inv h
      exact ⟨parsed, host, hosted, ported, nofun, hrest⟩

/-! ## Absolute URLs -/

/-- How the URL package treats absolute URLs: the empty text is none, a URL with a host is one, and
it stays one without its port and fragment. -/
structure AbsoluteUrls (lib : UrlLibrary) : Prop where
  parse_empty : ∀ url, lib.parse [] = .ok url → lib.isAbsolute url = false
  with_host : ∀ url host hosted, lib.withHost url host = .ok hosted → lib.isAbsolute hosted = true
  without_port : ∀ url ported, lib.withoutPort url = .ok ported → lib.isAbsolute url = true →
    lib.isAbsolute ported = true
  without_fragment : ∀ url bare, lib.withoutFragment url = .ok bare → lib.isAbsolute url = true →
    lib.isAbsolute bare = true

/-- A normalized URL is absolute. -/
theorem normalize_url_absolute (urls : AbsoluteUrls lib) {rawUrl : Text} {redirect : Bool}
    {base : Option lib.Url} {url : lib.Url} (h : normalizeUrl lib rawUrl redirect base = .ok url) :
    lib.isAbsolute url = true := by
  obtain ⟨parsed, host, hosted, ported, -, -, hhosted, hported, hurl⟩ := normalize_url_inv h
  have hosted_absolute : lib.isAbsolute hosted = true := urls.with_host parsed host hosted hhosted
  refine urls.without_fragment ported url hurl ?_
  rcases hported with rfl | hported
  · exact hosted_absolute
  · exact urls.without_port hosted ported hported hosted_absolute

/-- The empty text is not normalized. -/
theorem normalize_url_ne_nil (urls : AbsoluteUrls lib) {rawUrl : Text} {redirect : Bool}
    {url : lib.Url} (h : normalizeUrl lib rawUrl redirect none = .ok url) : rawUrl ≠ [] := by
  obtain ⟨parsed, -, -, -, hparse, habsolute, -⟩ := normalize_url_inv h
  rintro rfl
  rw [urls.parse_empty parsed (hparse rfl)] at habsolute
  cases habsolute

end Normalize

end GrowthOs.Acquisition
