import GrowthOs.Acquisition.Transport
import GrowthOs.Library.Except
import Mathlib.Data.List.Basic

/-!
# Address admission

`admit_ip` and `resolve` of `acquisition/_transport.py`, over the address parser and one answer of
`getaddrinfo`.
-/

namespace GrowthOs.Acquisition

open Library

/-- An exception out of a library call, as far as the handlers of the fetch functions tell
exceptions apart. `deadline` is the cancellation that `asyncio.timeout` turns into
`TimeoutError`. -/
inductive Raised where
  | cancelled
  | deadline
  | timeoutError
  /-- The certificate and TLS errors of aiohttp, and `ssl.SSLError`. -/
  | tlsError
  /-- Another `aiohttp.ClientError`. -/
  | clientError
  | osError
  /-- `ValueError` and `UnicodeError`. -/
  | valueError
  | typeError
  | other
  deriving DecidableEq, Repr

/-- An exception of the URL package. -/
def LibraryError.raised : LibraryError → Raised
  | .typeError => .typeError
  | .valueError => .valueError
  | .other => .other

/-- An `ipaddress` object: the properties that `admit_ip` reads. -/
structure IpAddress where
  text : Text
  version : Nat
  isGlobal : Bool
  isLinkLocal : Bool
  isLoopback : Bool
  isMulticast : Bool
  isPrivate : Bool
  isReserved : Bool
  isUnspecified : Bool
  /-- `ipv4_mapped.is_global` of an IPv6 address that maps an IPv4 address. -/
  mappedIsGlobal : Option Bool
  deriving DecidableEq, Repr

/-- The URL package, with the operations of `fetch_robots`, and `ipaddress.ip_address`, which is
`none` where it raises `ValueError`. -/
structure FetchLibrary extends UrlLibrary where
  withPath : Url → Text → Except LibraryError Url
  withoutQuery : Url → Except LibraryError Url
  ipAddress : Text → Option IpAddress
  is_ip_address : ∀ s, isIpAddress s = (ipAddress s).isSome

/-- The codes of a `TransportError`. -/
inductive ResolveCode where
  | invalidUrl
  | dnsFailure
  | disallowedAddress
  deriving DecidableEq, Repr

/-- What leaves `resolve`: a `TransportError`, or an exception that it does not handle. -/
inductive ResolveFailure where
  | transportError (code : ResolveCode)
  | unhandled (error : Raised)
  deriving DecidableEq, Repr

/-- `socket.AF_INET` and `socket.AF_INET6`. -/
inductive AddressFamily where
  | inet
  | inet6
  deriving DecidableEq, Repr

/-- `Address`. -/
structure Address where
  value : Text
  family : AddressFamily
  deriving DecidableEq, Repr

/-- A value in a socket address. A `bool` is not an `int` here. -/
inductive SocketValue where
  | text (value : Text)
  | int (value : Int)
  | other
  deriving DecidableEq, Repr

/-- An answer of `getaddrinfo`. -/
inductive AddressInfo where
  /-- Not a tuple of five items. -/
  | malformed
  /-- `family` is `none` for another family, `sockaddr` is `none` when it is not a tuple. -/
  | info (family : Option AddressFamily) (socktype proto : Int)
      (sockaddr : Option (List SocketValue))
  deriving DecidableEq, Repr

/-- `socket.SOCK_STREAM`. -/
def sockStream : Int := 1

/-- `socket.IPPROTO_TCP`. -/
def ipprotoTcp : Int := 6

/-- `getaddrinfo` on a host and a port. -/
abbrev Resolver := Text → Option Nat → Except Raised (List AddressInfo)

section Resolve

variable (lib : FetchLibrary)

/-- The test of an address in `admit_ip`. -/
def isAdmitted (address : IpAddress) : Bool :=
  address.isGlobal && !address.isLinkLocal && !address.isLoopback && !address.isMulticast &&
    !address.isPrivate && !address.isReserved && !address.isUnspecified &&
    address.mappedIsGlobal.getD true

/-- `admit_ip`. -/
def admitIp (value : Text) : Except ResolveFailure Address :=
  if 0x25 ∈ value then throw (.transportError .disallowedAddress)
  else
    match lib.ipAddress value with
    | none => throw (.transportError .disallowedAddress)
    | some address =>
        if !isAdmitted address then throw (.transportError .disallowedAddress)
        else pure ⟨address.text, if address.version = 6 then .inet6 else .inet⟩

/-- `valid_sockaddr`, and the host of a valid socket address. -/
def sockaddrHost (family : AddressFamily) (port : Option Nat) (sockaddr : List SocketValue) :
    Option Text :=
  match family, sockaddr with
  | .inet, [.text host, .int p] => if some p = port.map Int.ofNat then some host else none
  | .inet6, [.text host, .int p, .int _, .int scope] =>
      if some p = port.map Int.ofNat ∧ scope = 0 then some host else none
  | _, _ => none

/-- The body of the loop of `resolve`, up to the deduplication. -/
def admitAnswer (port : Option Nat) (answer : AddressInfo) : Except ResolveFailure Address :=
  match answer with
  | .info (some family) socktype proto (some sockaddr) =>
      if socktype ≠ sockStream ∨ (proto ≠ 0 ∧ proto ≠ ipprotoTcp) then
        throw (.transportError .disallowedAddress)
      else
        match sockaddrHost family port sockaddr with
        | none => throw (.transportError .disallowedAddress)
        | some host => do
            let address ← admitIp lib host
            if address.family ≠ family then throw (.transportError .disallowedAddress)
            pure address
  | _ => throw (.transportError .disallowedAddress)

/-- The loop of `resolve`. -/
def admitAnswers (port : Option Nat) :
    List AddressInfo → List Address → Except ResolveFailure (List Address)
  | [], admitted => pure admitted
  | answer :: answers, admitted => do
      let address ← admitAnswer lib port answer
      admitAnswers port answers (if address ∈ admitted then admitted else admitted ++ [address])

/-- `getaddrinfo` under its handlers. -/
def lookupAnswers (getaddrinfo : Resolver) (host : Text) (url : lib.Url) :
    Except ResolveFailure (Option Nat × List AddressInfo) :=
  let answered := do
    let port ← (lib.port url).mapError LibraryError.raised
    let answers ← getaddrinfo host port
    pure (port, answers)
  match answered with
  | .ok answers => .ok answers
  | .error .osError | .error .timeoutError | .error .typeError | .error .valueError =>
      .error (.transportError .dnsFailure)
  | .error error => .error (.unhandled error)

/-- `resolve`. -/
def resolve (getaddrinfo : Resolver) (url : lib.Url) : Except ResolveFailure (List Address) := do
  let some host ← (lib.host url).mapError fun error => ResolveFailure.unhandled error.raised
    | throw (.transportError .invalidUrl)
  match admitIp lib host with
  | .ok address => pure [address]
  | .error failure =>
      if (lib.ipAddress host).isSome then throw failure
      let (port, answers) ← lookupAnswers lib getaddrinfo host url
      if answers.isEmpty then throw (.transportError .dnsFailure)
      admitAnswers lib port answers []

end Resolve

/-! ## What is admitted -/

variable {lib : FetchLibrary}

/-- An address that `admit_ip` returned. -/
def Admitted (lib : FetchLibrary) (address : Address) : Prop :=
  ∃ value, admitIp lib value = .ok address

/-- An answer that is admitted is an admitted address. -/
theorem admitted_of_answer {port : Option Nat} {answer : AddressInfo} {address : Address}
    (h : admitAnswer lib port answer = .ok address) : Admitted lib address := by
  unfold admitAnswer at h
  split at h
  · split at h
    · cases h
    · split at h
      · cases h
      · rename_i host _
        simp only [bind_eq_ok, throw_bind, guard_eq_ok, pure_eq_ok] at h
        obtain ⟨admitted, hadmitted, -, rfl⟩ := h
        exact ⟨host, hadmitted⟩
  · cases h

/-- So are all answers. -/
theorem admitted_of_answers {port : Option Nat} {answers : List AddressInfo}
    {admitted addresses : List Address} (hadmitted : ∀ a ∈ admitted, Admitted lib a)
    (h : admitAnswers lib port answers admitted = .ok addresses) :
    ∀ a ∈ addresses, Admitted lib a := by
  induction answers generalizing admitted with
  | nil =>
      cases h
      exact hadmitted
  | cons answer answers ih =>
      simp only [admitAnswers, bind_eq_ok] at h
      obtain ⟨address, haddress, hrest⟩ := h
      refine ih (fun a ha => ?_) hrest
      by_cases hmem : address ∈ admitted
      · rw [if_pos hmem] at ha
        exact hadmitted a ha
      · rw [if_neg hmem, List.mem_append, List.mem_singleton] at ha
        rcases ha with ha | rfl
        · exact hadmitted a ha
        · exact admitted_of_answer haddress

/-- Every address that `resolve` returns was admitted. -/
theorem admitted_of_resolve {getaddrinfo : Resolver} {url : lib.Url} {addresses : List Address}
    (h : resolve lib getaddrinfo url = .ok addresses) : ∀ a ∈ addresses, Admitted lib a := by
  simp only [resolve, bind_eq_ok] at h
  obtain ⟨host?, -, h⟩ := h
  cases host? with
  | none => cases h
  | some host =>
      simp only at h
      cases hhost : admitIp lib host with
      | ok address =>
          rw [hhost] at h
          cases h
          intro a ha
          rw [List.mem_singleton.mp ha]
          exact ⟨host, hhost⟩
      | error failure =>
          rw [hhost] at h
          simp only [throw_bind, guard_eq_ok, bind_eq_ok] at h
          obtain ⟨-, ⟨port, answers⟩, -, -, h⟩ := h
          exact admitted_of_answers (by simp) h

end GrowthOs.Acquisition
