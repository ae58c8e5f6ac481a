import GrowthOs.Acquisition.Addresses
import GrowthOs.Acquisition.Message

/-!
# The redirect loop

The loop of `_fetch`, which `acquisition/html.py` and `acquisition/robots.py` both have, over a
network that answers one lookup and one request a hop. The two copies differ in the names of their
errors and in what they do with a response that is not a redirect.
-/

namespace GrowthOs.Acquisition

open Library

/-- The error codes that both fetch functions have for a hop. -/
inductive HopCode where
  | invalidUrl
  | disallowedPort
  | dnsFailure
  | disallowedAddress
  | timeout
  | tlsFailure
  | networkFailure
  | tooManyRedirects
  | invalidRedirect
  deriving DecidableEq, Repr

/-- The string value of an error code. -/
def HopCode.value : HopCode → String
  | .invalidUrl => "invalid_url"
  | .disallowedPort => "disallowed_port"
  | .dnsFailure => "dns_failure"
  | .disallowedAddress => "disallowed_address"
  | .timeout => "timeout"
  | .tlsFailure => "tls_failure"
  | .networkFailure => "network_failure"
  | .tooManyRedirects => "too_many_redirects"
  | .invalidRedirect => "invalid_redirect"

/-- The code of a `TransportError` of `normalize_url`. -/
def HopCode.ofTransport : TransportCode → HopCode
  | .invalidUrl => .invalidUrl
  | .invalidRedirect => .invalidRedirect
  | .disallowedPort => .disallowedPort

/-- The code of a `TransportError` of `resolve`. -/
def HopCode.ofResolve : ResolveCode → HopCode
  | .invalidUrl => .invalidUrl
  | .dnsFailure => .dnsFailure
  | .disallowedAddress => .disallowedAddress

/-- The code that the handlers of the fetch functions give to an exception, `none` where they let
it pass. -/
def HopCode.ofRaised : Raised → Option HopCode
  | .deadline | .timeoutError => some .timeout
  | .tlsError => some .tlsFailure
  | .clientError | .osError | .valueError => some .networkFailure
  | .cancelled | .typeError | .other => none

/-- What leaves a fetch function: its own error, or another exception. -/
inductive FetchFailure (E : Type) where
  | fetchError (error : E)
  | raised (error : Raised)
  deriving DecidableEq, Repr

/-- The same failure with other errors. -/
def FetchFailure.map {E E' : Type} (f : E → E') : FetchFailure E → FetchFailure E'
  | .fetchError error => .fetchError (f error)
  | .raised error => .raised error

/-- A response: its body is a stream of chunks, which may end with an exception. -/
structure Response where
  status : Int
  headers : List (Text × Text)
  chunks : List ByteArray
  streamEnd : Option Raised

/-- `response.headers.getall(name, [])`. -/
def Response.getall (response : Response) (name : Text) : List Text :=
  (response.headers.filter fun header => lowerAscii header.1 = lowerAscii name).map Prod.snd

/-- What the name server, the server and the client library do at each hop. -/
structure Network (lib : FetchLibrary) where
  getaddrinfo : Nat → Resolver
  get : Nat → lib.Url → List Address → Except Raised Response
  /-- An exception out of `session.close()`. -/
  close : Nat → Option Raised

/-- A request: the URL and the addresses that its connector is pinned to. -/
structure Hop (lib : FetchLibrary) where
  url : lib.Url
  addresses : List Address

/-- The requests that a fetch function makes, and what it returns or raises. -/
structure Fetch (lib : FetchLibrary) (E α : Type) where
  requests : List (Hop lib)
  result : Except (FetchFailure E) α

/-- `_REDIRECT_STATUSES`. -/
def redirectStatuses : List Int := [301, 302, 303, 307, 308]

/-- `_MAX_REDIRECTS`. -/
def maxRedirects : Nat := 5

section Loop

variable (lib : FetchLibrary) {E α : Type} (named : HopCode → E)

/-- `_normalize_url`. -/
def hopUrl (rawUrl : Text) (redirect : Bool) (base : Option lib.Url) :
    Except (FetchFailure E) lib.Url :=
  (normalizeUrl lib.toUrlLibrary rawUrl redirect base).mapError fun
    | .transportError code => .fetchError (named (.ofTransport code))
    | .unhandled error => .raised error.raised

/-- `_resolve`. -/
def hopAddresses (getaddrinfo : Resolver) (url : lib.Url) :
    Except (FetchFailure E) (List Address) :=
  (resolve lib getaddrinfo url).mapError fun
    | .transportError code => .fetchError (named (.ofResolve code))
    | .unhandled error => .raised error

/-- The redirect branch of the loop: the next URL. -/
def redirectUrl (remaining : Nat) (current : lib.Url) (response : Response) :
    Except (FetchFailure E) lib.Url := do
  if remaining = 0 then throw (.fetchError (named .tooManyRedirects))
  match response.getall (Text.ofString "Location") with
  | [location] =>
      if (stripSpace location).isEmpty then throw (.fetchError (named .invalidRedirect))
      hopUrl lib named location true (some current)
  | _ => throw (.fetchError (named .invalidRedirect))

variable (net : Network lib) (finish : List Text → lib.Url → Response → Except (FetchFailure E) α)

/-- The loop of `_fetch`. `remaining` is `_MAX_REDIRECTS - redirect_count`, and `finish` is what
follows the test of the redirect statuses. -/
def fetchLoop : Nat → List Text → lib.Url → Fetch lib E α
  | remaining, chain, current =>
      let redirectCount := maxRedirects - remaining
      let chain := chain ++ [lib.toText current]
      match hopAddresses lib named (net.getaddrinfo redirectCount) current with
      | .error failure => ⟨[], .error failure⟩
      | .ok addresses =>
          let hop : Hop lib := ⟨current, addresses⟩
          match net.get redirectCount current addresses with
          | .error error => ⟨[hop], .error (.raised error)⟩
          | .ok response =>
              let answered : Except (FetchFailure E) (lib.Url ⊕ α) :=
                if response.status ∈ redirectStatuses then
                  (redirectUrl lib named remaining current response).map Sum.inl
                else (finish chain current response).map Sum.inr
              -- The `finally` block runs before the loop goes on.
              match net.close redirectCount, answered with
              | some error, _ => ⟨[hop], .error (.raised error)⟩
              | none, .error failure => ⟨[hop], .error failure⟩
              | none, .ok (.inr value) => ⟨[hop], .ok value⟩
              | none, .ok (.inl next) =>
                  match remaining with
                  | 0 => ⟨[hop], .error (.fetchError (named .tooManyRedirects))⟩
                  | remaining + 1 =>
                      let rest := fetchLoop remaining chain next
                      ⟨hop :: rest.requests, rest.result⟩

end Loop

/-- The handlers of `fetch_html` and `fetch_robots`. -/
def guardFetch {lib : FetchLibrary} {E α : Type} (named : HopCode → E) (fetch : Fetch lib E α) :
    Fetch lib E α :=
  match fetch.result with
  | .error (.raised error) =>
      match HopCode.ofRaised error with
      | some code => ⟨fetch.requests, .error (.fetchError (named code))⟩
      | none => fetch
  | _ => fetch

end GrowthOs.Acquisition
