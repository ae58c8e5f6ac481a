import GrowthOs.Acquisition.Html
import GrowthOs.Robots.Gate

/-!
# Fetching a robots file

`acquisition/robots.py`.
-/

namespace GrowthOs.Acquisition

open Library Robots

/-- The string value of an error code. -/
def robotsCodeValue : RobotsFetchErrorCode → String
  | .invalidUrl => "invalid_url"
  | .disallowedPort => "disallowed_port"
  | .dnsFailure => "dns_failure"
  | .disallowedAddress => "disallowed_address"
  | .timeout => "timeout"
  | .tlsFailure => "tls_failure"
  | .networkFailure => "network_failure"
  | .tooManyRedirects => "too_many_redirects"
  | .invalidRedirect => "invalid_redirect"
  | .unsupportedContentType => "unsupported_content_type"
  | .bodyTooLarge => "body_too_large"
  | .unsupportedCharset => "unsupported_charset"

/-- `RobotsFetchErrorCode(error.code)`. -/
def robotsHopError : HopCode → RobotsFetchErrorCode
  | .invalidUrl => .invalidUrl
  | .disallowedPort => .disallowedPort
  | .dnsFailure => .dnsFailure
  | .disallowedAddress => .disallowedAddress
  | .timeout => .timeout
  | .tlsFailure => .tlsFailure
  | .networkFailure => .networkFailure
  | .tooManyRedirects => .tooManyRedirects
  | .invalidRedirect => .invalidRedirect

/-- `_BODY_LIMIT` of `robots.py`. -/
def robotsBodyLimit : Nat := 512000

/-- A character of `_TOKEN`. -/
def isTokenChar (c : Nat) : Bool :=
  isAlnum c || (Text.ofString "!#$%&'*+-.^_|~").contains c || c == 0x60

/-- A character in `_QUOTED` that stands for itself. -/
def isQuotedChar (c : Nat) : Bool :=
  c == 0x09 || c == 0x20 || c == 0x21 || (0x23 ≤ c && c ≤ 0x5B) || (0x5D ≤ c && c ≤ 0x7E)

/-- The text after one `_TOKEN`. -/
def afterToken (s : Text) : Option Text :=
  if (s.takeWhile isTokenChar).isEmpty then none else some (s.dropWhile isTokenChar)

/-- The text after the closing quote of a `_QUOTED`, from within it. -/
def afterQuoted : Text → Option Text
  | [] => none
  | 0x22 :: rest => some rest
  | 0x5C :: c :: rest => if c = 0x09 ∨ (0x20 ≤ c ∧ c ≤ 0x7E) then afterQuoted rest else none
  | c :: rest => if isQuotedChar c then afterQuoted rest else none

/-- The text after one parameter of `_CONTENT_TYPE_PATTERN`, from behind its semicolon. -/
def afterParameter (s : Text) : Option Text := do
  let s ← afterToken (s.dropWhile isSpace)
  match s.dropWhile isSpace with
  | 0x3D :: s =>
      match s.dropWhile isSpace with
      | 0x22 :: s => afterQuoted s
      | s => afterToken s
  | _ => none

/-- The parameters and the trailing space of `_CONTENT_TYPE_PATTERN`. `fuel` bounds the number of
parameters. -/
def matchesParameters : Nat → Text → Bool
  | 0, _ => false
  | fuel + 1, s =>
      match s.dropWhile isSpace with
      | [] => true
      | 0x3B :: s => (afterParameter s).any (matchesParameters fuel)
      | _ => false

/-- `_CONTENT_TYPE_PATTERN.fullmatch`. -/
def isContentType (s : Text) : Bool :=
  match afterToken s with
  | some (0x2F :: s) => (afterToken s).any fun s => matchesParameters (s.length + 1) s
  | _ => false

/-- The texts at the start of the value and behind each of its semicolons. -/
def afterSemicolons : Text → List Text
  | [] => []
  | c :: rest => if c = 0x3B then rest :: afterSemicolons rest else afterSemicolons rest

/-- The text after `charset`, in any case. `re.IGNORECASE` also takes U+017F for an s. -/
def afterCharset (s : Text) : Option Text :=
  let name := s.take 7
  if name.map (fun c => if c = 0x17F then 0x73 else Text.lowerChar c) = Text.ofString "charset" then
    some (s.drop 7)
  else none

/-- `re.search(r"(?:^|;)\s*charset\s*=\s*(?:;|$)", value, re.IGNORECASE)`. -/
def hasEmptyCharset (value : Text) : Bool :=
  (value :: afterSemicolons value).any fun s =>
    (afterCharset (s.dropWhile isSpace)).any fun s =>
      match s.dropWhile isSpace with
      | 0x3D :: s => (s.dropWhile isSpace).head?.all (· == 0x3B)
      | _ => false

/-- `re.search(r"(?:^|;)\s*charset\*", value, re.IGNORECASE)`. -/
def hasExtendedCharset (value : Text) : Bool :=
  (value :: afterSemicolons value).any fun s =>
    (afterCharset (s.dropWhile isSpace)).any fun s => s.head? = some 0x2A

/-! ## The fetch -/

/-- `RobotsFetchError(code)`. -/
def robotsError (code : RobotsFetchErrorCode) : FetchFailure RobotsFetchErrorCode :=
  .fetchError code

/-- The test of the charset in `_content_type`. -/
def isUtf8Charset : ParamValue → Bool
  | .text charset => charset.all (· < 0x80) && lowerAscii charset == Text.ofString "utf-8"
  | .extended _ _ _ => false

/-- `_content_type`. -/
def robotsContentType (response : Response) : Except (FetchFailure RobotsFetchErrorCode) Text := do
  match response.getall (Text.ofString "Content-Type") with
  | [value] =>
      if hasEmptyCharset value then throw (robotsError .unsupportedCharset)
      if hasExtendedCharset value then throw (robotsError .unsupportedCharset)
      if !isContentType value then throw (robotsError .unsupportedContentType)
      let header ← (headerText value).mapError fun error => FetchFailure.raised error.raised
      if lowerAscii (getContentType header) ≠ Text.ofString "text/plain" then
        throw (robotsError .unsupportedContentType)
      let params ← (getParams header).mapError fun error => FetchFailure.raised error.raised
      match declaredCharsets params with
      | [] => pure (Text.ofString "text/plain")
      | [declared] =>
          if isUtf8Charset declared then pure (Text.ofString "text/plain")
          else throw (robotsError .unsupportedCharset)
      | _ => throw (robotsError .unsupportedCharset)
  | _ => throw (robotsError .unsupportedContentType)

/-- `_read_body` of `robots.py`. -/
def readRobotsBody (response : Response) : Except (FetchFailure RobotsFetchErrorCode) ByteArray :=
  readChunks robotsBodyLimit .bodyTooLarge response.streamEnd response.chunks .empty

section Robots

variable (lib : FetchLibrary)

/-- The loop of `_fetch` in `robots.py` after the test of the redirect statuses. -/
def finishRobots (site robotsUrl : lib.Url) (chain : List Text) (current : lib.Url)
    (response : Response) : Except (FetchFailure RobotsFetchErrorCode) FetchedRobots := do
  if response.status ≠ 200 then
    return ⟨lib.toText site, lib.toText robotsUrl, lib.toText current, response.status, none, none,
      chain⟩
  let contentType ← robotsContentType response
  let body ← readRobotsBody response
  pure ⟨lib.toText site, lib.toText robotsUrl, lib.toText current, 200, some contentType,
    some body, chain⟩

variable (net : Network lib)

/-- `_fetch` of `robots.py`. -/
def robotsFetch (site robotsUrl : lib.Url) : Fetch lib RobotsFetchErrorCode FetchedRobots :=
  fetchLoop lib robotsHopError net (finishRobots lib site robotsUrl) maxRedirects [] robotsUrl

/-- `site.with_path("/robots.txt").with_query(None)`. -/
def robotsUrlOf (site : lib.Url) : Except LibraryError lib.Url := do
  let url ← lib.withPath site (Text.ofString "/robots.txt")
  lib.withoutQuery url

/-- The site and the URL of its robots file. -/
def robotsStart (siteUrl : Text) :
    Except (FetchFailure RobotsFetchErrorCode) (lib.Url × lib.Url) := do
  let site ← hopUrl lib robotsHopError siteUrl false none
  let robotsUrl ← (robotsUrlOf lib site).mapError fun error => FetchFailure.raised error.raised
  pure (site, robotsUrl)

/-- `fetch_robots`. -/
def fetchRobots (siteUrl : Text) : Fetch lib RobotsFetchErrorCode FetchedRobots :=
  guardFetch robotsHopError <|
    match robotsStart lib siteUrl with
    | .error failure => ⟨[], .error failure⟩
    | .ok (site, robotsUrl) => robotsFetch lib net site robotsUrl

end Robots

example : isContentType (Text.ofString "text/plain; charset=\"utf-8\" ") = true := by
  decide +kernel

end GrowthOs.Acquisition
