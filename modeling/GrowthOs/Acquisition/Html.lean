import GrowthOs.Acquisition.Fetch

/-!
# Fetching a page

`acquisition/html.py`.
-/

namespace GrowthOs.Acquisition

open Library

/-- `HtmlFetchErrorCode`. -/
inductive HtmlFetchErrorCode where
  | invalidUrl
  | disallowedPort
  | dnsFailure
  | disallowedAddress
  | timeout
  | tlsFailure
  | networkFailure
  | tooManyRedirects
  | invalidRedirect
  | httpStatus
  | unsupportedContentType
  | bodyTooLarge
  | unsupportedCharset
  deriving DecidableEq, Repr

/-- The string value of an error code. -/
def HtmlFetchErrorCode.value : HtmlFetchErrorCode → String
  | .invalidUrl => "invalid_url"
  | .disallowedPort => "disallowed_port"
  | .dnsFailure => "dns_failure"
  | .disallowedAddress => "disallowed_address"
  | .timeout => "timeout"
  | .tlsFailure => "tls_failure"
  | .networkFailure => "network_failure"
  | .tooManyRedirects => "too_many_redirects"
  | .invalidRedirect => "invalid_redirect"
  | .httpStatus => "http_status"
  | .unsupportedContentType => "unsupported_content_type"
  | .bodyTooLarge => "body_too_large"
  | .unsupportedCharset => "unsupported_charset"

/-- `HtmlFetchError`. -/
structure HtmlFetchError where
  code : HtmlFetchErrorCode
  statusCode : Option Int
  deriving DecidableEq, Repr

/-- The constructor of `HtmlFetchError`, which keeps the status of `HTTP_STATUS` only. -/
def HtmlFetchError.new (code : HtmlFetchErrorCode) (statusCode : Option Int) : HtmlFetchError :=
  ⟨code, if code = .httpStatus then statusCode else none⟩

/-- `HtmlFetchErrorCode(exc.code)`. -/
def HtmlFetchErrorCode.ofHop : HopCode → HtmlFetchErrorCode
  | .invalidUrl => .invalidUrl
  | .disallowedPort => .disallowedPort
  | .dnsFailure => .dnsFailure
  | .disallowedAddress => .disallowedAddress
  | .timeout => .timeout
  | .tlsFailure => .tlsFailure
  | .networkFailure => .networkFailure
  | .tooManyRedirects => .tooManyRedirects
  | .invalidRedirect => .invalidRedirect

/-- The error of a hop. -/
def htmlHopError (code : HopCode) : HtmlFetchError := .new (.ofHop code) none

/-- `FetchedHtml`. -/
structure FetchedHtml where
  requestedUrl : Text
  finalUrl : Text
  statusCode : Int
  contentType : Text
  body : Text
  redirectChain : List Text
  deriving DecidableEq, Repr

/-- `codecs.lookup` and `bytes.decode`. They are given strings here, and `find` and `decode` stand
for their results: `LookupError`, `ValueError` and `UnicodeError` are `false` and `none`. -/
structure Codecs where
  find : Text → Bool
  decode : Text → ByteArray → Option Text

/-- `_ALLOWED_CONTENT_TYPES`. -/
def allowedContentTypes : List Text :=
  [Text.ofString "text/html", Text.ofString "application/xhtml+xml"]

/-- `_BODY_LIMIT` of `html.py`. -/
def htmlBodyLimit : Nat := 2000000

section Html

variable (codecs : Codecs)

/-- `HtmlFetchError(code)`. -/
def htmlError (code : HtmlFetchErrorCode) : FetchFailure HtmlFetchError :=
  .fetchError (.new code none)

/-- `codecs.lookup(charset)` under its handler. It raises `TypeError` on a tuple. -/
def lookupCharset : ParamValue → Except (FetchFailure HtmlFetchError) Text
  | .text charset =>
      if codecs.find charset then pure charset else throw (htmlError .unsupportedCharset)
  | .extended _ _ _ => throw (.raised .typeError)

/-- `_content_type_and_charset`. -/
def contentTypeAndCharset (response : Response) :
    Except (FetchFailure HtmlFetchError) (Text × Text) := do
  match response.getall (Text.ofString "Content-Type") with
  | [value] =>
      let header ← (headerText value).mapError fun error => FetchFailure.raised error.raised
      let mediaType := lowerAscii (getContentType header)
      if mediaType ∉ allowedContentTypes then throw (htmlError .unsupportedContentType)
      let params ← (getParams header).mapError fun error => FetchFailure.raised error.raised
      let charset ← match declaredCharsets params with
        | [] => lookupCharset codecs (.text (Text.ofString "utf-8"))
        | [.text []] => throw (htmlError .unsupportedCharset)
        | [declared] => lookupCharset codecs declared
        | _ => throw (htmlError .unsupportedCharset)
      pure (mediaType, charset)
  | _ => throw (htmlError .unsupportedContentType)

/-- The loop over the chunks of a body with a limit on its size. -/
def readChunks {E : Type} (limit : Nat) (tooLarge : E) (streamEnd : Option Raised) :
    List ByteArray → ByteArray → Except (FetchFailure E) ByteArray
  | [], body =>
      match streamEnd with
      | some error => throw (.raised error)
      | none => pure body
  | chunk :: chunks, body =>
      if body.size + chunk.size > limit then throw (.fetchError tooLarge)
      else readChunks limit tooLarge streamEnd chunks (body ++ chunk)

/-- `_read_body` of `html.py`. -/
def readHtmlBody (response : Response) (charset : Text) :
    Except (FetchFailure HtmlFetchError) Text := do
  let body ← readChunks htmlBodyLimit (.new .bodyTooLarge none) response.streamEnd response.chunks
    .empty
  match codecs.decode charset body with
  | some text => pure text
  | none => throw (htmlError .unsupportedCharset)

variable (lib : FetchLibrary)

/-- The loop of `_fetch` in `html.py` after the test of the redirect statuses. -/
def finishHtml (requestedUrl : Text) (chain : List Text) (current : lib.Url)
    (response : Response) : Except (FetchFailure HtmlFetchError) FetchedHtml := do
  if response.status ≠ 200 then
    throw (.fetchError (.new .httpStatus (some response.status)))
  let (contentType, charset) ← contentTypeAndCharset codecs response
  let body ← readHtmlBody codecs response charset
  pure ⟨requestedUrl, lib.toText current, 200, contentType, body, chain⟩

variable (net : Network lib)

/-- `_fetch` of `html.py`. -/
def htmlFetch (url : lib.Url) : Fetch lib HtmlFetchError FetchedHtml :=
  fetchLoop lib htmlHopError net (finishHtml codecs lib (lib.toText url)) maxRedirects [] url

/-- `fetch_html`. -/
def fetchHtml (url : Text) : Fetch lib HtmlFetchError FetchedHtml :=
  guardFetch htmlHopError <|
    match hopUrl lib htmlHopError url false none with
    | .error failure => ⟨[], .error failure⟩
    | .ok normalized => htmlFetch codecs lib net normalized

end Html

end GrowthOs.Acquisition
