import GrowthOs.Acquisition.Addresses
import GrowthOs.Acquisition.Requoting

/-!
# A URL package for plain URLs

A URL package for URLs without user information, port and address literals, and an address parser
that knows one global address: an instance of what the results about the fetch functions assume.
-/

namespace GrowthOs.Acquisition

open Library

/-- A parsed URL. The authority is `none` in a relative reference. -/
structure PlainUrl where
  scheme : Text
  authority : Option Text
  path : Text
  query : Text
  deriving DecidableEq, Repr

/-- The URL of a text. -/
def PlainUrl.parse (rawUrl : Text) : PlainUrl :=
  match findFrom (Text.ofString "://") 0 rawUrl with
  | some schemeLength =>
      ⟨Text.lower (rawUrl.take schemeLength), rawAuthority rawUrl,
        requotedPath (spelledPath rawUrl), requotedQuery (spelledQuery rawUrl)⟩
  | none =>
      ⟨[], none, requote pathQuoter (spelledPath rawUrl), requotedQuery (spelledQuery rawUrl)⟩

/-- The text of a URL. -/
def PlainUrl.toText (url : PlainUrl) : Text :=
  (match url.authority with
    | some authority => url.scheme ++ Text.ofString "://" ++ authority
    | none => []) ++
    url.path ++ if url.query.isEmpty then [] else 0x3F :: url.query

/-- A global IPv4 address. -/
def globalAddress : Text := Text.ofString "93.184.216.34"

/-- `ipaddress.ip_address` on that address. -/
def plainIpAddress (s : Text) : Option IpAddress :=
  if s = globalAddress then
    some ⟨globalAddress, 4, true, false, false, false, false, false, false, none⟩
  else none

/-- The URL package. -/
def plainLibrary : FetchLibrary where
  Url := PlainUrl
  parse rawUrl := .ok (.parse rawUrl)
  join base url :=
    .ok (if url.authority.isSome then url else ⟨base.scheme, base.authority, url.path, url.query⟩)
  scheme := PlainUrl.scheme
  isAbsolute url := url.authority.isSome
  user _ := .ok none
  password _ := .ok none
  host url := .ok url.authority
  rawHost url := .ok url.authority
  port url := .ok (defaultPort url.scheme)
  explicitPort _ := .ok none
  withHost url host := .ok { url with authority := some host }
  withoutPort url := .ok url
  withoutFragment url := .ok url
  toText := PlainUrl.toText
  rawPath := PlainUrl.path
  rawQueryString := PlainUrl.query
  isIpAddress s := (plainIpAddress s).isSome
  withPath url path := .ok { url with path := path, query := [] }
  withoutQuery url := .ok { url with query := [] }
  ipAddress := plainIpAddress
  is_ip_address _ := rfl

instance : DecidableEq plainLibrary.Url := inferInstanceAs (DecidableEq PlainUrl)

end GrowthOs.Acquisition
