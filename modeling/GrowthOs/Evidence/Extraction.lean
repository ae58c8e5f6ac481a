import GrowthOs.Evidence.Headings
import GrowthOs.Library.Urls

/-!
# The evidence of a page

The whole of `evidence/on_page.py`: the handlers of `_OnPageParser` with their attributes, the
parser of titles, and `extract_on_page_evidence`. The handlers of text are those of `OnPageParser`.
-/

namespace GrowthOs.Evidence

open Library Library.Urls

/-- `html`. -/
def htmlTag : Text := Text.ofString "html"

/-- `meta`. -/
def metaTag : Text := Text.ofString "meta"

/-- `link`. -/
def linkTag : Text := Text.ofString "link"

/-- The attributes of a start tag, in its order. -/
abbrev Attributes := List (Text × Option Text)

/-- What `HTMLParser` calls a handler with, attributes included. -/
inductive PageEvent where
  | starttag (tag : Text) (attrs : Attributes)
  | startendtag (tag : Text) (attrs : Attributes)
  | endtag (tag : Text)
  | text (event : TextEvent)

/-- The standard library, as far as a page is read with it. The calls that a parser makes of its
handlers are `none` where it raises `ValueError` for a reference in an attribute or in a title. -/
structure PageLibrary where
  casefold : Text → Text
  /-- The names that `unescape` knows. -/
  table : EntityTable
  /-- `HTMLParser` without `convert_charrefs`, fed with a page and closed. -/
  pageEvents : Text → Option (List PageEvent)
  /-- `HTMLParser` with `convert_charrefs`, fed with a title and closed. -/
  titleEvents : Text → Option (List HtmlEvent)
  /-- The tests of a network location in `urlsplit`. -/
  refuses : Text → Bool
  /-- `uses_netloc`. -/
  usesNetloc : Text → Bool
  /-- `none` where it raises `ValueError`. -/
  urljoin : Text → Text → Option Text

/-- `OnPageEvidence`. -/
structure OnPageEvidence where
  sourceUrl : Text
  title : Option Text
  metaDescription : Option Text
  canonicalUrl : Option Text
  robots : Option Text
  htmlLang : Option Text
  h1Texts : List Text
  deriving DecidableEq

/-- The `ValueError`s of `extract_on_page_evidence`: two of its own, and that of a character
reference with too many digits. -/
inductive ExtractionError where
  | tooLong
  | sourceUrl
  | reference
  deriving DecidableEq

/-- `_MAX_HTML_LENGTH`. -/
def maxHtmlLength : Nat := 1000000

/-- `_normalize`. -/
def normalize (value : Option Text) : Option Text := value.bind normalizeText

/-- `str.split()`. -/
def words (s : Text) : List Text := (s.splitOnP Text.isSpace).filter fun word => !word.isEmpty

/-- `attributes.get(key)`, after `{name.casefold(): value for name, value in attrs}`. -/
def Attributes.get (casefold : Text → Text) (attrs : Attributes) (key : String) : Option Text :=
  (attrs.reverse.find? fun found => casefold found.1 == Text.ofString key).bind Prod.snd

/-- `_TitleTextParser`. -/
structure TitleTextParser where
  parts : List Text
  ignoredTags : List Text

namespace TitleTextParser

/-- The state of a new parser. -/
def new : TitleTextParser := ⟨[], []⟩

variable (casefold : Text → Text)

/-- `handle_starttag`. -/
def handleStarttag (tag : Text) (parser : TitleTextParser) : TitleTextParser :=
  if casefold tag ∈ ignoredTextTags then
    { parser with ignoredTags := parser.ignoredTags ++ [casefold tag] }
  else parser

/-- `handle_endtag`. -/
def handleEndtag (tag : Text) (parser : TitleTextParser) : TitleTextParser :=
  { parser with ignoredTags := closeLast (· == casefold tag) parser.ignoredTags }

/-- `handle_data`. -/
def handleData (data : Text) (parser : TitleTextParser) : TitleTextParser :=
  if parser.ignoredTags = [] then { parser with parts := parser.parts ++ [data] } else parser

/-- The handler of an event. The handlers of references are those of `HTMLParser`, which do
nothing. -/
def handle (parser : TitleTextParser) : HtmlEvent → TitleTextParser
  | .starttag tag => parser.handleStarttag casefold tag
  | .startendtag tag => (parser.handleStarttag casefold tag).handleEndtag casefold tag
  | .endtag tag => parser.handleEndtag casefold tag
  | .text (.data data) => parser.handleData data
  | .text (.entityref _) => parser
  | .text (.charref _) => parser

end TitleTextParser

/-! ## The parser of pages -/

/-- `_OnPageParser`. -/
structure PageParser where
  sourceUrl : Text
  /-- The collectors and the ignored tags. -/
  text : OnPageParser
  metaDescription : Option Text
  robots : Option Text
  htmlLang : Option Text
  sawHtml : Bool
  canonicalCandidate : Option Text

/-- The state of a new parser. -/
def PageParser.new (sourceUrl : Text) : PageParser :=
  ⟨sourceUrl, .new, none, none, none, false, none⟩

section

variable (lib : PageLibrary)

/-- `_parse_http_url`. -/
def parseHttpUrl (value : Text) : Option SplitResult :=
  (urlsplit lib.refuses value).filter fun parsed =>
    [Text.ofString "http", Text.ofString "https"].contains (lib.casefold parsed.scheme) &&
      parsed.hostname.isSome && parsed.username.isNone && parsed.password.isNone

/-- `_without_fragment`. -/
def withoutFragment (parsed : SplitResult) : Text := urlunsplit lib.usesNetloc parsed.dropFragment

/-- `_normalize_title`. -/
def normalizeTitle (parts : List Text) : Option (Option Text) :=
  (lib.titleEvents parts.flatten).map fun events =>
    normalizeText (events.foldl (TitleTextParser.handle lib.casefold) .new).parts.flatten

namespace PageParser

/-- `_record_meta`. -/
def recordMeta (attrs : Attributes) (parser : PageParser) : PageParser :=
  match normalize (attrs.get lib.casefold "name"), normalize (attrs.get lib.casefold "content") with
  | some name, some content =>
      if lib.casefold name = Text.ofString "description" ∧ parser.metaDescription = none then
        { parser with metaDescription := some content }
      else if lib.casefold name = Text.ofString "robots" ∧ parser.robots = none then
        { parser with robots := some content }
      else parser
  | _, _ => parser

/-- `_record_canonical_candidate`. -/
def recordCanonicalCandidate (attrs : Attributes) (parser : PageParser) : PageParser :=
  if parser.canonicalCandidate ≠ none then parser
  else
    match attrs.get lib.casefold "rel", normalize (attrs.get lib.casefold "href") with
    | some rel, some href =>
        if Text.ofString "canonical" ∈ (words rel).map lib.casefold then
          { parser with canonicalCandidate := some href }
        else parser
    | _, _ => parser

/-- `handle_starttag`. -/
def handleStarttag (tag : Text) (attrs : Attributes) (parser : PageParser) : PageParser :=
  let normalizedTag := lib.casefold tag
  let parser := { parser with text := parser.text.handleStarttag lib.casefold tag }
  if normalizedTag = htmlTag ∧ parser.sawHtml = false then
    { parser with sawHtml := true, htmlLang := normalize (attrs.get lib.casefold "lang") }
  else if normalizedTag = metaTag then parser.recordMeta lib attrs
  else if normalizedTag = linkTag then parser.recordCanonicalCandidate lib attrs
  else parser

/-- `handle_endtag`. -/
def handleEndtag (tag : Text) (parser : PageParser) : PageParser :=
  { parser with text := parser.text.handleEndtag lib.casefold tag }

/-- The handler of an event. -/
def handle (parser : PageParser) : PageEvent → Option PageParser
  | .starttag tag attrs => some (parser.handleStarttag lib tag attrs)
  | .startendtag tag attrs => some ((parser.handleStarttag lib tag attrs).handleEndtag lib tag)
  | .endtag tag => some (parser.handleEndtag lib tag)
  | .text event =>
      (OnPageParser.handleText lib.table event parser.text).map fun text =>
      { parser with text := text }

/-- The handlers of some events, one after the other. -/
def feed (parser : PageParser) (events : List PageEvent) : Option PageParser :=
  events.foldlM (handle lib) parser

/-- `_canonical_url`. -/
def canonicalUrl (parser : PageParser) : Option Text := do
  let candidate ← parser.canonicalCandidate
  let resolved ← lib.urljoin parser.sourceUrl candidate
  let parsed ← parseHttpUrl lib resolved
  some (withoutFragment lib parsed)

/-- The title of `evidence`. Every title is parsed, and the first that is not blank counts. -/
def title (parser : PageParser) : Option (Option Text) :=
  ((parser.text.textCollectors.filter (·.tag = titleTag)).mapM fun collector =>
    normalizeTitle lib collector.parts).map fun titles => (titles.filterMap id).head?

/-- `evidence`, and what `extract_on_page_evidence` puts with it. -/
def evidence (parser : PageParser) : Option OnPageEvidence :=
  (parser.title lib).map fun title =>
    { sourceUrl := parser.sourceUrl
      title
      metaDescription := parser.metaDescription
      canonicalUrl := parser.canonicalUrl lib
      robots := parser.robots
      htmlLang := parser.htmlLang
      h1Texts := parser.text.h1Texts }

end PageParser

/-- `extract_on_page_evidence`. -/
def extractOnPageEvidence (html sourceUrl : Text) : Except ExtractionError OnPageEvidence :=
  if maxHtmlLength < html.length then .error .tooLong
  else
    match parseHttpUrl lib sourceUrl with
    | none => .error .sourceUrl
    | some parsed =>
        let evidence := do
          let events ← lib.pageEvents html
          let parser ← (PageParser.new (withoutFragment lib parsed)).feed lib events
          parser.evidence lib
        evidence.elim (.error .reference) .ok

end

end GrowthOs.Evidence
