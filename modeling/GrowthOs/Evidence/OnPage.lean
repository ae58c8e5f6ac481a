import GrowthOs.Library.Html5

/-!
# The text of headings

The handlers of `_OnPageParser` in `evidence/on_page.py`, as far as they collect the text of titles
and headings, and the headings of `evidence`.
-/

namespace GrowthOs.Evidence

open Library

/-- `h1`. -/
def h1Tag : Text := Text.ofString "h1"

/-- `title`. -/
def titleTag : Text := Text.ofString "title"

/-- `_IGNORED_TEXT_TAGS`. -/
def ignoredTextTags : List Text := ["script", "style", "template", "noscript"].map Text.ofString

/-- `_TextCollector`. -/
structure TextCollector where
  tag : Text
  parts : List Text
  deriving DecidableEq

/-- The state of `_OnPageParser` that the handlers of text use. A collector that is active is named
by its place among all collectors. -/
structure OnPageParser where
  textCollectors : List TextCollector
  activeCollectors : List Nat
  ignoredTags : List Text
  deriving DecidableEq

/-- The state of a new parser. -/
def OnPageParser.new : OnPageParser := ⟨[], [], []⟩

/-- What `HTMLParser` calls a handler with. -/
inductive HtmlEvent where
  | starttag (tag : Text)
  | startendtag (tag : Text)
  | endtag (tag : Text)
  | text (event : TextEvent)

/-- A list without the last of its elements that match. -/
def closeLast {α : Type} (matching : α → Bool) (openItems : List α) : List α :=
  (openItems.reverse.eraseP matching).reverse

/-- `_WHITESPACE.sub(" ", value)`. -/
def collapseSpace : Text → Text
  | [] => []
  | c :: s =>
      if Text.isSpace c then
        if s.head?.any Text.isSpace then collapseSpace s else 0x20 :: collapseSpace s
      else c :: collapseSpace s

/-- `_normalize` of a string. -/
def normalizeText (value : Text) : Option Text :=
  let normalized := Text.strip Text.isSpace (collapseSpace value)
  if normalized = [] then none else some normalized

namespace OnPageParser

/-- Add to the parts of a collector what its tag makes of a part. `none` is an exception. -/
def addPart (part : Text → Option Text) (parser : OnPageParser) (index : Nat) :
    Option OnPageParser :=
  match parser.textCollectors[index]? with
  | none => some parser
  | some collector =>
      (part collector.tag).map fun text =>
        { parser with
          textCollectors :=
            parser.textCollectors.set index { collector with parts := collector.parts ++ [text] } }

/-- The loop over the active collectors, unless an ignored tag is open. -/
def addParts (part : Text → Option Text) (parser : OnPageParser) : Option OnPageParser :=
  if parser.ignoredTags ≠ [] then some parser
  else parser.activeCollectors.foldlM (addPart part) parser

/-- `handle_data`. -/
def handleData (data : Text) : OnPageParser → Option OnPageParser := addParts fun _ => some data

section

variable (table : EntityTable)

/-- `_record_character_reference`. -/
def recordCharacterReference (reference : Text) : OnPageParser → Option OnPageParser :=
  addParts fun tag => if tag = titleTag then some reference else unescape table reference

/-- `handle_entityref`. -/
def handleEntityref (name : Text) : OnPageParser → Option OnPageParser :=
  recordCharacterReference table (0x26 :: (name ++ [0x3B]))

/-- `handle_charref`. -/
def handleCharref (name : Text) : OnPageParser → Option OnPageParser :=
  recordCharacterReference table (0x26 :: 0x23 :: (name ++ [0x3B]))

/-- The handler of an event of text. -/
def handleText : TextEvent → OnPageParser → Option OnPageParser
  | .data text => handleData text
  | .entityref name => handleEntityref table name
  | .charref name => handleCharref table name

end

section

variable (casefold : Text → Text)

/-- `handle_starttag`. -/
def handleStarttag (tag : Text) (parser : OnPageParser) : OnPageParser :=
  let normalizedTag := casefold tag
  let parser :=
    if normalizedTag = titleTag ∨ normalizedTag = h1Tag then
      { parser with
        textCollectors := parser.textCollectors ++ [⟨normalizedTag, []⟩]
        activeCollectors := parser.activeCollectors ++ [parser.textCollectors.length] }
    else parser
  if normalizedTag ∈ ignoredTextTags then
    { parser with ignoredTags := parser.ignoredTags ++ [normalizedTag] }
  else parser

/-- `handle_endtag`. -/
def handleEndtag (tag : Text) (parser : OnPageParser) : OnPageParser :=
  let normalizedTag := casefold tag
  let parser :=
    if normalizedTag ∈ ignoredTextTags then
      { parser with ignoredTags := closeLast (· == normalizedTag) parser.ignoredTags }
    else parser
  if normalizedTag = titleTag ∨ normalizedTag = h1Tag then
    { parser with
      activeCollectors := closeLast (fun index =>
        (parser.textCollectors[index]?).map TextCollector.tag == some normalizedTag)
        parser.activeCollectors }
  else parser

variable (table : EntityTable)

/-- The handler of an event. -/
def handle (parser : OnPageParser) : HtmlEvent → Option OnPageParser
  | .starttag tag => some (parser.handleStarttag casefold tag)
  | .startendtag tag => some ((parser.handleStarttag casefold tag).handleEndtag casefold tag)
  | .endtag tag => some (parser.handleEndtag casefold tag)
  | .text event => handleText table event parser

/-- The handlers of some events, one after the other. -/
def feed (parser : OnPageParser) (events : List HtmlEvent) : Option OnPageParser :=
  events.foldlM (handle casefold table) parser

end

/-- The headings of `evidence`. -/
def h1Texts (parser : OnPageParser) : List Text :=
  parser.textCollectors.filterMap fun collector =>
    if collector.tag = h1Tag then normalizeText collector.parts.flatten else none

end OnPageParser

/-- The events of a heading whose content is a text without a tag. -/
def h1Element (start content finish : Text) : List HtmlEvent :=
  .starttag start :: ((parseText content).map .text ++ [.endtag finish])

end GrowthOs.Evidence
