import GrowthOs.Evidence.Extraction
import GrowthOs.Evidence.Pieces

/-!
# The evidence of a tree

What `extract_on_page_evidence` finds in a page whose events are those of a well-nested document:
`extract_document`. What its start tags say does not depend on how they are nested: `extract_head`.
-/

namespace GrowthOs.Evidence

open Library Library.Urls

/-- Elements, text and references that follow one another, with the attributes of every start
tag. -/
inductive Document where
  | nil
  | text (event : TextEvent) (rest : Document)
  | selfClosing (tag : Text) (attrs : Attributes) (rest : Document)
  | element (start : Text) (attrs : Attributes) (finish : Text) (children rest : Document)

namespace Document

/-- The events of a document, in its order. -/
def events : Document → List PageEvent
  | nil => []
  | text event rest => .text event :: rest.events
  | selfClosing tag attrs rest => .startendtag tag attrs :: rest.events
  | element start attrs finish children rest =>
      .starttag start attrs :: (children.events ++ .endtag finish :: rest.events)

/-- The start tags of a document, in its order. -/
def starts : Document → List (Text × Attributes)
  | nil => []
  | text _ rest => rest.starts
  | selfClosing tag attrs rest => (tag, attrs) :: rest.starts
  | element start attrs _ children rest => (start, attrs) :: (children.starts ++ rest.starts)

section

variable (casefold : Text → Text)

/-- The tags of every element are the same but for case. -/
def WellNested : Document → Prop
  | nil => True
  | text _ rest => rest.WellNested
  | selfClosing _ _ rest => rest.WellNested
  | element start _ finish children rest =>
      casefold start = casefold finish ∧ children.WellNested ∧ rest.WellNested

/-- The text and the references that no ignored element hides. -/
def visible (hidden : Bool) : Document → List TextEvent
  | nil => []
  | text event rest => (if hidden then [] else [event]) ++ rest.visible hidden
  | selfClosing _ _ rest => rest.visible hidden
  | element start _ _ children rest =>
      children.visible (hidden || ignoredTextTags.contains (casefold start)) ++ rest.visible hidden

/-- The titles and the headings in the order of their start tags, each with what is visible below
it. -/
def collected (hidden : Bool) : Document → List (Text × List TextEvent)
  | nil => []
  | text _ rest => rest.collected hidden
  | selfClosing tag _ rest =>
      (if casefold tag = titleTag ∨ casefold tag = h1Tag then [(casefold tag, [])] else []) ++
        rest.collected hidden
  | element start _ _ children rest =>
      (if casefold start = titleTag ∨ casefold start = h1Tag then
        [(casefold start, children.visible casefold hidden)] else []) ++
        children.collected (hidden || ignoredTextTags.contains (casefold start)) ++
        rest.collected hidden

end

section

variable (lib : PageLibrary)

/-- The texts of the titles and headings. A title keeps its references as they are written, a
heading has what they stand for, and `none` is one that cannot be read. -/
def texts (document : Document) : Option (List (Text × Text)) :=
  (document.collected lib.casefold false).mapM fun found =>
    (found.2.mapM fun event => partOf lib.table event found.1).map fun parts =>
      (found.1, parts.flatten)

/-- What a `meta` tag says under a name. -/
def metaContent (key : String) (start : Text × Attributes) : Option Text := do
  guard (lib.casefold start.1 = metaTag)
  let name ← normalize (start.2.get lib.casefold "name")
  let content ← normalize (start.2.get lib.casefold "content")
  guard (lib.casefold name = Text.ofString key)
  some content

/-- The target of a canonical link. -/
def canonicalHref (start : Text × Attributes) : Option Text := do
  guard (lib.casefold start.1 = linkTag)
  let rel ← start.2.get lib.casefold "rel"
  let href ← normalize (start.2.get lib.casefold "href")
  guard (Text.ofString "canonical" ∈ (words rel).map lib.casefold)
  some href

/-- What the start tags of a page say, wherever they stand: the language of the first `html` tag,
and the first description, robots directive and canonical link that are not blank. -/
structure Head where
  htmlLang : Option Text
  metaDescription : Option Text
  robots : Option Text
  canonical : Option Text

/-- What some start tags say. -/
def headOf (starts : List (Text × Attributes)) : Head where
  htmlLang := (starts.find? fun start => lib.casefold start.1 = htmlTag).bind fun start =>
    normalize (start.2.get lib.casefold "lang")
  metaDescription := starts.findSome? (metaContent lib "description")
  robots := starts.findSome? (metaContent lib "robots")
  canonical := starts.findSome? (canonicalHref lib)

/-- A canonical link of a page, resolved. -/
def resolveCanonical (sourceUrl href : Text) : Option Text :=
  ((lib.urljoin sourceUrl href).bind (parseHttpUrl lib)).map (withoutFragment lib)

/-- The evidence of a document. -/
def evidence (sourceUrl : Text) (document : Document) : Option OnPageEvidence := do
  let texts ← document.texts lib
  let titles ← (texts.filter (·.1 = titleTag)).mapM fun found => normalizeTitle lib [found.2]
  let head := headOf lib document.starts
  some {
    sourceUrl
    title := titles.findSome? id
    metaDescription := head.metaDescription
    canonicalUrl := head.canonical.bind (resolveCanonical lib sourceUrl)
    robots := head.robots
    htmlLang := head.htmlLang
    h1Texts := (texts.filter (·.1 = h1Tag)).filterMap fun found => normalizeText found.2 }

end

end Document

open Document

/-- The start tags of some events, in their order. -/
def startsOf : List PageEvent → List (Text × Attributes)
  | [] => []
  | .starttag tag attrs :: events => (tag, attrs) :: startsOf events
  | .startendtag tag attrs :: events => (tag, attrs) :: startsOf events
  | .endtag _ :: events => startsOf events
  | .text _ :: events => startsOf events

/-- The start tags of two lists of events. -/
theorem starts_of_append (events more : List PageEvent) :
    startsOf (events ++ more) = startsOf events ++ startsOf more := by
  induction events with
  | nil => rfl
  | cons event events ih =>
      cases event with
      | starttag tag attrs => exact congrArg (_ :: ·) ih
      | startendtag tag attrs => exact congrArg (_ :: ·) ih
      | endtag tag => exact ih
      | text event => exact ih

/-- Those of a document are those of its tree. -/
theorem starts_of_events (document : Document) : startsOf document.events = document.starts := by
  induction document with
  | nil => rfl
  | text event rest ih => exact ih
  | selfClosing tag attrs rest ih => exact congrArg (_ :: ·) ih
  | element start attrs finish children rest ihc ihr =>
      show (start, attrs) :: startsOf (children.events ++ .endtag finish :: rest.events) = _
      rw [starts_of_append, ihc]
      exact congrArg (fun more => (start, attrs) :: (children.starts ++ more)) ihr

section

variable {lib : PageLibrary}

/-- The fields of a parser that the start tags decide, when it has read the head so far. -/
structure HasRead (lib : PageLibrary) (starts : List (Text × Attributes)) (parser : PageParser) :
    Prop where
  sawHtml : parser.sawHtml = starts.any fun start => lib.casefold start.1 = htmlTag
  htmlLang : parser.htmlLang = (headOf lib starts).htmlLang
  metaDescription : parser.metaDescription = (headOf lib starts).metaDescription
  robots : parser.robots = (headOf lib starts).robots
  canonical : parser.canonicalCandidate = (headOf lib starts).canonical

variable (lib) in
/-- A new parser has read no start tag. -/
theorem has_read_new (sourceUrl : Text) : HasRead lib [] (.new sourceUrl) :=
  ⟨rfl, rfl, rfl, rfl, rfl⟩

/-- A `meta` tag fills what is still missing. -/
theorem record_meta_eq {tag : Text} (htag : lib.casefold tag = metaTag) (attrs : Attributes)
    (parser : PageParser) : parser.recordMeta lib attrs =
      { parser with
        metaDescription :=
          parser.metaDescription.or (metaContent lib "description" (tag, attrs))
        robots := parser.robots.or (metaContent lib "robots" (tag, attrs)) } := by
  have hkeys : Text.ofString "description" ≠ Text.ofString "robots" := by decide
  obtain ⟨sourceUrl, text, description, directive, lang, saw, candidate⟩ := parser
  unfold PageParser.recordMeta metaContent
  rw [htag]
  cases hname : normalize (attrs.get lib.casefold "name") with
  | none => simp [guard]
  | some name =>
      cases hcontent : normalize (attrs.get lib.casefold "content") with
      | none => simp [guard]
      | some content =>
          by_cases hdescription : lib.casefold name = Text.ofString "description"
          · cases description with
            | none => simp [guard, hdescription, hkeys]
            | some old => simp [guard, hdescription, hkeys]
          · by_cases hrobots : lib.casefold name = Text.ofString "robots"
            · cases directive with
              | none => simp [guard, hrobots, hkeys.symm]
              | some old => simp [guard, hrobots, hkeys.symm]
            · simp [guard, hdescription, hrobots]

/-- A canonical link counts while none has been seen. -/
theorem record_canonical_eq {tag : Text} (htag : lib.casefold tag = linkTag) (attrs : Attributes)
    (parser : PageParser) : parser.recordCanonicalCandidate lib attrs =
      { parser with
        canonicalCandidate :=
          parser.canonicalCandidate.or (canonicalHref lib (tag, attrs)) } := by
  obtain ⟨sourceUrl, text, description, directive, lang, saw, candidate⟩ := parser
  unfold PageParser.recordCanonicalCandidate canonicalHref
  rw [htag]
  cases candidate with
  | some old => simp
  | none =>
      cases hrel : attrs.get lib.casefold "rel" with
      | none => simp [guard]
      | some rel =>
          cases hhref : normalize (attrs.get lib.casefold "href") with
          | none => simp [guard]
          | some href =>
              by_cases hcanonical : Text.ofString "canonical" ∈ (words rel).map lib.casefold
              · simp only [ne_eq, not_true_eq_false, if_false, guard, if_true, hcanonical,
                  Option.bind_eq_bind, Option.bind_some]
                rfl
              · simp only [ne_eq, not_true_eq_false, if_false, guard, if_true, hcanonical,
                  Option.bind_eq_bind, Option.bind_some]
                rfl

/-- What a start tag does to the fields outside the text. -/
theorem page_starttag_eq (tag : Text) (attrs : Attributes) (parser : PageParser) :
    parser.handleStarttag lib tag attrs =
      { parser with
        text := parser.text.handleStarttag lib.casefold tag
        sawHtml := parser.sawHtml || decide (lib.casefold tag = htmlTag)
        htmlLang :=
          if lib.casefold tag = htmlTag ∧ parser.sawHtml = false then
            normalize (attrs.get lib.casefold "lang")
          else parser.htmlLang
        metaDescription :=
          parser.metaDescription.or (metaContent lib "description" (tag, attrs))
        robots := parser.robots.or (metaContent lib "robots" (tag, attrs))
        canonicalCandidate :=
          parser.canonicalCandidate.or (canonicalHref lib (tag, attrs)) } := by
  have hmeta : ∀ key, lib.casefold tag ≠ metaTag → metaContent lib key (tag, attrs) = none := by
    intro key hne
    simp [metaContent, guard, hne]
  have hlink : lib.casefold tag ≠ linkTag → canonicalHref lib (tag, attrs) = none := by
    intro hne
    simp [canonicalHref, guard, hne]
  have hhtmlMeta : htmlTag ≠ metaTag := by decide
  have hhtmlLink : htmlTag ≠ linkTag := by decide
  have hlinkMeta : linkTag ≠ metaTag := by decide
  unfold PageParser.handleStarttag
  by_cases hhtml : lib.casefold tag = htmlTag
  · have hnotMeta : lib.casefold tag ≠ metaTag := hhtml ▸ hhtmlMeta
    have hnotLink : lib.casefold tag ≠ linkTag := hhtml ▸ hhtmlLink
    simp only [hmeta _ hnotMeta, hlink hnotLink, Option.or_none, if_neg hnotMeta, if_neg hnotLink]
    cases hsaw : parser.sawHtml with
    | false => simp [hhtml]
    | true => simp [hhtml]
  · by_cases hisMeta : lib.casefold tag = metaTag
    · have hnotLink : lib.casefold tag ≠ linkTag := hisMeta ▸ hlinkMeta.symm
      simp [hisMeta, hlink hnotLink, record_meta_eq hisMeta, hhtmlMeta.symm]
    · by_cases hisLink : lib.casefold tag = linkTag
      · simp [hmeta _ hisMeta, record_canonical_eq hisLink, hisLink, hlinkMeta, hhtmlLink.symm]
      · simp [hhtml, hisMeta, hisLink, hmeta _ hisMeta, hlink hisLink]

/-- A start tag is read behind those before it. -/
theorem has_read_starttag {starts : List (Text × Attributes)} {parser : PageParser}
    (h : HasRead lib starts parser) (tag : Text) (attrs : Attributes) :
    HasRead lib (starts ++ [(tag, attrs)]) (parser.handleStarttag lib tag attrs) := by
  rw [page_starttag_eq]
  refine ⟨?_, ?_, ?_, ?_, ?_⟩
  · show (parser.sawHtml || _) = _
    rw [h.sawHtml, List.any_append]
    simp
  · show (if _ then _ else parser.htmlLang) = _
    rw [h.sawHtml, h.htmlLang]
    unfold headOf
    simp only [List.find?_append]
    cases hfound : starts.find? fun start => lib.casefold start.1 = htmlTag with
    | some start =>
        have hany : (starts.any fun start => lib.casefold start.1 = htmlTag) = true := by
          rw [← List.isSome_find?, hfound]
          rfl
        simp [hany]
    | none =>
        have hany : (starts.any fun start => lib.casefold start.1 = htmlTag) = false := by
          rw [← List.isSome_find?, hfound]
          rfl
        by_cases hhtml : lib.casefold tag = htmlTag
        · simp [hany, hhtml]
        · simp [hhtml]
  · show parser.metaDescription.or _ = _
    rw [h.metaDescription]
    simp [headOf, List.findSome?_append]
  · show parser.robots.or _ = _
    rw [h.robots]
    simp [headOf, List.findSome?_append]
  · show parser.canonicalCandidate.or _ = _
    rw [h.canonical]
    simp [headOf, List.findSome?_append]

/-- The start tags decide the head, whatever stands between them and however badly it is nested. -/
theorem has_read_feed {events : List PageEvent} {starts : List (Text × Attributes)}
    {parser after : PageParser} (h : HasRead lib starts parser)
    (hfeed : parser.feed lib events = some after) :
    HasRead lib (starts ++ startsOf events) after ∧ after.sourceUrl = parser.sourceUrl := by
  induction events generalizing starts parser with
  | nil =>
      cases hfeed
      rw [show startsOf [] = [] from rfl, List.append_nil]
      exact ⟨h, rfl⟩
  | cons event events ih =>
      rw [PageParser.feed, List.foldlM_cons] at hfeed
      obtain ⟨next, hnext, hrest⟩ := Option.bind_eq_some_iff.mp hfeed
      have hsource : (next.sourceUrl = parser.sourceUrl) := by
        cases event with
        | starttag tag attrs =>
            cases hnext
            rw [page_starttag_eq]
        | startendtag tag attrs =>
            cases hnext
            rw [PageParser.handleEndtag, page_starttag_eq]
        | endtag tag => cases hnext; rfl
        | text event =>
            obtain ⟨text, -, rfl⟩ := Option.map_eq_some_iff.mp hnext
            rfl
      have hread : HasRead lib (starts ++ startsOf [event]) next := by
        cases event with
        | starttag tag attrs =>
            cases hnext
            exact has_read_starttag h tag attrs
        | startendtag tag attrs =>
            cases hnext
            have hstart := has_read_starttag h tag attrs
            exact ⟨hstart.sawHtml, hstart.htmlLang, hstart.metaDescription, hstart.robots,
              hstart.canonical⟩
        | endtag tag =>
            cases hnext
            rw [show startsOf [.endtag tag] = [] from rfl, List.append_nil]
            exact ⟨h.sawHtml, h.htmlLang, h.metaDescription, h.robots, h.canonical⟩
        | text event =>
            obtain ⟨text, -, rfl⟩ := Option.map_eq_some_iff.mp hnext
            rw [show startsOf [.text event] = [] from rfl, List.append_nil]
            exact ⟨h.sawHtml, h.htmlLang, h.metaDescription, h.robots, h.canonical⟩
      obtain ⟨hafter, hkept⟩ := ih hread hrest
      rw [List.append_assoc, ← starts_of_append] at hafter
      exact ⟨hafter, hkept.trans hsource⟩

/-- An event without its attributes. -/
def PageEvent.erase : PageEvent → HtmlEvent
  | .starttag tag _ => .starttag tag
  | .startendtag tag _ => .startendtag tag
  | .endtag tag => .endtag tag
  | .text event => .text event

variable (lib) in
/-- The text of a page does not depend on the attributes. -/
theorem feed_text (events : List PageEvent) (parser : PageParser) :
    (parser.feed lib events).map PageParser.text =
      parser.text.feed lib.casefold lib.table (events.map PageEvent.erase) := by
  induction events generalizing parser with
  | nil => rfl
  | cons event events ih =>
      have hstep : (parser.handle lib event).map PageParser.text =
          parser.text.handle lib.casefold lib.table event.erase := by
        cases event with
        | starttag tag attrs =>
            show some (parser.handleStarttag lib tag attrs).text = _
            rw [page_starttag_eq]
            rfl
        | startendtag tag attrs =>
            show some ((parser.handleStarttag lib tag attrs).text.handleEndtag _ tag) = _
            rw [page_starttag_eq]
            rfl
        | endtag tag => rfl
        | text event =>
            show (Option.map _ _).map _ = OnPageParser.handleText lib.table event parser.text
            rw [Option.map_map]
            exact Option.map_id'
      unfold PageParser.feed OnPageParser.feed at ih ⊢
      rw [List.foldlM_cons, List.map_cons, List.foldlM_cons, ← hstep]
      cases parser.handle lib event with
      | none => rfl
      | some next => exact ih next

/-- A document with a code point for every piece of text. -/
def Document.coded : Document → Forest
  | .nil => .nil
  | .text event rest => .text [Encodable.encode event] rest.coded
  | .selfClosing tag _ rest => .selfClosing tag rest.coded
  | .element start _ finish children rest => .element start finish children.coded rest.coded

/-- The events of a document, as the parser of headings gets them. -/
theorem coded_events (document : Document) :
    (document.events.map PageEvent.erase).map HtmlEvent.coded = document.coded.events := by
  induction document with
  | nil => rfl
  | text event rest ih => exact congrArg (_ :: ·) ih
  | selfClosing tag attrs rest ih => exact congrArg (_ :: ·) ih
  | element start attrs finish children rest ihc ihr =>
      simp only [Document.events, Document.coded, Forest.events, List.map_cons, List.map_append,
        PageEvent.erase, HtmlEvent.coded, ihc, ihr]

/-- The coded document is well nested too. -/
theorem coded_well_nested {casefold : Text → Text} {document : Document}
    (h : document.WellNested casefold) : document.coded.WellNested casefold := by
  induction document with
  | nil => trivial
  | text event rest ih => exact ih h
  | selfClosing tag attrs rest ih => exact ih h
  | element start attrs finish children rest ihc ihr => exact ⟨h.1, ihc h.2.1, ihr h.2.2⟩

/-- Its visible text is that of the document. -/
theorem coded_visible (casefold : Text → Text) (hidden : Bool) (document : Document) :
    document.coded.visibleText casefold hidden =
      (document.visible casefold hidden).map Encodable.encode := by
  induction document generalizing hidden with
  | nil => rfl
  | text event rest ih =>
      simp only [Document.coded, Forest.visibleText, visible, ih, List.map_append]
      cases hidden <;> rfl
  | selfClosing tag attrs rest ih => exact ih hidden
  | element start attrs finish children rest ihc ihr =>
      simp only [Document.coded, Forest.visibleText, visible, ihc, ihr, List.map_append]

/-- So are the texts of its headings. -/
theorem coded_collected (casefold : Text → Text) (hidden : Bool) (document : Document) :
    document.coded.collected casefold hidden =
      (document.collected casefold hidden).map fun found =>
        (found.1, found.2.map Encodable.encode) := by
  induction document generalizing hidden with
  | nil => rfl
  | text event rest ih => exact ih hidden
  | selfClosing tag attrs rest ih =>
      simp only [Document.coded, Forest.collected, collected, ih, List.map_append]
      split
      · rfl
      · rfl
  | element start attrs finish children rest ihc ihr =>
      simp only [Document.coded, Forest.collected, collected, ihc, ihr, List.map_append,
        coded_visible]
      split
      · rfl
      · rfl

variable (lib) in
/-- The texts of a well-nested document are what the collectors of a parser hold that has read
it. -/
theorem feed_contents {document : Document} (h : document.WellNested lib.casefold)
    (sourceUrl : Text) : ((PageParser.new sourceUrl).feed lib document.events).map
      (fun parser => parser.text.contents) = document.texts lib := by
  obtain ⟨after, hafter, hreads⟩ := feed_forest lib.table (coded_well_nested h) standing_new
  have hcontents : after.contents = document.coded.collected lib.casefold false := hreads.contents
  have hrestored := restore_feed lib.table lib.casefold (document.events.map PageEvent.erase) .new
  rw [coded_events, hafter] at hrestored
  have hnew : restore lib.table .new = some .new := rfl
  rw [hnew, Option.bind_some, Option.bind_some] at hrestored
  have htext := feed_text lib document.events (.new sourceUrl)
  calc ((PageParser.new sourceUrl).feed lib document.events).map (fun parser =>
    parser.text.contents)
      = (((PageParser.new sourceUrl).feed lib document.events).map PageParser.text).map
          OnPageParser.contents := by
        rw [Option.map_map]
        rfl
    _ = (restore lib.table after).map OnPageParser.contents :=
        congrArg _ (htext.trans hrestored)
    _ = document.texts lib := by
        rw [restore_contents, hcontents, coded_collected, List.mapM_map]
        exact congrArg (fun f => (document.collected lib.casefold false).mapM f)
          (funext fun found => congrArg _ (restore_coded lib.table found.1 found.2))

/-! ## The evidence -/

/-- The title of a parser, from what its collectors hold. -/
theorem page_title_eq (parser : PageParser) : parser.title lib =
    (((parser.text.contents).filter (·.1 = titleTag)).mapM fun found =>
      normalizeTitle lib [found.2]).map fun titles => titles.findSome? id := by
  have htitle : ∀ collector : TextCollector, normalizeTitle lib collector.parts =
      normalizeTitle lib [collector.parts.flatten] := by
    intro collector
    unfold normalizeTitle
    rw [List.flatten_cons, List.flatten_nil, List.append_nil]
  unfold PageParser.title OnPageParser.contents
  rw [List.filter_map, List.mapM_map]
  simp only [htitle, List.head?_filterMap]
  rfl

/-- The headings of a parser are the contents of its collectors. -/
theorem h1_texts_eq (parser : OnPageParser) : parser.h1Texts =
    (parser.contents.filter (·.1 = h1Tag)).filterMap fun found => normalizeText found.2 := by
  unfold OnPageParser.h1Texts OnPageParser.contents
  rw [List.filterMap_filter, List.filterMap_map]
  refine List.filterMap_congr fun collector _ => ?_
  simp

/-- Its canonical URL is that of the candidate. -/
theorem canonical_url_eq (parser : PageParser) : parser.canonicalUrl lib =
    parser.canonicalCandidate.bind (resolveCanonical lib parser.sourceUrl) := by
  unfold PageParser.canonicalUrl resolveCanonical
  cases parser.canonicalCandidate with
  | none => rfl
  | some candidate =>
      cases hresolved : lib.urljoin parser.sourceUrl candidate with
      | none => simp [hresolved]
      | some resolved =>
          simp only [Option.bind_eq_bind, Option.bind_some, hresolved]
          cases parseHttpUrl lib resolved <;> rfl

/-- The evidence of a page whose events are those of a well-nested document is the evidence of the
document: the first title and all headings with what is visible below them, and what its start tags
say. -/
theorem extract_document {html sourceUrl : Text} {parsed : SplitResult} {document : Document}
    (hlength : html.length ≤ maxHtmlLength) (hsource : parseHttpUrl lib sourceUrl = some parsed)
    (hevents : lib.pageEvents html = some document.events)
    (hnested : document.WellNested lib.casefold) :
    extractOnPageEvidence lib html sourceUrl =
      (document.evidence lib (withoutFragment lib parsed)).elim (.error .reference) .ok := by
  have htexts := feed_contents lib hnested (withoutFragment lib parsed)
  unfold extractOnPageEvidence
  rw [if_neg (by omega), hsource]
  simp only [hevents, Option.bind_eq_bind, Option.bind_some]
  refine congrArg (fun found : Option OnPageEvidence => found.elim _ _) ?_
  cases hfeed : (PageParser.new (withoutFragment lib parsed)).feed lib document.events with
  | none =>
      rw [hfeed] at htexts
      unfold Document.evidence
      rw [← htexts]
      rfl
  | some after =>
      obtain ⟨hhead, hkept⟩ := has_read_feed (has_read_new lib _) hfeed
      rw [List.nil_append, starts_of_events] at hhead
      rw [hfeed, Option.map_some] at htexts
      unfold Document.evidence PageParser.evidence
      rw [← htexts, Option.bind_some, page_title_eq, h1_texts_eq, canonical_url_eq,
        hhead.htmlLang, hhead.metaDescription, hhead.robots, hhead.canonical, hkept,
        Option.map_map, Option.map_eq_bind]
      rfl

end

/-- A page with a reference in its title, a hidden heading, and a canonical link in its body. -/
def samplePage : Document :=
  .element (Text.ofString "HTML") [(Text.ofString "LANG", some (Text.ofString " en "))]
    (Text.ofString "html")
    (.element (Text.ofString "title") [] (Text.ofString "title")
      (.text (.data (Text.ofString "a")) (.text (.entityref (Text.ofString "amp")) .nil))
      (.element (Text.ofString "noscript") [] (Text.ofString "noscript")
        (.element (Text.ofString "h1") [] (Text.ofString "h1")
          (.text (.data (Text.ofString "b")) .nil)
          (.selfClosing (Text.ofString "link")
            [(Text.ofString "rel", some (Text.ofString "next Canonical")),
              (Text.ofString "href", some (Text.ofString "/c#d"))] .nil))
        (.element (Text.ofString "H1") [] (Text.ofString "h1")
          (.text (.data (Text.ofString " e ")) .nil) .nil))) .nil

/-- The text of `samplePage`. -/
def samplePageHtml : Text :=
  Text.ofString ("<HTML LANG=' en '><title>a&amp;</title><noscript><h1>b</h1>" ++
    "<link rel='next Canonical' href='/c#d'/></noscript><H1> e </h1></html>")

/-- A page with crossed tags. -/
def crossedHtml : Text :=
  Text.ofString "<template><h1><meta NAME=Robots content=' noindex '></template><html lang></h1></b>"

/-- The events of `crossedHtml`. -/
def crossedEvents : List PageEvent :=
  [.starttag (Text.ofString "template") [], .starttag (Text.ofString "h1") [],
    .starttag (Text.ofString "meta") [(Text.ofString "name", some (Text.ofString "Robots")),
      (Text.ofString "content", some (Text.ofString " noindex "))],
    .endtag (Text.ofString "template"),
    .starttag (Text.ofString "html") [(Text.ofString "lang", none)],
    .endtag (Text.ofString "h1"), .endtag (Text.ofString "b")]

/-- The standard library on these pages. -/
def sampleLibrary : PageLibrary where
  casefold := Text.lower
  table := html5Table
  pageEvents html :=
    if html = samplePageHtml then some samplePage.events
    else if html = crossedHtml then some crossedEvents
    else none
  titleEvents title :=
    if title = Text.ofString "a&amp;" then some [.text (.data (Text.ofString "a&"))] else none
  refuses _ := false
  usesNetloc scheme := scheme == Text.ofString "https"
  urljoin base url :=
    if base = Text.ofString "https://example.com/" ∧ url = Text.ofString "/c#d" then
      some (Text.ofString "https://example.com/c#d")
    else none

/-- The evidence of a page. -/
theorem extract_document_sample :
    extractOnPageEvidence sampleLibrary samplePageHtml (Text.ofString "HTTPS://example.com/#f") =
      .ok {
        sourceUrl := Text.ofString "https://example.com/"
        title := some (Text.ofString "a&")
        metaDescription := none
        canonicalUrl := some (Text.ofString "https://example.com/c")
        robots := none
        htmlLang := some (Text.ofString "en")
        h1Texts := [Text.ofString "e"] } := by
  have hsource : parseHttpUrl sampleLibrary (Text.ofString "HTTPS://example.com/#f") =
      some ⟨Text.ofString "https", Text.ofString "example.com", Text.ofString "/", [],
        Text.ofString "f"⟩ := by decide +kernel
  have hnested : samplePage.WellNested Text.lower :=
    ⟨by decide +kernel, ⟨by decide +kernel, trivial, by decide +kernel,
      ⟨by decide +kernel, trivial, trivial⟩, by decide +kernel, trivial, trivial⟩, trivial⟩
  have hlength : samplePageHtml.length ≤ maxHtmlLength := by decide +kernel
  have hevents : sampleLibrary.pageEvents samplePageHtml = some samplePage.events := by
    simp only [sampleLibrary, if_true]
  have hextract := @extract_document sampleLibrary _ _ _ _ hlength hsource hevents hnested
  exact hextract.trans (by decide +kernel)

section

variable {lib : PageLibrary}

/-- Evidence is extracted from a page that can be read, by a parser that has been fed with it. -/
theorem extract_eq_ok {html sourceUrl : Text} {evidence : OnPageEvidence} :
    extractOnPageEvidence lib html sourceUrl = .ok evidence ↔ html.length ≤ maxHtmlLength ∧
      ∃ parsed events parser, parseHttpUrl lib sourceUrl = some parsed ∧
        lib.pageEvents html = some events ∧
        (PageParser.new (withoutFragment lib parsed)).feed lib events = some parser ∧
        parser.evidence lib = some evidence := by
  have helim : ∀ found : Option OnPageEvidence,
      found.elim (Except.error ExtractionError.reference) .ok = .ok evidence ↔
        found = some evidence := by
    intro found
    cases found with
    | none => exact ⟨fun h => (by cases h), fun h => (by cases h)⟩
    | some found =>
        exact ⟨fun h => congrArg some (Except.ok.inj h), fun h => congrArg _ (Option.some.inj h)⟩
  unfold extractOnPageEvidence
  by_cases hlength : maxHtmlLength < html.length
  · rw [if_pos hlength]
    exact ⟨fun h => (by cases h), fun h => absurd h.1 (by omega)⟩
  · rw [if_neg hlength]
    cases hsource : parseHttpUrl lib sourceUrl with
    | none =>
        constructor
        · intro h
          cases h
        · rintro ⟨-, parsed, events, parser, hparsed, -⟩
          exact absurd hparsed.symm (Option.some_ne_none _)
    | some parsed =>
        simp only [helim, Option.bind_eq_bind, Option.bind_eq_some_iff]
        constructor
        · rintro ⟨events, hevents, parser, hparser, hevidence⟩
          exact ⟨by omega, parsed, events, parser, rfl, hevents, hparser, hevidence⟩
        · rintro ⟨-, parsed', events, parser, hparsed, hevents, hparser, hevidence⟩
          cases hparsed
          exact ⟨events, hevents, parser, hparser, hevidence⟩

/-- The fields of the evidence are those of the parser. -/
theorem evidence_eq_some {parser : PageParser} {evidence : OnPageEvidence}
    (h : parser.evidence lib = some evidence) : evidence.sourceUrl = parser.sourceUrl ∧
      evidence.htmlLang = parser.htmlLang ∧ evidence.metaDescription = parser.metaDescription ∧
      evidence.robots = parser.robots ∧
      evidence.canonicalUrl =
        parser.canonicalCandidate.bind (resolveCanonical lib parser.sourceUrl) := by
  obtain ⟨title, -, rfl⟩ := Option.map_eq_some_iff.mp h
  exact ⟨rfl, rfl, rfl, rfl, canonical_url_eq parser⟩

/-- What the evidence of any page says about its source and its head, however badly its tags are
nested: where the page was, and what its start tags say. -/
theorem extract_head {html sourceUrl : Text} {evidence : OnPageEvidence}
    (h : extractOnPageEvidence lib html sourceUrl = .ok evidence) :
    ∃ parsed events, parseHttpUrl lib sourceUrl = some parsed ∧
      lib.pageEvents html = some events ∧
      evidence.sourceUrl = withoutFragment lib parsed ∧
      evidence.htmlLang = (headOf lib (startsOf events)).htmlLang ∧
      evidence.metaDescription = (headOf lib (startsOf events)).metaDescription ∧
      evidence.robots = (headOf lib (startsOf events)).robots ∧
      evidence.canonicalUrl = (headOf lib (startsOf events)).canonical.bind
        (resolveCanonical lib evidence.sourceUrl) := by
  obtain ⟨-, parsed, events, parser, hparsed, hevents, hfeed, hevidence⟩ := extract_eq_ok.mp h
  obtain ⟨hread, hkept⟩ := has_read_feed (has_read_new lib _) hfeed
  rw [List.nil_append] at hread
  obtain ⟨hsource, hlang, hmeta, hrobots, hcanonical⟩ := evidence_eq_some hevidence
  refine ⟨parsed, events, hparsed, hevents, hsource.trans hkept, hlang.trans hread.htmlLang,
    hmeta.trans hread.metaDescription, hrobots.trans hread.robots, ?_⟩
  rw [hcanonical, hread.canonical, hsource]

end

/-- The head of a page whose tags are not nested. -/
theorem extract_head_crossed :
    ∃ parsed events,
      parseHttpUrl sampleLibrary (Text.ofString "https://example.com") = some parsed ∧
      sampleLibrary.pageEvents crossedHtml = some events ∧
      Text.ofString "https://example.com" = withoutFragment sampleLibrary parsed ∧
      none = (headOf sampleLibrary (startsOf events)).htmlLang ∧
      none = (headOf sampleLibrary (startsOf events)).metaDescription ∧
      some (Text.ofString "noindex") = (headOf sampleLibrary (startsOf events)).robots ∧
      none = (headOf sampleLibrary (startsOf events)).canonical.bind
        (resolveCanonical sampleLibrary (Text.ofString "https://example.com")) := by
  have hextract : extractOnPageEvidence sampleLibrary crossedHtml
      (Text.ofString "https://example.com") = .ok ⟨Text.ofString "https://example.com", none, none,
        none, some (Text.ofString "noindex"), none, []⟩ := by decide +kernel
  exact extract_head hextract

end GrowthOs.Evidence
