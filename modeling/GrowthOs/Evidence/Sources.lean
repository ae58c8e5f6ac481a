import GrowthOs.Evidence.Diff
import GrowthOs.Evidence.Documents

/-!
# The sources of evidence

The source that evidence records is a URL that records itself, and so is a canonical URL that it
records: `extract_again`. Evidence can be compared exactly when it comes from URLs that differ in
their fragments only: `diff_extracted_iff`.
-/

namespace GrowthOs.Evidence

open Library Library.Urls Document

variable {lib : PageLibrary}

/-- Without its fragment, a URL is read as the same parts without their fragment. -/
theorem parse_without_fragment {value : Text} {parsed : SplitResult}
    (h : parseHttpUrl lib value = some parsed) :
    parseHttpUrl lib (withoutFragment lib parsed) = some parsed.dropFragment := by
  obtain ⟨hsplit, htests⟩ := Option.filter_eq_some_iff.mp h
  have hhost : parsed.hostname ≠ none := by
    simp only [Bool.and_eq_true] at htests
    exact Option.isSome_iff_ne_none.mp htests.1.1.2
  have hagain := (urlsplit_urlunsplit hsplit (SplitResult.netloc_of_hostname hhost)
    lib.usesNetloc).2
  exact Option.filter_eq_some_iff.mpr ⟨hagain, htests⟩

/-- A URL without its fragment stays without one. -/
theorem without_fragment_again (parsed : SplitResult) :
    withoutFragment lib parsed.dropFragment = withoutFragment lib parsed := rfl

/-- A source that is recorded is read, and recorded, as itself. -/
theorem parse_source {value : Text} {parsed : SplitResult}
    (h : parseHttpUrl lib value = some parsed) :
    ∃ again, parseHttpUrl lib (withoutFragment lib parsed) = some again ∧
      withoutFragment lib again = withoutFragment lib parsed :=
  ⟨parsed.dropFragment, parse_without_fragment h, rfl⟩

/-- A canonical URL that is recorded has been read. -/
theorem canonical_parsed {sourceUrl href canonical : Text}
    (h : resolveCanonical lib sourceUrl href = some canonical) :
    ∃ resolved parsed, parseHttpUrl lib resolved = some parsed ∧
      canonical = withoutFragment lib parsed := by
  obtain ⟨parsed, hparsed, rfl⟩ := Option.map_eq_some_iff.mp h
  obtain ⟨resolved, -, hresolved⟩ := Option.bind_eq_some_iff.mp hparsed
  exact ⟨resolved, parsed, hresolved, rfl⟩

/-- The source that evidence records, and where the canonical URL comes from that it records. -/
theorem source_of_extract {html sourceUrl : Text} {evidence : OnPageEvidence}
    (h : extractOnPageEvidence lib html sourceUrl = .ok evidence) :
    ∃ parsed, parseHttpUrl lib sourceUrl = some parsed ∧
      evidence.sourceUrl = withoutFragment lib parsed ∧
      ∀ canonical, evidence.canonicalUrl = some canonical →
        ∃ href, resolveCanonical lib evidence.sourceUrl href = some canonical := by
  obtain ⟨-, parsed, events, parser, hparsed, -, hfeed, hevidence⟩ := extract_eq_ok.mp h
  obtain ⟨-, hkept⟩ := has_read_feed (has_read_new lib _) hfeed
  obtain ⟨hsource, -, -, -, hcanonical⟩ := evidence_eq_some hevidence
  refine ⟨parsed, hparsed, hsource.trans hkept, fun canonical hrecorded => ?_⟩
  rw [hcanonical, ← hsource] at hrecorded
  obtain ⟨href, -, hresolved⟩ := Option.bind_eq_some_iff.mp hrecorded
  exact ⟨href, hresolved⟩

/-- What is extracted from a page depends on its source through the recorded source only. -/
theorem extract_congr {html sourceUrl sourceUrl' : Text} {parsed parsed' : SplitResult}
    (h : parseHttpUrl lib sourceUrl = some parsed)
    (h' : parseHttpUrl lib sourceUrl' = some parsed')
    (hsame : withoutFragment lib parsed = withoutFragment lib parsed') :
    extractOnPageEvidence lib html sourceUrl = extractOnPageEvidence lib html sourceUrl' := by
  unfold extractOnPageEvidence
  rw [h, h']
  simp only [hsame]

/-- Evidence extracted again from the source that it records is the same, and a canonical URL that
it records is a source of its own: whatever page is found there, its evidence records that URL. -/
theorem extract_again {html sourceUrl : Text} {evidence : OnPageEvidence}
    (h : extractOnPageEvidence lib html sourceUrl = .ok evidence) :
    extractOnPageEvidence lib html evidence.sourceUrl = .ok evidence ∧
      ∀ canonical, evidence.canonicalUrl = some canonical → ∀ html',
        extractOnPageEvidence lib html' canonical ≠ .error .sourceUrl ∧
        ∀ evidence', extractOnPageEvidence lib html' canonical = .ok evidence' →
          evidence'.sourceUrl = canonical := by
  obtain ⟨parsed, hparsed, hsource, hcanonical⟩ := source_of_extract h
  constructor
  · obtain ⟨again, hagain, hsame⟩ := parse_source hparsed
    rw [hsource, extract_congr hagain hparsed hsame]
    exact h
  · intro canonical hrecorded html'
    obtain ⟨href, hresolved⟩ := hcanonical canonical hrecorded
    obtain ⟨resolved, target, htarget, rfl⟩ := canonical_parsed hresolved
    obtain ⟨again, hagain, hsame⟩ := parse_source htarget
    constructor
    · have hfound : ∀ found : Option OnPageEvidence,
          found.elim (.error .reference) .ok ≠ Except.error ExtractionError.sourceUrl := by
        intro found hfound
        cases found with
        | none => cases hfound
        | some found => cases hfound
      unfold extractOnPageEvidence
      rw [hagain]
      split
      · exact fun herror => ExtractionError.noConfusion (Except.error.inj herror)
      · exact hfound _
    · intro evidence' h'
      obtain ⟨parsed', hparsed', hsource', -⟩ := source_of_extract h'
      rw [hagain] at hparsed'
      cases hparsed'
      rw [hsource', hsame]

/-- Evidence of two pages is compared exactly when their URLs are read as the same parts but for
their fragments. -/
theorem diff_extracted_iff {html html' sourceUrl sourceUrl' : Text}
    {evidence evidence' : OnPageEvidence} {parsed parsed' : SplitResult}
    (h : extractOnPageEvidence lib html sourceUrl = .ok evidence)
    (h' : extractOnPageEvidence lib html' sourceUrl' = .ok evidence')
    (hparsed : parseHttpUrl lib sourceUrl = some parsed)
    (hparsed' : parseHttpUrl lib sourceUrl' = some parsed') :
    (∃ diff, diffOnPageEvidence evidence evidence' = .ok diff) ↔
      parsed.dropFragment = parsed'.dropFragment := by
  obtain ⟨read, hread, hsource, -⟩ := source_of_extract h
  obtain ⟨read', hread', hsource', -⟩ := source_of_extract h'
  rw [hparsed] at hread
  rw [hparsed'] at hread'
  cases hread
  cases hread'
  constructor
  · rintro ⟨diff, hdiff⟩
    have hsame := (diff_eq_ok.mp hdiff).1
    have hagain := parse_without_fragment hparsed
    rw [← hsource, hsame, hsource', parse_without_fragment hparsed'] at hagain
    exact (Option.some.inj hagain).symm
  · intro hsame
    refine ⟨_, diff_eq_ok.mpr ⟨?_, rfl⟩⟩
    rw [hsource, hsource', ← without_fragment_again parsed, hsame]
    rfl

/-- The evidence of `samplePage`. -/
def sampleFound : OnPageEvidence where
  sourceUrl := Text.ofString "https://example.com/"
  title := some (Text.ofString "a&")
  metaDescription := none
  canonicalUrl := some (Text.ofString "https://example.com/c")
  robots := none
  htmlLang := some (Text.ofString "en")
  h1Texts := [Text.ofString "e"]

/-- The theorem on a sample page. -/
theorem extract_again_sample :
    extractOnPageEvidence sampleLibrary samplePageHtml sampleFound.sourceUrl = .ok sampleFound ∧
      ∀ canonical, sampleFound.canonicalUrl = some canonical → ∀ html',
        extractOnPageEvidence sampleLibrary html' canonical ≠ .error .sourceUrl ∧
        ∀ evidence', extractOnPageEvidence sampleLibrary html' canonical = .ok evidence' →
          evidence'.sourceUrl = canonical := by
  have hextract : extractOnPageEvidence sampleLibrary samplePageHtml
      (Text.ofString "HTTPS://example.com/#f") = .ok sampleFound := by decide +kernel
  exact extract_again hextract

/-- The evidence of `crossedHtml`. -/
def crossedFound : OnPageEvidence where
  sourceUrl := Text.ofString "https://example.com/"
  title := none
  metaDescription := none
  canonicalUrl := none
  robots := some (Text.ofString "noindex")
  htmlLang := none
  h1Texts := []

/-- Where the sample pages are. -/
def sampleUrl (fragment : Text) : SplitResult :=
  ⟨Text.ofString "https", Text.ofString "example.com", Text.ofString "/", [], fragment⟩

/-- The theorem on two pages of one URL. -/
theorem diff_extracted_iff_sample :
    (∃ diff, diffOnPageEvidence sampleFound crossedFound = .ok diff) ↔
      (sampleUrl (Text.ofString "f")).dropFragment = (sampleUrl []).dropFragment := by
  have hextract : extractOnPageEvidence sampleLibrary samplePageHtml
      (Text.ofString "HTTPS://example.com/#f") = .ok sampleFound := by decide +kernel
  have hcrossed : extractOnPageEvidence sampleLibrary crossedHtml
      (Text.ofString "https://example.com/") = .ok crossedFound := by decide +kernel
  have hparsed : parseHttpUrl sampleLibrary (Text.ofString "HTTPS://example.com/#f") =
      some (sampleUrl (Text.ofString "f")) := by decide +kernel
  have hparsed' : parseHttpUrl sampleLibrary (Text.ofString "https://example.com/") =
      some (sampleUrl []) := by decide +kernel
  exact diff_extracted_iff hextract hcrossed hparsed hparsed'

end GrowthOs.Evidence
