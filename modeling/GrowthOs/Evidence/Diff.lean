import GrowthOs.Evidence.Extraction
import GrowthOs.Library.Except
import GrowthOs.Library.FieldChanges

/-!
# Differences of evidence

`evidence/diff.py`. The differences along the history of a page are enough to rebuild all of its
evidence, forwards and backwards: `history_rebuilt`.
-/

namespace GrowthOs.Evidence

open Library Library.FieldChanges

/-- `OnPageEvidenceField`. -/
inductive OnPageEvidenceField where
  | title
  | metaDescription
  | canonicalUrl
  | robots
  | htmlLang
  | h1Texts
  deriving DecidableEq

/-- `EvidenceValue`: `str | tuple[str, ...] | None`. -/
inductive EvidenceValue where
  | str (text : Text)
  | tuple (texts : List Text)
  | absent
  deriving DecidableEq

/-- `OnPageEvidenceChange`. -/
abbrev OnPageEvidenceChange := FieldChange OnPageEvidenceField EvidenceValue

/-- `OnPageEvidenceDiff`. -/
structure OnPageEvidenceDiff where
  sourceUrl : Text
  changes : List OnPageEvidenceChange
  deriving DecidableEq

/-- `_FIELD_ORDER`. -/
def fieldOrder : List OnPageEvidenceField :=
  [.title, .metaDescription, .canonicalUrl, .robots, .htmlLang, .h1Texts]

/-- A string or `None`. -/
def EvidenceValue.ofOption : Option Text → EvidenceValue
  | some text => .str text
  | none => .absent

/-- `getattr(evidence, field.value)`. -/
def OnPageEvidence.value (evidence : OnPageEvidence) : OnPageEvidenceField → EvidenceValue
  | .title => .ofOption evidence.title
  | .metaDescription => .ofOption evidence.metaDescription
  | .canonicalUrl => .ofOption evidence.canonicalUrl
  | .robots => .ofOption evidence.robots
  | .htmlLang => .ofOption evidence.htmlLang
  | .h1Texts => .tuple evidence.h1Texts

/-- The `ValueError` of `diff_on_page_evidence`. -/
def sameSourceUrl : Text :=
  Text.ofString "previous and current must have the same source_url"

/-- `diff_on_page_evidence`. -/
def diffOnPageEvidence (previous current : OnPageEvidence) : Except Text OnPageEvidenceDiff :=
  if previous.sourceUrl ≠ current.sourceUrl then .error sameSourceUrl
  else
    .ok {
      sourceUrl := previous.sourceUrl
      changes := fieldOrder.filterMap fun field =>
        let before := previous.value field
        let after := current.value field
        if before ≠ after then some { field, before, after } else none }

/-- A string or `None` as a field holds it. -/
def EvidenceValue.toOption : EvidenceValue → Option (Option Text)
  | .str text => some (some text)
  | .absent => some none
  | .tuple _ => none

/-- A tuple as a field holds it. -/
def EvidenceValue.toTuple : EvidenceValue → Option (List Text)
  | .tuple texts => some texts
  | .str _ => none
  | .absent => none

/-- The evidence with some values. `none` is a value of the wrong type. -/
def OnPageEvidence.ofValues (sourceUrl : Text) (value : OnPageEvidenceField → EvidenceValue) :
    Option OnPageEvidence := do
  let title ← (value .title).toOption
  let metaDescription ← (value .metaDescription).toOption
  let canonicalUrl ← (value .canonicalUrl).toOption
  let robots ← (value .robots).toOption
  let htmlLang ← (value .htmlLang).toOption
  let h1Texts ← (value .h1Texts).toTuple
  some { sourceUrl, title, metaDescription, canonicalUrl, robots, htmlLang, h1Texts }

/-- An optional value survives. -/
@[simp] theorem to_option_of_option (value : Option Text) :
    (EvidenceValue.ofOption value).toOption = some value := by
  cases value <;> rfl

/-- Evidence is its source and its values. -/
theorem of_values_value (evidence : OnPageEvidence) :
    OnPageEvidence.ofValues evidence.sourceUrl evidence.value = some evidence := by
  simp [OnPageEvidence.ofValues, OnPageEvidence.value, EvidenceValue.toTuple]

/-- Every field is in the order. -/
theorem field_order_complete (field : OnPageEvidenceField) : field ∈ fieldOrder := by
  cases field <;> decide

/-- Two pieces of evidence are compared exactly when they have one source, field by field. -/
theorem diff_eq_ok {previous current : OnPageEvidence} {diff : OnPageEvidenceDiff} :
    diffOnPageEvidence previous current = .ok diff ↔ previous.sourceUrl = current.sourceUrl ∧
      diff = ⟨previous.sourceUrl, changes fieldOrder previous.value current.value⟩ := by
  unfold diffOnPageEvidence
  by_cases hsame : previous.sourceUrl = current.sourceUrl
  · rw [if_neg (not_not.mpr hsame)]
    constructor
    · intro h
      exact ⟨hsame, (Except.ok.inj h).symm⟩
    · rintro ⟨-, rfl⟩
      rfl
  · rw [if_pos hsame]
    constructor
    · intro h
      cases h
    · rintro ⟨h, -⟩
      exact absurd h hsame

/-- Evidence is its values, once its source is known. -/
theorem value_injective {previous current : OnPageEvidence}
    (hsource : previous.sourceUrl = current.sourceUrl) (h : previous.value = current.value) :
    previous = current := by
  have hprevious := of_values_value previous
  rw [hsource, h, of_values_value] at hprevious
  exact (Option.some.inj hprevious).symm

/-- A difference lists each field once at most, in the order of the fields, is empty for the same
evidence only, and is the reverse of the difference back. -/
theorem diff_exact {previous current : OnPageEvidence} {diff : OnPageEvidenceDiff}
    (h : diffOnPageEvidence previous current = .ok diff) :
    (diff.changes.map FieldChange.field).Sublist fieldOrder ∧
      (diff.changes = [] ↔ previous = current) ∧
      diffOnPageEvidence current previous =
        .ok ⟨diff.sourceUrl, diff.changes.map FieldChange.reversed⟩ := by
  obtain ⟨hsource, rfl⟩ := diff_eq_ok.mp h
  refine ⟨changes_sublist .., ?_, diff_eq_ok.mpr ⟨hsource.symm, ?_⟩⟩
  · rw [changes_eq_nil field_order_complete]
    exact ⟨value_injective hsource, fun hsame => by rw [hsame]⟩
  · rw [changes_reversed fieldOrder previous.value current.value, hsource]

/-! ## Histories -/

/-- The differences between the neighbours of a history. -/
def diffHistory : OnPageEvidence → List OnPageEvidence → Except Text (List OnPageEvidenceDiff)
  | _, [] => .ok []
  | first, next :: later => do
      let diff ← diffOnPageEvidence first next
      let rest ← diffHistory next later
      .ok (diff :: rest)

/-- A history with one source has differences everywhere. -/
theorem diff_history_eq_ok {first : OnPageEvidence} {later : List OnPageEvidence}
    {diffs : List OnPageEvidenceDiff} : diffHistory first later = .ok diffs ↔
      (∀ evidence ∈ later, evidence.sourceUrl = first.sourceUrl) ∧
        diffs = (historyChanges fieldOrder first.value (later.map OnPageEvidence.value)).map
          fun made => ⟨first.sourceUrl, made⟩ := by
  induction later generalizing first diffs with
  | nil =>
      constructor
      · intro h
        exact ⟨fun _ hmem => absurd hmem List.not_mem_nil, (Except.ok.inj h).symm⟩
      · rintro ⟨-, rfl⟩
        rfl
  | cons next later ih =>
      rw [diffHistory, bind_eq_ok]
      constructor
      · rintro ⟨diff, hdiff, h⟩
        obtain ⟨rest, hrest, h⟩ := bind_eq_ok.mp h
        obtain ⟨hnext, rfl⟩ := diff_eq_ok.mp hdiff
        obtain ⟨hlater, rfl⟩ := ih.mp hrest
        refine ⟨fun evidence hevidence => ?_, ?_⟩
        · rcases List.mem_cons.mp hevidence with rfl | hevidence
          · exact hnext.symm
          · exact (hlater evidence hevidence).trans hnext.symm
        · rw [← Except.ok.inj h, ← hnext]
          rfl
      · rintro ⟨hsources, rfl⟩
        have hnext : next.sourceUrl = first.sourceUrl := hsources next List.mem_cons_self
        refine ⟨_, diff_eq_ok.mpr ⟨hnext.symm, rfl⟩, bind_eq_ok.mpr ⟨_, ih.mpr ⟨?_, rfl⟩, ?_⟩⟩
        · intro evidence hevidence
          exact (hsources evidence (List.mem_cons_of_mem _ hevidence)).trans hnext.symm
        · rw [hnext]
          rfl

/-- The differences along a history with one source rebuild each evidence of it, from the first one
and back from the last one; the evidence at its two ends differs only where two neighbours do. -/
theorem history_rebuilt {first : OnPageEvidence} {later : List OnPageEvidence}
    (hsource : ∀ evidence ∈ later, evidence.sourceUrl = first.sourceUrl) :
    ∃ diffs, diffHistory first later = .ok diffs ∧
      (∀ k ≤ later.length,
        OnPageEvidence.ofValues first.sourceUrl (patch first.value
          ((diffs.map OnPageEvidenceDiff.changes).take k).flatten) = (first :: later)[k]? ∧
        OnPageEvidence.ofValues first.sourceUrl (patch (later.getLastD first).value
          (undone ((diffs.map OnPageEvidenceDiff.changes).drop k))) = (first :: later)[k]?) ∧
      ∃ diff, diffOnPageEvidence first (later.getLastD first) = .ok diff ∧
        ∀ change ∈ diff.changes, ∃ step ∈ diffs, ∃ made ∈ step.changes,
        made.field = change.field := by
  have hlast : (later.getLastD first).value =
      (later.map OnPageEvidence.value).getLastD first.value := (List.getLastD_map ..).symm
  have hlastSource : (later.getLastD first).sourceUrl = first.sourceUrl := by
    rcases List.mem_cons.mp (List.getLastD_mem_cons (l := later) (a := first)) with hsame | hmem
    · rw [hsame]
    · exact hsource _ hmem
  -- The values of an entry determine it, since all entries have one source.
  have hbuild : ∀ k ≤ later.length, ∀ values : OnPageEvidenceField → EvidenceValue,
      (first.value :: later.map OnPageEvidence.value)[k]? = some values →
      OnPageEvidence.ofValues first.sourceUrl values = (first :: later)[k]? := by
    intro k hk values hvalues
    rw [← List.map_cons, List.getElem?_map] at hvalues
    obtain ⟨evidence, hevidence, rfl⟩ := Option.map_eq_some_iff.mp hvalues
    rw [hevidence]
    have hsame : evidence.sourceUrl = first.sourceUrl := by
      rcases List.mem_cons.mp (List.mem_of_getElem? hevidence) with rfl | hmem
      · rfl
      · exact hsource evidence hmem
    rw [← hsame]
    exact of_values_value evidence
  refine ⟨_, diff_history_eq_ok.mpr ⟨hsource, rfl⟩, fun k hk => ?_, ?_⟩
  · have hchanges : ∀ history : List (List OnPageEvidenceChange),
        (history.map (OnPageEvidenceDiff.mk first.sourceUrl)).map OnPageEvidenceDiff.changes =
          history := by
      intro history
      rw [List.map_map]
      exact List.map_id' history
    have hlength : k ≤ (later.map OnPageEvidence.value).length := by
      rwa [List.length_map]
    rw [hchanges, hlast]
    exact ⟨hbuild k hk _ (patch_history field_order_complete _ _ k hlength),
      hbuild k hk _ (patch_undone field_order_complete _ _ k hlength)⟩
  · refine ⟨_, diff_eq_ok.mpr ⟨hlastSource.symm, rfl⟩, fun change hchange => ?_⟩
    rw [hlast] at hchange
    obtain ⟨made, hmade, hfield⟩ := mem_history_changes hchange
    obtain ⟨step, hstep, hsame⟩ := List.mem_map.mp hfield
    exact ⟨_, List.mem_map.mpr ⟨made, hmade, rfl⟩, step, hstep, hsame⟩

/-- Three pieces of evidence of one page: a title comes, and goes when a heading comes. -/
def sampleEvidence (title : Option Text) (h1Texts : List Text) : OnPageEvidence where
  sourceUrl := Text.ofString "https://example.com"
  title
  metaDescription := none
  canonicalUrl := none
  robots := none
  htmlLang := none
  h1Texts

/-- The theorem on three entries. -/
theorem history_rebuilt_sample :
    ∃ diffs, diffHistory (sampleEvidence none [])
        [sampleEvidence (some [0x61]) [], sampleEvidence none [[0x62]]] = .ok diffs ∧
      (∀ k ≤ 2,
        OnPageEvidence.ofValues (Text.ofString "https://example.com")
          (patch (sampleEvidence none []).value
            ((diffs.map OnPageEvidenceDiff.changes).take k).flatten) =
          [sampleEvidence none [], sampleEvidence (some [0x61]) [],
            sampleEvidence none [[0x62]]][k]? ∧
        OnPageEvidence.ofValues (Text.ofString "https://example.com")
          (patch (sampleEvidence none [[0x62]]).value
            (undone ((diffs.map OnPageEvidenceDiff.changes).drop k))) =
          [sampleEvidence none [], sampleEvidence (some [0x61]) [],
            sampleEvidence none [[0x62]]][k]?) ∧
      ∃ diff, diffOnPageEvidence (sampleEvidence none [])
        (sampleEvidence none [[0x62]]) = .ok diff ∧
        ∀ change ∈ diff.changes, ∃ step ∈ diffs, ∃ made ∈ step.changes, made.field = change.field :=
  @history_rebuilt (sampleEvidence none [])
    [sampleEvidence (some [0x61]) [], sampleEvidence none [[0x62]]] (by decide)

end GrowthOs.Evidence
