import GrowthOs.Handoff.Commands
import GrowthOs.Library.Except
import GrowthOs.Library.JsonSchema

/-!
# The result of a review

`load_review_result`: the reviewer is told the schema of its last message, and the controller, which
does not trust it, checks the message again by hand. `reviewSchema` is the schema file. The checks
accept what the schema accepts, but for two differences: an integer has to be spelled as one, and
only a pass has no findings.
-/

namespace GrowthOs.Handoff

open GrowthOs.Library

/-- The priorities of a finding. -/
inductive ReviewPriority where
  | p0
  | p1
  | p2
  | p3
  deriving DecidableEq, Repr

/-- `ReviewFinding`. -/
structure ReviewFinding where
  priority : ReviewPriority
  title : Text
  detail : Text
  path : Option Text
  line : Option Int

/-- `ReviewResult`. -/
structure ReviewResult where
  verdict : ReviewVerdict
  summary : Text
  findings : List ReviewFinding

/-- The verdict as it is spelled. -/
def ReviewVerdict.word : ReviewVerdict → Text
  | .pass => Text.ofString "pass"
  | .changesRequested => Text.ofString "changes_requested"

/-- The priority as it is spelled. -/
def ReviewPriority.word : ReviewPriority → Text
  | .p0 => Text.ofString "P0"
  | .p1 => Text.ofString "P1"
  | .p2 => Text.ofString "P2"
  | .p3 => Text.ofString "P3"

/-- The verdicts that are allowed. -/
def reviewVerdicts : List ReviewVerdict := [.pass, .changesRequested]

/-- The priorities that are allowed. -/
def reviewPriorities : List ReviewPriority := [.p0, .p1, .p2, .p3]

/-- `MAX_REVIEW_RESULT_BYTES`. -/
def maxReviewResultBytes : Nat := 65536

/-- `MAX_REVIEW_FINDINGS`. -/
def maxReviewFindings : Nat := 20

/-- What `load_review_result` raises: its own `RuntimeError`, or what it lets the decoder raise. -/
inductive ReviewResultError where
  | runtimeError (message : String)
  | digits (count : Nat)
  | recursion
  deriving DecidableEq

/-- `_review_result_error`. -/
def reviewResultError (detail : String) : ReviewResultError :=
  .runtimeError ("Invalid review result: " ++ detail)

/-- The result file: the size that `stat` finds and the bytes that a read finds, unless they
raise. -/
structure ResultFile where
  size : Option Nat
  content : Option ByteArray

/-- The line breaks of a file that is read as text. -/
def universalNewlines : Text → Text
  | 0x0D :: 0x0A :: rest => 0x0A :: universalNewlines rest
  | 0x0D :: rest => 0x0A :: universalNewlines rest
  | c :: rest => c :: universalNewlines rest
  | [] => []

/-- `result_file.read_text(encoding="utf-8")`. -/
def ResultFile.readText (file : ResultFile) : Option Text :=
  (file.content.bind Text.decodeUtf8).map universalNewlines

/-- What the decoder raises, as `load_review_result` passes it on. -/
def payloadError : Json.Failure → ReviewResultError
  | .decode => reviewResultError "result is not valid UTF-8 JSON"
  | .digits count => .digits count
  | .recursion => .recursion

/-- The payload of the file, where the interpreter allows `limit` nested containers. -/
def ResultFile.payload (limit : Nat) (file : ResultFile) : Except ReviewResultError Json :=
  match file.readText with
  | none => .error (reviewResultError "result is not valid UTF-8 JSON")
  | some text => (Json.loads limit text).mapError payloadError

/-- What a check finds, or the error that it raises. -/
def checked {α : Type} (detail : String) : Option α → Except ReviewResultError α
  | some value => .ok value
  | none => .error (reviewResultError detail)

/-- The dictionary, if its keys are the fields. -/
def exactFields (fields : List Text) : Json → Option (Text → Option Json)
  | .object members => if Json.hasFields fields members then some (Json.lookup members) else none
  | _ => none

/-- The one of the words that a field spells. -/
def wordOf {α : Type} (word : α → Text) (values : List α) : Option Json → Option α
  | some (.string text) => values.find? fun value => word value == text
  | _ => none

/-- The text of a field, if its length is in the range. -/
def textOf (least most : Nat) : Option Json → Option Text
  | some (.string text) => if Json.lengthWithin least most text then some text else none
  | _ => none

/-- The text of a field that may be null. -/
def textOrNull (least most : Nat) : Option Json → Option (Option Text)
  | some .null => some none
  | value => (textOf least most value).map some

/-- The integer of a field that may be null, if it is in the range. -/
def integerOrNull (least greatest : Int) : Option Json → Option (Option Int)
  | some .null => some none
  | some (.number spelling) =>
      ((Json.plainInteger spelling).filter fun n => least ≤ n ∧ n ≤ greatest).map some
  | _ => none

/-- The list of a field, if it is not too long. -/
def boundedList (most : Nat) : Option Json → Option (List Json)
  | some (.array values) => if values.length ≤ most then some values else none
  | _ => none

/-- The fields of a finding. -/
def findingFields : List Text := ["priority", "title", "detail", "path", "line"].map Text.ofString

/-- The fields of a result. -/
def resultFields : List Text := ["verdict", "summary", "findings"].map Text.ofString

/-- A round of the loop over the findings. -/
def loadFinding (candidate : Json) : Except ReviewResultError ReviewFinding := do
  let field ← checked "finding fields do not match the contract"
    (exactFields findingFields candidate)
  let priority ← checked "finding priority is not allowed"
    (wordOf ReviewPriority.word reviewPriorities (field (Text.ofString "priority")))
  let title ← checked "finding title length is invalid"
    (textOf 1 200 (field (Text.ofString "title")))
  let detail ← checked "finding detail length is invalid"
    (textOf 1 2000 (field (Text.ofString "detail")))
  let path ← checked "finding path is invalid" (textOrNull 1 500 (field (Text.ofString "path")))
  let line ← checked "finding line is invalid"
    (integerOrNull 1 1000000 (field (Text.ofString "line")))
  return ⟨priority, title, detail, path, line⟩

/-- The checks of `load_review_result` on the payload. -/
def checkPayload (payload : Json) : Except ReviewResultError ReviewResult := do
  let field ← checked "top-level fields do not match the contract"
    (exactFields resultFields payload)
  let verdict ← checked "verdict is not allowed"
    (wordOf ReviewVerdict.word reviewVerdicts (field (Text.ofString "verdict")))
  let summary ← checked "summary length is invalid"
    (textOf 1 2000 (field (Text.ofString "summary")))
  let candidates ← checked "findings must be a bounded list"
    (boundedList maxReviewFindings (field (Text.ofString "findings")))
  let findings ← candidates.mapM loadFinding
  if verdict = .pass ∧ findings ≠ [] then
    throw (reviewResultError "pass verdict cannot contain findings")
  else if verdict = .changesRequested ∧ findings = [] then
    throw (reviewResultError "changes_requested verdict requires findings")
  else return ⟨verdict, summary, findings⟩

/-- `load_review_result`. -/
def loadReviewResult (limit : Nat) (file : ResultFile) : Except ReviewResultError ReviewResult := do
  let size ← checked "result file is missing or unreadable" file.size
  if maxReviewResultBytes < size then throw (reviewResultError "review result is too large")
  else checkPayload (← file.payload limit)

/-- The schema of a finding in `codex-review.schema.json`. -/
def findingSchema : Json.Schema := .record
  [(Text.ofString "priority", .oneOf (reviewPriorities.map ReviewPriority.word)),
    (Text.ofString "title", .text 1 200),
    (Text.ofString "detail", .text 1 2000),
    (Text.ofString "path", .textOrNull 1 500),
    (Text.ofString "line", .integerOrNull 1 1000000)]

/-- `codex-review.schema.json`. -/
def reviewSchema : Json.Schema := .record
  [(Text.ofString "verdict", .oneOf (reviewVerdicts.map ReviewVerdict.word)),
    (Text.ofString "summary", .text 1 2000),
    (Text.ofString "findings", .all [.type [.array], .maxItems 20, .items findingSchema])]

/-- The value is an object that has the field with the value. -/
def HasField (value : Json) (name : String) (field : Json) : Prop :=
  ∃ members, value = .object members ∧ Json.lookup members (Text.ofString name) = some field

/-- A field that may be null spells the integer, if there is one. -/
def SpellsInteger (field : Json) : Option Int → Prop
  | none => field = .null
  | some n => ∃ spelling, field = .number spelling ∧ Json.plainInteger spelling = some n

/-- The value spells the finding. -/
structure SpellsFinding (value : Json) (finding : ReviewFinding) : Prop where
  priority : HasField value "priority" (.string finding.priority.word)
  title : HasField value "title" (.string finding.title)
  detail : HasField value "detail" (.string finding.detail)
  path : HasField value "path" (finding.path.elim .null .string)
  line : ∃ field, HasField value "line" field ∧ SpellsInteger field finding.line

/-- The value spells the result. -/
structure SpellsResult (value : Json) (result : ReviewResult) : Prop where
  verdict : HasField value "verdict" (.string result.verdict.word)
  summary : HasField value "summary" (.string result.summary)
  findings : ∃ values, HasField value "findings" (.array values) ∧
    List.Forall₂ SpellsFinding values result.findings

/-- A check passes what it finds. -/
theorem checked_ok {α : Type} {detail : String} {found : Option α} {a : α} :
    checked detail found = .ok a ↔ found = some a := by
  cases found with
  | none => simp [checked]
  | some value => simp [checked]

/-- The fields of an object with exactly these names. -/
theorem exact_fields_eq {fields : List Text} {value : Json} {field : Text → Option Json} :
    exactFields fields value = some field ↔ ∃ members, value = .object members ∧
      Json.hasFields fields members = true ∧ Json.lookup members = field := by
  unfold exactFields
  split
  · rename_i members
    split
    · rename_i hfields
      simp [hfields]
    · rename_i hfields
      simp [hfields]
  · rename_i hother
    constructor
    · intro h
      cases h
    · rintro ⟨members, hvalue, -⟩
      exact absurd hvalue (hother members)

/-- Different words are words of different values. -/
theorem word_of_eq {α : Type} {word : α → Text} {values : List α} {found : Option Json} {a : α}
    (hall : ∀ b, b ∈ values) (hinj : ∀ b c, word b = word c → b = c) :
    wordOf word values found = some a ↔ found = some (.string (word a)) := by
  unfold wordOf
  split
  · rename_i text
    constructor
    · intro h
      have hword : word a = text := by simpa using List.find?_some h
      rw [hword]
    · intro h
      obtain rfl : text = word a := Json.string.inj (Option.some.inj h)
      have hsome : (values.find? fun value => word value == word a).isSome = true :=
        List.find?_isSome.mpr ⟨a, hall a, beq_self_eq_true _⟩
      obtain ⟨b, hb⟩ := Option.isSome_iff_exists.mp hsome
      have hword : word b = word a := by simpa using List.find?_some hb
      rw [hb, hinj b a hword]
  · rename_i hother
    constructor
    · intro h
      cases h
    · intro h
      exact absurd h (hother _)

/-- A string of a length in bounds. -/
theorem text_of_eq {least most : Nat} {found : Option Json} {text : Text} :
    textOf least most found = some text ↔
      found = some (.string text) ∧ Json.lengthWithin least most text = true := by
  unfold textOf
  split
  · rename_i spelled
    split
    · rename_i hlength
      constructor
      · intro h
        obtain rfl := Option.some.inj h
        exact ⟨rfl, hlength⟩
      · rintro ⟨h, -⟩
        rw [Json.string.inj (Option.some.inj h)]
    · rename_i hlength
      constructor
      · intro h
        cases h
      · rintro ⟨h, htext⟩
        rw [← Json.string.inj (Option.some.inj h)] at htext
        exact absurd htext hlength
  · rename_i hother
    constructor
    · intro h
      cases h
    · rintro ⟨h, -⟩
      exact absurd h (hother _)

/-- Such a string, or null. -/
theorem text_or_null_eq {least most : Nat} {found : Option Json} {text : Option Text} :
    textOrNull least most found = some text ↔ found = some (text.elim .null .string) ∧
      ∀ spelled ∈ text, Json.lengthWithin least most spelled = true := by
  unfold textOrNull
  split
  · cases text with
    | none => simp
    | some text => simp
  · rename_i hnull
    rw [Option.map_eq_some_iff]
    cases text with
    | none =>
        constructor
        · rintro ⟨_, -, h⟩
          cases h
        · rintro ⟨h, -⟩
          exact absurd h hnull
    | some text => simp [text_of_eq]

/-- An integer in bounds, or null. -/
theorem integer_or_null_eq {least greatest : Int} {found : Option Json} {line : Option Int} :
    integerOrNull least greatest found = some line ↔ (∃ field, found = some field ∧
      SpellsInteger field line) ∧ ∀ n ∈ line, least ≤ n ∧ n ≤ greatest := by
  unfold integerOrNull
  split
  · cases line with
    | none => simp [SpellsInteger]
    | some n => simp [SpellsInteger]
  · rename_i spelling
    rw [Option.map_eq_some_iff]
    cases line with
    | none => simp [SpellsInteger]
    | some n => simp [SpellsInteger, Option.filter_eq_some_iff]
  · rename_i hnull hnumber
    constructor
    · intro h
      cases h
    · rintro ⟨⟨field, rfl, hspells⟩, -⟩
      cases line with
      | none => exact absurd (congrArg some hspells) hnull
      | some n =>
          obtain ⟨spelling, rfl, -⟩ := hspells
          exact absurd rfl (hnumber spelling)

/-- A list of at most so many items. -/
theorem bounded_list_eq {most : Nat} {found : Option Json} {values : List Json} :
    boundedList most found = some values ↔
      found = some (.array values) ∧ values.length ≤ most := by
  unfold boundedList
  split
  · rename_i listed
    split
    · rename_i hlength
      constructor
      · intro h
        obtain rfl := Option.some.inj h
        exact ⟨rfl, hlength⟩
      · rintro ⟨h, -⟩
        rw [Json.array.inj (Option.some.inj h)]
    · rename_i hlength
      constructor
      · intro h
        cases h
      · rintro ⟨h, hvalues⟩
        rw [← Json.array.inj (Option.some.inj h)] at hvalues
        exact absurd hvalues hlength
  · rename_i hother
    constructor
    · intro h
      cases h
    · rintro ⟨h, -⟩
      exact absurd h (hother _)

/-- The word of a priority. -/
theorem priority_of_eq {found : Option Json} {priority : ReviewPriority} :
    wordOf ReviewPriority.word reviewPriorities found = some priority ↔
      found = some (.string priority.word) :=
  word_of_eq (fun b => by cases b <;> decide) (fun b c => by cases b <;> cases c <;> decide)

/-- The word of a verdict. -/
theorem verdict_of_eq {found : Option Json} {verdict : ReviewVerdict} :
    wordOf ReviewVerdict.word reviewVerdicts found = some verdict ↔
      found = some (.string verdict.word) :=
  word_of_eq (fun b => by cases b <;> decide) (fun b c => by cases b <;> cases c <;> decide)

/-! ## The checks and the schema -/

/-- The schema of one of several words. -/
theorem valid_word {words : List Text} {word : Text} :
    Json.valid (.oneOf words) (.string word) = true ↔ word ∈ words := by
  rw [Json.valid_one_of]
  simp

/-- The schema of a string. -/
theorem valid_string {least most : Nat} {text : Text} :
    Json.valid (.text least most) (.string text) = true ↔
      Json.lengthWithin least most text = true := by
  rw [Json.valid_text]
  simp

/-- The schema of a string or null. -/
theorem valid_optional {least most : Nat} {text : Option Text} :
    Json.valid (.textOrNull least most) (text.elim .null .string) = true ↔
      ∀ spelled ∈ text, Json.lengthWithin least most spelled = true := by
  rw [Json.valid_text_or_null]
  cases text with
  | none => simp
  | some text => simp

/-- The schema of an integer or null. -/
theorem valid_spelled {least greatest : Int} {field : Json} {line : Option Int}
    (h : SpellsInteger field line) :
    Json.valid (.integerOrNull least greatest) field = true ↔
      ∀ n ∈ line, least ≤ n ∧ n ≤ greatest := by
  rw [Json.valid_integer_or_null]
  cases line with
  | none =>
      obtain rfl : field = .null := h
      simp
  | some n =>
      obtain ⟨spelling, rfl, hplain⟩ := h
      simp [Json.integral_of_plain hplain]

/-- Every priority has a word of the schema. -/
theorem mem_priority_words (priority : ReviewPriority) :
    priority.word ∈ reviewPriorities.map ReviewPriority.word := by
  cases priority <;> decide

/-- So has every verdict. -/
theorem mem_verdict_words (verdict : ReviewVerdict) :
    verdict.word ∈ reviewVerdicts.map ReviewVerdict.word := by
  cases verdict <;> decide

section

variable {members : List (Text × Json)} {name : String} {field : Json} {schema : Json.Schema}

/-- A field of an object is the last one of its name. -/
theorem has_field_object :
    HasField (.object members) name field ↔
    Json.lookup members (Text.ofString name) = some field := by
  unfold HasField
  simp

/-- A field that meets its schema, where its value is known. -/
theorem valid_field (hfield : Json.lookup members (Text.ofString name) = some field) :
    (∃ value, Json.lookup members (Text.ofString name) = some value ∧
      Json.valid schema value = true) ↔ Json.valid schema field = true := by
  rw [hfield]
  simp

end

/-- A round of the loop returns the finding that the candidate spells, if the candidate meets its
schema. -/
theorem load_finding_ok {candidate : Json} {finding : ReviewFinding} :
    loadFinding candidate = .ok finding ↔
      Json.valid findingSchema candidate = true ∧ SpellsFinding candidate finding := by
  simp only [loadFinding, bind_eq_ok, checked_ok, pure_eq_ok, exact_fields_eq, priority_of_eq,
    text_of_eq, text_or_null_eq, integer_or_null_eq]
  unfold findingSchema
  rw [Json.valid_record]
  constructor
  · rintro ⟨_, ⟨members, rfl, hfields, rfl⟩, priority, hpriority, title, ⟨htitle, hshort⟩, detail,
      ⟨hdetail, hlong⟩, path, ⟨hpath, hbounded⟩, line, ⟨⟨number, hnumber, hspells⟩, hrange⟩, rfl⟩
    refine ⟨⟨members, rfl, hfields, ?_⟩, ?_⟩
    · rw [List.forall_mem_cons, List.forall_mem_cons, List.forall_mem_cons, List.forall_mem_cons,
        List.forall_mem_singleton]
      refine ⟨⟨_, hpriority, ?_⟩, ⟨_, htitle, ?_⟩, ⟨_, hdetail, ?_⟩, ⟨_, hpath, ?_⟩, _, hnumber, ?_⟩
      · exact valid_word.mpr (mem_priority_words priority)
      · exact valid_string.mpr hshort
      · exact valid_string.mpr hlong
      · exact valid_optional.mpr hbounded
      · exact (valid_spelled hspells).mpr hrange
    · exact ⟨has_field_object.mpr hpriority, has_field_object.mpr htitle,
        has_field_object.mpr hdetail, has_field_object.mpr hpath, number,
        has_field_object.mpr hnumber, hspells⟩
  · rintro ⟨⟨members, rfl, hfields, hentries⟩, hspelled⟩
    obtain ⟨number, hnumber, hspells⟩ := hspelled.line
    have hpriority := has_field_object.mp hspelled.priority
    have htitle := has_field_object.mp hspelled.title
    have hdetail := has_field_object.mp hspelled.detail
    have hpath := has_field_object.mp hspelled.path
    rw [has_field_object] at hnumber
    rw [List.forall_mem_cons, List.forall_mem_cons, List.forall_mem_cons, List.forall_mem_cons,
      List.forall_mem_singleton, valid_field htitle, valid_field hdetail, valid_field hpath,
      valid_field hnumber, valid_string, valid_string, valid_optional, valid_spelled hspells]
      at hentries
    obtain ⟨-, hshort, hlong, hbounded, hrange⟩ := hentries
    exact ⟨_, ⟨members, rfl, hfields, rfl⟩, _, hpriority, _, ⟨htitle, hshort⟩, _, ⟨hdetail, hlong⟩,
      _, ⟨hpath, hbounded⟩, _, ⟨⟨number, hnumber, hspells⟩, hrange⟩, rfl⟩

/-- The list of the findings meets its schema. -/
theorem valid_findings {values : List Json} :
    Json.valid (.all [.type [.array], .maxItems 20, .items findingSchema]) (.array values) = true ↔
      values.length ≤ maxReviewFindings ∧
      ∀ value ∈ values, Json.valid findingSchema value = true := by
  rw [Json.valid_all]
  simp [Json.valid, Json.hasType, maxReviewFindings]

/-- The payload passes the checks if it meets the schema, its integers are spelled as integers and
only a pass has no findings. -/
theorem check_payload_ok {payload : Json} {result : ReviewResult} :
    checkPayload payload = .ok result ↔ Json.valid reviewSchema payload = true ∧
      SpellsResult payload result ∧ (result.verdict = .pass ↔ result.findings = []) := by
  simp only [checkPayload, bind_eq_ok, checked_ok, guard_eq_ok, pure_eq_ok, exact_fields_eq,
    verdict_of_eq, text_of_eq, bounded_list_eq, map_m_eq_ok, load_finding_ok,
    List.forall₂_and_left]
  unfold reviewSchema
  rw [Json.valid_record]
  constructor
  · rintro ⟨_, ⟨members, rfl, hfields, rfl⟩, verdict, hverdict, summary,
      ⟨hsummary, hlength⟩, values,
      ⟨hvalues, hbounded⟩, findings, ⟨hvalid, hspells⟩, hpass, hchanges, rfl⟩
    refine ⟨⟨members, rfl, hfields, ?_⟩, ?_, ?_⟩
    · rw [List.forall_mem_cons, List.forall_mem_cons, List.forall_mem_singleton]
      refine ⟨⟨_, hverdict, ?_⟩, ⟨_, hsummary, ?_⟩, _, hvalues, ?_⟩
      · exact valid_word.mpr (mem_verdict_words verdict)
      · exact valid_string.mpr hlength
      · exact valid_findings.mpr ⟨hbounded, hvalid⟩
    · exact ⟨has_field_object.mpr hverdict, has_field_object.mpr hsummary, values,
        has_field_object.mpr hvalues, hspells⟩
    · cases verdict with
      | pass => simpa using hpass
      | changesRequested => simpa using hchanges
  · rintro ⟨⟨members, rfl, hfields, hentries⟩, hspelled, honly⟩
    obtain ⟨values, hvalues, hspells⟩ := hspelled.findings
    have hverdict := has_field_object.mp hspelled.verdict
    have hsummary := has_field_object.mp hspelled.summary
    rw [has_field_object] at hvalues
    rw [List.forall_mem_cons, List.forall_mem_cons, List.forall_mem_singleton, valid_field hsummary,
      valid_field hvalues, valid_string, valid_findings] at hentries
    obtain ⟨-, hlength, hbounded, hvalid⟩ := hentries
    obtain ⟨verdict, summary, findings⟩ := result
    refine ⟨_, ⟨members, rfl, hfields, rfl⟩, verdict, hverdict, summary,
      ⟨hsummary, hlength⟩, values, ⟨hvalues, hbounded⟩, findings, ⟨hvalid, hspells⟩, ?_, ?_, rfl⟩
    · rintro ⟨hpass, hfindings⟩
      exact hfindings (honly.mp hpass)
    · rintro ⟨hchanges, hempty⟩
      have hpass : verdict = .pass := honly.mpr hempty
      rw [hpass] at hchanges
      cases hchanges

/-- The payload of a file is decoded from its text. -/
theorem payload_ok {limit : Nat} {file : ResultFile} {payload : Json} :
    file.payload limit = .ok payload ↔
      ∃ text, file.readText = some text ∧ Json.loads limit text = .ok payload := by
  unfold ResultFile.payload
  split
  · rename_i hnone
    simp [hnone]
  · rename_i text hsome
    rw [map_error_eq_ok, hsome]
    simp

/-- The controller takes exactly the results that the reviewer was asked for: the file is not too
large and holds a JSON text that meets the schema, its integers are spelled as integers, and it
passes the change if and only if it has no findings. What is taken is what the text spells. -/
theorem review_contract (limit : Nat) (file : ResultFile) (result : ReviewResult) :
    loadReviewResult limit file = .ok result ↔
      (∃ size, file.size = some size ∧ size ≤ maxReviewResultBytes) ∧
      ∃ text payload, file.readText = some text ∧ Json.loads limit text = .ok payload ∧
        Json.valid reviewSchema payload = true ∧ SpellsResult payload result ∧
        (result.verdict = .pass ↔ result.findings = []) := by
  simp only [loadReviewResult, bind_eq_ok, checked_ok, guard_eq_ok, payload_ok, check_payload_ok]
  constructor
  · rintro ⟨size, hsize, hsmall, payload, ⟨text, htext, hloads⟩, hvalid, hspells, honly⟩
    exact ⟨⟨size, hsize, by omega⟩, text, payload, htext, hloads, hvalid, hspells, honly⟩
  · rintro ⟨⟨size, hsize, hsmall⟩, text, payload, htext, hloads, hvalid, hspells, honly⟩
    exact ⟨size, hsize, by omega, payload, ⟨text, htext, hloads⟩, hvalid, hspells, honly⟩

end GrowthOs.Handoff
