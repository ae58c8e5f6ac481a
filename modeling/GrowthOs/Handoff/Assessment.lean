import GrowthOs.Handoff.Sections
import GrowthOs.Library.Except
import GrowthOs.Library.Json
import Mathlib.Data.List.Perm.Basic

/-!
# The auto-merge assessment

`parse_auto_merge_assessment`. The expression only finds a section that the end of the body or
another second-level heading follows, and the dictionary of an object keeps the last value of a
repeated key, so `strict_parse_iff` says which bodies are read strictly: all but those where one
section stands that declares an assessment, and a further heading line stands beside it or a field
is repeated in it.
-/

namespace GrowthOs.Handoff

open Library

/-- `AutoMergeAssessment`, with the strings as Python has them. -/
structure Assessment where
  risk : Text
  roadmapAuthorized : Bool
  reversible : Bool
  productionDeployment : Bool
  externalCustomerSideEffect : Bool
  stopCategories : List Text
  deriving DecidableEq

/-- What `parse_auto_merge_assessment` raises: `ValueError`, or `RecursionError` of the decoder. -/
inductive AssessmentError where
  | value (message : String)
  | recursion
  deriving DecidableEq

/-- `AUTO_MERGE_FIELDS`. -/
def assessmentFields : List Text :=
  ["risk", "roadmap_authorized", "reversible", "production_deployment",
    "external_customer_side_effect", "stop_categories"].map Text.ofString

/-- `set(payload) == AUTO_MERGE_FIELDS`. -/
def sameFields (members : List (Text × Json)) : Bool :=
  members.all (fun entry => assessmentFields.contains entry.1) &&
    assessmentFields.all fun field => members.any fun entry => entry.1 == field

/-- The string in a field. -/
def asString : Option Json → Option Text
  | some (.string text) => some text
  | _ => none

/-- The boolean in a field. -/
def asBool : Option Json → Option Bool
  | some (.bool value) => some value
  | _ => none

/-- The strings in a list. -/
def stringList : List Json → Option (List Text)
  | [] => some []
  | item :: items => (asString (some item)).bind fun text => (stringList items).map (text :: ·)

/-- The list of strings in a field. -/
def asStrings : Option Json → Option (List Text)
  | some (.array items) => stringList items
  | _ => none

/-- A value of the type that is required, or the error that it is not. -/
def required {α : Type} (message : String) : Option α → Except AssessmentError α
  | some value => .ok value
  | none => .error (.value message)

/-- The checks of `parse_auto_merge_assessment` on the values of the fields. -/
def readFields (payload : Text → Option Json) : Except AssessmentError Assessment := do
  let flag (name : String) : Except AssessmentError Bool :=
    required ("Auto-merge " ++ name ++ " must be a boolean") (asBool (payload (Text.ofString name)))
  let risk ← required "Auto-merge risk must be a string" (asString (payload (Text.ofString "risk")))
  let roadmapAuthorized ← flag "roadmap_authorized"
  let reversible ← flag "reversible"
  let productionDeployment ← flag "production_deployment"
  let externalCustomerSideEffect ← flag "external_customer_side_effect"
  let stopCategories ← required "Auto-merge stop_categories must be a string list"
    (asStrings (payload (Text.ofString "stop_categories")))
  return ⟨risk, roadmapAuthorized, reversible, productionDeployment, externalCustomerSideEffect,
    stopCategories⟩

/-- What the decoder raises, as `parse_auto_merge_assessment` passes it on. -/
def decodingError : Json.Failure → AssessmentError
  | .decode => .value "Auto-merge assessment is not valid JSON"
  | .digits count => .value
      ("Exceeds the limit (4300 digits) for integer string conversion: value has " ++
        toString count ++ " digits; use sys.set_int_max_str_digits() to increase the limit")
  | .recursion => .recursion

/-- `parse_auto_merge_assessment`, where the interpreter allows `limit` nested containers. -/
def parseAutoMergeAssessment (limit : Nat) (body : Text) : Except AssessmentError Assessment :=
  match findSections body with
  | [block] =>
      match Json.loads limit block with
      | .error failure => .error (decodingError failure)
      | .ok (.object members) =>
          if sameFields members then readFields (Json.lookup members)
          else .error (.value "Auto-merge assessment fields do not match the contract")
      | .ok _ => .error (.value "Auto-merge assessment fields do not match the contract")
  | _ => .error (.value "exactly one Auto-merge assessment JSON block is required")

/-- The body has a heading at the start of a line, and after it one fenced block of JSON. -/
def Fenced (body block : Text) : Prop :=
  ∃ before headingPad feeds jsonPad closingPad after : Text,
    body = before ++ (assessmentHeading ++ headingPad ++ feeds ++ jsonFence ++ jsonPad ++
      0x0A :: (block ++ 0x0A :: (fence ++ closingPad ++ after))) ∧
    (∀ c ∈ before.getLast?, c = 0x0A) ∧ (∀ c ∈ after.head?, c = 0x0A) ∧
    (∀ c ∈ headingPad ++ jsonPad ++ closingPad, isPad c = true) ∧
    feeds ≠ [] ∧ (∀ c ∈ feeds, c = 0x0A) ∧ ¬ 0x0A :: fence <:+: 0x0A :: block

/-- The members of the object that says what an assessment does, every field once. -/
def Assessment.members (a : Assessment) : List (Text × Json) :=
  [(Text.ofString "risk", .string a.risk),
    (Text.ofString "roadmap_authorized", .bool a.roadmapAuthorized),
    (Text.ofString "reversible", .bool a.reversible),
    (Text.ofString "production_deployment", .bool a.productionDeployment),
    (Text.ofString "external_customer_side_effect", .bool a.externalCustomerSideEffect),
    (Text.ofString "stop_categories", .array (a.stopCategories.map .string))]

/-- The body has one heading line, the heading is followed by one fenced block, the one that the
expression finds, and the block is an object that has every field once, with the value that the
assessment has. -/
structure StrictReading (limit : Nat) (body : Text) (a : Assessment) : Prop where
  one_heading : (headingLines body).length = 1
  one_block : ∃ block members, findSections body = [block] ∧ Fenced body block ∧
    Json.loads limit block = .ok (.object members) ∧ members.Perm a.members

/-- The object has no other fields than those of an assessment, and the last value of each of them
is the one that the assessment has. -/
structure Declares (members : List (Text × Json)) (a : Assessment) : Prop where
  only : ∀ entry ∈ members, entry.1 ∈ assessmentFields
  last : ∀ entry ∈ a.members, ∃ front back, members = front ++ entry :: back ∧
    ∀ later ∈ back, later.1 ≠ entry.1

/-- The two kinds of bodies that are accepted without being strict: one section stands in the body,
and its object declares an assessment. -/
inductive Ambiguous (limit : Nat) (body : Text) : Prop where
  /-- Further heading lines stand in the body, and no other section. -/
  | headings {block : Text} {members : List (Text × Json)} {a : Assessment}
      (one : OneSection body block) (decoded : Json.loads limit block = .ok (.object members))
      (declares : Declares members a) (further : 1 < (headingLines body).length)
  /-- The object has a field more than once. -/
  | repeated {block : Text} {members : List (Text × Json)} {a : Assessment}
      (one : OneSection body block) (decoded : Json.loads limit block = .ok (.object members))
      (declares : Declares members a) (repeats : ¬ (members.map Prod.fst).Nodup)

/-- A block that is decoded has no line in it that starts with a fence. -/
theorem block_without_fence {limit : Nat} {block : Text} {value : Json}
    (hloads : Json.loads limit block = .ok value) : ¬ 0x0A :: fence <:+: 0x0A :: block := by
  intro hinfix
  have hshort : [0x0A, 0x60] <:+: 0x0A :: fence := ⟨[], [0x60, 0x60], rfl⟩
  have hlexed : Json.Lexed (0x0A :: block) := .own (by decide) (Json.loads_lexed hloads)
  exact hlexed.line_start (by decide) (by decide) (hshort.trans hinfix)

/-- The block of a section is fenced. -/
theorem fenced_of_one_section {body block : Text} (h : OneSection body block) :
    Fenced body block := by
  obtain ⟨before, text, after, rfl, hbefore, hsection, hblock, -⟩ := h
  obtain ⟨headingPad, feeds, jsonPad, closingPad, rfl, hpads, hfeeds, honly, hends⟩ := hsection
  refine ⟨before, headingPad, feeds, jsonPad, closingPad, after, rfl, hbefore,
    fun c hc => ?_, hpads, hfeeds, honly, hblock⟩
  rcases hends with rfl | ⟨more, next, rfl, hmore, hlines, -⟩
  · cases hc
  · obtain ⟨feed, more, rfl⟩ := List.exists_cons_of_ne_nil hmore
    cases hc
    exact hlines _ List.mem_cons_self

/-- A value that is required is there. -/
theorem required_ok {α : Type} {message : String} {value : Option α} {a : α} :
    required message value = .ok a ↔ value = some a := by
  cases value with
  | none => exact ⟨nofun, nofun⟩
  | some b =>
      exact ⟨fun h => congrArg some (Except.ok.inj h), fun h => congrArg _ (Option.some.inj h)⟩

/-- The value is a string. -/
theorem as_string_eq {value : Option Json} {text : Text} :
    asString value = some text ↔ value = some (.string text) := by
  unfold asString
  split
  · simp
  · next hother =>
      refine ⟨nofun, fun h => ?_⟩
      exact absurd h (hother text)

/-- The value is a boolean. -/
theorem as_bool_eq {value : Option Json} {flag : Bool} :
    asBool value = some flag ↔ value = some (.bool flag) := by
  unfold asBool
  split
  · simp
  · next hother =>
      refine ⟨nofun, fun h => ?_⟩
      exact absurd h (hother flag)

/-- The items are strings. -/
theorem string_list_eq {items : List Json} {texts : List Text} :
    stringList items = some texts ↔ items = texts.map .string := by
  induction items generalizing texts with
  | nil => cases texts <;> simp [stringList]
  | cons item items ih =>
      simp only [stringList, Option.bind_eq_some_iff, Option.map_eq_some_iff, as_string_eq, ih]
      constructor
      · rintro ⟨text, hitem, more, rfl, rfl⟩
        rw [Option.some.inj hitem]
        rfl
      · intro h
        cases texts with
        | nil => cases h
        | cons text texts =>
            rw [List.map_cons, List.cons.injEq] at h
            exact ⟨text, congrArg some h.1, texts, h.2, rfl⟩

/-- The value is an array of strings. -/
theorem as_strings_eq {value : Option Json} {texts : List Text} :
    asStrings value = some texts ↔ value = some (.array (texts.map .string)) := by
  unfold asStrings
  split
  · rw [string_list_eq, Option.some.injEq, Json.array.injEq]
  · next hother =>
      refine ⟨nofun, fun h => ?_⟩
      exact absurd h (hother _)

/-- The assessment that is read is the one whose values the payload has. -/
theorem read_fields_ok {payload : Text → Option Json} {a : Assessment} :
    readFields payload = .ok a ↔ ∀ entry ∈ a.members, payload entry.1 = some entry.2 := by
  simp only [readFields, bind_eq_ok, required_ok, pure_eq_ok, as_string_eq, as_bool_eq,
    as_strings_eq]
  constructor
  · rintro ⟨risk, hrisk, _, hroadmap, _, hreversible, _, hdeploy, _, heffect, stops, hstops, rfl⟩
    simp [Assessment.members, hrisk, hroadmap, hreversible, hdeploy, heffect, hstops]
  · intro h
    simp only [Assessment.members, List.forall_mem_cons] at h
    obtain ⟨hrisk, hroadmap, hreversible, hdeploy, heffect, hstops, -⟩ := h
    exact ⟨_, hrisk, _, hroadmap, _, hreversible, _, hdeploy, _, heffect, _, hstops, rfl⟩

/-- The fields of an assessment are the six of the contract. -/
theorem members_keys (a : Assessment) : a.members.map Prod.fst = assessmentFields := rfl

/-- The contract names no field twice. -/
theorem assessment_fields_nodup : assessmentFields.Nodup := by decide

/-- `set(payload) == AUTO_MERGE_FIELDS` compares the names, however often they occur. -/
theorem same_fields_iff {members : List (Text × Json)} :
    sameFields members = true ↔ ∀ field, field ∈ members.map Prod.fst ↔
    field ∈ assessmentFields := by
  simp only [sameFields, Bool.and_eq_true, List.all_eq_true, List.contains_iff_mem,
    List.any_eq_true, beq_iff_eq, List.mem_map]
  constructor
  · intro h field
    obtain ⟨honly, hall⟩ := h
    refine ⟨fun hmem => ?_, hall field⟩
    obtain ⟨entry, hentry, heq⟩ := hmem
    exact heq ▸ honly entry hentry
  · intro h
    exact ⟨fun entry hentry => (h _).mp ⟨entry, hentry, rfl⟩, fun field => (h field).mpr⟩

/-- The checks of the fields accept the objects that declare an assessment. -/
theorem declares_iff {members : List (Text × Json)} {a : Assessment} :
    sameFields members = true ∧ readFields (Json.lookup members) = .ok a ↔ Declares members a := by
  rw [read_fields_ok, same_fields_iff]
  simp only [Json.lookup_eq_some]
  constructor
  · rintro ⟨hsame, hlast⟩
    exact ⟨fun entry hentry => (hsame _).mp (List.mem_map_of_mem hentry), hlast⟩
  · rintro ⟨honly, hlast⟩
    refine ⟨fun field => ⟨fun hmem => ?_, fun hmem => ?_⟩, hlast⟩
    · obtain ⟨entry, hentry, rfl⟩ := List.mem_map.mp hmem
      exact honly entry hentry
    · rw [← members_keys a] at hmem
      obtain ⟨entry, hentry, rfl⟩ := List.mem_map.mp hmem
      obtain ⟨front, back, rfl, -⟩ := hlast entry hentry
      exact List.mem_map_of_mem (List.mem_append_right front List.mem_cons_self)

/-- What a body has to be like for `parse_auto_merge_assessment` to return. -/
theorem parse_ok {limit : Nat} {body : Text} {a : Assessment} :
    parseAutoMergeAssessment limit body = .ok a ↔
      ∃ block members, OneSection body block ∧
        Json.loads limit block = .ok (.object members) ∧ Declares members a := by
  constructor
  · intro h
    unfold parseAutoMergeAssessment at h
    split at h
    · next block hfound =>
        split at h
        · cases h
        · next members hloads =>
            split at h
            · next hsame =>
                exact ⟨block, members,
                  (found_iff_one_section (block_without_fence hloads)).mp hfound,
                  hloads, declares_iff.mp ⟨hsame, h⟩⟩
            · cases h
        · cases h
    · cases h
  · rintro ⟨block, members, hone, hloads, hdeclares⟩
    obtain ⟨hsame, hread⟩ := declares_iff.mpr hdeclares
    have hfound := (found_iff_one_section (block_without_fence hloads)).mpr hone
    simp only [parseAutoMergeAssessment, hfound, hloads, hsame, if_true]
    exact hread

/-- Members without repetition are those of the assessment that they declare. -/
theorem members_perm {members : List (Text × Json)} {a : Assessment}
    (hnodup : (members.map Prod.fst).Nodup) (h : Declares members a) : members.Perm a.members := by
  have hown : a.members.Nodup := by
    refine List.Nodup.of_map Prod.fst ?_
    rw [members_keys]
    exact assessment_fields_nodup
  have hdeclared : ∀ entry ∈ a.members, entry ∈ members := by
    intro entry hentry
    obtain ⟨front, back, rfl, -⟩ := h.last entry hentry
    exact List.mem_append_right front List.mem_cons_self
  rw [List.perm_ext_iff_of_nodup (hnodup.of_map _) hown]
  refine fun entry => ⟨fun hmem => ?_, hdeclared entry⟩
  have hfield := h.only entry hmem
  rw [← members_keys a] at hfield
  obtain ⟨other, hother, hname⟩ := List.mem_map.mp hfield
  rw [List.inj_on_of_nodup_map hnodup hmem (hdeclared other hother) hname.symm]
  exact hother

/-- A body whose assessment is returned is read strictly, unless it is of one of the two kinds. -/
theorem strict_parse_iff (limit : Nat) (body : Text) :
    (∀ a, parseAutoMergeAssessment limit body = .ok a → StrictReading limit body a) ↔
      ¬ Ambiguous limit body := by
  constructor
  · rintro hstrict (⟨hone, hloads, hdeclares, hfurther⟩ | ⟨hone, hloads, hdeclares, hrepeats⟩)
    · have hreading := hstrict _ (parse_ok.mpr ⟨_, _, hone, hloads, hdeclares⟩)
      have hheading := hreading.one_heading
      omega
    · obtain ⟨-, block, members, hfound, -, hagain, hperm⟩ :=
        hstrict _ (parse_ok.mpr ⟨_, _, hone, hloads, hdeclares⟩)
      -- The strict reading is of the same block, so of the same members.
      rw [(found_iff_one_section (block_without_fence hloads)).mpr hone, List.cons.injEq] at hfound
      rw [← hfound.1, hloads, Except.ok.injEq, Json.object.injEq] at hagain
      rw [hagain] at hrepeats
      refine hrepeats ((hperm.map Prod.fst).nodup_iff.mpr ?_)
      rw [members_keys]
      exact assessment_fields_nodup
  · intro hclear a hparse
    obtain ⟨block, members, hone, hloads, hdeclares⟩ := parse_ok.mp hparse
    have hheadings : (headingLines body).length = 1 := by
      have hsome := heading_line_of_section hone
      by_contra hne
      exact hclear (.headings hone hloads hdeclares (by omega))
    have hnodup : (members.map Prod.fst).Nodup := by
      by_contra hrepeats
      exact hclear (.repeated hone hloads hdeclares hrepeats)
    exact ⟨hheadings, block, members,
      (found_iff_one_section (block_without_fence hloads)).mpr hone,
      fenced_of_one_section hone, hloads,
      members_perm hnodup hdeclares⟩

/-- An object of the six fields after other members. -/
def sampleObject (earlier risk : Text) : Text :=
  Text.ofString "\x7b" ++ earlier ++ Text.ofString "\"risk\": " ++ risk ++
    [", \"roadmap_authorized\": true", ", \"reversible\": true",
      ", \"production_deployment\": false",
      ", \"external_customer_side_effect\": false",
        ", \"stop_categories\": []\x7d"].flatMap Text.ofString

/-- A section with an object. -/
def sampleSection (object : Text) : Text :=
  Text.ofString "## Auto-merge assessment\n\n```json\n" ++ object ++ Text.ofString "\n```\n"

/-- What the sample sections are read as. -/
def sampleAssessment : Assessment := ⟨Text.ofString "low", true, true, false, false, []⟩

/-- A section that declares low risk, and one that declares high risk, with a sentence after it. -/
def revisedBody : Text :=
  sampleSection (sampleObject [] (Text.ofString "\"low\"")) ++ Text.ofString "\n" ++
    sampleSection (sampleObject [] (Text.ofString "\"high\"")) ++
    Text.ofString "\nRevised after review.\n"

/-- A section whose object declares high risk, and then low risk. -/
def repeatedBody : Text :=
    sampleSection (sampleObject (Text.ofString "\"risk\": \"high\", ") (Text.ofString "\"low\""))

/-- The names of the members of a decoded object, in their order. -/
def memberNames : Except Json.Failure Json → List Text
  | .ok (.object members) => members.map Prod.fst
  | _ => []

/-- A single section with every field once is accepted, and it is of neither kind. -/
example : parseAutoMergeAssessment 10 (sampleSection (sampleObject [] (Text.ofString "\"low\""))) =
      .ok sampleAssessment ∧
    ¬ Ambiguous 10 (sampleSection (sampleObject [] (Text.ofString "\"low\""))) := by
  refine ⟨by decide +kernel, ?_⟩
  rintro (⟨-, -, -, hfurther⟩ | ⟨hone, hloads, -, hrepeats⟩)
  · exact absurd hfurther (by decide +kernel)
  · have hfound : findSections (sampleSection (sampleObject [] (Text.ofString "\"low\""))) =
        [sampleObject [] (Text.ofString "\"low\"")] := by
      decide +kernel
    rw [(found_iff_one_section (block_without_fence hloads)).mpr hone, List.cons.injEq] at hfound
    have hnames : (memberNames
        (Json.loads 10 (sampleObject [] (Text.ofString "\"low\"")))).Nodup := by
      decide +kernel
    rw [← hfound.1, hloads] at hnames
    exact hrepeats hnames

/-- A second section with text after it is not counted, and the last value of a repeated field is
taken. -/
theorem ambiguous_bodies_accepted :
    (parseAutoMergeAssessment 10 revisedBody = .ok sampleAssessment ∧
      ¬ StrictReading 10 revisedBody sampleAssessment) ∧
    parseAutoMergeAssessment 10 repeatedBody = .ok sampleAssessment ∧
      ¬ StrictReading 10 repeatedBody sampleAssessment := by
  refine ⟨⟨?_, ?_⟩, ?_, ?_⟩
  · decide +kernel
  · intro h
    have htwo : (headingLines revisedBody).length = 2 := by decide +kernel
    have hone := h.one_heading
    omega
  · decide +kernel
  · intro h
    obtain ⟨block, members, hfound, -, hloads, hperm⟩ := h.one_block
    have hblock : findSections repeatedBody =
        [sampleObject (Text.ofString "\"risk\": \"high\", ") (Text.ofString "\"low\"")] := by
      decide +kernel
    rw [hblock, List.cons.injEq] at hfound
    -- The block has seven members, an assessment has six.
    have hseven : (memberNames (Json.loads 10 (sampleObject (Text.ofString "\"risk\": \"high\", ")
        (Text.ofString "\"low\"")))).length = 7 := by
      decide +kernel
    rw [hfound.1, hloads] at hseven
    have hsix := (hperm.map Prod.fst).length_eq
    cases hseven.symm.trans hsix

end GrowthOs.Handoff
