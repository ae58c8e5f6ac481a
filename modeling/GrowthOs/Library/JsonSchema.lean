import GrowthOs.Library.Json
import Mathlib.Data.Rat.Defs

/-!
# JSON Schema

The keywords of JSON Schema 2020-12 that say what a value is: a keyword constrains the values that
it is about, and no other. `valid` decides whether a decoded value meets a schema. A number is an
integer if its value is one, however it is spelled; `plainInteger` is the spelling that `json.loads`
reads as an `int`.
-/

namespace GrowthOs.Library

namespace Json

/-- The parts of a spelled number. The fraction has its point, the exponent its letter. -/
structure NumberParts where
  negative : Bool
  digits : Text
  fraction : Text
  exponent : Text

/-- The parts of a spelling, unless it is `NaN` or an infinity. -/
def numberParts (spelling : Text) : Option NumberParts :=
  let (negative, unsigned) := match spelling with
    | 0x2D :: rest => (true, rest)
    | s => (false, s)
  match integerPart unsigned with
  | none => none
  | some (digits, rest) =>
      let (fraction, rest) := fractionPart rest
      some ⟨negative, digits, fraction, (exponentPart rest).1⟩

/-- The natural number that digits spell. -/
def digitsValue (digits : Text) : Nat := digits.foldl (fun n d => 10 * n + (d - 0x30)) 0

/-- The integer that a sign and digits spell. -/
def signed (negative : Bool) (n : Nat) : Int := if negative then -n else n

/-- The exponent after its letter. -/
def exponentValue : Text → Int
  | _ :: 0x2D :: digits => -digitsValue digits
  | _ :: 0x2B :: digits => digitsValue digits
  | _ :: digits => digitsValue digits
  | [] => 0

/-- The value of a number. -/
def NumberParts.value (parts : NumberParts) : Rat :=
  signed parts.negative (digitsValue (parts.digits ++ parts.fraction.tail)) *
    (10 : Rat) ^ (exponentValue parts.exponent - parts.fraction.tail.length)

/-- The number that `json.loads` reads as an `int`: it has neither a fraction nor an exponent. -/
def plainInteger (spelling : Text) : Option Int :=
  match numberParts spelling with
  | some ⟨negative, digits, [], []⟩ => some (signed negative (digitsValue digits))
  | _ => none

/-- The number as an integer, if its value is one. -/
def integralValue (spelling : Text) : Option Int :=
  match numberParts spelling with
  | some parts => if parts.value.den = 1 then some parts.value.num else none
  | none => none

/-- An integral number has parts. -/
theorem integral_value_eq {spelling : Text} {n : Int} (h : integralValue spelling = some n) :
    ∃ parts, numberParts spelling = some parts ∧ parts.value = n := by
  unfold integralValue at h
  split at h
  · rename_i parts hparts
    split at h
    · rename_i hden
      obtain rfl := Option.some.inj h
      exact ⟨parts, hparts, (Rat.coe_int_num_of_den_eq_one hden).symm⟩
    · cases h
  · cases h

/-- A plain integer is integral. -/
theorem integral_of_plain {spelling : Text} {n : Int} (h : plainInteger spelling = some n) :
    integralValue spelling = some n := by
  unfold plainInteger at h
  unfold integralValue
  split at h
  · rename_i negative digits hparts
    obtain rfl := Option.some.inj h
    rw [hparts]
    have hvalue : (NumberParts.mk negative digits [] []).value =
        (signed negative (digitsValue digits) : Rat) := by
      unfold NumberParts.value
      simp [exponentValue]
    show (if (NumberParts.mk negative digits [] []).value.den = 1 then _ else _) = _
    rw [hvalue]
    simp
  · cases h

/-! ## Schemas -/

/-- The values of `type`. -/
inductive JsonType where
  | null
  | string
  | integer
  | array
  | object
  deriving DecidableEq, Repr

/-- A value is of a type. -/
def hasType : Json → JsonType → Bool
  | .null, .null | .string _, .string | .array _, .array | .object _, .object => true
  | .number spelling, .integer => (integralValue spelling).isSome
  | _, _ => false

/-- A schema. `closed` is `"additionalProperties": false` beside the properties that it names. -/
inductive Schema where
  | all (keywords : List Schema)
  | type (types : List JsonType)
  | enum (values : List Text)
  | minLength (length : Nat)
  | maxLength (length : Nat)
  | minimum (least : Int)
  | maximum (greatest : Int)
  | items (schema : Schema)
  | maxItems (length : Nat)
  | required (names : List Text)
  | closed (names : List Text)
  | property (name : Text) (schema : Schema)

mutual

/-- The value meets the schema. -/
def valid : Schema → Json → Bool
  | .all keywords, value => validAll keywords value
  | .type types, value => types.any value.hasType
  | .enum values, .string text => values.contains text
  | .enum _, _ => false
  | .minLength length, .string text => length ≤ text.length
  | .maxLength length, .string text => text.length ≤ length
  | .minimum least, .number spelling =>
      (numberParts spelling).all fun parts => decide ((least : Rat) ≤ parts.value)
  | .maximum greatest, .number spelling =>
      (numberParts spelling).all fun parts => decide (parts.value ≤ (greatest : Rat))
  | .items schema, .array found => found.all (valid schema)
  | .maxItems length, .array found => found.length ≤ length
  | .required names, .object members => names.all fun name => (lookup members name).isSome
  | .closed names, .object members => members.all fun entry => names.contains entry.1
  | .property name schema, .object members => (lookup members name).all (valid schema)
  | _, _ => true

/-- The value meets every one of the keywords. -/
def validAll : List Schema → Json → Bool
  | [], _ => true
  | keyword :: keywords, value => valid keyword value && validAll keywords value

end

/-- All of several schemas. -/
theorem valid_all (keywords : List Schema) (value : Json) :
    valid (.all keywords) value = keywords.all (valid · value) := by
  show validAll keywords value = _
  induction keywords with
  | nil => rfl
  | cons keyword keywords ih =>
      rw [validAll, ih]
      rfl

/-- One of some texts. -/
def Schema.oneOf (values : List Text) : Schema := .all [.type [.string], .enum values]

/-- A text of a bounded length. -/
def Schema.text (least most : Nat) :
    Schema := .all [.type [.string], .minLength least, .maxLength most]

/-- A text of a bounded length, or null. -/
def Schema.textOrNull (least most : Nat) : Schema :=
  .all [.type [.string, .null], .minLength least, .maxLength most]

/-- An integer in a range, or null. -/
def Schema.integerOrNull (least greatest : Int) : Schema :=
  .all [.type [.integer, .null], .minimum least, .maximum greatest]

/-- An object that has exactly the properties. -/
def Schema.record (properties : List (Text × Schema)) : Schema :=
  .all (.type [.object] :: .closed (properties.map Prod.fst) ::
    .required (properties.map Prod.fst) :: properties.map fun entry => .property entry.1 entry.2)

/-- The text has a length in the range. -/
def lengthWithin (least most : Nat) (text : Text) : Bool :=
  least ≤ text.length && text.length ≤ most

/-- One of several strings. -/
theorem valid_one_of {values : List Text} {value : Json} :
    valid (.oneOf values) value = true ↔ ∃ text, value = .string text ∧ text ∈ values := by
  unfold Schema.oneOf
  rw [valid_all]
  cases value with
  | string text => simp [valid, hasType]
  | _ => simp [valid, hasType]

/-- A string of a length in bounds. -/
theorem valid_text {least most : Nat} {value : Json} : valid (.text least most) value = true ↔
    ∃ text, value = .string text ∧ lengthWithin least most text = true := by
  unfold Schema.text lengthWithin
  rw [valid_all]
  cases value with
  | string text => simp [valid, hasType]
  | _ => simp [valid, hasType]

/-- Such a string, or null. -/
theorem valid_text_or_null {least most : Nat} {value : Json} :
    valid (.textOrNull least most) value = true ↔ value = .null ∨
      ∃ text, value = .string text ∧ lengthWithin least most text = true := by
  unfold Schema.textOrNull lengthWithin
  rw [valid_all]
  cases value with
  | string text => simp [valid, hasType]
  | null => simp [valid, hasType]
  | _ => simp [valid, hasType]

/-- An integer in bounds, or null. -/
theorem valid_integer_or_null {least greatest : Int} {value : Json} :
    valid (.integerOrNull least greatest) value = true ↔ value = .null ∨
      ∃ spelling n, value = .number spelling ∧ integralValue spelling = some n ∧
        least ≤ n ∧ n ≤ greatest := by
  unfold Schema.integerOrNull
  rw [valid_all]
  cases value with
  | null => simp [valid, hasType]
  | number spelling =>
      cases hintegral : integralValue spelling with
      | none => simp [valid, hasType, hintegral]
      | some n =>
          obtain ⟨parts, hparts, hvalue⟩ := integral_value_eq hintegral
          have hleast : ((least : Rat) ≤ parts.value) ↔ least ≤ n := by
            rw [hvalue]; exact Rat.intCast_le_intCast
          have hgreatest : (parts.value ≤ (greatest : Rat)) ↔ n ≤ greatest := by
            rw [hvalue]; exact Rat.intCast_le_intCast
          simp [valid, hasType, hintegral, hparts, hleast, hgreatest]
  | _ => simp [valid, hasType]

/-- A name has a value exactly when it is among the names. -/
theorem lookup_is_some {members : List (Text × Json)} {name : Text} :
    (lookup members name).isSome = true ↔ name ∈ members.map Prod.fst := by
  unfold lookup
  rw [Option.isSome_map, List.find?_isSome, List.mem_map]
  refine exists_congr fun entry => ?_
  rw [List.mem_reverse, beq_iff_eq]

/-- The members name exactly the fields: `set(members) == fields`. -/
def hasFields (fields : List Text) (members : List (Text × Json)) : Bool :=
  members.all (fun entry => fields.contains entry.1) &&
    fields.all fun field => members.any fun entry => entry.1 == field

/-- An object meets the schema of a record if it has its fields, each with a value that meets the
schema of the field. -/
theorem valid_record {properties : List (Text × Schema)} {value : Json} :
    valid (.record properties) value = true ↔ ∃ members, value = .object members ∧
      hasFields (properties.map Prod.fst) members = true ∧
      ∀ entry ∈ properties, ∃ field, lookup members entry.1 = some field ∧
        valid entry.2 field = true := by
  unfold Schema.record
  rw [valid_all]
  cases value with
  | object members =>
      rw [List.all_cons, List.all_cons, List.all_cons, List.all_map]
      show (true && (members.all (fun entry => (properties.map Prod.fst).contains entry.1) &&
        (((properties.map Prod.fst).all fun name => (lookup members name).isSome) &&
          properties.all fun entry => (lookup members entry.1).all (valid entry.2)))) = true ↔ _
      have hrequired : ((properties.map Prod.fst).all fun name => (lookup members name).isSome) =
          (properties.map Prod.fst).all fun field => members.any fun entry => entry.1 == field := by
        apply List.all_congr rfl
        intro name
        rw [Bool.eq_iff_iff, lookup_is_some, List.any_eq_true, List.mem_map]
        exact exists_congr fun entry => and_congr_right fun _ => beq_iff_eq.symm
      rw [Bool.true_and, hrequired, ← Bool.and_assoc, Bool.and_eq_true]
      constructor
      · rintro ⟨hfields, hproperties⟩
        refine ⟨members, rfl, hfields, fun entry hentry => ?_⟩
        have hname : (lookup members entry.1).isSome = true := by
          rw [← hrequired, Bool.and_eq_true] at hfields
          exact List.all_eq_true.mp hfields.2 entry.1 (List.mem_map_of_mem hentry)
        obtain ⟨field, hfield⟩ := Option.isSome_iff_exists.mp hname
        have hvalid := List.all_eq_true.mp hproperties entry hentry
        rw [hfield] at hvalid
        exact ⟨field, hfield, hvalid⟩
      · rintro ⟨_, ⟨rfl⟩, hfields, hproperties⟩
        refine ⟨hfields, List.all_eq_true.mpr fun entry hentry => ?_⟩
        obtain ⟨field, hfield, hvalid⟩ := hproperties entry hentry
        rw [hfield]
        exact hvalid
  | _ => simp [valid, hasType]

end Json

end GrowthOs.Library
