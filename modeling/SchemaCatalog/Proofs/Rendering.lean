import SchemaCatalog.Catalog.Encoding
import SchemaCatalog.Proofs.Reading

/-!
Schemas and documents written as JSON. A keyword is written where it says something: a type for
the kinds that have one, a limit that there is, a list that is not empty. Exclusive limits are
written in one of two dialects, with a flag beside the plain limit or as limits of their own.
-/
namespace SchemaCatalog

/-- How exclusive limits are written. -/
inductive Dialect where
  | flags
  | limits
deriving DecidableEq, Repr

/-- A field that is written only for a list with members. -/
def Json.fieldUnlessEmpty {α : Type} (name : String) (encode : List α → Json) (values : List α) :
    List (String × Json) :=
  if values.isEmpty then [] else [(name, encode values)]

/-- The format that an integer schema declares. -/
def IntegerFormat.declared? : IntegerFormat → Option String
  | .generic => none
  | format => some format.text

namespace Bound

variable {α : Type} (dialect : Dialect) (encode : α → Json)

/-- What stands under the plain keyword of a limit. -/
def plain? (bound : Bound α) : Option Json :=
  if bound.exclusive && dialect = .limits then none else some (encode bound.value)

/-- What stands under the exclusive keyword of a limit. -/
def exclusive? (bound : Bound α) : Option Json :=
  if bound.exclusive then
    match dialect with
    | .flags => some (.bool true)
    | .limits => some (encode bound.value)
  else none

end Bound

namespace Schema

def limitFields {α : Type} (dialect : Dialect) (encode : α → Json) (side : Side)
    (bound : Option (Bound α)) : List (String × Json) :=
  Json.fieldIfSome side.keyword id (bound.bind (·.plain? dialect encode)) ++
    Json.fieldIfSome side.exclusiveKeyword id (bound.bind (·.exclusive? dialect encode))

/-- A least length or count; there is none to declare if it is zero. -/
def leastField (keyword : String) (least : Nat) : List (String × Json) :=
  Json.fieldIfSome keyword .ofCount (if least = 0 then none else some least)

end Schema

namespace IntegerShape

def toFields (dialect : Dialect) (shape : IntegerShape) : List (String × Json) :=
  Json.fieldIfSome "format" .string shape.format.declared? ++
    Schema.limitFields dialect .ofInt64 .lower shape.minimum ++
    Schema.limitFields dialect .ofInt64 .upper shape.maximum

end IntegerShape

namespace NumberShape

def toFields (dialect : Dialect) (shape : NumberShape) : List (String × Json) :=
  Json.fieldIfSome "format" .string shape.format ++
    Schema.limitFields dialect .ofDouble .lower shape.minimum ++
    Schema.limitFields dialect .ofDouble .upper shape.maximum

end NumberShape

namespace StringShape

def toFields (shape : StringShape) : List (String × Json) :=
  Schema.leastField "minLength" shape.minLength ++
    Json.fieldIfSome "maxLength" .ofCount shape.maxLength ++
    Json.fieldIfSome "pattern" .string shape.pattern ++
    Json.fieldIfSome "format" .string shape.format ++
    Json.fieldIfSome "default" .string shape.default ++
    Json.fieldUnlessEmpty "enum" (fun values => .array (values.map .string)) shape.allowed

end StringShape

namespace Schema

def typeField (name : String) : String × Json := ("type", .string name)

mutual

/-- A schema as a schema object. A schema that says nothing is an object without fields. -/
def toJson (dialect : Dialect) : Schema → Json
  | ⟨kind, description⟩ =>
      .object (toFields dialect kind ++ Json.fieldIfSome "description" .string description)
termination_by structural schema => schema

def toFields (dialect : Dialect) : Kind → List (String × Json)
  | .boolean => [typeField "boolean"]
  | .integer shape => typeField "integer" :: shape.toFields dialect
  | .number shape => typeField "number" :: shape.toFields dialect
  | .string shape => typeField "string" :: shape.toFields
  | .object properties required additional =>
      typeField "object" ::
        (Json.fieldUnlessEmpty "properties" (fun fields => .object (NameMap.ofList fields).entries)
            (propertyFields dialect properties) ++
          Json.fieldUnlessEmpty "required" (fun names => .array (names.map .string)) required ++
          Json.fieldIfSome "additionalProperties" id (additionalValue dialect additional))
  | .array items minItems maxItems =>
      typeField "array" ::
        (Json.fieldIfSome "items" id (itemsValue dialect items) ++
          leastField "minItems" minItems ++ Json.fieldIfSome "maxItems" .ofCount maxItems)
  | .combinator combinator members => [(combinator.keyword, .array (memberValues dialect members))]
  | .reference path _ => [("$ref", .string path)]
  | .fragment => []
  | .not schema => [("not", schema.toJson dialect)]
termination_by structural kind => kind

def propertyFields (dialect : Dialect) : List (String × Schema) → List (String × Json)
  | [] => []
  | (name, schema) :: rest => (name, schema.toJson dialect) :: propertyFields dialect rest
termination_by structural properties => properties

def additionalValue (dialect : Dialect) : Additional Schema → Option Json
  | .undeclared => none
  | .allowed any => some (.bool any)
  | .values schema => some (schema.toJson dialect)
termination_by structural additional => additional

def itemsValue (dialect : Dialect) : Option Schema → Option Json
  | none => none
  | some schema => some (schema.toJson dialect)
termination_by structural items => items

def memberValues (dialect : Dialect) : List Schema → List Json
  | [] => []
  | schema :: rest => schema.toJson dialect :: memberValues dialect rest
termination_by structural members => members

end

end Schema

def Document.toJson (dialect : Dialect) (document : Document) : Json :=
  .object [
    ("info", .object (Json.fieldIfSome "title" .string document.title ++
      Json.fieldIfSome "version" .string document.version)),
    ("components", .object [("schemas", .ofMap (Schema.toJson dialect) document.components)])]

namespace Schema

namespace Fields

variable (keyword : String)

@[simp] theorem get?_nil : get? [] keyword = none := rfl

@[simp] theorem get?_cons (name : String) (value : Json) (rest : Fields) :
    get? ((name, value) :: rest) keyword =
      (get? rest keyword).or (if name = keyword then some value else none) := rfl

@[simp] theorem get?_append (xs ys : Fields) :
    get? (xs ++ ys) keyword = (get? ys keyword).or (get? xs keyword) :=
  NameMap.findLast?_append keyword xs ys

@[simp] theorem get?_fieldIfSome {α : Type} (name : String) (encode : α → Json) (value : Option α) :
    get? (Json.fieldIfSome name encode value) keyword =
      if name = keyword then value.map encode else none := by
  cases value <;> by_cases h : name = keyword <;> simp [Json.fieldIfSome, h]

@[simp] theorem get?_fieldUnlessEmpty {α : Type} (name : String) (encode : List α → Json)
    (values : List α) :
    get? (Json.fieldUnlessEmpty name encode values) keyword =
      if name = keyword ∧ values ≠ [] then some (encode values) else none := by
  cases values <;> by_cases h : name = keyword <;> simp [Json.fieldUnlessEmpty, h]

theorem text?_eq {fields : Fields} {keyword : String} {text : Option String}
    (h : fields.get? keyword = text.map Json.string) : fields.text? keyword = text := by
  rw [text?, h]
  cases text <;> rfl

end Fields

section Limits

variable {α : Type} [Limit α] {dialect : Dialect} {encode : α → Json} {side : Side}
  {fields : Fields} {bound : Option (Bound α)}

theorem limit?_eq {keyword : String} {value : α}
    (hvalue : fields.get? keyword = some (encode value))
    (hread : Limit.read? (encode value) = some value) :
    limit? fields keyword = .ok (some value) := by
  simp only [limit?, hvalue, hread]

theorem limit?_eq_none {keyword : String} (hnone : fields.get? keyword = none) :
    (limit? fields keyword : Except Fault (Option α)) = .ok none := by
  simp only [limit?, hnone]

theorem exclusive?_eq {keyword : String} {value : α}
    (hvalue : fields.get? keyword = some (encode value))
    (hread : Limit.read? (encode value) = some value) (hnumber : (encode value).isNumber) :
    exclusive? fields keyword = .ok (false, some ⟨value, true⟩) := by
  unfold exclusive?
  rw [hvalue]
  generalize encode value = written at hread hnumber
  cases written with
  | int n => simp only [hnumber, hread, if_true]
  | float x => simp only [hnumber, hread, if_true]
  | _ => cases hnumber

/-- Both dialects of a limit are read as the limit, if its value is. -/
theorem bound_eq (hplain : fields.get? side.keyword = bound.bind (·.plain? dialect encode))
    (hexclusive : fields.get? side.exclusiveKeyword = bound.bind (·.exclusive? dialect encode))
    (hread : ∀ b, bound = some b →
      Limit.read? (encode b.value) = some b.value ∧ (encode b.value).isNumber) :
    Schema.bound fields side = .ok bound := by
  unfold Schema.bound
  cases bound with
  | none =>
    rw [limit?_eq_none hplain, exclusive?, hexclusive]
    rfl
  | some b =>
    obtain ⟨value, leftOut⟩ := b
    obtain ⟨hvalue, hnumber⟩ := hread _ rfl
    cases leftOut with
    | false =>
      rw [limit?_eq hplain hvalue, exclusive?, hexclusive]
      rfl
    | true =>
      cases dialect with
      | flags =>
        rw [limit?_eq hplain hvalue, exclusive?, hexclusive]
        rfl
      | limits =>
        rw [limit?_eq_none hplain, exclusive?_eq hexclusive hvalue hnumber]
        rfl

theorem read?_ofInt64 (value : Int64) :
    Limit.read? (Json.ofInt64 value) = some value ∧ (Json.ofInt64 value).isNumber := by
  have hbounds : Int64.minValue.toInt ≤ value.toInt ∧ value.toInt ≤ Int64.maxValue.toInt :=
    ⟨value.minValue_le_toInt, value.toInt_le⟩
  have hread : integer? (Json.ofInt64 value) = some value := by
    rw [Json.ofInt64, integer?, if_pos hbounds, Int64.ofInt_toInt]
  exact ⟨hread, rfl⟩

theorem read?_ofDouble {value : Double} (hfinite : value.isFinite) :
    Limit.read? (Json.ofDouble value) = some value ∧ (Json.ofDouble value).isNumber := by
  rw [Json.ofDouble, if_pos hfinite]
  exact ⟨rfl, rfl⟩

end Limits

theorem count?_eq {fields : Fields} {keyword : String} {count : Option Nat}
    (h : fields.get? keyword = count.map Json.ofCount) : count? fields keyword = .ok count := by
  rw [count?, h]
  cases count <;> simp [Json.ofCount]

theorem count?_least {fields : Fields} {keyword : String} {least : Nat}
    (h : fields.get? keyword = (if least = 0 then none else some least).map Json.ofCount) :
    ∃ count, count? fields keyword = .ok count ∧ count.getD 0 = least := by
  refine ⟨_, count?_eq h, ?_⟩
  split
  · exact Eq.symm ‹_›
  · rfl

theorem mapM_string? (names : List String) :
    (names.map Json.string).mapM Json.string? = some names := by
  rw [List.mapM_map]
  exact List.mapM_pure.trans (congrArg some (List.map_id names))

theorem requiredNames_eq {fields : Fields} {names : List String}
    (h : fields.get? "required" =
      if names ≠ [] then some (.array (names.map .string)) else none) :
    requiredNames fields = .ok names := by
  unfold requiredNames
  rw [h]
  by_cases hnames : names = []
  · simp [hnames]
  · simp only [ne_eq, hnames, not_false_eq_true, if_true, mapM_string?]

theorem allowedValues_eq {fields : Fields} {values : List String}
    (h : fields.get? "enum" =
      if values ≠ [] then some (.array (values.map .string)) else none) :
    allowedValues fields = .ok values := by
  have htexts : ((values.map Json.string).filter fun value => !value.isNull).map valueText =
      values := by
    rw [List.filter_eq_self.mpr (by simp [Json.isNull]), List.map_map]
    exact List.map_id values
  unfold allowedValues
  rw [h]
  by_cases hvalues : values = []
  · simp [hvalues]
  · simp only [ne_eq, hvalues, not_false_eq_true, if_true, htexts]

/-- Two limits among fields that say nothing of limits are read as these two. -/
theorem bounds_eq {α : Type} [Limit α] (dialect : Dialect) (encode : α → Json)
    {minimum maximum : Option (Bound α)} (before after : Fields)
    (hbefore : ∀ side : Side, before.get? side.keyword = none ∧
      before.get? side.exclusiveKeyword = none)
    (hafter : ∀ side : Side, after.get? side.keyword = none ∧
      after.get? side.exclusiveKeyword = none)
    (hread : ∀ b, minimum = some b ∨ maximum = some b →
      Limit.read? (encode b.value) = some b.value ∧ (encode b.value).isNumber) :
    let fields : Fields := before ++ limitFields dialect encode .lower minimum ++
      limitFields dialect encode .upper maximum ++ after
    bound fields .lower = .ok minimum ∧ bound fields .upper = .ok maximum := by
  intro fields
  have hlower : fields.get? Side.lower.keyword = minimum.bind (·.plain? dialect encode) ∧
      fields.get? Side.lower.exclusiveKeyword = minimum.bind (·.exclusive? dialect encode) := by
    simp only [fields, limitFields, Fields.get?_append, Fields.get?_fieldIfSome, hbefore, hafter]
    simp [Side.keyword, Side.exclusiveKeyword]
  have hupper : fields.get? Side.upper.keyword = maximum.bind (·.plain? dialect encode) ∧
      fields.get? Side.upper.exclusiveKeyword = maximum.bind (·.exclusive? dialect encode) := by
    simp only [fields, limitFields, Fields.get?_append, Fields.get?_fieldIfSome, hbefore, hafter]
    simp [Side.keyword, Side.exclusiveKeyword]
  exact ⟨bound_eq hlower.1 hlower.2 fun b hb => hread b (.inl hb),
    bound_eq hupper.1 hupper.2 fun b hb => hread b (.inr hb)⟩

/-- The fields of the object that a schema is written as. -/
def written (dialect : Dialect) (schema : Schema) : Fields :=
  toFields dialect schema.kind ++ Json.fieldIfSome "description" .string schema.description

theorem toJson_eq (dialect : Dialect) (schema : Schema) :
    schema.toJson dialect = .object (schema.written dialect) := by
  cases schema
  rfl

section Shapes

variable (dialect : Dialect) (description : Option String)

theorem ofText?_declared? (format : IntegerFormat) : .ofText? format.declared? = format := by
  cases format <;> rfl

theorem integerShape_written (shape : IntegerShape) :
    integerShape (written dialect ⟨.integer shape, description⟩) = .ok shape := by
  obtain ⟨format, minimum, maximum⟩ := shape
  generalize hfields : written dialect ⟨.integer ⟨format, minimum, maximum⟩, description⟩ = fields
  obtain ⟨hminimum, hmaximum⟩ :
      bound fields .lower = .ok minimum ∧ bound fields .upper = .ok maximum := by
    rw [← hfields]
    refine bounds_eq dialect .ofInt64
      (typeField "integer" :: Json.fieldIfSome "format" .string format.declared?)
      (Json.fieldIfSome "description" .string description) ?_ ?_ ?_
    · rintro (- | -) <;> simp [typeField, Side.keyword, Side.exclusiveKeyword]
    · rintro (- | -) <;> simp [Side.keyword, Side.exclusiveKeyword]
    · exact fun b _ => read?_ofInt64 b.value
  have hformat : fields.text? "format" = format.declared? := by
    refine Fields.text?_eq ?_
    rw [← hfields]
    simp [written, toFields, IntegerShape.toFields, limitFields, Side.keyword,
      Side.exclusiveKeyword, typeField]
  rw [integerShape, hminimum, hmaximum, hformat, ofText?_declared?]
  rfl

theorem numberShape_written {shape : NumberShape}
    (hfinite : ∀ b, shape.minimum = some b ∨ shape.maximum = some b → b.value.isFinite) :
    numberShape (written dialect ⟨.number shape, description⟩) = .ok shape := by
  obtain ⟨format, minimum, maximum⟩ := shape
  generalize hfields : written dialect ⟨.number ⟨format, minimum, maximum⟩, description⟩ = fields
  obtain ⟨hminimum, hmaximum⟩ :
      bound fields .lower = .ok minimum ∧ bound fields .upper = .ok maximum := by
    rw [← hfields]
    refine bounds_eq dialect .ofDouble
      (typeField "number" :: Json.fieldIfSome "format" .string format)
      (Json.fieldIfSome "description" .string description) ?_ ?_ ?_
    · rintro (- | -) <;> simp [typeField, Side.keyword, Side.exclusiveKeyword]
    · rintro (- | -) <;> simp [Side.keyword, Side.exclusiveKeyword]
    · exact fun b hb => read?_ofDouble (hfinite b hb)
  have hformat : fields.text? "format" = format := by
    refine Fields.text?_eq ?_
    rw [← hfields]
    simp [written, toFields, NumberShape.toFields, limitFields, Side.keyword,
      Side.exclusiveKeyword, typeField]
  rw [numberShape, hminimum, hmaximum, hformat]
  rfl

theorem stringShape_written (shape : StringShape) :
    stringShape (written dialect ⟨.string shape, description⟩) = .ok shape := by
  obtain ⟨minLength, maxLength, pattern, format, default, allowed⟩ := shape
  generalize hfields : written dialect ⟨.string ⟨minLength, maxLength, pattern, format, default,
    allowed⟩, description⟩ = fields
  have hget (keyword : String) : fields.get? keyword = _ :=
    congrArg (Fields.get? · keyword) hfields.symm
  simp only [written, toFields, StringShape.toFields, leastField, typeField, Fields.get?_append,
    Fields.get?_cons, Fields.get?_fieldIfSome, Fields.get?_fieldUnlessEmpty] at hget
  have hallowed : allowedValues fields = .ok allowed := by
    refine allowedValues_eq ?_
    simp [hget]
  obtain ⟨least, hleast, hminLength⟩ :
      ∃ count, count? fields "minLength" = .ok count ∧ count.getD 0 = minLength := by
    refine count?_least ?_
    simp [hget]
  have hmaxLength : count? fields "maxLength" = .ok maxLength := by
    refine count?_eq ?_
    simp [hget]
  have hpattern : fields.text? "pattern" = pattern := by
    refine Fields.text?_eq ?_
    simp [hget]
  have hformat : fields.text? "format" = format := by
    refine Fields.text?_eq ?_
    simp [hget]
  have hdefault : ((fields.get? "default").filter fun value => !value.isNull).map valueText =
      default := by
    have hvalue : fields.get? "default" = default.map Json.string := by simp [hget]
    rw [hvalue]
    cases default <;> rfl
  simp only [stringShape, hallowed, hleast, hmaxLength, hpattern, hformat, hdefault]
  rw [← hminLength]
  rfl

end Shapes

end Schema

end SchemaCatalog
