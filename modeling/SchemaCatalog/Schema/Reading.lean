import SchemaCatalog.Json.Pointer
import SchemaCatalog.Json.Writer
import SchemaCatalog.Schema.Basic

/-!
Schemas read from JSON values. The first of these that applies decides the kind of a schema
object: `$ref`; `allOf`, `anyOf`, `oneOf`, `not`; the declared type; without one, `properties`
or `additionalProperties` for an object and `items` for an array; and else it is a fragment.
Keywords that the kind does not use are never looked at. Exclusive limits are read in both
dialects: a flag beside the plain limit, or a limit of their own.
-/
namespace SchemaCatalog.Schema

inductive Defect where
  | notSchema
  | referenceNotString
  | compositionNotArray
  | typeEntryNotString
  | typeNotStringOrArray
  | unknownType (name : String)
  | exclusiveNotFlagOrNumber (keyword : String)
  | outOfRange (keyword : String)
  | enumNotArray
  | notCount (keyword : String)
  | propertiesNotObject
  | requiredEntryNotString
  | requiredNotArray
deriving DecidableEq, Repr

def Defect.message : Defect → String
  | .notSchema => "schema must be an object or a boolean"
  | .referenceNotString => "$ref must be a string"
  | .compositionNotArray => "composition must be an array"
  | .typeEntryNotString => "type array entries must be strings"
  | .typeNotStringOrArray => "type must be a string or an array"
  | .unknownType name => "unknown type '" ++ name ++ "'"
  | .exclusiveNotFlagOrNumber keyword => keyword ++ " must be a boolean or a number"
  | .outOfRange keyword => keyword ++ " is out of range"
  | .enumNotArray => "enum must be an array"
  | .notCount keyword => keyword ++ " must be a non-negative integer"
  | .propertiesNotObject => "properties must be an object"
  | .requiredEntryNotString => "required entries must be strings"
  | .requiredNotArray => "required must be an array"

/-- A defect and where it is, seen from the schema that is read. -/
structure Fault where
  place : Pointer
  defect : Defect
deriving DecidableEq, Repr

/-- What a reading at a place below yields, with its fault seen from above. -/
def within {α : Type} (steps : Pointer) : Except Fault α → Except Fault α
  | .ok value => .ok value
  | .error fault => .error ⟨steps ++ fault.place, fault.defect⟩

/-- A defect of the schema object itself. -/
def fail {α : Type} (defect : Defect) : Except Fault α := .error ⟨[], defect⟩

abbrev Fields := List (String × Json)

namespace Fields

def get? (fields : Fields) (keyword : String) : Option Json := NameMap.findLast? keyword fields

def has (fields : Fields) (keyword : String) : Bool := (get? fields keyword).isSome

/-- The text under a keyword; anything but a string counts as absent. -/
def text? (fields : Fields) (keyword : String) : Option String :=
  (get? fields keyword).bind Json.string?

end Fields

/-- The component that a reference names: the last part of the pointer to it. -/
def targetOf (path : String) : Option String :=
  match componentRoot.toList.isPrefixOf? path.toList with
  | some name =>
      if name.isEmpty || name.contains '/' then none
      else some (Pointer.unescape (String.ofList name))
  | none => none

/-- Numbers that a limit can be read as, with their order. -/
class Limit (α : Type) where
  read? : Json → Option α
  same : α → α → Bool
  less : α → α → Bool

/-- A whole number of 64 signed bits, whether spelt with a fraction part or not. -/
def integer? : Json → Option Int64
  | .int n =>
      if Int64.minValue.toInt ≤ n ∧ n ≤ Int64.maxValue.toInt then some (Int64.ofInt n) else none
  | .float x => x.toInt64?
  | _ => none

def number? : Json → Option Double
  | .int n => some (Double.ofInt n)
  | .float x => some x
  | _ => none

instance : Limit Int64 := ⟨integer?, (· == ·), (· < ·)⟩

instance : Limit Double := ⟨number?, Double.same, Double.less⟩

inductive Side where
  | lower
  | upper
deriving DecidableEq, Repr

namespace Side

def keyword : Side → String
  | .lower => "minimum"
  | .upper => "maximum"

def exclusiveKeyword : Side → String
  | .lower => "exclusiveMinimum"
  | .upper => "exclusiveMaximum"

/-- Whether `candidate` leaves less room on its side than `current`. -/
def tighter {α : Type} [Limit α] (side : Side) (candidate current : Bound α) : Bool :=
  if Limit.same candidate.value current.value then candidate.exclusive && !current.exclusive
  else match side with
    | .lower => Limit.less current.value candidate.value
    | .upper => Limit.less candidate.value current.value

end Side

def limit? {α : Type} [Limit α] (fields : Fields) (keyword : String) :
    Except Fault (Option α) :=
  match fields.get? keyword with
  | none => .ok none
  | some value =>
      match Limit.read? value with
      | some limit => .ok (some limit)
      | none => fail (.outOfRange keyword)

/-- What the exclusive keyword of a side says: whether the plain limit is left out, and the
limit that the keyword states itself. -/
def exclusive? {α : Type} [Limit α] (fields : Fields) (keyword : String) :
    Except Fault (Bool × Option (Bound α)) :=
  match fields.get? keyword with
  | none => .ok (false, none)
  | some (.bool flag) => .ok (flag, none)
  | some value =>
      if value.isNumber then
        match Limit.read? value with
        | some limit => .ok (false, some ⟨limit, true⟩)
        | none => fail (.outOfRange keyword)
      else fail (.exclusiveNotFlagOrNumber keyword)

/-- The limit of one side. Of a plain limit and a separate exclusive one the tighter is kept. -/
def bound {α : Type} [Limit α] (fields : Fields) (side : Side) :
    Except Fault (Option (Bound α)) := do
  let (leftOut, exclusive) ← exclusive? fields side.exclusiveKeyword
  let plain ← limit? fields side.keyword
  match plain, exclusive with
  | some value, some exclusive =>
      let plain := ⟨value, leftOut⟩
      return some (if side.tighter exclusive plain then exclusive else plain)
  | some value, none => return some ⟨value, leftOut⟩
  | none, exclusive => return exclusive

/-- A length or count under a keyword. -/
def count? (fields : Fields) (keyword : String) : Except Fault (Option Nat) :=
  match fields.get? keyword with
  | none => .ok none
  | some (.int n) => if 0 ≤ n then .ok (some n.toNat) else fail (.notCount keyword)
  | some _ => fail (.notCount keyword)

/-- The type that is declared: a name, or the first name other than `null` of a list. -/
def declaredType (fields : Fields) : Except Fault (Option String) :=
  match fields.get? "type" with
  | none => .ok none
  | some (.string name) => .ok (some name)
  | some (.array entries) =>
      match entries.mapM Json.string? with
      | some names => .ok (names.find? (· != "null"))
      | none => fail .typeEntryNotString
  | some _ => fail .typeNotStringOrArray

/-- A value as the text of an enumeration or a default: strings as they are, all else in JSON. -/
def valueText : Json → String
  | .string text => text
  | value => value.sorted.compact

def integerShape (fields : Fields) : Except Fault IntegerShape := do
  let minimum ← bound fields .lower
  let maximum ← bound fields .upper
  return ⟨.ofText? (fields.text? "format"), minimum, maximum⟩

def numberShape (fields : Fields) : Except Fault NumberShape := do
  let minimum ← bound fields .lower
  let maximum ← bound fields .upper
  return ⟨fields.text? "format", minimum, maximum⟩

def allowedValues (fields : Fields) : Except Fault (List String) :=
  match fields.get? "enum" with
  | none => .ok []
  | some (.array values) => .ok ((values.filter fun value => !value.isNull).map valueText)
  | some _ => fail .enumNotArray

def stringShape (fields : Fields) : Except Fault StringShape := do
  let allowed ← allowedValues fields
  let minLength ← count? fields "minLength"
  let maxLength ← count? fields "maxLength"
  let default := ((fields.get? "default").filter fun value => !value.isNull).map valueText
  return ⟨minLength.getD 0, maxLength, fields.text? "pattern", fields.text? "format", default, allowed⟩

def requiredNames (fields : Fields) : Except Fault (List String) :=
  match fields.get? "required" with
  | none => .ok []
  | some (.array entries) =>
      match entries.mapM Json.string? with
      | some names => .ok names
      | none => fail .requiredEntryNotString
  | some _ => fail .requiredNotArray

/-- The readings of what stands under a keyword, if the keyword is there: as a schema, as a
list of schemas, and as schemas by name. Faults are placed from the schema object. -/
structure Parts where
  schema : String → Option (Except Fault Schema)
  members : String → Option (Except Fault (List Schema))
  named : String → Option (Except Fault (List (String × Schema)))

def objectKind (fields : Fields) (parts : Parts) : Except Fault Kind := do
  let properties ← (parts.named "properties").getD (.ok [])
  let required ← requiredNames fields
  let additional ← match fields.get? "additionalProperties" with
    | some (.bool any) => .ok (.allowed any)
    | _ => match parts.schema "additionalProperties" with
      | some reading => reading.map .values
      | none => .ok .undeclared
  return .object properties required additional

def arrayKind (fields : Fields) (parts : Parts) : Except Fault Kind := do
  let items ← match parts.schema "items" with
    | some reading => reading.map some
    | none => .ok none
  let minItems ← count? fields "minItems"
  let maxItems ← count? fields "maxItems"
  return .array items (minItems.getD 0) maxItems

/-- The kind of a schema without a reference, a combinator and a negation. -/
def typedKind (fields : Fields) (parts : Parts) : Except Fault Kind := do
  match ← declaredType fields with
  | some "boolean" => return .boolean
  | some "integer" => return .integer (← integerShape fields)
  | some "number" => return .number (← numberShape fields)
  | some "string" => return .string (← stringShape fields)
  | some "object" => objectKind fields parts
  | some "array" => arrayKind fields parts
  | some name => fail (.unknownType name)
  | none =>
      if fields.has "properties" || fields.has "additionalProperties" then objectKind fields parts
      else if fields.has "items" then arrayKind fields parts
      else return .fragment

def classify (fields : Fields) (parts : Parts) : Except Fault Kind :=
  match fields.get? "$ref" with
  | some (.string path) => .ok (.reference path (targetOf path))
  | some _ => fail .referenceNotString
  | none =>
      let combined := [Combinator.allOf, .anyOf, .oneOf].findSome? fun combinator =>
        (parts.members combinator.keyword).map fun members => (combinator, members)
      match combined with
      | some (combinator, members) => members.map (.combinator combinator)
      | none =>
          match parts.schema "not" with
          | some negated => negated.map .not
          | none => typedKind fields parts

def fragment : Schema := ⟨.fragment, none⟩

mutual

/-- The schema that a value is. `true` admits anything and `false` nothing. -/
def ofJson : Json → Except Fault Schema
  | .bool true => .ok fragment
  | .bool false => .ok ⟨.not fragment, none⟩
  | .object fields => do
      let kind ← classify fields ⟨fun keyword => schemaUnder keyword fields,
        fun keyword => membersUnder keyword fields, fun keyword => namedUnder keyword fields⟩
      return ⟨kind, Fields.text? fields "description"⟩
  | .null => fail .notSchema
  | .int _ => fail .notSchema
  | .float _ => fail .notSchema
  | .string _ => fail .notSchema
  | .array _ => fail .notSchema
termination_by structural value => value

/-- The schema under a keyword, where the last field of that name counts. -/
def schemaUnder (keyword : String) : List (String × Json) → Option (Except Fault Schema)
  | [] => none
  | (name, value) :: rest =>
      match schemaUnder keyword rest with
      | some reading => some reading
      | none => if name = keyword then some (within [keyword] (ofJson value)) else none
termination_by structural fields => fields

def membersUnder (keyword : String) : List (String × Json) → Option (Except Fault (List Schema))
  | [] => none
  | (name, value) :: rest =>
      match membersUnder keyword rest with
      | some reading => some reading
      | none => if name = keyword then some (within [keyword] (members value)) else none
termination_by structural fields => fields

def namedUnder (keyword : String) :
    List (String × Json) → Option (Except Fault (List (String × Schema)))
  | [] => none
  | (name, value) :: rest =>
      match namedUnder keyword rest with
      | some reading => some reading
      | none => if name = keyword then some (named keyword value) else none
termination_by structural fields => fields

def members : Json → Except Fault (List Schema)
  | .array values => membersFrom 0 values
  | _ => fail .compositionNotArray
termination_by structural value => value

def membersFrom (index : Nat) : List Json → Except Fault (List Schema)
  | [] => .ok []
  | value :: rest => do
      let schema ← within [toString index] (ofJson value)
      return schema :: (← membersFrom (index + 1) rest)
termination_by structural values => values

/-- Schemas by name, in the order of names, as is the first fault. -/
def named (keyword : String) : Json → Except Fault (List (String × Schema))
  | .object fields => do
      let readings := NameMap.ofList (readings fields)
      return (← readings.traverse fun name reading => within [keyword, name] reading).entries
  | _ => fail .propertiesNotObject
termination_by structural value => value

def readings : List (String × Json) → List (String × Except Fault Schema)
  | [] => []
  | (name, value) :: rest => (name, ofJson value) :: readings rest
termination_by structural fields => fields

end

end SchemaCatalog.Schema
