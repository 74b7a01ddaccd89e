import SchemaCatalog.NameMap
import SchemaCatalog.Double.Basic

/-!
JSON values. The fields of an object stand in the order in which they were written, and a
name may be given twice; as a map from names to values an object means what `NameMap.ofList`
makes of its fields. A number without fraction and exponent is whole, any other is a double,
so `2` and `2.0` differ.
-/
namespace SchemaCatalog

inductive Json where
  | null
  | bool (value : Bool)
  | int (value : Int)
  | float (value : Double)
  | string (value : String)
  | array (values : List Json)
  | object (fields : List (String × Json))

namespace Json

instance : Inhabited Json := ⟨.null⟩

/-- What a value holds under a name, if it is an object with a field of that name. -/
def field? (value : Json) (name : String) : Option Json :=
  match value with
  | .object fields => NameMap.findLast? name fields
  | _ => none

def string? : Json → Option String
  | .string text => some text
  | _ => none

def isNull : Json → Bool
  | .null => true
  | _ => false

def isNumber : Json → Bool
  | .int _ | .float _ => true
  | _ => false

mutual

/-- The same value with every object reduced to one field a name, in order of names. -/
def sorted : Json → Json
  | .array values => .array (sortedValues values)
  | .object fields => .object (NameMap.ofList (sortedFields fields)).entries
  | .null => .null
  | .bool value => .bool value
  | .int value => .int value
  | .float value => .float value
  | .string value => .string value
termination_by structural value => value

def sortedValues : List Json → List Json
  | [] => []
  | value :: rest => value.sorted :: sortedValues rest
termination_by structural values => values

def sortedFields : List (String × Json) → List (String × Json)
  | [] => []
  | (name, value) :: rest => (name, value.sorted) :: sortedFields rest
termination_by structural fields => fields

end

theorem sizeOf_lt_array {value : Json} {values : List Json} (h : value ∈ values) :
    sizeOf value < sizeOf (array values) := by
  have hlt := List.sizeOf_lt_of_mem h
  rw [array.sizeOf_spec]
  omega

theorem sizeOf_lt_object {p : String × Json} {fields : List (String × Json)} (h : p ∈ fields) :
    sizeOf p.2 < sizeOf (object fields) := by
  have hlt := List.sizeOf_lt_of_mem h
  obtain ⟨name, value⟩ := p
  rw [Prod.mk.sizeOf_spec] at hlt
  rw [object.sizeOf_spec]
  dsimp only
  omega

end Json

end SchemaCatalog
