import SchemaCatalog.NameMap
import SchemaCatalog.Double.Basic

/-!
Schema trees: what a document says about one kind of data. Properties stand in the order in
which they were added and may be added again under the same name; as a map they mean what
`NameMap.ofList` makes of them.
-/
namespace SchemaCatalog

inductive IntegerFormat where
  | generic
  | int32
  | int64
deriving DecidableEq, Repr

namespace IntegerFormat

def ofText? : Option String → IntegerFormat
  | some "int64" => .int64
  | some "int32" => .int32
  | _ => .generic

def text : IntegerFormat → String
  | .generic => "generic"
  | .int32 => "int32"
  | .int64 => "int64"

end IntegerFormat

/-- A limit on one side of a range, and whether the limit itself is left out. -/
structure Bound (α : Type) where
  value : α
  exclusive : Bool
deriving DecidableEq

structure IntegerShape where
  format : IntegerFormat
  minimum : Option (Bound Int64)
  maximum : Option (Bound Int64)
deriving DecidableEq

structure NumberShape where
  format : Option String
  minimum : Option (Bound Double)
  maximum : Option (Bound Double)
deriving DecidableEq

structure StringShape where
  minLength : Nat
  maxLength : Option Nat
  pattern : Option String
  format : Option String
  default : Option String
  allowed : List String
deriving DecidableEq, Repr

/-- The keywords that put schemas together. -/
inductive Combinator where
  | allOf
  | anyOf
  | oneOf
deriving DecidableEq, Repr

namespace Combinator

def keyword : Combinator → String
  | .allOf => "allOf"
  | .anyOf => "anyOf"
  | .oneOf => "oneOf"

end Combinator

/-- What an object schema says about properties that it does not list. -/
inductive Additional (σ : Type) where
  | undeclared
  | allowed (any : Bool)
  | values (schema : σ)

mutual

structure Schema where
  kind : Kind
  description : Option String

inductive Kind where
  | boolean
  | integer (shape : IntegerShape)
  | number (shape : NumberShape)
  | string (shape : StringShape)
  | object (properties : List (String × Schema)) (required : List String)
      (additional : Additional Schema)
  | array (items : Option Schema) (minItems : Nat) (maxItems : Option Nat)
  | combinator (keyword : Combinator) (members : List Schema)
  /-- A reference as it is written, and the component that it names if it names one. -/
  | reference (path : String) (target : Option String)
  | fragment
  | not (schema : Schema)

end

namespace Kind

def name : Kind → String
  | .boolean => "boolean"
  | .integer _ => "integer"
  | .number _ => "number"
  | .string _ => "string"
  | .object .. => "object"
  | .array .. => "array"
  | .combinator keyword _ => keyword.keyword
  | .reference .. => "reference"
  | .fragment => "fragment"
  | .not _ => "not"

end Kind

namespace Schema

instance : Inhabited Schema := ⟨⟨.fragment, none⟩⟩

/-- The text before a component's name in a reference to it. -/
def componentRoot : String := "#/components/schemas/"

def reference (name : String) : Kind := .reference (componentRoot ++ name) (some name)

end Schema

end SchemaCatalog
