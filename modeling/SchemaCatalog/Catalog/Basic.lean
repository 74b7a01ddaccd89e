import SchemaCatalog.NameMap
import SchemaCatalog.Double.Basic

/-!
Catalogs: the flat registry of named types that a document describes. A type is a field or a
structure; fields and structures refer to other types by name, and a name may stand for one
of each.
-/
namespace SchemaCatalog

def stringType : String := "String"

/-- Limits of a number. A flag counts only beside its limit. -/
structure Range (α : Type) where
  minimum : Option α
  maximum : Option α
  exclusiveMinimum : Bool
  exclusiveMaximum : Bool
deriving DecidableEq

namespace Range

variable {α : Type}

def isUnbounded (range : Range α) : Bool := range.minimum.isNone && range.maximum.isNone

end Range

/-- Limits of a length or of a number of items. -/
structure LengthRange where
  minimum : Option Nat
  maximum : Option Nat
deriving DecidableEq, Repr

namespace LengthRange

def unbounded : LengthRange := ⟨none, none⟩

/-- Limits as a schema states them. A minimum of zero says nothing and is dropped. -/
def ofLimits (minimum : Nat) (maximum : Option Nat) : LengthRange :=
  ⟨if 0 < minimum then some minimum else none, maximum⟩

end LengthRange

structure StringField where
  length : LengthRange
  pattern : Option String
  default : Option String
  format : Option String
  allowed : List String
deriving DecidableEq, Repr

inductive Field where
  | boolean
  | integer (range : Range Int64)
  | long (range : Range Int64)
  | double (range : Range Double)
  | string (field : StringField)
  | list (element : String) (length : LengthRange)
  | map (key : String) (value : String) (length : LengthRange)
deriving DecidableEq

namespace Field

def kind : Field → String
  | .boolean => "boolean"
  | .integer _ => "integer"
  | .long _ => "long"
  | .double _ => "double"
  | .string _ => "string"
  | .list .. => "list"
  | .map .. => "map"

/-- The types that a field refers to, the keys of a map apart. -/
def references : Field → List String
  | .list element _ => [element]
  | .map _ value _ => [value]
  | _ => []

end Field

structure Member where
  typeName : String
  position : Nat
  required : Bool
  documentation : Option String
deriving DecidableEq, Repr

structure Structure where
  members : NameMap Member
deriving DecidableEq

namespace Structure

def empty : Structure := ⟨.empty⟩

/-- The members by position; members of one position by name. -/
def ordered (record : Structure) : List (String × Member) :=
  record.members.entries.mergeSort fun a b =>
    a.2.position < b.2.position || (a.2.position == b.2.position && a.1 ≤ b.1)

def required (record : Structure) : List String :=
  (record.members.entries.filter (·.2.required)).map (·.1)

end Structure

structure Catalog where
  fields : NameMap Field
  structures : NameMap Structure
deriving DecidableEq

namespace Catalog

def empty : Catalog := ⟨.empty, .empty⟩

instance : Inhabited Catalog := ⟨empty⟩

def field? (catalog : Catalog) (name : String) : Option Field := catalog.fields.find? name

def structure? (catalog : Catalog) (name : String) : Option Structure :=
  catalog.structures.find? name

def contains (catalog : Catalog) (name : String) : Bool :=
  catalog.fields.contains name || catalog.structures.contains name

def size (catalog : Catalog) : Nat := catalog.fields.size + catalog.structures.size

def isEmpty (catalog : Catalog) : Bool := catalog.fields.isEmpty && catalog.structures.isEmpty

def addField (catalog : Catalog) (name : String) (field : Field) : Catalog :=
  { catalog with fields := catalog.fields.insert name field }

def addStructure (catalog : Catalog) (name : String) (record : Structure) : Catalog :=
  { catalog with structures := catalog.structures.insert name record }

end Catalog

end SchemaCatalog
