import SchemaCatalog.Catalog.Basic
import SchemaCatalog.Schema.Basic

/-!
Defaults and patterns set from outside for string types, by the name of the type. What is set
takes the place of what the schema says; the rest of a string type comes from its schema.
-/
namespace SchemaCatalog

structure Overrides where
  defaults : NameMap String
  patterns : NameMap String
deriving DecidableEq

namespace Overrides

def empty : Overrides := ⟨.empty, .empty⟩

instance : Inhabited Overrides := ⟨empty⟩

def isEmpty (overrides : Overrides) : Bool :=
  overrides.defaults.isEmpty && overrides.patterns.isEmpty

def default? (overrides : Overrides) (name : String) : Option String :=
  overrides.defaults.find? name

def pattern? (overrides : Overrides) (name : String) : Option String :=
  overrides.patterns.find? name

def setDefault (overrides : Overrides) (name value : String) : Overrides :=
  { overrides with defaults := overrides.defaults.insert name value }

def setPattern (overrides : Overrides) (name value : String) : Overrides :=
  { overrides with patterns := overrides.patterns.insert name value }

end Overrides

/-- The limits of two optional bounds. -/
def Range.ofBounds {α : Type} (minimum maximum : Option (Bound α)) : Range α :=
  ⟨minimum.map (·.value), maximum.map (·.value), minimum.any (·.exclusive),
    maximum.any (·.exclusive)⟩

def IntegerShape.range (shape : IntegerShape) : Range Int64 :=
  .ofBounds shape.minimum shape.maximum

def NumberShape.range (shape : NumberShape) : Range Double :=
  .ofBounds shape.minimum shape.maximum

def StringShape.length (shape : StringShape) : LengthRange :=
  .ofLimits shape.minLength shape.maxLength

/-- The field of an integer schema; 64-bit integers have a kind of their own. -/
def IntegerShape.field (shape : IntegerShape) : Field :=
  match shape.format with
  | .int64 => .long shape.range
  | _ => .integer shape.range

/-- The string field registered as `name`, with what is set for that name. -/
def StringShape.field (shape : StringShape) (name : String) (overrides : Option Overrides) :
    StringField where
  length := shape.length
  pattern := (overrides.bind (·.pattern? name)).or shape.pattern
  default := (overrides.bind (·.default? name)).or shape.default
  format := shape.format
  allowed := shape.allowed

end SchemaCatalog
