import SchemaCatalog.Schema.Basic

/-!
Equality of schemas as values. Properties are compared as a map, so the order in which they
were added does not count; the list of required names does count as a list. Bounds are
compared as numbers: the two zeros agree, and what is not a number agrees with nothing.
-/
namespace SchemaCatalog

def Bound.same (x y : Bound Double) : Bool := x.value.same y.value && x.exclusive == y.exclusive

/-- Equality of optional values under a given equality of values. -/
def optionSame {α : Type} (same : α → α → Bool) : Option α → Option α → Bool
  | none, none => true
  | some x, some y => same x y
  | _, _ => false

def NumberShape.same (x y : NumberShape) : Bool :=
  x.format == y.format && optionSame Bound.same x.minimum y.minimum &&
    optionSame Bound.same x.maximum y.maximum

/-- Whether each value passes the test of its name, with no name left over on either side. -/
def NameMap.matches? {α : Type} (tests : NameMap (α → Bool)) (values : NameMap α) : Bool :=
  tests.names == values.names &&
    (tests.entries.zip values.entries).all fun (test, value) => test.2 value.2

namespace Schema

mutual

def same : Schema → Schema → Bool
  | ⟨kind, description⟩, other => sameKind kind other.kind && description == other.description
termination_by structural schema => schema

def sameKind : Kind → Kind → Bool
  | .boolean, .boolean => true
  | .integer x, .integer y => x == y
  | .number x, .number y => x.same y
  | .string x, .string y => x == y
  | .object properties required additional, .object otherProperties otherRequired otherAdditional =>
      (NameMap.ofList (propertyTests properties)).matches? (NameMap.ofList otherProperties) &&
        required == otherRequired && sameAdditional additional otherAdditional
  | .array items minItems maxItems, .array otherItems otherMin otherMax =>
      sameItems items otherItems && minItems == otherMin && maxItems == otherMax
  | .combinator keyword members, .combinator otherKeyword others =>
      keyword == otherKeyword && sameMembers members others
  | .reference path target, .reference otherPath otherTarget =>
      path == otherPath && target == otherTarget
  | .fragment, .fragment => true
  | .not schema, .not other => same schema other
  | _, _ => false
termination_by structural kind => kind

def propertyTests : List (String × Schema) → List (String × (Schema → Bool))
  | [] => []
  | (name, schema) :: rest => (name, same schema) :: propertyTests rest
termination_by structural properties => properties

def sameAdditional : Additional Schema → Additional Schema → Bool
  | .undeclared, .undeclared => true
  | .allowed any, .allowed other => any == other
  | .values schema, .values other => same schema other
  | _, _ => false
termination_by structural additional => additional

def sameItems : Option Schema → Option Schema → Bool
  | none, none => true
  | some schema, some other => same schema other
  | _, _ => false
termination_by structural items => items

def sameMembers : List Schema → List Schema → Bool
  | [], [] => true
  | schema :: rest, other :: others => same schema other && sameMembers rest others
  | _, _ => false
termination_by structural members => members

end

end Schema

end SchemaCatalog
