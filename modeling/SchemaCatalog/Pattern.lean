import SchemaCatalog.Pattern.Syntax

/-!
Patterns that strings are matched with: regular expressions that can be read and are not too
large for a matcher.
-/
namespace SchemaCatalog.Pattern

/-- How deep the parts of a pattern may be inside one another. -/
def depthLimit : Nat := 250

def stateLimit : Nat := 327680

def isValid (text : String) : Bool :=
  match size? text with
  | some size => size.depth ≤ depthLimit && size.states ≤ stateLimit
  | none => false

end SchemaCatalog.Pattern
