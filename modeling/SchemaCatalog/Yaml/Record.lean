import SchemaCatalog.NameMap
import SchemaCatalog.Yaml.Value

/-!
Records in YAML: a mapping with fields of known names, read by what the fields should hold. A
text is any scalar as it is written, and where a collection should be nothing may stand.
Unknown fields are passed over; a known field that is given twice is refused.
-/
namespace SchemaCatalog.Yaml.Node

variable {α : Type}

/-- How a node is read: what its aliases stand for is known, and how many may be followed. -/
abbrev Reading (α : Type) := Anchors → Node → Expansion α

def text : Reading String := fun anchors node => do
  StateT.lift (scalarText? (← follow anchors node))

def items (read : Reading α) : Reading (List α) := fun anchors node => do
  match ← follow anchors node with
  | .sequence _ items => items.mapM (read anchors)
  | .scalar _ "" true => return []
  | _ => failure

def entries (read : Reading α) : Reading (List (String × α)) := fun anchors node => do
  match ← follow anchors node with
  | .mapping _ entries => entries.mapM fun (key, value) => do
      return (← text anchors key, ← read anchors value)
  | .scalar _ "" true => return []
  | _ => failure

def map (read : Reading α) : Reading (NameMap α) := fun anchors node => do
  return NameMap.ofList (← entries read anchors node)

def record (names : List String) : Reading (List (Option Node)) := fun anchors node => do
  let fields ← entries (fun _ value => pure value) anchors node
  if names.any fun name => 1 < (fields.filter (·.1 == name)).length then failure
  return names.map fun name => NameMap.findLast? name fields

/-- A field that has a value of its own when it is missing. -/
def orElse (default : α) (read : Reading α) (anchors : Anchors) : Option Node → Expansion α
  | some node => read anchors node
  | none => return default

end SchemaCatalog.Yaml.Node
