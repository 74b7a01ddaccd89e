import SchemaCatalog.Json.Basic
import SchemaCatalog.Yaml.Node
import SchemaCatalog.Yaml.Scalar

/-!
JSON values from YAML nodes. An alias stands for the node with its anchor; how deep nodes may
be nested and how often aliases may be followed is limited, so that no text takes too long.
-/
namespace SchemaCatalog.Yaml

/-- The nodes of a document by the number of their anchor. -/
abbrev Anchors := List (Nat × Node)

namespace Node

/-- The node that an alias stands for; of two with one number the later. -/
def target? (anchors : Anchors) (anchor : Nat) : Option Node :=
  (anchors.filter (·.1 == anchor)).getLast?.map (·.2)

def nestingLimit : Nat := 128

/-- How many aliases may still be followed. -/
abbrev Expansion := StateT Nat Option

def follow (anchors : Anchors) : Node → Expansion Node
  | .alias anchor => do
      let left ← get
      if left = 0 then failure
      set (left - 1)
      match target? anchors anchor with
      | some node => return node
      | none => failure
  | node => return node

/-- A whole number, if JSON text keeps it whole. -/
def ofInt? (n : Int) : Option Json :=
  if -0x8000000000000000 ≤ n ∧ n ≤ 0xFFFFFFFFFFFFFFFF then some (.int n) else none

def ofDouble (x : Double) : Json := if x.isFinite then .float x else .null

def ofScalar? : Scalar → Option Json
  | .null => some .null
  | .bool value => some (.bool value)
  | .int n => ofInt? n
  | .float x => some (ofDouble x)
  | .text text => some (.string text)

def coreTag (name : String) : String := "tag:yaml.org,2002:" ++ name

/-- A scalar. The tags of truth values, numbers and null force its type, others make it text;
a local tag has no meaning here. -/
def scalarJson? (marks : Marks) (text : String) (plain : Bool) : Option Json :=
  match marks.tag with
  | none => if plain then ofScalar? (Scalar.resolve text) else some (.string text)
  | some tag =>
      if tag = coreTag "bool" then (Scalar.bool? text).map .bool
      else if tag = coreTag "int" then (Scalar.int? text.toList).bind ofInt?
      else if tag = coreTag "float" then (Scalar.float? text.toList).map ofDouble
      else if tag = coreTag "null" then if Scalar.isNull text then some .null else none
      else if tag.startsWith "!" then none
      else some (.string text)

def isLocal (marks : Marks) : Bool := (marks.tag.map (·.startsWith "!")).getD false

def scalarText? : Node → Option String
  | .scalar _ text _ => some text
  | _ => none

/-- A node as a JSON value; a key must be a scalar and is taken as text. -/
def toJson (anchors : Anchors) : Nat → Node → Expansion Json
  | 0, node => do
      match ← follow anchors node with
      | .scalar marks text plain => StateT.lift (scalarJson? marks text plain)
      | _ => failure
  | depth + 1, node => do
      match ← follow anchors node with
      | .scalar marks text plain => StateT.lift (scalarJson? marks text plain)
      | .sequence marks items =>
          if isLocal marks then failure
          else return .array (← items.mapM (toJson anchors depth))
      | .mapping marks entries =>
          if isLocal marks then failure
          else
            let fields ← entries.mapM fun (key, value) => do
              let key ← follow anchors key
              let name ← StateT.lift (scalarText? key)
              return (name, ← toJson anchors depth value)
            return .object fields
      | .alias _ => failure

/-- What is read from the root of a document. In a long document more aliases may be followed. -/
def runWith {α : Type} (root : Node) (read : Anchors → Node → Expansion α) : Option α :=
  ((read root.anchored root).run (100 * root.size)).map (·.1)

end Node

/-- The JSON value that a text is, if it is one; an empty text is null. -/
def read? (text : String) : Option Json := do
  match ← Node.ofText? text with
  | none => some .null
  | some root => root.runWith fun anchors node => node.toJson anchors Node.nestingLimit

end SchemaCatalog.Yaml
