import SchemaCatalog.Text.Quoted
import SchemaCatalog.Walk

/-!
Catalogs from the steps of a walk, and the log of how they came about. A step registers one
type; the last registration of a name is kept. The log names every registration, and warns of
each that takes the place of another and of each name that becomes both field and structure.
-/
namespace SchemaCatalog

inductive Event where
  | converted (components : Nat)
  | skipping (component : String)
  | building (component : String) (title : Option String)
  | registeringField (name kind : String)
  | fieldReplaced (name previous : String)
  | fieldSharesName (name : String)
  | registeringStructure (name : String) (members : Nat)
  | structureReplaced (name : String)
  | structureSharesName (name : String)
  | built (title : Option String) (fields structures : Nat)
deriving DecidableEq, Repr

namespace Event

def isWarning : Event → Bool
  | .fieldReplaced .. | .fieldSharesName _ | .structureReplaced _ | .structureSharesName _ => true
  | _ => false

/-- The line of an event: level, message and values. -/
def line : Event → String
  | .converted components => "DEBUG Converted document components=" ++ toString components
  | .skipping component => "DEBUG Skipping component component=" ++ component
  | .building component title =>
      "DEBUG Building component component=" ++ component ++ " document=" ++ Text.quotedOption title
  | .registeringField name kind => "DEBUG Registering field entity=" ++ name ++ " kind=" ++ kind
  | .fieldReplaced name previous =>
      "WARN Field name collision, keeping last entity=" ++ name ++ " previous=" ++ previous
  | .fieldSharesName name => "WARN Field shares its name with a structure entity=" ++ name
  | .registeringStructure name members =>
      "DEBUG Registering structure entity=" ++ name ++ " members=" ++ toString members
  | .structureReplaced name => "WARN Structure name collision, keeping last entity=" ++ name
  | .structureSharesName name => "WARN Structure shares its name with a field entity=" ++ name
  | .built title fields structures =>
      "INFO Built service model title=" ++ Text.quotedOption title ++ " fields=" ++
        toString fields ++ " structures=" ++ toString structures

end Event

namespace Catalog

def apply (catalog : Catalog) : Step → Catalog
  | .field name field => catalog.addField name field
  | .structure name record => catalog.addStructure name record
  | .skip _ | .enter .. => catalog

def applyAll (catalog : Catalog) (steps : List Step) : Catalog := steps.foldl apply catalog

/-- What a step that is taken on a catalog leaves in the log. -/
def eventsOf (catalog : Catalog) : Step → List Event
  | .skip component => [.skipping component]
  | .enter component title => [.building component title]
  | .field name field =>
      [.registeringField name field.kind] ++
        ((catalog.field? name).map fun previous => .fieldReplaced name previous.kind).toList ++
        (if (catalog.structure? name).isSome then [.fieldSharesName name] else [])
  | .structure name record =>
      [.registeringStructure name record.members.size] ++
        (if (catalog.structure? name).isSome then [.structureReplaced name] else []) ++
        (if (catalog.field? name).isSome then [.structureSharesName name] else [])

def log (catalog : Catalog) : List Step → List Event
  | [] => []
  | step :: rest => catalog.eventsOf step ++ log (catalog.apply step) rest

end Catalog

end SchemaCatalog
