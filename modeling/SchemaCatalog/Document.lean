import SchemaCatalog.Schema.Reading

/-!
Documents: the component schemas of an interface description, with its title and version.
Components are read in the order of their names, so the first fault is that of the first
faulty name.
-/
namespace SchemaCatalog

structure Document where
  title : Option String
  version : Option String
  components : NameMap Schema

namespace Document

def empty : Document := ⟨none, none, .empty⟩

instance : Inhabited Document := ⟨empty⟩

def withComponent (document : Document) (name : String) (schema : Schema) : Document :=
  { document with components := document.components.insert name schema }

inductive Fault where
  | rootNotObject
  | schemasNotObject
  | schema (fault : Schema.Fault)
deriving DecidableEq, Repr

/-- The text of a place, seen from a root that has a text of its own. -/
def placeText (root : String) (place : Pointer) : String := root ++ place.text

def Fault.message : Fault → String
  | .rootNotObject => "invalid document: document root must be an object"
  | .schemasNotObject => "invalid document: components.schemas must be an object"
  | .schema fault =>
      "invalid schema at " ++ placeText "#" fault.place ++ ": " ++ fault.defect.message

def componentPlace (name : String) : Pointer := ["components", "schemas", name]

def componentsOf (value : Json) : Except Fault (NameMap Schema) :=
  match (value.field? "components").bind (·.field? "schemas") with
  | none => .ok .empty
  | some (.object fields) =>
      (NameMap.ofList fields).traverse fun name schema =>
        (Schema.within (componentPlace name) (Schema.ofJson schema)).mapError Fault.schema
  | some _ => .error .schemasNotObject

def ofJson (value : Json) : Except Fault Document :=
  match value with
  | .object _ => do
      let info := value.field? "info"
      let text (name : String) := (info.bind (·.field? name)).bind Json.string?
      return ⟨text "title", text "version", ← componentsOf value⟩
  | _ => .error .rootNotObject

end Document

end SchemaCatalog
