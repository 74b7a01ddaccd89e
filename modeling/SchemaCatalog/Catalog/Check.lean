import SchemaCatalog.Catalog.Basic
import SchemaCatalog.Document
import SchemaCatalog.Pattern

/-!
Checks of a catalog beside its document: every type name must be known, as a type of the
catalog, a component of the document or the built-in string type, and every pattern must be a
regular expression.
-/
namespace SchemaCatalog

/-- What is wrong with a catalog. The owner of a member is written with a dot before it. Of an invalid
pattern only the owner is kept: the text in which the regular expression library says why it does
not compile, which would follow the message after a colon, is left out. -/
inductive Problem where
  | danglingName (owner typeName : String)
  | invalidPattern (owner : String)
deriving DecidableEq, Repr

def Problem.message : Problem → String
  | .danglingName owner typeName => owner ++ " refers to unknown type " ++ typeName
  | .invalidPattern owner => "invalid pattern for " ++ owner

namespace Catalog

def knows (catalog : Catalog) (document : Document) (name : String) : Bool :=
  name == stringType || catalog.contains name || document.components.contains name

def danglingNames (catalog : Catalog) (document : Document) (owner : String)
    (names : List String) : List Problem :=
  (names.filter fun name => !catalog.knows document name).map (.danglingName owner)

def patternProblems (owner : String) : Field → List Problem
  | .string field =>
      match field.pattern with
      | some pattern => if Pattern.isValid pattern then [] else [.invalidPattern owner]
      | none => []
  | _ => []

/-- All problems: those of each field and then those of each structure, in the order of names. -/
def problems (catalog : Catalog) (document : Document) : List Problem :=
  (catalog.fields.entries.flatMap fun (name, field) =>
    catalog.danglingNames document name field.references ++ patternProblems name field) ++
  catalog.structures.entries.flatMap fun (name, record) =>
    record.members.entries.flatMap fun (member, description) =>
      catalog.danglingNames document (name ++ "." ++ member) [description.typeName]

end Catalog

end SchemaCatalog
