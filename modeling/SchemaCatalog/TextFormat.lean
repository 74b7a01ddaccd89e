import SchemaCatalog.Files

/-!
The two formats of text: documents are read and catalogs are written in either.
-/
namespace SchemaCatalog

inductive TextFormat where
  | json
  | yaml
deriving DecidableEq, Repr

namespace TextFormat

def name : TextFormat → String
  | .json => "json"
  | .yaml => "yaml"

def ofName? : String → Option TextFormat
  | "json" => some .json
  | "yaml" => some .yaml
  | _ => none

/-- The format of a file by its name: JSON by its extension in any case, else YAML. -/
def ofFileName (name : String) : TextFormat :=
  match FileName.extension? name with
  | some extension => if extension.toLower = "json" then .json else .yaml
  | none => .yaml

end TextFormat

end SchemaCatalog
