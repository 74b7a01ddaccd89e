import SchemaCatalog.Build
import SchemaCatalog.Config.Text
import SchemaCatalog.Json.Reader
import SchemaCatalog.TextFormat
import SchemaCatalog.Yaml.Value

/-!
Documents and configurations from text and from the content of files, and what can go wrong on
the way to a catalog.
-/
namespace SchemaCatalog

inductive LoadFault where
  | file (fault : FileFault)
  | json
  | yaml
  /-- A configuration that was opened but could not be read. -/
  | yamlFile (fault : FileFault)
  | document (fault : Document.Fault)
  | walk (fault : WalkFault)
deriving DecidableEq, Repr

def LoadFault.message : LoadFault → String
  | .file fault => "I/O error: " ++ fault.message
  | .json => "JSON error"
  | .yaml => "YAML error"
  | .yamlFile fault => "YAML error: " ++ fault.message
  | .document fault => fault.message
  | .walk fault => "model error: " ++ fault.message

abbrev FileContent := Except FileFault ByteArray

namespace Document

def read (value : Json) : Except LoadFault Document := (ofJson value).mapError .document

def parse (text : String) : TextFormat → Except LoadFault Document
  | .json =>
      match Json.read? text with
      | some value => read value
      | none => .error .json
  | .yaml =>
      match Yaml.read? text with
      | some value => read value.sorted
      | none => .error .yaml

/-- The document in a file of the given name, which tells its format. -/
def ofFile (name : String) (content : FileContent) : Except LoadFault Document := do
  let bytes ← content.mapError .file
  match String.fromUTF8? bytes with
  | some text => parse text (.ofFileName name)
  | none => .error (.file .notText)

end Document

namespace Config

/-- The configuration in a file. A directory can be opened as a file, but not read. -/
def ofFile (content : FileContent) : Except LoadFault Config :=
  match content with
  | .ok bytes =>
      match ofBytes? bytes with
      | some config => .ok config
      | none => .error .yaml
  | .error .isDirectory => .error (.yamlFile .isDirectory)
  | .error fault => .error (.file fault)

end Config

structure Loaded where
  document : Document
  catalog : Catalog

namespace Loaded

def ofDocument (config : Config) (document : Document) : Except LoadFault Loaded := do
  return ⟨document, ← (document.build config.options).mapError .walk⟩

def ofFile (config : Config) (name : String) (content : FileContent) :
    Except LoadFault Loaded := do
  ofDocument config (← Document.ofFile name content)

end Loaded

end SchemaCatalog
