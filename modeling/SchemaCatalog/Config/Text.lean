import SchemaCatalog.Config
import SchemaCatalog.Yaml.Encoding
import SchemaCatalog.Yaml.Record
import SchemaCatalog.Yaml.Writer

/-!
Configurations as YAML text. An empty text is the default configuration.
-/
namespace SchemaCatalog

open Yaml.Node (Reading record text items map orElse)

def Overrides.ofNode : Reading Overrides := fun anchors node => do
  match ← record ["default_values", "patterns"] anchors node with
  | [defaults, patterns] =>
      return ⟨← orElse .empty (map text) anchors defaults,
        ← orElse .empty (map text) anchors patterns⟩
  | _ => failure

def Naming.ofNode : Reading Naming := fun anchors node => do
  match ← record ["plural_suffix"] anchors node with
  | [suffix] => return ⟨← orElse Naming.default.pluralSuffix text anchors suffix⟩
  | _ => failure

namespace Config

def ofNode : Reading Config := fun anchors node => do
  match ← record ["version", "naming", "model_override", "include", "exclude"] anchors node with
  | [version, naming, overrides, included, excluded] =>
      return ⟨← orElse Config.default.version text anchors version,
        ← orElse .default Naming.ofNode anchors naming,
        ← orElse .empty Overrides.ofNode anchors overrides,
        ← orElse [] (items text) anchors included, ← orElse [] (items text) anchors excluded⟩
  | _ => failure

def ofText? (text : String) : Option Config := do
  match ← Yaml.Node.ofText? text with
  | none => some .default
  | some node => Yaml.Node.runWith node ofNode

/-- The configuration in a file. -/
def ofBytes? (bytes : ByteArray) : Option Config := (Yaml.decode? bytes).bind ofText?

def text (config : Config) : String := Yaml.write config.toJson

end Config

end SchemaCatalog
