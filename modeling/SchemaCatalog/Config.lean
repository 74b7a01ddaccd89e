import SchemaCatalog.Build
import SchemaCatalog.Catalog.Encoding
import SchemaCatalog.Json.Record

/-!
The configuration of a build: which components are built, how lists are named, and which
defaults and patterns are set from outside. Whatever it does not say has a default.
-/
namespace SchemaCatalog

structure Config where
  version : String
  naming : Naming
  overrides : Overrides
  included : List String
  excluded : List String
deriving DecidableEq

namespace Config

def default : Config := ⟨"1.0", .default, .empty, [], []⟩

instance : Inhabited Config := ⟨default⟩

/-- The options of a build. Overrides that set nothing are left out. -/
def options (config : Config) : Options where
  settings := ⟨config.naming, if config.overrides.isEmpty then none else some config.overrides⟩
  included := config.included
  excluded := config.excluded

def selects (config : Config) (name : String) : Bool := config.options.selects name

end Config

def Overrides.toJson (overrides : Overrides) : Json :=
  .object [("default_values", .ofMap .string overrides.defaults),
    ("patterns", .ofMap .string overrides.patterns)]

def Naming.toJson (naming : Naming) : Json :=
  .object [("plural_suffix", .string naming.pluralSuffix)]

def Config.toJson (config : Config) : Json :=
  .object [("version", .string config.version), ("naming", config.naming.toJson),
    ("model_override", config.overrides.toJson),
    ("include", .array (config.included.map .string)),
    ("exclude", .array (config.excluded.map .string))]

open Json (record? orElse)

def Overrides.ofJson? (value : Json) : Option Overrides := do
  match ← record? ["default_values", "patterns"] 0 value with
  | [defaults, patterns] =>
      return ⟨← orElse .empty (Json.map? Json.string?) defaults,
        ← orElse .empty (Json.map? Json.string?) patterns⟩
  | _ => none

def Naming.ofJson? (value : Json) : Option Naming := do
  match ← record? ["plural_suffix"] 0 value with
  | [suffix] => return ⟨← orElse Naming.default.pluralSuffix Json.string? suffix⟩
  | _ => none

def Config.ofJson? (value : Json) : Option Config := do
  match ← record? ["version", "naming", "model_override", "include", "exclude"] 0 value with
  | [version, naming, overrides, included, excluded] =>
      return ⟨← orElse Config.default.version Json.string? version,
        ← orElse .default Naming.ofJson? naming, ← orElse .empty Overrides.ofJson? overrides,
        ← orElse [] (Json.list? Json.string?) included,
        ← orElse [] (Json.list? Json.string?) excluded⟩
  | _ => none

end SchemaCatalog
