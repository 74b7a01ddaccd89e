import SchemaCatalog.Builder

/-!
Catalogs built from documents. One builder takes the selected components in the order of their
names; the first fault ends the build and no catalog is made.
-/
namespace SchemaCatalog

structure Options where
  settings : Settings
  included : List String
  excluded : List String
deriving DecidableEq

namespace Options

/-- Whether a component is to be built: it is not excluded, and is included if any is. -/
def selects (options : Options) (name : String) : Bool :=
  !options.excluded.contains name &&
    (options.included.isEmpty || options.included.contains name)

def default : Options := ⟨⟨.default, none⟩, [], []⟩

instance : Inhabited Options := ⟨default⟩

end Options

namespace Document

def buildSelected (options : Options) (name : String) (schema : Schema) : Build Unit := do
  if options.selects name then
    let _ ← Builder.buildComponent name schema
  else
    Builder.note (.skipping name)

def buildAll (document : Document) (options : Options) : Build Unit :=
  document.components.entries.forM fun (name, schema) => buildSelected options name schema

/-- How a build from nothing ends, and the builder that it leaves behind. -/
def finish (document : Document) (options : Options) : Except WalkFault Unit × Builder :=
  (document.buildAll options).run (.start options.settings document.title .empty)

def build (document : Document) (options : Options) : Except WalkFault Catalog :=
  let (outcome, builder) := document.finish options
  outcome.map fun _ => builder.catalog

/-- What a build leaves in the log; a build that ends well says so at last. -/
def buildLog (document : Document) (options : Options) : List Event :=
  let (outcome, builder) := document.finish options
  builder.log ++
    match outcome with
    | .ok _ =>
        [.built document.title builder.catalog.fields.size builder.catalog.structures.size]
    | .error _ => []

end Document

end SchemaCatalog
