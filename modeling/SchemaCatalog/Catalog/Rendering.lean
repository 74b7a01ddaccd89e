import SchemaCatalog.Catalog.Encoding
import SchemaCatalog.Digest
import SchemaCatalog.Json.Writer
import SchemaCatalog.TextFormat
import SchemaCatalog.Yaml.Writer

/-!
Catalogs as text: JSON for readers, YAML, and a fingerprint that is the digest of the shortest
JSON text.
-/
namespace SchemaCatalog

namespace Catalog

/-- The text of a catalog, up to the end of its last line. -/
def render (catalog : Catalog) : TextFormat → String
  | .json => catalog.toJson.pretty ++ "\n"
  | .yaml => Yaml.write (catalog.encode .float)

def fingerprint (catalog : Catalog) : String := Digest.ofText catalog.toJson.compact

end Catalog

end SchemaCatalog
