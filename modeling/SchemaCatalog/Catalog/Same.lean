import SchemaCatalog.Catalog.Basic
import SchemaCatalog.Schema.Same

/-!
Equality of catalogs as values. Limits that are doubles are compared as numbers: the two zeros
agree, and what is not a number agrees with nothing, so a catalog with such a limit is not even
equal to itself.
-/
namespace SchemaCatalog

def Range.same (x y : Range Double) : Bool :=
  optionSame Double.same x.minimum y.minimum && optionSame Double.same x.maximum y.maximum &&
    x.exclusiveMinimum == y.exclusiveMinimum && x.exclusiveMaximum == y.exclusiveMaximum

def Field.same : Field → Field → Bool
  | .double x, .double y => x.same y
  | x, y => x == y

def Catalog.same (x y : Catalog) : Bool :=
  (x.fields.map Field.same).matches? y.fields && x.structures == y.structures

end SchemaCatalog
