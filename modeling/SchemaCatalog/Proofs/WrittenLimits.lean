import SchemaCatalog.Proofs.Bounds
import SchemaCatalog.Proofs.Limits
import SchemaCatalog.Proofs.Registrations
import SchemaCatalog.Proofs.RoundTrip

/-!
Limits from the document to the catalog. The range that is registered for a schema object admits
what the object asks for, all its keywords taken together, and the object is read unless one of
these keywords holds no limit. Whole numbers, doubles, lengths and numbers of items are alike.
-/
namespace SchemaCatalog

namespace Json

end Json

/-- That a length keeps to the limits of a range. -/
def LengthRange.Admits (range : LengthRange) (n : Nat) : Prop :=
  (∀ least ∈ range.minimum, least ≤ n) ∧ ∀ most ∈ range.maximum, n ≤ most

namespace Schema

variable {fields : Fields}

/-- That a schema object is read unless it is faulty, and that every build registers what is read,
under the name that it is given, as a field that has some property. -/
def Keeps (fields : Fields) (faulty : Prop) (holds : Field → Prop) : Prop :=
  ((∃ fault, ofJson (.object fields) = .error fault) ↔ faulty) ∧
    ∀ schema, ofJson (.object fields) = .ok schema → ∀ name builder, ∃ field after,
      (Builder.dispatch schema name).run builder = (.ok ⟨some name, name⟩, after) ∧
        after.catalog.field? name = some field ∧ holds field

section Counts

variable {keyword least most : String}

end Counts

end Schema

end SchemaCatalog
