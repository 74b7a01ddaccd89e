import SchemaCatalog.Catalog.Basic
import SchemaCatalog.Json.Basic

/-!
Catalogs as JSON values. A field says its kind first; what a string field or a member does
not have is left out, limits are always written. Limits that are not finite are lost, as JSON
has no text for them; a format that has one can be given its own encoding of doubles.
-/
namespace SchemaCatalog

namespace Json

def ofOption {α : Type} (encode : α → Json) : Option α → Json
  | some value => encode value
  | none => .null

/-- A field that is written only if there is a value. -/
def fieldIfSome {α : Type} (name : String) (encode : α → Json) : Option α → List (String × Json)
  | some value => [(name, encode value)]
  | none => []

def ofDouble (value : Double) : Json := if value.isFinite then .float value else .null

def ofInt64 (value : Int64) : Json := .int value.toInt

def ofCount (value : Nat) : Json := .int value

def ofMap {α : Type} (encode : α → Json) (map : NameMap α) : Json :=
  .object (map.map encode).entries

end Json

def Range.toJson {α : Type} (encode : α → Json) (range : Range α) : Json :=
  .object [("minimum", .ofOption encode range.minimum), ("maximum", .ofOption encode range.maximum),
    ("exclusive_minimum", .bool range.exclusiveMinimum),
    ("exclusive_maximum", .bool range.exclusiveMaximum)]

def LengthRange.toJson (range : LengthRange) : Json :=
  .object [("minimum", .ofOption .ofCount range.minimum),
    ("maximum", .ofOption .ofCount range.maximum)]

/-- The fields of a string field's object. -/
def StringField.entries (field : StringField) : List (String × Json) :=
  [("length_constraint", field.length.toJson)] ++
    Json.fieldIfSome "pattern" .string field.pattern ++
    Json.fieldIfSome "default_value" .string field.default ++
    Json.fieldIfSome "format" .string field.format ++
    (if field.allowed.isEmpty then [] else
      [("allowed_values", .array (field.allowed.map .string))])

def StringField.toJson (field : StringField) : Json := .object field.entries

/-- What a field's object holds beside its kind. -/
def Field.entries (double : Double → Json) : Field → List (String × Json)
  | .boolean => []
  | .integer range | .long range => [("range_constraint", range.toJson .ofInt64)]
  | .double range => [("range_constraint", range.toJson double)]
  | .string field => field.entries
  | .list element length =>
      [("element_type", .string element), ("length_constraint", length.toJson)]
  | .map key value length =>
      [("key_type", .string key), ("value_type", .string value),
        ("length_constraint", length.toJson)]

def Field.encode (double : Double → Json) (field : Field) : Json :=
  .object (("kind", .string field.kind) :: field.entries double)

def Field.toJson (field : Field) : Json := field.encode .ofDouble

def Member.toJson (member : Member) : Json :=
  .object ([("type_name", .string member.typeName), ("position", .ofCount member.position),
    ("required", .bool member.required)] ++
    Json.fieldIfSome "documentation" .string member.documentation)

def Structure.toJson (record : Structure) : Json :=
  .object [("members", .ofMap Member.toJson record.members)]

def Catalog.encode (double : Double → Json) (catalog : Catalog) : Json :=
  .object [("field_descriptions", .ofMap (Field.encode double) catalog.fields),
    ("structure_descriptions", .ofMap Structure.toJson catalog.structures)]

def Catalog.toJson (catalog : Catalog) : Json := catalog.encode .ofDouble

end SchemaCatalog
