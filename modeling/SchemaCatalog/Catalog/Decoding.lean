import SchemaCatalog.Catalog.Basic
import SchemaCatalog.Json.Record
import SchemaCatalog.Double.Nearest

/-!
Catalogs read back from JSON values. Every record may also be an array of its values in the
order in which they are written; a field's array starts with its kind.
-/
namespace SchemaCatalog

open Json (record? need optional orElse)

/-- A limit of a double may be written as a whole number. -/
def Double.ofJson? : Json → Option Double
  | .int n => some (Double.ofInt n)
  | .float x => some x
  | _ => none

def Range.ofJson? {α : Type} (read : Json → Option α) (value : Json) : Option (Range α) := do
  match ← record? ["minimum", "maximum", "exclusive_minimum", "exclusive_maximum"] 2 value with
  | [minimum, maximum, exclusiveMinimum, exclusiveMaximum] =>
      return ⟨← optional read minimum, ← optional read maximum,
        ← orElse false Json.bool? exclusiveMinimum, ← orElse false Json.bool? exclusiveMaximum⟩
  | _ => none

def LengthRange.ofJson? (value : Json) : Option LengthRange := do
  match ← record? ["minimum", "maximum"] 2 value with
  | [minimum, maximum] =>
      return ⟨← optional Json.count? minimum, ← optional Json.count? maximum⟩
  | _ => none

def StringField.ofJson? (value : Json) : Option StringField := do
  let names := ["length_constraint", "pattern", "default_value", "format", "allowed_values"]
  match ← record? names 1 value with
  | [length, pattern, default, format, allowed] =>
      return ⟨← need LengthRange.ofJson? length, ← optional Json.string? pattern,
        ← optional Json.string? default, ← optional Json.string? format,
        ← orElse [] (Json.list? Json.string?) allowed⟩
  | _ => none

/-- A field of a known kind from what stands beside its kind. -/
def Field.ofContent? (kind : String) (content : Json) : Option Field :=
  match kind with
  | "boolean" =>
      match content with
      | .array (_ :: _) => none
      | _ => some .boolean
  | "integer" => do
      match ← record? ["range_constraint"] 1 content with
      | [range] => return .integer (← need (Range.ofJson? Json.int64?) range)
      | _ => none
  | "long" => do
      match ← record? ["range_constraint"] 1 content with
      | [range] => return .long (← need (Range.ofJson? Json.int64?) range)
      | _ => none
  | "double" => do
      match ← record? ["range_constraint"] 1 content with
      | [range] => return .double (← need (Range.ofJson? Double.ofJson?) range)
      | _ => none
  | "string" => (StringField.ofJson? content).map .string
  | "list" => do
      match ← record? ["element_type", "length_constraint"] 2 content with
      | [element, length] =>
          return .list (← need Json.string? element) (← need LengthRange.ofJson? length)
      | _ => none
  | "map" => do
      match ← record? ["key_type", "value_type", "length_constraint"] 3 content with
      | [key, value, length] =>
          return .map (← need Json.string? key) (← need Json.string? value)
            (← need LengthRange.ofJson? length)
      | _ => none
  | _ => none

def Field.ofJson? : Json → Option Field
  | .object fields => do
      match ← record? ["kind"] 1 (.object fields) with
      | [kind] =>
          ofContent? (← need Json.string? kind) (.object (fields.filter (·.1 != "kind")))
      | _ => none
  | .array (.string kind :: values) => ofContent? kind (.array values)
  | _ => none

def Member.ofJson? (value : Json) : Option Member := do
  match ← record? ["type_name", "position", "required", "documentation"] 3 value with
  | [typeName, position, required, documentation] =>
      return ⟨← need Json.string? typeName, ← need Json.count? position,
        ← need Json.bool? required, ← optional Json.string? documentation⟩
  | _ => none

def Structure.ofJson? (value : Json) : Option Structure := do
  match ← record? ["members"] 1 value with
  | [members] => return ⟨← need (Json.map? Member.ofJson?) members⟩
  | _ => none

def Catalog.ofJson? (value : Json) : Option Catalog := do
  match ← record? ["field_descriptions", "structure_descriptions"] 2 value with
  | [fields, structures] =>
      return ⟨← need (Json.map? Field.ofJson?) fields,
        ← need (Json.map? Structure.ofJson?) structures⟩
  | _ => none

end SchemaCatalog
