import SchemaCatalog.Json.Basic

/-!
Records in JSON: an object with fields of known names, or an array of their values in order.
Unknown fields are passed over; a known field that is given twice is refused, as is an array
that is too short for the required fields or longer than the record.
-/
namespace SchemaCatalog.Json

variable {α : Type}

/-- The values of the fields `names`, of which an array must hold the first `required`. -/
def record? (names : List String) (required : Nat) : Json → Option (List (Option Json))
  | .object fields =>
      if names.any fun name => 1 < (fields.filter (·.1 == name)).length then none
      else some (names.map fun name => NameMap.findLast? name fields)
  | .array values =>
      if required ≤ values.length && values.length ≤ names.length then
        some (values.map some ++ List.replicate (names.length - values.length) none)
      else none
  | _ => none

def need (read : Json → Option α) (value : Option Json) : Option α := value.bind read

/-- A field that may be missing or null. -/
def optional (read : Json → Option α) : Option Json → Option (Option α)
  | none => some none
  | some .null => some none
  | some value => (read value).map some

/-- A field that has a value of its own when it is missing. -/
def orElse (default : α) (read : Json → Option α) : Option Json → Option α
  | none => some default
  | some value => read value

def bool? : Json → Option Bool
  | .bool value => some value
  | _ => none

def count? : Json → Option Nat
  | .int n => if 0 ≤ n then some n.toNat else none
  | _ => none

def int64? : Json → Option Int64
  | .int n =>
      if Int64.minValue.toInt ≤ n ∧ n ≤ Int64.maxValue.toInt then some (Int64.ofInt n) else none
  | _ => none

def list? (read : Json → Option α) : Json → Option (List α)
  | .array values => values.mapM read
  | _ => none

/-- An object as a map; every value must be right, also one that a later one replaces. -/
def map? (read : Json → Option α) : Json → Option (NameMap α)
  | .object fields => do
      return NameMap.ofList (← fields.mapM fun (name, value) => do return (name, ← read value))
  | _ => none

end SchemaCatalog.Json
