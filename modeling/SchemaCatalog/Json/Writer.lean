import SchemaCatalog.Json.Basic
import SchemaCatalog.Double.Notation

/-!
Writing JSON text, either on one line without blanks or with two blanks of indentation a
level. Fields are written in the order in which the object holds them.
-/
namespace SchemaCatalog.Json

def hexDigit (n : Nat) : Char := (Nat.toDigits 16 (n % 16)).headD '0'

/-- A character inside a quoted string. Only quotes, backslashes and control characters are
escaped, the latter by a letter where there is one. -/
def escaped (c : Char) : List Char :=
  if c = '\x22' then ['\\', '\x22']
  else if c = '\\' then ['\\', '\\']
  else if c = '\x08' then ['\\', 'b']
  else if c = '\x0c' then ['\\', 'f']
  else if c = '\n' then ['\\', 'n']
  else if c = '\r' then ['\\', 'r']
  else if c = '\t' then ['\\', 't']
  else if c < ' ' then ['\\', 'u', '0', '0', hexDigit (c.toNat / 16), hexDigit c.toNat]
  else [c]

def quoted (text : String) : String :=
  String.ofList ('\x22' :: (text.toList.flatMap escaped ++ ['\x22']))

/-- A number, or `null` for what is not finite. -/
def floatText (value : Double) : String :=
  if value.isFinite then value.text Double.jsonSpelling else "null"

mutual

def compact : Json → String
  | .null => "null"
  | .bool value => if value then "true" else "false"
  | .int value => toString value
  | .float value => floatText value
  | .string value => quoted value
  | .array values => "[" ++ ",".intercalate (compactValues values) ++ "]"
  | .object fields => "\x7b" ++ ",".intercalate (compactFields fields) ++ "\x7d"
termination_by structural value => value

def compactValues : List Json → List String
  | [] => []
  | value :: rest => value.compact :: compactValues rest
termination_by structural values => values

def compactFields : List (String × Json) → List String
  | [] => []
  | (name, value) :: rest => (quoted name ++ ":" ++ value.compact) :: compactFields rest
termination_by structural fields => fields

end

/-- Items between brackets, each on a line of its own one level deeper; nothing between the
brackets if there are no items. -/
def block (opening closing : String) (depth : Nat) (items : List String) : String :=
  if items.isEmpty then opening ++ closing
  else
    let line (depth : Nat) := "\n" ++ String.ofList (List.replicate (2 * depth) ' ')
    opening ++ ",".intercalate (items.map (line (depth + 1) ++ ·)) ++ line depth ++ closing

mutual

def prettyAt (depth : Nat) : Json → String
  | .array values => block "[" "]" depth (prettyValues (depth + 1) values)
  | .object fields => block "\x7b" "\x7d" depth (prettyFields (depth + 1) fields)
  | .null => "null"
  | .bool value => if value then "true" else "false"
  | .int value => toString value
  | .float value => floatText value
  | .string value => quoted value
termination_by structural value => value

def prettyValues (depth : Nat) : List Json → List String
  | [] => []
  | value :: rest => prettyAt depth value :: prettyValues depth rest
termination_by structural values => values

def prettyFields (depth : Nat) : List (String × Json) → List String
  | [] => []
  | (name, value) :: rest =>
      (quoted name ++ ": " ++ prettyAt depth value) :: prettyFields depth rest
termination_by structural fields => fields

end

def pretty (value : Json) : String := prettyAt 0 value

end SchemaCatalog.Json
