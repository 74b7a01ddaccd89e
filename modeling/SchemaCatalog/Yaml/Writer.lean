import SchemaCatalog.Json.Basic
import SchemaCatalog.Double.Notation
import SchemaCatalog.Yaml.Scalar

/-!
Writing YAML text in block style: two blanks of indentation a level, and lists level with the
key that they belong to. A text is written plainly where it then reads as itself, between
single quotes where it would not, between double quotes where only escapes can say it, and
line by line where it has line feeds.
-/
namespace SchemaCatalog.Yaml

/-- The characters that may be written as they are. Tabs and carriage returns are escaped. -/
def isPrintable (c : Char) : Bool :=
  c = '\n' || (' ' ≤ c && c ≤ '~') || ('\u00a0' ≤ c && c.toNat ≤ 0xFFFD && c != '\ufeff') ||
    0x10000 ≤ c.toNat

inductive TextStyle where
  | plain
  | single
  | double
  | literal
deriving DecidableEq, Repr

namespace TextStyle

def hasPair (p q : Char → Bool) (cs : List Char) : Bool :=
  (cs.zip (cs.drop 1)).any fun (a, b) => p a && q b

def isSpace (c : Char) : Bool := c = ' '

def startsAsMark : List Char → Bool
  | '-' :: '-' :: '-' :: _ | '.' :: '.' :: '.' :: _ => true
  | c :: rest =>
      "#,[]\x7b\x7d&*!|>'\"%@`".contains c || ((c = '?' || c = ':' || c = '-') && atGap rest)
  | [] => false

/-- Whether a colon before a gap or a comment sign after one stands inside a text. -/
def holdsMark (cs : List Char) : Bool :=
  hasPair (· == ':') isSpacing cs || cs.getLast? == some ':' || hasPair isSpacing (· == '#') cs

def needsEscape (cs : List Char) : Bool :=
  !cs.all isPrintable || hasPair isSpace isLineBreak cs

def endsWith (p : Char → Bool) (cs : List Char) : Bool := (cs.getLast?.map p).getD false

def startsWith (p : Char → Bool) (cs : List Char) : Bool := (cs.head?.map p).getD false

def allowsPlain (cs : List Char) : Bool :=
  !needsEscape cs && !startsAsMark cs && !holdsMark cs && !cs.any isLineBreak &&
    !startsWith isSpace cs && !endsWith isSpace cs

def allowsSingle (cs : List Char) : Bool := !needsEscape cs && !hasPair isLineBreak isSpace cs

def allowsLiteral (cs : List Char) : Bool := !needsEscape cs && !endsWith isSpace cs

/-- Whether a plain text would be read as something else, or as a number by other readers. -/
def isAmbiguous (text : String) : Bool :=
  match Scalar.resolve text with
  | .text _ => Scalar.hasLeadingZero text.toList
  | _ => true

def ofText (text : String) : TextStyle :=
  let cs := text.toList
  if cs.contains '\n' then if allowsLiteral cs then .literal else .double
  else if allowsPlain cs && !isAmbiguous text then .plain
  else if allowsSingle cs then .single
  else .double

end TextStyle

def pad (indent : Nat) : String := String.ofList (List.replicate indent ' ')

/-- Characters with blanks in front of every line that is not empty. -/
def indented (indent : Nat) : (atStart : Bool) → List Char → List Char
  | _, [] => []
  | atStart, c :: rest =>
      if isLineBreak c then c :: indented indent true rest
      else (if atStart then (pad indent).toList else []) ++ c :: indented indent false rest

def singleQuoted (indent : Nat) (cs : List Char) : String :=
  let body := indented indent false (cs.flatMap fun c => if c = '\x27' then [c, c] else [c])
  "'" ++ String.ofList body ++ (if TextStyle.endsWith isLineBreak cs then pad indent else "") ++ "'"

def upperHex (width : Nat) (n : Nat) : List Char :=
  let digits := (Nat.toDigits 16 n).map Char.toUpper
  List.replicate (width - digits.length) '0' ++ digits

def escaped (c : Char) : List Char :=
  if c = '\x22' || c = '\\' then ['\\', c]
  else if isPrintable c && !isLineBreak c then [c]
  else match c with
    | '\x00' => ['\\', '0']
    | '\x07' => ['\\', 'a']
    | '\x08' => ['\\', 'b']
    | '\t' => ['\\', 't']
    | '\n' => ['\\', 'n']
    | '\x0b' => ['\\', 'v']
    | '\x0c' => ['\\', 'f']
    | '\r' => ['\\', 'r']
    | '\x1b' => ['\\', 'e']
    | '\u0085' => ['\\', 'N']
    | '\u2028' => ['\\', 'L']
    | '\u2029' => ['\\', 'P']
    | c =>
        if c.toNat ≤ 0xFF then '\\' :: 'x' :: upperHex 2 c.toNat
        else if c.toNat ≤ 0xFFFF then '\\' :: 'u' :: upperHex 4 c.toNat
        else '\\' :: 'U' :: upperHex 8 c.toNat

def doubleQuoted (cs : List Char) : String :=
  "\x22" ++ String.ofList (cs.flatMap escaped) ++ "\x22"

def chompingMark (cs : List Char) : String :=
  match cs.reverse with
  | last :: before =>
      if !isLineBreak last then "-"
      else match before with
        | [] => "+"
        | c :: _ => if isLineBreak c then "+" else ""
  | [] => "-"

/-- A text line by line; its indentation is given if the text does not show it. -/
def literal (indent : Nat) (cs : List Char) : String :=
  "|" ++ (if TextStyle.startsWith (fun c => c = ' ' || isLineBreak c) cs then "2" else "") ++
    chompingMark cs ++ "\n" ++ String.ofList (indented indent true cs)

/-- A text; `indent` is the indentation of its further lines. -/
def textAt (indent : Nat) (text : String) : String :=
  match TextStyle.ofText text with
  | .plain => text
  | .single => singleQuoted indent text.toList
  | .double => doubleQuoted text.toList
  | .literal => literal indent text.toList

def endLine (text : String) : String :=
  if TextStyle.endsWith isLineBreak text.toList then text else text ++ "\n"

/-- Whether a name can stand on the line of its value. -/
def isShortKey (name : String) : Bool :=
  !name.toList.any isLineBreak && name.utf8ByteSize ≤ 128

def column (indent : Nat) (entries : List String) : String := (pad indent).intercalate entries

/-- A value that is a line of its own: a scalar or an empty collection. -/
def leaf (indent : Nat) : Json → String
  | .null => "null\n"
  | .bool value => if value then "true\n" else "false\n"
  | .int value => toString value ++ "\n"
  | .float value => value.text Double.yamlSpelling ++ "\n"
  | .string text => endLine (textAt (indent + 2) text)
  | .array _ => "[]\n"
  | .object _ => "\x7b\x7d\n"

mutual

/-- A value after a mark of one character, in a collection at `indent`. -/
def afterMark (indent : Nat) : Json → String
  | .array values =>
      if values.isEmpty then " []\n"
      else " " ++ column (indent + 2) (items (indent + 2) values)
  | .object entries =>
      if entries.isEmpty then " \x7b\x7d\n"
      else " " ++ column (indent + 2) (fields (indent + 2) entries)
  | value => " " ++ leaf indent value
termination_by structural value => value

/-- A value after a key on the same line: lists stay at the indentation of the key. -/
def afterKey (indent : Nat) : Json → String
  | .array values =>
      if values.isEmpty then " []\n"
      else "\n" ++ pad indent ++ column indent (items indent values)
  | .object entries =>
      if entries.isEmpty then " \x7b\x7d\n"
      else "\n" ++ pad (indent + 2) ++ column (indent + 2) (fields (indent + 2) entries)
  | value => " " ++ leaf indent value
termination_by structural value => value

def items (indent : Nat) : List Json → List String
  | [] => []
  | value :: rest => ("-" ++ afterMark indent value) :: items indent rest
termination_by structural values => values

def fields (indent : Nat) : List (String × Json) → List String
  | [] => []
  | (name, value) :: rest =>
      (if isShortKey name then textAt (indent + 2) name ++ ":" ++ afterKey indent value
      else
        "? " ++ endLine (textAt (indent + 2) name) ++ pad indent ++ ":" ++ afterMark indent value) ::
        fields indent rest
termination_by structural entries => entries

end

def write : Json → String
  | .array values => if values.isEmpty then "[]\n" else column 0 (items 0 values)
  | .object entries => if entries.isEmpty then "\x7b\x7d\n" else column 0 (fields 0 entries)
  | value => leaf 0 value

end SchemaCatalog.Yaml
