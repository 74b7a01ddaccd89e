/-!
Positions in a YAML text, and the classes of characters that its layout depends on.
-/
namespace SchemaCatalog.Yaml

def isLineBreak (c : Char) : Bool :=
  c = '\n' || c = '\r' || c = '\u0085' || c = '\u2028' || c = '\u2029'

def isBlank (c : Char) : Bool := c = ' ' || c = '\t'

def isSpacing (c : Char) : Bool := isBlank c || isLineBreak c

def isDigit (c : Char) : Bool := '0' ≤ c && c ≤ '9'

def isNameChar (c : Char) : Bool :=
  isDigit c || ('a' ≤ c && c ≤ 'z') || ('A' ≤ c && c ≤ 'Z') || c = '_' || c = '-'

def isAllowed (c : Char) : Bool :=
  c = '\t' || c = '\n' || c = '\r' || (' ' ≤ c && c ≤ '~') || c = '\u0085' ||
    ('\u00a0' ≤ c && c.toNat ≤ 0xFFFD) || 0x10000 ≤ c.toNat

def hexValue? (c : Char) : Option Nat :=
  if isDigit c then some (c.toNat - '0'.toNat)
  else if 'a' ≤ c && c ≤ 'f' then some (c.toNat - 'a'.toNat + 10)
  else if 'A' ≤ c && c ≤ 'F' then some (c.toNat - 'A'.toNat + 10)
  else none

def hexNumber? (digits : List Char) : Option Nat :=
  digits.foldlM (fun n c => (hexValue? c).map (16 * n + ·)) 0

/-- Whether what follows starts with a blank, a line break or nothing at all. -/
def atGap : List Char → Bool
  | [] => true
  | c :: _ => isSpacing c

/-- What is left of a text, and where it starts. -/
structure Cursor where
  rest : List Char
  index : Nat
  line : Nat
  column : Nat
deriving Repr

namespace Cursor

def ofText (cs : List Char) : Cursor := ⟨cs, 0, 0, 0⟩

/-- The position after `count` characters without line breaks. -/
def advance (cursor : Cursor) (count : Nat) : Cursor :=
  { cursor with
    rest := cursor.rest.drop count
    index := cursor.index + count
    column := cursor.column + count }

def moveTo (cursor : Cursor) (rest : List Char) : Cursor :=
  cursor.advance (cursor.rest.length - rest.length)

def skipWhile (cursor : Cursor) (p : Char → Bool) : Cursor :=
  cursor.moveTo (cursor.rest.dropWhile p)

/-- A line break as text, and the position after it. Most breaks are read as a line feed. -/
def lineBreak? (cursor : Cursor) : Option (List Char × Cursor) :=
  let next (count : Nat) : Cursor :=
    ⟨cursor.rest.drop count, cursor.index + count, cursor.line + 1, 0⟩
  match cursor.rest with
  | '\r' :: '\n' :: _ => some (['\n'], next 2)
  | '\r' :: _ | '\n' :: _ | '\u0085' :: _ => some (['\n'], next 1)
  | '\u2028' :: _ => some (['\u2028'], next 1)
  | '\u2029' :: _ => some (['\u2029'], next 1)
  | _ => none

/-- Whether three times `mark` stands alone at the start of a line. -/
def atMarker (cursor : Cursor) (mark : Char) : Bool :=
  cursor.column == 0 && match cursor.rest with
    | a :: b :: c :: rest => a = mark && b = mark && c = mark && atGap rest
    | _ => false

def atDocumentMarker (cursor : Cursor) : Bool := cursor.atMarker '-' || cursor.atMarker '.'

end Cursor

end SchemaCatalog.Yaml
