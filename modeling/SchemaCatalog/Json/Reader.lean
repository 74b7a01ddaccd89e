import SchemaCatalog.Json.Basic
import SchemaCatalog.Double.Nearest

/-!
Reading JSON text. Both layers are machines that take one symbol at a time, so each is a fold:
characters are collected into tokens, and tokens into a value, with the containers that are
still open on a stack. A text with anything but one value and blanks around it is refused.
-/
namespace SchemaCatalog.Json

/-- The containers that may be open at once. -/
def nestingLimit : Nat := 127

/-- The largest and the smallest number that a token without fraction and exponent keeps whole. -/
def wholeLimit : Nat := 0xFFFFFFFFFFFFFFFF

def negativeWholeLimit : Nat := 0x8000000000000000

def isDigit (c : Char) : Bool := '0' ≤ c && c ≤ '9'

def digitValue (c : Char) : Nat := c.toNat - '0'.toNat

def ofDigits (digits : List Char) : Nat := digits.foldl (fun n c => 10 * n + digitValue c) 0

/-- The value of an exponent's digits with their sign; `none` if there are no digits. -/
def exponent? (cs : List Char) : Option Int :=
  let (negative, digits) := match cs with
    | '-' :: rest => (true, rest)
    | '+' :: rest => (false, rest)
    | rest => (false, rest)
  if digits.isEmpty || !digits.all isDigit then none
  else some (if negative then -(ofDigits digits : Int) else ofDigits digits)

/-- The value of a number token: whole if it has neither fraction nor exponent and fits, else
the nearest double. Minus zero is a double, and a number that overflows is refused. -/
def number? (token : List Char) : Option Json := do
  let (negative, cs) := match token with
    | '-' :: rest => (true, rest)
    | rest => (false, rest)
  let whole := cs.takeWhile isDigit
  if whole.isEmpty || (whole.length > 1 && whole.head? == some '0') then none
  let cs := cs.dropWhile isDigit
  let (part, cs) ← match cs with
    | '.' :: rest =>
        let part := rest.takeWhile isDigit
        if part.isEmpty then none else some (part, rest.dropWhile isDigit)
    | rest => some ([], rest)
  let power ← match cs with
    | [] => some none
    | c :: rest => if c = 'e' ∨ c = 'E' then (exponent? rest).map some else none
  let size := ofDigits whole
  let isWhole := part.isEmpty && power.isNone
  if isWhole && !negative && size ≤ wholeLimit then some (.int size)
  else if isWhole && negative && 0 < size && size ≤ negativeWholeLimit then some (.int (-size))
  else
    let value := Double.ofDecimal negative (ofDigits (whole ++ part)) (power.getD 0 - part.length)
    if value.isFinite then some (.float value) else none

inductive Token where
  | openArray
  | closeArray
  | openObject
  | closeObject
  | comma
  | colon
  | literal (value : Json)

/-- What is being read between two characters. The characters read so far are in reverse. -/
inductive Scan where
  | between
  | word (read : List Char)
  | number (read : List Char)
  | string (read : List Char)
  | escape (read : List Char)
  /-- Inside `\u`: the digits read, their value, and the high surrogate before it if any. -/
  | hex (read : List Char) (high : Option Nat) (count : Nat) (value : Nat)
  /-- After a high surrogate, before the backslash of the low one. -/
  | lowSlash (read : List Char) (high : Nat)
  | lowMark (read : List Char) (high : Nat)

namespace Scan

def isBlank (c : Char) : Bool := c = ' ' || c = '\t' || c = '\n' || c = '\r'

def isNumberChar (c : Char) : Bool :=
  isDigit c || c = '-' || c = '+' || c = '.' || c = 'e' || c = 'E'

def isLetter (c : Char) : Bool := 'a' ≤ c && c ≤ 'z'

def hexValue? (c : Char) : Option Nat :=
  if isDigit c then some (digitValue c)
  else if 'a' ≤ c && c ≤ 'f' then some (c.toNat - 'a'.toNat + 10)
  else if 'A' ≤ c && c ≤ 'F' then some (c.toNat - 'A'.toNat + 10)
  else none

def word? (read : List Char) : Option Json :=
  let word := String.ofList read.reverse
  if word = "null" then some .null
  else if word = "true" then some (.bool true)
  else if word = "false" then some (.bool false)
  else none

/-- The first character of what follows a finished token. -/
def start (c : Char) : Option (Scan × List Token) :=
  if isBlank c then some (.between, [])
  else if c = '[' then some (.between, [.openArray])
  else if c = ']' then some (.between, [.closeArray])
  else if c = '\x7b' then some (.between, [.openObject])
  else if c = '\x7d' then some (.between, [.closeObject])
  else if c = ',' then some (.between, [.comma])
  else if c = ':' then some (.between, [.colon])
  else if c = '\x22' then some (.string [], [])
  else if isDigit c || c = '-' then some (.number [c], [])
  else if isLetter c then some (.word [c], [])
  else none

/-- The token that ends where `scan` stands, if it can end there. -/
def finish : Scan → Option (List Token)
  | .between => some []
  | .word read => (word? read).map fun value => [.literal value]
  | .number read => (number? read.reverse).map fun value => [.literal value]
  | _ => none

def simpleEscape? (c : Char) : Option Char :=
  if c = '\x22' || c = '\\' || c = '/' then some c
  else if c = 'b' then some '\x08'
  else if c = 'f' then some '\x0c'
  else if c = 'n' then some '\n'
  else if c = 'r' then some '\r'
  else if c = 't' then some '\t'
  else none

/-- After the four digits of an escape: a character, or the wait for a low surrogate. -/
def unit? (read : List Char) (high : Option Nat) (unit : Nat) : Option Scan :=
  let isHigh := 0xD800 ≤ unit && unit < 0xDC00
  let isLow := 0xDC00 ≤ unit && unit < 0xE000
  match high with
  | none =>
      if isHigh then some (.lowSlash read unit)
      else if isLow then none
      else some (.string (Char.ofNat unit :: read))
  | some high =>
      if isLow then
        some (.string (Char.ofNat (0x10000 + (high - 0xD800) * 0x400 + (unit - 0xDC00)) :: read))
      else none

def step (scan : Scan) (c : Char) : Option (Scan × List Token) :=
  match scan with
  | .between => start c
  | .word read => if isLetter c then some (.word (c :: read), []) else next scan
  | .number read => if isNumberChar c then some (.number (c :: read), []) else next scan
  | .string read =>
      if c = '\x22' then some (.between, [.literal (.string (String.ofList read.reverse))])
      else if c = '\\' then some (.escape read, [])
      else if c < ' ' then none
      else some (.string (c :: read), [])
  | .escape read =>
      if c = 'u' then some (.hex read none 0 0, [])
      else (simpleEscape? c).map fun value => (.string (value :: read), [])
  | .hex read high count value => do
      let value := 16 * value + (← hexValue? c)
      if count = 3 then (unit? read high value).map fun scan => (scan, [])
      else some (.hex read high (count + 1) value, [])
  | .lowSlash read high => if c = '\\' then some (.lowMark read high, []) else none
  | .lowMark read high => if c = 'u' then some (.hex read (some high) 0 0, []) else none
where
  next (scan : Scan) : Option (Scan × List Token) := do
    let done ← finish scan
    let (scan, more) ← start c
    some (scan, done ++ more)

end Scan

def tokens? (text : String) : Option (List Token) := do
  let (scan, done) ← text.toList.foldlM (fun (scan, done) c => do
    let (scan, more) ← Scan.step scan c
    some (scan, more.reverse ++ done)) (Scan.between, [])
  let last ← scan.finish
  some (done.reverse ++ last)

/-- A container that is not closed yet, with what it holds so far in reverse. -/
inductive Frame where
  | array (done : List Json)
  | object (done : List (String × Json)) (name : String)

inductive Reading where
  | wantValue (stack : List Frame)
  /-- After an opening bracket: a value or the closing bracket. -/
  | wantFirst (stack : List Frame)
  | wantName (stack : List Frame) (done : List (String × Json)) (mayClose : Bool)
  | wantColon (stack : List Frame) (done : List (String × Json)) (name : String)
  | complete (stack : List Frame) (value : Json)

namespace Reading

def openContainer (stack : List Frame) (next : Reading) : Option Reading :=
  if stack.length < nestingLimit then some next else none

def value? (stack : List Frame) : Token → Option Reading
  | .literal value => some (.complete stack value)
  | .openArray => openContainer stack (.wantFirst stack)
  | .openObject => openContainer stack (.wantName stack [] true)
  | _ => none

def step : Reading → Token → Option Reading
  | .wantValue stack, token => value? stack token
  | .wantFirst stack, .closeArray => some (.complete stack (.array []))
  | .wantFirst stack, token => value? (.array [] :: stack) token
  | .wantName stack done mayClose, token =>
      match token with
      | .literal (.string name) => some (.wantColon stack done name)
      | .closeObject => if mayClose then some (.complete stack (.object [])) else none
      | _ => none
  | .wantColon stack done name, .colon => some (.wantValue (.object done name :: stack))
  | .wantColon .., _ => none
  | .complete (.array done :: stack) value, token =>
      match token with
      | .comma => some (.wantValue (.array (value :: done) :: stack))
      | .closeArray => some (.complete stack (.array (value :: done).reverse))
      | _ => none
  | .complete (.object done name :: stack) value, token =>
      match token with
      | .comma => some (.wantName stack ((name, value) :: done) false)
      | .closeObject => some (.complete stack (.object ((name, value) :: done).reverse))
      | _ => none
  | .complete [] _, _ => none

def finish : Reading → Option Json
  | .complete [] value => some value
  | _ => none

end Reading

def read? (text : String) : Option Json := do
  let tokens ← tokens? text
  let reading ← tokens.foldlM Reading.step (.wantValue [])
  reading.finish

end SchemaCatalog.Json
