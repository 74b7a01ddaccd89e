import SchemaCatalog.Yaml.Cursor
import SchemaCatalog.Double.Nearest

/-!
What a plain scalar means: null, a truth value, a number or its own text. Whole numbers may
have a sign and be hexadecimal, octal or binary; decimal digits after a leading zero are text.
-/
namespace SchemaCatalog.Yaml

inductive Scalar where
  | null
  | bool (value : Bool)
  | int (value : Int)
  | float (value : Double)
  | text (value : String)
deriving DecidableEq

namespace Scalar

def isNull (text : String) : Bool := ["null", "Null", "NULL", "~"].contains text

def bool? (text : String) : Option Bool :=
  if ["true", "True", "TRUE"].contains text then some true
  else if ["false", "False", "FALSE"].contains text then some false
  else none

/-- The number of digits of a base below 2 ^ 128; `none` if there are no digits or others. -/
def digits? (base : Nat) (cs : List Char) : Option Nat := do
  if cs.isEmpty then none
  let n ← cs.foldlM (fun n c => do
    let digit ← hexValue? c
    if digit < base then some (base * n + digit) else none) 0
  if n < 1 <<< 128 then some n else none

/-- The digits after the mark of a base other than ten. -/
def based? : List Char → Option Nat
  | '0' :: 'x' :: cs => digits? 16 cs
  | '0' :: 'o' :: cs => digits? 8 cs
  | '0' :: 'b' :: cs => digits? 2 cs
  | _ => none

/-- Whether a text is decimal digits with a zero before others, after a sign or none. -/
def hasLeadingZero (cs : List Char) : Bool :=
  let cs := match cs with
    | '+' :: rest | '-' :: rest => rest
    | rest => rest
  match cs with
  | '0' :: c :: rest => (c :: rest).all isDigit
  | _ => false

def int? (cs : List Char) : Option Int :=
  let decimal? (digits : List Char) : Option Nat :=
    if hasLeadingZero cs then none else digits? 10 digits
  match cs with
  | '-' :: rest =>
      let size := (based? rest).or (decimal? rest)
      match size with
      | some n => if n ≤ 1 <<< 127 then some (-n) else none
      | none => none
  | '+' :: rest => ((based? rest).or (decimal? rest)).map Int.ofNat
  | rest => ((based? rest).or (decimal? rest)).map Int.ofNat

/-- A decimal number: digits with at most one point among, before or after them, and at most
one exponent. -/
def decimal? (negative : Bool) (cs : List Char) : Option Double := do
  let whole := cs.takeWhile isDigit
  let cs := cs.dropWhile isDigit
  let (part, cs) := match cs with
    | '.' :: rest => (rest.takeWhile isDigit, rest.dropWhile isDigit)
    | rest => ([], rest)
  let value (digits : List Char) : Nat :=
    digits.foldl (fun n c => 10 * n + (c.toNat - '0'.toNat)) 0
  if whole.isEmpty && part.isEmpty then none
  let exponent : Int ← match cs with
    | [] => some 0
    | c :: rest =>
        let (sign, digits) := match rest with
          | '-' :: digits => ((-1 : Int), digits)
          | '+' :: digits => (1, digits)
          | digits => (1, digits)
        if (c = 'e' ∨ c = 'E') && !digits.isEmpty && digits.all isDigit then
          some (sign * value digits)
        else none
  some (Double.ofDecimal negative (value (whole ++ part)) (exponent - part.length))

/-- A number that is not whole. A decimal number that overflows is none. -/
def float? (cs : List Char) : Option Double :=
  let (sign, unsigned) := match cs with
    | '+' :: rest => (some false, rest)
    | '-' :: rest => (some true, rest)
    | rest => (none, rest)
  if [".inf", ".Inf", ".INF"].contains (String.ofList unsigned) then
    some (Double.infinity (sign = some true))
  else if [".nan", ".NaN", ".NAN"].contains (String.ofList cs) then some Double.nan
  else (decimal? (sign = some true) unsigned).filter (·.isFinite)

def resolve (text : String) : Scalar :=
  let cs := text.toList
  if cs.isEmpty || isNull text then .null
  else match bool? text with
    | some value => .bool value
    | none =>
        match int? cs with
        | some value => .int value
        | none =>
            if hasLeadingZero cs then .text text
            else match float? cs with
              | some value => .float value
              | none => .text text

end Scalar

end SchemaCatalog.Yaml
