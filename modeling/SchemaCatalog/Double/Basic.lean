/-!
Binary floating-point numbers of 64 bits, held as a sign and the 63 bits below it. Read as
a number, those bits grow with the absolute value: all 63 bits of a finite number lie below
those of infinity, and all above infinity are not numbers. So the order of numbers is the
order of signed magnitudes, and rounding is a matter of natural numbers only.
-/
namespace SchemaCatalog

structure Double where
  negative : Bool
  magnitude : Nat
  magnitude_lt : magnitude < 0x8000000000000000
deriving DecidableEq

namespace Double

/-- How many significands share an exponent: `2 ^ 52`. -/
def binadeSize : Nat := 0x10000000000000

/-- The magnitude of infinity: all exponent bits set, all fraction bits clear. -/
def infiniteMagnitude : Nat := 2047 * binadeSize

/-- Zero, of which there is one with either sign. -/
def signedZero (negative : Bool) : Double := ⟨negative, 0, by decide⟩

def zero : Double := signedZero false

def infinity (negative : Bool) : Double := ⟨negative, infiniteMagnitude, by decide⟩

def nan : Double := ⟨false, infiniteMagnitude + binadeSize / 2, by decide⟩

instance : Inhabited Double := ⟨zero⟩

def isNaN (x : Double) : Bool := infiniteMagnitude < x.magnitude

def isFinite (x : Double) : Bool := x.magnitude < infiniteMagnitude

/-- The magnitude with its sign; both zeros have key zero. -/
def key (x : Double) : Int := if x.negative then -x.magnitude else x.magnitude

/-- Equality of numbers: the two zeros are equal, and what is not a number equals nothing. -/
def same (x y : Double) : Bool := !x.isNaN && !y.isNaN && x.key == y.key

def less (x y : Double) : Bool := !x.isNaN && !y.isNaN && x.key < y.key

/-- The whole significand of a finite number, whose value is `significand · 2 ^ scale`. -/
def significand (x : Double) : Nat :=
  if x.magnitude < binadeSize then x.magnitude else binadeSize + x.magnitude % binadeSize

def scale (x : Double) : Int :=
  if x.magnitude < binadeSize then -1074 else (x.magnitude / binadeSize : Nat) - 1075

def fraction (x : Double) : Nat × Nat :=
  (x.significand <<< x.scale.toNat, 1 <<< (-x.scale).toNat)

def toInt? (x : Double) : Option Int :=
  let (numerator, denominator) := x.fraction
  if x.isFinite && numerator % denominator == 0 then
    let size : Int := (numerator / denominator : Nat)
    some (if x.negative then -size else size)
  else none

/-- The whole number of 64 signed bits that a number is, if it is one. -/
def toInt64? (x : Double) : Option Int64 :=
  match x.toInt? with
  | some n => if Int64.minValue.toInt ≤ n ∧ n ≤ Int64.maxValue.toInt then some (Int64.ofInt n) else none
  | none => none

end Double

end SchemaCatalog
