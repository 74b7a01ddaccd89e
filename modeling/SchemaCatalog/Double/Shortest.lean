import SchemaCatalog.Double.Nearest

/-!
The fewest decimal digits that read back as a given number. On the grid of `n`-digit numbers
at the size of `x` only the two neighbours of `x` can be nearest to it; the first grid with
a neighbour that reads back as `x` wins, and of two such neighbours the nearer one.
-/
namespace SchemaCatalog.Double

/-- A decimal number `digits · 10 ^ exponent`. -/
structure Decimal where
  digits : Nat
  exponent : Int
deriving DecidableEq, Repr

/-- The exponent `k` with `10 ^ (k - 1) ≤ numerator / denominator < 10 ^ k`. -/
def decimalSize (numerator denominator : Nat) : Int :=
  let guess : Int := (Nat.toDigits 10 numerator).length - (Nat.toDigits 10 denominator).length
  if denominator * powerOfTen guess.toNat ≤ numerator * powerOfTen (-guess).toNat then guess + 1
  else guess

/-- The decimals of at most `count` digits next to a positive number, the nearer one first. -/
def neighbours (x : Double) (count : Nat) : List Decimal :=
  let (numerator, denominator) := x.fraction
  let exponent := decimalSize numerator denominator - count
  let top := numerator * powerOfTen (-exponent).toNat
  let bottom := denominator * powerOfTen exponent.toNat
  let below := top / bottom
  let above := below + 1
  if roundDiv top bottom = below then [⟨below, exponent⟩, ⟨above, exponent⟩]
  else [⟨above, exponent⟩, ⟨below, exponent⟩]

def readsBack (x : Double) (d : Decimal) : Bool := ofDecimal x.negative d.digits d.exponent == x

def shortestFrom (x : Double) (count : Nat) : Nat → Decimal
  | 0 => ⟨0, 0⟩
  | fuel + 1 =>
      match (neighbours x count).find? (readsBack x) with
      | some d => d
      | none => shortestFrom x (count + 1) fuel

/-- The fewest digits that read back as `x`; seventeen suffice for every finite number. -/
def shortest (x : Double) : Decimal := shortestFrom x 1 17

end SchemaCatalog.Double
