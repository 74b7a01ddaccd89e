import SchemaCatalog.Double.Basic

/-!
The number nearest to a fraction, ties to the even significand. A significand `m` at scale
`2 ^ q` has magnitude `(q + 1074) · 2 ^ 52 + m`, for normal and subnormal numbers alike, also
when rounding carries `m` to `2 ^ 53`; so one formula serves every range.
-/
namespace SchemaCatalog.Double

/-- The quotient rounded to the nearest whole number, a half to the even one. -/
def roundDiv (numerator denominator : Nat) : Nat :=
  let quotient := numerator / denominator
  let twice := 2 * (numerator % denominator)
  if twice < denominator then quotient
  else if denominator < twice then quotient + 1
  else quotient + quotient % 2

theorem roundDiv_eq_or (numerator denominator : Nat) :
    roundDiv numerator denominator = numerator / denominator ∨
      roundDiv numerator denominator = numerator / denominator + 1 := by
  have : numerator / denominator % 2 = 0 ∨ numerator / denominator % 2 = 1 := by omega
  unfold roundDiv
  grind

/-- The exponent `e` with `2 ^ e ≤ numerator / denominator < 2 ^ (e + 1)`. -/
def binaryExponent (numerator denominator : Nat) : Int :=
  let guess : Int := (numerator.log2 : Int) - denominator.log2
  if denominator <<< guess.toNat ≤ numerator <<< (-guess).toNat then guess else guess - 1

def nearestMagnitude (numerator denominator : Nat) : Nat :=
  let scale := max (-1074) (binaryExponent numerator denominator - 52)
  let significand := roundDiv (numerator <<< (-scale).toNat) (denominator <<< scale.toNat)
  min infiniteMagnitude ((scale + 1074).toNat * binadeSize + significand)

theorem nearestMagnitude_le (numerator denominator : Nat) :
    nearestMagnitude numerator denominator ≤ infiniteMagnitude := Nat.min_le_left _ _

/-- The number nearest to a fraction of the given sign; infinity if it is too large. -/
def nearest (negative : Bool) (numerator denominator : Nat) : Double :=
  if numerator = 0 then signedZero negative
  else ⟨negative, nearestMagnitude numerator denominator,
    Nat.lt_of_le_of_lt (nearestMagnitude_le numerator denominator) (by decide)⟩

def ofInt (n : Int) : Double := nearest (n < 0) n.natAbs 1

def powerOfTen (exponent : Nat) : Nat := Nat.pow 10 exponent

/-- The number nearest to `digits · 10 ^ exponent`. Exponents that no digits can bring back
into range are settled without computing the power. -/
def ofDecimal (negative : Bool) (digits : Nat) (exponent : Int) : Double :=
  let size : Int := (Nat.toDigits 10 digits).length
  if digits = 0 ∨ size + exponent < -330 then signedZero negative
  else if 320 < size + exponent then infinity negative
  else nearest negative (digits * powerOfTen exponent.toNat) (powerOfTen (-exponent).toNat)

end SchemaCatalog.Double
