import SchemaCatalog.Double.Shortest

/-!
How a number is written: the shortest digits, positional from `0.00001` up to below `10 ^ 16`
and with an exponent outside, always with a fraction part when positional.
-/
namespace SchemaCatalog.Double

/-- The decisions of a number format that the formats of this library do not share. -/
structure Spelling where
  /-- The sign written before an exponent that is not negative. -/
  exponentSign : String
  nan : String
  infinity : String
deriving DecidableEq, Repr

def Decimal.text (spelling : Spelling) (d : Decimal) : String :=
  let digits := Nat.toDigits 10 d.digits
  let trailing := (digits.reverse.takeWhile (· == '0')).length
  let digits := digits.take (digits.length - trailing)
  let point : Int := d.exponent + trailing + digits.length
  if -5 < point ∧ point ≤ 0 then
    "0." ++ String.ofList (List.replicate (-point).toNat '0' ++ digits)
  else if 0 < point ∧ point ≤ 16 then
    let whole := digits.take point.toNat ++ List.replicate (point.toNat - digits.length) '0'
    let part := digits.drop point.toNat
    String.ofList whole ++ "." ++ (if part.isEmpty then "0" else String.ofList part)
  else
    let lead := String.ofList (digits.take 1)
    let part := digits.drop 1
    let exponent := point - 1
    (if part.isEmpty then lead else lead ++ "." ++ String.ofList part) ++ "e" ++
      (if exponent < 0 then "-" else spelling.exponentSign) ++ toString exponent.natAbs

def text (spelling : Spelling) (x : Double) : String :=
  let unsigned :=
    if x.isNaN then spelling.nan
    else if !x.isFinite then spelling.infinity
    else if x.magnitude = 0 then "0.0"
    else (shortest x).text spelling
  if x.negative && !x.isNaN then "-" ++ unsigned else unsigned

/-- The spelling of JSON text, which has no numbers that are not finite. -/
def jsonSpelling : Spelling := ⟨"+", "nan", "inf"⟩

def yamlSpelling : Spelling := ⟨"", ".nan", ".inf"⟩

end SchemaCatalog.Double
