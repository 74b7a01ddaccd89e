/-!
Characters of a YAML file: in UTF-16 if the file starts with the mark of one of its two byte
orders, else in UTF-8.
-/
namespace SchemaCatalog.Yaml

/-- Pairs of bytes as numbers; `none` if a byte is left over. -/
def units? (littleEndian : Bool) : List UInt8 → Option (List Nat)
  | [] => some []
  | [_] => none
  | a :: b :: rest => do
      let unit := if littleEndian then 256 * b.toNat + a.toNat else 256 * a.toNat + b.toNat
      (units? littleEndian rest).map (unit :: ·)

def isHighUnit (unit : Nat) : Bool := 0xD800 ≤ unit && unit ≤ 0xDBFF

def isLowUnit (unit : Nat) : Bool := 0xDC00 ≤ unit && unit ≤ 0xDFFF

/-- The characters of UTF-16 units, of which those for larger codes come in pairs. -/
def charsOfUnits? : List Nat → Option (List Char)
  | [] => some []
  | [unit] => if isHighUnit unit || isLowUnit unit then none else some [Char.ofNat unit]
  | unit :: next :: rest =>
      if isHighUnit unit then
        if isLowUnit next then
          (charsOfUnits? rest).map
            (Char.ofNat (0x10000 + (unit - 0xD800) * 0x400 + (next - 0xDC00)) :: ·)
        else none
      else if isLowUnit unit then none
      else (charsOfUnits? (next :: rest)).map (Char.ofNat unit :: ·)

def decode? (bytes : ByteArray) : Option String :=
  let wide (littleEndian : Bool) (rest : List UInt8) : Option String := do
    return String.ofList (← charsOfUnits? (← units? littleEndian rest))
  match bytes.toList with
  | 0xFF :: 0xFE :: rest => wide true rest
  | 0xFE :: 0xFF :: rest => wide false rest
  | _ => String.fromUTF8? bytes

end SchemaCatalog.Yaml
