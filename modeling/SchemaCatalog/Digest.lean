/-!
The SHA-256 digest of a sequence of bytes, by the steps of its definition: the bytes are padded
to whole blocks, and each block is mixed into a state of eight words.
-/
namespace SchemaCatalog.Digest

/-- The fraction bits of the cube roots of the first primes. -/
def roundConstants : List UInt32 := [
  0x428a2f98, 0x71374491, 0xb5c0fbcf, 0xe9b5dba5, 0x3956c25b, 0x59f111f1, 0x923f82a4, 0xab1c5ed5,
  0xd807aa98, 0x12835b01, 0x243185be, 0x550c7dc3, 0x72be5d74, 0x80deb1fe, 0x9bdc06a7, 0xc19bf174,
  0xe49b69c1, 0xefbe4786, 0x0fc19dc6, 0x240ca1cc, 0x2de92c6f, 0x4a7484aa, 0x5cb0a9dc, 0x76f988da,
  0x983e5152, 0xa831c66d, 0xb00327c8, 0xbf597fc7, 0xc6e00bf3, 0xd5a79147, 0x06ca6351, 0x14292967,
  0x27b70a85, 0x2e1b2138, 0x4d2c6dfc, 0x53380d13, 0x650a7354, 0x766a0abb, 0x81c2c92e, 0x92722c85,
  0xa2bfe8a1, 0xa81a664b, 0xc24b8b70, 0xc76c51a3, 0xd192e819, 0xd6990624, 0xf40e3585, 0x106aa070,
  0x19a4c116, 0x1e376c08, 0x2748774c, 0x34b0bcb5, 0x391c0cb3, 0x4ed8aa4a, 0x5b9cca4f, 0x682e6ff3,
  0x748f82ee, 0x78a5636f, 0x84c87814, 0x8cc70208, 0x90befffa, 0xa4506ceb, 0xbef9a3f7, 0xc67178f2]

/-- Eight words that a block is mixed into. -/
structure State where
  a : UInt32
  b : UInt32
  c : UInt32
  d : UInt32
  e : UInt32
  f : UInt32
  g : UInt32
  h : UInt32
deriving DecidableEq, Repr

/-- The fraction bits of the square roots of the first primes. -/
def State.initial : State :=
  ⟨0x6a09e667, 0xbb67ae85, 0x3c6ef372, 0xa54ff53a,
    0x510e527f, 0x9b05688c, 0x1f83d9ab, 0x5be0cd19⟩

def State.words (s : State) : List UInt32 := [s.a, s.b, s.c, s.d, s.e, s.f, s.g, s.h]

def State.add (s t : State) : State :=
  ⟨s.a + t.a, s.b + t.b, s.c + t.c, s.d + t.d, s.e + t.e, s.f + t.f, s.g + t.g, s.h + t.h⟩

def rotate (word : UInt32) (count : UInt32) : UInt32 :=
  (word >>> count) ||| (word <<< (32 - count))

def choose (x y z : UInt32) : UInt32 := (x &&& y) ^^^ ((~~~x) &&& z)

def majority (x y z : UInt32) : UInt32 := (x &&& y) ^^^ (x &&& z) ^^^ (y &&& z)

/-- One round with a word of the block and its constant already added. -/
def State.round (s : State) (word : UInt32) : State :=
  let upper := s.h + (rotate s.e 6 ^^^ rotate s.e 11 ^^^ rotate s.e 25) + choose s.e s.f s.g + word
  let lower := (rotate s.a 2 ^^^ rotate s.a 13 ^^^ rotate s.a 22) + majority s.a s.b s.c
  ⟨upper + lower, s.a, s.b, s.c, s.d + upper, s.e, s.f, s.g⟩

/-- The word after those of `latest`, which are in reverse. -/
def nextWord (latest : List UInt32) : UInt32 :=
  let word (back : Nat) := latest.getD (back - 1) 0
  let small (x : UInt32) := rotate x 7 ^^^ rotate x 18 ^^^ (x >>> 3)
  let large (x : UInt32) := rotate x 17 ^^^ rotate x 19 ^^^ (x >>> 10)
  large (word 2) + word 7 + small (word 15) + word 16

def extend (latest : List UInt32) : Nat → List UInt32
  | 0 => latest
  | count + 1 => extend (nextWord latest :: latest) count

/-- The words of all rounds from the sixteen words of a block. -/
def schedule (block : List UInt32) : List UInt32 := (extend block.reverse 48).reverse

def State.mix (s : State) (block : List UInt32) : State :=
  s.add (((schedule block).zip roundConstants).foldl (fun t (word, constant) =>
    t.round (word + constant)) s)

/-- The bytes of a number, most significant first. -/
def bytesOf (count n : Nat) : List UInt8 :=
  (List.range count).reverse.map fun i => UInt8.ofNat (n >>> (8 * i) % 256)

/-- The bytes with a set bit, zeros and their number of bits, up to a whole number of blocks. -/
def pad (bytes : List UInt8) : List UInt8 :=
  bytes ++ [0x80] ++ List.replicate ((119 - bytes.length % 64) % 64) 0 ++
    bytesOf 8 (8 * bytes.length)

def wordsOf : List UInt8 → List UInt32
  | a :: b :: c :: d :: rest =>
      ((a.toUInt32 <<< 24) ||| (b.toUInt32 <<< 16) ||| (c.toUInt32 <<< 8) ||| d.toUInt32) ::
        wordsOf rest
  | _ => []

def blocks (count : Nat) (words : List UInt32) : List (List UInt32) :=
  match count with
  | 0 => []
  | count + 1 => if words.isEmpty then [] else words.take 16 :: blocks count (words.drop 16)

def sha256 (bytes : List UInt8) : List UInt8 :=
  let words := wordsOf (pad bytes)
  let final := (blocks words.length words).foldl State.mix State.initial
  final.words.flatMap fun word => bytesOf 4 word.toNat

/-- Bytes as pairs of hexadecimal digits in lower case. -/
def hexText (bytes : List UInt8) : String :=
  let digit (n : Nat) : Char := (Nat.toDigits 16 n).headD '0'
  String.ofList (bytes.flatMap fun byte => [digit (byte.toNat / 16), digit (byte.toNat % 16)])

def ofText (text : String) : String := hexText (sha256 text.toUTF8.toList)

end SchemaCatalog.Digest
