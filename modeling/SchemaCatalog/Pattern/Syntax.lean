import SchemaCatalog.Pattern.Property
import SchemaCatalog.Text.CharClass

/-!
The syntax of patterns: regular expressions without look-around and back-references. A pattern
is read from left to right into its size; it is none if it cannot be read. The flags that matter
for this are whether blanks and comments are passed over, and whether characters or bytes are
matched: a byte class may not hold or exclude anything outside of ASCII.
-/
namespace SchemaCatalog.Pattern

open Text (isWhiteSpace)

/-- How large a part of a pattern is: how deep parts are inside one another, about how many
states a matcher of it has, and whether it takes up characters. -/
structure Size where
  depth : Nat
  states : Nat
  consumes : Bool
deriving DecidableEq, Repr

namespace Size

def empty : Size := ⟨0, 1, false⟩

def look : Size := ⟨0, 1, false⟩

def ofChar (c : Char) : Size := ⟨0, c.utf8Size, true⟩

/-- A class whose size is not worked out from its members. -/
def ofClass (states : Nat) : Size := ⟨0, states, true⟩

def nest (size : Size) (states : Nat) : Size :=
  { size with depth := size.depth + 1, states := size.states + states }

def combine (a b : Size) : Size :=
  ⟨max a.depth b.depth, a.states + b.states, a.consumes || b.consumes⟩

/-- Parts after or beside one another; a single part stands for itself. -/
def join : List Size → Size
  | [] => empty
  | [size] => size
  | sizes => (sizes.foldl combine ⟨0, 0, false⟩).nest 1

/-- A part repeated from `least` to `most` times. What takes up no character is matched once. -/
def repeated (size : Size) (least : Nat) (most : Option Nat) : Size :=
  let copies := if size.consumes then most.getD (max least 1) else 1
  ⟨size.depth + 1, copies * size.states + 1, size.consumes && most != some 0⟩

end Size

structure Source where
  rest : List Char
  /-- Whether blanks and comments are passed over. -/
  spaced : Bool
  /-- Whether characters are matched, not bytes. -/
  unicode : Bool
  names : List String

abbrev Reader := StateT Source Option

/-- What is left after blanks and comments; the flag says whether a comment has begun. -/
def dropGap : (comment : Bool) → List Char → List Char
  | _, [] => []
  | true, c :: rest => dropGap (c != '\n') rest
  | false, c :: rest =>
      if isWhiteSpace c then dropGap false rest
      else if c = '#' then dropGap true rest
      else c :: rest

namespace Reader

def peek : Reader (Option Char) := do return (← get).rest.head?

def next : Reader Char := do
  match (← get).rest with
  | c :: rest => do
      modify fun source => { source with rest }
      return c
  | [] => failure

def skipGap : Reader Unit :=
  modify fun source => if source.spaced then { source with rest := dropGap false source.rest } else source

/-- The next character; the gap after it is passed over. -/
def nextAndGap : Reader Char := do
  let c ← next
  skipGap
  return c

def accept (text : String) : Reader Bool := do
  let source ← get
  if text.toList.isPrefixOf source.rest then
    set { source with rest := source.rest.drop text.length }
    return true
  else return false

def expect (text : String) : Reader Unit := do
  if !(← accept text) then failure

def startsWith (text : String) : Reader Bool := do
  return text.toList.isPrefixOf (← get).rest

/-- Takes characters as long as they fulfil a predicate, with the gaps between them. -/
def collect (p : Char → Bool) : Nat → Reader (List Char)
  | 0 => return []
  | fuel + 1 => do
      match ← peek with
      | some c =>
          if p c then do
            let _ ← nextAndGap
            return c :: (← collect p fuel)
          else return []
      | none => return []

def collectAll (p : Char → Bool) : Reader (List Char) := do collect p (← get).rest.length

/-- What is allowed only when characters are matched. -/
def needUnicode : Reader Unit := do
  if !(← get).unicode then failure

end Reader

open Reader

def isDigit (c : Char) : Bool := '0' ≤ c && c ≤ '9'

def isHexDigit (c : Char) : Bool :=
  isDigit c || ('a' ≤ c && c ≤ 'f') || ('A' ≤ c && c ≤ 'F')

def hexValue (c : Char) : Nat :=
  if isDigit c then c.toNat - '0'.toNat
  else if 'a' ≤ c then c.toNat - 'a'.toNat + 10
  else c.toNat - 'A'.toNat + 10

def charOfHex (digits : List Char) : Reader Char := do
  let code := digits.foldl (fun n c => 16 * n + hexValue c) 0
  if (0xD800 ≤ code && code ≤ 0xDFFF) || 0x10FFFF < code then failure
  else return Char.ofNat code

/-- A number below 2 ^ 32, with blanks around it. -/
def readDecimal : Reader Nat := do
  let _ ← collectAll isWhiteSpace
  let digits ← collectAll isDigit
  let _ ← collectAll isWhiteSpace
  let n := digits.foldl (fun n c => 10 * n + (c.toNat - '0'.toNat)) 0
  if digits.isEmpty || 0x100000000 ≤ n then failure
  return n

def readCounts : Reader (Nat × Option Nat) := do
  let _ ← nextAndGap
  let least ← readDecimal
  let most ←
    if (← peek) == some ',' then do
      let _ ← nextAndGap
      if (← peek) == some '}' then pure none else pure (some (← readDecimal))
    else pure (some least)
  expect "\x7d"
  skipGap
  match most with
  | some most => if most < least then failure else return (least, some most)
  | none => return (least, none)

/-- What an escape stands for, or a character does that is not escaped. -/
inductive Primitive where
  /-- A character; the flag says whether it is given as the code of a byte. -/
  | literal (c : Char) (byte : Bool)
  | charClass (size : Size)
  | look
deriving DecidableEq, Repr

/-- The signs that have a meaning somewhere in a pattern. -/
def isMeta (c : Char) : Bool := "\\.+*?()|[]\x7b\x7d^$#&-~".contains c

/-- Whether a backslash before a character leaves it as it is. -/
def isEscapable (c : Char) : Bool :=
  isMeta c || (c.toNat < 0x80 && !c.isAlphanum && c != '<' && c != '>')

def exactly (p : Char → Bool) : Nat → Reader (List Char)
  | 0 => return []
  | count + 1 => do
      let c ← nextAndGap
      if p c then return c :: (← exactly p count) else failure

/-- A character by its code: so many digits, or any number of them in braces. -/
def readHex (digits : Nat) : Reader Primitive := do
  if (← peek) == some '\x7b' then
    let _ ← nextAndGap
    let digits ← collectAll isHexDigit
    expect "\x7d"
    skipGap
    if digits.isEmpty then failure
    return .literal (← charOfHex digits) false
  else return .literal (← charOfHex (← exactly isHexDigit digits)) (digits == 2)

/-- A class of characters by one of their properties. -/
def readProperty : Reader Primitive := do
  let name ←
    if (← peek) == some '\x7b' then do
      let _ ← nextAndGap
      let name ← collectAll (· != '\x7d')
      expect "\x7d"
      pure name
    else do
      let c ← nextAndGap
      pure [c]
  needUnicode
  let known := if name.length == 1 then Property.isKnown (String.ofList name)
    else Property.isKnownText (String.ofList name)
  if known then return .charClass (.ofClass 1000) else failure

/-- A word boundary, which may say in braces which side of a word it is. -/
def readBoundary : Reader Primitive := do
  let source ← get
  if source.rest.head? != some '\x7b' then return .look
  let _ ← nextAndGap
  let isNameChar (c : Char) : Bool := c.isAlpha || c = '-'
  match ← peek with
  | none => failure
  | some c =>
      if !isNameChar c then
        set source
        return .look
      else do
        let name ← collectAll isNameChar
        expect "\x7d"
        if ["start", "end", "start-half", "end-half"].contains (String.ofList name) then
          return .look
        else failure

/-- A class with a letter of its own. A capital letter excludes it, also bytes outside of ASCII. -/
def readLetterClass (c : Char) (states : Nat) : Reader Primitive := do
  if c.isUpper then needUnicode
  return .charClass (.ofClass (if (← get).unicode then states else 1))

def readEscape : Reader Primitive := do
  let c ← next
  match c with
  | 'x' => do
      skipGap
      readHex 2
  | 'u' => do
      skipGap
      readHex 4
  | 'U' => do
      skipGap
      readHex 8
  | 'p' | 'P' => do
      skipGap
      readProperty
  | 'd' | 'D' => readLetterClass c 250
  | 's' | 'S' => readLetterClass c 20
  | 'w' | 'W' => readLetterClass c 1600
  | 'a' => return .literal '\x07' false
  | 'f' => return .literal '\x0c' false
  | 't' => return .literal '\t' false
  | 'n' => return .literal '\n' false
  | 'r' => return .literal '\r' false
  | 'v' => return .literal '\x0b' false
  | 'A' | 'z' | 'B' | '<' | '>' => return .look
  | 'b' => readBoundary
  | c => if isEscapable c then return .literal c false else failure

def asciiClassNames : List String := ["alnum", "alpha", "ascii", "blank", "cntrl", "digit", "graph",
  "lower", "print", "punct", "space", "upper", "word", "xdigit"]

/-- An ASCII class by its name between colons; nothing is taken if there is none. -/
def readAsciiClass : Reader Bool := do
  let source ← get
  if ← accept "[:" then
    let negated ← accept "^"
    let rest := (← get).rest
    let name := rest.takeWhile (· != ':')
    modify fun source => { source with rest := rest.drop name.length }
    if (← accept ":]") && asciiClassNames.contains (String.ofList name) then
      if negated then needUnicode
      return true
    else
      set source
      return false
  else return false

/-- A member of a set: a character, or what a backslash stands for. -/
def readMember : Reader Primitive := do
  match ← next with
  | '\\' => readEscape
  | c => return .literal c false

def rangeEnd : Primitive → Reader Char
  | .literal c _ => do
      if (← get).unicode || c.toNat < 0x80 then return c else failure
  | _ => failure

/-- The character after a hyphen and the gap behind it. A comment is passed over only as far as
its sign. -/
def afterHyphen (spaced : Bool) (rest : List Char) : Option Char :=
  if !spaced then rest.head?
  else match rest.dropWhile isWhiteSpace with
    | '#' :: more => (more.dropWhile isWhiteSpace).head?
    | more => more.head?

def readRange : Reader Size := do
  let first ← readMember
  skipGap
  let source ← get
  let after := afterHyphen source.spaced (source.rest.drop 1)
  match source.rest.head? with
  | none => failure
  | some c =>
      if c != '-' || after == some ']' || after == some '-' then
        match first with
        | .literal .. => do return .ofChar (← rangeEnd first)
        | .charClass size => return size
        | .look => failure
      else do
        let _ ← nextAndGap
        let last ← readMember
        let low ← rangeEnd first
        let high ← rangeEnd last
        if high < low then failure else return .ofClass 10

/-- The hyphens at the start of a set, and a bracket that stands before all other members. -/
def readLeading : Nat → (anyBefore : Bool) → Reader (List Size)
  | 0, _ => return []
  | fuel + 1, anyBefore => do
      match ← peek with
      | some '-' => do
          let _ ← nextAndGap
          return .ofChar '-' :: (← readLeading fuel true)
      | some ']' =>
          if anyBefore then return []
          else do
            let _ ← nextAndGap
            return [.ofChar ']']
      | some _ => return []
      | none => failure

mutual

def readSet : Nat → Reader Size
  | 0 => failure
  | fuel + 1 => do
      skipGap
      let negated ← accept "^"
      skipGap
      if negated then needUnicode
      let leading ← readLeading fuel false
      return (← readMembers fuel none leading.reverse).nest 1

/-- The members of a set. The sizes are those of the operands of set operations so far, if there
are any, and of the members of the current one, last first. -/
def readMembers : Nat → Option Size → List Size → Reader Size
  | 0, _, _ => failure
  | fuel + 1, operands, members => do
      let union := Size.join members
      let operand := match operands with
        | some operands => (operands.combine union).nest 0
        | none => union
      skipGap
      match ← peek with
      | none => failure
      | some '[' =>
          if ← readAsciiClass then readMembers fuel operands (.ofClass 10 :: members)
          else do
            let _ ← next
            let set ← readSet fuel
            readMembers fuel operands (set :: members)
      | some ']' => do
          let _ ← next
          return operand
      | some _ =>
          if (← accept "&&") || (← accept "--") || (← accept "~~") then
            readMembers fuel (some operand) []
          else do
            let member ← readRange
            readMembers fuel operands (member :: members)

end

def readFlags : Nat → List Char → Reader (List Char)
  | 0, _ => failure
  | fuel + 1, flags => do
      match ← peek with
      | none => failure
      | some c =>
          if c = ':' || c = ')' then
            if flags.head? == some '-' then failure else return flags.reverse
          else if "-imsUuRx".contains c && !flags.contains c then do
            let _ ← next
            readFlags fuel (c :: flags)
          else failure

/-- What flags say about one of them: on before a minus sign, off after it. -/
def flagState? (flags : List Char) (flag : Char) : Option Bool :=
  if !flags.contains flag then none
  else some (!(flags.takeWhile (· != flag)).contains '-')

def setFlags (flags : List Char) : Reader Unit :=
  modify fun source => { source with
    spaced := (flagState? flags 'x').getD source.spaced
    unicode := (flagState? flags 'u').getD source.unicode }

/-- The name of a group, up to and with the bracket after it. No two groups have one name. -/
def readName : Reader Unit := do
  let source ← get
  let name := source.rest.takeWhile (· != '>')
  let isLater (c : Char) : Bool :=
    c = '_' || c = '.' || c = '[' || c = ']' || Text.isAlphanumeric c
  match name with
  | [] => failure
  | first :: later =>
      let text := String.ofList name
      if !(first = '_' || Text.isAlphabetic first) || !later.all isLater ||
          source.names.contains text then failure
      set { source with rest := source.rest.drop name.length, names := text :: source.names }
      expect ">"

/-- A part of a pattern, or flags that hold for what follows them. -/
inductive Piece where
  | flags
  | part (size : Size)

def Piece.size : Piece → Size
  | .flags => .empty
  | .part size => size

def joined (pieces : List Piece) : Size := Size.join (pieces.map Piece.size)

/-- The last piece repeated. There must be one, and it must not be flags. -/
def repeatLast (least : Nat) (most : Option Nat) : List Piece → Reader (List Piece)
  | .part size :: pieces => do
      let _ ← accept "?"
      return .part (size.repeated least most) :: pieces
  | _ => failure

inductive Opening where
  | capture
  | flags (flags : List Char)
  | group (flags : List Char)

def readOpening : Reader Opening := do
  skipGap
  for look in ["?=", "?!", "?<=", "?<!"] do
    if ← startsWith look then failure
  if (← accept "?P<") || (← accept "?<") then
    readName
    return .capture
  else if ← accept "?" then
    let flags ← readFlags ((← get).rest.length + 1) []
    if (← next) == ':' then return .group flags
    else if flags.isEmpty then failure
    else return .flags flags
  else return .capture

mutual

/-- Pieces one after another, up to a bar, a closing bracket or the end; `done` are those
before, last first. -/
def readPieces : Nat → (done : List Piece) → Reader (List Piece)
  | 0, _ => failure
  | fuel + 1, done => do
      skipGap
      match ← peek with
      | none | some ')' | some '|' => return done
      | some '(' => do
          let _ ← next
          let piece ← readGroup fuel
          readPieces fuel (piece :: done)
      | some '[' => do
          let _ ← next
          let set ← readSet fuel
          readPieces fuel (.part set :: done)
      | some '?' => do
          let _ ← next
          readPieces fuel (← repeatLast 0 (some 1) done)
      | some '*' => do
          let _ ← next
          readPieces fuel (← repeatLast 0 none done)
      | some '+' => do
          let _ ← next
          readPieces fuel (← repeatLast 1 none done)
      | some '\x7b' => do
          let (least, most) ← readCounts
          readPieces fuel (← repeatLast least most done)
      | some _ => do
          let size ← readSingle
          readPieces fuel (.part size :: done)

def readSingle : Reader Size := do
  match ← next with
  | '^' | '$' => return .look
  | '.' => do
      needUnicode
      return .ofClass 20
  | '\\' => do
      match ← readEscape with
      | .literal c byte => do
          if byte && 0x80 ≤ c.toNat then needUnicode
          return .ofChar c
      | .charClass size => return size
      | .look => return .look
  | c => return .ofChar c

/-- A group after its opening bracket, up to and with the closing one. The flags that are set
in it end with it. -/
def readGroup : Nat → Reader Piece
  | 0 => failure
  | fuel + 1 => do
      let outer ← get
      let body (states : Nat) : Reader Piece := do
        let size ← readChoices fuel
        expect ")"
        modify fun source => { source with spaced := outer.spaced, unicode := outer.unicode }
        return .part (size.nest states)
      match ← readOpening with
      | .flags flags => do
          setFlags flags
          return .flags
      | .group flags => do
          setFlags flags
          body 0
      | .capture => body 2

def readChoices : Nat → Reader Size
  | 0 => failure
  | fuel + 1 => do
      let first := joined (← readPieces fuel [])
      if ← accept "|" then
        let others ← readOtherChoices fuel
        return Size.join (first :: others)
      else return first

def readOtherChoices : Nat → Reader (List Size)
  | 0 => failure
  | fuel + 1 => do
      let first := joined (← readPieces fuel [])
      if ← accept "|" then return first :: (← readOtherChoices fuel)
      else return [first]

end

def size? (text : String) : Option Size := do
  let cs := text.toList
  let (size, source) ← (readChoices (4 * cs.length + 8)).run ⟨cs, false, true, []⟩
  if source.rest.isEmpty then some size else none

end SchemaCatalog.Pattern
