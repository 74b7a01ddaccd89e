import SchemaCatalog.Yaml.Cursor

/-!
Tokens of a YAML text: the marks of its layout and the texts of its scalars, and how single
scalars, tags and directives are read.
-/
namespace SchemaCatalog.Yaml

inductive Token where
  | version (major minor : Nat)
  | tagPrefix (handle head : String)
  | documentStart
  | documentEnd
  | blockSequenceStart
  | blockMappingStart
  | blockEnd
  | flowSequenceStart
  | flowSequenceEnd
  | flowMappingStart
  | flowMappingEnd
  | flowEntry
  | blockEntry
  | key
  | value
  | alias (name : String)
  | anchor (name : String)
  | tag (handle rest : String)
  | scalar (text : String) (plain : Bool)
deriving DecidableEq, Repr

namespace Token

/-- What stands between two words of a scalar that is not a block. -/
structure Gap where
  blanks : List Char
  broken : Bool
  firstBreak : List Char
  moreBreaks : List Char

namespace Gap

def none : Gap := ⟨[], false, [], []⟩

/-- The text of a gap: blanks stay; a single line feed becomes a space, and of more than one
the first is left out. -/
def text (gap : Gap) : List Char :=
  if !gap.broken then gap.blanks
  else if gap.firstBreak = ['\n'] then
    if gap.moreBreaks.isEmpty then [' '] else gap.moreBreaks
  else gap.firstBreak ++ gap.moreBreaks

/-- Reads blanks and line breaks. After a break a tab left of `tabLimit` is refused. -/
def read? (tabLimit : Int) : Nat → Cursor → Gap → Option (Gap × Cursor)
  | 0, cursor, gap => some (gap, cursor)
  | fuel + 1, cursor, gap =>
      match cursor.lineBreak? with
      | some (text, next) =>
          if gap.broken then read? tabLimit fuel next { gap with moreBreaks := gap.moreBreaks ++ text }
          else read? tabLimit fuel next { gap with broken := true, firstBreak := text }
      | Option.none =>
          match cursor.rest with
          | c :: _ =>
              if !isBlank c then some (gap, cursor)
              else if gap.broken then
                if c = '\t' && cursor.column < tabLimit then Option.none
                else read? tabLimit fuel (cursor.advance 1) gap
              else read? tabLimit fuel (cursor.advance 1) { gap with blanks := gap.blanks ++ [c] }
          | [] => some (gap, cursor)

end Gap

def isFlowIndicator (c : Char) : Bool :=
  c = ',' || c = '[' || c = ']' || c = '\x7b' || c = '\x7d'

def plainWord? (flow : Bool) : List Char → Option (List Char × List Char)
  | [] => some ([], [])
  | c :: rest =>
      let next := rest.headD ' '
      if isSpacing c then some ([], c :: rest)
      else if flow && c = ':' && (isFlowIndicator next || next = '?') then none
      else if (c = ':' && atGap rest) || (flow && isFlowIndicator c) then some ([], c :: rest)
      else (plainWord? flow rest).map fun (word, left) => (c :: word, left)

/-- A plain scalar; also whether its last gap broke the line. -/
def plain? (flow : Bool) (indent : Int) :
    Nat → Cursor → List Char → Gap → Option (List Char × Bool × Cursor)
  | 0, _, _, _ => none
  | fuel + 1, cursor, text, gap =>
      if cursor.atDocumentMarker || cursor.rest.head? == some '#' then
        some (text, gap.broken, cursor)
      else do
        let (word, left) ← plainWord? flow cursor.rest
        let text := if word.isEmpty then text else text ++ gap.text ++ word
        let broken := word.isEmpty && gap.broken
        let cursor := cursor.moveTo left
        if left.isEmpty || !atGap left then some (text, broken, cursor)
        else
          let (gap, cursor) ← Gap.read? indent cursor.rest.length cursor .none
          if !flow && cursor.column < indent then some (text, gap.broken, cursor)
          else plain? flow indent fuel cursor text gap

def singleWord : List Char → List Char × List Char
  | [] => ([], [])
  | '\x27' :: '\x27' :: rest => let (word, left) := singleWord rest; ('\x27' :: word, left)
  | c :: rest =>
      if c = '\x27' || isSpacing c then ([], c :: rest)
      else let (word, left) := singleWord rest; (c :: word, left)

def simpleEscape? (c : Char) : Option Char :=
  match c with
  | '0' => some '\x00'
  | 'a' => some '\x07'
  | 'b' => some '\x08'
  | 't' | '\t' => some '\t'
  | 'n' => some '\n'
  | 'v' => some '\x0b'
  | 'f' => some '\x0c'
  | 'r' => some '\r'
  | 'e' => some '\x1b'
  | ' ' | '\x22' | '/' | '\\' => some c
  | 'N' => some '\u0085'
  | '_' => some '\u00a0'
  | 'L' => some '\u2028'
  | 'P' => some '\u2029'
  | _ => none

def coded? (digits : List Char) : Option Char := do
  let code ← hexNumber? digits
  if (0xD800 ≤ code && code ≤ 0xDFFF) || 0x10FFFF < code then none else some (Char.ofNat code)

/-- The characters of a double-quoted scalar up to a gap, the closing quote or an escaped line
break, and what is left. -/
def doubleWord? : List Char → Option (List Char × List Char)
  | [] => some ([], [])
  | '\\' :: 'x' :: a :: b :: rest => do
      let c ← coded? [a, b]
      (doubleWord? rest).map fun (word, left) => (c :: word, left)
  | '\\' :: 'u' :: a :: b :: c :: d :: rest => do
      let c ← coded? [a, b, c, d]
      (doubleWord? rest).map fun (word, left) => (c :: word, left)
  | '\\' :: 'U' :: a :: b :: c :: d :: e :: f :: g :: h :: rest => do
      let c ← coded? [a, b, c, d, e, f, g, h]
      (doubleWord? rest).map fun (word, left) => (c :: word, left)
  | '\\' :: c :: rest =>
      if isLineBreak c then some ([], '\\' :: c :: rest)
      else do
        let c ← simpleEscape? c
        (doubleWord? rest).map fun (word, left) => (c :: word, left)
  | c :: rest =>
      if c = '\x22' || isSpacing c then some ([], c :: rest)
      else (doubleWord? rest).map fun (word, left) => (c :: word, left)

/-- A quoted scalar after its opening quote, up to and with the closing one. -/
def quoted? (single : Bool) : Nat → Cursor → List Char → Option (List Char × Cursor)
  | 0, _, _ => none
  | fuel + 1, cursor, text => do
      if cursor.atDocumentMarker then none
      let (word, left) ← if single then some (singleWord cursor.rest) else doubleWord? cursor.rest
      let text := text ++ word
      let cursor := cursor.moveTo left
      let gap (cursor : Cursor) (gap : Gap) := Gap.read? 0 cursor.rest.length cursor gap
      match left with
      | [] => none
      | c :: _ =>
          if c = '\\' then
            let (_, cursor) ← (cursor.advance 1).lineBreak?
            let (gap, cursor) ← gap cursor ⟨[], true, [], []⟩
            quoted? single fuel cursor (text ++ gap.text)
          else if isSpacing c then
            let (gap, cursor) ← gap cursor .none
            quoted? single fuel cursor (text ++ gap.text)
          else some (text, cursor.advance 1)

/-- Line breaks before a line of a block scalar, with the widest indentation among them. An
indentation of zero is one that is not known yet. -/
def blockBreaks? (indent : Nat) :
    Nat → Cursor → Nat → List Char → Option (Nat × List Char × Cursor)
  | 0, cursor, widest, breaks => some (widest, breaks, cursor)
  | fuel + 1, cursor, widest, breaks =>
      let spaces := (cursor.rest.takeWhile (· == ' ')).length
      let cursor := cursor.advance (if indent = 0 then spaces else min spaces (indent - cursor.column))
      let widest := max widest cursor.column
      if (indent = 0 || cursor.column < indent) && cursor.rest.head? == some '\t' then none
      else match cursor.lineBreak? with
        | some (text, next) => blockBreaks? indent fuel next widest (breaks ++ text)
        | none => some (widest, breaks, cursor)

inductive Chomping where
  | strip
  | clip
  | keep
deriving DecidableEq, Repr

def blockLines? (folded : Bool) (chomping : Chomping) (indent : Nat) :
    Nat → Cursor → List Char → (lineBreak breaks : List Char) → (afterBlank : Bool) →
      Option (List Char × Cursor)
  | 0, _, _, _, _, _ => none
  | fuel + 1, cursor, text, lineBreak, breaks, afterBlank =>
      if cursor.rest.isEmpty || cursor.column != indent then
        let tail := match chomping with
          | .strip => []
          | .clip => lineBreak
          | .keep => lineBreak ++ breaks
        some (text ++ tail, cursor)
      else do
        let startsBlank := (cursor.rest.head?.map isBlank).getD false
        let joint :=
          if folded && lineBreak = ['\n'] && !afterBlank && !startsBlank then
            if breaks.isEmpty then [' '] else breaks
          else lineBreak ++ breaks
        let line := cursor.rest.takeWhile fun c => !isLineBreak c
        let cursor := cursor.advance line.length
        let (lineBreak, cursor) := cursor.lineBreak?.getD ([], cursor)
        let (_, breaks, cursor) ← blockBreaks? indent (cursor.rest.length + 1) cursor 0 []
        blockLines? folded chomping indent fuel cursor (text ++ joint ++ line) lineBreak breaks
          startsBlank

def chomping? : Char → Option Chomping
  | '+' => some .keep
  | '-' => some .strip
  | _ => none

/-- The chomping and the indentation in the head of a block scalar, in either order. -/
def blockHead? (cs : List Char) : Option (Chomping × Nat × List Char) :=
  let digit? (cs : List Char) : Option (Nat × List Char) := match cs with
    | c :: rest =>
        if !isDigit c then some (0, cs)
        else if c = '0' then none
        else some (c.toNat - '0'.toNat, rest)
    | [] => some (0, cs)
  match cs with
  | [] => some (.clip, 0, [])
  | c :: rest =>
      match chomping? c with
      | some chomping => (digit? rest).map fun (digit, rest) => (chomping, digit, rest)
      | none => do
          let (digit, rest) ← digit? cs
          match rest with
          | c :: more =>
              match if digit = 0 then none else chomping? c with
              | some chomping => some (chomping, digit, more)
              | none => some (.clip, digit, rest)
          | [] => some (.clip, digit, [])

/-- The end of a line that holds nothing more than blanks and a comment. -/
def lineEnd? (cursor : Cursor) : Option Cursor :=
  let cursor := cursor.skipWhile isBlank
  let cursor := if cursor.rest.head? == some '#'
    then cursor.skipWhile fun c => !isLineBreak c else cursor
  match cursor.lineBreak? with
  | some (_, cursor) => some cursor
  | none => if cursor.rest.isEmpty then some cursor else none

/-- A block scalar after its indicator, inside a block of the given indentation. -/
def block? (folded : Bool) (parent : Int) (cursor : Cursor) : Option (List Char × Cursor) := do
  let (chomping, digit, left) ← blockHead? cursor.rest
  let cursor ← lineEnd? (cursor.moveTo left)
  let fuel := cursor.rest.length + 1
  let indent := if digit = 0 then 0 else (max parent 0).toNat + digit
  let (widest, breaks, cursor) ← blockBreaks? indent fuel cursor 0 []
  let indent := if indent = 0 then max widest (max (parent + 1).toNat 1) else indent
  blockLines? folded chomping indent fuel cursor [] [] breaks false

def isUriChar (brackets : Bool) (c : Char) : Bool :=
  isNameChar c || ";/?:@&=+$.!~*'()%".contains c || (brackets && ",[]".contains c)

/-- The bytes of escaped octets, and the other characters as they are in UTF-8. -/
def uriBytes? : List Char → Option (List UInt8)
  | [] => some []
  | '%' :: a :: b :: rest => do
      let byte ← hexNumber? [a, b]
      (uriBytes? rest).map (UInt8.ofNat byte :: ·)
  | c :: rest =>
      if c = '%' then none else (uriBytes? rest).map (c.toString.toUTF8.toList ++ ·)

def uri? (brackets : Bool) (cs : List Char) : Option (String × List Char) := do
  let bytes ← uriBytes? (cs.takeWhile (isUriChar brackets))
  let text ← String.fromUTF8? ⟨bytes.toArray⟩
  some (text, cs.dropWhile (isUriChar brackets))

/-- A handle: an exclamation mark, or a name between two. The flag says whether it is closed. -/
def handle? : List Char → Option (String × Bool × List Char)
  | '!' :: cs =>
      let name := cs.takeWhile isNameChar
      match cs.dropWhile isNameChar with
      | '!' :: rest => some ("!" ++ String.ofList name ++ "!", true, rest)
      | rest => some ("!" ++ String.ofList name, false, rest)
  | _ => none

/-- A tag: verbatim between angle brackets, or a handle and what follows it. -/
def tag? (flow : Bool) (cs : List Char) : Option (Token × List Char) := do
  let (token, rest) ← match cs with
    | '!' :: '<' :: cs => do
        let (text, rest) ← uri? true cs
        match rest with
        | '>' :: rest => if text.isEmpty then none else some (Token.tag "" text, rest)
        | _ => none
    | _ => do
        let (handle, closed, rest) ← handle? cs
        let (text, rest) ← uri? false rest
        if closed then
          if text.isEmpty then none else some (Token.tag handle text, rest)
        else
          let text := String.ofList (handle.toList.drop 1) ++ text
          some (if text.isEmpty then Token.tag "" "!" else Token.tag "!" text, rest)
  if atGap rest || (flow && rest.head? == some ',') then some (token, rest) else none

def name? (cs : List Char) : Option (String × List Char) :=
  let name := cs.takeWhile isNameChar
  let rest := cs.dropWhile isNameChar
  let ends := atGap rest || (rest.head?.map fun c => "?:,]\x7d%@`".contains c).getD false
  if name.isEmpty || !ends then none else some (String.ofList name, rest)

def number? (cs : List Char) : Option (Nat × List Char) :=
  let digits := cs.takeWhile isDigit
  if digits.isEmpty || 9 < digits.length then none
  else some (digits.foldl (fun n c => 10 * n + (c.toNat - '0'.toNat)) 0, cs.dropWhile isDigit)

/-- A directive after its percent sign. Only versions and tag prefixes are known. -/
def directive? (cs : List Char) : Option (Token × List Char) := do
  let name := String.ofList (cs.takeWhile isNameChar)
  let rest := cs.dropWhile isNameChar
  let skip (cs : List Char) := cs.dropWhile isBlank
  if !atGap rest then none
  if name = "YAML" then do
    let (major, rest) ← number? (skip rest)
    match rest with
    | '.' :: rest => do
        let (minor, rest) ← number? rest
        some (.version major minor, rest)
    | _ => none
  else if name = "TAG" then do
    let (handle, closed, rest) ← handle? (skip rest)
    if !(closed || handle = "!") then none
    if !(rest.head?.map isBlank).getD false then none
    let (head, rest) ← uri? true (skip rest)
    if head.isEmpty || !atGap rest then none
    some (.tagPrefix handle head, rest)
  else none

end Token

end SchemaCatalog.Yaml
