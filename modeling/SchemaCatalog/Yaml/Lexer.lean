import SchemaCatalog.Yaml.Token

/-!
Tokens of a whole YAML text. Blocks open and close with their indentation, and a scalar turns
out to be a key only when the colon after it is met: then the tokens that open the key, and
the mapping around it if it is the first one, are put in before the scalar.
-/
namespace SchemaCatalog.Yaml

/-- A place where a key may have started, before the token with the given number. -/
structure KeyStart where
  possible : Bool
  required : Bool
  token : Nat
  index : Nat
  line : Nat
  column : Nat

def KeyStart.none : KeyStart := ⟨false, false, 0, 0, 0, 0⟩

/-- What has been read so far. There is one possible key for the block layout and one for each
flow collection that is open, innermost first. -/
structure Lexer where
  cursor : Cursor
  indent : Int
  outerIndents : List Int
  keyAllowed : Bool
  keys : List KeyStart
  tokens : Array Token

namespace Lexer

def start (cs : List Char) : Lexer := ⟨.ofText cs, -1, [], true, [.none], #[]⟩

def inFlow (lexer : Lexer) : Bool := 1 < lexer.keys.length

def push (lexer : Lexer) (token : Token) : Lexer :=
  { lexer with tokens := lexer.tokens.push token }

def insertAt (lexer : Lexer) (place : Nat) (token : Token) : Lexer :=
  { lexer with tokens := lexer.tokens.insertIdxIfInBounds place token }

def allowKey (lexer : Lexer) (allowed : Bool) : Lexer := { lexer with keyAllowed := allowed }

def advance (lexer : Lexer) (count : Nat) : Lexer :=
  { lexer with cursor := lexer.cursor.advance count }

/-- Opens a block of the given kind at a column, if that is right of the current block. -/
def openBlock (lexer : Lexer) (column : Nat) (place : Nat) (token : Token) : Lexer :=
  if !lexer.inFlow && lexer.indent < column then
    { lexer.insertAt place token with
      indent := column
      outerIndents := lexer.indent :: lexer.outerIndents }
  else lexer

def closeBlocksFrom (column : Int) (indent : Int) (tokens : Array Token) :
    List Int → Int × List Int × Array Token
  | [] => (indent, [], tokens)
  | outer :: rest =>
      if column < indent then closeBlocksFrom column outer (tokens.push .blockEnd) rest
      else (indent, outer :: rest, tokens)

def closeBlocks (lexer : Lexer) (column : Int) : Lexer :=
  if lexer.inFlow then lexer
  else
    let (indent, outerIndents, tokens) :=
      closeBlocksFrom column lexer.indent lexer.tokens lexer.outerIndents
    { lexer with indent, outerIndents, tokens }

/-- Gives up the possible key of the innermost level; a key that had to come is missed. -/
def dropKey? (lexer : Lexer) : Option Lexer :=
  match lexer.keys with
  | key :: rest =>
      if key.possible && key.required then none
      else some { lexer with keys := { key with possible := false } :: rest }
  | [] => some lexer

def noteKey? (lexer : Lexer) : Option Lexer :=
  if !lexer.keyAllowed then some lexer
  else do
    let lexer ← lexer.dropKey?
    let cursor := lexer.cursor
    let required := !lexer.inFlow && lexer.indent == cursor.column
    let key : KeyStart :=
      ⟨true, required, lexer.tokens.size, cursor.index, cursor.line, cursor.column⟩
    some { lexer with keys := key :: lexer.keys.drop 1 }

/-- A key ends on its line and within 1024 characters. -/
def expireKey? (cursor : Cursor) (key : KeyStart) : Option KeyStart :=
  if key.possible && (key.line < cursor.line || key.index + 1024 < cursor.index) then
    if key.required then none else some { key with possible := false }
  else some key

def expireKeys? (lexer : Lexer) : Option Lexer :=
  (lexer.keys.mapM (expireKey? lexer.cursor)).map fun keys => { lexer with keys }

/-- Skips blanks, comments and line breaks. A tab may not stand where a key may start. -/
def skipGap : Nat → Lexer → Lexer
  | 0, lexer => lexer
  | fuel + 1, lexer =>
      let cursor := lexer.cursor
      let cursor := if cursor.column == 0 && cursor.rest.head? == some '\ufeff'
        then cursor.advance 1 else cursor
      let tabs := lexer.inFlow || !lexer.keyAllowed
      let cursor := cursor.skipWhile fun c => c = ' ' || (tabs && c = '\t')
      let cursor := if cursor.rest.head? == some '#'
        then cursor.skipWhile fun c => !isLineBreak c else cursor
      match cursor.lineBreak? with
      | some (_, cursor) =>
          skipGap fuel { lexer with cursor, keyAllowed := lexer.keyAllowed || !lexer.inFlow }
      | none => { lexer with cursor }

def mark (lexer : Lexer) (count : Nat) (token : Token) : Lexer :=
  (lexer.push token).advance count

def readDirective? (lexer : Lexer) : Option Lexer := do
  let lexer ← (lexer.closeBlocks (-1)).dropKey?
  let (token, left) ← Token.directive? (lexer.cursor.rest.drop 1)
  let cursor ← Token.lineEnd? (lexer.cursor.moveTo left)
  some { lexer.push token with cursor, keyAllowed := false }

def readDocumentMarker? (lexer : Lexer) (token : Token) : Option Lexer := do
  let lexer ← (lexer.closeBlocks (-1)).dropKey?
  some ((lexer.mark 3 token).allowKey false)

def openFlow? (lexer : Lexer) (token : Token) : Option Lexer := do
  let lexer ← lexer.noteKey?
  let lexer := { lexer with keys := .none :: lexer.keys }
  some ((lexer.mark 1 token).allowKey true)

def closeFlow? (lexer : Lexer) (token : Token) : Option Lexer := do
  let lexer ← lexer.dropKey?
  let lexer := if lexer.inFlow then { lexer with keys := lexer.keys.drop 1 } else lexer
  some ((lexer.mark 1 token).allowKey false)

def readFlowEntry? (lexer : Lexer) : Option Lexer := do
  let lexer ← lexer.dropKey?
  some ((lexer.mark 1 .flowEntry).allowKey true)

def openBlockHere? (lexer : Lexer) (token : Token) : Option Lexer :=
  if lexer.inFlow then some lexer
  else if lexer.keyAllowed then
    some (lexer.openBlock lexer.cursor.column lexer.tokens.size token)
  else none

def readBlockEntry? (lexer : Lexer) : Option Lexer := do
  let lexer ← (← lexer.openBlockHere? .blockSequenceStart).dropKey?
  some ((lexer.mark 1 .blockEntry).allowKey true)

def readKey? (lexer : Lexer) : Option Lexer := do
  let lexer ← (← lexer.openBlockHere? .blockMappingStart).dropKey?
  some ((lexer.mark 1 .key).allowKey (!lexer.inFlow))

/-- A colon: the value of the key that started before it, or of an empty key. -/
def readValue? (lexer : Lexer) : Option Lexer := do
  let key := lexer.keys.headD .none
  if key.possible then
    let lexer := (lexer.insertAt key.token .key).openBlock key.column key.token .blockMappingStart
    let lexer := { lexer with keys := { key with possible := false } :: lexer.keys.drop 1 }
    some ((lexer.mark 1 .value).allowKey false)
  else
    let lexer ← lexer.openBlockHere? .blockMappingStart
    some ((lexer.mark 1 .value).allowKey (!lexer.inFlow))

def readNamed? (lexer : Lexer) (read : List Char → Option (Token × List Char)) :
    Option Lexer := do
  let lexer ← lexer.noteKey?
  let (token, left) ← read lexer.cursor.rest
  some { lexer.push token with cursor := lexer.cursor.moveTo left, keyAllowed := false }

def readBlockScalar? (lexer : Lexer) (folded : Bool) : Option Lexer := do
  let lexer ← lexer.dropKey?
  let (text, cursor) ← Token.block? folded lexer.indent (lexer.cursor.advance 1)
  some { lexer.push (.scalar (String.ofList text) false) with cursor, keyAllowed := true }

def readQuoted? (lexer : Lexer) (single : Bool) : Option Lexer := do
  let lexer ← lexer.noteKey?
  let cursor := lexer.cursor.advance 1
  let (text, cursor) ← Token.quoted? single (cursor.rest.length + 1) cursor []
  some { lexer.push (.scalar (String.ofList text) false) with cursor, keyAllowed := false }

def readPlain? (lexer : Lexer) : Option Lexer := do
  let lexer ← lexer.noteKey?
  let cursor := lexer.cursor
  let (text, broken, cursor) ←
    Token.plain? lexer.inFlow (lexer.indent + 1) (cursor.rest.length + 1) cursor [] .none
  some { lexer.push (.scalar (String.ofList text) true) with cursor, keyAllowed := broken }

def startsPlain (flow : Bool) (c : Char) (rest : List Char) : Bool :=
  !(isSpacing c || "-?:,[]\x7b\x7d#&*!|>'\"%@`".contains c) ||
    (c = '-' && !(rest.head?.map isBlank).getD false) ||
    (!flow && (c = '?' || c = ':') && !atGap rest)

def readToken? (lexer : Lexer) (c : Char) (rest : List Char) : Option Lexer :=
  let flow := lexer.inFlow
  if lexer.cursor.column == 0 && c = '%' then lexer.readDirective?
  else if lexer.cursor.atMarker '-' then lexer.readDocumentMarker? .documentStart
  else if lexer.cursor.atMarker '.' then lexer.readDocumentMarker? .documentEnd
  else if c = '[' then lexer.openFlow? .flowSequenceStart
  else if c = '\x7b' then lexer.openFlow? .flowMappingStart
  else if c = ']' then lexer.closeFlow? .flowSequenceEnd
  else if c = '\x7d' then lexer.closeFlow? .flowMappingEnd
  else if c = ',' then lexer.readFlowEntry?
  else if c = '-' && atGap rest then lexer.readBlockEntry?
  else if c = '?' && (flow || atGap rest) then lexer.readKey?
  else if c = ':' && (flow || atGap rest) then lexer.readValue?
  else if c = '*' then
    lexer.readNamed? fun cs => (Token.name? (cs.drop 1)).map fun (name, rest) => (.alias name, rest)
  else if c = '&' then
    lexer.readNamed? fun cs => (Token.name? (cs.drop 1)).map fun (name, rest) => (.anchor name, rest)
  else if c = '!' then lexer.readNamed? (Token.tag? flow)
  else if c = '|' && !flow then lexer.readBlockScalar? false
  else if c = '>' && !flow then lexer.readBlockScalar? true
  else if c = '\x27' then lexer.readQuoted? true
  else if c = '\x22' then lexer.readQuoted? false
  else if startsPlain flow c rest then lexer.readPlain?
  else none

def finish? (lexer : Lexer) : Option (List Token) := do
  let lexer ← (lexer.closeBlocks (-1)).dropKey?
  some lexer.tokens.toList

def run? : Nat → Lexer → Option (List Token)
  | 0, _ => none
  | fuel + 1, lexer => do
      let lexer ← (skipGap (lexer.cursor.rest.length + 1) lexer).expireKeys?
      let lexer := lexer.closeBlocks lexer.cursor.column
      match lexer.cursor.rest with
      | [] => lexer.finish?
      | c :: rest => run? fuel (← lexer.readToken? c rest)

end Lexer

/-- The tokens of a text. A mark of the byte order may stand before it. -/
def tokens? (text : String) : Option (List Token) :=
  let cs := match text.toList with
    | '\ufeff' :: rest => rest
    | cs => cs
  if cs.all isAllowed then Lexer.run? (cs.length + 1) (.start cs) else none

end SchemaCatalog.Yaml
