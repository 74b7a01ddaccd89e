import SchemaCatalog.Yaml.Lexer

/-!
Trees of YAML nodes, put together from tokens. Anchors are numbered by how many names have
been given so far; an alias holds the number that its name has where it stands.
-/
namespace SchemaCatalog.Yaml

/-- What may stand before a node. A tag is in full; the lone `!` of a scalar is left out. -/
structure Marks where
  anchor : Option Nat
  tag : Option String
deriving DecidableEq, Repr

inductive Node where
  | scalar (marks : Marks) (text : String) (plain : Bool)
  | sequence (marks : Marks) (items : List Node)
  | mapping (marks : Marks) (entries : List (Node × Node))
  | alias (anchor : Nat)

namespace Node

def empty : Node := .scalar ⟨none, none⟩ "" true

instance : Inhabited Node := ⟨empty⟩

/-- The tokens that are left, and the numbers of the anchor names so far. -/
structure Source where
  tokens : List Token
  anchors : List (String × Nat)

abbrev Reader := StateT Source Option

def peek : Reader (Option Token) := do return (← get).tokens.head?

def skip : Reader Unit := modify fun source => { source with tokens := source.tokens.drop 1 }

def accept (token : Token) : Reader Bool := do
  if (← peek) == some token then
    skip
    return true
  else return false

/-- Whether the next token is one of the given ones; the end is none of them. -/
def nextIsIn (tokens : List Token) : Reader Bool := do
  return match ← peek with
    | some token => tokens.contains token
    | none => false

def nameAnchor (name : String) : Reader Nat := do
  let source ← get
  let number := source.anchors.length
  set { source with anchors := (name, number) :: source.anchors.filter (·.1 != name) }
  return number

def aliasNumber (name : String) : Reader Nat := do
  match (← get).anchors.lookup name with
  | some number => return number
  | none => failure

/-- The tag in full: handles stand for the beginnings that directives give them. -/
def fullTag (handles : List (String × String)) (handle rest : String) : Reader String :=
  if handle = "" then return rest
  else match handles.lookup handle with
    | some head => return head ++ rest
    | none => failure

def readAnchor : Reader (Option Nat) := do
  match ← peek with
  | some (.anchor name) => do
      skip
      return some (← nameAnchor name)
  | _ => return none

def readTag : Reader (Option (String × String)) := do
  match ← peek with
  | some (.tag handle rest) => do
      skip
      return some (handle, rest)
  | _ => return none

def readMarks (handles : List (String × String)) : Reader Marks := do
  let first ← readAnchor
  let tag ← readTag
  let anchor ← if first.isSome then pure first else readAnchor
  match tag with
  | some (handle, rest) => return ⟨anchor, some (← fullTag handles handle rest)⟩
  | none => return ⟨anchor, none⟩

def scalarMarks (marks : Marks) : Marks :=
  if marks.tag = some "!" then ⟨marks.anchor, none⟩ else marks

mutual

/-- A node. Block collections are allowed only where `block` says so, and a sequence without an
indentation of its own only where `indentless` does. -/
def read (handles : List (String × String)) : Nat → (block indentless : Bool) → Reader Node
  | 0, _, _ => failure
  | fuel + 1, block, indentless => do
      if let some (.alias name) ← peek then
        skip
        return .alias (← aliasNumber name)
      let marks ← readMarks handles
      match ← peek with
      | some .blockEntry =>
          if indentless then return .sequence marks (← readIndentless handles fuel)
          else readUnwritten marks
      | some (.scalar text plain) => do
          skip
          return .scalar (scalarMarks marks) text plain
      | some .flowSequenceStart => do
          skip
          return .sequence marks (← readFlowItems handles fuel true)
      | some .flowMappingStart => do
          skip
          return .mapping marks (← readFlowEntries handles fuel true)
      | some .blockSequenceStart =>
          if block then do
            skip
            return .sequence marks (← readItems handles fuel)
          else readUnwritten marks
      | some .blockMappingStart =>
          if block then do
            skip
            return .mapping marks (← readEntries handles fuel)
          else readUnwritten marks
      | _ => readUnwritten marks

def readUnwritten (marks : Marks) : Reader Node :=
  if marks.anchor.isSome || marks.tag.isSome then
    return .scalar marks "" true
  else failure

def readUnless (handles : List (String × String)) (fuel : Nat) (ends : List Token)
    (block indentless : Bool) : Reader Node := do
  match fuel with
  | 0 => failure
  | fuel + 1 =>
      if ← nextIsIn ends then return .empty
      else if (← peek).isNone then return .empty
      else read handles fuel block indentless

def readItems (handles : List (String × String)) : Nat → Reader (List Node)
  | 0 => failure
  | fuel + 1 => do
      if ← accept .blockEntry then
        let item ← readUnless handles fuel [.blockEntry, .blockEnd] true false
        return item :: (← readItems handles fuel)
      else if ← accept .blockEnd then return []
      else failure

def readIndentless (handles : List (String × String)) : Nat → Reader (List Node)
  | 0 => failure
  | fuel + 1 => do
      if ← accept .blockEntry then
        let item ← readUnless handles fuel [.blockEntry, .key, .value, .blockEnd] true false
        return item :: (← readIndentless handles fuel)
      else return []

def readEntries (handles : List (String × String)) : Nat → Reader (List (Node × Node))
  | 0 => failure
  | fuel + 1 => do
      if ← accept .key then
        let key ← readUnless handles fuel [.key, .value, .blockEnd] true true
        let value ← readEntryValue handles fuel
        return (key, value) :: (← readEntries handles fuel)
      else if ← accept .blockEnd then return []
      else failure

def readEntryValue (handles : List (String × String)) : Nat → Reader Node
  | 0 => failure
  | fuel + 1 => do
      if ← accept .value then readUnless handles fuel [.key, .value, .blockEnd] true true
      else return .empty

def readFlowItems (handles : List (String × String)) : Nat → (first : Bool) → Reader (List Node)
  | 0, _ => failure
  | fuel + 1, first => do
      if ← accept .flowSequenceEnd then return []
      else if !first && !(← accept .flowEntry) then failure
      else if ← accept .flowSequenceEnd then return []
      else if ← accept .key then
        let key ← readPairKey handles fuel
        let value ← readFlowValue handles fuel [.flowEntry, .flowSequenceEnd]
        return .mapping ⟨none, none⟩ [(key, value)] :: (← readFlowItems handles fuel false)
      else
        let item ← read handles fuel false false
        return item :: (← readFlowItems handles fuel false)

/-- The key of a single pair in a flow sequence; the token that ends an empty one is taken. -/
def readPairKey (handles : List (String × String)) : Nat → Reader Node
  | 0 => failure
  | fuel + 1 => do
      if ← nextIsIn [.value, .flowEntry, .flowSequenceEnd] then
        skip
        return .empty
      else read handles fuel false false

def readFlowValue (handles : List (String × String)) (fuel : Nat) (ends : List Token) :
    Reader Node := do
  match fuel with
  | 0 => failure
  | fuel + 1 =>
      if ← accept .value then
        if ← nextIsIn ends then return .empty else read handles fuel false false
      else return .empty

def readFlowEntries (handles : List (String × String)) :
    Nat → (first : Bool) → Reader (List (Node × Node))
  | 0, _ => failure
  | fuel + 1, first => do
      if ← accept .flowMappingEnd then return []
      else if !first && !(← accept .flowEntry) then failure
      else if ← accept .flowMappingEnd then return []
      else if ← accept .key then
        let key ←
          if ← nextIsIn [.value, .flowEntry, .flowMappingEnd] then pure .empty
          else read handles fuel false false
        let value ← readFlowValue handles fuel [.flowEntry, .flowMappingEnd]
        return (key, value) :: (← readFlowEntries handles fuel false)
      else
        let key ← read handles fuel false false
        return (key, .empty) :: (← readFlowEntries handles fuel false)

end

def defaultHandles : List (String × String) := [("!", "!"), ("!!", "tag:yaml.org,2002:")]

/-- The directives before a document: at most one version, of the two that are known, and no
handle twice. -/
def readDirectives (versioned : Bool) (handles : List (String × String)) :
    Nat → Reader (List (String × String))
  | 0 => failure
  | fuel + 1 => do
      match ← peek with
      | some (.version major minor) =>
          if versioned || major != 1 || !(minor = 1 || minor = 2) then failure
          else do
            skip
            readDirectives true handles fuel
      | some (.tagPrefix handle head) =>
          if (handles.lookup handle).isSome then failure
          else do
            skip
            readDirectives versioned ((handle, head) :: handles) fuel
      | _ => return handles

/-- A document with directives or a mark of its start. -/
def readMarked (fuel : Nat) : Reader Node := do
  let handles ← readDirectives false [] fuel
  if !(← accept .documentStart) then failure
  match ← peek with
  | none | some (.version ..) | some (.tagPrefix ..) | some .documentStart
  | some .documentEnd => return .empty
  | some _ => read (handles ++ defaultHandles) fuel true false

/-- The only document of a text, if there is one. -/
def readOnly (fuel : Nat) : Reader (Option Node) := do
  let node ← match ← peek with
    | none => return none
    | some (.version ..) | some (.tagPrefix ..) | some .documentStart => readMarked fuel
    | some _ => read defaultHandles fuel true false
  modify fun source => { source with tokens := source.tokens.dropWhile (· == .documentEnd) }
  if (← peek).isSome then failure
  return some node

/-- The node that a text is, if it is one; an empty text is none, and is right. -/
def ofText? (text : String) : Option (Option Node) := do
  let tokens ← tokens? text
  ((readOnly (8 * tokens.length + 16)).run ⟨tokens, []⟩).map (·.1)

mutual

/-- The nodes with an anchor, each before those inside it. -/
def anchored : Node → List (Nat × Node)
  | .scalar marks text plain =>
      (marks.anchor.map fun anchor => (anchor, .scalar marks text plain)).toList
  | .sequence marks items =>
      (marks.anchor.map fun anchor => (anchor, .sequence marks items)).toList ++ anchoredItems items
  | .mapping marks entries =>
      (marks.anchor.map fun anchor => (anchor, .mapping marks entries)).toList ++
        anchoredEntries entries
  | .alias _ => []
termination_by structural node => node

def anchoredItems : List Node → List (Nat × Node)
  | [] => []
  | item :: rest => anchored item ++ anchoredItems rest
termination_by structural items => items

def anchoredEntries : List (Node × Node) → List (Nat × Node)
  | [] => []
  | (key, value) :: rest => anchored key ++ anchored value ++ anchoredEntries rest
termination_by structural entries => entries

/-- How many events a node is: one for a scalar or alias, two around a collection. -/
def size : Node → Nat
  | .scalar .. | .alias _ => 1
  | .sequence _ items => 2 + sizeItems items
  | .mapping _ entries => 2 + sizeEntries entries
termination_by structural node => node

def sizeItems : List Node → Nat
  | [] => 0
  | item :: rest => size item + sizeItems rest
termination_by structural items => items

def sizeEntries : List (Node × Node) → Nat
  | [] => 0
  | (key, value) :: rest => size key + size value + sizeEntries rest
termination_by structural entries => entries

end

end Node

end SchemaCatalog.Yaml
