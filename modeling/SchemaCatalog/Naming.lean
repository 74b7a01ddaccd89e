import SchemaCatalog.Text.Uppercase

/-!
Names for types that a document leaves anonymous. They are put together from the name around
them; a list and its element share a stem, from which the list differs by a plural suffix.
-/
namespace SchemaCatalog

structure Naming where
  pluralSuffix : String
deriving DecidableEq, Repr

structure ListNames where
  list : String
  element : String
deriving DecidableEq, Repr

namespace Naming

def default : Naming := ⟨"s"⟩

instance : Inhabited Naming := ⟨default⟩

def byteSize : List Char → Nat
  | [] => 0
  | c :: cs => c.utf8Size + byteSize cs

/-- A text cut after a number of bytes; nothing if that is inside a character. -/
def splitBytes : Nat → List Char → Option (List Char × List Char)
  | 0, cs => some ([], cs)
  | _ + 1, [] => none
  | n + 1, c :: cs =>
      if c.utf8Size ≤ n + 1 then
        (splitBytes (n + 1 - c.utf8Size) cs).map fun (head, tail) => (c :: head, tail)
      else none

def sameIgnoringCase (x y : List Char) : Bool := x.map Char.toLower == y.map Char.toLower

/-- What is before a suffix of as many bytes as `suffix`, the same up to the case of ASCII
letters. An empty suffix is never found. -/
def stripSuffix (suffix name : List Char) : Option (List Char) :=
  if suffix.isEmpty || byteSize name < byteSize suffix then none
  else match splitBytes (byteSize name - byteSize suffix) name with
    | some (head, tail) => if sameIgnoringCase tail suffix then some head else none
    | none => none

/-- The names of a list and its element around a name, which is the list's if it has the
plural suffix after at least one character, and else the element's. -/
def split (naming : Naming) (enclosing : String) : ListNames :=
  match stripSuffix naming.pluralSuffix.toList enclosing.toList with
  | some (c :: cs) => ⟨enclosing, String.ofList (c :: cs)⟩
  | _ => ⟨enclosing ++ naming.pluralSuffix, enclosing⟩

def propertyName (enclosing property : String) : String :=
  enclosing ++ Text.uppercaseFirst property

/-- The name around the properties of a combinator's member; members count from one. -/
def memberName (enclosing : String) (index : Nat) : String := enclosing ++ toString (index + 1)

end Naming

end SchemaCatalog
