import SchemaCatalog.Json.Basic

/-!
Places inside a JSON value. A place is the list of names and indices that lead to it from the
root; its text puts a slash before each, with `~0` for a tilde and `~1` for a slash inside.
-/
namespace SchemaCatalog

/-- The steps from a root to a place, outermost first, as they are before escaping. -/
abbrev Pointer := List String

namespace Pointer

/-- A step as it is written. Tildes are escaped first, so that those of `~1` stay. -/
def escape (step : String) : String :=
  let tildes := step.toList.flatMap fun c => if c = '~' then ['~', '0'] else [c]
  String.ofList (tildes.flatMap fun c => if c = '/' then ['~', '1'] else [c])

/-- Every occurrence of two characters in a row, from the left, replaced by one character. -/
def replacePair (first second replacement : Char) : List Char → List Char
  | a :: b :: rest =>
      if a = first ∧ b = second then replacement :: replacePair first second replacement rest
      else a :: replacePair first second replacement (b :: rest)
  | rest => rest

/-- A written step as it was before escaping: slashes are restored before tildes. A tilde that
starts no escape stays. -/
def unescape (written : String) : String :=
  String.ofList (replacePair '~' '0' '~' (replacePair '~' '1' '/' written.toList))

def text (place : Pointer) : String :=
  place.foldr (fun step rest => "/" ++ escape step ++ rest) ""

end Pointer

end SchemaCatalog
