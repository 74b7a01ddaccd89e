/-!
Files as a program sees them: names with slashes, what can go wrong, and the three operations
that are needed, for any place where files may be kept. One such place is a tree in memory.
-/
namespace SchemaCatalog

inductive FileFault where
  | notFound
  | exists
  | notDirectory
  | isDirectory
  | notText
  | other (text : String)
deriving DecidableEq, Repr

def FileFault.message : FileFault → String
  | .notFound => "No such file or directory (os error 2)"
  | .exists => "File exists (os error 17)"
  | .notDirectory => "Not a directory (os error 20)"
  | .isDirectory => "Is a directory (os error 21)"
  | .notText => "stream did not contain valid UTF-8"
  | .other text => text

namespace FileName

/-- The parts of a name between slashes. Empty parts and single dots lead nowhere. -/
def parts (name : String) : List String :=
  (name.splitOn "/").filter fun part => part != "" && part != "."

/-- The last part of a name, if it names something below a directory. -/
def last? (name : String) : Option String :=
  ((parts name).getLast?).filter (· != "..")

/-- What follows the last dot of the last part. A dot in front of a part starts no extension. -/
def extension? (name : String) : Option String := do
  let reversed := (← last? name).toList.reverse
  let stem := (reversed.dropWhile (· != '.')).drop 1
  if stem.isEmpty then none
  else some (String.ofList (reversed.takeWhile (· != '.')).reverse)

/-- The name of the directory around a name, without trailing slashes. -/
def parent (name : String) : String :=
  let skip (cs : List Char) := cs.dropWhile (· == '/')
  let dots : List Char → List Char
    | '.' :: '/' :: rest => '/' :: rest
    | rest => rest
  let reversed := dots (skip name.toList.reverse)
  let above := reversed.dropWhile (· != '/')
  let trimmed := skip (dots (skip above))
  if trimmed.isEmpty then (if above.isEmpty then "" else "/") else String.ofList trimmed.reverse

end FileName

/-- A place where files are kept. -/
structure FileAccess (m : Type → Type) where
  read : String → m (Except FileFault ByteArray)
  makeDirectories : String → m (Except FileFault Unit)
  write : String → String → m (Except FileFault Unit)

inductive FileEntry where
  | directory
  | file (content : ByteArray)

/-- Files in memory: what is kept under each path of parts. The root is a directory. -/
structure FileTree where
  entries : List (List String × FileEntry)

namespace FileTree

def empty : FileTree := ⟨[]⟩

def get? (tree : FileTree) (path : List String) : Option FileEntry :=
  if path.isEmpty then some .directory else tree.entries.lookup path

def set (tree : FileTree) (path : List String) (entry : FileEntry) : FileTree :=
  ⟨(path, entry) :: tree.entries.filter (·.1 != path)⟩

def isDirectory (tree : FileTree) (path : List String) : Except FileFault Unit :=
  match tree.get? path with
  | some .directory => .ok ()
  | some (.file _) => .error .notDirectory
  | none => .error .notFound

/-- The path that parts lead to from a directory. All but the last must be directories. -/
def resolve (tree : FileTree) (path : List String) : List String → Except FileFault (List String)
  | [] => .ok path
  | part :: rest => do
      tree.isDirectory path
      resolve tree (if part = ".." then path.dropLast else path ++ [part]) rest

def read (tree : FileTree) (name : String) : Except FileFault ByteArray := do
  if name.isEmpty then throw .notFound
  let path ← tree.resolve [] (FileName.parts name)
  match tree.get? path with
  | some (.file content) => if name.endsWith "/" then .error .notDirectory else .ok content
  | some .directory => .error .isDirectory
  | none => .error .notFound

def write (tree : FileTree) (name content : String) : Except FileFault FileTree := do
  if name.isEmpty then throw .notFound
  let path ← tree.resolve [] (FileName.parts name)
  match tree.get? path with
  | some .directory => .error .isDirectory
  | some (.file _) =>
      if name.endsWith "/" then .error .notDirectory
      else .ok (tree.set path (.file content.toUTF8))
  | none =>
      if name.endsWith "/" then .error .isDirectory
      else .ok (tree.set path (.file content.toUTF8))

def makeDirectoriesAt (tree : FileTree) (path : List String) :
    List String → Except FileFault FileTree
  | [] => .ok tree
  | part :: rest =>
      let path := if part = ".." then path.dropLast else path ++ [part]
      match tree.get? path with
      | some .directory => makeDirectoriesAt tree path rest
      | some (.file _) => .error (if rest.isEmpty then .exists else .notDirectory)
      | none => makeDirectoriesAt (tree.set path .directory) path rest

def makeDirectories (tree : FileTree) (name : String) : Except FileFault FileTree :=
  tree.makeDirectoriesAt [] (FileName.parts name)

/-- A change of the tree as an operation on a place of files. -/
def change (f : FileTree → Except FileFault FileTree) : StateM FileTree (Except FileFault Unit) :=
  fun tree => match f tree with
    | .ok tree => (.ok (), tree)
    | .error fault => (.error fault, tree)

def access : FileAccess (StateM FileTree) where
  read name := fun tree => (tree.read name, tree)
  makeDirectories name := change fun tree => tree.makeDirectories name
  write name content := change fun tree => tree.write name content

end FileTree

end SchemaCatalog
