import SchemaCatalog.Catalog.Check
import SchemaCatalog.Catalog.Rendering
import SchemaCatalog.Command.Arguments
import SchemaCatalog.Loading

/-!
What the commands do, with the files of any place: `build` writes the catalog of a document,
`check` looks for problems in it and writes a summary.
-/
namespace SchemaCatalog.Command

inductive Fault where
  | config (name : String) (fault : LoadFault)
  | load (name : String) (fault : LoadFault)
  | directory (name : String) (fault : FileFault)
  | write (name : String) (fault : FileFault)
  | problems (name : String) (problems : List Problem)
deriving DecidableEq, Repr

def failedTo (action name message : String) : String :=
  "Failed to " ++ action ++ " '" ++ name ++ "': " ++ message

def Fault.message : Fault → String
  | .config name fault => failedTo "load config" name fault.message
  | .load name fault => failedTo "build" name fault.message
  | .directory name fault => failedTo "create output directory" name fault.message
  | .write name fault => failedTo "write" name fault.message
  | .problems name found =>
      toString found.length ++ " validation error(s) in '" ++ name ++ "':\n" ++
        "\n".intercalate (found.map fun problem => "  - " ++ problem.message)

/-- What a command has to say: its result, and a note beside it. -/
structure Report where
  output : String
  note : String
deriving DecidableEq, Repr

/-- "5 field(s) and 2 structure(s)", with a word or sign between the two counts. -/
def countsText (catalog : Catalog) (between : String) : String :=
  toString catalog.fields.size ++ " field(s)" ++ between ++
    toString catalog.structures.size ++ " structure(s)"

def writtenNote (catalog : Catalog) (output : String) : String :=
  "Wrote " ++ countsText catalog " and " ++ " to '" ++ output ++ "'.\n"

def summary (loaded : Loaded) : String :=
  "Checked " ++ toString loaded.document.components.size ++ " component(s): " ++
    countsText loaded.catalog ", " ++ ".\nfingerprint: " ++ loaded.catalog.fingerprint ++ "\n"

variable {m : Type → Type} [Monad m]

/-- A part of a command, with what is logged on the way. -/
abbrev Action (m : Type → Type) := ExceptT Fault (StateT (List Event) m)

/-- An operation on files as a part of a command. -/
def attempt {α β : Type} (operation : m α) (read : α → Except Fault β) : Action m β := do
  match read (← operation) with
  | .ok value => return value
  | .error fault => throw fault

def loadConfig (files : FileAccess m) : Option String → Action m Config
  | none => return .default
  | some name =>
      attempt (files.read name) fun content => (Config.ofFile content).mapError (.config name)

def load (files : FileAccess m) (input : String) (config : Option String) : Action m Loaded := do
  let config ← loadConfig files config
  let document ← attempt (files.read input) fun content =>
    (Document.ofFile input content).mapError (.load input)
  modify (· ++ .converted document.components.size :: document.buildLog config.options)
  match Loaded.ofDocument config document with
  | .ok loaded => return loaded
  | .error fault => throw (.load input fault)

/-- Writes a file and makes the directory around it. -/
def save (files : FileAccess m) (name content : String) : Action m Unit := do
  let parent := FileName.parent name
  if !parent.isEmpty then
    attempt (files.makeDirectories parent) fun made => made.mapError (.directory parent)
  attempt (files.write name content) fun written => written.mapError (.write name)

def run (files : FileAccess m) : Command → Action m Report
  | .build input config output format => do
      let loaded ← load files input config
      let text := loaded.catalog.render format
      match output with
      | some name => do
          save files name text
          return ⟨"", writtenNote loaded.catalog name⟩
      | none => return ⟨text, ""⟩
  | .check input config => do
      let loaded ← load files input config
      let problems := loaded.catalog.problems loaded.document
      if problems.isEmpty then return ⟨summary loaded, ""⟩
      else throw (.problems input problems)

/-- How a command ends: its code, its output, what it says beside it and what was logged. -/
structure Ending where
  code : UInt8
  output : String
  note : String
  log : List Event

def Ending.of (log : List Event) : Except Fault Report → Ending
  | .ok report => ⟨0, report.output, report.note, log⟩
  | .error fault => ⟨1, "", "error: " ++ fault.message ++ "\n", log⟩

def finish (files : FileAccess m) (command : Command) : m Ending := do
  let (result, log) ← (run files command).run.run []
  return .of log result

end SchemaCatalog.Command
