import SchemaCatalog.TextFormat

/-!
The command line: one of two commands, and options as two words or as one word with an equals
sign. An option is given at most once, and a value that is a word of its own does not start
with a dash, unless it is a single dash.
-/
namespace SchemaCatalog

inductive Command where
  | build (input : String) (config output : Option String) (format : TextFormat)
  | check (input : String) (config : Option String)
deriving DecidableEq, Repr

namespace Command

/-- A word of the command line that is an option, without its dashes. -/
inductive Word where
  | option (name : String)
  | assignment (name value : String)
  | terminator
  | plain (text : String)
  | shortOption
deriving DecidableEq, Repr

def Word.ofText (text : String) : Word :=
  match text.toList with
  | ['-', '-'] => .terminator
  | '-' :: '-' :: cs =>
      let name := cs.takeWhile (· != '=')
      if name.length < cs.length then
        .assignment (String.ofList name) (String.ofList (cs.drop (name.length + 1)))
      else .option (String.ofList name)
  | '-' :: _ :: _ => .shortOption
  | _ => .plain text

/-- What has been given: the values of options, and whether more is to be logged. -/
structure Given where
  verbose : Bool
  values : List (String × String)

namespace Given

def none : Given := ⟨false, []⟩

def value? (given : Given) (name : String) : Option String := given.values.lookup name

def add? (given : Given) (names : List String) (name value : String) : Option Given :=
  if names.contains name && (given.value? name).isNone then
    some { given with values := (name, value) :: given.values }
  else failure

def setVerbose? (given : Given) : Option Given :=
  if given.verbose then failure else some { given with verbose := true }

/-- The options after a command, of which `names` take values. -/
def ofWords? (names : List String) : Given → List String → Option Given
  | given, [] => some given
  | given, word :: rest =>
      match Word.ofText word, rest with
      | .option "verbose", rest => do ofWords? names (← given.setVerbose?) rest
      | .option name, next :: rest => do
          let .plain value := Word.ofText next | failure
          ofWords? names (← given.add? names name value) rest
      | .assignment name value, rest => do ofWords? names (← given.add? names name value) rest
      | .terminator, [] => some given
      | _, _ => failure

/-- A name of a file, which is not empty, or none. -/
def path? (given : Given) (name : String) : Option (Option String) :=
  match given.value? name with
  | some path => if path.isEmpty then failure else some (some path)
  | Option.none => some Option.none

end Given

def ofGiven? (name : String) (given : Given) : Option Command := do
  let input ← ← given.path? "input"
  let config ← given.path? "config"
  if name = "build" then
    let output ← given.path? "output"
    let format ← match given.value? "format" with
      | some name => TextFormat.ofName? name
      | none => some .json
    return .build input config output format
  else return .check input config

end Command

/-- A command and whether it logs more than warnings. -/
structure Arguments where
  verbose : Bool
  command : Command
deriving DecidableEq, Repr

namespace Arguments

def optionsOf? : String → Option (List String)
  | "build" => some ["input", "config", "output", "format"]
  | "check" => some ["input", "config"]
  | _ => none

/-- The words after those that stand before the command. -/
def ofCommand? (verbose : Bool) : List String → Option Arguments
  | [] => none
  | name :: rest => do
      let given ← Command.Given.ofWords? (← optionsOf? name) .none rest
      return ⟨verbose || given.verbose, ← Command.ofGiven? name given⟩

def ofWords? : List String → Option Arguments
  | "--verbose" :: rest => ofCommand? true rest
  | words => ofCommand? false words

end Arguments

end SchemaCatalog
