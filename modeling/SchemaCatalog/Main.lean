import SchemaCatalog.Command.Run

/-!
The program: commands on the files of the machine.
-/
namespace SchemaCatalog

def FileFault.ofError : IO.Error → FileFault
  | .noFileOrDirectory .. => .notFound
  | .alreadyExists .. => .exists
  | .inappropriateType _ 20 _ => .notDirectory
  | .inappropriateType _ 21 _ => .isDirectory
  | error => .other error.toString

def FileAccess.attempt {α : Type} (action : IO α) : IO (Except FileFault α) := do
  return (← action.toBaseIO).mapError FileFault.ofError

def FileAccess.machine : FileAccess IO where
  read name := attempt (IO.FS.readBinFile name)
  makeDirectories name := attempt (IO.FS.createDirAll name)
  write name content := attempt (IO.FS.writeFile name content)

end SchemaCatalog

open SchemaCatalog

def main (words : List String) : IO UInt32 := do
  match Arguments.ofWords? words with
  | some arguments =>
      let ending ← arguments.command.finish FileAccess.machine
      for event in ending.log do
        if arguments.verbose || event.isWarning then IO.eprintln event.line
      IO.print ending.output
      IO.eprint ending.note
      return ending.code.toUInt32
  | none =>
      IO.eprintln "usage: [--verbose] (build | check) --input FILE [--config FILE]"
      return 2
