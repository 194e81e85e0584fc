import Planar.Command.Run

/-! The program on a real machine. -/
namespace Planar

/-- The fault behind an error of the operating system. -/
def FileFault.ofError (error : IO.Error) : FileFault :=
  let text := toString error
  match error with
  | .noFileOrDirectory .. => .missing
  | .alreadyExists .. => .taken
  | .inappropriateType _ code _ => if code = 20 then .notFolder else .isFolder
  | _ => .other text

/-- The outcome of work on files. -/
def attempt {β : Type} (work : IO β) : IO (Except FileFault β) := do
  match ← work.toBaseIO with
  | .ok result => return .ok result
  | .error error => return .error (.ofError error)

instance : Host Float IO where
  readFile path := attempt (IO.FS.readBinFile path)
  writeFile path content := attempt (IO.FS.writeBinFile path content)
  makeFolders path := attempt (IO.FS.createDirAll path)
  log event := do
    let level := if event.isError then "ERROR" else "WARN"
    IO.eprintln s!"{level} {event.message}"
  clock := IO.monoNanosNow

end Planar

def main (args : List String) : IO UInt32 := do
  let output ← Planar.Command.run (m := IO) args
  IO.print output.stdout
  IO.eprint output.stderr
  return UInt32.ofNat output.code
