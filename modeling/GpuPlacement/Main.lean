import GpuPlacement.Readings

/-!
# The program

Reads the files that the command line calls for, runs the command on them, and prints its report.
-/

set_option autoImplicit false

namespace GpuPlacement

/-- The error of a file that could not be read. -/
def fileErrorOf : IO.Error → FileError
  | .noFileOrDirectory .. => .notFound
  | .inappropriateType _ _ "not a directory" => .notADirectory
  | .inappropriateType .. => .isADirectory
  | .permissionDenied .. => .other "Permission denied (os error 13)"
  | .invalidArgument _ _ "name too long" => .nameTooLong
  | .invalidArgument _ _ "string contains NUL bytes" => .embeddedNul
  | .userError _ => .notText
  | e => .other (toString e)

def readFile (path : String) : IO (Except FileError String) := do
  return (← (IO.FS.readFile path).toBaseIO).mapError fileErrorOf

/-- The number of node directories that sysfs can have. -/
def maxNodes : Nat := 1024

/-- The names of the node directories in a directory. They are numbered, and reading one as a
file fails in the way of directories. -/
def listNodes (dir : String) : IO (Except FileError (List String)) := do
  match ← readFile dir with
  | .error .isADirectory =>
    let names := (List.range maxNodes).map fun id => s!"node{id}"
    let found ← names.filterM fun name => do
      return (← readFile (Path.join dir name)) matches .error .isADirectory
    return .ok found
  | .error e => return .error e
  | .ok _ => return .error .notADirectory

/-- Reads what is wanted and has not been read yet. -/
def readWanted (readings : Readings) : List Wanted → IO Readings
  | [] => return readings
  | wanted :: rest => do
    if readings.has wanted then readWanted readings rest
    else
      match wanted with
      | .text path => readWanted (readings.addText path (← readFile path)) rest
      | .listing path => readWanted (readings.addListing path (← listNodes path)) rest

/-- Reads all files of an invocation, in rounds. -/
def readRounds (i : CommandLine.Invocation) : Nat → Readings → IO Readings
  | 0, readings => return readings
  | rounds + 1, readings => do
    readRounds i rounds (← readWanted readings (Commands.wanted readings.fileSystem i))

end GpuPlacement

def main (args : List String) : IO UInt32 := do
  let readings ← match GpuPlacement.CommandLine.parse args with
    | .error _ => pure .empty
    | .ok i => GpuPlacement.readRounds i GpuPlacement.Commands.rounds .empty
  let report := GpuPlacement.Commands.run readings.fileSystem args
  IO.print report.output
  IO.eprint report.errorOutput
  return report.code.toUInt32
