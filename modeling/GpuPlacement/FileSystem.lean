/-!
# Files as this library sees them

Configuration, topologies and the sysfs tree are read through two questions: what is the
text of a file, and what are the names in a directory. `FileSystem` is a value that
answers both, so that everything above it is a pure function of the answers; an
in-memory tree and a set of readings of the real disk both provide one.
-/

set_option autoImplicit false

namespace GpuPlacement

/-- Why a file or directory could not be read. -/
inductive FileError where
  | notFound
  | notADirectory
  | isADirectory
  | nameTooLong
  | embeddedNul
  | notText
  | other (text : String)
  deriving DecidableEq, Repr

def FileError.message : FileError → String
  | .notFound => "No such file or directory (os error 2)"
  | .notADirectory => "Not a directory (os error 20)"
  | .isADirectory => "Is a directory (os error 21)"
  | .nameTooLong => "File name too long (os error 36)"
  | .embeddedNul => "file name contained an unexpected NUL byte"
  | .notText => "stream did not contain valid UTF-8"
  | .other text => text

/-- The answers of a file system at one moment. -/
structure FileSystem where
  readText : String → Except FileError String
  /-- The names in the directory at a path, in no particular order. -/
  list : String → Except FileError (List String)

namespace Path

def isAbsolute (path : String) : Bool := path.toList.head? == some '/'

/-- `path` seen from `base`. An absolute path stands for itself; otherwise one slash
separates the two, unless `base` is empty or ends with one. -/
def join (base path : String) : String :=
  if isAbsolute path then path
  else if base = "" || base.toList.getLast? == some '/' then base ++ path
  else base ++ "/" ++ path

end Path
end GpuPlacement
