import GpuPlacement.Link
import GpuPlacement.Text.Split

/-!
# What can be wrong with a document

A configuration or topology document is malformed, defines a key twice, extends a value as if it
were a table, lacks a field, names a variant that does not exist, or names a link that does not
exist. The last three have a line of their own in messages; everything else about the notation
is summed up by one placeholder.
-/

set_option autoImplicit false

namespace GpuPlacement

/-- Why a document does not decode. -/
inductive DocumentError where
  /-- The notation is broken, or a value has the wrong shape or lies out of range. -/
  | malformed
  /-- A key that is already there. Where the table is known, its path is given; the root has the
  empty path. -/
  | repeatedKey (key : String) (table : Option (List String))
  /-- A path that goes through a value, up to that value, and the type of it. -/
  | extendedValue (path : List String) (type : String)
  | missingField (name : String)
  | unknownVariant (name : String) (expected : List String)
  | link (cause : LinkError)
  deriving DecidableEq, Repr

namespace DocumentError

/-- A path of keys, without quotes. -/
def pathText (path : List String) : String := String.intercalate "." path

/-- The full wording, if the error has one. -/
def detail : DocumentError → Option String
  | .malformed => none
  | .repeatedKey key table =>
    let place := match table with
      | none => ""
      | some [] => " in document root"
      | some path => s!" in table `{pathText path}`"
    some s!"duplicate key `{key}`{place}"
  | .extendedValue path type =>
    some s!"dotted key `{pathText path}` attempted to extend non-table type ({type})"
  | .missingField name => some s!"missing field `{name}`"
  | .unknownVariant name expected =>
    let choices := String.intercalate ", " (expected.map fun choice => s!"`{choice}`")
    some s!"unknown variant `{name}`, expected one of {choices}"
  | .link cause => some cause.message

/-- How a line that speaks for the whole error starts. -/
def openings : List String :=
  ["unknown link type ", "nvlink count ", "missing field ", "unknown variant "]

/-- A line without the carriage return before its line feed. -/
def lineText (line : List Char) : List Char :=
  if line.getLast? = some '\r' then line.dropLast else line

/-- The lines of a text, without their line ends. The last one has none. -/
def lines (text : String) : List String :=
  let pieces := Text.splitOn '\n' text.toList
  (pieces.dropLast.map lineText ++ pieces.getLast?.toList).map String.ofList

/-- What is shown of a wording: its last telling line, and otherwise a placeholder. -/
def summary (text : String) : String :=
  let telling := (lines text).filter fun line =>
    openings.any fun opening => (Text.dropStart? opening.toList line.toList).isSome
  telling.getLast?.getD "<toml>"

/-- The one line shown for the error. A key or a variant name can hold line breaks, which is why
a wording can have several lines. -/
def message (e : DocumentError) : String := summary (e.detail.getD "")

end DocumentError
end GpuPlacement
