/-!
# Structured data

The tree of values that a configuration or topology document holds once its notation,
JSON or TOML, has been read. Decoders work on this tree and so do not care which notation
it came from. Integers are exact; other numbers, and dates, are carried as they were
written, since nothing in this library computes with them.
-/

set_option autoImplicit false

namespace GpuPlacement

/-- A value of a structured document. Records keep the order of their fields. -/
inductive Data where
  | null
  | boolean (value : Bool)
  | integer (value : Int)
  /-- A number that is not written as an integer, or not in the range of one. -/
  | real (lexeme : String)
  | string (value : String)
  /-- A date, a time, or both. Where a record is asked for it is one without known fields. -/
  | datetime (lexeme : String)
  | list (items : List Data)
  | record (fields : List (String × Data))
  deriving Inhabited, Repr

namespace Data

def nat (n : Nat) : Data := .integer n

def strings (ss : List String) : Data := .list (ss.map .string)

/-- `null` for an absent value. -/
def optional {α : Type} (encode : α → Data) : Option α → Data
  | none => .null
  | some a => encode a

def field? (name : String) : Data → Option Data
  | .record fields => fields.lookup name
  | _ => none

end Data
end GpuPlacement
