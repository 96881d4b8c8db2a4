import GpuPlacement.Json.Number
import GpuPlacement.Text.Split

/-!
# Reading JSON

A JSON text as structured data. Where a record names a field twice the last value stands.
A number too large for a double, half of a surrogate pair, and values nested too deep are errors
like any break of the grammar.
-/

set_option autoImplicit false

namespace GpuPlacement.Json

open Text (Scanner scanHex charOf? dropStart?)

/-- White space between the parts of a JSON text. -/
def isSpace (c : Char) : Bool := c == ' ' || c == '\n' || c == '\r' || c == '\t'

def skipSpace (cs : List Char) : List Char := cs.dropWhile isSpace

/-! ## Strings -/

/-- The character of a surrogate pair. -/
def joinSurrogates (high low : Nat) : Option Char :=
  if 0xD800 ≤ high ∧ high < 0xDC00 ∧ 0xDC00 ≤ low ∧ low < 0xE000 then
    charOf? (0x10000 + (high - 0xD800) * 0x400 + (low - 0xDC00))
  else none

/-- A code unit in four hexadecimal digits, with its other half if it is one of a pair. -/
def scanUnits : Scanner Char := fun cs => do
  let (unit, rest) ← scanHex 4 cs
  match charOf? unit with
  | some c => return (c, rest)
  | none =>
    let (low, rest) ← scanHex 4 (← dropStart? ['\\', 'u'] rest)
    let c ← joinSurrogates unit low
    return (c, rest)

/-- What follows the backslash of an escape. -/
def scanEscape : Scanner Char
  | '"' :: rest => some ('"', rest)
  | '\\' :: rest => some ('\\', rest)
  | '/' :: rest => some ('/', rest)
  | 'b' :: rest => some ('\x08', rest)
  | 'f' :: rest => some ('\x0c', rest)
  | 'n' :: rest => some ('\n', rest)
  | 'r' :: rest => some ('\r', rest)
  | 't' :: rest => some ('\t', rest)
  | 'u' :: rest => scanUnits rest
  | _ => none

/-- The characters of a string after its opening quote, up to its closing one. -/
def stringBody : (fuel : Nat) → Scanner (List Char)
  | 0, _ => none
  | _, [] => none
  | _, '"' :: rest => some ([], rest)
  | fuel + 1, '\\' :: rest => do
    let (c, rest) ← scanEscape rest
    let (cs, rest) ← stringBody fuel rest
    return (c :: cs, rest)
  | fuel + 1, c :: rest =>
    if c.toNat < 0x20 then none
    else do
      let (cs, rest) ← stringBody fuel rest
      return (c :: cs, rest)

def scanString : Scanner String := fun cs =>
  (stringBody (cs.length + 1) cs).map fun (cs, rest) => (String.ofList cs, rest)

/-! ## Values -/

/-- `fields` with a field added; a field of the same name gives way. -/
def setField (name : String) (value : Data) (fields : List (String × Data)) :
    List (String × Data) :=
  if (fields.lookup name).isSome then
    fields.map fun field => if field.1 = name then (name, value) else field
  else fields ++ [(name, value)]

/-- The items of a list from its first one on, and its closing bracket. -/
def listItems (item : Scanner Data) : (fuel : Nat) → Scanner (List Data)
  | 0, _ => none
  | fuel + 1, cs => do
    let (value, rest) ← item (skipSpace cs)
    match skipSpace rest with
    | ',' :: rest =>
      let (values, rest) ← listItems item fuel rest
      return (value :: values, rest)
    | ']' :: rest => return ([value], rest)
    | _ => none

/-- The fields of a record from its first one on, and its closing brace. -/
def recordFields (item : Scanner Data) :
    (fuel : Nat) → List (String × Data) → Scanner (List (String × Data))
  | 0, _, _ => none
  | fuel + 1, fields, cs => do
    let (name, rest) ← scanString (← dropStart? ['"'] (skipSpace cs))
    let rest ← dropStart? [':'] (skipSpace rest)
    let (value, rest) ← item (skipSpace rest)
    let fields := setField name value fields
    match skipSpace rest with
    | ',' :: rest => recordFields item fuel fields rest
    | '\x7d' :: rest => return (fields, rest)
    | _ => none

def scanList (item : Scanner Data) : Scanner Data := fun cs =>
  match skipSpace cs with
  | ']' :: rest => some (.list [], rest)
  | cs => (listItems item cs.length cs).map fun (items, rest) => (.list items, rest)

def scanRecord (item : Scanner Data) : Scanner Data := fun cs =>
  match skipSpace cs with
  | '\x7d' :: rest => some (.record [], rest)
  | cs => (recordFields item cs.length [] cs).map fun (fields, rest) => (.record fields, rest)

/-- A value that nests at most `depth` deep, without white space before it. -/
def scanValue : (depth : Nat) → Scanner Data
  | _, '"' :: rest => (scanString rest).map fun (s, rest) => (.string s, rest)
  | 0, '[' :: _ => none
  | depth + 1, '[' :: rest => scanList (scanValue depth) rest
  | 0, '\x7b' :: _ => none
  | depth + 1, '\x7b' :: rest => scanRecord (scanValue depth) rest
  | _, 'n' :: rest => (dropStart? "ull".toList rest).map fun rest => (.null, rest)
  | _, 't' :: rest => (dropStart? "rue".toList rest).map fun rest => (.boolean true, rest)
  | _, 'f' :: rest => (dropStart? "alse".toList rest).map fun rest => (.boolean false, rest)
  | _, cs => scanNumber cs

/-- How deep values may nest. -/
def maxDepth : Nat := 127

def read? (text : String) : Option Data := do
  let (value, rest) ← scanValue maxDepth (skipSpace text.toList)
  if (skipSpace rest).isEmpty then some value else none

end GpuPlacement.Json
