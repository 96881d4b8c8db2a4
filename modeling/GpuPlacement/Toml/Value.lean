import GpuPlacement.Text.Split
import GpuPlacement.Toml.Number
import GpuPlacement.Toml.Table
import GpuPlacement.Toml.Text

/-!
# Values

A value is a string, a number or date, a boolean, an array or a table in braces. Arrays may
span lines and hold comments and a last comma; tables in braces may do neither. Values nest
less than eighty deep.
-/

set_option autoImplicit false

namespace GpuPlacement.Toml

open Text (Scanner dropStart?)

/-- Reads a value from the front of a text and leaves the rest, or says what is wrong. -/
abbrev Reader (α : Type) := List Char → Except DocumentError (α × List Char)

/-- What a scanner gives; where it fails the notation is broken. -/
def expect {α : Type} : Option α → Except DocumentError α
  | some a => .ok a
  | none => .error .malformed

/-- The items of an array after its opening bracket, up to its closing one. -/
def arrayItems (item : Reader Data) : (fuel : Nat) → Reader (List Data)
  | 0, _ => .error .malformed
  | fuel + 1, cs =>
    match skipTrivia false cs with
    | ']' :: rest => .ok ([], rest)
    | cs => do
      let (value, rest) ← item cs
      match skipTrivia false rest with
      | ',' :: rest =>
        let (values, rest) ← arrayItems item fuel rest
        return (value :: values, rest)
      | ']' :: rest => return ([value], rest)
      | _ => .error .malformed

/-- A key, the equals sign and a value. -/
def readPair (item : Reader Data) : Reader (List String × Data) := fun cs => do
  let (key, rest) ← expect (scanKey cs)
  let rest ← expect (skipChar '=' rest)
  let (value, rest) ← item (skipBlanks rest)
  return ((key, value), rest)

/-- The pairs of a table in braces, as far as there are keys. A comma that no key follows is left
where it is. -/
def inlinePairs (item : Reader Data) : (fuel : Nat) → Reader (List (List String × Data))
  | 0, _ => .error .malformed
  | fuel + 1, cs =>
    if keyFollows cs then do
      let (pair, rest) ← readPair item cs
      match skipBlanks rest with
      | ',' :: more =>
        if keyFollows more then do
          let (pairs, rest) ← inlinePairs item fuel more
          return (pair :: pairs, rest)
        else return ([pair], ',' :: more)
      | rest => return ([pair], rest)
    else return ([], skipBlanks cs)

/-- A table in braces after the opening one. What is wrong with its keys comes before what is
wrong with its end. -/
def inlineTable (item : Reader Data) : Reader Data := fun cs => do
  let (pairs, rest) ← inlinePairs item (cs.length + 1) cs
  let entries ← addPairs none [] pairs
  let rest ← expect (skipChar '}' rest)
  return (.record (entriesToData entries), rest)

def stringValue : Scanner Data := fun cs =>
  (scanString cs).map fun (s, rest) => (.string (String.ofList s), rest)

def booleanValue (value : Bool) (spelling : String) : Scanner Data := fun cs =>
  (dropStart? spelling.toList cs).map fun rest => (.boolean value, rest)

/-- A value that nests at most `depth` deep. -/
def readValue : (depth : Nat) → Reader Data
  | _, '"' :: rest => expect (stringValue ('"' :: rest))
  | _, '\'' :: rest => expect (stringValue ('\'' :: rest))
  | 0, '[' :: _ => .error .malformed
  | depth + 1, '[' :: rest => do
    let (items, rest) ← arrayItems (readValue depth) rest.length rest
    return (.list items, rest)
  | 0, '{' :: _ => .error .malformed
  | depth + 1, '{' :: rest => inlineTable (readValue depth) rest
  | _, 't' :: rest => expect (booleanValue true "rue" rest)
  | _, 'f' :: rest => expect (booleanValue false "alse" rest)
  | _, cs => expect (scanNumberOrDate cs)

/-- How deep values may nest. -/
def maxDepth : Nat := 79

end GpuPlacement.Toml
