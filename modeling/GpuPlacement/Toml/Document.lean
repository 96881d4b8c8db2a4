import GpuPlacement.Toml.Value

/-!
# TOML documents

A document is a sequence of lines: blank ones, comments, headers and key-value pairs. Lines are
gathered into sections, one a header, and the sections are added to the root table in turn.
Any error of notation, and any key defined twice, makes the whole document unreadable.
-/

set_option autoImplicit false

namespace GpuPlacement.Toml

open Text (Scanner)

inductive Line where
  | header (h : Header)
  | pair (key : List String) (value : Data)

/-- A header between brackets, after the opening one. Two opening brackets in a row stand for
an element of an array of tables. -/
def scanHeader : Scanner Header
  | '[' :: rest => do
    let (path, rest) ← scanKey rest
    let rest ← skipChar ']' rest
    let rest ← skipChar ']' rest
    return (.element path, rest)
  | rest => do
    let (path, rest) ← scanKey rest
    let rest ← skipChar ']' rest
    return (.table path, rest)

def readLine : Reader Line
  | '[' :: rest => do
    let (header, rest) ← expect (scanHeader rest)
    return (.header header, ← expect (afterLine? rest))
  | cs => do
    let ((key, value), rest) ← readPair (readValue maxDepth) cs
    return (.pair key value, ← expect (afterLine? rest))

/-- The meaningful lines of a document up to the first that is broken, and what is wrong
with it. -/
def readLines : (fuel : Nat) → List Char → List Line × Option DocumentError
  | 0, _ => ([], some .malformed)
  | fuel + 1, cs =>
    match skipBlanks cs with
    | [] => ([], none)
    | cs =>
      match afterLine? cs with
      | some rest => readLines fuel rest
      | none =>
        match readLine cs with
        | .error e => ([], some e)
        | .ok (line, rest) =>
          let (lines, problem) := readLines fuel rest
          (line :: lines, problem)

/-- Lines as sections, the first of them under `header` with the pairs already found. -/
def sections (header : Header) (pairs : List (List String × Data)) : List Line → List Section
  | [] => [⟨header, pairs.reverse⟩]
  | .pair key value :: rest => sections header ((key, value) :: pairs) rest
  | .header next :: rest => ⟨header, pairs.reverse⟩ :: sections next [] rest

/-- A document as data. A byte order mark at the front is dropped. The first problem wins, be it
a broken line or a line that may not follow the ones before it. -/
def read (text : String) : Except DocumentError Data := do
  let cs := match text.toList with
    | '\ufeff' :: rest => rest
    | cs => cs
  let (lines, problem) := readLines (cs.length + 1) cs
  let root ← (sections .top [] lines).foldlM addSection []
  match problem with
  | some e => .error e
  | none => return .record (entriesToData root)

end GpuPlacement.Toml
