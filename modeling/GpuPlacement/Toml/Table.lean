import GpuPlacement.Data
import GpuPlacement.DocumentError
import GpuPlacement.Toml.Text

/-!
# Tables under construction

A TOML document defines its tables piecemeal: by headers, by dotted keys, and by the mere
mention of a longer path. Which of these may come back to a table that is already there is
what this file decides. A table that was only mentioned on the way to another one is
*implicit*, and a later header may still define it; one made by dotted keys may be extended by
dotted keys alone; a table written in braces is a value and may not be extended at all.
-/

set_option autoImplicit false

namespace GpuPlacement.Toml

/-- What stands under a key while a document is read. -/
inductive Item where
  /-- A value, complete when it was written. -/
  | value (data : Data)
  | table (implicit dotted : Bool) (entries : List (String × Item))
  | tables (elements : List (List (String × Item)))

/-- The entries of a table in the order in which their keys first appeared. -/
abbrev Entries := List (String × Item)

/-- `entries` with another item under a key that is there. -/
def replaceItem (key : String) (item : Item) (entries : Entries) : Entries :=
  entries.map fun entry => if entry.1 = key then (key, item) else entry

/-- What a path to a table is part of: a header, a key of the document, or a key in braces. -/
inductive Route where
  | header
  | key
  | bracedKey
  deriving DecidableEq

def typeName : Data → String
  | .null => "null"
  | .boolean _ => "boolean"
  | .integer _ => "integer"
  | .real _ => "float"
  | .string _ => "string"
  | .datetime _ => "datetime"
  | .list _ => "array"
  | .record _ => "inline table"

/-- Why no path may go through a value. In braces a table is there already; otherwise the value
is no table that could be extended. `walked` is the path up to the value. -/
def valueInTheWay (route : Route) (walked : List String) (key : String) (value : Data) :
    DocumentError :=
  match route, value with
  | .bracedKey, .record _ => .repeatedKey key none
  | _, _ => .extendedValue (walked ++ [key]) (typeName value)

/-- Changes the table at the end of a path, which `change` gets with the mark whether dotted
keys made it. Missing tables on the way are made implicit. A header may pass through any table,
a key only through implicit ones; the last element stands for an array of tables. -/
def updateAt (route : Route) (change : Bool → Entries → Except DocumentError Entries)
    (walked : List String) : List String → Bool → Entries → Except DocumentError Entries
  | [], isDotted, entries => change isDotted entries
  | key :: path, _, entries =>
    let dotted := route != .header
    match entries.lookup key with
    | none => do
      let inner ← updateAt route change (walked ++ [key]) path dotted []
      return entries ++ [(key, .table true dotted inner)]
    | some (.value value) => .error (valueInTheWay route walked key value)
    | some (.table implicit isDotted inner) =>
      if dotted && !implicit then .error (.repeatedKey key none)
      else do
        let inner ← updateAt route change (walked ++ [key]) path isDotted inner
        return replaceItem key (.table implicit isDotted inner) entries
    | some (.tables elements) =>
      match elements.getLast? with
      | none => .error .malformed
      | some last => do
        let last ← updateAt route change (walked ++ [key]) path false last
        return replaceItem key (.tables (elements.dropLast ++ [last])) entries

/-- Adds a value under a dotted key. The key must be new, and a table on the way to it must be
one that dotted keys made. `table` is the path of the table that the key stands in; a table in
braces has none. -/
def addPair (table : Option (List String)) (entries : Entries) (pair : List String × Data) :
    Except DocumentError Entries :=
  match pair.1.getLast? with
  | none => .error .malformed
  | some key =>
    let path := pair.1.dropLast
    let route : Route := if table.isSome then .key else .bracedKey
    updateAt route (fun isDotted inner =>
      if isDotted == path.isEmpty then .error (.repeatedKey key none)
      else if (inner.lookup key).isSome then .error (.repeatedKey key table)
      else .ok (inner ++ [(key, .value pair.2)])) [] path false entries

def addPairs (table : Option (List String)) (entries : Entries)
    (pairs : List (List String × Data)) : Except DocumentError Entries :=
  pairs.foldlM (addPair table) entries

/-- What opens a section of a document. -/
inductive Header where
  | top
  | table (path : List String)
  | element (path : List String)

/-- A header with the key-value pairs below it. -/
structure Section where
  header : Header
  pairs : List (List String × Data)

/-- The key of a header as messages show it: quoted, unless it is bare. -/
def headerKey (key : String) : String :=
  if key != "" && key.toList.all isBare then key else Text.quoted key

/-- Adds a section to the document. A table header may define a table that so far was only
mentioned, which then counts as new; an element header needs an array of tables or nothing.
A header that may not stand is the first problem of its section. -/
def addSection (root : Entries) (s : Section) : Except DocumentError Entries :=
  match s.header with
  | .top => addPairs (some []) root s.pairs
  | .table path =>
    match path.getLast? with
    | none => .error .malformed
    | some key =>
      updateAt .header (fun _ parent =>
        match parent.lookup key with
        | none => do
          let inner ← addPairs (some path) [] s.pairs
          return parent ++ [(key, .table false false inner)]
        | some (.table true false mentioned) => do
          let inner ← addPairs (some path) mentioned s.pairs
          return parent.filter (fun entry => entry.1 ≠ key) ++ [(key, .table false false inner)]
        | some _ => .error (.repeatedKey (headerKey key) (some path.dropLast)))
        [] path.dropLast false root
  | .element path =>
    match path.getLast? with
    | none => .error .malformed
    | some key =>
      updateAt .header (fun _ parent =>
        match parent.lookup key with
        | none => do
          let inner ← addPairs (some path) [] s.pairs
          return parent ++ [(key, .tables [inner])]
        | some (.tables elements) => do
          let inner ← addPairs (some path) [] s.pairs
          return replaceItem key (.tables (elements ++ [inner])) parent
        | some _ => .error (.repeatedKey (headerKey key) (some path.dropLast)))
        [] path.dropLast false root

/-! ## Finished tables -/

mutual

def Item.toData : Item → Data
  | .value data => data
  | .table _ _ entries => .record (entriesToData entries)
  | .tables elements => .list (elementsToData elements)

def entriesToData : List (String × Item) → List (String × Data)
  | [] => []
  | (key, item) :: rest => (key, item.toData) :: entriesToData rest

def elementsToData : List (List (String × Item)) → List Data
  | [] => []
  | entries :: rest => .record (entriesToData entries) :: elementsToData rest

end

end GpuPlacement.Toml
