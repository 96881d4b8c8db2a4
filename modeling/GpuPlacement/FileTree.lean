import GpuPlacement.FileSystem
import GpuPlacement.Text.Split

/-!
# An in-memory file tree

A tree of directories and files that answers the questions of `FileSystem`. Paths are
resolved one piece at a time from the root: an empty piece and `.` stay where they are,
`..` goes up, and every step out of a node asks that the node is a directory, which is
why a slash after a file name fails.
-/

set_option autoImplicit false

namespace GpuPlacement

/-- A file with its bytes, or a directory with its named children. -/
inductive FileTree where
  | file (content : ByteArray)
  | dir (entries : List (String × FileTree))

namespace FileTree

/-- The longest name of a directory entry, in bytes. -/
def maxNameSize : Nat := 255

/-- The size in bytes from which on a path is too long. -/
def maxPathSize : Nat := 4096

/-- Follows pieces of a path from the first of `trail`, the nodes from here to the root. -/
def follow : List FileTree → List String → Except FileError FileTree
  | [], _ => .error .notFound
  | node :: _, [] => .ok node
  | .file _ :: _, _ :: _ => .error .notADirectory
  | .dir entries :: above, piece :: rest =>
    if piece = "" ∨ piece = "." then follow (.dir entries :: above) rest
    else if piece = ".." then
      match above with
      | [] => follow [.dir entries] rest
      | parent :: more => follow (parent :: more) rest
    else if maxNameSize < piece.utf8ByteSize then .error .nameTooLong
    else
      match entries.lookup piece with
      | none => .error .notFound
      | some child => follow (child :: .dir entries :: above) rest

/-- The pieces between the slashes of a path. -/
def pieces (path : String) : List String :=
  (Text.splitOn '/' path.toList).map String.ofList

/-- The node at a path. A relative path starts at the root too, and an empty one names nothing. -/
def resolve (root : FileTree) (path : String) : Except FileError FileTree :=
  if path.toList.contains '\x00' then .error .embeddedNul
  else if maxPathSize ≤ path.utf8ByteSize then .error .nameTooLong
  else if path = "" then .error .notFound
  else follow [root] (pieces path)

def readText (root : FileTree) (path : String) : Except FileError String :=
  match root.resolve path with
  | .error e => .error e
  | .ok (.dir _) => .error .isADirectory
  | .ok (.file content) =>
    match String.fromUTF8? content with
    | some text => .ok text
    | none => .error .notText

def list (root : FileTree) (path : String) : Except FileError (List String) :=
  match root.resolve path with
  | .error e => .error e
  | .ok (.file _) => .error .notADirectory
  | .ok (.dir entries) => .ok (entries.map Prod.fst)

def fileSystem (root : FileTree) : FileSystem where
  readText := root.readText
  list := root.list

/-! ## Changing the tree -/

/-- `entries` with `child` under `name`, in the place of what was there. -/
def put (name : String) (child : FileTree) :
    List (String × FileTree) → List (String × FileTree)
  | [] => [(name, child)]
  | entry :: rest => if entry.1 = name then (name, child) :: rest else entry :: put name child rest

/-- Puts `node` at the end of a list of names and makes the directories on the way. -/
def insert (node : FileTree) : List String → FileTree → FileTree
  | [], _ => node
  | name :: rest, .dir entries =>
    .dir (put name (insert node rest ((entries.lookup name).getD (.dir []))) entries)
  | name :: rest, .file _ => .dir [(name, insert node rest (.dir []))]

/-- Removes what the list of names leads to, with everything below it. -/
def erase : List String → FileTree → FileTree
  | [], tree => tree
  | _, .file content => .file content
  | [name], .dir entries => .dir (entries.filter fun entry => entry.1 ≠ name)
  | name :: rest, .dir entries =>
    match entries.lookup name with
    | none => .dir entries
    | some child => .dir (put name (erase rest child) entries)

/-! ## Paths in the tree that is changed -/

/-- The names that lead to a path from the root: a step up takes back the name before it. -/
def names (path : String) : List String :=
  (pieces path).foldl (fun trail piece =>
    if piece = "" ∨ piece = "." then trail
    else if piece = ".." then trail.dropLast
    else trail ++ [piece]) []

/-- Makes the directory at the end of a list of names, unless something is there. -/
def makeDirectory (trail : List String) (tree : FileTree) : FileTree :=
  match follow [tree] trail with
  | .ok _ => tree
  | .error _ => insert (.dir []) trail tree

/-- Makes every directory that the pieces of a path step out of by going up, starting at the
end of `trail`. -/
def makeSteps : List String → List String → FileTree → FileTree
  | _, [], tree => tree
  | trail, piece :: rest, tree =>
    if piece = "" ∨ piece = "." then makeSteps trail rest tree
    else if piece = ".." then makeSteps trail.dropLast rest (makeDirectory trail tree)
    else makeSteps (trail ++ [piece]) rest tree

/-- Puts `node` at a path and makes the directories on the way. -/
def write (tree : FileTree) (path : String) (node : FileTree) : FileTree :=
  insert node (names path) (makeSteps [] (pieces path) tree)

/-- Removes what is at a path, with everything below it. -/
def remove (tree : FileTree) (path : String) : FileTree := erase (names path) tree

end FileTree
end GpuPlacement
