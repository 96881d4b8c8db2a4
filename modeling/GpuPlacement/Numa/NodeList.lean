import GpuPlacement.Numa.Error
import GpuPlacement.Text.Blank
import GpuPlacement.Text.Split

/-!
# Node lists

The compact notation for sets of NUMA nodes: numbers and closed ranges between commas, as in
`0-3,5`. Reading allows blanks around every number, any order and any overlap, and gives the
nodes in ascending order, each once. Writing joins neighbours into ranges, so that a set has one
written form.
-/

set_option autoImplicit false

namespace GpuPlacement.Numa.NodeList

def sortedDistinct (nodes : List Int) : List Int :=
  (nodes.mergeSort fun m n => m ≤ n).foldr
    (fun n out => if out.head? = some n then out else n :: out) []

/-! ## Reading -/

/-- One number, with blanks around it. Nodes have 16 bits. -/
def readNode (piece : List Char) : Except NodeListCause Nat :=
  (Text.readNat Text.maxU16 (Text.trim piece)).mapError (.invalidNode (String.ofList piece))

/-- The nodes of a number or of a range, which stands on both sides of the first hyphen. -/
def readPart (part : List Char) : Except NodeListCause (List Nat) :=
  let part := Text.trim part
  match Text.splitFirst? '-' part with
  | none => (readNode part).map fun n => [n]
  | some (first, last) => do
    let first ← readNode first
    let last ← readNode last
    if last < first then .error (.invalidRange (String.ofList part) first last)
    else .ok (List.range' first (last - first + 1))

/-- The nodes of parts, up to the first part that is invalid. -/
def readParts : List (List Char) → Except NodeListCause (List Nat)
  | [] => .ok []
  | part :: rest => do
    let nodes ← readPart part
    let more ← readParts rest
    return nodes ++ more

/-- The nodes of a list. A blank text is the empty list. -/
def parse (input : String) : Except Error (List Int) :=
  match Text.trim input.toList with
  | [] => .ok []
  | cs =>
    match readParts (Text.splitOn ',' cs) with
    | .error cause => .error (.invalidNodeList input cause)
    | .ok nodes => .ok (sortedDistinct (nodes.map Int.ofNat))

/-! ## Writing -/

/-- Puts a node before the runs of larger ones: it joins the first run if it is next to it. -/
def addToRuns (n : Int) : List (Int × Int) → List (Int × Int)
  | [] => [(n, n)]
  | (first, last) :: more =>
    if n + 1 = first then (n, last) :: more else (n, n) :: (first, last) :: more

/-- The runs of neighbours in an ascending list, as their first and last nodes. -/
def runs (nodes : List Int) : List (Int × Int) := nodes.foldr addToRuns []

def formatRun (run : Int × Int) : String :=
  if run.1 = run.2 then toString run.1 else s!"{run.1}-{run.2}"

/-- A set of nodes in compact notation. -/
def format (nodes : List Int) : String :=
  String.intercalate "," ((runs (sortedDistinct nodes)).map formatRun)

end GpuPlacement.Numa.NodeList
