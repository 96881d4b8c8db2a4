import GpuPlacement.Policy.Partition
import GpuPlacement.Policy.Request
import GpuPlacement.Policy.Score

/-!
# The best-effort policy

Taking the best-connected group of a size at once can leave the other devices badly connected
for the requests that follow. This policy therefore splits all available devices into groups of
the size asked for, keeps the split with the highest score, and hands out the best group of that
split. A group counts only if it is full and holds every required device, and a split only if it
has such a group. Among equals the first found wins.
-/

set_option autoImplicit false

namespace GpuPlacement

/-- The better of the best item so far and a new one with its score. Among equals the first stays. -/
def better {α : Type} (best : Option (α × Nat)) (item : α) (score : Nat) : Option (α × Nat) :=
  match best with
  | some (_, highest) => if highest < score then some (item, score) else best
  | none => some (item, score)

/-- The first item with the highest score. Every item is scored, in order. -/
def firstBest {α : Type} (score : α → Except Fault Nat) (items : List α) :
    Except Fault (Option α) := do
  let best ← items.foldlM (fun best item => return better best item (← score item)) none
  return best.map Prod.fst

/-- Whether a group of positions is full and holds every required device. -/
def holdsRequired (available : Array Device) (required : List Device) (group : List Nat) : Bool :=
  group.all (fun p => p < available.size) &&
    required.all fun d => group.any fun p => available[p]?.any fun member => member.same d

/-- The group that the best split offers, in the order of `available`. Empty if no split has a
group with every required device. -/
def bestEffort (available required : List Device) (size : Nat) : Except Fault (List Device) :=
  if isUnsatisfiable available.length required.length size then .ok []
  else do
    let table := ScoreTable.ofDevices available
    let holds := holdsRequired available.toArray required
    let candidates := (partitions available.length size).filter fun split => split.any holds
    match ← firstBest table.ofPartition candidates with
    | none => return []
    | some split =>
      match ← firstBest table.ofSet (split.filter holds) with
      | none => return []
      | some group => return group.filterMap fun p => available[p]?

end GpuPlacement
