import Mathlib.Data.PFun
import GpuPlacement.Policy.BestEffort

/-!
# The best-effort policy, as loops

`partitions` (Policy/Partition.lean) lists the ways to split positions. Here they are visited one
after another, and nothing is listed: a callback is handed each of them, together with the state
that it left behind the time before. Combinations of positions come from one flat loop that stands
for as many nested ones as positions are chosen, and partitions from a recursion that goes through
the combinations of what is not in a group yet. The policy (Policy/BestEffort.lean) keeps the best
of the partitions while they are visited.

Nothing in these loops says that they end or that they stay within their buffers. A loop that does
not end has no value (`Part`), and a place that is not there is a fault.
-/

set_option autoImplicit false

namespace GpuPlacement

/-- Why a search breaks off. -/
inductive SearchFault where
  | fault (cause : Fault)
  /-- Less than a group is left to be split. -/
  | poolTooSmall
  deriving DecidableEq, Repr

def SearchFault.message : SearchFault → String
  | .fault cause => cause.message
  | .poolTooSmall => "Internal error in best effort allocation policy"

/-- What a search comes to: a result or a fault, if it ends. -/
abbrev Search (α : Type) := ExceptT SearchFault Part α

/-- A device, or the padding that stands in for one. -/
abbrev Slot := Option Device

namespace Search

variable {α β σ : Type}

/-! ## Loops and buffers -/

/-- How a turn of a loop ends: with the variables for the next one, or with the loop's result. -/
inductive Turn (α β : Type) where
  | again (next : α)
  | done (result : β)

/-- Turns until one of them says that it was the last. -/
def loop (turn : α → Search (Turn α β)) (a : α) : Search β :=
  ExceptT.mk <| PFun.fix (fun a => (turn a).run.map fun
    | .error fault => .inl (.error fault)
    | .ok (.done result) => .inl (.ok result)
    | .ok (.again next) => .inr next) a

def outOfBounds (length position : Nat) : Search α :=
  throw (.fault (.positionOutOfBounds length position))

def entry (buffer : List α) (i : Nat) : Search α :=
  match buffer[i]? with
  | some x => pure x
  | none => outOfBounds buffer.length i

def assign (buffer : List α) (i : Nat) (x : α) : Search (List α) :=
  if i < buffer.length then pure (buffer.set i x) else outOfBounds buffer.length i

/-! ## Combinations -/

/-- The variables of the loop over combinations. Each entry of `indices` is the counter of a loop
inside the one before it, and `level` is the loop that goes on. -/
structure Odometer (σ : Type) where
  indices : List Nat
  level : Nat
  state : σ

/-- A counter that has come to `n` ends its loop. A loop further in starts behind the counter of the
one it is in, and only the innermost calls. -/
def Odometer.turn (n size : Nat) (visit : σ → List Nat → Search σ) (o : Odometer σ) :
    Search (Turn (Odometer σ) σ) := do
  let counter ← entry o.indices o.level
  if counter = n then
    match o.level with
    | 0 => return .done o.state
    | outer + 1 =>
      let indices ← assign o.indices outer ((← entry o.indices outer) + 1)
      return .again ⟨indices, outer, o.state⟩
  else if o.level < size - 1 then
    let indices ← assign o.indices (o.level + 1) (counter + 1)
    return .again ⟨indices, o.level + 1, o.state⟩
  else
    let state ← visit o.state o.indices
    let indices ← assign o.indices o.level (counter + 1)
    return .again ⟨indices, o.level, state⟩

/-- Visits the combinations of `size` positions below `n`. -/
def forEachCombination (n size : Nat) (visit : σ → List Nat → Search σ) (s : σ) : Search σ :=
  if size = 0 ∨ n < size then return s
  else loop (Odometer.turn n size visit) ⟨List.replicate size 0, 0, s⟩

/-! ## Partitions -/

def countPadding (slots : List Slot) : Nat := (slots.filter Option.isNone).length

/-- Adds padding until groups of `size` take all there is. -/
def pad (size : Nat) : List Slot → Search (List Slot) :=
  loop fun slots =>
    if slots.length % size ≠ 0 then return .again (slots ++ [none]) else return .done slots

/-- The slots at other places than those. -/
def others (slots : List Slot) (chosen : List Nat) : List Slot :=
  (slots.zipIdx.filter fun (_, i) => !chosen.contains i).map Prod.fst

theorem length_others_le (slots : List Slot) (chosen : List Nat) :
    (others slots chosen).length ≤ slots.length := by
  rw [others, List.length_map]
  exact Nat.le_trans (List.length_filter_le _ _) (Nat.le_of_eq List.length_zipIdx)

/-- Visits the partitions of a pool behind the groups there are. The first slot is always in the
next group. A group with some of the padding but not with all of it is passed over. -/
def partitionRec (size padding : Nat) (visit : σ → List (List Slot) → Search σ)
    (slots : List Slot) (groups : List (List Slot)) (s : σ) : Search σ :=
  if slots.length < size then throw .poolTooSmall
  else if size = slots.length then visit s (groups ++ [slots])
  else
    match slots with
    | [] => outOfBounds 0 0
    | first :: rest =>
      forEachCombination rest.length (size - 1) (fun s chosen => do
        let group := first :: (← chosen.mapM (entry rest))
        let p := countPadding group
        if p ≠ 0 ∧ p ≠ padding then return s
        else partitionRec size padding visit (others rest chosen) (groups ++ [group]) s) s
  termination_by slots.length
  decreasing_by exact Nat.lt_succ_of_le (length_others_le rest chosen)

/-- Visits the partitions of devices into groups of `size`. Groups of one are not part of a
partition: each device is handed over alone. -/
def forEachPartition (devices : List Device) (size : Nat)
    (visit : σ → List (List Slot) → Search σ) (s : σ) : Search σ :=
  if size = 0 ∨ devices.length < size then return s
  else if size = 1 then devices.foldlM (fun s d => visit s [[some d]]) s
  else do
    let padded ← pad size (devices.map some)
    partitionRec size (countPadding padded) visit padded [] s

/-! ## The policy -/

/-- What ends in any case. -/
def ofExcept : Except Fault α → Search α
  | .ok a => pure a
  | .error fault => throw (.fault fault)

/-- The points of all pairs of a set. -/
def setScore (set : List Slot) : Search Nat :=
  forEachCombination set.length 2 (fun score pair => do
    let a ← entry set (← entry pair 0)
    let b ← entry set (← entry pair 1)
    ofExcept (do addScores score (← pairScore a b))) 0

def partitionScore (partition : List (List Slot)) : Search Nat :=
  partition.foldlM (fun total set => do ofExcept (addScores total (← setScore set))) 0

/-- Whether a set is full and holds every required device. -/
def holdsAll (required : List Device) (set : List Slot) : Bool :=
  countPadding set == 0 &&
    required.all fun d => set.any fun slot => slot.any fun member => member.same d

/-- The group that the best partition offers. -/
def bestEffort (available required : List Device) (size : Nat) : Search (List Device) :=
  if isUnsatisfiable available.length required.length size then return []
  else do
    let best ← forEachPartition available size (fun best partition => do
      if partition.any (holdsAll required) then
        return better best partition (← partitionScore partition)
      else return best) none
    match best with
    | none => return []
    | some (partition, _) =>
      let bestSet ← (partition.filter (holdsAll required)).foldlM (fun best set => do
        return better best set (← setScore set)) none
      match bestSet with
      | none => return []
      | some (set, _) => return set.filterMap id

end Search
end GpuPlacement
