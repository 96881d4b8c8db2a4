import GpuPlacement.Device
import GpuPlacement.Error
import GpuPlacement.Text.Numeral

/-!
# Scores

A pair of devices scores the points of all its links, a set of slots the points of all its
pairs, and a partition the points of all its sets. A slot that holds no device scores nothing.
Scores are numbers of 32 bits: a sum that needs more is a fault, and so is a pair whose two ends
disagree on how many links connect them.
-/

set_option autoImplicit false

namespace GpuPlacement

/-- The sum of two scores, if it still is one. -/
def addScores (s t : Nat) : Except Fault Nat :=
  if s + t ≤ Text.maxU32 then .ok (s + t) else .error .scoreOverflow

/-- The points of links added up. -/
def linkScore (links : List Link) : Except Fault Nat :=
  links.foldlM (fun total link => addScores total link.points) 0

/-- The score of two slots. A device and itself score nothing. -/
def pairScore : Option Device → Option Device → Except Fault Nat
  | some a, some b =>
    if a.same b then .ok 0
    else
      let forward := a.linksTo b.index
      let backward := b.linksTo a.index
      if forward.length ≠ backward.length then
        .error (.oneSidedLinks a.index b.index forward.length backward.length)
      else linkScore forward
  | _, _ => .ok 0

/-! ## Tables of pair scores

The search below compares very many sets of the same few devices, so the score of each pair is
computed once. Slots are numbered by position; those past the devices are padding. -/

/-- The scores of the pairs of a list of devices, by position. -/
structure ScoreTable where
  rows : Array (Array (Except Fault Nat))

namespace ScoreTable

def ofDevices (devices : List Device) : ScoreTable :=
  let slots := devices.toArray
  ⟨slots.map fun a => slots.map fun b => pairScore (some a) (some b)⟩

def pair (t : ScoreTable) (p q : Nat) : Except Fault Nat :=
  match t.rows[p]? with
  | none => .ok 0
  | some row => row[q]?.getD (.ok 0)

/-- `total` and the scores of the pairs of a set, in order of their first and then of their
second position. -/
def addPairs (t : ScoreTable) (total : Nat) : List Nat → Except Fault Nat
  | [] => .ok total
  | p :: rest => do
    let total ← rest.foldlM (fun total q => do addScores total (← t.pair p q)) total
    t.addPairs total rest

def ofSet (t : ScoreTable) (set : List Nat) : Except Fault Nat := t.addPairs 0 set

def ofPartition (t : ScoreTable) (partition : List (List Nat)) : Except Fault Nat :=
  partition.foldlM (fun total set => do addScores total (← t.ofSet set)) 0

/-- The table holds what `pairScore` gives. -/
theorem pair_ofDevices (devices : List Device) (p q : Nat) :
    (ofDevices devices).pair p q = pairScore devices[p]? devices[q]? := by
  simp only [pair, ofDevices, Array.getElem?_map, List.getElem?_toArray]
  cases devices[p]? with
  | none => cases devices[q]? <;> rfl
  | some a => cases h : devices[q]? <;> simp [h, pairScore]

end ScoreTable
end GpuPlacement
