import GpuPlacement.Device.Set
import GpuPlacement.Policy.Request

/-!
# Policies of fixed groups

Machines whose links are known in advance need no search: for each size there is a table of
groups of device indices that belong together. A request gets the first group that holds all
required devices and whose other members are all available.
-/

set_option autoImplicit false

namespace GpuPlacement

/-- The groups of a machine by their size. -/
structure FixedGroups where
  name : String
  groups : List (Nat × List (List Nat))
  deriving DecidableEq, Repr

namespace FixedGroups

/-! ## The machines -/

def singles (count : Nat) : List (List Nat) := (List.range count).map fun i => [i]

/-- The runs of `size` neighbours. -/
def runs (count size : Nat) : List (List Nat) :=
  (List.range count).map fun k => (List.range size).map fun i => k * size + i

def dgx1Pascal : FixedGroups where
  name := "static-dgx1-pascal"
  groups := [
    (1, singles 8),
    (2, [[0, 2], [1, 3], [4, 6], [5, 7]]),
    (4, runs 2 4),
    (8, runs 1 8)]

def dgx1Volta : FixedGroups where
  name := "static-dgx1-volta"
  groups := [
    (1, singles 8),
    (2, [[0, 3], [1, 2], [4, 7], [5, 6]]),
    (4, runs 2 4),
    (8, runs 1 8)]

def dgx2Volta : FixedGroups where
  name := "static-dgx2-volta"
  groups := [
    (1, singles 16),
    (2, runs 8 2),
    (4, runs 4 4),
    (8, runs 2 8),
    (16, runs 1 16)]

/-! ## Finding a group -/

def ofSize (t : FixedGroups) (size : Nat) : List (List Nat) := (t.groups.lookup size).getD []

/-- The devices that members of a group find by their index, in group order. -/
def pick (group : List Nat) (devices : List Device) : List Device :=
  group.filterMap fun i => devices.find? fun d => d.index == i

/-- The first group that holds all required devices and fills up to `size` from the candidates:
its required members and then its other ones, both in group order. -/
def findGroup (required candidates : List Device) (size : Nat) : List (List Nat) → List Device
  | [] => []
  | group :: rest =>
    if required.all fun d => group.contains d.index then
      let chosen := pick group required ++ pick group candidates
      if chosen.length = size then chosen else findGroup required candidates size rest
    else findGroup required candidates size rest

/-- The group for a request, empty if there is none. -/
def allocate (t : FixedGroups) (available required : List Device) (size : Nat) : List Device :=
  let pool := DeviceSet.ofList available
  if isUnsatisfiable available.length required.length size || !pool.containsAll required then []
  else findGroup required (pool.erase required).sorted size (t.ofSize size)

end FixedGroups
end GpuPlacement
