import GpuPlacement.Device.List

/-!
# Topologies

A topology lists the GPUs of a node with their MIG devices, and the links between pairs of
GPUs. `Topology.devices` turns it into the device list that everything else works on, if it
is well formed: indices count up from zero, nodes are not negative, no UUID occurs twice, and
links join two different GPUs of the list. A link is declared once and made in both
directions, so the two ends of every pair agree.
-/

set_option autoImplicit false

namespace GpuPlacement

/-- A MIG device, a part of a GPU. -/
structure Mig where
  uuid : String
  deriving DecidableEq, Repr

/-- A GPU of a topology. -/
structure Gpu where
  index : Nat
  uuid : String
  busId : Option String
  /-- The NUMA node; where it is absent the node is looked up by the bus ID. -/
  numaNode : Option Int
  /-- The MIG devices of the GPU, by MIG index. -/
  migs : List Mig
  deriving DecidableEq, Repr

/-- Links between two GPUs, in both directions. -/
structure LinkEntry where
  a : Nat
  b : Nat
  types : List Link
  deriving DecidableEq, Repr

/-- The description of a node. -/
structure Topology where
  gpus : List Gpu
  links : List LinkEntry
  deriving DecidableEq, Repr

namespace Gpu

/-- The UUID of the GPU and those of its MIG devices. -/
def uuids (g : Gpu) : List String := g.uuid :: g.migs.map Mig.uuid

/-- The GPU as a device that has no links yet. -/
def device (g : Gpu) : Device := ⟨g.index, g.uuid, g.busId, .empty⟩

end Gpu

namespace Topology

/-- The GPUs by ascending index; equal indices stay in file order. -/
def byIndex (t : Topology) : List Gpu :=
  t.gpus.mergeSort fun g h => g.index ≤ h.index

/-- Adds UUIDs to those already seen, up to the first that is among them. -/
def addUuids (seen : List String) : List String → Except Error (List String)
  | [] => .ok seen
  | uuid :: rest =>
    if seen.contains uuid then .error (.topology (.duplicateUuid uuid))
    else addUuids (uuid :: seen) rest

/-- Checks the GPUs from a position on, given the UUIDs seen before it. -/
def checkGpus (position : Nat) (seen : List String) : List Gpu → Except Error Unit
  | [] => .ok ()
  | g :: rest =>
    if g.index ≠ position then .error (.topology (.strayIndex g.index position))
    else
      match g.numaNode.filter (· < 0) with
      | some node => .error (.topology (.negativeNode g.index node))
      | none =>
        match addUuids seen g.uuids with
        | .error e => .error e
        | .ok seen => checkGpus (position + 1) seen rest

/-- Makes the declared links in file order, up to the first that does not join two different
devices of the list. -/
def addLinks (devices : List Device) : List LinkEntry → Except Error (List Device)
  | [] => .ok devices
  | l :: rest =>
    if l.a = l.b ∨ devices.length ≤ l.a ∨ devices.length ≤ l.b then
      .error (.topology (.invalidLink l.a l.b))
    else
      addLinks (l.types.foldl (fun ds type => connected ds l.a l.b type) devices) rest

/-- The device list of a well-formed topology: position and index agree. -/
def devices (t : Topology) : Except Error (List Device) :=
  match checkGpus 0 [] t.byIndex with
  | .error e => .error e
  | .ok () => addLinks (t.byIndex.map Gpu.device) t.links

end Topology
end GpuPlacement
