import GpuPlacement.Numa.Discovery
import GpuPlacement.Numa.Sysfs
import GpuPlacement.Topology.File

/-!
# The inventory of a topology

The devices that a topology declares, as discovery reports them. A GPU has its declared node, or
the one that sysfs knows for its bus ID; a MIG device has the node of its GPU.
-/

set_option autoImplicit false

namespace GpuPlacement.Numa

/-- Where the node of a device comes from. -/
inductive NodeSource where
  | declared (node : Int)
  | pci (busId : String)
  | unknown
  deriving DecidableEq, Repr

/-- A declared device. -/
structure InventoryDevice where
  uuid : String
  index : String
  source : NodeSource
  deriving DecidableEq, Repr

/-- Where the node of a GPU comes from: a declared node before a bus ID. -/
def nodeSource (g : Gpu) : NodeSource :=
  match g.numaNode, g.busId with
  | some node, _ => .declared node
  | none, some busId => .pci busId
  | none, none => .unknown

def migIndex (gpu mig : Nat) : String := s!"{gpu}:{mig}"

/-- A GPU and its MIG devices. -/
def gpuInventory (g : Gpu) : List InventoryDevice :=
  let source := nodeSource g
  ⟨g.uuid, toString g.index, source⟩ ::
    g.migs.mapIdx fun i mig => ⟨mig.uuid, migIndex g.index i, source⟩

/-- The devices of a topology, in file order. -/
def inventory (t : Topology) : List InventoryDevice := t.gpus.flatMap gpuInventory

namespace InventoryDevice

def node (d : InventoryDevice) (fs : FileSystem) (root : String) : Except Error Int :=
  match d.source with
  | .declared node => if 0 ≤ node then .ok node else .error (.numaNode d.uuid .negative)
  | .pci busId =>
    match Sysfs.pciNode fs root busId with
    | .error e => .error e
    | .ok none => .error (.numaNode d.uuid .noAffinity)
    | .ok (some node) => .ok node
  | .unknown => .error (.numaNode d.uuid .noSource)

def handle (d : InventoryDevice) (fs : FileSystem) (root : String) : DeviceHandle :=
  ⟨d.uuid, d.index, d.node fs root⟩

end InventoryDevice

/-- A topology as a discoverer, given the sysfs tree. -/
def inventoryDiscoverer (t : Topology) (fs : FileSystem) (root deviceVariable : String) :
    Discoverer where
  devices := .ok (distinctDevices ((inventory t).map fun d => d.handle fs root))
  deviceVariable := deviceVariable

/-- The topology in the file at a path, if its device list is well formed. -/
def checkedTopology (fs : FileSystem) (path : String) : Except GpuPlacement.Error Topology := do
  let t ← Topology.ofFile fs path
  let _ ← t.devices
  return t

end GpuPlacement.Numa
