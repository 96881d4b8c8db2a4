import GpuPlacement.Numa.Discovery
import GpuPlacement.Numa.NodeList

/-!
# The node cache

The system nodes, found once, and the node of every device looked up so far. A device does not
change its node, so an entry is never replaced and never removed; a device that is not there yet
is asked for, together with all others that are missing, in one enumeration.
-/

set_option autoImplicit false

namespace GpuPlacement.Numa

/-- The nodes of devices by UUID. -/
abbrev NodeTable := List (String × Int)

/-- What is known about the nodes of the system and of its devices. -/
structure Cache where
  /-- The nodes that have processors. -/
  systemNodes : List Int
  nodeTable : NodeTable
  deriving DecidableEq, Repr

namespace Cache

def cachedNode (c : Cache) (uuid : String) : Option Int := c.nodeTable.lookup uuid

def size (c : Cache) : Nat := c.nodeTable.length

def isEmpty (c : Cache) : Bool := c.nodeTable.isEmpty

/-! ## Filling the cache -/

/-- The nodes of all devices, up to the first that has none. -/
def tableOf : List DeviceHandle → Except Error NodeTable
  | [] => .ok []
  | d :: rest => do
    let node ← d.node
    let table ← tableOf rest
    return (d.uuid, node) :: table

/-- A cache of the system nodes and of the nodes of all devices. -/
def discover (system : Except Error (List Int)) (d : Discoverer) : Reply Cache := do
  let systemNodes ← Reply.asking .systemNodes system
  let devices ← d.allDevices
  let table ← tableOf devices
  return ⟨systemNodes, table⟩

/-- The nodes of UUIDs, and the table with those that were missing. The first that can not be
found fails; what was found before it stays in the table. -/
def fill (devices : List DeviceHandle) :
    NodeTable → List String → Except Error (List Int) × NodeTable
  | table, [] => (.ok [], table)
  | table, uuid :: rest =>
    match table.lookup uuid with
    | some node =>
      let (nodes, table) := fill devices table rest
      (nodes.map (node :: ·), table)
    | none =>
      match findByUuid? devices uuid with
      | none => (.error (.deviceNotFound uuid), table)
      | some d =>
        match d.node with
        | .error e => (.error e, table)
        | .ok node =>
          let (nodes, table) := fill devices (table ++ [(uuid, node)]) rest
          (nodes.map (node :: ·), table)

/-- The nodes of UUIDs, in the same order, and the cache after the lookup. Devices are asked for
only if a UUID is missing. -/
def deviceNodes (c : Cache) (d : Discoverer) (uuids : List String) : Reply (List Int) × Cache :=
  match uuids.mapM c.cachedNode with
  | some nodes => (pure nodes, c)
  | none =>
    let found := d.allDevices
    match found.result with
    | .error e => (⟨.error e, found.queries⟩, c)
    | .ok devices =>
      let (nodes, table) := fill devices c.nodeTable uuids
      (⟨nodes, found.queries⟩, { c with nodeTable := table })

/-! ## Containers -/

/-- The system nodes among those a container is constrained to; all of them if there are none
or it is not constrained. -/
def baseNodes (c : Cache) (mems : Option String) : Except Error (List Int) := do
  let constraint ← match mems with
    | none => pure []
    | some mems => NodeList.parse mems
  let kept := constraint.filter fun n => c.systemNodes.contains n
  return if kept.isEmpty then c.systemNodes else kept

/-- The nodes a container is to be constrained to: its own as far as they are system nodes, and
then those of its devices. Nodes may be listed more than once. -/
def resolve (c : Cache) (d : Discoverer) (container : Container) :
    Reply (List Int) × Cache :=
  let assigned : Reply (List Int × List String) := do
    let base ← c.baseNodes container.mems
    let uuids ← d.assignedDevices container
    return (base, uuids)
  match assigned.result with
  | .error e => (⟨.error e, assigned.queries⟩, c)
  | .ok (base, uuids) =>
    let (nodes, c) := c.deviceNodes d uuids
    (⟨nodes.result.map (base ++ ·), assigned.queries ++ nodes.queries⟩, c)

end Cache
end GpuPlacement.Numa
