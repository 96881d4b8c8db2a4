import GpuPlacement.FileSystem
import GpuPlacement.Numa.BusId
import GpuPlacement.Numa.Error
import GpuPlacement.Text.Blank
import GpuPlacement.Text.Split

/-!
# The sysfs tree

What the kernel says about NUMA: which nodes have processors, and which node a PCI device is
attached to. A missing file or a negative number for a device means that it has no affinity.
-/

set_option autoImplicit false

namespace GpuPlacement.Numa.Sysfs

/-! ## System nodes -/

/-- The number behind `node` in the name of a node directory. -/
def nodeId? (name : String) : Option Int :=
  (Text.dropStart? "node".toList name.toList).bind fun digits =>
    (Text.readInt 32 digits).toOption

/-- The nodes among directory names that have processors: their list of processors is not
blank. The first list that can not be read fails. -/
def nodesWithCpus (fs : FileSystem) (dir : String) : List String → Except SystemCause (List Int)
  | [] => .ok []
  | name :: rest =>
    match nodeId? name with
    | none => nodesWithCpus fs dir rest
    | some id =>
      match fs.readText (Path.join (Path.join dir name) "cpulist") with
      | .error e => .error (.unreadableCpus id e)
      | .ok cpus => do
        let nodes ← nodesWithCpus fs dir rest
        return if (Text.trim cpus.toList).isEmpty then nodes else id :: nodes

def nodeDir (root : String) : String := Path.join root "devices/system/node"

/-- The nodes that have processors, ascending. -/
def systemNodes (fs : FileSystem) (root : String) : Except Error (List Int) :=
  let dir := nodeDir root
  match fs.list dir with
  | .error e => .error (.systemNodes (.unlistable dir e))
  | .ok names =>
    match nodesWithCpus fs dir names with
    | .error cause => .error (.systemNodes cause)
    | .ok nodes => .ok (nodes.mergeSort fun m n => m ≤ n)

/-! ## PCI devices -/

def nodeFile (root busId : String) : String :=
  Path.join (Path.join (Path.join root "bus/pci/devices") (BusId.normalize busId)) "numa_node"

/-- The node of a PCI device, if it has an affinity. A malformed number is reported under the
bus ID. -/
def pciNode (fs : FileSystem) (root busId : String) : Except Error (Option Int) :=
  match fs.readText (nodeFile root busId) with
  | .error .notFound => .ok none
  | .error e => .error (.file e)
  | .ok content =>
    let text := Text.trim content.toList
    match Text.readInt 32 text with
    | .error e => .error (.numaNode busId (.malformed (String.ofList text) e))
    | .ok node => .ok (if 0 ≤ node then some node else none)

end GpuPlacement.Numa.Sysfs
