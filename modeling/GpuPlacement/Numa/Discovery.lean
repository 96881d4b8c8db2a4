import GpuPlacement.Numa.Container
import GpuPlacement.Numa.Reply
import GpuPlacement.Text.Blank
import GpuPlacement.Text.Numeral

/-!
# Discovering devices

A discoverer lists the GPU and MIG devices of a node and says which of them a container may see.
The latter is the value of an environment variable: nothing, everything, or a list in which a
device is named by its index or by its UUID.
-/

set_option autoImplicit false

namespace GpuPlacement.Numa

/-- A device as discovery reports it. -/
structure DeviceHandle where
  uuid : String
  /-- The number of a GPU, or the numbers of a GPU and of a MIG device of it with a colon
  between them. -/
  index : String
  /-- The node the device is attached to. -/
  node : Except Error Int

/-- Devices by UUID: of several with one UUID the last one stays. -/
def distinctDevices (devices : List DeviceHandle) : List DeviceHandle :=
  devices.foldr (fun d kept => if kept.any fun e => e.uuid == d.uuid then kept else d :: kept) []

def findByUuid? (devices : List DeviceHandle) (uuid : String) : Option DeviceHandle :=
  devices.find? fun d => d.uuid == uuid

def findByIndex? (devices : List DeviceHandle) (index : String) : Option DeviceHandle :=
  devices.find? fun d => d.index == index

/-- What a node answers when it is asked for its devices. -/
structure Discoverer where
  /-- The devices, one a UUID. -/
  devices : Except Error (List DeviceHandle)
  /-- The variable that names the devices a container sees. -/
  deviceVariable : String

namespace Discoverer

def allDevices (d : Discoverer) : Reply (List DeviceHandle) := .asking .devices d.devices

end Discoverer

/-! ## Indices -/

def isNumber (cs : List Char) : Bool := !cs.isEmpty && cs.all Text.isDigit

/-- Whether an entry has the form of an index: a number, or two with a colon between them. -/
def isIndex (entry : String) : Bool :=
  match Text.splitFirst? ':' entry.toList with
  | none => isNumber entry.toList
  | some (gpu, mig) => isNumber gpu && isNumber mig

/-- The place of an index among all: by GPU, the GPU itself before its MIG devices. A GPU that is
no number comes last. -/
def indexKey (index : String) : Nat × Nat :=
  let (gpu, mig) := match Text.splitFirst? ':' index.toList with
    | none => (index.toList, none)
    | some (gpu, mig) => (gpu, (Text.readNat Text.maxU32 mig).toOption)
  (((Text.readNat Text.maxU32 gpu).toOption).getD Text.maxU32, (mig.map (· + 1)).getD 0)

/-- Whether a device comes no later than another one. -/
def indexLe (d e : DeviceHandle) : Bool :=
  let k := indexKey d.index
  let l := indexKey e.index
  decide (k.1 < l.1) || (k.1 == l.1 && decide (k.2 ≤ l.2))

/-! ## Visible devices -/

/-- The entries of a list of visible devices, without blank ones. -/
def visibleEntries (value : List Char) : List String :=
  ((Text.splitOn ',' value).map Text.trim).filterMap fun entry =>
    if entry.isEmpty then none else some (String.ofList entry)

/-- The UUID that an entry stands for. What has not the form of an index is a UUID already. -/
def entryUuid (devices : List DeviceHandle) (entry : String) : Except Error String :=
  if isIndex entry then
    match findByIndex? devices entry with
    | some d => .ok d.uuid
    | none => .error (.deviceNotFound entry)
  else .ok entry

/-- The UUIDs of entries, up to the first that names no device. -/
def entryUuids (devices : List DeviceHandle) : List String → Except Error (List String)
  | [] => .ok []
  | entry :: rest => do
    let uuid ← entryUuid devices entry
    let uuids ← entryUuids devices rest
    return uuid :: uuids

/-- The UUIDs that a value of visible devices stands for. Devices are asked for only if there is
an index to look up. -/
def resolveVisible (d : Discoverer) (value : String) : Reply (List String) :=
  let value := Text.trimmed value
  if value = "" ∨ value = "void" ∨ value = "none" then return []
  else if value = "all" then do
    let devices ← d.allDevices
    return (devices.mergeSort indexLe).map DeviceHandle.uuid
  else do
    let entries := visibleEntries value.toList
    let devices ← if entries.any isIndex then d.allDevices else pure []
    entryUuids devices entries

/-- The UUIDs of the devices a container sees, none if its environment does not name any. -/
def Discoverer.assignedDevices (d : Discoverer) (c : Container) : Reply (List String) :=
  match c.envValue d.deviceVariable with
  | none => return []
  | some value => resolveVisible d value

end GpuPlacement.Numa
