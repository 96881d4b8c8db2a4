import GpuPlacement.Device
import GpuPlacement.Error

/-!
# Lists of devices

The devices of a node stand in a list. Links are made between two positions of it, and
devices are picked out of it by UUID in the order asked for.
-/

set_option autoImplicit false

namespace GpuPlacement

/-- `devices` with a link from position `a` to the peer `b`. -/
def linkFrom (devices : List Device) (a b : Nat) (link : Link) : List Device :=
  devices.modify a fun d => { d with links := d.links.append b [link] }

/-- Adds a link in both directions between two positions. -/
def connected (devices : List Device) (a b : Nat) (link : Link) : List Device :=
  linkFrom (linkFrom devices a b link) b a link

/-- `connected`, for positions that may lie outside the list. -/
def connect (devices : List Device) (a b : Nat) (link : Link) : Except Fault (List Device) :=
  if devices.length ≤ a then .error (.positionOutOfBounds devices.length a)
  else if devices.length ≤ b then .error (.positionOutOfBounds devices.length b)
  else .ok (connected devices a b link)

def findDevice? (devices : List Device) (uuid : String) : Option Device :=
  devices.find? fun d => d.uuid == uuid

/-- The devices with the given UUIDs, in the order asked for, or the first UUID that names
none. -/
def selectDevices (devices : List Device) : List String → Except String (List Device)
  | [] => .ok []
  | uuid :: rest =>
    match findDevice? devices uuid with
    | none => .error uuid
    | some d => (selectDevices devices rest).map (d :: ·)

/-- `selectDevices`, or every device where no UUIDs are given. -/
def filterDevices (devices : List Device) : Option (List String) → Except Error (List Device)
  | none => .ok devices
  | some uuids => (selectDevices devices uuids).mapError .deviceNotFound

@[simp] theorem length_linkFrom (devices : List Device) (a b : Nat) (link : Link) :
    (linkFrom devices a b link).length = devices.length := by
  simp [linkFrom]

@[simp] theorem length_connected (devices : List Device) (a b : Nat) (link : Link) :
    (connected devices a b link).length = devices.length := by
  simp [connected]

end GpuPlacement
