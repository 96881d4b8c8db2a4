import GpuPlacement.Device

/-!
# Sets of devices

A set holds at most one device a UUID: inserting a device replaces the one that had its
UUID. Nothing can be seen of the order of insertion, since the only way to list a set is
by ascending index.
-/

set_option autoImplicit false

namespace GpuPlacement

/-- Devices with pairwise distinct UUIDs. -/
structure DeviceSet where
  devices : List Device
  deriving Repr

namespace DeviceSet

def empty : DeviceSet := ⟨[]⟩

/-- Removes the devices with the UUID of `d`. -/
def eraseOne (s : DeviceSet) (d : Device) : DeviceSet :=
  ⟨s.devices.filter fun e => e.uuid != d.uuid⟩

/-- Makes `d` the device of its UUID. -/
def insertOne (s : DeviceSet) (d : Device) : DeviceSet :=
  ⟨d :: (s.eraseOne d).devices⟩

/-- Inserts devices in turn: the last one with a UUID stays. -/
def insert (s : DeviceSet) (ds : List Device) : DeviceSet := ds.foldl insertOne s

def erase (s : DeviceSet) (ds : List Device) : DeviceSet := ds.foldl eraseOne s

def ofList (ds : List Device) : DeviceSet := empty.insert ds

/-- Whether some device has the UUID of `d`. -/
def contains (s : DeviceSet) (d : Device) : Bool :=
  s.devices.any fun e => e.uuid == d.uuid

def size (s : DeviceSet) : Nat := s.devices.length

def isEmpty (s : DeviceSet) : Bool := s.devices.isEmpty

/-- Whether the set contains every device of a list that is no longer than the set. -/
def containsAll (s : DeviceSet) (ds : List Device) : Bool :=
  decide (ds.length ≤ s.size) && ds.all s.contains

def sorted (s : DeviceSet) : List Device :=
  s.devices.mergeSort fun d e => d.index ≤ e.index

end DeviceSet
end GpuPlacement
