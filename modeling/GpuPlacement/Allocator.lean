import GpuPlacement.Device.List
import GpuPlacement.Policy

/-!
# The allocator

An allocator keeps track of which devices of a node are reserved. Reservations are made by
count, where the policy picks among what remains, or by index, and last until they are freed.
A preferred allocation only asks the policy and reserves nothing. An operation that fails leaves
the reservations as they were.
-/

set_option autoImplicit false

namespace GpuPlacement

/-- The devices of a node and the indices of those that are reserved. -/
structure Allocator where
  devices : List Device
  policy : Policy
  /-- The reserved indices, each once. -/
  allocated : List Nat
  deriving Repr

/-- Adds an index to a list of distinct indices. -/
def insertIndex (allocated : List Nat) (i : Nat) : List Nat :=
  if allocated.contains i then allocated else i :: allocated

namespace Allocator

def new (devices : List Device) (policy : Policy) : Allocator := ⟨devices, policy, []⟩

def isAllocated (a : Allocator) (index : Nat) : Bool := a.allocated.contains index

def remaining (a : Allocator) : List Device :=
  a.devices.filter fun d => !a.isAllocated d.index

def totalCount (a : Allocator) : Nat := a.devices.length

def availableCount (a : Allocator) : Nat := a.devices.length - a.allocated.length

/-- Every device with the mark whether it is reserved. -/
def deviceStatus (a : Allocator) : List (Device × Bool) :=
  a.devices.map fun d => (d, a.isAllocated d.index)

def reserve (a : Allocator) (indices : List Nat) : Allocator :=
  { a with allocated := indices.foldl insertIndex a.allocated }

/-! ## Operations

Each gives a result and the allocator after it. -/

/-- Whether an index can not be reserved: there is no such device, or it is reserved. -/
def isUnavailable (a : Allocator) (i : Nat) : Bool :=
  decide (a.devices.length ≤ i) || a.isAllocated i

/-- Reserves devices by index, all of them or none. -/
def allocateSpecific (a : Allocator) (indices : List Nat) : Except Error Unit × Allocator :=
  match indices.filter a.isUnavailable with
  | [] => (.ok (), a.reserve indices)
  | refused =>
    (.error (.allocation (.unavailable refused (a.remaining.map Device.index))), a)

/-- Reserves `count` devices that the policy picks and gives their indices. -/
def allocate (a : Allocator) (count : Nat) : Except Failure (List Nat) × Allocator :=
  if count = 0 then (.ok [], a)
  else
    match a.policy.allocate a.remaining [] count with
    | .error fault => (.error (.broken fault), a)
    | .ok [] => (.error (.refused (.allocation (.noGroup count a.availableCount))), a)
    | .ok chosen =>
      let indices := chosen.map Device.index
      match a.allocateSpecific indices with
      | (.error e, _) => (.error (.broken (.choiceRefused e)), a)
      | (.ok (), a) => (.ok indices, a)

/-- Ends the reservations of devices. Indices that are not reserved are ignored. -/
def free (a : Allocator) (indices : List Nat) : Allocator :=
  { a with allocated := a.allocated.filter fun i => !indices.contains i }

/-- What the policy would pick for a request by UUID, reserved or not. -/
def preferredAllocation (a : Allocator) (available required : List String) (size : Nat) :
    Except Failure (List String) :=
  match selectDevices a.devices available with
  | .error uuid => .error (.refused (.allocation (.unknownAvailable uuid)))
  | .ok available =>
    match selectDevices a.devices required with
    | .error uuid => .error (.refused (.allocation (.unknownRequired uuid)))
    | .ok required =>
      match a.policy.allocate available required size with
      | .error fault => .error (.broken fault)
      | .ok chosen => .ok (chosen.map Device.uuid)

end Allocator
end GpuPlacement
