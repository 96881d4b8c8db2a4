import GpuPlacement.Link

/-!
# Devices

A device is a GPU with its place in discovery order, its UUID, and its links to the other
devices of the node. Two devices are the same device when their indices match; the links
of a device are keyed by the index of the peer.
-/

set_option autoImplicit false

namespace GpuPlacement

/-- The links of a device by the index of the peer, ascending. -/
structure LinkTable where
  entries : List (Nat × List Link)
  deriving DecidableEq, Repr

namespace LinkTable

def empty : LinkTable := ⟨[]⟩

/-- The links to a peer, none if there is no entry. -/
def linksTo (t : LinkTable) (peer : Nat) : List Link :=
  (t.entries.lookup peer).getD []

/-- `entries` with `links` appended to those of `peer`, in ascending order of peers. -/
def insertInto (peer : Nat) (links : List Link) :
    List (Nat × List Link) → List (Nat × List Link)
  | [] => [(peer, links)]
  | (p, old) :: rest =>
    if peer < p then (peer, links) :: (p, old) :: rest
    else if peer = p then (p, old ++ links) :: rest
    else (p, old) :: insertInto peer links rest

def append (t : LinkTable) (peer : Nat) (links : List Link) : LinkTable :=
  ⟨insertInto peer links t.entries⟩

/-- The table of a list of entries, in any order. -/
def ofList (entries : List (Nat × List Link)) : LinkTable :=
  entries.foldl (fun t (peer, links) => t.append peer links) empty

end LinkTable

/-- A GPU together with its links. -/
structure Device where
  /-- The place in discovery order. -/
  index : Nat
  uuid : String
  /-- The PCI bus ID, if known. -/
  busId : Option String
  links : LinkTable
  deriving DecidableEq, Repr

namespace Device

def plain (index : Nat) (uuid : String) : Device := ⟨index, uuid, none, .empty⟩

def linksTo (d : Device) (peer : Nat) : List Link := d.links.linksTo peer

/-- Whether two values are the same physical device. -/
def same (d e : Device) : Bool := d.index == e.index

/-- A device is written as its index. -/
instance : ToString Device := ⟨fun d => toString d.index⟩

/-- A description of the device and its links, one fact a line. -/
def details (d : Device) : String :=
  let busId := match d.busId with
    | none => ""
    | some id => s!"  PCI BusID: {id}\n"
  let peers := d.links.entries.map fun (peer, links) =>
    s!"\n    GPU {peer} Links:" ++ String.join (links.map fun link => s!"\n      {link.name}")
  s!"Device {d.index}:\n  UUID: {d.uuid}\n{busId}  Topology:" ++ String.join peers

end Device
end GpuPlacement
