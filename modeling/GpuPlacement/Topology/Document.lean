import GpuPlacement.Data.Decode
import GpuPlacement.Topology

/-!
# Topologies as documents

The fields of a topology document, read and written. Reading ignores unknown fields and takes
the lists of GPUs, links and MIG devices to be empty where they are absent. Writing gives every
field, with `null` for an absent bus ID or node, in file order and with canonical link names.
-/

set_option autoImplicit false

namespace GpuPlacement

open Data

/-! ## MIG devices -/

def Mig.ofData (d : Data) : Decoded Mig := do
  let fields ← fieldsOf ["uuid"] 1 d
  let uuid ← fields.foldlM (fun found (name, value) =>
    match name with
    | "uuid" => (asString value).map some
    | _ => .ok found) (none : Option String)
  return ⟨← require "uuid" uuid⟩

def Mig.toData (m : Mig) : Data := .record [("uuid", .string m.uuid)]

/-! ## GPUs -/

/-- The fields of a GPU that have been read so far. -/
structure GpuFields where
  index : Option Nat
  uuid : Option String
  busId : Option String
  numaNode : Option Int
  migs : List Mig

def GpuFields.read (g : GpuFields) (name : String) (value : Data) : Decoded GpuFields :=
  match name with
  | "index" => (asNat Text.maxU64 value).map fun index => { g with index := some index }
  | "uuid" => (asString value).map fun uuid => { g with uuid := some uuid }
  | "pci_bus_id" => (asOptional asString value).map fun busId => { g with busId := busId }
  | "numa_node" => (asOptional (asInt 32) value).map fun node => { g with numaNode := node }
  | "migs" => (asList Mig.ofData value).map fun migs => { g with migs := migs }
  | _ => .ok g

def Gpu.ofData (d : Data) : Decoded Gpu := do
  let fields ← fieldsOf ["index", "uuid", "pci_bus_id", "numa_node", "migs"] 4 d
  let g ← fields.foldlM (fun g (name, value) => g.read name value)
    (⟨none, none, none, none, []⟩ : GpuFields)
  let index ← require "index" g.index
  let uuid ← require "uuid" g.uuid
  return ⟨index, uuid, g.busId, g.numaNode, g.migs⟩

def Gpu.toData (g : Gpu) : Data :=
  .record [
    ("index", .nat g.index),
    ("uuid", .string g.uuid),
    ("pci_bus_id", .optional .string g.busId),
    ("numa_node", .optional .integer g.numaNode),
    ("migs", .list (g.migs.map Mig.toData))]

/-! ## Links -/

/-- The fields of a link entry that have been read so far. -/
structure LinkEntryFields where
  a : Option Nat
  b : Option Nat
  types : Option (List Link)

def LinkEntryFields.read (l : LinkEntryFields) (name : String) (value : Data) :
    Decoded LinkEntryFields :=
  match name with
  | "a" => (asNat Text.maxU64 value).map fun a => { l with a := some a }
  | "b" => (asNat Text.maxU64 value).map fun b => { l with b := some b }
  | "types" => (asList asLink value).map fun types => { l with types := some types }
  | _ => .ok l

def LinkEntry.ofData (d : Data) : Decoded LinkEntry := do
  let fields ← fieldsOf ["a", "b", "types"] 3 d
  let l ← fields.foldlM (fun l (name, value) => l.read name value)
    (⟨none, none, none⟩ : LinkEntryFields)
  let a ← require "a" l.a
  let b ← require "b" l.b
  let types ← require "types" l.types
  return ⟨a, b, types⟩

def LinkEntry.toData (l : LinkEntry) : Data :=
  .record [
    ("a", .nat l.a),
    ("b", .nat l.b),
    ("types", .list (l.types.map fun link => .string link.name))]

/-! ## Topologies -/

def Topology.read (t : Topology) (name : String) (value : Data) : Decoded Topology :=
  match name with
  | "device" => (asList Gpu.ofData value).map fun gpus => { t with gpus := gpus }
  | "link" => (asList LinkEntry.ofData value).map fun links => { t with links := links }
  | _ => .ok t

def Topology.ofData (d : Data) : Decoded Topology := do
  let fields ← fieldsOf ["device", "link"] 0 d
  fields.foldlM (fun t (name, value) => t.read name value) (⟨[], []⟩ : Topology)

def Topology.toData (t : Topology) : Data :=
  .record [
    ("device", .list (t.gpus.map Gpu.toData)),
    ("link", .list (t.links.map LinkEntry.toData))]

/-! ## Devices -/

def Device.toData (d : Device) : Data :=
  .record [
    ("index", .nat d.index),
    ("uuid", .string d.uuid),
    ("pci_bus_id", .optional .string d.busId),
    ("links", .record (d.links.entries.map fun (peer, links) =>
      (toString peer, .strings (links.map Link.name))))]

end GpuPlacement
