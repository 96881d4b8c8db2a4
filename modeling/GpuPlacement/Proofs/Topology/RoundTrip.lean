import GpuPlacement.Proofs.Data.Decode
import GpuPlacement.Proofs.Text.Numeral
import GpuPlacement.Topology.Document

/-!
# Topologies written and read again

Reading a topology (`Topology.ofData`) and writing it (`Topology.toData`, Topology/Document.lean)
are inverse on the topologies whose links are in range. A link can be written in several ways,
`nvlink-4` also as `nvlink-+4` or `nvlink-04`, and is read as one and the same; so what is read,
written and read again is what it was, while the document may change.

Links out of range are the one thing that can be written and not read: a number of NVLinks that
is 0 or larger than 12. The reading stops at the first of them, and says so (`ReadBack`).

The numbers of a topology are bounded by their width in a document (`Topology.Fits`); what has
been read always is.
-/

set_option autoImplicit false

namespace GpuPlacement

open Data

/-! ## Topologies that can be written -/

/-- One of the six PCIe relations, or a number of NVLinks that counts. -/
def Link.InRange : Link → Prop
  | .nvlink count => 1 ≤ count ∧ count ≤ maxNvlinks
  | _ => True

def LinkEntry.InRange (l : LinkEntry) : Prop := ∀ link ∈ l.types, link.InRange

def Topology.InRange (t : Topology) : Prop := ∀ l ∈ t.links, l.InRange

structure Gpu.Fits (g : Gpu) : Prop where
  index : g.index ≤ Text.maxU64
  node : ∀ node ∈ g.numaNode, OfWidth 32 node

structure LinkEntry.Fits (l : LinkEntry) : Prop where
  a : l.a ≤ Text.maxU64
  b : l.b ≤ Text.maxU64
  counts : ∀ link ∈ l.types, ∀ count ∈ link.nvlinkCount?, count ≤ Text.maxU8

/-- Every number of a topology is of the width that it has in a document: 64 bits for indices and
ends of links, 32 bits with a sign for nodes, 8 bits for numbers of NVLinks. -/
structure Topology.Fits (t : Topology) : Prop where
  gpus : ∀ g ∈ t.gpus, g.Fits
  links : ∀ l ∈ t.links, l.Fits

/-- What reading gives for something that was written: the same, if all of its links are in range,
and otherwise that the number of NVLinks of a link is not. -/
inductive ReadBack {α : Type} (inRange : Prop) (x : α) : Decoded α → Prop where
  | same : inRange → ReadBack inRange x (.ok x)
  | refused {count : Nat} : ¬ inRange → (count = 0 ∨ maxNvlinks < count) →
      ReadBack inRange x (.error (.link (.countOutOfRange count)))

namespace ReadBack

variable {α β : Type} {inRange : Prop} {x : α} {read : Decoded α}

theorem eq_ok (h : ReadBack inRange x read) (hrange : inRange) : read = .ok x := by
  cases h with
  | same _ => rfl
  | refused hbad _ => exact absurd hrange hbad

theorem exists_refused (h : ReadBack inRange x read) (hbad : ¬ inRange) :
    ∃ count, (count = 0 ∨ maxNvlinks < count) ∧
      read = .error (.link (.countOutOfRange count)) := by
  cases h with
  | same hrange => exact absurd hrange hbad
  | @refused count _ hcount => exact ⟨count, hcount, rfl⟩

theorem map (h : ReadBack inRange x read) (f : α → β) :
    ReadBack inRange (f x) (read.map f) := by
  cases h with
  | same hrange => exact .same hrange
  | refused hbad hcount => exact .refused hbad hcount

end ReadBack

/-! ## Links -/

namespace Link

theorem nvlink?_eq (count : Nat) :
    nvlink? count = if 1 ≤ count ∧ count ≤ maxNvlinks then some (.nvlink count) else none := rfl

theorem InRange.count_le {link : Link} (h : link.InRange) {count : Nat}
    (hc : count ∈ link.nvlinkCount?) : count ≤ Text.maxU8 := by
  cases link with
  | nvlink k =>
    obtain rfl := Option.some.inj hc
    exact h.2.trans (by decide)
  | _ => exact absurd hc (by simp [nvlinkCount?])

theorem inRange_of_nvlink? {count : Nat} {link : Link} (h : nvlink? count = some link) :
    link.InRange := by
  rw [nvlink?_eq] at h
  split at h
  · rename_i hcount
    obtain rfl := Option.some.inj h
    exact hcount
  · exact absurd h (by simp)

/-- Whatever name it has been read from, a link is in range. -/
theorem inRange_of_ofName {s : String} {link : Link} (h : ofName s = .ok link) :
    link.InRange := by
  unfold ofName at h
  split at h
  case h_7 =>
    split at h
    · exact absurd h (by simp)
    · split at h
      · rename_i hlink
        obtain rfl := Except.ok.inj h
        exact inRange_of_nvlink? hlink
      · exact absurd h (by simp)
  all_goals
    obtain rfl := Except.ok.inj h
    trivial

/-- No name of a PCIe relation starts like that of an NVLink. -/
theorem ofName_of_head {s : String} (h : s.toList.head? = some 'n') :
    ofName s = match nvlinkCountOf? s with
      | none => .error (.unknown s)
      | some count =>
        match nvlink? count with
        | some link => .ok link
        | none => .error (.countOutOfRange count) := by
  unfold ofName
  split
  case h_7 => rfl
  all_goals exact absurd h (by decide)

theorem nvlinkCountOf?_name {count : Nat} (h : count ≤ Text.maxU8) :
    nvlinkCountOf? (name (.nvlink count)) = some count := by
  have hname : (name (.nvlink count)).toList = nvlinkStart.toList ++ Nat.toDigits 10 count := by
    rw [name, String.toList_append]
    exact congrArg _ Nat.toList_repr
  rw [nvlinkCountOf?, Text.dropStart?_eq_some_iff.mpr hname, Option.bind_some,
    Text.readNat_toDigits h]
  rfl

theorem ofName_name_nvlink {count : Nat} (h : count ≤ Text.maxU8) :
    ofName (name (.nvlink count)) = if 1 ≤ count ∧ count ≤ maxNvlinks then .ok (.nvlink count)
      else .error (.countOutOfRange count) := by
  have hhead : (name (.nvlink count)).toList.head? = some 'n' := by
    rw [name, String.toList_append]
    rfl
  rw [ofName_of_head hhead, nvlinkCountOf?_name h]
  simp only [nvlink?_eq]
  by_cases hrange : 1 ≤ count ∧ count ≤ maxNvlinks
  · rw [if_pos hrange, if_pos hrange]
  · rw [if_neg hrange, if_neg hrange]

/-- A link is read back by its name. -/
theorem readBack {link : Link} (h : ∀ count ∈ link.nvlinkCount?, count ≤ Text.maxU8) :
    ReadBack link.InRange link (asLink (.string link.name)) := by
  cases link with
  | nvlink count =>
    have hname := ofName_name_nvlink (h count rfl)
    rw [asLink, asString]
    simp only [hname]
    by_cases hrange : 1 ≤ count ∧ count ≤ maxNvlinks
    · rw [if_pos hrange]
      exact .same hrange
    · rw [if_neg hrange]
      exact .refused hrange (by omega)
  | _ => exact .same trivial

end Link

/-- A list is read back if all of its elements are in range, and is refused at the first that is
not. -/
theorem ReadBack.list {α : Type} {inRange : α → Prop} {decode : Data → Decoded α}
    {encode : α → Data} {xs : List α}
    (h : ∀ x ∈ xs, ReadBack (inRange x) x (decode (encode x))) :
    ReadBack (∀ x ∈ xs, inRange x) xs (asList decode (.list (xs.map encode))) := by
  rw [asList]
  induction xs with
  | nil => exact .same (by simp)
  | cons x xs ih =>
    rw [List.forall_mem_cons] at h
    have hfirst := h.1
    have hrest := ih h.2
    rw [List.map_cons, decodeItems]
    cases hd : decode (encode x) with
    | error e =>
      rw [hd] at hfirst
      cases hfirst with
      | refused hbad hcount => exact .refused (fun hall => hbad (hall x (by simp))) hcount
    | ok first =>
      rw [hd] at hfirst
      cases hfirst with
      | same hgood =>
        cases hr : decodeItems decode (xs.map encode) with
        | error e =>
          rw [hr] at hrest
          cases hrest with
          | refused hbad hcount =>
            exact .refused (fun hall => hbad fun y hy => hall y (List.mem_cons_of_mem _ hy)) hcount
        | ok rest =>
          rw [hr] at hrest
          cases hrest with
          | same hall => exact .same (List.forall_mem_cons.mpr ⟨hgood, hall⟩)

/-! ## Writing, then reading -/

theorem Mig.ofData_toData (m : Mig) : Mig.ofData m.toData = .ok m := rfl

/-- A GPU is read back. -/
theorem Gpu.Fits.ofData_toData {g : Gpu} (h : g.Fits) : Gpu.ofData g.toData = .ok g := by
  have hindex : asNat Text.maxU64 (.nat g.index) = .ok g.index := asNat_nat h.index
  have hbusId : asOptional asString (.optional .string g.busId) = .ok g.busId :=
    asOptional_optional (by simp) fun _ _ => rfl
  have hnode : asOptional (asInt 32) (.optional .integer g.numaNode) = .ok g.numaNode :=
    asOptional_optional (by simp) fun node hn => asInt_integer (h.node node hn)
  have hmigs : asList Mig.ofData (.list (g.migs.map Mig.toData)) = .ok g.migs :=
    asList_map fun m _ => m.ofData_toData
  simp [Gpu.ofData, Gpu.toData, fieldsOf, GpuFields.read, asString, Data.require, hindex, hbusId,
    hnode, hmigs, Except.map, bind, Except.bind, pure, Except.pure]

/-- A link entry is read back, or refused for one of its links. -/
theorem LinkEntry.Fits.readBack {l : LinkEntry} (h : l.Fits) :
    ReadBack l.InRange l (LinkEntry.ofData l.toData) := by
  have ha : asNat Text.maxU64 (.nat l.a) = .ok l.a := asNat_nat h.a
  have hb : asNat Text.maxU64 (.nat l.b) = .ok l.b := asNat_nat h.b
  have htypes : ReadBack l.InRange l.types
      (asList asLink (.list (l.types.map fun link => .string link.name))) :=
    ReadBack.list fun link hl => Link.readBack (h.counts link hl)
  -- The types are the last field, and the only one that can be refused.
  have hread : LinkEntry.ofData l.toData
      = (asList asLink (.list (l.types.map fun link => .string link.name))).map
          fun types => ⟨l.a, l.b, types⟩ := by
    cases ht : asList asLink (.list (l.types.map fun link => .string link.name)) with
    | error e => simp [LinkEntry.ofData, LinkEntry.toData, fieldsOf, LinkEntryFields.read, ha, hb,
        ht, Except.map, bind, Except.bind]
    | ok types => simp [LinkEntry.ofData, LinkEntry.toData, fieldsOf, LinkEntryFields.read, ha, hb,
        ht, Data.require, Except.map, bind, Except.bind, pure, Except.pure]
  rw [hread]
  exact htypes.map fun types => (⟨l.a, l.b, types⟩ : LinkEntry)

/-- A topology is read back, or refused for one of its links. -/
theorem Topology.Fits.readBack {t : Topology} (h : t.Fits) :
    ReadBack t.InRange t (Topology.ofData t.toData) := by
  have hgpus : asList Gpu.ofData (.list (t.gpus.map Gpu.toData)) = .ok t.gpus :=
    asList_map fun g hg => (h.gpus g hg).ofData_toData
  have hlinks : ReadBack t.InRange t.links
      (asList LinkEntry.ofData (.list (t.links.map LinkEntry.toData))) :=
    ReadBack.list fun l hl => (h.links l hl).readBack
  have hread : Topology.ofData t.toData
      = (asList LinkEntry.ofData (.list (t.links.map LinkEntry.toData))).map
          fun links => ⟨t.gpus, links⟩ := by
    cases ht : asList LinkEntry.ofData (.list (t.links.map LinkEntry.toData)) with
    | error e => simp [Topology.ofData, Topology.toData, fieldsOf, Topology.read, hgpus, ht,
        Except.map, bind, Except.bind]
    | ok links => simp [Topology.ofData, Topology.toData, fieldsOf, Topology.read, hgpus, ht,
        Except.map, bind, Except.bind, pure, Except.pure]
  rw [hread]
  exact hlinks.map fun links => (⟨t.gpus, links⟩ : Topology)

/-! ## Reading -/

theorem inRange_of_asLink {d : Data} {link : Link} (h : asLink d = .ok link) :
    link.InRange := by
  unfold asLink at h
  split at h
  · exact absurd h (by simp)
  · split at h
    · exact absurd h (by simp)
    · rename_i hname
      obtain rfl := Except.ok.inj h
      exact Link.inRange_of_ofName hname

/-- What has been read of a GPU is of the width that it has in a document. -/
structure GpuFields.Fits (g : GpuFields) : Prop where
  index : ∀ index ∈ g.index, index ≤ Text.maxU64
  node : ∀ node ∈ g.numaNode, OfWidth 32 node

theorem GpuFields.Fits.read {g g' : GpuFields} {name : String} {value : Data} (hg : g.Fits)
    (h : g.read name value = .ok g') : g'.Fits := by
  unfold GpuFields.read at h
  split at h
  · obtain ⟨index, hindex, rfl⟩ := exists_of_map_eq_ok h
    refine ⟨fun i hi => ?_, hg.node⟩
    obtain rfl := Option.some.inj hi
    exact le_of_asNat hindex
  · obtain ⟨uuid, -, rfl⟩ := exists_of_map_eq_ok h
    exact ⟨hg.index, hg.node⟩
  · obtain ⟨busId, -, rfl⟩ := exists_of_map_eq_ok h
    exact ⟨hg.index, hg.node⟩
  · obtain ⟨node, hnode, rfl⟩ := exists_of_map_eq_ok h
    refine ⟨hg.index, fun n hn => ?_⟩
    obtain rfl : node = some n := hn
    exact ofWidth_of_asInt (asOptional_some hnode)
  · obtain ⟨migs, -, rfl⟩ := exists_of_map_eq_ok h
    exact ⟨hg.index, hg.node⟩
  · obtain rfl := Except.ok.inj h
    exact hg

theorem Gpu.fits_of_ofData {d : Data} {g : Gpu} (h : Gpu.ofData d = .ok g) : g.Fits := by
  unfold Gpu.ofData at h
  obtain ⟨fields, -, h⟩ := exists_of_bind_eq_ok h
  obtain ⟨read, hread, h⟩ := exists_of_bind_eq_ok h
  obtain ⟨index, hindex, h⟩ := exists_of_bind_eq_ok h
  obtain ⟨uuid, -, h⟩ := exists_of_bind_eq_ok h
  obtain rfl := Except.ok.inj h
  have hfits : read.Fits := foldlM_keeps GpuFields.Fits (fun g field g' hg hstep => hg.read hstep)
    ⟨by simp, by simp⟩ hread
  exact ⟨hfits.index index (mem_of_require hindex), hfits.node⟩

/-- What has been read of a link entry is of the width that it has in a document, and in range. -/
structure LinkEntryFields.Fits (l : LinkEntryFields) : Prop where
  a : ∀ a ∈ l.a, a ≤ Text.maxU64
  b : ∀ b ∈ l.b, b ≤ Text.maxU64
  types : ∀ types ∈ l.types, ∀ link ∈ types, Link.InRange link

theorem LinkEntryFields.Fits.read {l l' : LinkEntryFields} {name : String} {value : Data}
    (hl : l.Fits) (h : l.read name value = .ok l') : l'.Fits := by
  unfold LinkEntryFields.read at h
  split at h
  · obtain ⟨a, ha, rfl⟩ := exists_of_map_eq_ok h
    refine ⟨fun n hn => ?_, hl.b, hl.types⟩
    obtain rfl := Option.some.inj hn
    exact le_of_asNat ha
  · obtain ⟨b, hb, rfl⟩ := exists_of_map_eq_ok h
    refine ⟨hl.a, fun n hn => ?_, hl.types⟩
    obtain rfl := Option.some.inj hn
    exact le_of_asNat hb
  · obtain ⟨types, htypes, rfl⟩ := exists_of_map_eq_ok h
    refine ⟨hl.a, hl.b, fun ts hts link hlink => ?_⟩
    obtain rfl := Option.some.inj hts
    obtain ⟨item, hitem⟩ := exists_of_mem_asList htypes hlink
    exact inRange_of_asLink hitem
  · obtain rfl := Except.ok.inj h
    exact hl

theorem LinkEntry.fits_of_ofData {d : Data} {l : LinkEntry} (h : LinkEntry.ofData d = .ok l) :
    l.Fits ∧ l.InRange := by
  unfold LinkEntry.ofData at h
  obtain ⟨fields, -, h⟩ := exists_of_bind_eq_ok h
  obtain ⟨read, hread, h⟩ := exists_of_bind_eq_ok h
  obtain ⟨a, ha, h⟩ := exists_of_bind_eq_ok h
  obtain ⟨b, hb, h⟩ := exists_of_bind_eq_ok h
  obtain ⟨types, htypes, h⟩ := exists_of_bind_eq_ok h
  obtain rfl := Except.ok.inj h
  have hfits : read.Fits := foldlM_keeps LinkEntryFields.Fits
    (fun l field l' hl hstep => hl.read hstep) ⟨by simp, by simp, by simp⟩ hread
  have hrange := hfits.types types (mem_of_require htypes)
  refine ⟨⟨hfits.a a (mem_of_require ha), hfits.b b (mem_of_require hb), ?_⟩, hrange⟩
  intro link hlink count hcount
  exact (hrange link hlink).count_le hcount

theorem Topology.fits_of_read {t t' : Topology} {name : String} {value : Data}
    (ht : t.Fits ∧ t.InRange) (h : t.read name value = .ok t') : t'.Fits ∧ t'.InRange := by
  obtain ⟨hfits, hrange⟩ := ht
  unfold Topology.read at h
  split at h
  · obtain ⟨gpus, hgpus, rfl⟩ := exists_of_map_eq_ok h
    refine ⟨⟨fun g hg => ?_, hfits.links⟩, hrange⟩
    obtain ⟨item, hitem⟩ := exists_of_mem_asList hgpus hg
    exact Gpu.fits_of_ofData hitem
  · obtain ⟨links, hlinks, rfl⟩ := exists_of_map_eq_ok h
    have hread : ∀ l ∈ links, l.Fits ∧ l.InRange := by
      intro l hl
      obtain ⟨item, hitem⟩ := exists_of_mem_asList hlinks hl
      exact LinkEntry.fits_of_ofData hitem
    exact ⟨⟨hfits.gpus, fun l hl => (hread l hl).1⟩, fun l hl => (hread l hl).2⟩
  · obtain rfl := Except.ok.inj h
    exact ⟨hfits, hrange⟩

/-- What has been read has numbers of the right width and links in range, whatever the document
is. -/
theorem Topology.fits_of_ofData {d : Data} {t : Topology} (h : Topology.ofData d = .ok t) :
    t.Fits ∧ t.InRange := by
  unfold Topology.ofData at h
  obtain ⟨fields, -, h⟩ := exists_of_bind_eq_ok h
  exact foldlM_keeps (fun t : Topology => t.Fits ∧ t.InRange)
    (fun t field t' ht hstep => Topology.fits_of_read ht hstep)
    ⟨⟨by simp, by simp⟩, by simp [Topology.InRange]⟩ h

/-! ## There and back -/

/-- **Topologies survive being written and read.** Of any document that can be read all links are
in range, and what has been read is written and read again as itself, so that it describes the
same devices or has the same fault. Every topology of numbers that a document can hold is read
back if its links are in range, and is refused for a number of NVLinks if one is not. -/
theorem Topology.roundTrip :
    (∀ d t, Topology.ofData d = .ok t → t.InRange ∧ Topology.ofData t.toData = .ok t ∧
        (Topology.ofData t.toData).map Topology.devices = .ok t.devices) ∧
      (∀ t : Topology, t.Fits → t.InRange → Topology.ofData t.toData = .ok t) ∧
      ∀ t : Topology, t.Fits → ¬ t.InRange → ∃ count, (count = 0 ∨ maxNvlinks < count) ∧
        Topology.ofData t.toData = .error (.link (.countOutOfRange count)) := by
  refine ⟨fun d t h => ?_, fun t hfits hrange => hfits.readBack.eq_ok hrange,
    fun t hfits hbad => hfits.readBack.exists_refused hbad⟩
  obtain ⟨hfits, hrange⟩ := Topology.fits_of_ofData h
  rw [hfits.readBack.eq_ok hrange]
  exact ⟨hrange, rfl, rfl⟩

/-- Two GPUs, and links between them. -/
def pairTopology (types : List Link) : Topology where
  gpus := [⟨0, "GPU-0", none, some 0, []⟩, ⟨1, "GPU-1", none, none, [⟨"MIG-1"⟩]⟩]
  links := [⟨0, 1, types⟩]

/-- A document of `pairTopology`, with fields in another order, an unknown one, and names of links
that are not written so. -/
def pairDocument : Data :=
  .record [
    ("link", .list [.record [
      ("types", .list [.string "nvlink-+4", .string "nvlink-04"]),
      ("b", .nat 1),
      ("a", .nat 0)]]),
    ("name", .string "pair"),
    ("device", .list [
      .record [("uuid", .string "GPU-0"), ("index", .nat 0), ("numa_node", .nat 0)],
      .record [("index", .nat 1), ("uuid", .string "GPU-1"),
        ("migs", .list [.record [("uuid", .string "MIG-1")]])]])]

theorem fits_pairTopology {types : List Link}
    (h : ∀ link ∈ types, ∀ count ∈ link.nvlinkCount?, count ≤ Text.maxU8) :
    (pairTopology types).Fits := by
  have hone : 1 ≤ Text.maxU64 := by decide
  have hnode : OfWidth 32 0 := by decide
  refine ⟨?_, ?_⟩
  · unfold pairTopology
    rw [List.forall_mem_cons, List.forall_mem_singleton]
    refine ⟨⟨Nat.zero_le _, fun node hn => ?_⟩, ⟨hone, fun node hn => absurd hn (by simp)⟩⟩
    obtain rfl := Option.some.inj hn
    exact hnode
  · unfold pairTopology
    rw [List.forall_mem_singleton]
    exact ⟨Nat.zero_le _, hone, h⟩

theorem Topology.roundTrip_pairTopology :
    Topology.ofData pairDocument = .ok (pairTopology [.nvlink 4, .nvlink 4]) ∧
      Topology.ofData (pairTopology [.nvlink 4, .nvlink 4]).toData
        = .ok (pairTopology [.nvlink 4, .nvlink 4]) ∧
      Topology.ofData (pairTopology [.sameBoard]).toData = .ok (pairTopology [.sameBoard]) ∧
      ∃ count, (count = 0 ∨ maxNvlinks < count) ∧
        Topology.ofData (pairTopology [.nvlink 1, .nvlink 13]).toData
          = .error (.link (.countOutOfRange count)) := by
  have hread : Topology.ofData pairDocument = .ok (pairTopology [.nvlink 4, .nvlink 4]) := by rfl
  refine ⟨hread, (Topology.roundTrip.1 _ _ hread).2.1, Topology.roundTrip.2.1 _ ?_ ?_,
    Topology.roundTrip.2.2 _ ?_ ?_⟩
  · exact fits_pairTopology (by simp [Link.nvlinkCount?])
  · simp [Topology.InRange, LinkEntry.InRange, pairTopology, Link.InRange]
  · exact fits_pairTopology (by simp [Link.nvlinkCount?, Text.maxU8])
  · simp [Topology.InRange, LinkEntry.InRange, pairTopology, Link.InRange, maxNvlinks]

end GpuPlacement
