import GpuPlacement.Proofs.Policy.Alike
import GpuPlacement.Proofs.Topology.WellFormed

/-!
# Topologies written down in another way

A topology says the same with its GPUs in another order, its link entries in another order, and
any of these from the other end (`Rewritten`). The device list shows nothing of the first, since
the GPUs are sorted by index and a well-formed topology has no index twice; and it shows of the
other two no more than the order of the links of a pair. So both topologies have a device list or
none has one, and the two lists are alike device by device (`Rewritten.devices_alike`).
-/

set_option autoImplicit false

namespace GpuPlacement

/-! ## Entries from either end -/

/-- The entry with its two ends in the other order. -/
def LinkEntry.swapped (l : LinkEntry) : LinkEntry := { l with a := l.b, b := l.a }

/-- The same links, perhaps declared from the other end. -/
def LinkEntry.Turned (l l' : LinkEntry) : Prop := l' = l ∨ l' = l.swapped

/-- Two descriptions of one node: the same GPUs in some order, and the same link entries in some
order, each from either end. -/
structure Rewritten (t t' : Topology) : Prop where
  gpus : t.gpus.Perm t'.gpus
  links : ∃ turned, List.Forall₂ LinkEntry.Turned t.links turned ∧ turned.Perm t'.links

namespace LinkEntry.Turned

variable {l l' : LinkEntry}

theorem types_eq (h : l.Turned l') : l'.types = l.types := by
  rcases h with rfl | rfl
  · rfl
  · rfl

theorem joins_eq (h : l.Turned l') (i j : Nat) : l'.joins i j = l.joins i j := by
  rcases h with rfl | rfl
  · rfl
  · unfold LinkEntry.joins LinkEntry.swapped
    simp only [Bool.and_comm, Bool.or_comm]

/-- An entry from either end joins two different GPUs, or does not. -/
theorem valid_iff (h : l.Turned l') (count : Nat) :
    (l.a ≠ l.b ∧ l.a < count ∧ l.b < count) ↔ (l'.a ≠ l'.b ∧ l'.a < count ∧ l'.b < count) := by
  rcases h with rfl | rfl
  · exact Iff.rfl
  · exact and_congr ne_comm And.comm

/-- Entries of which each is turned have the same links between two positions, in the same
order. -/
theorem flatMap_types {links turned : List LinkEntry}
    (h : List.Forall₂ LinkEntry.Turned links turned) (i j : Nat) :
    (turned.filter (·.joins i j)).flatMap LinkEntry.types
      = (links.filter (·.joins i j)).flatMap LinkEntry.types := by
  induction h with
  | nil => rfl
  | cons hl _ ih =>
    rw [List.filter_cons, List.filter_cons, hl.joins_eq]
    split
    · rw [List.flatMap_cons, List.flatMap_cons, hl.types_eq, ih]
    · exact ih

theorem forall_valid_iff {links turned : List LinkEntry}
    (h : List.Forall₂ LinkEntry.Turned links turned) (count : Nat) :
    (∀ l ∈ links, l.a ≠ l.b ∧ l.a < count ∧ l.b < count) ↔
      ∀ l ∈ turned, l.a ≠ l.b ∧ l.a < count ∧ l.b < count := by
  induction h with
  | nil => exact iff_of_true (by simp) (by simp)
  | cons hl _ ih => rw [List.forall_mem_cons, List.forall_mem_cons, hl.valid_iff, ih]

end LinkEntry.Turned

/-! ## The device lists -/

/-- Two lists of positions with the same devices but for the links, and the same links between
any two positions in some order, are alike. -/
theorem alike_of_linksBetween {devices devices' : List Device}
    (hbare : devices.map Device.bare = devices'.map Device.bare)
    (hlinks : ∀ i j, (linksBetween devices i j).Perm (linksBetween devices' i j)) :
    List.Forall₂ Device.Alike devices devices' := by
  have hlength : devices.length = devices'.length := by
    have h := congrArg List.length hbare
    rwa [List.length_map, List.length_map] at h
  refine List.forall₂_of_length_eq_of_get hlength fun i hi hi' => ⟨?_, fun j => ?_⟩
  · have h := congrArg (·[i]?) hbare
    simp only [List.getElem?_map, List.getElem?_eq_getElem hi, List.getElem?_eq_getElem hi',
      Option.map_some, Option.some.injEq] at h
    exact h
  · have h := hlinks i j
    rwa [linksBetween_eq (List.getElem?_eq_getElem hi),
      linksBetween_eq (List.getElem?_eq_getElem hi')] at h

namespace Rewritten

variable {t t' : Topology}

theorem wellFormed_iff (h : Rewritten t t') : WellFormed t ↔ WellFormed t' := by
  obtain ⟨turned, hturned, hperm⟩ := h.links
  have hlength : t'.gpus.length = t.gpus.length := h.gpus.length_eq.symm
  have hindices : (t.gpus.map Gpu.index).Perm (List.range t.gpus.length) ↔
      (t'.gpus.map Gpu.index).Perm (List.range t'.gpus.length) := by
    rw [hlength]
    exact (h.gpus.map Gpu.index).congr_left _
  have hnodes : (∀ g ∈ t.gpus, ∀ node ∈ g.numaNode, 0 ≤ node) ↔
      ∀ g ∈ t'.gpus, ∀ node ∈ g.numaNode, 0 ≤ node := by
    simp only [h.gpus.mem_iff]
  have huuids : (t.gpus.flatMap Gpu.uuids).Nodup ↔ (t'.gpus.flatMap Gpu.uuids).Nodup :=
    (h.gpus.flatMap_right Gpu.uuids).nodup_iff
  have hlinks : (∀ l ∈ t.links, l.a ≠ l.b ∧ l.a < t.gpus.length ∧ l.b < t.gpus.length) ↔
      ∀ l ∈ t'.links, l.a ≠ l.b ∧ l.a < t'.gpus.length ∧ l.b < t'.gpus.length := by
    rw [LinkEntry.Turned.forall_valid_iff hturned, hlength]
    simp only [hperm.mem_iff]
  constructor
  · intro hw
    exact ⟨hindices.mp hw.indices, hnodes.mp hw.nodes, huuids.mp hw.uuids, hlinks.mp hw.links⟩
  · intro hw
    exact ⟨hindices.mpr hw.indices, hnodes.mpr hw.nodes, huuids.mpr hw.uuids, hlinks.mpr hw.links⟩

/-- GPUs with different indices stand in one order only. -/
theorem byIndex_eq (h : Rewritten t t') (hw : WellFormed t) : t.byIndex = t'.byIndex := by
  have hperm : t.byIndex.Perm t'.byIndex :=
    t.byIndex_perm.trans (h.gpus.trans t'.byIndex_perm.symm)
  have hdistinct : (t.gpus.map Gpu.index).Nodup := hw.indices.nodup_iff.mpr List.nodup_range
  refine hperm.eq_of_pairwise (fun g g' hg hg' hle hle' => ?_) t.pairwise_byIndex
    t'.pairwise_byIndex
  rw [t.byIndex_perm.mem_iff] at hg
  rw [t'.byIndex_perm.mem_iff, ← h.gpus.mem_iff] at hg'
  exact List.inj_on_of_nodup_map hdistinct hg hg' (Nat.le_antisymm hle hle')

theorem exists_devices_iff (h : Rewritten t t') :
    (∃ devices, t.devices = .ok devices) ↔ ∃ devices, t'.devices = .ok devices := by
  rw [t.exists_devices_iff, t'.exists_devices_iff, h.wellFormed_iff]

/-- **The device lists of both descriptions are alike.** -/
theorem devices_alike (h : Rewritten t t') {devices devices' : List Device}
    (hd : t.devices = .ok devices) (hd' : t'.devices = .ok devices') :
    List.Forall₂ Device.Alike devices devices' := by
  obtain ⟨turned, hturned, hperm⟩ := h.links
  apply alike_of_linksBetween
  · rw [Topology.map_bare_devices hd, Topology.map_bare_devices hd',
      h.byIndex_eq (t.exists_devices_iff.mp ⟨devices, hd⟩)]
  · intro i j
    rw [Topology.linksBetween_devices hd, Topology.linksBetween_devices hd',
      ← LinkEntry.Turned.flatMap_types hturned]
    exact (hperm.filter _).flatMap_right LinkEntry.types

end Rewritten
end GpuPlacement
