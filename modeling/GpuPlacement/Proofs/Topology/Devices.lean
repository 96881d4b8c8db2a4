import GpuPlacement.Proofs.Topology.Links

/-!
# The device list of a topology

What an accepted topology promises about its device list (`NodeDevices`): position and index
agree, no UUID occurs twice, and the links of every pair are the same seen from both ends. The
allocator rests on all three, and on nothing else about topologies.
-/

set_option autoImplicit false

namespace GpuPlacement

/-- A device list as a well-formed topology makes it. -/
structure NodeDevices (devices : List Device) : Prop where
  indices : devices.map Device.index = List.range devices.length
  uuids : (devices.map Device.uuid).Nodup
  symmetric : ∀ a ∈ devices, ∀ b ∈ devices, a.linksTo b.index = b.linksTo a.index

namespace Topology

/-! ## The checks -/

/-- UUIDs are added if all are new, and different from each other. -/
theorem addUuids_eq_ok_iff :
    ∀ {uuids seen after : List String}, addUuids seen uuids = .ok after ↔
      uuids.Nodup ∧ (∀ u ∈ uuids, u ∉ seen) ∧ after = uuids.reverse ++ seen := by
  intro uuids
  induction uuids with
  | nil =>
    intro seen after
    rw [addUuids, Except.ok.injEq]
    constructor
    · intro h
      exact ⟨.nil, by simp, h.symm⟩
    · exact fun h => h.2.2.symm
  | cons u uuids ih =>
    intro seen after
    rw [addUuids]
    by_cases hu : u ∈ seen
    · rw [if_pos (List.contains_iff_mem.mpr hu)]
      constructor
      · intro h
        exact absurd h (by simp)
      · exact fun h => absurd hu (h.2.1 u (by simp))
    · rw [if_neg (fun h => hu (List.contains_iff_mem.mp h)), ih, List.nodup_cons]
      constructor
      · intro hx
        obtain ⟨hn, hseen, rfl⟩ := hx
        refine ⟨⟨fun h => hseen u h (by simp), hn⟩, fun v hv => ?_, by simp⟩
        rcases List.mem_cons.mp hv with rfl | hv
        · exact hu
        · exact fun h => hseen v hv (List.mem_cons_of_mem _ h)
      · intro hx
        obtain ⟨⟨hnot, hn⟩, hseen, rfl⟩ := hx
        refine ⟨hn, fun v hv h => ?_, by simp⟩
        rcases List.mem_cons.mp h with rfl | h
        · exact hnot hv
        · exact hseen v (List.mem_cons_of_mem _ hv) h

/-- The first GPU passes the checks by its own numbers and UUIDs, and the others behind it. -/
theorem checkGpus_cons_eq_ok_iff {g : Gpu} {gpus : List Gpu} {position : Nat}
    {seen : List String} :
    checkGpus position seen (g :: gpus) = .ok () ↔
      g.index = position ∧ (∀ node ∈ g.numaNode, 0 ≤ node) ∧
        ∃ after, addUuids seen g.uuids = .ok after ∧
          checkGpus (position + 1) after gpus = .ok () := by
  have hnode : g.numaNode.filter (· < 0) = none ↔ ∀ node ∈ g.numaNode, 0 ≤ node := by
    simp [Option.filter_eq_none_iff]
  rw [checkGpus]
  by_cases hindex : g.index = position
  · rw [if_neg (not_not.mpr hindex), and_iff_right hindex]
    cases hneg : g.numaNode.filter (· < 0) with
    | some node =>
      rw [hneg] at hnode
      exact iff_of_false (by simp) fun h => absurd (hnode.mpr h.1) (by simp)
    | none =>
      rw [and_iff_right (hnode.mp hneg)]
      cases hadd : addUuids seen g.uuids with
      | error e => simp
      | ok after => simp
  · rw [if_pos hindex]
    exact iff_of_false (by simp) fun h => hindex h.1

/-- The GPUs pass the checks if their indices count up, no node is negative and no UUID of a GPU
or a MIG device occurs twice. -/
theorem checkGpus_eq_ok_iff :
    ∀ {gpus : List Gpu} {position : Nat} {seen : List String},
      checkGpus position seen gpus = .ok () ↔
        gpus.map Gpu.index = List.range' position gpus.length ∧
          (∀ g ∈ gpus, ∀ node ∈ g.numaNode, 0 ≤ node) ∧
          (gpus.flatMap Gpu.uuids).Nodup ∧ ∀ u ∈ gpus.flatMap Gpu.uuids, u ∉ seen := by
  intro gpus
  induction gpus with
  | nil => intro position seen; simp [checkGpus]
  | cons g gpus ih =>
    intro position seen
    rw [checkGpus_cons_eq_ok_iff, List.map_cons, List.length_cons, List.range'_succ,
      List.cons.injEq, List.flatMap_cons, List.nodup_append, List.forall_mem_cons]
    constructor
    · intro hx
      obtain ⟨hindex, hnode, after, hadd, hrest⟩ := hx
      obtain ⟨hn, hseen, rfl⟩ := addUuids_eq_ok_iff.mp hadd
      obtain ⟨hindices, hnodes, hnodup, hnew⟩ := ih.mp hrest
      refine ⟨⟨hindex, hindices⟩, ⟨hnode, hnodes⟩, ⟨hn, hnodup, ?_⟩, ?_⟩
      · rintro u hu v hv rfl
        exact hnew u hv (List.mem_append_left _ (List.mem_reverse.mpr hu))
      · intro u hu
        rcases List.mem_append.mp hu with hu | hu
        · exact hseen u hu
        · exact fun h => hnew u hu (List.mem_append_right _ h)
    · intro hx
      obtain ⟨⟨hindex, hindices⟩, ⟨hnode, hnodes⟩, ⟨hn, hnodup, hdisjoint⟩, hnew⟩ := hx
      have hadd := addUuids_eq_ok_iff.mpr ⟨hn, fun u hu => hnew u (List.mem_append_left _ hu), rfl⟩
      refine ⟨hindex, hnode, _, hadd, ih.mpr ⟨hindices, hnodes, hnodup, ?_⟩⟩
      intro u hu h
      rcases List.mem_append.mp h with h | h
      · exact hdisjoint u (List.mem_reverse.mp h) u hu rfl
      · exact hnew u (List.mem_append_right _ hu) h

theorem devices_eq_ok {t : Topology} {devices : List Device} (h : t.devices = .ok devices) :
    checkGpus 0 [] t.byIndex = .ok () ∧
      addLinks (t.byIndex.map Gpu.device) t.links = .ok devices := by
  rw [Topology.devices] at h
  split at h
  · exact absurd h (by simp)
  · rename_i hc
    exact ⟨hc, h⟩

/-! ## The list -/

theorem byIndex_perm (t : Topology) : t.byIndex.Perm t.gpus := List.mergeSort_perm _ _

theorem links_device_empty (t : Topology) : LinksAscend (t.byIndex.map Gpu.device) := by
  intro d hd
  obtain ⟨g, -, rfl⟩ := List.mem_map.mp hd
  exact List.Pairwise.nil

theorem linksBetween_device (t : Topology) (i j : Nat) :
    linksBetween (t.byIndex.map Gpu.device) i j = [] := by
  rw [linksBetween, List.getElem?_map]
  cases t.byIndex[i]? <;> rfl

/-- The devices of a topology are its GPUs by index, but for the links. -/
theorem map_bare_devices {t : Topology} {devices : List Device} (h : t.devices = .ok devices) :
    devices.map Device.bare = t.byIndex.map Gpu.device := by
  rw [(linked_addLinks (links_device_empty t) (devices_eq_ok h).2).bare, List.map_map]
  rfl

/-- Between two positions of the list stand the types of all entries that join them. -/
theorem linksBetween_devices {t : Topology} {devices : List Device} (h : t.devices = .ok devices)
    (i j : Nat) : linksBetween devices i j
      = (t.links.filter (·.joins i j)).flatMap LinkEntry.types := by
  rw [(linked_addLinks (links_device_empty t) (devices_eq_ok h).2).between,
    linksBetween_device, List.nil_append]

theorem map_index_devices {t : Topology} {devices : List Device} (h : t.devices = .ok devices) :
    devices.map Device.index = List.range devices.length := by
  have hbare := map_bare_devices h
  have hlen : devices.length = t.byIndex.length := by simpa using congrArg List.length hbare
  have hindex := congrArg (List.map Device.index) hbare
  rw [List.map_map, List.map_map] at hindex
  have hcheck := (checkGpus_eq_ok_iff.mp (devices_eq_ok h).1).1
  calc devices.map Device.index = t.byIndex.map Gpu.index := hindex
    _ = List.range' 0 t.byIndex.length := hcheck
    _ = List.range devices.length := by rw [hlen, List.range_eq_range']

theorem map_uuid_devices {t : Topology} {devices : List Device} (h : t.devices = .ok devices) :
    devices.map Device.uuid = t.byIndex.map Gpu.uuid := by
  have huuid := congrArg (List.map Device.uuid) (map_bare_devices h)
  rwa [List.map_map, List.map_map] at huuid

end Topology

/-- The UUIDs of GPUs are among those of GPUs and MIG devices. -/
theorem map_uuid_sublist (gpus : List Gpu) :
    (gpus.map Gpu.uuid).Sublist (gpus.flatMap Gpu.uuids) := by
  induction gpus with
  | nil => exact .slnil
  | cons g gpus ih =>
    rw [List.map_cons, List.flatMap_cons, Gpu.uuids, List.cons_append]
    exact (ih.trans (List.sublist_append_right _ _)).cons_cons _

theorem index_of_map_index {devices : List Device}
    (h : devices.map Device.index = List.range devices.length) {i : Nat} {d : Device}
    (hd : devices[i]? = some d) : d.index = i := by
  have hindex := congrArg (·[i]?) h
  have hlt : i < devices.length := (List.getElem?_eq_some_iff.mp hd).1
  simpa only [List.getElem?_map, hd, List.getElem?_range hlt, Option.map_some,
    Option.some.injEq] using hindex

theorem getElem?_of_map_index {devices : List Device}
    (h : devices.map Device.index = List.range devices.length) {d : Device} (hd : d ∈ devices) :
    devices[d.index]? = some d := by
  obtain ⟨i, hi⟩ := List.mem_iff_getElem?.mp hd
  rw [index_of_map_index h hi]
  exact hi

/-- **An accepted topology gives a well-formed device list.** -/
theorem Topology.nodeDevices {t : Topology} {devices : List Device}
    (h : t.devices = .ok devices) : NodeDevices devices where
  indices := map_index_devices h
  uuids := by
    have hnodup := (checkGpus_eq_ok_iff.mp (devices_eq_ok h).1).2.2.1
    rw [map_uuid_devices h]
    exact hnodup.sublist (map_uuid_sublist _)
  symmetric := by
    intro a ha b hb
    have hindices := map_index_devices h
    have hswap : ∀ l : LinkEntry, l.joins a.index b.index = l.joins b.index a.index :=
      fun l => l.joins_comm _ _
    rw [← linksBetween_eq (getElem?_of_map_index hindices ha) b.index,
      ← linksBetween_eq (getElem?_of_map_index hindices hb) a.index,
      linksBetween_devices h, linksBetween_devices h]
    simp only [hswap]

namespace NodeDevices

variable {devices : List Device}

theorem index_lt (h : NodeDevices devices) {d : Device} (hd : d ∈ devices) :
    d.index < devices.length := by
  have hmem : d.index ∈ devices.map Device.index := List.mem_map_of_mem hd
  rw [h.indices] at hmem
  exact List.mem_range.mp hmem

theorem exists_index (h : NodeDevices devices) {i : Nat} (hi : i < devices.length) :
    ∃ d ∈ devices, d.index = i := by
  have hmem : i ∈ devices.map Device.index := by
    rw [h.indices]
    exact List.mem_range.mpr hi
  exact List.mem_map.mp hmem

theorem eq_of_index (h : NodeDevices devices) {a b : Device} (ha : a ∈ devices)
    (hb : b ∈ devices) (he : a.index = b.index) : a = b := by
  have h1 := getElem?_of_map_index h.indices ha
  rw [he, getElem?_of_map_index h.indices hb] at h1
  exact (Option.some.inj h1).symm

theorem ascending (h : NodeDevices devices) :
    devices.Pairwise fun a b => a.index < b.index := by
  have hasc : (devices.map Device.index).Pairwise (· < ·) := by
    rw [h.indices]
    exact List.pairwise_lt_range
  exact List.pairwise_map.mp hasc

end NodeDevices

end GpuPlacement
