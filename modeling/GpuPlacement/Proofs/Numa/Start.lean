import GpuPlacement.Proofs.Numa.Affinity
import GpuPlacement.Proofs.Numa.Resolution
import GpuPlacement.Proofs.Numa.WriteOnce
import GpuPlacement.Proofs.Topology.WellFormed

/-!
# Starting over a topology

The first start of a filter over the devices of a topology and a sysfs tree. Of an accepted topology
it succeeds exactly if the system nodes are found and every GPU has a node, and then there is one
entry for each device (`start_exact`). The devices come in an order that may be another one each
time; it decides which failure is reported, if there are several, and nothing else, so all of this
is said of any discoverer that lists them (`SameDevices`).

When a start fails for want of a node, then some GPU has none for that reason, whether the topology
is accepted or not; what is reported is not always the device, though (`start_numaNode`).
-/

set_option autoImplicit false

namespace GpuPlacement.Numa

/-- The first start of a filter while the sysfs tree is `fs`. -/
def firstStart (fs : FileSystem) (systemRoot : String) (d : Discoverer) : Reply Unit × Filter :=
  Filter.new.start (Sysfs.systemNodes fs systemRoot) d

/-- It succeeds with the cache that it has filled, or fails and leaves none. -/
theorem firstStart_cases (fs : FileSystem) (systemRoot : String) (d : Discoverer) :
    (∃ c, (Cache.discover (Sysfs.systemNodes fs systemRoot) d).result = .ok c ∧
      (firstStart fs systemRoot d).1.result = .ok () ∧ (firstStart fs systemRoot d).2 = ⟨some c⟩) ∨
    ∃ e, (Cache.discover (Sysfs.systemNodes fs systemRoot) d).result = .error e ∧
      (firstStart fs systemRoot d).1.result = .error e ∧
        (firstStart fs systemRoot d).2 = Filter.new := by
  cases hd : (Cache.discover (Sysfs.systemNodes fs systemRoot) d).result with
  | ok c => exact Or.inl ⟨c, rfl, Filter.start_of_ok rfl hd⟩
  | error e => exact Or.inr ⟨e, rfl, Filter.start_of_error rfl hd⟩

theorem startedCache_firstStart_iff {fs : FileSystem} {systemRoot : String} {d : Discoverer}
    {c : Cache} : (firstStart fs systemRoot d).2.startedCache = .ok c ↔
      (Cache.discover (Sysfs.systemNodes fs systemRoot) d).result = .ok c := by
  rcases firstStart_cases fs systemRoot d with ⟨filled, hc, -, hstarted⟩ | ⟨e, he, -, hnew⟩
  · rw [hstarted, hc]
    rfl
  · rw [hnew, he]
    exact iff_of_false (by simp [Filter.startedCache, Filter.new]) (by simp)

/-- A cache with one entry for each GPU and for each MIG device, on the node of the GPU. -/
structure CachesAll (t : Topology) (fs : FileSystem) (root : String) (c : Cache) : Prop where
  size : c.size = t.gpus.length + (t.gpus.map fun g => g.migs.length).sum
  /-- The entries are for the UUIDs of the topology, each once. -/
  keys : (c.nodeTable.map Prod.fst).Perm (t.gpus.flatMap Gpu.uuids)
  distinct : (c.nodeTable.map Prod.fst).Nodup
  nodes : ∀ g ∈ t.gpus, ∃ node, GpuOn fs root g node ∧
    ∀ uuid ∈ g.uuids, c.cachedNode uuid = some node

/-- A cache with the entries of another one, perhaps in another order. -/
structure Cache.Alike (c' c : Cache) : Prop where
  systemNodes : c'.systemNodes = c.systemNodes
  nodeTable : c'.nodeTable.Perm c.nodeTable
  cachedNode : ∀ uuid, c'.cachedNode uuid = c.cachedNode uuid

/-- What the first start does over a topology. -/
structure StartsExactly (t : Topology) (fs : FileSystem) (systemRoot root : String)
    (d : Discoverer) : Prop where
  /-- It succeeds if there are system nodes to be found and every GPU has a node. -/
  succeeds : (firstStart fs systemRoot d).1.result = .ok () ↔
    (∃ nodes, Sysfs.systemNodes fs systemRoot = .ok nodes) ∧
      ∀ g ∈ t.gpus, ∃ node, GpuOn fs root g node
  /-- Then there is an entry for each device. -/
  started : (firstStart fs systemRoot d).1.result = .ok () →
    ∃ c, (firstStart fs systemRoot d).2.startedCache = .ok c ∧
      Sysfs.systemNodes fs systemRoot = .ok c.systemNodes ∧ CachesAll t fs root c
  /-- Otherwise the filter is as it was. -/
  unstarted : ∀ e, (firstStart fs systemRoot d).1.result = .error e →
    (firstStart fs systemRoot d).2.isStarted = false ∧
      (firstStart fs systemRoot d).2.startedCache = .error .notInitialized

/-! ## The devices that are listed -/

section Listed

variable {t : Topology} {fs : FileSystem} {root : String}

theorem mem_handles_iff {h : DeviceHandle} :
    h ∈ handles t fs root ↔ ∃ g ∈ t.gpus, ∃ d ∈ gpuInventory g, d.handle fs root = h := by
  rw [handles, inventory, List.map_flatMap, List.mem_flatMap]
  exact exists_congr fun g => and_congr_right' List.mem_map

theorem length_flatMap_uuids (gpus : List Gpu) :
    (gpus.flatMap Gpu.uuids).length = gpus.length + (gpus.map fun g => g.migs.length).sum := by
  induction gpus with
  | nil => rfl
  | cons g gpus ih =>
    rw [List.flatMap_cons, List.length_append, ih]
    simp only [Gpu.uuids, List.length_cons, List.length_map, List.map_cons, List.sum_cons]
    omega

variable (hnodes : ∀ g ∈ t.gpus, ∀ node ∈ g.numaNode, 0 ≤ node)
  (hbus : ∀ g ∈ t.gpus, ∀ busId ∈ g.busId, '/' ∉ busId.toList) {devices : List DeviceHandle}
  (hperm : (handles t fs root).Perm devices)

include hnodes hbus hperm

/-- Every device has a node if every GPU has one. -/
theorem forall_node_iff : (∀ h ∈ devices, ∃ node, h.node = .ok node) ↔
    ∀ g ∈ t.gpus, ∃ node, GpuOn fs root g node := by
  constructor
  · intro hall g hg
    obtain ⟨node, hnode⟩ := hall _ (hperm.mem_iff.mp (mem_handles_iff.mpr
      ⟨g, hg, _, List.mem_cons_self, rfl⟩))
    exact ⟨node, (node_eq_ok_iff List.mem_cons_self (hnodes g hg) (hbus g hg)).mp hnode⟩
  · intro hall h hh
    obtain ⟨g, hg, d, hd, rfl⟩ := mem_handles_iff.mp (hperm.mem_iff.mpr hh)
    obtain ⟨node, hon⟩ := hall g hg
    exact ⟨node, (node_eq_ok_iff hd (hnodes g hg) (hbus g hg)).mpr hon⟩

end Listed

/-! ## Accepted topologies -/

section Accepted

variable {t : Topology} (h : ∃ devices, t.devices = .ok devices)
  (hbus : ∀ g ∈ t.gpus, ∀ busId ∈ g.busId, '/' ∉ busId.toList) {fs : FileSystem}
  {systemRoot root name : String}

include h hbus

theorem cachesAll_of_discover {d : Discoverer} {devices : List DeviceHandle}
    (hd : d.devices = .ok devices) (hperm : (handles t fs root).Perm devices)
    {system : Except Error (List Int)} {c : Cache} (hc : (Cache.discover system d).result = .ok c) :
    CachesAll t fs root c := by
  have hwf := t.exists_devices_iff.mp h
  obtain ⟨found, -, hfound, htable⟩ := Cache.discover_eq_ok hc
  obtain rfl := Except.ok.inj (hd.symm.trans hfound)
  have hkeys : (c.nodeTable.map Prod.fst).Perm (t.gpus.flatMap Gpu.uuids) := by
    rw [Cache.map_fst_tableOf htable, ← map_uuid_inventory, ← map_uuid_handles t fs root]
    exact (hperm.map DeviceHandle.uuid).symm
  have hdistinct : (devices.map DeviceHandle.uuid).Nodup := by
    rw [← Cache.map_fst_tableOf htable]
    exact hkeys.nodup_iff.mpr hwf.uuids
  refine ⟨?_, hkeys, hkeys.nodup_iff.mpr hwf.uuids, fun g hg => ?_⟩
  · rw [← length_flatMap_uuids, ← hkeys.length_eq, List.length_map, Cache.size]
  · obtain ⟨node, hon⟩ := (forall_node_iff hwf.nodes hbus hperm).mp
      (Cache.exists_tableOf_iff.mp ⟨_, htable⟩) g hg
    refine ⟨node, hon, fun uuid hu => ?_⟩
    rw [← map_uuid_gpuInventory] at hu
    obtain ⟨e, he, rfl⟩ := List.mem_map.mp hu
    have hnode : e.node fs root = .ok node :=
      (node_eq_ok_iff he (hwf.nodes g hg) (hbus g hg)).mpr hon
    obtain ⟨cached, hcached, hlookup⟩ := (Cache.lookup_tableOf htable hdistinct).1 _
      (hperm.mem_iff.mp (mem_handles_iff.mpr ⟨g, hg, e, he, rfl⟩))
    obtain rfl : node = cached := Except.ok.inj (hnode.symm.trans hcached)
    exact hlookup

theorem startsExactly {d : Discoverer}
    (hd : SameDevices (inventoryDiscoverer t fs root name).devices d.devices) :
    StartsExactly t fs systemRoot root d := by
  obtain ⟨devices, hdevices, hperm⟩ := hd.exists_perm_handles h
  have hfills := Cache.exists_discover_iff hdevices (Sysfs.systemNodes fs systemRoot)
  rw [forall_node_iff (t.exists_devices_iff.mp h).nodes hbus hperm] at hfills
  rcases firstStart_cases fs systemRoot d with
    ⟨c, hc, hok, hstarted⟩ | ⟨e, he, herror, hnew⟩
  · refine ⟨iff_of_true hok (hfills.mp ⟨c, hc⟩), fun _ => ⟨c, ?_, ?_, ?_⟩, fun e he => ?_⟩
    · rw [hstarted]
      rfl
    · obtain ⟨-, hsystem, -⟩ := Cache.discover_eq_ok hc
      exact hsystem
    · exact cachesAll_of_discover h hbus hdevices hperm hc
    · exact absurd (hok.symm.trans he) (by simp)
  · refine ⟨iff_of_false ?_ fun hall => ?_, fun hok => ?_, fun _ _ => ?_⟩
    · rw [herror]
      simp
    · obtain ⟨c, hc⟩ := hfills.mpr hall
      exact absurd (he.symm.trans hc) (by simp)
    · exact absurd (herror.symm.trans hok) (by simp)
    · rw [hnew]
      exact ⟨rfl, rfl⟩

/-- Two starts that are told of the devices in different orders leave the same cache. -/
theorem firstStart_alike {d e : Discoverer}
    (hd : SameDevices (inventoryDiscoverer t fs root name).devices d.devices)
    (he : SameDevices (inventoryDiscoverer t fs root name).devices e.devices) {c : Cache}
    (hc : (firstStart fs systemRoot d).2.startedCache = .ok c) :
    ∃ c', (firstStart fs systemRoot e).2.startedCache = .ok c' ∧ c'.Alike c := by
  obtain ⟨devices, hdevices, hperm⟩ := hd.exists_perm_handles h
  obtain ⟨others, hothers, hperm'⟩ := he.exists_perm_handles h
  rw [startedCache_firstStart_iff] at hc
  have hdistinct := (cachesAll_of_discover h hbus hdevices hperm hc).distinct
  obtain ⟨found, hsystem, hfound, htable⟩ := Cache.discover_eq_ok hc
  obtain rfl := Except.ok.inj (hdevices.symm.trans hfound)
  obtain ⟨table, htable', hsame⟩ := Cache.tableOf_perm (hperm.symm.trans hperm') htable
  refine ⟨⟨c.systemNodes, table⟩, ?_, rfl, hsame.symm,
    fun uuid => (Cache.lookup_perm hdistinct hsame uuid).symm⟩
  rw [startedCache_firstStart_iff, Cache.result_discover hothers, hsystem, htable']
  rfl

end Accepted

/-- **A first start over an accepted topology.** -/
theorem start_exact {t : Topology} (h : ∃ devices, t.devices = .ok devices)
    (hbus : ∀ g ∈ t.gpus, ∀ busId ∈ g.busId, '/' ∉ busId.toList) (fs : FileSystem)
    (systemRoot root name : String) :
    (∀ d : Discoverer, SameDevices (inventoryDiscoverer t fs root name).devices d.devices →
      StartsExactly t fs systemRoot root d) ∧
    ∀ d e : Discoverer, SameDevices (inventoryDiscoverer t fs root name).devices d.devices →
      SameDevices (inventoryDiscoverer t fs root name).devices e.devices →
      ∀ c, (firstStart fs systemRoot d).2.startedCache = .ok c →
        ∃ c', (firstStart fs systemRoot e).2.startedCache = .ok c' ∧ c'.Alike c :=
  ⟨fun _ hd => startsExactly h hbus hd, fun _ _ hd he _ hc => firstStart_alike h hbus hd he hc⟩

/-- A GPU that is looked up and one with a declared node and MIG devices, told in reverse. -/
theorem start_exact_migTopology :
    let d := inventoryDiscoverer migTopology (treeWith "1\n") "/sys" "GPUS"
    let reversed : Discoverer :=
      { d with devices := .ok (handles migTopology (treeWith "1\n") "/sys").reverse }
    (∃ devices, migTopology.devices = .ok devices) ∧
      (∀ g ∈ migTopology.gpus, ∀ busId ∈ g.busId, '/' ∉ busId.toList) ∧
      SameDevices d.devices d.devices ∧ SameDevices d.devices reversed.devices ∧
      (firstStart (treeWith "1\n") "/sys" d).1.result = .ok () ∧
      StartsExactly migTopology (treeWith "1\n") "/sys" "/sys" d ∧
      StartsExactly migTopology (treeWith "1\n") "/sys" "/sys" reversed ∧
      ∃ c c', (firstStart (treeWith "1\n") "/sys" d).2.startedCache = .ok c ∧
        (firstStart (treeWith "1\n") "/sys" reversed).2.startedCache = .ok c' ∧ c'.Alike c := by
  intro d reversed
  have hdevices := accepted_migTopology.devices
  have hbus : ∀ g ∈ migTopology.gpus, ∀ busId ∈ g.busId, '/' ∉ busId.toList := by decide
  have hsame : SameDevices d.devices d.devices := SameDevices.refl _
  have hreversed : SameDevices d.devices reversed.devices :=
    (discovers_reverse accepted_migTopology (treeWith "1\n") "/sys" "GPUS").devices
  have hstart := start_exact hdevices hbus (treeWith "1\n") "/sys" "/sys" "GPUS"
  have hok : (firstStart (treeWith "1\n") "/sys" d).1.result = .ok () := rfl
  obtain ⟨c, hc, -⟩ := (hstart.1 d hsame).started hok
  obtain ⟨c', hc', halike⟩ := hstart.2 d reversed hsame hreversed c hc
  exact ⟨hdevices, hbus, hsame, hreversed, hok, hstart.1 d hsame, hstart.1 reversed hreversed,
    c, c', hc, hc', halike⟩

/-! ## Reported devices -/

theorem systemNodes_error {fs : FileSystem} {root : String} {e : Error}
    (h : Sysfs.systemNodes fs root = .error e) : ∃ cause, e = .systemNodes cause := by
  simp only [Sysfs.systemNodes] at h
  split at h
  · exact ⟨_, (Except.error.inj h).symm⟩
  · split at h
    · exact ⟨_, (Except.error.inj h).symm⟩
    · exact absurd h (by simp)

/-- A start fails as finding the system nodes does, or as one of the devices. -/
theorem firstStart_error {fs : FileSystem} {systemRoot : String} {d : Discoverer}
    {devices : List DeviceHandle} (hd : d.devices = .ok devices) {e : Error}
    (h : (firstStart fs systemRoot d).1.result = .error e) :
    (∃ cause, e = .systemNodes cause) ∨ ∃ handle ∈ devices, handle.node = .error e := by
  have hfails : FailsIn (fun e => (∃ cause, e = Error.systemNodes cause) ∨
      ∃ handle ∈ devices, handle.node = .error e)
      (Cache.discover (Sysfs.systemNodes fs systemRoot) d).result :=
    Cache.failsIn_discover hd (fun _ he => Or.inl (systemNodes_error he))
      fun handle hmem _ he => Or.inr ⟨handle, hmem, he⟩
  rcases firstStart_cases fs systemRoot d with ⟨c, -, hok, -⟩ | ⟨e', he', herror, -⟩
  · exact absurd (hok.symm.trans h) (by simp)
  · obtain rfl := Except.error.inj (herror.symm.trans h)
    exact hfails e' he'

/-- **What is reported when a node is missing.** A GPU or MIG device has none for a reason that its
GPU has, and it is reported under its UUID unless the reason is a number that can not be read. A
start that fails in this way fails for one of the devices. -/
theorem start_numaNode (t : Topology) (fs : FileSystem) (systemRoot root name : String) :
    (∀ g ∈ t.gpus, ∀ d ∈ gpuInventory g, ∀ reported cause,
      (d.handle fs root).node = .error (.numaNode reported cause) ↔
        NoNode fs root g cause ∧ NamedAs g.busId d.uuid cause reported) ∧
    ∀ d : Discoverer, SameDevices (inventoryDiscoverer t fs root name).devices d.devices →
      ∀ reported cause, (firstStart fs systemRoot d).1.result = .error (.numaNode reported cause) →
        ∃ g ∈ t.gpus, ∃ uuid ∈ g.uuids,
          NoNode fs root g cause ∧ NamedAs g.busId uuid cause reported := by
  refine ⟨fun g _ d hd reported cause => node_eq_numaNode_iff hd,
    fun d hd reported cause hfails => ?_⟩
  obtain ⟨devices, hdevices, hperm⟩ := hd.exists_perm
  rcases firstStart_error hdevices hfails with ⟨_, hsystem⟩ | ⟨handle, hmem, hnode⟩
  · exact absurd hsystem (by simp)
  · obtain ⟨g, hg, e, he, rfl⟩ := mem_handles_iff.mp
      (mem_of_mem_distinctDevices (hperm.mem_iff.mpr hmem))
    exact ⟨g, hg, e.uuid, uuid_mem_of_mem_gpuInventory he, (node_eq_numaNode_iff he).mp hnode⟩

/-- The file of a bus ID holds no number, and the start reports the bus ID. -/
theorem start_numaNode_malformed :
    let fs := treeWith "x"
    let d := inventoryDiscoverer migTopology fs "/sys" "GPUS"
    let cause := NodeCause.malformed "x" .invalidDigit
    SameDevices d.devices d.devices ∧
      (firstStart fs "/sys" d).1.result = .error (.numaNode "0000:41:00.0" cause) ∧
      ∃ g ∈ migTopology.gpus, ∃ uuid ∈ g.uuids,
        NoNode fs "/sys" g cause ∧ NamedAs g.busId uuid cause "0000:41:00.0" := by
  intro fs d cause
  have hfails : (firstStart fs "/sys" d).1.result = .error (.numaNode "0000:41:00.0" cause) := rfl
  exact ⟨SameDevices.refl _, hfails,
    (start_numaNode migTopology fs "/sys" "/sys" "GPUS").2 d (SameDevices.refl _) _ _ hfails⟩

/-- So not every failure is reported under the UUID of the device. -/
theorem numaNode_names_busId :
    ¬ ∀ d ∈ inventory migTopology, ∀ uuid cause,
      (d.handle (treeWith "x") "/sys").node = .error (.numaNode uuid cause) → uuid = d.uuid := by
  intro hall
  have hnode : ((⟨"GPU-1", "1", .pci "0000:41:00.0"⟩ : InventoryDevice).handle (treeWith "x")
      "/sys").node = .error (.numaNode "0000:41:00.0" (.malformed "x" .invalidDigit)) := rfl
  exact absurd (hall _ (by decide) _ _ hnode) (by decide)

end GpuPlacement.Numa
