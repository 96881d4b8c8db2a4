import GpuPlacement.Proofs.Text.Numeral
import GpuPlacement.Proofs.Text.Split
import GpuPlacement.Proofs.Topology.Devices
import GpuPlacement.Numa.Inventory

/-!
# The inventory of an accepted topology

What discovery reports of a topology (Numa/Inventory.lean), when the topology is accepted and its
numbers fit 32 bits: `listing`, every GPU by ascending index and behind it its MIG devices. No two
devices have a UUID or an index in common, so that nothing is lost where devices are keyed by
UUID, and sorting them by index gives the listing, however the file is written.

The order in which they are reported says nothing and may be another one each time. What is proved
of a discoverer is therefore proved of all that differ from it in that order (`SameDevices`).
-/

set_option autoImplicit false

namespace GpuPlacement.Numa

/-- The devices of a topology: every GPU by ascending index, and behind it its MIG devices. -/
def listing (t : Topology) : List InventoryDevice := t.byIndex.flatMap gpuInventory

/-- An accepted topology with fewer than `2 ^ 32` GPUs, and MIG devices of each. -/
structure Accepted (t : Topology) : Prop where
  devices : ∃ devices, t.devices = .ok devices
  gpus : t.gpus.length ≤ Text.maxU32
  migs : ∀ g ∈ t.gpus, g.migs.length ≤ Text.maxU32

theorem inventory_perm_listing (t : Topology) : (inventory t).Perm (listing t) :=
  (t.byIndex_perm.symm).flatMap_right gpuInventory

/-! ## Indices as texts -/

theorem toList_toString (n : Nat) : (toString n).toList = Nat.toDigits 10 n := Nat.toList_repr

theorem toList_migIndex (gpu mig : Nat) :
    (migIndex gpu mig).toList = Nat.toDigits 10 gpu ++ ':' :: Nat.toDigits 10 mig := by
  simp [migIndex, toString]

theorem colon_notMem_toDigits (n : Nat) : ':' ∉ Nat.toDigits 10 n := by
  intro h
  exact absurd (Text.isDigit_of_mem_toDigits h) (by decide)

/-- A GPU comes at its number, in front of its MIG devices. -/
theorem indexKey_toString {gpu : Nat} (h : gpu ≤ Text.maxU32) :
    indexKey (toString gpu) = (gpu, 0) := by
  have hsplit : Text.splitFirst? ':' (toString gpu).toList = none := by
    rw [Text.splitFirst?_eq_none_iff, toList_toString]
    exact colon_notMem_toDigits gpu
  simp only [indexKey, hsplit]
  rw [toList_toString, Text.readNat_toDigits h]
  rfl

/-- A MIG device comes behind its GPU at its own number. -/
theorem indexKey_migIndex {gpu mig : Nat} (hg : gpu ≤ Text.maxU32) (hm : mig ≤ Text.maxU32) :
    indexKey (migIndex gpu mig) = (gpu, mig + 1) := by
  have hsplit : Text.splitFirst? ':' (migIndex gpu mig).toList
      = some (Nat.toDigits 10 gpu, Nat.toDigits 10 mig) :=
    Text.splitFirst?_eq_some_iff.mpr ⟨toList_migIndex gpu mig, colon_notMem_toDigits gpu⟩
  simp only [indexKey, hsplit]
  rw [Text.readNat_toDigits hg, Text.readNat_toDigits hm]
  rfl

/-! ## One GPU and its MIG devices -/

/-- The order of the places of indices. -/
def KeyLt (k l : Nat × Nat) : Prop := k.1 < l.1 ∨ (k.1 = l.1 ∧ k.2 < l.2)

theorem KeyLt.ne {k l : Nat × Nat} (h : KeyLt k l) : k ≠ l := by
  rintro rfl
  rcases h with h | ⟨-, h⟩ <;> exact Nat.lt_irrefl _ h

theorem KeyLt.asymm {k l : Nat × Nat} (h : KeyLt k l) : ¬ KeyLt l k := by
  rintro (h' | ⟨h', h''⟩) <;> rcases h with h | ⟨h, h3⟩ <;> omega

theorem KeyLt.eq_of_not {k l : Nat × Nat} (h : ¬ KeyLt k l) (h' : ¬ KeyLt l k) : k = l := by
  simp only [KeyLt] at h h'
  exact Prod.ext (by omega) (by omega)

theorem map_uuid_gpuInventory (g : Gpu) :
    (gpuInventory g).map InventoryDevice.uuid = g.uuids := by
  rw [gpuInventory, List.map_cons, Gpu.uuids]
  refine congrArg (g.uuid :: ·) (List.ext_getElem? fun i => ?_)
  rw [List.getElem?_map, List.getElem?_mapIdx, Option.map_map, List.getElem?_map]
  rfl

theorem gpuInventory_ascending {g : Gpu} (hg : g.index ≤ Text.maxU32)
    (hm : g.migs.length ≤ Text.maxU32) :
    (∀ d ∈ gpuInventory g, (indexKey d.index).1 = g.index) ∧
      (gpuInventory g).Pairwise fun d e => KeyLt (indexKey d.index) (indexKey e.index) := by
  have hmig : ∀ i, i < g.migs.length → indexKey (migIndex g.index i) = (g.index, i + 1) :=
    fun i hi => indexKey_migIndex hg ((Nat.le_of_lt hi).trans hm)
  have hhead : indexKey (toString g.index) = (g.index, 0) := indexKey_toString hg
  constructor
  · intro d hd
    rcases List.mem_cons.mp hd with rfl | hd
    · exact congrArg Prod.fst hhead
    · obtain ⟨i, hi, rfl⟩ := List.mem_mapIdx.mp hd
      exact congrArg Prod.fst (hmig i hi)
  · refine List.pairwise_cons.mpr ⟨fun d hd => ?_, ?_⟩
    · obtain ⟨i, hi, rfl⟩ := List.mem_mapIdx.mp hd
      show KeyLt (indexKey (toString g.index)) (indexKey (migIndex g.index i))
      rw [hhead, hmig i hi]
      exact Or.inr ⟨rfl, Nat.succ_pos i⟩
    · refine List.pairwise_iff_getElem.mpr fun i j hi hj hij => ?_
      rw [List.getElem_mapIdx, List.getElem_mapIdx]
      rw [List.length_mapIdx] at hi hj
      show KeyLt (indexKey (migIndex g.index i)) (indexKey (migIndex g.index j))
      rw [hmig i hi, hmig j hj]
      exact Or.inr ⟨rfl, Nat.succ_lt_succ hij⟩

/-! ## All devices -/

theorem map_uuid_inventory (t : Topology) :
    (inventory t).map InventoryDevice.uuid = t.gpus.flatMap Gpu.uuids := by
  rw [inventory, List.map_flatMap]
  exact List.flatMap_congr fun g _ => map_uuid_gpuInventory g

theorem nodup_uuids_inventory {t : Topology} {devices : List Device} (h : t.devices = .ok devices) :
    ((inventory t).map InventoryDevice.uuid).Nodup := by
  rw [map_uuid_inventory, ← (t.byIndex_perm.flatMap_right Gpu.uuids).nodup_iff]
  exact (Topology.checkGpus_eq_ok_iff.mp (Topology.devices_eq_ok h).1).2.2.1

namespace Accepted

variable {t : Topology}

/-- By ascending index the GPUs count up from zero. -/
theorem map_index_byIndex (h : Accepted t) :
    t.byIndex.map Gpu.index = List.range t.gpus.length := by
  obtain ⟨devices, hd⟩ := h.devices
  rw [(Topology.checkGpus_eq_ok_iff.mp (Topology.devices_eq_ok hd).1).1,
    t.byIndex_perm.length_eq, List.range_eq_range']

theorem index_le (h : Accepted t) {g : Gpu} (hg : g ∈ t.byIndex) : g.index ≤ Text.maxU32 := by
  have hmem : g.index ∈ t.byIndex.map Gpu.index := List.mem_map_of_mem hg
  rw [h.map_index_byIndex, List.mem_range] at hmem
  exact (Nat.le_of_lt hmem).trans h.gpus

/-- The listing ascends strictly by the places of the indices. -/
theorem listing_ascending (h : Accepted t) :
    (listing t).Pairwise fun d e => KeyLt (indexKey d.index) (indexKey e.index) := by
  have hgpu : ∀ g ∈ t.byIndex, (∀ d ∈ gpuInventory g, (indexKey d.index).1 = g.index) ∧
      (gpuInventory g).Pairwise fun d e => KeyLt (indexKey d.index) (indexKey e.index) :=
    fun g hg => gpuInventory_ascending (h.index_le hg) (h.migs g (t.byIndex_perm.mem_iff.mp hg))
  have hasc : t.byIndex.Pairwise fun g g' => g.index < g'.index := by
    rw [← List.pairwise_map, h.map_index_byIndex]
    exact List.pairwise_lt_range
  refine List.pairwise_flatMap.mpr ⟨fun g hg => (hgpu g hg).2, ?_⟩
  refine hasc.imp_of_mem fun {g g'} hg hg' hlt d hd e he => Or.inl ?_
  rw [(hgpu g hg).1 d hd, (hgpu g' hg').1 e he]
  exact hlt

theorem nodup_uuids (h : Accepted t) : ((listing t).map InventoryDevice.uuid).Nodup := by
  obtain ⟨devices, hd⟩ := h.devices
  exact ((inventory_perm_listing t).map _).nodup_iff.mp (nodup_uuids_inventory hd)

theorem nodup_keys (h : Accepted t) : ((listing t).map fun d => indexKey d.index).Nodup :=
  List.pairwise_map.mpr (h.listing_ascending.imp KeyLt.ne)

theorem nodup_indices (h : Accepted t) : ((listing t).map InventoryDevice.index).Nodup := by
  apply List.Nodup.of_map indexKey
  rw [List.map_map]
  exact h.nodup_keys

theorem eq_of_key (h : Accepted t) {d e : InventoryDevice} (hd : d ∈ listing t)
    (he : e ∈ listing t) (hk : indexKey d.index = indexKey e.index) : d = e :=
  List.inj_on_of_nodup_map h.nodup_keys hd he hk

end Accepted

/-! ## What discovery reports -/

/-- Devices with different UUIDs are all kept. -/
theorem distinctDevices_eq_self {devices : List DeviceHandle}
    (h : (devices.map DeviceHandle.uuid).Nodup) : distinctDevices devices = devices := by
  induction devices with
  | nil => rfl
  | cons d devices ih =>
    obtain ⟨hnew, hrest⟩ := List.nodup_cons.mp h
    have hno : ¬ (devices.any fun e => e.uuid == d.uuid) = true := by
      intro hany
      obtain ⟨e, he, hu⟩ := List.any_eq_true.mp hany
      exact hnew (List.mem_map.mpr ⟨e, he, eq_of_beq hu⟩)
    have hfold := ih hrest
    unfold distinctDevices at hfold ⊢
    rw [List.foldr_cons, hfold, if_neg hno]

theorem mem_of_mem_distinctDevices {devices : List DeviceHandle} {d : DeviceHandle}
    (h : d ∈ distinctDevices devices) : d ∈ devices := by
  induction devices with
  | nil => exact h
  | cons e devices ih =>
    unfold distinctDevices at h ih
    rw [List.foldr_cons] at h
    split at h
    · exact List.mem_cons_of_mem e (ih h)
    · rcases List.mem_cons.mp h with rfl | h
      · exact List.mem_cons_self
      · exact List.mem_cons_of_mem e (ih h)

/-- The devices of a topology as discovery reports them at one moment. -/
def handles (t : Topology) (fs : FileSystem) (root : String) : List DeviceHandle :=
  (inventory t).map fun d => d.handle fs root

theorem map_uuid_handles (t : Topology) (fs : FileSystem) (root : String) :
    (handles t fs root).map DeviceHandle.uuid = (inventory t).map InventoryDevice.uuid := by
  rw [handles, List.map_map]
  rfl

theorem mem_handles {t : Topology} {fs : FileSystem} {root : String} {d : DeviceHandle} :
    d ∈ handles t fs root ↔ ∃ e ∈ listing t, e.handle fs root = d := by
  rw [handles, List.mem_map]
  exact exists_congr fun e => and_congr_left' (inventory_perm_listing t).mem_iff

/-- Of a topology with devices none is lost where they are keyed by UUID. -/
theorem devices_inventoryDiscoverer {t : Topology} (h : ∃ devices, t.devices = .ok devices)
    (fs : FileSystem) (root deviceVariable : String) :
    (inventoryDiscoverer t fs root deviceVariable).devices = .ok (handles t fs root) := by
  obtain ⟨devices, hd⟩ := h
  refine congrArg Except.ok (distinctDevices_eq_self ?_)
  rw [← handles, map_uuid_handles]
  exact nodup_uuids_inventory hd

namespace Accepted

variable {t : Topology}

theorem nodup_index_handles (h : Accepted t) (fs : FileSystem) (root : String) :
    ((handles t fs root).map DeviceHandle.index).Nodup := by
  rw [handles, List.map_map]
  exact ((inventory_perm_listing t).map _).nodup_iff.mpr h.nodup_indices

/-- The devices sorted by index are the listing, in whatever order they come. -/
theorem mergeSort_of_perm_handles (h : Accepted t) {fs : FileSystem} {root : String}
    {devices : List DeviceHandle} (hdevices : (handles t fs root).Perm devices) :
    devices.mergeSort indexLe = (listing t).map fun d => d.handle fs root := by
  have hperm : (devices.mergeSort indexLe).Perm ((listing t).map fun d => d.handle fs root) :=
    (List.mergeSort_perm _ _).trans (hdevices.symm.trans ((inventory_perm_listing t).map _))
  have hle : ∀ d e : DeviceHandle,
      indexLe d e = true ↔ ¬ KeyLt (indexKey e.index) (indexKey d.index) := by
    intro d e
    simp only [indexLe, KeyLt, Bool.or_eq_true, Bool.and_eq_true, decide_eq_true_eq, beq_iff_eq]
    omega
  have hsorted : (devices.mergeSort indexLe).Pairwise fun d e => indexLe d e = true := by
    refine List.pairwise_mergeSort (fun a b c => ?_) (fun a b => ?_) _
    · simp only [hle, KeyLt]
      omega
    · rw [Bool.or_eq_true, hle, hle]
      simp only [KeyLt]
      omega
  have hlisting : ((listing t).map fun d => d.handle fs root).Pairwise
      fun d e => indexLe d e = true := by
    refine List.pairwise_map.mpr (h.listing_ascending.imp fun hlt => ?_)
    exact (hle _ _).mpr hlt.asymm
  -- Both are sorted, and devices that neither comes before the other have one index.
  refine hperm.eq_of_pairwise (fun d e hd he hde hed => ?_) hsorted hlisting
  obtain ⟨d', hd', rfl⟩ := List.mem_map.mp (hperm.mem_iff.mp hd)
  obtain ⟨e', he', rfl⟩ := List.mem_map.mp he
  have hne := (hle (d'.handle fs root) (e'.handle fs root)).mp hde
  have hne' := (hle (e'.handle fs root) (d'.handle fs root)).mp hed
  have hkey : indexKey d'.index = indexKey e'.index := KeyLt.eq_of_not hne' hne
  exact congrArg (·.handle fs root) (h.eq_of_key hd' he' hkey)

end Accepted

/-! ## The order of the devices -/

/-- Two answers about the devices of a node that differ in the order of the devices at most. -/
inductive SameDevices :
    Except Error (List DeviceHandle) → Except Error (List DeviceHandle) → Prop
  | error {e : Error} : SameDevices (.error e) (.error e)
  | ok {devices others : List DeviceHandle} : devices.Perm others →
      SameDevices (.ok devices) (.ok others)

theorem SameDevices.refl (answer : Except Error (List DeviceHandle)) : SameDevices answer answer := by
  cases answer with
  | error e => exact .error
  | ok devices => exact .ok (List.Perm.refl devices)

theorem SameDevices.exists_perm {devices : List DeviceHandle}
    {answer : Except Error (List DeviceHandle)} (h : SameDevices (.ok devices) answer) :
    ∃ others, answer = .ok others ∧ devices.Perm others := by
  cases h with
  | ok hperm => exact ⟨_, rfl, hperm⟩

/-- Of a topology with devices all are reported, in some order. -/
theorem SameDevices.exists_perm_handles {t : Topology} {fs : FileSystem} {root name : String}
    {answer : Except Error (List DeviceHandle)}
    (h : SameDevices (inventoryDiscoverer t fs root name).devices answer)
    (ht : ∃ devices, t.devices = .ok devices) :
    ∃ devices, answer = .ok devices ∧ (handles t fs root).Perm devices := by
  rw [devices_inventoryDiscoverer ht] at h
  exact h.exists_perm

/-- A discoverer that reports the devices of a topology while the file system is `fs`, in some
order, and goes by the variable `name`. -/
structure Discovers (t : Topology) (fs : FileSystem) (root name : String) (d : Discoverer) :
    Prop where
  devices : SameDevices (inventoryDiscoverer t fs root name).devices d.devices
  deviceVariable : d.deviceVariable = name

theorem discovers_inventoryDiscoverer (t : Topology) (fs : FileSystem) (root name : String) :
    Discovers t fs root name (inventoryDiscoverer t fs root name) := ⟨.refl _, rfl⟩

end GpuPlacement.Numa
