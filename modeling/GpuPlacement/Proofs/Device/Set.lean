import Mathlib.Data.List.Nodup
import Mathlib.Data.List.Perm.Subperm
import GpuPlacement.Device.List
import GpuPlacement.Device.Set

/-!
# Sets of devices

A set (Device/Set.lean) is a list that it never shows. What can be seen of it is a map from UUIDs to
devices (`DeviceSet.get?`), and each operation has one equation through that map. No two devices of
a set have one UUID (`DeviceSet.Keyed`), so sets with the same map have the same devices, and list
them alike unless two of these have the same index.
-/

set_option autoImplicit false

namespace GpuPlacement

/-- What is sorted by a number ascends by it. -/
theorem pairwise_mergeSort_le {α : Type} (key : α → Nat) (l : List α) :
    (l.mergeSort fun a b => key a ≤ key b).Pairwise fun a b => key a ≤ key b := by
  refine List.Pairwise.imp (fun hle => of_decide_eq_true hle)
    (List.pairwise_mergeSort (fun a b c => ?_) (fun a b => ?_) l)
  · simp only [decide_eq_true_eq]
    exact Nat.le_trans
  · simp only [Bool.or_eq_true, decide_eq_true_eq]
    exact Nat.le_total _ _

namespace DeviceSet

/-! ## Members -/

theorem mem_insert {s : DeviceSet} {ds : List Device} {d : Device}
    (h : d ∈ (s.insert ds).devices) : d ∈ s.devices ∨ d ∈ ds := by
  induction ds generalizing s with
  | nil => exact Or.inl h
  | cons e ds ih =>
    rcases ih (s := s.insertOne e) h with h | h
    · rcases List.mem_cons.mp h with rfl | h
      · exact Or.inr List.mem_cons_self
      · exact Or.inl (List.mem_of_mem_filter h)
    · exact Or.inr (List.mem_cons_of_mem _ h)

/-- Devices with UUIDs of their own replace no other one. -/
theorem devices_insert {s : DeviceSet} {ds : List Device}
    (hn : ((ds ++ s.devices).map Device.uuid).Nodup) :
    (s.insert ds).devices = ds.reverse ++ s.devices := by
  induction ds generalizing s with
  | nil => rfl
  | cons d ds ih =>
    rw [List.cons_append, List.map_cons, List.nodup_cons] at hn
    have hkeep : s.devices.filter (fun e => e.uuid != d.uuid) = s.devices := by
      rw [List.filter_eq_self]
      intro e he
      rw [bne_iff_ne]
      intro hu
      exact hn.1 (hu ▸ List.mem_map_of_mem (List.mem_append_right ds he))
    have hone : (s.insertOne d).devices = d :: s.devices := congrArg (d :: ·) hkeep
    have hn' : ((ds ++ (s.insertOne d).devices).map Device.uuid).Nodup := by
      rw [hone]
      refine (List.Perm.nodup_iff ?_).mpr (List.nodup_cons.mpr hn)
      exact (List.perm_middle.map Device.uuid)
    have hrest := ih hn'
    rw [hone] at hrest
    rw [List.reverse_cons, List.append_assoc]
    exact hrest

theorem devices_ofList {ds : List Device} (hn : (ds.map Device.uuid).Nodup) :
    (ofList ds).devices = ds.reverse := by
  have hempty : ds ++ empty.devices = ds := List.append_nil ds
  rw [ofList, devices_insert (hempty.symm ▸ hn)]
  exact List.append_nil _

theorem mem_erase {s : DeviceSet} {ds : List Device} {d : Device} :
    d ∈ (s.erase ds).devices ↔ d ∈ s.devices ∧ ∀ e ∈ ds, d.uuid ≠ e.uuid := by
  induction ds generalizing s with
  | nil => exact iff_of_eq (by simp [erase])
  | cons e ds ih =>
    have hone : d ∈ (s.eraseOne e).devices ↔ d ∈ s.devices ∧ d.uuid ≠ e.uuid := by
      rw [eraseOne, List.mem_filter, bne_iff_ne]
    rw [List.forall_mem_cons, ← and_assoc, ← hone]
    exact ih (s := s.eraseOne e)

theorem mem_sorted {s : DeviceSet} {d : Device} : d ∈ s.sorted ↔ d ∈ s.devices :=
  List.mem_mergeSort

/-! ## The map -/

/-- The device that a set has under a UUID. -/
def get? (s : DeviceSet) (uuid : String) : Option Device := findDevice? s.devices uuid

/-- No two devices of a set have one UUID. -/
def Keyed (s : DeviceSet) : Prop := (s.devices.map Device.uuid).Nodup

section

variable {s s' : DeviceSet} {d : Device} {ds : List Device} {uuid : String}

theorem get?_eraseOne : (s.eraseOne d).get? uuid = if uuid = d.uuid then none else s.get? uuid := by
  rw [get?, findDevice?, eraseOne, List.find?_filter]
  by_cases hu : uuid = d.uuid
  · rw [if_pos hu]
    refine List.find?_eq_none.mpr fun e _ he => ?_
    simp only [bne_iff_ne, ne_eq, Bool.decide_and, Bool.and_eq_true, decide_eq_true_eq,
      beq_iff_eq] at he
    exact he.1 (he.2.trans hu)
  · rw [if_neg hu]
    refine congrArg (List.find? · s.devices) (funext fun e => ?_)
    by_cases he : e.uuid = uuid
    · simp [he, hu]
    · simp [he]

theorem get?_insertOne :
    (s.insertOne d).get? uuid = if uuid = d.uuid then some d else s.get? uuid := by
  rw [get?, findDevice?, insertOne, List.find?_cons]
  by_cases hu : uuid = d.uuid
  · rw [if_pos hu, beq_iff_eq.mpr hu.symm]
  · rw [if_neg hu, beq_eq_false_iff_ne.mpr (Ne.symm hu)]
    exact get?_eraseOne.trans (if_neg hu)

/-- Of the devices inserted under a UUID the last one stays. -/
theorem get?_insert :
    (s.insert ds).get? uuid = (findDevice? ds.reverse uuid).or (s.get? uuid) := by
  induction ds generalizing s with
  | nil => rfl
  | cons d ds ih =>
    have hstep : (s.insert (d :: ds)).get? uuid
        = (findDevice? ds.reverse uuid).or ((s.insertOne d).get? uuid) := ih
    rw [hstep, get?_insertOne, findDevice?, findDevice?, List.reverse_cons, List.find?_append,
      Option.or_assoc]
    by_cases hu : uuid = d.uuid
    · simp [hu]
    · simp [hu, Ne.symm hu]

theorem get?_erase :
    (s.erase ds).get? uuid = if uuid ∈ ds.map Device.uuid then none else s.get? uuid := by
  induction ds generalizing s with
  | nil => simp [erase]
  | cons d ds ih =>
    have hstep : (s.erase (d :: ds)).get? uuid
        = if uuid ∈ ds.map Device.uuid then none else (s.eraseOne d).get? uuid := ih
    rw [hstep, get?_eraseOne]
    by_cases hu : uuid = d.uuid
    · simp [hu]
    · simp [hu]

theorem Keyed.eraseOne (h : s.Keyed) (d : Device) : (s.eraseOne d).Keyed :=
  h.sublist (List.filter_sublist.map Device.uuid)

theorem Keyed.insertOne (h : s.Keyed) (d : Device) : (s.insertOne d).Keyed := by
  refine List.nodup_cons.mpr ⟨fun hm => ?_, h.eraseOne d⟩
  obtain ⟨e, he, hu⟩ := List.mem_map.mp hm
  have hne := (List.mem_filter.mp he).2
  rw [bne_iff_ne] at hne
  exact hne hu

theorem Keyed.insert (h : s.Keyed) (ds : List Device) : (s.insert ds).Keyed := by
  induction ds generalizing s with
  | nil => exact h
  | cons d ds ih => exact ih (h.insertOne d)

theorem Keyed.erase (h : s.Keyed) (ds : List Device) : (s.erase ds).Keyed := by
  induction ds generalizing s with
  | nil => exact h
  | cons d ds ih => exact ih (h.eraseOne d)

theorem keyed_empty : empty.Keyed := .nil

theorem Keyed.perm (h : s.Keyed) (hp : s.devices.Perm s'.devices) : s'.Keyed :=
  (hp.map Device.uuid).nodup_iff.mp h

theorem Keyed.get?_eq_some_iff (h : s.Keyed) :
    s.get? uuid = some d ↔ d ∈ s.devices ∧ d.uuid = uuid := by
  constructor
  · intro hd
    exact ⟨List.mem_of_find?_eq_some hd, by simpa using List.find?_some hd⟩
  · rintro ⟨hd, rfl⟩
    obtain ⟨e, he⟩ : ∃ e, s.get? d.uuid = some e :=
      Option.isSome_iff_exists.mp (List.find?_isSome.mpr ⟨d, hd, beq_self_eq_true _⟩)
    have hu : e.uuid = d.uuid := by simpa using List.find?_some he
    rw [he, List.inj_on_of_nodup_map h (List.mem_of_find?_eq_some he) hd hu]

theorem contains_iff : s.contains d = true ↔ ∃ e, s.get? d.uuid = some e := by
  rw [← Option.isSome_iff_exists, get?, findDevice?, List.isSome_find?, contains]

/-- Two sets with the same map have the same devices. -/
theorem Keyed.perm_of_get?_eq (h : s.Keyed) (h' : s'.Keyed)
    (heq : ∀ uuid d, s.get? uuid = some d ↔ s'.get? uuid = some d) :
    s.devices.Perm s'.devices := by
  refine (List.perm_ext_iff_of_nodup h.of_map h'.of_map).mpr fun d => ?_
  have hd := heq d.uuid d
  rwa [h.get?_eq_some_iff, h'.get?_eq_some_iff, and_iff_left rfl, and_iff_left rfl] at hd

end

/-! ## Listing and counting -/

theorem pairwise_sorted (s : DeviceSet) : s.sorted.Pairwise fun d e => d.index ≤ e.index :=
  pairwise_mergeSort_le Device.index s.devices

theorem sorted_perm (s : DeviceSet) : s.sorted.Perm s.devices := List.mergeSort_perm _ _

/-- Sets with the same devices are listed alike if no two of these have the same index. -/
theorem sorted_congr {s s' : DeviceSet} (h : s.devices.Perm s'.devices)
    (hindex : ∀ d ∈ s.devices, ∀ e ∈ s.devices, d.index = e.index → d = e) :
    s.sorted = s'.sorted := by
  have hperm : s.sorted.Perm s'.sorted := s.sorted_perm.trans (h.trans s'.sorted_perm.symm)
  refine hperm.eq_of_pairwise (fun d e hd he hde hed => ?_) s.pairwise_sorted s'.pairwise_sorted
  exact hindex d (mem_sorted.mp hd) e (mem_sorted.mp (hperm.mem_iff.mpr he))
    (Nat.le_antisymm hde hed)

/-- Where no UUID occurs twice, one device has that of `d`. -/
theorem filter_uuid_eq {ds : List Device} (h : (ds.map Device.uuid).Nodup) {d : Device}
    (hd : d ∈ ds) : ds.filter (·.uuid == d.uuid) = [d] := by
  have hsame : ∀ e ∈ ds, (e.uuid == d.uuid) = (e == d) := by
    intro e he
    rw [Bool.eq_iff_iff, beq_iff_eq, beq_iff_eq]
    exact ⟨fun hu => List.inj_on_of_nodup_map h he hd hu, congrArg Device.uuid⟩
  rw [List.filter_congr hsame, List.filter_beq, List.count_eq_one_of_mem h.of_map hd,
    List.replicate_one]

/-- Devices with different UUIDs that a set contains are no more than its size. -/
theorem length_le_size {s : DeviceSet} {ds : List Device} (hn : (ds.map Device.uuid).Nodup)
    (h : ∀ d ∈ ds, s.contains d = true) : ds.length ≤ s.size := by
  have hsub : ds.map Device.uuid ⊆ s.devices.map Device.uuid := by
    intro uuid hu
    obtain ⟨d, hd, rfl⟩ := List.mem_map.mp hu
    obtain ⟨e, he, heq⟩ := List.any_eq_true.mp (h d hd)
    exact List.mem_map.mpr ⟨e, he, eq_of_beq heq⟩
  have hlen := (List.subperm_of_subset hn hsub).length_le
  rwa [List.length_map, List.length_map] at hlen

theorem containsAll_eq_true_iff {s : DeviceSet} {ds : List Device} :
    s.containsAll ds = true ↔ ds.length ≤ s.size ∧ ∀ d ∈ ds, s.contains d = true := by
  rw [containsAll, Bool.and_eq_true, decide_eq_true_eq, List.all_eq_true]

end DeviceSet
end GpuPlacement
