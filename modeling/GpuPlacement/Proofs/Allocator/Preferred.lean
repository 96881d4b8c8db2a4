import GpuPlacement.Proofs.Allocator.Remaining

/-!
# Preferred allocations

What the policies answer for devices that are named by UUID (`Allocator.preferredAllocation`,
Allocator.lean). The names come from outside and may repeat, and the two kinds of policies take a
repeated name differently: a table of groups keeps its devices in a set, while the search counts
positions, and to it a device that is named twice is two devices. So the tables never give a device
twice, and the search does so if it is twice available (`preferredAllocation_repeats`).

The reservations play no part: a preferred allocation asks about the named devices, reserved or not.
-/

set_option autoImplicit false

namespace GpuPlacement

/-- As many of the available devices as asked for, the required ones among them. -/
structure Preferred (kind : PolicyKind) (available required : List String) (size : Nat)
    (result : List String) : Prop where
  length_eq : result.length = size
  subset : result ⊆ available
  holds : required ⊆ result
  /-- The search keeps the order of the available devices, and gives none of them more often than
  it is named there. -/
  ordered : kind = .bestEffort → result.Sublist available
  distinct : (kind = .bestEffort → available.Nodup) → result.Nodup

/-! ## Devices of a node -/

namespace NodeDevices

variable {devices available required : List Device} {size : Nat}

theorem eq_of_uuid (h : NodeDevices devices) {a b : Device} (ha : a ∈ devices) (hb : b ∈ devices)
    (hu : a.uuid = b.uuid) : a = b :=
  List.inj_on_of_nodup_map h.uuids ha hb hu

/-- A set that contains devices by their UUIDs contains the devices. -/
theorem subset_of_containsAll (h : NodeDevices devices) (ha : available ⊆ devices)
    (hr : required ⊆ devices)
    (hall : (DeviceSet.ofList available).containsAll required = true) : required ⊆ available := by
  intro d hd
  have hcontains := List.all_eq_true.mp (Bool.and_eq_true_iff.mp hall).2 d hd
  obtain ⟨e, he, hu⟩ := List.any_eq_true.mp hcontains
  rcases DeviceSet.mem_insert he with hnone | he
  · exact absurd hnone (by simp [DeviceSet.empty])
  · rwa [← h.eq_of_uuid (ha he) (hr hd) (eq_of_beq hu)]

/-- What a table of groups gives: the required devices, and others that are not among them. -/
theorem fixedGroups_gives (h : NodeDevices devices) {t : FixedGroups} (ht : t.Simple)
    (ha : available ⊆ devices) (hr : required ⊆ devices) (size : Nat) :
    t.allocate available required size = [] ∨
      (Picks available size (t.allocate available required size) ∧
        required ⊆ t.allocate available required size) := by
  rw [FixedGroups.allocate]
  split
  · exact Or.inl rfl
  rename_i hserves
  rw [Bool.or_eq_true, not_or, Bool.not_eq_true, Bool.not_eq_true, Bool.not_eq_false'] at hserves
  have hsub := h.subset_of_containsAll ha hr hserves.2
  -- The candidates are available devices, and none of them is required.
  have hcandidate : ∀ d ∈ ((DeviceSet.ofList available).erase required).sorted,
      d ∈ available ∧ d ∉ required := by
    intro d hd
    obtain ⟨hd, hother⟩ := DeviceSet.mem_erase.mp (DeviceSet.mem_sorted.mp hd)
    refine ⟨(DeviceSet.mem_insert hd).resolve_left (by simp [DeviceSet.empty]), fun hreq => ?_⟩
    exact hother d hreq rfl
  rcases FixedGroups.findGroup_cases required
      ((DeviceSet.ofList available).erase required).sorted size (t.ofSize size) with
    hnone | ⟨group, hg, hholds, he, hlen⟩
  · exact Or.inl hnone
  rw [he] at hlen ⊢
  have hfirst := FixedGroups.pick_subset group required
  have hothers := FixedGroups.pick_subset group
    ((DeviceSet.ofList available).erase required).sorted
  refine Or.inr ⟨⟨hlen, fun d hd => ?_, ?_⟩, fun d hd => ?_⟩
  · rcases List.mem_append.mp hd with hd | hd
    · exact hsub (hfirst hd)
    · exact (hcandidate d (hothers hd)).1
  · rw [List.map_append]
    refine List.nodup_append.mpr
      ⟨(ht.nodup hg).sublist (FixedGroups.map_index_pick_sublist _ _),
        (ht.nodup hg).sublist (FixedGroups.map_index_pick_sublist _ _), ?_⟩
    rintro i hi j hj rfl
    obtain ⟨d, hd, rfl⟩ := List.mem_map.mp hi
    obtain ⟨e, he, hindex⟩ := List.mem_map.mp hj
    obtain ⟨havailable, hno⟩ := hcandidate e (hothers he)
    have heq := h.eq_of_index (ha havailable) (hr (hfirst hd)) hindex
    exact hno (heq ▸ hfirst hd)
  · -- A required device is found in the group by its index, and no other device has that.
    refine List.mem_append_left _ (List.mem_filterMap.mpr ⟨d.index, hholds d hd, ?_⟩)
    cases hf : required.find? fun e => e.index == d.index with
    | none => exact absurd (List.find?_eq_none.mp hf d hd) (by simp)
    | some e =>
      have hindex : e.index = d.index := by simpa using List.find?_some hf
      rw [h.eq_of_index (hr (List.mem_of_find?_eq_some hf)) (hr hd) hindex]

/-- Different devices of a node have different UUIDs. -/
theorem nodup_map_uuid (h : NodeDevices devices) {chosen : List Device} (hsub : chosen ⊆ devices)
    (hn : (chosen.map Device.index).Nodup) : (chosen.map Device.uuid).Nodup :=
  hn.of_map.map_on fun _ ha _ hb hu => h.eq_of_uuid (hsub ha) (hsub hb) hu

/-- What the policy of a kind gives, by UUID. -/
theorem preferred (h : NodeDevices devices) (ha : available ⊆ devices) (hr : required ⊆ devices)
    {kind : PolicyKind} {chosen : List Device}
    (hok : kind.policy.allocate available required size = .ok chosen) (hne : chosen ≠ []) :
    Preferred kind (available.map Device.uuid) (required.map Device.uuid) size
      (chosen.map Device.uuid) := by
  rcases kind.policy_cases with ⟨hk, hp⟩ | ⟨t, ht, hp⟩
  · rw [hp] at hok
    obtain ⟨hlen, hsub, hholds⟩ := (bestEffort_gives hok).resolve_left hne
    have hsubset := hsub.subset
    refine ⟨by rw [List.length_map, hlen], (hsub.map _).subset, fun uuid hu => ?_,
      fun _ => hsub.map _, fun hn => (hn hk).sublist (hsub.map _)⟩
    obtain ⟨d, hd, rfl⟩ := List.mem_map.mp hu
    obtain ⟨member, hm, hindex⟩ := hholds d hd
    rw [← h.eq_of_index (ha (hsubset hm)) (hr hd) hindex]
    exact List.mem_map_of_mem hm
  · have hk : kind ≠ .bestEffort := by
      rintro rfl
      exact absurd hp (by simp [PolicyKind.policy])
    rw [hp] at hok
    obtain rfl := Except.ok.inj hok
    obtain ⟨hpicks, hholds⟩ := (h.fixedGroups_gives ht ha hr size).resolve_left hne
    refine ⟨by rw [List.length_map, hpicks.length_eq], List.map_subset _ hpicks.subset,
      List.map_subset _ hholds, fun hbest => absurd hbest hk, fun _ => ?_⟩
    exact h.nodup_map_uuid (fun _ hd => ha (hpicks.subset hd)) hpicks.distinct

end NodeDevices

namespace Allocator

/-- **A preferred allocation keeps to the request.** Over the devices of a topology, whatever is
reserved, a result that is not empty has as many UUIDs as asked for, all of them available and the
required ones among them. They are all different unless the search was asked and a device was
available twice. -/
theorem preferredAllocation_preferred {t : Topology} {devices : List Device}
    (ht : t.devices = .ok devices) (kind : PolicyKind) (allocated : List Nat)
    {available required : List String} {size : Nat} {result : List String}
    (h : (Allocator.mk devices kind.policy allocated).preferredAllocation available required size
      = .ok result) (hne : result ≠ []) : Preferred kind available required size result := by
  rw [preferredAllocation] at h
  cases ha : selectDevices devices available with
  | error uuid =>
    simp only [ha] at h
    exact absurd h (by simp)
  | ok pool =>
    cases hr : selectDevices devices required with
    | error uuid =>
      simp only [ha, hr] at h
      exact absurd h (by simp)
    | ok needed =>
      simp only [ha, hr] at h
      cases hp : kind.policy.allocate pool needed size with
      | error fault =>
        simp only [hp] at h
        exact absurd h (by simp)
      | ok chosen =>
        simp only [hp] at h
        obtain rfl := Except.ok.inj h
        obtain ⟨hpool, rfl⟩ := selectDevices_eq_ok ha
        obtain ⟨hneeded, rfl⟩ := selectDevices_eq_ok hr
        refine (Topology.nodeDevices ht).preferred hpool hneeded hp ?_
        rintro rfl
        exact hne rfl

theorem preferredAllocation_preferred_oddTopology :
    oddTopology.devices = .ok oddPool ∧
      (Allocator.mk oddPool PolicyKind.bestEffort.policy []).preferredAllocation
        ["GPU-4", "GPU-0", "GPU-1"] ["GPU-1"] 2 = .ok ["GPU-4", "GPU-1"] ∧
      Preferred .bestEffort ["GPU-4", "GPU-0", "GPU-1"] ["GPU-1"] 2 ["GPU-4", "GPU-1"] :=
  ⟨devices_oddTopology, by decide +kernel,
    preferredAllocation_preferred devices_oddTopology .bestEffort [] (by decide +kernel) (by simp)⟩

/-- The search gives a device twice that is twice available. -/
theorem preferredAllocation_repeats :
    oddTopology.devices = .ok oddPool ∧
      (Allocator.mk oddPool PolicyKind.bestEffort.policy []).preferredAllocation
        ["GPU-0", "GPU-0"] [] 2 = .ok ["GPU-0", "GPU-0"] ∧
      ¬ ["GPU-0", "GPU-0"].Nodup :=
  ⟨devices_oddTopology, by decide +kernel, by simp⟩

end Allocator
end GpuPlacement
