import GpuPlacement.Proofs.Policy.FixedGroups

/-!
# The first feasible group

A table of fixed groups is to hand out its first group of the right size that holds the required
devices and is available as a whole (`FixedGroups.Feasible`). The search never asks for the second
of these: it counts. It knows devices by UUID where it takes the required ones out of the available
ones, and by index where it looks for the members of a group. On one node (`OneNode`) the two agree,
and then a group that fills up is a feasible one (`FixedGroups.fills_iff_feasible`).
-/

set_option autoImplicit false

namespace GpuPlacement

/-- Devices of one node: those with the same index, and only those, have the same UUID. -/
def OneNode (devices : List Device) : Prop :=
  ∀ d ∈ devices, ∀ e ∈ devices, d.index = e.index ↔ d.uuid = e.uuid

namespace FixedGroups

/-- A group that can be handed out: it holds all required devices, and all of its members are
available. -/
structure Feasible (available required : List Device) (group : List Nat) : Prop where
  holds : required.map Device.index ⊆ group
  free : group ⊆ available.map Device.index

/-- The devices of a group: the required ones and then the others, both in group order. -/
structure HandsOut (available required : List Device) (group : List Nat)
    (chosen : List Device) : Prop where
  parts : ∃ first others, chosen = first ++ others ∧ first ⊆ required ∧ others ⊆ available ∧
    first.map Device.index = group.filter (· ∈ required.map Device.index) ∧
    others.map Device.index = group.filter (· ∉ required.map Device.index)
  perm : (chosen.map Device.index).Perm group
  distinct : (chosen.map Device.index).Nodup

section

variable {available required : List Device} {size : Nat} {group : List Nat}

/-! ## Available and not required -/

/-- The available devices that are not required. -/
def spare (available required : List Device) : List Device :=
  ((DeviceSet.ofList available).erase required).sorted

theorem mem_spare (hu : (available.map Device.uuid).Nodup) {d : Device} :
    d ∈ spare available required ↔ d ∈ available ∧ ∀ e ∈ required, d.uuid ≠ e.uuid := by
  rw [spare, DeviceSet.mem_sorted, DeviceSet.mem_erase, DeviceSet.devices_ofList hu,
    List.mem_reverse]

/-- By index, these are the available devices without the required ones. -/
theorem mem_map_index_spare (hnode : OneNode (available ++ required))
    (hu : (available.map Device.uuid).Nodup) {i : Nat} :
    i ∈ (spare available required).map Device.index ↔
      i ∈ available.map Device.index ∧ i ∉ required.map Device.index := by
  have hsame : ∀ d ∈ available, ∀ e ∈ required, d.index = e.index ↔ d.uuid = e.uuid :=
    fun d hd e he => hnode d (List.mem_append_left _ hd) e (List.mem_append_right _ he)
  simp only [List.mem_map, mem_spare hu]
  constructor
  · intro h
    obtain ⟨d, ⟨hd, hother⟩, rfl⟩ := h
    refine ⟨⟨d, hd, rfl⟩, fun hreq => ?_⟩
    obtain ⟨e, he, hi⟩ := hreq
    exact hother e he ((hsame d hd e he).mp hi.symm)
  · intro h
    obtain ⟨⟨d, hd, rfl⟩, hno⟩ := h
    exact ⟨d, ⟨hd, fun e he huuid => hno ⟨e, he, ((hsame d hd e he).mpr huuid).symm⟩⟩, rfl⟩

/-! ## Counting the members of a group -/

/-- The members that are picked are those that are available, in another order. -/
theorem map_index_picked_perm (group : List Nat) (hnode : OneNode (available ++ required))
    (hu : (available.map Device.uuid).Nodup)
    (hav : required.map Device.index ⊆ available.map Device.index) :
    ((pick group required ++ pick group (spare available required)).map Device.index).Perm
      (group.filter (· ∈ available.map Device.index)) := by
  have hfirst : group.filter (· ∈ required.map Device.index)
      = (group.filter (· ∈ available.map Device.index)).filter
          (· ∈ required.map Device.index) := by
    rw [List.filter_filter]
    refine List.filter_congr fun i _ => ?_
    simpa using fun hi => hav hi
  have hothers : group.filter (· ∈ (spare available required).map Device.index)
      = (group.filter (· ∈ available.map Device.index)).filter
          (fun i => !decide (i ∈ required.map Device.index)) := by
    rw [List.filter_filter]
    refine List.filter_congr fun i _ => ?_
    rw [decide_eq_decide.mpr (mem_map_index_spare hnode hu), Bool.decide_and, Bool.and_comm,
      decide_not]
  rw [List.map_append, map_index_pick, map_index_pick, hfirst, hothers]
  exact List.filter_append_perm _ _

/-- A group of the right size fills up if it is feasible. -/
theorem fills_iff_feasible (hnode : OneNode (available ++ required))
    (hu : (available.map Device.uuid).Nodup)
    (hav : required.map Device.index ⊆ available.map Device.index) (hl : group.length = size) :
    Fills required (spare available required) size group ↔
      Feasible available required group := by
  have hholds : (∀ d ∈ required, d.index ∈ group) ↔ required.map Device.index ⊆ group := by
    simp only [List.subset_def, List.forall_mem_map]
  have hcount := (map_index_picked_perm group hnode hu hav).length_eq
  rw [List.length_map] at hcount
  rw [Fills, hholds, hcount, ← hl, List.length_filter_eq_length_iff]
  simp only [decide_eq_true_eq]
  exact ⟨fun h => ⟨h.1, h.2⟩, fun h => ⟨h.holds, h.free⟩⟩

/-- What a feasible group hands out. -/
theorem handsOut_of_feasible (hnode : OneNode (available ++ required))
    (hu : (available.map Device.uuid).Nodup) (hn : group.Nodup)
    (h : Feasible available required group) :
    HandsOut available required group
      (pick group required ++ pick group (spare available required)) := by
  have hall : group.filter (· ∈ available.map Device.index) = group :=
    List.filter_eq_self.mpr fun i hi => decide_eq_true (h.free hi)
  have hperm := map_index_picked_perm group hnode hu (List.Subset.trans h.holds h.free)
  rw [hall] at hperm
  refine ⟨⟨_, _, rfl, pick_subset _ _, fun d hd => ?_, map_index_pick _ _, ?_⟩, hperm,
    hperm.nodup_iff.mpr hn⟩
  · exact ((mem_spare hu).mp (pick_subset _ _ hd)).1
  · rw [map_index_pick]
    refine List.filter_congr fun i hi => decide_eq_decide.mpr ?_
    rw [mem_map_index_spare hnode hu, and_iff_right (h.free hi)]

/-! ## The tables -/

/-- On one node, different indices go with different UUIDs. -/
theorem nodup_map_uuid (hnode : OneNode (available ++ required))
    (hd : (available.map Device.index).Nodup) : (available.map Device.uuid).Nodup :=
  hd.of_map.map_on fun a ha b hb hu => List.inj_on_of_nodup_map hd ha hb
    ((hnode a (List.mem_append_left _ ha) b (List.mem_append_left _ hb)).mpr hu)

/-- The set of the available devices contains the required ones if it does so by index. -/
theorem containsAll_iff (hnode : OneNode (available ++ required))
    (hu : (available.map Device.uuid).Nodup) (hlen : required.length ≤ available.length) :
    (DeviceSet.ofList available).containsAll required = true ↔
      required.map Device.index ⊆ available.map Device.index := by
  have hcontains : ∀ d ∈ required, (DeviceSet.ofList available).contains d = true ↔
      d.index ∈ available.map Device.index := by
    intro d hd
    rw [DeviceSet.contains, DeviceSet.devices_ofList hu, List.any_reverse, List.any_eq_true,
      List.mem_map]
    refine exists_congr fun e => and_congr_right fun he => ?_
    rw [beq_iff_eq]
    exact (hnode e (List.mem_append_left _ he) d (List.mem_append_right _ hd)).symm
  have hsize : (DeviceSet.ofList available).size = available.length := by
    rw [DeviceSet.size, DeviceSet.devices_ofList hu, List.length_reverse]
  rw [DeviceSet.containsAll, hsize, decide_eq_true hlen, Bool.true_and, List.all_eq_true,
    List.subset_def, List.forall_mem_map]
  exact forall₂_congr hcontains

/-- **A policy of fixed groups hands out the first feasible group.** It gives nothing exactly if no
group of the size is feasible. -/
theorem allocate_firstFeasible {kind : PolicyKind} {t : FixedGroups}
    (hk : kind.policy = .fixedGroups t) (hnode : OneNode (available ++ required))
    (hd : (available.map Device.index).Nodup) (hs : 1 ≤ size) (hle : size ≤ available.length)
    (hreq : required.length ≤ size) :
    (t.allocate available required size ≠ [] ↔
      ∃ g ∈ t.ofSize size, Feasible available required g) ∧
    ∀ before g after, t.ofSize size = before ++ g :: after → Feasible available required g →
      (∀ other ∈ before, ¬ Feasible available required other) →
        HandsOut available required g (t.allocate available required size) := by
  obtain ⟨hsimple, hsized⟩ := simple_and_sized hk
  have hu := nodup_map_uuid hnode hd
  have hsat : isUnsatisfiable available.length required.length size = false :=
    isUnsatisfiable_eq_false_iff.mpr ⟨hs, hle, hreq⟩
  have hcontains := containsAll_iff hnode hu (hreq.trans hle)
  by_cases hav : required.map Device.index ⊆ available.map Device.index
  · have he : t.allocate available required size
        = findGroup required (spare available required) size (t.ofSize size) := by
      rw [allocate, hsat, hcontains.mpr hav]
      rfl
    have hfills : ∀ g ∈ t.ofSize size,
        Fills required (spare available required) size g ↔ Feasible available required g :=
      fun g hg => fills_iff_feasible hnode hu hav (hsized.length_eq hg)
    rw [he]
    constructor
    · rw [ne_eq, findGroup_eq_nil_iff hs]
      push Not
      exact exists_congr fun g => and_congr_right (hfills g)
    · intro before g after hrow hg hb
      have hmem : ∀ other ∈ before ++ g :: after, other ∈ t.ofSize size := fun other ho => hrow ▸ ho
      have hfirst : ∀ other ∈ before, ¬ Fills required (spare available required) size other :=
        fun other ho hf => hb other ho ((hfills other (hmem other (by simp [ho]))).mp hf)
      rw [hrow, findGroup_of_first hfirst ((hfills g (hmem g (by simp))).mpr hg)]
      exact handsOut_of_feasible hnode hu (hsimple.nodup (hmem g (by simp))) hg
  · -- A feasible group would have the required devices among the available ones.
    have hno : ∀ g, ¬ Feasible available required g := fun g hg =>
      hav (List.Subset.trans hg.holds hg.free)
    have he : t.allocate available required size = [] := by
      rw [allocate, Bool.eq_false_iff.mpr fun h => hav (hcontains.mp h), Bool.not_false,
        Bool.or_true]
      rfl
    rw [he]
    constructor
    · refine iff_of_false (by simp) fun h => ?_
      obtain ⟨g, -, hg⟩ := h
      exact hno g hg
    · exact fun _ g _ _ hg _ => absurd hg (hno g)

end

/-- With half of the devices available and the last of them required, twice over. -/
theorem allocate_firstFeasible_dgx1Volta :
    let available := [1, 2, 4, 7].map fun i => Device.plain i s!"GPU-{i}"
    let required := [7, 7].map fun i => Device.plain i s!"GPU-{i}"
    HandsOut available required [4, 7] (dgx1Volta.allocate available required 2) := by
  intro available required
  have hno : ∀ other ∈ [[0, 3], [1, 2]], ¬ required.map Device.index ⊆ other := by decide
  have hall := allocate_firstFeasible (rfl : PolicyKind.dgx1Volta.policy = .fixedGroups dgx1Volta)
    (by unfold OneNode; decide : OneNode (available ++ required)) (by decide)
    (by decide : 1 ≤ 2) (by decide) (by decide)
  exact hall.2 [[0, 3], [1, 2]] [4, 7] [[5, 6]] rfl ⟨by decide, by decide⟩
    fun other ho h => hno other ho h.holds

end FixedGroups
end GpuPlacement
