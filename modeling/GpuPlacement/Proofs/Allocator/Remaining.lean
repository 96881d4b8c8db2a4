import GpuPlacement.Proofs.Allocator.Run
import GpuPlacement.Proofs.Policy.Picks
import GpuPlacement.Proofs.Topology.Pools

/-!
# What remains on a node

Over the device list of a topology (`NodeDevices`) reserved indices and reserved devices are the
same thing. The devices that remain are a pool that the policies can work on, and a request that
the policy answers with different devices of it is granted: the check by index, which would be a
fault if it failed, can not fail.
-/

set_option autoImplicit false

namespace GpuPlacement

/-- Devices selected by UUID are devices of the list, with those UUIDs in that order. -/
theorem selectDevices_eq_ok {devices pool : List Device} {uuids : List String}
    (h : selectDevices devices uuids = .ok pool) :
    pool ⊆ devices ∧ pool.map Device.uuid = uuids := by
  induction uuids generalizing pool with
  | nil =>
    obtain rfl := Except.ok.inj h
    exact ⟨List.nil_subset _, rfl⟩
  | cons uuid uuids ih =>
    rw [selectDevices] at h
    cases hf : findDevice? devices uuid with
    | none =>
      rw [hf] at h
      exact absurd h (by simp)
    | some d =>
      rw [hf] at h
      cases hr : selectDevices devices uuids with
      | error u =>
        rw [hr] at h
        exact absurd h (by simp [Except.map])
      | ok rest =>
        rw [hr] at h
        obtain rfl := Except.ok.inj h
        obtain ⟨hsub, huuids⟩ := ih hr
        have hd : d.uuid = uuid := by simpa using List.find?_some hf
        exact ⟨List.cons_subset.mpr ⟨List.mem_of_find?_eq_some hf, hsub⟩, by
          rw [List.map_cons, hd, huuids]⟩

namespace Allocator

variable {devices : List Device} {policy : Policy} {a : Allocator}

/-! ## The devices that remain -/

theorem mem_remaining {d : Device} : d ∈ a.remaining ↔ d ∈ a.devices ∧ d.index ∉ a.allocated := by
  simp [remaining, isAllocated]

theorem Sound.remaining_sublist (h : Sound devices policy a) : a.remaining.Sublist devices := by
  rw [remaining, h.devices_eq]
  exact List.filter_sublist

theorem Sound.twoSided_remaining (h : Sound devices policy a) (hd : NodeDevices devices) :
    TwoSided a.remaining := hd.twoSided_of_subset h.remaining_sublist.subset

theorem Sound.mutual_remaining (h : Sound devices policy a) (hd : NodeDevices devices) :
    Mutual a.remaining := hd.mutual_of_subset h.remaining_sublist.subset

theorem Sound.ascending_remaining (h : Sound devices policy a) (hd : NodeDevices devices) :
    (a.remaining.map Device.index).Pairwise (· < ·) := by
  rw [List.pairwise_map]
  exact hd.ascending.sublist h.remaining_sublist

theorem Sound.nodup_map_index_remaining (h : Sound devices policy a) (hd : NodeDevices devices) :
    (a.remaining.map Device.index).Nodup := (h.ascending_remaining hd).imp Nat.ne_of_lt

theorem Sound.nodup_remaining (h : Sound devices policy a) (hd : NodeDevices devices) :
    a.remaining.Nodup := hd.nodup.sublist h.remaining_sublist

/-- There are as many reserved devices as reserved indices. -/
theorem Sound.length_filter_isAllocated (h : Sound devices policy a) (hd : NodeDevices devices) :
    (devices.filter fun d => a.isAllocated d.index).length = a.allocated.length := by
  have hnodup : ((devices.filter fun d => a.isAllocated d.index).map Device.index).Nodup := by
    apply List.Nodup.sublist (List.filter_sublist.map _)
    rw [hd.indices]
    exact List.nodup_range
  have hperm : ((devices.filter fun d => a.isAllocated d.index).map Device.index).Perm
      a.allocated := by
    refine (List.perm_ext_iff_of_nodup hnodup h.distinct).mpr fun i => ?_
    rw [List.mem_map]
    constructor
    · intro hx
      obtain ⟨d, hm, rfl⟩ := hx
      exact List.contains_iff_mem.mp (List.mem_filter.mp hm).2
    · intro hi
      obtain ⟨d, hm, rfl⟩ := hd.exists_index (h.bounded i hi)
      exact ⟨d, List.mem_filter.mpr ⟨hm, List.contains_iff_mem.mpr hi⟩, rfl⟩
  rw [← hperm.length_eq, List.length_map]

theorem Sound.length_remaining (h : Sound devices policy a) (hd : NodeDevices devices) :
    a.remaining.length + a.allocated.length = devices.length := by
  rw [← h.length_filter_isAllocated hd, remaining, h.devices_eq, Nat.add_comm]
  exact (List.length_eq_length_filter_add fun d : Device => a.isAllocated d.index).symm

/-! ## Granting what the policy picks -/

/-- A device of a node is reserved with a group exactly if it is of the group. -/
theorem mem_remaining_reserve {chosen : List Device} (hd : NodeDevices devices)
    (h : Sound devices policy a) (hsub : chosen ⊆ a.remaining) {d : Device} :
    d ∈ (a.reserve (chosen.map Device.index)).remaining ↔ d ∈ a.remaining ∧ d ∉ chosen := by
  rw [mem_remaining, mem_remaining, mem_reserve]
  have hmem : d ∈ a.devices → (d.index ∈ chosen.map Device.index ↔ d ∈ chosen) := by
    intro hdev
    rw [h.devices_eq] at hdev
    constructor
    · intro hi
      obtain ⟨e, he, hindex⟩ := List.mem_map.mp hi
      rwa [← hd.eq_of_index (h.remaining_sublist.subset (hsub he)) hdev hindex]
    · exact List.mem_map_of_mem
  show d ∈ a.devices ∧ _ ↔ _
  constructor
  · intro hx
    obtain ⟨hdev, hno⟩ := hx
    exact ⟨⟨hdev, fun hi => hno (Or.inl hi)⟩, fun hc => hno (Or.inr ((hmem hdev).mpr hc))⟩
  · intro hx
    obtain ⟨⟨hdev, hi⟩, hc⟩ := hx
    exact ⟨hdev, fun h => h.elim hi fun h => hc ((hmem hdev).mp h)⟩

/-- Reserving a group takes it, and nothing else, out of what remains. -/
theorem remaining_reserve_perm {chosen : List Device} (hd : NodeDevices devices)
    (h : Sound devices policy a) (hsub : chosen ⊆ a.remaining) (hn : chosen.Nodup) :
    (chosen ++ (a.reserve (chosen.map Device.index)).remaining).Perm a.remaining := by
  have hrest : (a.reserve (chosen.map Device.index)).remaining.Nodup :=
    (hd.nodup.sublist (h.devices_eq ▸ List.filter_sublist))
  refine (List.perm_ext_iff_of_nodup (List.nodup_append.mpr ⟨hn, hrest, ?_⟩)
    (h.nodup_remaining hd)).mpr fun d => ?_
  · rintro d hc e he rfl
    exact ((mem_remaining_reserve hd h hsub).mp he).2 hc
  · rw [List.mem_append, mem_remaining_reserve hd h hsub]
    constructor
    · rintro (hc | ⟨hr, -⟩)
      · exact hsub hc
      · exact hr
    · intro hr
      by_cases hc : d ∈ chosen
      · exact Or.inl hc
      · exact Or.inr ⟨hr, hc⟩

/-- What the policy picks among the remaining devices is granted. -/
theorem allocate_of_picks {count : Nat} {chosen : List Device} (hd : NodeDevices devices)
    (h : Sound devices policy a) (hcount : 0 < count)
    (hpick : policy.allocate a.remaining [] count = .ok chosen)
    (hp : Picks a.remaining count chosen) :
    a.allocate count
      = (.ok (chosen.map Device.index), a.reserve (chosen.map Device.index)) := by
  rw [← h.policy_eq] at hpick
  rcases a.allocate_cases count with ⟨h0, -⟩ | ⟨-, fault, he, -⟩ | ⟨-, he, -⟩ |
      ⟨-, chosen', he, -, hgrant⟩
  · omega
  · rw [hpick] at he
    exact absurd he (by simp)
  · rw [hpick] at he
    have hlen := hp.length_eq
    rw [Except.ok.inj he, List.length_nil] at hlen
    omega
  · rw [hpick] at he
    obtain rfl := Except.ok.inj he
    -- Refusing the choice would need an index that does not remain.
    rcases hgrant with ⟨-, hg⟩ | ⟨⟨i, hi, hbad⟩, -⟩
    · exact hg
    · obtain ⟨d, hc, rfl⟩ := List.mem_map.mp hi
      obtain ⟨hdev, hfree⟩ := mem_remaining.mp (hp.subset hc)
      have hlt : d.index < a.devices.length := by
        rw [h.devices_eq] at hdev ⊢
        exact hd.index_lt hdev
      rw [isUnavailable_eq_false_iff.mpr ⟨hlt, hfree⟩] at hbad
      exact absurd hbad (by simp)

end Allocator

end GpuPlacement
