import GpuPlacement.Proofs.Allocator.AnyPolicy
import GpuPlacement.Proofs.Allocator.Remaining

/-!
# Reservations by index

A reservation by index is meant to be made if all the devices remain, and refused if one of them
is unknown or reserved (`ByIndex`). What is checked is that each index is a *position* of the
device list and is not reserved (`ByPosition`). Where indices are distinct, the two are the same if
the indices are the positions in some order, and differ in every state if they are not
(`reservations_byIndex_iff`).

What remains, and what the policy picks, goes by the indices of the devices themselves. So the
difference is also one between the two kinds of reservations: one by count can end in a fault
because the check refuses what the policy has picked.
-/

set_option autoImplicit false

namespace GpuPlacement

/-- Distinct indices below the number of devices are all the positions. -/
theorem exists_index_of_lt {devices : List Device} (hn : (devices.map Device.index).Nodup)
    (hlt : ∀ d ∈ devices, d.index < devices.length) {i : Nat} (hi : i < devices.length) :
    ∃ d ∈ devices, d.index = i := by
  have hsub : (devices.map Device.index).Subperm (List.range devices.length) :=
    List.subperm_of_subset hn fun j hj => by
      obtain ⟨d, hd, rfl⟩ := List.mem_map.mp hj
      exact List.mem_range.mpr (hlt d hd)
  have hperm := hsub.perm_of_length_le (by simp)
  exact List.mem_map.mp (hperm.mem_iff.mpr (List.mem_range.mpr hi))

namespace Allocator

/-- What the reservations of an allocator go by, whatever its devices are: positions. -/
structure ByPosition (a : Allocator) : Prop where
  specific : ∀ indices, (a.allocateSpecific indices).1 = .ok () ↔
    ∀ i ∈ indices, i < a.devices.length ∧ i ∉ a.allocated
  /-- What the policy picks is refused if the index of some device is no position, and never because
  it is reserved. -/
  allocate : ∀ count, (∃ e, (a.allocate count).1 = .error (.broken (.choiceRefused e))) ↔
    0 < count ∧ ∃ chosen, a.policy.allocate a.remaining [] count = .ok chosen ∧
      ∃ d ∈ chosen, a.devices.length ≤ d.index
  /-- So is what any other policy would pick among the devices that remain. -/
  grant : ∀ count chosen, chosen ⊆ a.remaining →
    ((∃ e, (a.grant count (.ok chosen)).1 = .error (.broken (.choiceRefused e))) ↔
      0 < count ∧ ∃ d ∈ chosen, a.devices.length ≤ d.index)

/-- What they should go by: the devices that remain. -/
structure ByIndex (a : Allocator) : Prop where
  specific : ∀ indices, (a.allocateSpecific indices).1 = .ok () ↔
    ∀ i ∈ indices, i ∈ a.remaining.map Device.index
  /-- A reservation that fails names the indices that do not remain, and those that do. -/
  refused : ∀ indices e, (a.allocateSpecific indices).1 = .error e →
    e = .allocation (.unavailable (indices.filter (· ∉ a.remaining.map Device.index))
      (a.remaining.map Device.index))
  /-- What the policy picks is never refused. -/
  allocate : ∀ count e, (a.allocate count).1 ≠ .error (.broken (.choiceRefused e))
  grant : ∀ count chosen, chosen ⊆ a.remaining →
    ∀ e, (a.grant count (.ok chosen)).1 ≠ .error (.broken (.choiceRefused e))

/-! ## By position -/

theorem allocateSpecific_ok_iff {a : Allocator} {indices : List Nat} :
    (a.allocateSpecific indices).1 = .ok () ↔
      ∀ i ∈ indices, i < a.devices.length ∧ i ∉ a.allocated := by
  simp only [← isUnavailable_eq_false_iff]
  rcases a.allocateSpecific_cases indices with ⟨hfree, hs⟩ | ⟨⟨i, hi, hbad⟩, e, hs⟩
  · rw [hs]
    exact iff_of_true rfl hfree
  · rw [hs]
    refine iff_of_false (by simp) fun hfree => ?_
    rw [hfree i hi] at hbad
    exact absurd hbad (by simp)

/-- A reservation by index that fails names the indices that are not available. -/
theorem allocateSpecific_error_eq {a : Allocator} {indices : List Nat} {e : Error}
    (h : (a.allocateSpecific indices).1 = .error e) :
    e = .allocation (.unavailable (indices.filter a.isUnavailable)
      (a.remaining.map Device.index)) := by
  rw [allocateSpecific] at h
  split at h
  · exact absurd h (by simp)
  · exact (Except.error.inj h).symm

theorem grant_choiceRefused_iff {a : Allocator} {count : Nat} {chosen : List Device}
    (hsub : chosen ⊆ a.remaining) :
    (∃ e, (a.grant count (.ok chosen)).1 = .error (.broken (.choiceRefused e))) ↔
      0 < count ∧ ∃ d ∈ chosen, a.devices.length ≤ d.index := by
  rcases a.grant_cases count (.ok chosen) with ⟨h0, hg⟩ | ⟨-, fault, he, -⟩ | ⟨-, he, hg⟩ |
      ⟨h0, chosen', he, -, ⟨hfree, hg⟩ | ⟨⟨i, hi, hbad⟩, e, hg⟩⟩
  · rw [hg]
    exact iff_of_false (by simp) (by omega)
  · exact absurd he (by simp)
  · rw [hg, Except.ok.inj he]
    exact iff_of_false (by simp) (by simp)
  · obtain rfl := Except.ok.inj he
    rw [hg]
    refine iff_of_false (by simp) ?_
    rintro ⟨-, d, hd, hle⟩
    have hlt := (isUnavailable_eq_false_iff.mp (hfree d.index (List.mem_map_of_mem hd))).1
    omega
  · obtain rfl := Except.ok.inj he
    obtain ⟨d, hd, rfl⟩ := List.mem_map.mp hi
    rw [hg]
    refine iff_of_true ⟨e, rfl⟩ ⟨h0, d, hd, ?_⟩
    -- The device remains, so it is not for being reserved that it is refused.
    by_contra hlt
    rw [isUnavailable_eq_false_iff.mpr
      ⟨Nat.not_le.mp hlt, (mem_remaining.mp (hsub hd)).2⟩] at hbad
    exact absurd hbad (by simp)

theorem allocate_choiceRefused_iff {a : Allocator} {count : Nat} :
    (∃ e, (a.allocate count).1 = .error (.broken (.choiceRefused e))) ↔
      0 < count ∧ ∃ chosen, a.policy.allocate a.remaining [] count = .ok chosen ∧
        ∃ d ∈ chosen, a.devices.length ≤ d.index := by
  rw [allocate_eq_grant]
  cases hp : a.policy.allocate a.remaining [] count with
  | ok chosen =>
    rw [grant_choiceRefused_iff (Policy.allocate_subset hp)]
    simp
  | error fault =>
    refine iff_of_false ?_ (by simp)
    rintro ⟨e, hbroken⟩
    -- The policy itself fails on scores only.
    have hscores := a.policy.allocate_failsIn a.remaining [] count fault hp
    rcases a.grant_cases count (.error fault) with ⟨-, hg⟩ | ⟨-, fault', he, hg⟩ | ⟨-, he, -⟩ |
        ⟨-, chosen, he, -⟩
    · rw [hg] at hbroken
      exact absurd hbroken (by simp)
    · obtain rfl := Except.error.inj he
      rw [hg] at hbroken
      obtain rfl := Failure.broken.inj (Except.error.inj hbroken)
      cases hscores
    · exact absurd he (by simp)
    · exact absurd he (by simp)

theorem byPosition (a : Allocator) : a.ByPosition where
  specific := fun _ => allocateSpecific_ok_iff
  allocate := fun _ => allocate_choiceRefused_iff
  grant := fun _ _ => grant_choiceRefused_iff

/-! ## By index -/

section

variable {devices : List Device} {policy : Policy} {a : Allocator}

/-- Where the indices are the positions, what remains is what can be reserved. -/
theorem Sound.available_iff (h : Sound devices policy a)
    (hn : (devices.map Device.index).Nodup) (hlt : ∀ d ∈ devices, d.index < devices.length)
    {i : Nat} : a.isUnavailable i = false ↔ i ∈ a.remaining.map Device.index := by
  rw [isUnavailable_eq_false_iff, List.mem_map, h.devices_eq]
  constructor
  · rintro ⟨hi, hfree⟩
    obtain ⟨d, hd, rfl⟩ := exists_index_of_lt hn hlt hi
    exact ⟨d, mem_remaining.mpr ⟨h.devices_eq ▸ hd, hfree⟩, rfl⟩
  · rintro ⟨d, hd, rfl⟩
    exact ⟨hlt d (h.remaining_sublist.subset hd), (mem_remaining.mp hd).2⟩

theorem Sound.byIndex (h : Sound devices policy a) (hn : (devices.map Device.index).Nodup)
    (hlt : ∀ d ∈ devices, d.index < devices.length) : a.ByIndex := by
  have hiff := fun i => h.available_iff hn hlt (i := i)
  -- No device that remains lies behind the last position.
  have hnone : ∀ chosen, chosen ⊆ a.remaining → ¬ ∃ d ∈ chosen, a.devices.length ≤ d.index := by
    rintro chosen hsub ⟨d, hd, hle⟩
    have hd' := hlt d (h.remaining_sublist.subset (hsub hd))
    rw [h.devices_eq] at hle
    omega
  exact
    { specific := by
        intro indices
        simp only [allocateSpecific_ok_iff, ← isUnavailable_eq_false_iff, hiff]
      refused := by
        intro indices e he
        rw [allocateSpecific_error_eq he]
        have hfilter : indices.filter a.isUnavailable
            = indices.filter (· ∉ a.remaining.map Device.index) := by
          refine List.filter_congr fun i _ => ?_
          rw [Bool.eq_iff_iff, decide_eq_true_eq, ← hiff, Bool.not_eq_false]
        rw [hfilter]
      allocate := by
        intro count e he
        obtain ⟨-, chosen, hp, hbad⟩ := allocate_choiceRefused_iff.mp ⟨e, he⟩
        exact hnone chosen (Policy.allocate_subset hp) hbad
      grant := by
        intro count chosen hsub e he
        exact hnone chosen hsub ((grant_choiceRefused_iff hsub).mp ⟨e, he⟩).2 }

/-- A device behind the last position always remains, and is always refused. -/
theorem Sound.index_lt_of_byIndex (h : Sound devices policy a) (hidx : a.ByIndex) {d : Device}
    (hd : d ∈ devices) : d.index < devices.length := by
  by_contra hle
  have hfree : d.index ∉ a.allocated := fun hi => hle (h.bounded _ hi)
  have hremains : d ∈ a.remaining := mem_remaining.mpr ⟨h.devices_eq ▸ hd, hfree⟩
  have hok : (a.allocateSpecific [d.index]).1 = .ok () :=
    (hidx.specific _).mpr (by simpa using ⟨d, hremains, rfl⟩)
  have hlt := (allocateSpecific_ok_iff.mp hok d.index (by simp)).1
  rw [h.devices_eq] at hlt
  exact hle hlt

theorem Sound.byIndex_iff (h : Sound devices policy a) (hn : (devices.map Device.index).Nodup) :
    a.ByIndex ↔ ∀ d ∈ devices, d.index < devices.length :=
  ⟨fun hidx _ hd => h.index_lt_of_byIndex hidx hd, h.byIndex hn⟩

/-- **When reservations go by index.** Over devices with distinct indices, in any state that calls
lead to, whatever the policy answers: a reservation goes by the devices that remain exactly if no
index is beyond the number of devices. Else it goes by positions, as it always does. -/
theorem reservations_byIndex_iff (hn : (devices.map Device.index).Nodup) (policy : Policy) :
    (∀ turns, ((new devices policy).play turns).ByIndex ↔
        ∀ d ∈ devices, d.index < devices.length) ∧
      (∀ calls, ((new devices policy).run calls).ByIndex ↔
        ∀ d ∈ devices, d.index < devices.length) ∧
      ∀ turns, ((new devices policy).play turns).ByPosition := by
  have hplay : ∀ turns, ((new devices policy).play turns).ByIndex ↔
      ∀ d ∈ devices, d.index < devices.length := fun turns =>
    ((sound_new devices policy).play turns).byIndex_iff hn
  refine ⟨hplay, ?_, fun turns => ((new devices policy).play turns).byPosition⟩
  exact forall_run_of_play (fun a => a.ByIndex ↔ ∀ d ∈ devices, d.index < devices.length) hplay

end

/-- Two devices with a gap between their indices. -/
def gapPool : List Device := [.plain 0 "GPU-0", .plain 2 "GPU-2"]

theorem reservations_byIndex_iff_gapPool :
    (gapPool.map Device.index).Nodup ∧
      ∀ calls, ¬ ((new gapPool .bestEffort).run calls).ByIndex :=
  have hn : (gapPool.map Device.index).Nodup := by decide
  ⟨hn, fun calls hidx =>
    absurd (((reservations_byIndex_iff hn .bestEffort).2.1 calls).mp hidx) (by decide)⟩

/-- A device that remains is refused, an index that no device has is reserved, and asked for both
devices the allocator abandons the call. -/
theorem gapPool_byPosition :
    (gapPool.map Device.index).Nodup ∧ TwoSided gapPool ∧ setPoints gapPool = 0 ∧
      (new gapPool .bestEffort).remaining = gapPool ∧
      ((new gapPool .bestEffort).allocateSpecific [2]).1
        = .error (.allocation (.unavailable [2] [0, 2])) ∧
      ((new gapPool .bestEffort).allocateSpecific [1]).1 = .ok () ∧
      ((new gapPool .bestEffort).allocate 2).1
        = .error (.broken (.choiceRefused (.allocation (.unavailable [2] [0, 2])))) :=
  ⟨by decide, by unfold TwoSided; decide, by decide, by decide, by decide, by decide,
    by decide +kernel⟩

end Allocator
end GpuPlacement
