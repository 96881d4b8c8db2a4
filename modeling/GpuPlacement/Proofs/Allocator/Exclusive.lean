import GpuPlacement.Proofs.Allocator.Remaining

/-!
# No device is handed out twice

The allocator over the device list of a topology, through any run of calls with any arguments:
no call fails by a fault, a reservation by count gives as many different devices as asked for,
all of them free before and none after, an index that was handed out is not handed out again
before it is freed, and what can be seen of the reservations always agrees.

The only assumption on a run is that scores fit (`FitsThroughout`), and only for the search over
the links: the tables of fixed groups count no scores.
-/

set_option autoImplicit false

namespace GpuPlacement
namespace Allocator

/-- The scores that the search needs for a call fit. -/
def CallFits (a : Allocator) : Call → Prop
  | .allocate count => ScoresFit a.remaining [] count
  | .preferredAllocation available required size =>
    ∀ pool needed, selectDevices a.devices available = .ok pool →
      selectDevices a.devices required = .ok needed → ScoresFit pool needed size
  | .allocateSpecific _ => True
  | .free _ => True

/-- The scores for every call of a run fit. -/
def FitsThroughout (a : Allocator) : List Call → Prop
  | [] => True
  | c :: calls => a.CallFits c ∧ (a.step c).FitsThroughout calls

/-- What can be seen of the reservations agrees: the remaining devices are those without a mark,
in ascending order, and the counts count them. -/
structure Consistent (a : Allocator) : Prop where
  unmarked : a.remaining = (a.deviceStatus.filter fun status => !status.2).map Prod.fst
  ascending : (a.remaining.map Device.index).Pairwise (· < ·)
  available : a.availableCount = a.remaining.length
  total : a.remaining.length + (a.deviceStatus.filter fun status => status.2).length = a.totalCount

/-- A call, with the calls that follow it, hands out no device twice. -/
structure Exclusive (a : Allocator) (c : Call) (after : List Call) : Prop where
  not_panics : ¬ a.Panics c
  /-- What the call hands out is handed out by no later call, unless one between them frees it. -/
  once : ∀ i, a.Grants i c → ∀ between later rest, after = between ++ later :: rest →
    (∀ d ∈ between, ¬ d.Frees i) → ¬ ((a.step c).run between).Grants i later
  /-- A reservation by count gives that many different indices, which remained before it and do
  not after it. -/
  different : ∀ count indices, c = .allocate count → 0 < count →
    (a.allocate count).1 = .ok indices →
      indices.length = count ∧ indices.Nodup ∧
        ∀ i ∈ indices, i ∈ a.remaining.map Device.index ∧
          i ∉ (a.step c).remaining.map Device.index
  consistent : (a.step c).Consistent

theorem FitsThroughout.of_append {a : Allocator} {calls more : List Call}
    (h : a.FitsThroughout (calls ++ more)) : (a.run calls).FitsThroughout more := by
  induction calls generalizing a with
  | nil => exact h
  | cons c calls ih => exact ih h.2

variable {devices : List Device} {kind : PolicyKind} {a : Allocator}

/-! ## One call -/

theorem Sound.consistent {policy : Policy} (hd : NodeDevices devices)
    (h : Sound devices policy a) : a.Consistent where
  unmarked := by
    rw [remaining, deviceStatus, List.filter_map, List.map_map]
    exact (List.map_id _).symm
  ascending := h.ascending_remaining hd
  available := by
    have hlen := h.length_remaining hd
    rw [availableCount, h.devices_eq]
    omega
  total := by
    rw [deviceStatus, List.filter_map, List.length_map, totalCount, h.devices_eq]
    rw [← h.length_remaining hd, ← h.length_filter_isAllocated hd]
    rfl

/-- A reservation by count gives nothing for nothing, is refused, or gives what the policy picks. -/
theorem Sound.allocate_answers (hd : NodeDevices devices) (h : Sound devices kind.policy a)
    {count : Nat} (hfit : kind = .bestEffort → ScoresFit a.remaining [] count) :
    (count = 0 ∧ (a.allocate count).1 = .ok []) ∨
      (0 < count ∧ ∃ e, (a.allocate count).1 = .error (.refused e)) ∨
      (0 < count ∧ ∃ chosen, Picks a.remaining count chosen ∧
        a.allocate count
          = (.ok (chosen.map Device.index), a.reserve (chosen.map Device.index))) := by
  rcases Nat.eq_zero_or_pos count with h0 | h0
  · exact Or.inl ⟨h0, by rw [allocate, if_pos h0]⟩
  · apply Or.inr
    obtain ⟨chosen, he, rfl | hp⟩ := PolicyKind.allocate_picks (h.twoSided_remaining hd)
      (h.nodup_map_index_remaining hd) hfit
    · have hrefused : (a.allocate count).1
          = .error (.refused (.allocation (.noGroup count a.availableCount))) := by
        rw [← h.policy_eq] at he
        rw [allocate, if_neg (Nat.ne_of_gt h0), he]
      exact Or.inl ⟨h0, _, hrefused⟩
    · exact Or.inr ⟨h0, chosen, hp, allocate_of_picks hd h h0 he hp⟩

/-- No call ends in a fault. -/
theorem Sound.not_panics (hd : NodeDevices devices) (h : Sound devices kind.policy a) {c : Call}
    (hfit : kind = .bestEffort → a.CallFits c) : ¬ a.Panics c := by
  intro hpanic
  cases hpanic with
  | allocate hbroken =>
    rcases h.allocate_answers hd hfit with ⟨-, hok⟩ | ⟨-, e, hok⟩ | ⟨-, chosen, -, hok⟩
    all_goals
      rw [hok] at hbroken
      exact absurd hbroken (by simp)
  | @preferredAllocation available required size fault hbroken =>
    rw [Allocator.preferredAllocation] at hbroken
    cases hpool : selectDevices a.devices available with
    | error uuid =>
      rw [hpool] at hbroken
      exact absurd hbroken (by simp)
    | ok pool =>
      cases hneeded : selectDevices a.devices required with
      | error uuid =>
        rw [hpool, hneeded] at hbroken
        exact absurd hbroken (by simp)
      | ok needed =>
        have hsub : pool ⊆ devices := h.devices_eq ▸ (selectDevices_eq_ok hpool).1
        obtain ⟨chosen, he⟩ := PolicyKind.allocate_ok (hd.twoSided_of_subset hsub)
          fun hk => hfit hk pool needed hpool hneeded
        rw [← h.policy_eq] at he
        simp only [hpool, hneeded, he] at hbroken
        exact absurd hbroken (by simp)

/-- A reservation by count that succeeds gives that many different indices, which remained before
it and do not after it. -/
theorem Sound.allocate_ok (hd : NodeDevices devices) (h : Sound devices kind.policy a)
    {count : Nat} (hfit : kind = .bestEffort → ScoresFit a.remaining [] count) (h0 : 0 < count)
    {indices : List Nat} (hok : (a.allocate count).1 = .ok indices) :
    indices.length = count ∧ indices.Nodup ∧
      ∀ i ∈ indices, i ∈ a.remaining.map Device.index ∧
        i ∉ (a.step (.allocate count)).remaining.map Device.index := by
  rcases h.allocate_answers hd hfit with ⟨hz, -⟩ | ⟨-, e, he⟩ | ⟨-, chosen, hp, hgrant⟩
  · omega
  · rw [he] at hok
    exact absurd hok (by simp)
  · rw [hgrant] at hok
    obtain rfl := Except.ok.inj hok
    refine ⟨by rw [List.length_map, hp.length_eq], hp.distinct, fun i hi => ⟨?_, ?_⟩⟩
    · obtain ⟨d, hm, rfl⟩ := List.mem_map.mp hi
      exact List.mem_map_of_mem (hp.subset hm)
    · intro hafter
      obtain ⟨d, hm, rfl⟩ := List.mem_map.mp hafter
      apply (mem_remaining.mp hm).2
      rw [Allocator.step, hgrant]
      exact mem_reserve.mpr (Or.inr hi)

/-! ## Any run -/

/-- The scores of a run fit if those of the whole node do, and no request lists a device twice. -/
theorem Sound.fitsThroughout {policy : Policy} {calls : List Call} (hd : NodeDevices devices)
    (h : Sound devices policy a) (hpoints : setPoints devices ≤ Text.maxU32)
    (hlists : ∀ available required size,
      Call.preferredAllocation available required size ∈ calls → available.Nodup) :
    a.FitsThroughout calls := by
  -- Any pool of a request is a part of the node.
  have hpool : ∀ {pool required : List Device} {size : Nat}, pool.Nodup → pool ⊆ devices →
      ScoresFit pool required size := by
    intro pool required size hn hs
    apply scoresFit_of_setPoints (hd.mutual_of_subset hs)
    exact (setPoints_le_of_subset (hd.mutual_of_subset (List.Subset.refl _)) hn hs).trans hpoints
  induction calls generalizing a with
  | nil => trivial
  | cons c calls ih =>
    have hrest : (a.step c).FitsThroughout calls :=
      ih (h.step c) fun available required size hm =>
        hlists available required size (List.mem_cons_of_mem _ hm)
    refine ⟨?_, hrest⟩
    cases c with
    | allocate count => exact hpool (h.nodup_remaining hd) h.remaining_sublist.subset
    | allocateSpecific indices => trivial
    | free indices => trivial
    | preferredAllocation available required size =>
      intro pool needed hp _
      obtain ⟨hsub, huuids⟩ := selectDevices_eq_ok hp
      refine hpool (List.Nodup.of_map Device.uuid ?_) (h.devices_eq ▸ hsub)
      rw [huuids]
      exact hlists available required size List.mem_cons_self

/-- **No device is handed out twice.** Every call of a run over the devices of a topology that
starts with nothing reserved is exclusive, whatever the policy and the arguments. -/
theorem no_device_twice {t : Topology} (h : t.devices = .ok devices) (kind : PolicyKind)
    (calls : List Call)
    (hfit : kind = .bestEffort → (new devices kind.policy).FitsThroughout calls) :
    ∀ before c after, calls = before ++ c :: after →
      ((new devices kind.policy).run before).Exclusive c after := by
  rintro before c after rfl
  have hd : NodeDevices devices := Topology.nodeDevices h
  have hsound : Sound devices kind.policy ((new devices kind.policy).run before) :=
    sound_run_new devices kind.policy before
  have hcall : kind = .bestEffort → ((new devices kind.policy).run before).CallFits c :=
    fun hk => (hfit hk).of_append.1
  refine ⟨hsound.not_panics hd hcall, ?_, ?_, (hsound.step c).consistent hd⟩
  · rintro i hg between later rest - hkeep
    exact hg.exclusive hkeep
  · rintro count indices rfl h0 hok
    exact hsound.allocate_ok hd hcall h0 hok

/-- Two pairs, one of them freed and taken again by index. -/
theorem no_device_twice_oddTopology :
    oddTopology.devices = .ok oddPool ∧ ∀ before c after,
      [Call.allocate 2, .allocate 2, .free [1, 4], .allocateSpecific [4, 1],
        .preferredAllocation ["GPU-1", "GPU-3"] ["GPU-3"] 2] = before ++ c :: after →
      ((new oddPool PolicyKind.bestEffort.policy).run before).Exclusive c after :=
  ⟨devices_oddTopology, no_device_twice devices_oddTopology .bestEffort _ fun _ =>
    (sound_new _ _).fitsThroughout (Topology.nodeDevices devices_oddTopology) (by decide)
      fun available required size hm => by
        have heq : available = ["GPU-1", "GPU-3"] ∧ required = ["GPU-3"] ∧ size = 2 := by
          simpa using hm
        rw [heq.1]
        decide⟩

end Allocator
end GpuPlacement
