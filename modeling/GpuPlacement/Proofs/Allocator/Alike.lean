import GpuPlacement.Proofs.Allocator.Run
import GpuPlacement.Proofs.Topology.Rewritten

/-!
# Allocation does not see how a topology is written

Two allocators over the device lists of two descriptions of one node (`Rewritten`) give the same
answers, call by call, whatever the policy and the calls. The lists are alike device by device
(Proofs/Topology/Rewritten.lean), no policy tells alike devices apart
(Proofs/Policy/Alike.lean), and what an allocator does besides reads indices and UUIDs. So a call
keeps two allocators alike and gets the same answer from both (`Alike.step`, `Alike.answer_eq`).
-/

set_option autoImplicit false

namespace GpuPlacement

/-! ## Devices by UUID -/

section

variable {devices devices' : List Device}

theorem findDevice?_alike (h : List.Forall₂ Device.Alike devices devices') (uuid : String) :
    (findDevice? devices uuid = none ∧ findDevice? devices' uuid = none) ∨
      ∃ d d', findDevice? devices uuid = some d ∧ findDevice? devices' uuid = some d' ∧
        d.Alike d' := by
  unfold findDevice?
  induction h with
  | nil => exact Or.inl ⟨rfl, rfl⟩
  | @cons d d' _ _ hd _ ih =>
    rw [List.find?_cons, List.find?_cons, hd.uuid]
    cases d'.uuid == uuid with
    | true => exact Or.inr ⟨d, d', rfl, rfl, hd⟩
    | false => exact ih

/-- Alike lists have devices of the same UUIDs, and these are alike. -/
theorem selectDevices_alike (h : List.Forall₂ Device.Alike devices devices')
    (uuids : List String) :
    (∃ uuid, selectDevices devices uuids = .error uuid ∧
        selectDevices devices' uuids = .error uuid) ∨
      ∃ pool pool', selectDevices devices uuids = .ok pool ∧
        selectDevices devices' uuids = .ok pool' ∧ List.Forall₂ Device.Alike pool pool' := by
  induction uuids with
  | nil => exact Or.inr ⟨[], [], rfl, rfl, .nil⟩
  | cons uuid uuids ih =>
    rw [selectDevices, selectDevices]
    rcases findDevice?_alike h uuid with ⟨hf, hf'⟩ | ⟨d, d', hf, hf', hd⟩
    · rw [hf, hf']
      exact Or.inl ⟨uuid, rfl, rfl⟩
    · rw [hf, hf']
      rcases ih with ⟨missing, hs, hs'⟩ | ⟨pool, pool', hs, hs', hpool⟩
      · rw [hs, hs']
        exact Or.inl ⟨missing, rfl, rfl⟩
      · rw [hs, hs']
        exact Or.inr ⟨d :: pool, d' :: pool', rfl, rfl, hpool.cons hd⟩

end

namespace Allocator

/-! ## Answers -/

/-- What a call gives to the caller. -/
inductive Answer where
  | indices (result : Except Failure (List Nat))
  | reserved (result : Except Error Unit)
  | freed
  | uuids (result : Except Failure (List String))

def answer (a : Allocator) : Call → Answer
  | .allocate count => .indices (a.allocate count).1
  | .allocateSpecific indices => .reserved (a.allocateSpecific indices).1
  | .free _ => .freed
  | .preferredAllocation available required size =>
    .uuids (a.preferredAllocation available required size)

/-- The answers to calls in turn. -/
def answers (a : Allocator) : List Call → List Answer
  | [] => []
  | c :: calls => a.answer c :: (a.step c).answers calls

/-! ## Alike allocators -/

/-- The same reservations, and the same policy, over alike devices. -/
structure Alike (a a' : Allocator) : Prop where
  devices : List.Forall₂ Device.Alike a.devices a'.devices
  policy : a.policy = a'.policy
  allocated : a.allocated = a'.allocated

namespace Alike

variable {a a' : Allocator}

theorem remaining (h : Alike a a') :
    List.Forall₂ Device.Alike a.remaining a'.remaining := by
  refine List.rel_filter (fun d d' hd => ?_) h.devices
  simp only [isAllocated, hd.index, h.allocated]

theorem reserve (h : Alike a a') (indices : List Nat) :
    Alike (a.reserve indices) (a'.reserve indices) :=
  ⟨h.devices, h.policy, by rw [Allocator.reserve, Allocator.reserve, h.allocated]⟩

theorem free (h : Alike a a') (indices : List Nat) : Alike (a.free indices) (a'.free indices) :=
  ⟨h.devices, h.policy, by rw [Allocator.free, Allocator.free, h.allocated]⟩

theorem allocateSpecific (h : Alike a a') (indices : List Nat) :
    (a.allocateSpecific indices).1 = (a'.allocateSpecific indices).1 ∧
      Alike (a.allocateSpecific indices).2 (a'.allocateSpecific indices).2 := by
  have hunavailable : a.isUnavailable = a'.isUnavailable := by
    funext i
    rw [isUnavailable, isUnavailable, isAllocated, isAllocated, h.devices.length_eq, h.allocated]
  rw [Allocator.allocateSpecific, Allocator.allocateSpecific, hunavailable,
    map_index_alike h.remaining]
  cases indices.filter a'.isUnavailable with
  | nil => exact ⟨rfl, h.reserve indices⟩
  | cons i refused => exact ⟨rfl, h⟩

theorem allocate (h : Alike a a') (count : Nat) :
    (a.allocate count).1 = (a'.allocate count).1 ∧
      Alike (a.allocate count).2 (a'.allocate count).2 := by
  have havailable : a.availableCount = a'.availableCount := by
    rw [availableCount, availableCount, h.devices.length_eq, h.allocated]
  rw [Allocator.allocate, Allocator.allocate]
  by_cases h0 : count = 0
  · rw [if_pos h0, if_pos h0]
    exact ⟨rfl, h⟩
  rw [if_neg h0, if_neg h0, h.policy]
  rcases a'.policy.allocate_alike_cases h.remaining .nil count with
    ⟨fault, hp, hp'⟩ | ⟨chosen, chosen', hp, hp', hbare⟩
  · rw [hp, hp']
    exact ⟨rfl, h⟩
  · rw [hp, hp']
    -- The policy picks none of the devices from both lists, or the same ones.
    cases chosen with
    | nil =>
      obtain rfl := List.map_eq_nil_iff.mp hbare.symm
      rw [havailable]
      exact ⟨rfl, h⟩
    | cons d chosen =>
      cases chosen' with
      | nil => exact absurd hbare (by simp)
      | cons d' chosen' =>
        simp only [map_index_of_bare hbare]
        obtain ⟨hresult, halike⟩ := h.allocateSpecific ((d' :: chosen').map Device.index)
        cases hs : a.allocateSpecific ((d' :: chosen').map Device.index) with
        | mk result later =>
          cases hs' : a'.allocateSpecific ((d' :: chosen').map Device.index) with
          | mk result' later' =>
            rw [hs, hs'] at hresult halike
            obtain rfl : result = result' := hresult
            cases result with
            | ok done => exact ⟨rfl, halike⟩
            | error e => exact ⟨rfl, h⟩

theorem preferredAllocation (h : Alike a a') (available required : List String) (size : Nat) :
    a.preferredAllocation available required size
      = a'.preferredAllocation available required size := by
  rw [Allocator.preferredAllocation, Allocator.preferredAllocation]
  rcases selectDevices_alike h.devices available with
    ⟨uuid, hs, hs'⟩ | ⟨pool, pool', hs, hs', hpool⟩
  · rw [hs, hs']
  · rw [hs, hs']
    rcases selectDevices_alike h.devices required with
      ⟨uuid, hs, hs'⟩ | ⟨needed, needed', hs, hs', hneeded⟩
    · simp only [hs, hs']
    · simp only [hs, hs', h.policy]
      rcases a'.policy.allocate_alike_cases hpool hneeded size with
        ⟨fault, hp, hp'⟩ | ⟨chosen, chosen', hp, hp', hbare⟩
      · rw [hp, hp']
      · simp only [hp, hp', map_uuid_of_bare hbare]

/-- A call gets the same answer from alike allocators. -/
theorem answer_eq (h : Alike a a') (c : Call) : a.answer c = a'.answer c := by
  cases c with
  | allocate count => exact congrArg Answer.indices (h.allocate count).1
  | allocateSpecific indices => exact congrArg Answer.reserved (h.allocateSpecific indices).1
  | free indices => rfl
  | preferredAllocation available required size =>
    exact congrArg Answer.uuids (h.preferredAllocation available required size)

/-- A call leaves alike allocators alike. -/
theorem step (h : Alike a a') (c : Call) : Alike (a.step c) (a'.step c) := by
  cases c with
  | allocate count => exact (h.allocate count).2
  | allocateSpecific indices => exact (h.allocateSpecific indices).2
  | free indices => exact h.free indices
  | preferredAllocation available required size => exact h

theorem answers_eq (h : Alike a a') (calls : List Call) : a.answers calls = a'.answers calls := by
  induction calls generalizing a a' with
  | nil => rfl
  | cons c calls ih => rw [answers, answers, h.answer_eq, ih (h.step c)]

end Alike

/-- Device lists that nothing but the order of links tells apart: the devices at each position are
the same (`Device.bare`), every pair has the same score, and allocators over the two lists answer
any calls alike. -/
structure Indistinguishable (devices devices' : List Device) : Prop where
  bare : devices.map Device.bare = devices'.map Device.bare
  score : ∀ i j : Nat, pairScore devices[i]? devices[j]? = pairScore devices'[i]? devices'[j]?
  answers : ∀ policy calls, (new devices policy).answers calls = (new devices' policy).answers calls

/-- **Allocation does not depend on how a topology is written down.** Of two descriptions of one
node both give a device list or none does, and the lists are indistinguishable. -/
theorem answers_rewritten {t t' : Topology} (h : Rewritten t t') :
    ((∃ devices, t.devices = .ok devices) ↔ ∃ devices, t'.devices = .ok devices) ∧
      ∀ devices devices', t.devices = .ok devices → t'.devices = .ok devices' →
        Indistinguishable devices devices' := by
  refine ⟨h.exists_devices_iff, fun devices devices' hd hd' => ?_⟩
  have halike := h.devices_alike hd hd'
  refine ⟨map_bare_alike halike, fun i j => ?_, fun policy calls => ?_⟩
  · rw [← ScoreTable.pair_ofDevices, ScoreTable.ofDevices_alike halike, ScoreTable.pair_ofDevices]
  · have hnew : Alike (new devices policy) (new devices' policy) := ⟨halike, rfl, rfl⟩
    exact hnew.answers_eq calls

/-- Two GPUs that two entries join. -/
def twoEntries : Topology where
  gpus := [⟨0, "GPU-0", none, none, []⟩, ⟨1, "GPU-1", none, none, []⟩]
  links := [⟨0, 1, [.nvlink 2]⟩, ⟨0, 1, [.sameCpu]⟩]

/-- The GPUs and entries of `twoEntries` from the last to the first, one entry turned. -/
def twoEntriesTurned : Topology where
  gpus := [⟨1, "GPU-1", none, none, []⟩, ⟨0, "GPU-0", none, none, []⟩]
  links := [⟨1, 0, [.sameCpu]⟩, ⟨0, 1, [.nvlink 2]⟩]

theorem rewritten_twoEntries : Rewritten twoEntries twoEntriesTurned where
  gpus := .swap _ _ _
  links := ⟨[⟨0, 1, [.nvlink 2]⟩, ⟨1, 0, [.sameCpu]⟩],
    .cons (Or.inl rfl) (.cons (Or.inr rfl) .nil), .swap _ _ _⟩

theorem answers_rewritten_twoEntries :
    Rewritten twoEntries twoEntriesTurned ∧
      ∃ devices devices', twoEntries.devices = .ok devices ∧
        twoEntriesTurned.devices = .ok devices' ∧ Indistinguishable devices devices' := by
  have hok : ∃ devices, twoEntries.devices = .ok devices := by
    rw [Topology.devices, Topology.byIndex, List.mergeSort_of_pairwise (by decide)]
    exact ⟨_, rfl⟩
  obtain ⟨hiff, hsame⟩ := answers_rewritten rewritten_twoEntries
  obtain ⟨devices, hd⟩ := hok
  obtain ⟨devices', hd'⟩ := hiff.mp ⟨devices, hd⟩
  exact ⟨rewritten_twoEntries, devices, devices', hd, hd', hsame devices devices' hd hd'⟩

end Allocator
end GpuPlacement
