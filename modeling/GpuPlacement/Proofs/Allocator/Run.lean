import Mathlib
import GpuPlacement.Allocator

/-!
# Runs of an allocator

The operations of an allocator (Allocator.lean) as calls, and what a run of calls keeps. Nothing
is assumed here of the devices, of the policy or of the arguments.

`step_cases` says once what a call can do to the reservations: nothing, add indices that were all
available, or free some. The other facts about runs follow from it alone.
-/

set_option autoImplicit false

namespace GpuPlacement

/-- The calls that an allocator takes. -/
inductive Call where
  | allocate (count : Nat)
  | allocateSpecific (indices : List Nat)
  | free (indices : List Nat)
  | preferredAllocation (available required : List String) (size : Nat)
  deriving DecidableEq, Repr

/-- A call ends the reservation of an index. -/
def Call.Frees (i : Nat) : Call → Prop
  | .free indices => i ∈ indices
  | _ => False

namespace Allocator

/-- The allocator after a call. -/
def step (a : Allocator) : Call → Allocator
  | .allocate count => (a.allocate count).2
  | .allocateSpecific indices => (a.allocateSpecific indices).2
  | .free indices => a.free indices
  | .preferredAllocation _ _ _ => a

/-- The allocator after calls in turn. -/
def run (a : Allocator) (calls : List Call) : Allocator := calls.foldl step a

/-- A call hands out an index: it succeeds, and gives the index or was asked for it. -/
inductive Grants (a : Allocator) (i : Nat) : Call → Prop
  | allocate {count : Nat} {indices : List Nat} :
      (a.allocate count).1 = .ok indices → i ∈ indices → Grants a i (.allocate count)
  | allocateSpecific {indices : List Nat} :
      (a.allocateSpecific indices).1 = .ok () → i ∈ indices → Grants a i (.allocateSpecific indices)

/-- A call ends in a fault of the program. -/
inductive Panics (a : Allocator) : Call → Prop
  | allocate {count : Nat} {fault : Fault} :
      (a.allocate count).1 = .error (.broken fault) → Panics a (.allocate count)
  | preferredAllocation {available required : List String} {size : Nat} {fault : Fault} :
      a.preferredAllocation available required size = .error (.broken fault) →
        Panics a (.preferredAllocation available required size)

@[simp] theorem run_nil (a : Allocator) : a.run [] = a := rfl

@[simp] theorem run_cons (a : Allocator) (c : Call) (calls : List Call) :
    a.run (c :: calls) = (a.step c).run calls := rfl

/-! ## Reserving and freeing -/

theorem mem_insertIndex {allocated : List Nat} {i j : Nat} :
    i ∈ insertIndex allocated j ↔ i ∈ allocated ∨ i = j := by
  unfold insertIndex
  split
  · rename_i h
    constructor
    · exact Or.inl
    · rintro (hi | rfl)
      · exact hi
      · exact List.contains_iff_mem.mp h
  · rw [List.mem_cons, or_comm]

theorem mem_reserve {a : Allocator} {indices : List Nat} {i : Nat} :
    i ∈ (a.reserve indices).allocated ↔ i ∈ a.allocated ∨ i ∈ indices := by
  have h : ∀ allocated : List Nat,
      i ∈ indices.foldl insertIndex allocated ↔ i ∈ allocated ∨ i ∈ indices := by
    induction indices with
    | nil => simp
    | cons j indices ih =>
      intro allocated
      rw [List.foldl_cons, ih, mem_insertIndex, List.mem_cons, or_assoc]
  exact h a.allocated

theorem nodup_reserve {a : Allocator} {indices : List Nat} (h : a.allocated.Nodup) :
    (a.reserve indices).allocated.Nodup := by
  have hfold : ∀ allocated : List Nat, allocated.Nodup →
      (indices.foldl insertIndex allocated).Nodup := by
    induction indices with
    | nil => exact fun _ h => h
    | cons j indices ih =>
      intro allocated h
      apply ih _
      unfold insertIndex
      split
      · exact h
      · rename_i hj
        exact List.nodup_cons.mpr ⟨fun hm => hj (List.contains_iff_mem.mpr hm), h⟩
  exact hfold _ h

theorem mem_free {a : Allocator} {indices : List Nat} {i : Nat} :
    i ∈ (a.free indices).allocated ↔ i ∈ a.allocated ∧ i ∉ indices := by
  simp [free]

theorem isUnavailable_eq_false_iff {a : Allocator} {i : Nat} :
    a.isUnavailable i = false ↔ i < a.devices.length ∧ i ∉ a.allocated := by
  simp [isUnavailable, isAllocated]

/-! ## What a call does -/

/-- A reservation by index is made if every index is available, and else changes nothing. -/
theorem allocateSpecific_cases (a : Allocator) (indices : List Nat) :
    ((∀ i ∈ indices, a.isUnavailable i = false) ∧
        a.allocateSpecific indices = (.ok (), a.reserve indices)) ∨
      ((∃ i ∈ indices, a.isUnavailable i = true) ∧
        ∃ e, a.allocateSpecific indices = (.error e, a)) := by
  cases h : indices.filter a.isUnavailable with
  | nil =>
    refine Or.inl ⟨fun i hi => ?_, by rw [allocateSpecific, h]⟩
    simpa using List.filter_eq_nil_iff.mp h i hi
  | cons i refused =>
    have hi : i ∈ indices.filter a.isUnavailable := by simp [h]
    refine Or.inr ⟨⟨i, List.mem_filter.mp hi⟩,
      .allocation (.unavailable (i :: refused) (a.remaining.map Device.index)), ?_⟩
    rw [allocateSpecific, h]

/-- A reservation by count, given what the policy answers: any devices at all, or a fault. After a
choice that is refused the allocator is what the attempt to reserve it has left. -/
def grant (a : Allocator) (count : Nat) (answer : Except Fault (List Device)) :
    Except Failure (List Nat) × Allocator :=
  if count = 0 then (.ok [], a)
  else
    match answer with
    | .error fault => (.error (.broken fault), a)
    | .ok [] => (.error (.refused (.allocation (.noGroup count a.availableCount))), a)
    | .ok chosen =>
      match a.allocateSpecific (chosen.map Device.index) with
      | (.error e, later) => (.error (.broken (.choiceRefused e)), later)
      | (.ok (), later) => (.ok (chosen.map Device.index), later)

/-- A reservation by count gives nothing for nothing; otherwise the policy fails, or it picks
none, or what it picks is reserved, or what it picks is refused. -/
theorem grant_cases (a : Allocator) (count : Nat) (answer : Except Fault (List Device)) :
    (count = 0 ∧ a.grant count answer = (.ok [], a)) ∨
      (0 < count ∧ ∃ fault, answer = .error fault ∧
        a.grant count answer = (.error (.broken fault), a)) ∨
      (0 < count ∧ answer = .ok [] ∧
        a.grant count answer
          = (.error (.refused (.allocation (.noGroup count a.availableCount))), a)) ∨
      (0 < count ∧ ∃ chosen, answer = .ok chosen ∧ chosen ≠ [] ∧
        (((∀ i ∈ chosen.map Device.index, a.isUnavailable i = false) ∧
            a.grant count answer
              = (.ok (chosen.map Device.index), a.reserve (chosen.map Device.index))) ∨
          ((∃ i ∈ chosen.map Device.index, a.isUnavailable i = true) ∧
            ∃ e, a.grant count answer = (.error (.broken (.choiceRefused e)), a)))) := by
  rcases Nat.eq_zero_or_pos count with h0 | h0
  · exact Or.inl ⟨h0, by rw [grant.eq_def, if_pos h0]⟩
  · apply Or.inr
    have hne : count ≠ 0 := Nat.ne_of_gt h0
    cases answer with
    | error fault => exact Or.inl ⟨h0, fault, rfl, by rw [grant, if_neg hne]⟩
    | ok chosen =>
      apply Or.inr
      cases chosen with
      | nil => exact Or.inl ⟨h0, rfl, by rw [grant, if_neg hne]⟩
      | cons d chosen =>
        refine Or.inr ⟨h0, d :: chosen, rfl, by simp, ?_⟩
        rcases a.allocateSpecific_cases ((d :: chosen).map Device.index) with
          ⟨hfree, hs⟩ | ⟨hbad, e, hs⟩
        · exact Or.inl ⟨hfree, by simp only [grant, if_neg hne, hs]⟩
        · exact Or.inr ⟨hbad, e, by simp only [grant, if_neg hne, hs]⟩

/-- An allocator asks its policy for some of the devices that remain. -/
theorem allocate_eq_grant (a : Allocator) (count : Nat) :
    a.allocate count = a.grant count (a.policy.allocate a.remaining [] count) := by
  rw [allocate, grant.eq_def]
  by_cases h0 : count = 0
  · rw [if_pos h0, if_pos h0]
  rw [if_neg h0, if_neg h0]
  cases a.policy.allocate a.remaining [] count with
  | error fault => rfl
  | ok chosen =>
    cases chosen with
    | nil => rfl
    | cons d chosen =>
      rcases a.allocateSpecific_cases ((d :: chosen).map Device.index) with
        ⟨-, hs⟩ | ⟨-, e, hs⟩
      · simp only [hs]
      · simp only [hs]

/-- What a reservation by count can do, with the policy of the allocator. -/
theorem allocate_cases (a : Allocator) (count : Nat) :
    (count = 0 ∧ a.allocate count = (.ok [], a)) ∨
      (0 < count ∧ ∃ fault, a.policy.allocate a.remaining [] count = .error fault ∧
        a.allocate count = (.error (.broken fault), a)) ∨
      (0 < count ∧ a.policy.allocate a.remaining [] count = .ok [] ∧
        a.allocate count
          = (.error (.refused (.allocation (.noGroup count a.availableCount))), a)) ∨
      (0 < count ∧ ∃ chosen, a.policy.allocate a.remaining [] count = .ok chosen ∧ chosen ≠ [] ∧
        (((∀ i ∈ chosen.map Device.index, a.isUnavailable i = false) ∧
            a.allocate count
              = (.ok (chosen.map Device.index), a.reserve (chosen.map Device.index))) ∨
          ((∃ i ∈ chosen.map Device.index, a.isUnavailable i = true) ∧
            ∃ e, a.allocate count = (.error (.broken (.choiceRefused e)), a)))) := by
  rw [allocate_eq_grant]
  exact a.grant_cases count _

/-- **What a call can do.** It changes nothing and hands out nothing; or it hands out indices that
were all available and reserves them; or it frees indices. -/
theorem step_cases (a : Allocator) (c : Call) :
    (a.step c = a ∧ (∀ i, ¬ a.Grants i c) ∧ ∀ i, ¬ c.Frees i) ∨
      (∃ indices, (∀ i ∈ indices, a.isUnavailable i = false) ∧ a.step c = a.reserve indices ∧
        (∀ i, a.Grants i c ↔ i ∈ indices) ∧ ∀ i, ¬ c.Frees i) ∨
      ∃ indices, c = .free indices ∧ a.step c = a.free indices := by
  cases c with
  | allocate count =>
    -- A reservation that hands out nothing, for one reason or another.
    have hnone : ∀ {r : Except Failure (List Nat)}, a.allocate count = (r, a) →
        (∀ indices, r = .ok indices → indices = []) →
          a.step (.allocate count) = a ∧ (∀ i, ¬ a.Grants i (.allocate count)) ∧
            ∀ i, ¬ (Call.allocate count).Frees i := by
      intro r hr hnil
      refine ⟨by rw [step, hr], fun i hg => ?_, fun i h => h⟩
      cases hg with
      | allocate hok hi =>
        rw [hr] at hok
        rw [hnil _ hok] at hi
        exact absurd hi (by simp)
    rcases a.allocate_cases count with ⟨-, h⟩ | ⟨-, fault, -, h⟩ | ⟨-, -, h⟩ |
        ⟨-, chosen, -, -, ⟨hfree, h⟩ | ⟨-, e, h⟩⟩
    · exact Or.inl (hnone h fun _ hr => (Except.ok.inj hr).symm)
    · exact Or.inl (hnone h fun _ hr => absurd hr (by simp))
    · exact Or.inl (hnone h fun _ hr => absurd hr (by simp))
    · refine Or.inr (Or.inl ⟨_, hfree, by rw [step, h], fun i => ⟨fun hg => ?_, fun hi => ?_⟩,
        fun i h => h⟩)
      · cases hg with
        | allocate hok hi =>
          rw [h] at hok
          rwa [Except.ok.inj hok]
      · exact .allocate (by rw [h]) hi
    · exact Or.inl (hnone h fun _ hr => absurd hr (by simp))
  | allocateSpecific indices =>
    rcases a.allocateSpecific_cases indices with ⟨hfree, h⟩ | ⟨-, e, h⟩
    · refine Or.inr (Or.inl ⟨indices, hfree, by rw [step, h], fun i => ⟨fun hg => ?_, fun hi => ?_⟩,
        fun i h => h⟩)
      · cases hg with
        | allocateSpecific _ hi => exact hi
      · exact .allocateSpecific (by rw [h]) hi
    · refine Or.inl ⟨by rw [step, h], fun i hg => ?_, fun i h => h⟩
      cases hg with
      | allocateSpecific hok _ =>
        rw [h] at hok
        exact absurd hok (by simp)
  | free indices => exact Or.inr (Or.inr ⟨indices, rfl, rfl⟩)
  | preferredAllocation available required size =>
    refine Or.inl ⟨rfl, fun i hg => ?_, fun i h => h⟩
    cases hg

theorem not_grants_free {a : Allocator} {indices : List Nat} {i : Nat} :
    ¬ a.Grants i (.free indices) := by
  intro h
  cases h

/-- What is handed out was available. -/
theorem Grants.available {a : Allocator} {c : Call} {i : Nat} (h : a.Grants i c) :
    i < a.devices.length ∧ i ∉ a.allocated := by
  rcases a.step_cases c with ⟨-, hno, -⟩ | ⟨indices, hfree, -, hg, -⟩ | ⟨indices, rfl, -⟩
  · exact absurd h (hno i)
  · exact isUnavailable_eq_false_iff.mp (hfree i ((hg i).mp h))
  · exact absurd h not_grants_free

/-- **The reservations after a call:** those before it that it does not end, and those it makes. -/
theorem mem_allocated_step {a : Allocator} {c : Call} {i : Nat} :
    i ∈ (a.step c).allocated ↔ (i ∈ a.allocated ∧ ¬ c.Frees i) ∨ a.Grants i c := by
  rcases a.step_cases c with ⟨hs, hno, hf⟩ | ⟨indices, -, hs, hg, hf⟩ | ⟨indices, rfl, hs⟩
  · rw [hs]
    exact ⟨fun h => Or.inl ⟨h, hf i⟩, fun h => h.elim And.left fun h => absurd h (hno i)⟩
  · rw [hs, mem_reserve, hg]
    exact or_congr ⟨fun h => ⟨h, hf i⟩, And.left⟩ Iff.rfl
  · rw [hs, mem_free]
    exact ⟨Or.inl, fun h => h.elim id fun h => absurd h not_grants_free⟩

/-! ## What a run keeps -/

/-- An allocator over `devices` with a policy, that has reserved existing devices, each once. -/
structure Sound (devices : List Device) (policy : Policy) (a : Allocator) : Prop where
  devices_eq : a.devices = devices
  policy_eq : a.policy = policy
  distinct : a.allocated.Nodup
  bounded : ∀ i ∈ a.allocated, i < devices.length

variable {devices : List Device} {policy : Policy}

theorem sound_new (devices : List Device) (policy : Policy) :
    Sound devices policy (new devices policy) :=
  ⟨rfl, rfl, .nil, by simp [new]⟩

theorem Sound.reserve {a : Allocator} (h : Sound devices policy a) {indices : List Nat}
    (hfree : ∀ i ∈ indices, a.isUnavailable i = false) : Sound devices policy (a.reserve indices) := by
  refine ⟨h.devices_eq, h.policy_eq, nodup_reserve h.distinct, fun i hi => ?_⟩
  rcases mem_reserve.mp hi with hi | hi
  · exact h.bounded i hi
  · rw [← h.devices_eq]
    exact (isUnavailable_eq_false_iff.mp (hfree i hi)).1

theorem Sound.free {a : Allocator} (h : Sound devices policy a) (indices : List Nat) :
    Sound devices policy (a.free indices) :=
  ⟨h.devices_eq, h.policy_eq, h.distinct.filter _, fun i hi => h.bounded i (mem_free.mp hi).1⟩

theorem Sound.step {a : Allocator} (h : Sound devices policy a) (c : Call) :
    Sound devices policy (a.step c) := by
  rcases a.step_cases c with ⟨hs, -, -⟩ | ⟨indices, hfree, hs, -, -⟩ | ⟨indices, -, hs⟩
  · rw [hs]
    exact h
  · rw [hs]
    exact h.reserve hfree
  · rw [hs]
    exact h.free indices

theorem Sound.run {a : Allocator} (h : Sound devices policy a) (calls : List Call) :
    Sound devices policy (a.run calls) := by
  induction calls generalizing a with
  | nil => exact h
  | cons c calls ih => exact ih (h.step c)

theorem sound_run_new (devices : List Device) (policy : Policy) (calls : List Call) :
    Sound devices policy ((new devices policy).run calls) :=
  (sound_new devices policy).run calls

/-- A reservation lasts until a call ends it. -/
theorem mem_allocated_run {a : Allocator} {calls : List Call} {i : Nat} (hi : i ∈ a.allocated)
    (hkeep : ∀ c ∈ calls, ¬ c.Frees i) : i ∈ (a.run calls).allocated := by
  induction calls generalizing a with
  | nil => exact hi
  | cons c calls ih =>
    have hstep : i ∈ (a.step c).allocated :=
      mem_allocated_step.mpr (Or.inl ⟨hi, hkeep c (by simp)⟩)
    exact ih hstep fun d hd => hkeep d (List.mem_cons_of_mem _ hd)

/-- What is handed out is not handed out again before a call frees it. -/
theorem Grants.exclusive {a : Allocator} {c later : Call} {between : List Call} {i : Nat}
    (h : a.Grants i c) (hkeep : ∀ d ∈ between, ¬ d.Frees i) :
    ¬ ((a.step c).run between).Grants i later := by
  intro hagain
  exact hagain.available.2 (mem_allocated_run (mem_allocated_step.mpr (Or.inr h)) hkeep)

end Allocator
end GpuPlacement
