import GpuPlacement.Proofs.Allocator.Run

/-!
# Reservations under any policy

An allocator does not rely on its policy. Here the policy may answer each request as it likes,
with any devices, known or not, free or not, once or often, or with a fault; the device list may
have gaps and repeated indices; and the run goes on after a fault. What a reservation by count does
with an answer is `grant` (Proofs/Allocator/Run.lean), and the policies of this library are among
those that answer (`allocate_eq_grant`).

What remains true is the bookkeeping (`Accounted`): a call that fails changes nothing, one that
succeeds changes what it says, and no more indices are reserved than there are devices.
-/

set_option autoImplicit false

namespace GpuPlacement

/-- A call, with what the policy answers if the call asks it for devices to reserve. -/
structure Turn where
  call : Call
  answer : Except Fault (List Device)

namespace Allocator

/-- The allocator after a turn. Only a reservation by count needs the answer. -/
def turn (a : Allocator) (t : Turn) : Allocator :=
  match t.call with
  | .allocate count => (a.grant count t.answer).2
  | c => a.step c

/-- The allocator after turns. -/
def play (a : Allocator) (turns : List Turn) : Allocator := turns.foldl turn a

/-- A call under the policy of the allocator is a turn. -/
theorem exists_turn (a : Allocator) (c : Call) : ∃ t : Turn, t.call = c ∧ a.turn t = a.step c := by
  cases c with
  | allocate count =>
    refine ⟨⟨.allocate count, a.policy.allocate a.remaining [] count⟩, rfl, ?_⟩
    rw [step, allocate_eq_grant]
    rfl
  | allocateSpecific indices => exact ⟨⟨.allocateSpecific indices, .ok []⟩, rfl, rfl⟩
  | free indices => exact ⟨⟨.free indices, .ok []⟩, rfl, rfl⟩
  | preferredAllocation available required size =>
    exact ⟨⟨.preferredAllocation available required size, .ok []⟩, rfl, rfl⟩

/-- A run under the policy of the allocator is one under some policy. -/
theorem exists_turns (a : Allocator) (calls : List Call) :
    ∃ turns : List Turn, turns.map Turn.call = calls ∧ a.play turns = a.run calls := by
  induction calls generalizing a with
  | nil => exact ⟨[], rfl, rfl⟩
  | cons c calls ih =>
    obtain ⟨t, hcall, ht⟩ := a.exists_turn c
    obtain ⟨turns, hcalls, hplay⟩ := ih (a.step c)
    refine ⟨t :: turns, by rw [List.map_cons, hcall, hcalls], ?_⟩
    rw [run_cons, ← hplay, ← ht]
    rfl

/-- So what holds after any turns holds after any calls. -/
theorem forall_run_of_play (p : Allocator → Prop) {a : Allocator} (h : ∀ turns, p (a.play turns))
    (calls : List Call) : p (a.run calls) := by
  obtain ⟨turns, -, hplay⟩ := a.exists_turns calls
  rw [← hplay]
  exact h turns

/-! ## One reservation -/

/-- A reservation by count that fails changes nothing, whatever the policy answers. -/
theorem grant_error {a : Allocator} {count : Nat} {answer : Except Fault (List Device)}
    {failure : Failure} (h : (a.grant count answer).1 = .error failure) :
    (a.grant count answer).2 = a := by
  rcases a.grant_cases count answer with ⟨-, hg⟩ | ⟨-, fault, -, hg⟩ | ⟨-, -, hg⟩ |
      ⟨-, chosen, -, -, ⟨-, hg⟩ | ⟨-, e, hg⟩⟩
  · rw [hg]
  · rw [hg]
  · rw [hg]
  · rw [hg] at h
    exact absurd h (by simp)
  · rw [hg]

/-- One that succeeds reserves what it gives. -/
theorem grant_ok {a : Allocator} {count : Nat} {answer : Except Fault (List Device)}
    {indices : List Nat} (h : (a.grant count answer).1 = .ok indices) :
    (a.grant count answer).2 = a.reserve indices ∧ ∀ i ∈ indices, a.isUnavailable i = false := by
  rcases a.grant_cases count answer with ⟨-, hg⟩ | ⟨-, fault, -, hg⟩ | ⟨-, -, hg⟩ |
      ⟨-, chosen, -, -, ⟨hfree, hg⟩ | ⟨-, e, hg⟩⟩
  · rw [hg] at h ⊢
    obtain rfl := Except.ok.inj h
    exact ⟨rfl, by simp⟩
  · rw [hg] at h
    exact absurd h (by simp)
  · rw [hg] at h
    exact absurd h (by simp)
  · rw [hg] at h ⊢
    obtain rfl := Except.ok.inj h
    exact ⟨rfl, hfree⟩
  · rw [hg] at h
    exact absurd h (by simp)

theorem allocateSpecific_error {a : Allocator} {indices : List Nat} {e : Error}
    (h : (a.allocateSpecific indices).1 = .error e) : (a.allocateSpecific indices).2 = a := by
  rcases a.allocateSpecific_cases indices with ⟨-, hs⟩ | ⟨-, e', hs⟩
  · rw [hs] at h
    exact absurd h (by simp)
  · rw [hs]

theorem allocateSpecific_ok {a : Allocator} {indices : List Nat}
    (h : (a.allocateSpecific indices).1 = .ok ()) :
    (a.allocateSpecific indices).2 = a.reserve indices := by
  rcases a.allocateSpecific_cases indices with ⟨-, hs⟩ | ⟨-, e, hs⟩
  · rw [hs]
  · rw [hs] at h
    exact absurd h (by simp)

/-! ## Any run -/

variable {devices : List Device} {policy : Policy} {a : Allocator}

theorem Sound.turn (h : Sound devices policy a) (t : Turn) : Sound devices policy (a.turn t) := by
  obtain ⟨c, answer⟩ := t
  cases c with
  | allocate count =>
    show Sound devices policy (a.grant count answer).2
    cases hr : (a.grant count answer).1 with
    | error failure =>
      rw [grant_error hr]
      exact h
    | ok indices =>
      rw [(grant_ok hr).1]
      exact h.reserve (grant_ok hr).2
  | allocateSpecific indices => exact h.step (.allocateSpecific indices)
  | free indices => exact h.step (.free indices)
  | preferredAllocation available required size => exact h

theorem Sound.play (h : Sound devices policy a) (turns : List Turn) :
    Sound devices policy (a.play turns) := by
  induction turns generalizing a with
  | nil => exact h
  | cons t turns ih => exact ih (h.turn t)

/-- The reservations of an allocator over `devices` are accounted for, now and after the next call,
whatever the policy answers to it. A preferred allocation is not mentioned: it gives no allocator
that could differ from the one before it. -/
structure Accounted (devices : List Device) (a : Allocator) : Prop where
  devices_eq : a.devices = devices
  /-- A reservation by count that is refused, or that meets a fault, changes nothing. -/
  allocate_error : ∀ count answer failure, (a.grant count answer).1 = .error failure →
    (a.grant count answer).2 = a
  /-- One that succeeds adds the indices that it gives, and no others. -/
  allocate_ok : ∀ count answer indices, (a.grant count answer).1 = .ok indices →
    ∀ i, i ∈ (a.grant count answer).2.allocated ↔ i ∈ a.allocated ∨ i ∈ indices
  /-- The policy of the allocator itself is one that answers. -/
  allocate_eq : ∀ count, a.allocate count = a.grant count (a.policy.allocate a.remaining [] count)
  specific_error : ∀ indices e, (a.allocateSpecific indices).1 = .error e →
    (a.allocateSpecific indices).2 = a
  specific_ok : ∀ indices, (a.allocateSpecific indices).1 = .ok () →
    ∀ i, i ∈ (a.allocateSpecific indices).2.allocated ↔ i ∈ a.allocated ∨ i ∈ indices
  free : ∀ indices i, i ∈ (a.free indices).allocated ↔ i ∈ a.allocated ∧ i ∉ indices
  /-- What is reserved are positions of the list, each once. -/
  distinct : a.allocated.Nodup
  bounded : ∀ i ∈ a.allocated, i < devices.length
  /-- So the number of available devices is no truncated difference. -/
  counted : a.availableCount + a.allocated.length = devices.length

theorem Sound.length_allocated_le (h : Sound devices policy a) :
    a.allocated.length ≤ devices.length := by
  have hsub : a.allocated.Subperm (List.range devices.length) :=
    List.subperm_of_subset h.distinct fun i hi => List.mem_range.mpr (h.bounded i hi)
  simpa using hsub.length_le

theorem Sound.accounted (h : Sound devices policy a) : Accounted devices a where
  devices_eq := h.devices_eq
  allocate_error := fun _ _ _ => grant_error
  allocate_ok := by
    intro count answer indices hok i
    rw [(grant_ok hok).1]
    exact mem_reserve
  allocate_eq := a.allocate_eq_grant
  specific_error := fun _ _ => allocateSpecific_error
  specific_ok := by
    intro indices hok i
    rw [allocateSpecific_ok hok]
    exact mem_reserve
  free := fun _ _ => mem_free
  distinct := h.distinct
  bounded := h.bounded
  counted := by
    have hle := h.length_allocated_le
    rw [availableCount, h.devices_eq]
    omega

/-- **Reservations are accounted for**, whatever the device list, under the policies of this
library and under any other one: through any run of calls that starts with nothing reserved, also
one that goes on after faults. -/
theorem reservations_accounted (devices : List Device) (policy : Policy) :
    (∀ calls, ((new devices policy).run calls).Accounted devices) ∧
      ∀ turns, ((new devices policy).play turns).Accounted devices := by
  have hplay : ∀ turns, ((new devices policy).play turns).Accounted devices := fun turns =>
    ((sound_new devices policy).play turns).accounted
  exact ⟨forall_run_of_play (Accounted devices) hplay, hplay⟩

end Allocator
end GpuPlacement
