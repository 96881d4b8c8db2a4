import GpuPlacement.Commands
import GpuPlacement.Proofs.Allocator.Exclusive
import GpuPlacement.Proofs.Allocator.Stranding

/-!
# Replaying reservations

What `planSteps` (Commands.lean) makes of any list of counts over the devices of a topology, with
the policy that searches the links. A step succeeds exactly if its count is not larger than the
number of devices that remain, and only its own count goes into what remains after it
(`allocate_answered`, one step; `planSteps_answered`, the whole replay). A step that
fails or asks for nothing might as well not have been there: this one holds over any devices, with
any policy (`planSteps_eraseIdx`).
-/

set_option autoImplicit false

namespace GpuPlacement
namespace Commands

/-! ## Steps -/

namespace PlanStep

def failed (s : PlanStep) : Bool :=
  match s.result with
  | .ok _ => false
  | .error _ => true

/-- A step that reserves nothing. -/
def Idle (s : PlanStep) : Prop := s.failed = true ∨ s.count = 0

theorem failed_iff {s : PlanStep} : s.failed = true ↔ ∃ e, s.result = .error e := by
  unfold failed
  cases s.result with
  | ok indices => simp
  | error e => simp

end PlanStep

/-- The counts of the steps that succeed, added up. -/
def granted (steps : List PlanStep) : Nat :=
  ((steps.filter fun s => !s.failed).map PlanStep.count).sum

/-- What a step gives when `left` of `total` devices remain before it. -/
structure Answered (total left : Nat) (s : PlanStep) : Prop where
  failed_iff : s.failed = true ↔ left < s.count
  refusal : ∀ e, s.result = .error e → e = .allocation (.noGroup s.count left)
  ascending : ∀ indices, s.result = .ok indices →
    indices.length = s.count ∧ indices.Pairwise (· < ·) ∧ ∀ i ∈ indices, i < total

theorem granted_cons (s : PlanStep) (steps : List PlanStep) :
    granted (s :: steps) = (if s.failed then 0 else s.count) + granted steps := by
  unfold granted
  rw [List.filter_cons]
  cases s.failed with
  | true => simp
  | false => simp

/-! ## The replay, step by step -/

/-- What a reservation leaves to the steps behind it. -/
theorem planSteps_cons {a later : Allocator} {count : Nat} {result : Except Error (List Nat)}
    (h : a.allocate count = (result.mapError .refused, later)) (counts : List Nat) :
    planSteps a (count :: counts)
      = (planSteps later counts).map fun p => (⟨count, result⟩ :: p.1, p.2) := by
  cases result with
  | ok indices =>
    have hok : a.allocate count = (.ok indices, later) := h
    simp only [planSteps, hok]
    cases planSteps later counts <;> rfl
  | error e =>
    have herror : a.allocate count = (.error (.refused e), later) := h
    simp only [planSteps, herror]
    cases planSteps later counts <;> rfl

theorem planSteps_cons_eq_ok {a final : Allocator} {count : Nat} {counts : List Nat}
    {steps : List PlanStep} (h : planSteps a (count :: counts) = .ok (steps, final)) :
    ∃ result later rest, a.allocate count = (Except.mapError .refused result, later) ∧
      planSteps later counts = .ok (rest, final) ∧ steps = ⟨count, result⟩ :: rest := by
  -- Once the first step is known, the rest of the replay has to succeed.
  have hmap : ∀ (result : Except Error (List Nat)) {later : Allocator},
      a.allocate count = (result.mapError .refused, later) →
        ∃ rest, planSteps later counts = .ok (rest, final) ∧ steps = ⟨count, result⟩ :: rest := by
    intro result later hstep
    rw [planSteps_cons hstep] at h
    obtain ⟨⟨rest, last⟩, hrest, heq⟩ := exists_of_map_eq_ok h
    obtain ⟨rfl, rfl⟩ := Prod.mk.inj heq
    exact ⟨rest, hrest, rfl⟩
  cases hstep : a.allocate count with
  | mk result later =>
    cases result with
    | ok indices =>
      obtain ⟨rest, hrest, hsteps⟩ := hmap (.ok indices) hstep
      exact ⟨.ok indices, later, rest, rfl, hrest, hsteps⟩
    | error failure =>
      cases failure with
      | refused e =>
        obtain ⟨rest, hrest, hsteps⟩ := hmap (.error e) hstep
        exact ⟨.error e, later, rest, rfl, hrest, hsteps⟩
      | broken fault =>
        rw [planSteps, hstep] at h
        exact absurd h (by simp)

/-- A reservation that gives no devices changes nothing. -/
theorem allocate_idle {a later : Allocator} {s : PlanStep}
    (h : a.allocate s.count = (s.result.mapError .refused, later)) (hidle : s.Idle) :
    later = a := by
  have hsame : ∀ {r : Except Failure (List Nat)}, a.allocate s.count = (r, a) → later = a := by
    intro r hr
    rw [hr] at h
    exact (congrArg Prod.snd h).symm
  rcases a.allocate_cases s.count with ⟨-, hc⟩ | ⟨-, fault, -, hc⟩ | ⟨-, -, hc⟩ |
      ⟨h0, chosen, -, -, ⟨-, hc⟩ | ⟨-, e, hc⟩⟩
  · exact hsame hc
  · exact hsame hc
  · exact hsame hc
  · -- What the policy picks is reserved, so the step is not idle.
    rcases hidle with hfailed | hzero
    · obtain ⟨e, he⟩ := PlanStep.failed_iff.mp hfailed
      rw [hc, he] at h
      exact absurd (congrArg Prod.fst h) (by simp [Except.mapError])
    · omega
  · exact hsame hc

/-- **Idle steps leave no trace.** Without a step that fails or asks for nothing the replay gives
the same other steps, and the same allocator in the end. -/
theorem planSteps_eraseIdx {counts : List Nat} {a final : Allocator} {steps : List PlanStep}
    (h : planSteps a counts = .ok (steps, final)) {i : Nat} {s : PlanStep}
    (hs : steps[i]? = some s) (hidle : s.Idle) :
    planSteps a (counts.eraseIdx i) = .ok (steps.eraseIdx i, final) := by
  induction counts generalizing a steps i with
  | nil =>
    obtain ⟨rfl, rfl⟩ := Prod.mk.inj (Except.ok.inj h)
    exact absurd hs (by simp)
  | cons count counts ih =>
    obtain ⟨result, later, rest, hstep, hrest, rfl⟩ := planSteps_cons_eq_ok h
    cases i with
    | zero =>
      obtain rfl := Option.some.inj hs
      rw [← allocate_idle hstep hidle]
      exact hrest
    | succ i =>
      rw [List.eraseIdx_cons_succ, planSteps_cons hstep, ih hrest hs]
      rfl

/-! ## Over the devices of a topology -/

section

open Allocator (new Sound)

variable {devices : List Device} {a : Allocator}

/-- The policy sees from the numbers alone that too few devices remain. -/
theorem allocate_of_lt (hd : NodeDevices devices) (h : Sound devices .bestEffort a) {count : Nat}
    (hlt : a.remaining.length < count) :
    a.allocate count
      = (.error (.refused (.allocation (.noGroup count a.remaining.length))), a) := by
  have hsat : isUnsatisfiable a.remaining.length ([] : List Device).length count = true := by
    simp [isUnsatisfiable, hlt]
  have hnone : a.policy.allocate a.remaining [] count = .ok [] := by
    rw [h.policy_eq]
    exact bestEffort_of_isUnsatisfiable hsat
  have havailable : a.availableCount = a.remaining.length := (h.consistent hd).available
  rw [Allocator.allocate, if_neg (by omega), hnone, havailable]

/-- The devices of a reservation: none, or the first group of a best grouping of what remains. -/
theorem allocate_of_le (hd : NodeDevices devices) (h : Sound devices .bestEffort a) {count : Nat}
    (hle : count ≤ a.remaining.length) (hfit : ScoresFit a.remaining [] count) :
    ∃ g : List Device, g.length = count ∧ g.Sublist a.remaining ∧
      (a.allocate count).1 = .ok (g.map Device.index) ∧
      (g ++ (a.step (.allocate count)).remaining).Perm a.remaining := by
  rcases Nat.eq_zero_or_pos count with rfl | h0
  · have hnone : a.allocate 0 = (.ok [], a) := by rw [Allocator.allocate, if_pos rfl]
    refine ⟨[], rfl, List.nil_sublist _, by rw [hnone]; rfl, ?_⟩
    rw [Allocator.step, hnone]
    exact .refl _
  · obtain ⟨g, groups, rest, hbest, hsub, hok, hperm⟩ := h.allocate_bestGrouping hd h0 hle hfit
    exact ⟨g, hbest.full g (by simp), hsub, hok, hperm⟩

/-- **One reservation**: it is refused if too few devices remain, and otherwise gives as many as
asked for and leaves the others. -/
theorem allocate_answered (hd : NodeDevices devices) (h : Sound devices .bestEffort a)
    {count : Nat} (hfit : ScoresFit a.remaining [] count) :
    ∃ result : Except Error (List Nat),
      a.allocate count = (result.mapError .refused, a.step (.allocate count)) ∧
        Answered devices.length a.remaining.length ⟨count, result⟩ ∧
        (a.step (.allocate count)).remaining.length
          + (if (PlanStep.mk count result).failed then 0 else count) = a.remaining.length := by
  rcases Nat.lt_or_ge a.remaining.length count with hlt | hle
  · have hrefused := allocate_of_lt hd h hlt
    refine ⟨.error (.allocation (.noGroup count a.remaining.length)),
      by rw [Allocator.step, hrefused]; rfl, ⟨by simp [PlanStep.failed, hlt], ?_, ?_⟩, ?_⟩
    · intro e he
      exact (Except.error.inj he).symm
    · intro indices hok
      exact absurd hok (by simp)
    · rw [Allocator.step, hrefused]
      rfl
  · obtain ⟨g, hlen, hsub, hok, hperm⟩ := allocate_of_le hd h hle hfit
    refine ⟨.ok (g.map Device.index), Prod.ext hok rfl,
      ⟨by simp [PlanStep.failed, hle], ?_, ?_⟩, ?_⟩
    · intro e he
      exact absurd he (by simp)
    · intro indices hindices
      obtain rfl := Except.ok.inj hindices
      refine ⟨by rw [List.length_map, hlen], (h.ascending_remaining hd).sublist (hsub.map _), ?_⟩
      intro i hi
      obtain ⟨d, hdg, rfl⟩ := List.mem_map.mp hi
      exact hd.index_lt (h.remaining_sublist.subset (hsub.subset hdg))
    · have hsum := hperm.length_eq
      rw [List.length_append, hlen, Nat.add_comm] at hsum
      exact hsum

/-- The whole replay, from wherever the allocator got: each step sees what the successful ones
before it left. -/
theorem planSteps_answered (hd : NodeDevices devices) (h : Sound devices .bestEffort a)
    {counts : List Nat} (hfit : a.FitsThroughout (counts.map Call.allocate)) :
    ∃ steps final, planSteps a counts = .ok (steps, final) ∧
      steps.map PlanStep.count = counts ∧
      ∀ i s, steps[i]? = some s → ∃ left, granted (steps.take i) + left = a.remaining.length ∧
        Answered devices.length left s := by
  induction counts generalizing a with
  | nil => exact ⟨[], a, rfl, rfl, fun i s hs => absurd hs (by simp)⟩
  | cons count counts ih =>
    obtain ⟨hcall, hlater⟩ := hfit
    obtain ⟨result, hstep, hanswered, hleft⟩ := allocate_answered hd h hcall
    obtain ⟨steps, final, hsteps, hcounts, hall⟩ := ih (h.step (.allocate count)) hlater
    refine ⟨⟨count, result⟩ :: steps, final, ?_, by rw [List.map_cons, hcounts], fun i s hs => ?_⟩
    · rw [planSteps_cons hstep, hsteps]
      rfl
    · cases i with
      | zero =>
        obtain rfl := Option.some.inj hs
        exact ⟨a.remaining.length, Nat.zero_add _, hanswered⟩
      | succ i =>
        obtain ⟨left, hsum, hs⟩ := hall i s hs
        refine ⟨left, ?_, hs⟩
        rw [List.take_succ_cons, granted_cons, Nat.add_assoc, hsum, Nat.add_comm]
        exact hleft

/-- What the command prints after a replay. -/
def planned (json : Bool) (steps : List PlanStep) (final : Allocator) : String :=
  if json then lines [Json.pretty (.list (steps.map PlanStep.toData))]
  else lines (planTable steps final)

/-- A replay of counts over fresh devices, with the policy that searches the links: its steps, and
the allocator after them. -/
structure Replay (devices : List Device) (counts : List Nat) (steps : List PlanStep)
    (final : Allocator) : Prop where
  made : planSteps (new devices .bestEffort) counts = .ok (steps, final)
  /-- The command ends well. -/
  printed : ∀ fs c json, loadDevices fs c = .ok devices → c.topology.policy = .bestEffort →
    plan fs c counts json = .ok (planned json steps final)
  counts_eq : steps.map PlanStep.count = counts
  /-- Each step sees the devices that the successful steps before it left. -/
  answered : ∀ i s, steps[i]? = some s →
    ∃ left, granted (steps.take i) + left = devices.length ∧ Answered devices.length left s
  /-- Without an idle step the other steps are the same, and so is the allocator after them. -/
  idle : ∀ i s, steps[i]? = some s → s.Idle →
    planSteps (new devices .bestEffort) (counts.eraseIdx i) = .ok (steps.eraseIdx i, final)

theorem plan_eq_ok {fs : FileSystem} {c : Config} {counts : List Nat} {steps : List PlanStep}
    {final : Allocator} (hload : loadDevices fs c = .ok devices)
    (h : planSteps (new devices c.topology.policy.policy) counts = .ok (steps, final))
    (json : Bool) : plan fs c counts json = .ok (planned json steps final) := by
  rw [plan, loadAllocator, hload]
  simp only [bind, Except.bind, pure, Except.pure, h, Except.mapError]
  cases json with
  | true => rfl
  | false => rfl

/-- **A replay succeeds exactly where the counts fit.** Over the devices of a topology, with the
policy that searches the links, the command ends well for every list of counts. A step fails
exactly if its count is larger than what the successful steps before it left of the devices; one
that succeeds gives that many devices in ascending order; and without a step that fails or asks
for nothing all other steps, and the reservations in the end, are the same. -/
theorem plan_replays {t : Topology} (ht : t.devices = .ok devices) (counts : List Nat)
    (hfit : (new devices .bestEffort).FitsThroughout (counts.map Call.allocate)) :
    ∃ steps final, Replay devices counts steps final := by
  obtain ⟨steps, final, hsteps, hcounts, hall⟩ := planSteps_answered
    (Topology.nodeDevices ht) (Allocator.sound_new devices .bestEffort) hfit
  have hfresh : (new devices .bestEffort).remaining = devices := by
    simp [Allocator.remaining, Allocator.isAllocated, new]
  rw [hfresh] at hall
  refine ⟨steps, final, hsteps, fun fs c json hload hpolicy => ?_, hcounts, hall,
    fun i s hs hidle => planSteps_eraseIdx hsteps hs hidle⟩
  apply plan_eq_ok hload
  rw [hpolicy]
  exact hsteps

/-- Two pairs are reserved; the steps between them are idle, and one device is left for the last. -/
theorem plan_replays_oddTopology :
    oddTopology.devices = .ok oddPool ∧ ∃ steps final, Replay oddPool [2, 9, 0, 2, 2] steps final :=
  ⟨devices_oddTopology, plan_replays devices_oddTopology [2, 9, 0, 2, 2]
    ((Allocator.sound_new _ _).fitsThroughout (Topology.nodeDevices devices_oddTopology)
      (by decide) (by simp))⟩

end

end Commands
end GpuPlacement
