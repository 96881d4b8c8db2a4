import GpuPlacement.Proofs.Policy.BestEffort
import GpuPlacement.Proofs.Policy.FixedGroups

/-!
# What any policy picks

The facts that the allocator needs of its policy, for each of the policies that can be chosen by
name: it answers, and asked for a number of devices it gives none or that many different ones.
The search over the links can only fail on links that have one side or scores that do not fit;
the tables of fixed groups can not fail at all.
-/

set_option autoImplicit false

namespace GpuPlacement

section

variable {kind : PolicyKind} {pool : List Device}

/-- The policy of a kind is the search or one of the tables. -/
theorem PolicyKind.policy_cases (kind : PolicyKind) :
    (kind = .bestEffort ∧ kind.policy = .bestEffort) ∨
      ∃ t : FixedGroups, t.Simple ∧ kind.policy = .fixedGroups t := by
  cases hp : kind.policy with
  | bestEffort =>
    refine Or.inl ⟨?_, rfl⟩
    cases kind <;> simp [policy] at hp ⊢
  | fixedGroups t => exact Or.inr ⟨t, (FixedGroups.simple_and_sized hp).1, rfl⟩

/-- The policy of a kind answers every request. -/
theorem PolicyKind.allocate_ok (hlinks : TwoSided pool) {required : List Device} {size : Nat}
    (hfit : kind = .bestEffort → ScoresFit pool required size) :
    ∃ chosen, kind.policy.allocate pool required size = .ok chosen := by
  rcases kind.policy_cases with ⟨hk, hp⟩ | ⟨t, -, hp⟩
  · rw [hp]
    exact bestEffort_ok hlinks (hfit hk)
  · rw [hp]
    exact ⟨_, rfl⟩

theorem bestEffort_picks (hlinks : TwoSided pool) (hd : (pool.map Device.index).Nodup) {count : Nat}
    (hfit : ScoresFit pool [] count) :
    ∃ chosen, bestEffort pool [] count = .ok chosen ∧ (chosen = [] ∨ Picks pool count chosen) := by
  cases hsat : isUnsatisfiable pool.length ([] : List Device).length count with
  | true => exact ⟨[], bestEffort_of_isUnsatisfiable hsat, Or.inl rfl⟩
  | false =>
    obtain ⟨hs, hle, hreq⟩ := isUnsatisfiable_eq_false_iff.mp hsat
    obtain ⟨chosen, he, ⟨-, rfl⟩ | ⟨blocks, block, hbest, hblock, rfl⟩⟩ :=
      bestEffort_answers hlinks hs hle hreq hfit
    · exact ⟨[], he, Or.inl rfl⟩
    · obtain ⟨hlen, hsub⟩ := hblock.devices hs hbest.admissible
      exact ⟨_, he, Or.inr ⟨hlen, hsub.subset, hd.sublist (hsub.map _)⟩⟩

/-- Asked for a number of devices, the policy of a kind gives none or that many different ones. -/
theorem PolicyKind.allocate_picks (hlinks : TwoSided pool) (hd : (pool.map Device.index).Nodup)
    {count : Nat} (hfit : kind = .bestEffort → ScoresFit pool [] count) :
    ∃ chosen, kind.policy.allocate pool [] count = .ok chosen ∧
      (chosen = [] ∨ Picks pool count chosen) := by
  rcases kind.policy_cases with ⟨hk, hp⟩ | ⟨t, ht, hp⟩
  · rw [hp]
    exact bestEffort_picks hlinks hd (hfit hk)
  · rw [hp]
    exact ⟨_, rfl, ht.allocate_picks pool count⟩

end

/-! ## Whatever the devices are

Of any policy, over devices in any state, this much can still be said. -/

namespace Policy

theorem allocate_subset {p : Policy} {pool required chosen : List Device} {size : Nat}
    (h : p.allocate pool required size = .ok chosen) : chosen ⊆ required ++ pool := by
  cases p with
  | bestEffort =>
    rcases bestEffort_gives h with rfl | ⟨-, hsub, -⟩
    · exact List.nil_subset _
    · exact fun d hd => List.mem_append_right _ (hsub.subset hd)
  | fixedGroups t =>
    obtain rfl := Except.ok.inj h
    exact t.allocate_subset pool required size

theorem allocate_failsIn (p : Policy) (pool required : List Device) (size : Nat) :
    FailsIn Fault.OfScores (p.allocate pool required size) := by
  cases p with
  | bestEffort => exact bestEffort_failsIn pool required size
  | fixedGroups t => exact failsIn_ok _

end Policy

end GpuPlacement
