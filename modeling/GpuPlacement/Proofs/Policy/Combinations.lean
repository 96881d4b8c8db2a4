import Mathlib

/-!
# Combinations

`combinations k xs` lists the ways to choose `k` members of a list in the order in which nested loops
come to them, an earlier first member first. As a collection it is the library's `List.sublistsLen`
(`combinations_perm`), which lists the same ways in another order; what is in it and how many there
are is taken from there. What the library does not say is the order: from ascending positions the
combinations ascend (`combinations_ascending`).
-/

set_option autoImplicit false

namespace GpuPlacement

/-- The ways to choose so many members of a list, in their order. Those with an earlier first member
come first. -/
def combinations {α : Type} : Nat → List α → List (List α)
  | 0, _ => [[]]
  | _ + 1, [] => []
  | k + 1, x :: xs => (combinations k xs).map (x :: ·) ++ combinations (k + 1) xs

/-! ## What is listed -/

section Listed

variable {α β : Type} {k : Nat} {xs chosen : List α}

theorem combinations_map (f : α → β) (k : Nat) (xs : List α) :
    combinations k (xs.map f) = (combinations k xs).map (List.map f) := by
  induction xs generalizing k with
  | nil => cases k <;> rfl
  | cons x xs ih =>
    cases k with
    | zero => rfl
    | succ k =>
      rw [List.map_cons, combinations, combinations, ih, ih, List.map_append, List.map_map,
        List.map_map]
      rfl

theorem combinations_perm (k : Nat) (xs : List α) :
    (combinations k xs).Perm (xs.sublistsLen k) := by
  induction xs generalizing k with
  | nil =>
    cases k with
    | zero => rw [combinations, List.sublistsLen_zero]
    | succ k => rw [combinations, List.sublistsLen_succ_nil]
  | cons x xs ih =>
    cases k with
    | zero => rw [combinations, List.sublistsLen_zero]
    | succ k =>
      rw [combinations, List.sublistsLen_succ_cons]
      exact List.perm_append_comm.trans ((ih (k + 1)).append ((ih k).map _))

theorem mem_combinations_iff :
    chosen ∈ combinations k xs ↔ chosen.Sublist xs ∧ chosen.length = k :=
  (combinations_perm k xs).mem_iff.trans List.mem_sublistsLen

theorem length_combinations (k : Nat) (xs : List α) :
    (combinations k xs).length = xs.length.choose k :=
  (combinations_perm k xs).length_eq.trans (List.length_sublistsLen k xs)

/-- More than there is can not be chosen. -/
theorem combinations_eq_nil (h : xs.length < k) : combinations k xs = [] := by
  have hperm := combinations_perm k xs
  rwa [List.sublistsLen_of_length_lt h, List.perm_nil] at hperm

/-- All there is can be chosen in one way. -/
theorem combinations_self (xs : List α) : combinations xs.length xs = [xs] := by
  have hperm := combinations_perm xs.length xs
  rwa [List.sublistsLen_length, List.perm_singleton] at hperm

end Listed

/-! ## Combinations of positions -/

/-- Combinations of ascending positions stand in lexicographic order. -/
theorem combinations_ascending {positions : List Nat} (h : positions.Pairwise (· < ·)) (k : Nat) :
    (combinations k positions).Pairwise (· < ·) := by
  induction positions generalizing k with
  | nil => cases k <;> simp [combinations]
  | cons p positions ih =>
    cases k with
    | zero => simp [combinations]
    | succ k =>
      obtain ⟨hp, h⟩ := List.pairwise_cons.mp h
      rw [combinations, List.pairwise_append, List.pairwise_map]
      refine ⟨(ih h k).imp List.cons_lt_cons_self.mpr, ih h (k + 1), ?_⟩
      -- A combination without `p` starts with a larger position than every one with it.
      intro _ hs t ht
      obtain ⟨s, -, rfl⟩ := List.mem_map.mp hs
      obtain ⟨hsub, hl⟩ := mem_combinations_iff.mp ht
      obtain ⟨q, t, rfl⟩ := List.exists_cons_of_length_eq_add_one hl
      exact List.cons_lt_cons_iff.mpr (.inl (hp q (hsub.subset List.mem_cons_self)))

theorem sublist_range_iff {n : Nat} {positions : List Nat} :
    positions.Sublist (List.range n) ↔ positions.Pairwise (· < ·) ∧ ∀ p ∈ positions, p < n := by
  constructor
  · intro h
    exact ⟨List.pairwise_lt_range.sublist h, fun p hp => List.mem_range.mp (h.subset hp)⟩
  · rintro ⟨hasc, hlt⟩
    exact List.sublist_of_subperm_of_pairwise
      (List.subperm_of_subset hasc.nodup fun p hp => List.mem_range.mpr (hlt p hp)) hasc
      List.pairwise_lt_range

/-- The combinations below `n` are the ascending tuples. -/
theorem mem_combinations_range_iff {n k : Nat} {tuple : List Nat} :
    tuple ∈ combinations k (List.range n)
      ↔ tuple.length = k ∧ tuple.Pairwise (· < ·) ∧ ∀ p ∈ tuple, p < n := by
  rw [mem_combinations_iff, sublist_range_iff, and_comm]

theorem combinations_range_eq_nil_iff {n k : Nat} :
    combinations k (List.range n) = [] ↔ n < k := by
  rw [← List.length_eq_zero_iff, length_combinations, List.length_range, Nat.choose_eq_zero_iff]

end GpuPlacement
