import GpuPlacement.Proofs.Policy.Groupings

/-!
# Which requests are served

The search only looks at splits, and of those only at the ones with a block that holds all required
devices. That loses no request: wherever the required devices stand in the pool, their positions can
be filled up to a block (`exists_block`), and every block belongs to a split, since what it leaves
can be split as well (`exists_isSplit_with`). So a request gets nothing only for its numbers, or
because a required device is not available (`bestEffort_ne_nil_iff`).
-/

set_option autoImplicit false

namespace GpuPlacement

/-! ## Splits that there are -/

/-- Ascending positions can be split into blocks of any size. -/
theorem exists_isSplit {size : Nat} (hs : 0 < size) {positions : List Nat}
    (hasc : positions.Pairwise (· < ·)) :
    ∃ blocks, IsSplit size (positions.length % size) positions blocks := by
  -- By the number of positions: a first block takes `size` of them, as long as there are so many.
  induction hn : positions.length using Nat.strongRecOn generalizing positions with
  | _ n ih =>
    subst hn
    have hr := Nat.mod_lt positions.length hs
    cases positions with
    | nil => exact ⟨[], (isSplit_nil_iff hs).mpr ⟨rfl, Nat.zero_mod size⟩⟩
    | cons first positions =>
      rcases Nat.lt_or_ge (first :: positions).length size with hlt | hle
      · refine ⟨[first :: positions], Pool.isSplit_singleton hr hasc ?_⟩
        rw [Nat.mod_eq_of_lt hlt]
        rfl
      · have hasc' := (List.pairwise_cons.mp hasc).2
        rw [List.length_cons] at hle
        obtain ⟨chosen, hsub, hl⟩ : ∃ chosen, chosen.Sublist positions ∧ chosen.length = size - 1 :=
          ⟨positions.take (size - 1), List.take_sublist _ _, by rw [List.length_take]; omega⟩
        have hleft := length_filter_notMem (hasc'.imp Nat.ne_of_lt) hsub
        have hlength : (first :: positions).length
            = (positions.filter (· ∉ chosen)).length + size := by
          rw [List.length_cons]
          omega
        obtain ⟨blocks, h⟩ := ih (positions.filter (· ∉ chosen)).length (by omega)
          (hasc'.sublist List.filter_sublist) rfl
        refine ⟨(first :: chosen) :: blocks,
          (isSplit_cons_iff hr hasc).mpr ⟨chosen, _, hsub, rfl, .full ?_, ?_⟩⟩
        · rw [List.length_cons]
          omega
        · rwa [hlength, Nat.add_mod_right]

/-- Every full block belongs to a split. -/
theorem exists_isSplit_with {size : Nat} (hs : 0 < size) {positions block : List Nat}
    (hasc : positions.Pairwise (· < ·)) (hsub : block.Sublist positions)
    (hl : block.length = size) :
    ∃ blocks, IsSplit size (positions.length % size) positions blocks ∧ block ∈ blocks := by
  have hn : positions.Nodup := hasc.imp Nat.ne_of_lt
  obtain ⟨blocks, h⟩ := exists_isSplit hs (hasc.sublist (List.filter_sublist (p := (· ∉ block))))
  have hrest : (positions.filter (· ∉ block)).length % size = positions.length % size := by
    rw [← length_filter_notMem hn hsub, hl, Nat.add_mod_left]
  rw [hrest] at h
  refine ⟨arranged (block :: blocks), isSplit_arranged hn ?_ ?_ ?_, ?_⟩
  · rw [List.flatten_cons]
    exact (h.covers.append_left block).trans (append_filter_notMem_perm hn hsub)
  · intro b hb
    apply List.length_pos_iff.mp
    rcases List.mem_cons.mp hb with rfl | hb
    · rw [hl]
      exact hs
    · exact h.length_pos hs hb
  · rw [List.map_cons, List.filter_cons, if_neg (by simpa using hl)]
    exact h.sizes
  · -- The block ascends already, so that arranging does not change it.
    have hsorted : block.mergeSort = block :=
      List.mergeSort_of_pairwise ((hasc.sublist hsub).imp fun h => decide_eq_true (Nat.le_of_lt h))
    rw [(arranged_perm _).mem_iff, List.map_cons, hsorted]
    exact List.mem_cons_self

/-- Positions can be filled up to a block that holds them all. -/
theorem exists_block {size : Nat} {positions wanted : List Nat}
    (hasc : positions.Pairwise (· < ·)) (hsub : wanted ⊆ positions) (hl : wanted.length ≤ size)
    (hle : size ≤ positions.length) :
    ∃ block, block.Sublist positions ∧ wanted ⊆ block ∧ block.length = size := by
  have hn : positions.Nodup := hasc.imp Nat.ne_of_lt
  obtain ⟨chosen, hwanted, hchosen, hcard⟩ := Finset.exists_subsuperset_card_eq
    (s := wanted.toFinset) (t := positions.toFinset) (n := size)
    (fun p hp => List.mem_toFinset.mpr (hsub (List.mem_toFinset.mp hp)))
    ((List.toFinset_card_le wanted).trans hl) (by rwa [List.toFinset_card_of_nodup hn])
  have hblock : (positions.filter (· ∈ chosen)).toFinset = chosen := by
    ext p
    simpa using fun hp => List.mem_toFinset.mp (hchosen hp)
  refine ⟨positions.filter (· ∈ chosen), List.filter_sublist, fun p hp => ?_, ?_⟩
  · exact List.mem_filter.mpr
      ⟨hsub hp, decide_eq_true (hwanted (List.mem_toFinset.mpr hp))⟩
  · rw [← List.toFinset_card_of_nodup (hn.filter _), hblock, hcard]

/-! ## The policy -/

variable {available required : List Device} {size : Nat}

/-- A request that its numbers allow has a split that serves it, if all required devices are
available. -/
theorem exists_qualifying (hs : 0 < size) (hle : size ≤ available.length)
    (hreq : required.length ≤ size)
    (hav : ∀ d ∈ required, ∃ e ∈ available, e.index = d.index) :
    ∃ blocks, Qualifying available required size blocks := by
  have hmem : ∀ d ∈ required, d.index ∈ available.map Device.index := by
    intro d hd
    obtain ⟨e, he, hi⟩ := hav d hd
    exact List.mem_map.mpr ⟨e, he, hi⟩
  -- A required device stands at the first position with its index.
  have hlt : ∀ d ∈ required, (available.map Device.index).idxOf d.index < available.length := by
    intro d hd
    have h := List.idxOf_lt_length_of_mem (hmem d hd)
    rwa [List.length_map] at h
  have hsub : (required.map fun d => (available.map Device.index).idxOf d.index)
      ⊆ List.range available.length := by
    intro p hp
    obtain ⟨d, hd, rfl⟩ := List.mem_map.mp hp
    exact List.mem_range.mpr (hlt d hd)
  obtain ⟨block, hblock, hholds, hl⟩ := exists_block List.pairwise_lt_range hsub
    ((List.length_map _).trans_le hreq) (hle.trans_eq List.length_range.symm)
  obtain ⟨blocks, hsplit, hb⟩ := exists_isSplit_with hs List.pairwise_lt_range hblock hl
  rw [List.length_range] at hsplit
  refine ⟨blocks, hsplit, block, hb, hl, fun d hd => ?_⟩
  refine ⟨available.get ⟨_, hlt d hd⟩,
    List.mem_filterMap.mpr ⟨_, hholds (List.mem_map_of_mem hd), List.getElem?_eq_getElem _⟩, ?_⟩
  have h := List.getElem_idxOf (List.idxOf_lt_length_of_mem (hmem d hd))
  rw [List.getElem_map] at h
  exact h

/-- What a request needs that gets devices, and that this is enough. -/
theorem bestEffort_ne_nil_iff {chosen : List Device} (hlinks : TwoSided available)
    (hfit : ScoresFit available required size) (he : bestEffort available required size = .ok chosen) :
    chosen ≠ [] ↔ 1 ≤ size ∧ size ≤ available.length ∧ required.length ≤ size ∧
      ∀ d ∈ required, ∃ e ∈ available, e.index = d.index := by
  cases hsat : isUnsatisfiable available.length required.length size with
  | true =>
    obtain rfl : [] = chosen := Except.ok.inj ((bestEffort_of_isUnsatisfiable hsat).symm.trans he)
    refine iff_of_false (by simp) fun h => ?_
    rw [isUnsatisfiable_eq_false_iff.mpr ⟨h.1, h.2.1, h.2.2.1⟩] at hsat
    exact Bool.false_ne_true hsat
  | false =>
    obtain ⟨hs, hle, hreq⟩ := isUnsatisfiable_eq_false_iff.mp hsat
    constructor
    · intro hne
      obtain ⟨-, hsub, hholds⟩ := (bestEffort_gives he).resolve_left hne
      refine ⟨hs, hle, hreq, fun d hd => ?_⟩
      obtain ⟨e, hm, hi⟩ := hholds d hd
      exact ⟨e, hsub.subset hm, hi⟩
    · intro h hempty
      obtain ⟨blocks, hq⟩ := exists_qualifying hs hle hreq h.2.2.2
      obtain ⟨c, hc, ⟨hno, -⟩ | ⟨best, block, hbest, hblock, rfl⟩⟩ :=
        bestEffort_answers hlinks hs hle hreq hfit
      · exact hno blocks hq
      · obtain rfl := Except.ok.inj (he.symm.trans hc)
        obtain ⟨hl, -⟩ := hblock.devices hs hbest.admissible
        rw [hempty] at hl
        exact absurd hl (Nat.ne_of_lt hs)

/-- **The search misses no request.** A request gets devices exactly if it asks for one or more, for
no more than there are, names no more than it asks for, and names available ones only. -/
theorem bestEffort_serves (hlinks : TwoSided available) (hfit : ScoresFit available required size) :
    ∃ chosen, bestEffort available required size = .ok chosen ∧
      (chosen ≠ [] ↔ 1 ≤ size ∧ size ≤ available.length ∧ required.length ≤ size ∧
        ∀ d ∈ required, ∃ e ∈ available, e.index = d.index) := by
  obtain ⟨chosen, he⟩ := bestEffort_ok hlinks hfit
  exact ⟨chosen, he, bestEffort_ne_nil_iff hlinks hfit he⟩

/-- The last device, named twice, of a pool that is no multiple of the size. -/
theorem bestEffort_serves_lastOfOddPool :
    ∃ chosen, bestEffort oddPool (List.replicate 2 oddPool[4]) 2 = .ok chosen ∧
      (chosen ≠ [] ↔ 1 ≤ 2 ∧ 2 ≤ oddPool.length ∧ (List.replicate 2 oddPool[4]).length ≤ 2 ∧
        ∀ d ∈ List.replicate 2 oddPool[4], ∃ e ∈ oddPool, e.index = d.index) :=
  bestEffort_serves (by unfold TwoSided; decide)
    (scoresFit_of_partitions (by decide) (by decide) (by decide))

end GpuPlacement
