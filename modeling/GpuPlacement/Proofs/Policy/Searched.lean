import GpuPlacement.Proofs.Policy.Visits

/-!
# The policy as a search

`Search.bestEffort` (Policy/Search.lean) keeps the best partition while the partitions are visited;
`bestEffort` (Policy/BestEffort.lean) lists the partitions that qualify and takes the best of them.
The two give the same for every request (`Search.bestEffort_eq`): the same devices, or the same
fault of a score. The search works on slots and the listing on positions, so what is shown of each
part is that it does not matter whether the slots are looked up before or after.
-/

set_option autoImplicit false

namespace GpuPlacement

/-! ## Pairs -/

/-- The score of the pair that two positions are. -/
def ScoreTable.addPair (table : ScoreTable) (total : Nat) : List Nat → Except Fault Nat
  | [p, q] => do addScores total (← table.pair p q)
  | _ => .ok total

theorem combinations_one {α : Type} (xs : List α) : combinations 1 xs = xs.map ([·]) := by
  induction xs with
  | nil => rfl
  | cons x xs ih =>
    rw [combinations, ih, combinations]
    rfl

/-- The pairs of a set are its combinations of two. -/
theorem ScoreTable.addPairs_eq (table : ScoreTable) (set : List Nat) (total : Nat) :
    table.addPairs total set = (combinations 2 set).foldlM table.addPair total := by
  induction set generalizing total with
  | nil => rfl
  | cons p set ih =>
    rw [combinations, combinations_one, List.map_map, List.foldlM_append, List.foldlM_map,
      ScoreTable.addPairs]
    exact bind_congr ih

theorem better_map {α β : Type} (f : α → β) (best : Option (α × Nat)) (a : α) (score : Nat) :
    better (best.map (Prod.map f id)) (f a) score
      = (better best a score).map (Prod.map f id) := by
  cases best with
  | none => rfl
  | some b =>
    simp only [better, Option.map_some, Prod.map_snd, id]
    split <;> rfl

namespace Search

variable {α β σ : Type}

/-! ## What ends in any case -/

theorem ofExcept_bind (x : Except Fault α) (f : α → Except Fault β) :
    ofExcept (x >>= f) = ofExcept x >>= fun a => ofExcept (f a) := by
  cases x with
  | error fault => exact (Part.bind_some _ _).symm
  | ok a => exact (pure_bind a fun a => ofExcept (f a)).symm

theorem ofExcept_foldlM (f : σ → α → Except Fault σ) (l : List α) (s : σ) :
    ofExcept (l.foldlM f s) = l.foldlM (fun s a => ofExcept (f s a)) s := by
  induction l generalizing s with
  | nil => rfl
  | cons a l ih =>
    rw [List.foldlM_cons, List.foldlM_cons, ofExcept_bind]
    exact bind_congr ih

/-! ## Scores of slots -/

section Scores

variable {devices : List Device}

theorem setScore_map (group : List Nat) : setScore (group.map (devices[·]?))
    = ofExcept ((ScoreTable.ofDevices devices).ofSet group) := by
  rw [setScore, forEachCombination_eq (by decide), List.length_map, ScoreTable.ofSet,
    ScoreTable.addPairs_eq, ofExcept_foldlM]
  refine foldlM_combinations_range (fun chosen hchosen s => ?_) 0
  obtain ⟨hsub, hl⟩ := mem_combinations_iff.mp hchosen
  obtain ⟨⟨p, i⟩, ⟨q, j⟩, rfl⟩ := List.length_eq_two.mp hl
  obtain ⟨hpi, hqj⟩ := List.cons_subset.mp hsub.subset
  have hp : entry (group.map (devices[·]?)) i = pure devices[p]? :=
    entry_of_mem_zipIdx hpi
  have hq : entry (group.map (devices[·]?)) j = pure devices[q]? :=
    entry_of_mem_zipIdx (List.cons_subset.mp hqj).1
  have hfirst : entry [i, j] 0 = pure i := rfl
  have hsecond : entry [i, j] 1 = pure j := rfl
  simp only [List.map_cons, List.map_nil, hfirst, hsecond, pure_bind, hp, hq, ScoreTable.addPair,
    ScoreTable.pair_ofDevices]

theorem partitionScore_map (split : List (List Nat)) :
    partitionScore (split.map (List.map (devices[·]?)))
      = ofExcept ((ScoreTable.ofDevices devices).ofPartition split) := by
  rw [partitionScore, List.foldlM_map, ScoreTable.ofPartition, ofExcept_foldlM]
  simp only [setScore_map, ofExcept_bind]

theorem holdsAll_map (required : List Device) (group : List Nat) :
    holdsAll required (group.map (devices[·]?))
      = holdsRequired devices.toArray required group := by
  have hfull : (countPadding (group.map (devices[·]?)) == 0)
      = group.all fun p => decide (p < devices.toArray.size) := by
    rw [Bool.eq_iff_iff, beq_iff_eq, countPadding, List.length_eq_zero_iff, List.filter_eq_nil_iff,
      List.forall_mem_map, List.all_eq_true]
    simp
  rw [holdsAll, holdsRequired, hfull]
  simp only [List.any_map, Function.comp_def, List.getElem?_toArray]

end Scores

/-! ## The best of all -/

/-- Keeping the best of what items are turned into is turning the best of them into it. -/
theorem foldlM_better_map {score : α → Except Fault Nat} {score' : β → Search Nat} (f : α → β)
    (h : ∀ a, score' (f a) = ofExcept (score a)) (items : List α) (best : Option (α × Nat)) :
    (items.map f).foldlM (fun best b => do return better best b (← score' b))
        (best.map (Prod.map f id))
      = Option.map (Prod.map f id) <$> ofExcept
          (items.foldlM (fun best a => do return better best a (← score a)) best) := by
  induction items generalizing best with
  | nil => exact (map_pure _ _).symm
  | cons a items ih =>
    rw [List.map_cons, List.foldlM_cons, List.foldlM_cons, h, ofExcept_bind, ofExcept_bind, map_bind,
      bind_assoc, bind_assoc]
    refine bind_congr fun points => ?_
    rw [pure_bind, better_map, ih]
    exact (pure_bind _ _).symm

/-- The best of the partitions that are visited is the best of those that qualify. -/
theorem forEachPartition_better (available required : List Device) (size : Nat) :
    forEachPartition available size (fun best partition => do
        if partition.any (holdsAll required) then
          return better best partition (← partitionScore partition)
        else return best) none
      = Option.map (Prod.map (List.map (List.map (available[·]?))) id) <$> ofExcept
          (((partitions available.length size).filter fun split =>
              split.any (holdsRequired available.toArray required)).foldlM
            (fun best split => do
              return better best split (← (ScoreTable.ofDevices available).ofPartition split))
            none) := by
  rw [forEachPartition_eq, List.foldlM_map, ← foldlM_better_map _ partitionScore_map,
    List.foldlM_map, List.foldlM_filter]
  simp only [List.any_map, Function.comp_def, holdsAll_map]
  rfl

/-- The best set of a partition is its best group that can be handed out. -/
theorem foldlM_setScore_better (available required : List Device) (split : List (List Nat)) :
    ((split.map (List.map (available[·]?))).filter (holdsAll required)).foldlM
        (fun best set => do return better best set (← setScore set)) none
      = Option.map (Prod.map (List.map (available[·]?)) id) <$> ofExcept
          ((split.filter (holdsRequired available.toArray required)).foldlM
            (fun best group => do
              return better best group (← (ScoreTable.ofDevices available).ofSet group)) none) := by
  rw [← foldlM_better_map _ setScore_map, List.filter_map]
  simp only [Function.comp_def, holdsAll_map]
  rfl

/-- **The policy as a search.** It ends, and it gives what the listing gives: the same devices, or
the same fault of a score. -/
theorem bestEffort_eq (available required : List Device) (size : Nat) :
    bestEffort available required size
      = ofExcept (GpuPlacement.bestEffort available required size) := by
  rw [bestEffort, GpuPlacement.bestEffort]
  by_cases hsat : isUnsatisfiable available.length required.length size = true
  · rw [if_pos hsat, if_pos hsat]
    rfl
  rw [if_neg hsat, if_neg hsat, forEachPartition_better]
  simp only [firstBest, bind_map_left, bind_assoc, pure_bind]
  rw [ofExcept_bind]
  refine bind_congr fun best => ?_
  cases best with
  | none => rfl
  | some bestSplit =>
    obtain ⟨split, points⟩ := bestSplit
    simp only [Option.map_some, Prod.map_apply, foldlM_setScore_better, bind_map_left]
    rw [ofExcept_bind]
    refine bind_congr fun best => ?_
    cases best with
    | none => rfl
    | some bestGroup =>
      simp only [Option.map_some, Prod.map_fst, List.filterMap_map]
      rfl

end Search
end GpuPlacement
