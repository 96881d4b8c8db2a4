import GpuPlacement.Proofs.Policy.BestEffort

/-!
# Groupings of devices

An admissible split (Proofs/Policy/Splits.lean) is about positions and has one written form. A
grouping is about the devices themselves, in any order: groups of one size and the devices left
over. Where the two ends of every pair count alike (`Mutual`), points do not depend on order, so
that every grouping has a split of the same points and the other way round. What the best-effort
policy hands out can therefore be said of groupings (Proofs/Policy/Servings.lean).
-/

set_option autoImplicit false

namespace GpuPlacement

/-- Any two devices count the same points for each other. -/
def Mutual (devices : List Device) : Prop :=
  ∀ a ∈ devices, ∀ b ∈ devices, pairPoints a b = pairPoints b a

/-- A pool dealt out to groups of `size` and a rest that is too small for one more. -/
structure IsGrouping (size : Nat) (pool : List Device) (groups : List (List Device))
    (rest : List Device) : Prop where
  covers : (groups.flatten ++ rest).Perm pool
  full : ∀ g ∈ groups, g.length = size
  left : rest.length = pool.length % size

/-- The points of all groups and of the rest. -/
def groupingPoints (groups : List (List Device)) (rest : List Device) : Nat :=
  (groups.map setPoints).sum + setPoints rest

/-- A grouping with the most points. -/
structure BestGrouping (size : Nat) (pool : List Device) (groups : List (List Device))
    (rest : List Device) : Prop extends IsGrouping size pool groups rest where
  best : ∀ groups' rest', IsGrouping size pool groups' rest' →
    groupingPoints groups' rest' ≤ groupingPoints groups rest

/-! ## Points in any order -/

theorem Mutual.subset {devices fewer : List Device} (h : Mutual devices) (hs : fewer ⊆ devices) :
    Mutual fewer := fun a ha b hb => h a (hs ha) b (hs hb)

theorem setPoints_perm {devices other : List Device} (hp : devices.Perm other)
    (h : Mutual devices) : setPoints devices = setPoints other := by
  rw [setPoints_eq_pairSum, setPoints_eq_pairSum]
  exact pairSum_perm hp h

theorem devicesAt_flatten (pool : List Device) (blocks : List (List Nat)) :
    devicesAt pool blocks.flatten = (blocks.map (devicesAt pool)).flatten := by
  induction blocks with
  | nil => rfl
  | cons b blocks ih =>
    rw [List.flatten_cons, devicesAt_append, ih, List.map_cons, List.flatten_cons]

theorem devicesAt_subset (pool : List Device) (block : List Nat) : devicesAt pool block ⊆ pool :=
  fun _ hd => mem_of_mem_devicesAt hd

/-! ## Points of parts -/

/-- Different devices of a pool have no more points than the pool. -/
theorem setPoints_le_of_subset {pool chosen : List Device} (hm : Mutual pool) (hn : chosen.Nodup)
    (hs : chosen ⊆ pool) : setPoints chosen ≤ setPoints pool := by
  rw [setPoints_eq_pairSum, setPoints_eq_pairSum]
  exact pairSum_le_of_subperm (List.subperm_of_subset hn hs) hm

theorem splitPoints_eq_pairSum (pool : List Device) (blocks : List (List Nat)) :
    splitPoints pool blocks = ((blocks.map (devicesAt pool)).map (pairSum pairPoints)).sum := by
  rw [splitPoints, List.map_map]
  exact congrArg List.sum (List.map_congr_left fun block _ => setPoints_eq_pairSum _)

/-- No split has more points than the pool itself. -/
theorem splitPoints_le {size : Nat} {pool : List Device} {blocks : List (List Nat)}
    (hm : Mutual pool) (h : Admissible pool.length size blocks) :
    splitPoints pool blocks ≤ setPoints pool := by
  have hcovers := h.covers.filterMap fun p => pool[p]?
  rw [← devicesAt, ← devicesAt, devicesAt_range, devicesAt_flatten] at hcovers
  rw [splitPoints_eq_pairSum, setPoints_eq_pairSum]
  exact (sum_pairSum_le_flatten _).trans (pairSum_le_of_subperm hcovers.subperm hm)

/-- Scores fit in any request to a pool whose points fit. -/
theorem scoresFit_of_setPoints {pool required : List Device} {size : Nat} (hm : Mutual pool)
    (h : setPoints pool ≤ Text.maxU32) : ScoresFit pool required size :=
  fun _ _ hq => (splitPoints_le hm hq.admissible).trans h

/-! ## Groupings -/

namespace IsGrouping

variable {size : Nat} {pool left rest g : List Device} {groups : List (List Device)}

theorem length_groups (hs : 0 < size) (h : IsGrouping size pool groups rest) :
    groups.length = pool.length / size := by
  have hflat : groups.flatten.length = groups.length * size := by
    rw [List.length_flatten, List.map_eq_replicate_iff.mpr h.full, List.sum_replicate,
      smul_eq_mul]
  have hlen := h.covers.length_eq
  rw [List.length_append, hflat, h.left] at hlen
  have hdiv := Nat.div_add_mod pool.length size
  have hmul : size * groups.length = size * (pool.length / size) := by
    rw [Nat.mul_comm size groups.length]
    omega
  exact Nat.eq_of_mul_eq_mul_left hs hmul

/-- A grouping without its first group is a grouping of what that group leaves. -/
theorem cons_iff (hp : (g ++ left).Perm pool) (hg : g.length = size) :
    IsGrouping size pool (g :: groups) rest ↔ IsGrouping size left groups rest := by
  have hmod : pool.length % size = left.length % size := by
    rw [← hp.length_eq, List.length_append, hg, Nat.add_mod_left]
  have hcovers : ((g :: groups).flatten ++ rest).Perm pool ↔ (groups.flatten ++ rest).Perm left := by
    rw [List.flatten_cons, List.append_assoc]
    exact ⟨fun h => (List.perm_append_left_iff g).mp (h.trans hp.symm),
      fun h => (h.append_left g).trans hp⟩
  constructor
  · intro h
    exact ⟨hcovers.mp h.covers, fun c hc => h.full c (List.mem_cons_of_mem _ hc),
      h.left.trans hmod⟩
  · intro h
    refine ⟨hcovers.mpr h.covers, fun c hc => ?_, h.left.trans hmod.symm⟩
    rcases List.mem_cons.mp hc with rfl | hc
    · exact hg
    · exact h.full c hc

end IsGrouping

theorem groupingPoints_cons (g : List Device) (groups : List (List Device)) (rest : List Device) :
    groupingPoints (g :: groups) rest = setPoints g + groupingPoints groups rest := by
  rw [groupingPoints, groupingPoints, List.map_cons, List.sum_cons, Nat.add_assoc]

/-- **Optimal substructure.** Any best way to deal out what a group of a best grouping leaves
completes that group to a best grouping. -/
theorem BestGrouping.cons {size : Nat} {pool left rest rest' g : List Device}
    {groups groups' : List (List Device)} (h : BestGrouping size pool (g :: groups) rest)
    (hp : (g ++ left).Perm pool) (h' : BestGrouping size left groups' rest') :
    BestGrouping size pool (g :: groups') rest' := by
  have hg : g.length = size := h.full g (by simp)
  refine ⟨(IsGrouping.cons_iff hp hg).mpr h'.toIsGrouping, fun others last ho => ?_⟩
  have hrest : IsGrouping size left groups rest := (IsGrouping.cons_iff hp hg).mp h.toIsGrouping
  calc groupingPoints others last
      ≤ groupingPoints (g :: groups) rest := h.best others last ho
    _ = setPoints g + groupingPoints groups rest := groupingPoints_cons _ _ _
    _ ≤ setPoints g + groupingPoints groups' rest' := Nat.add_le_add_left (h'.best _ _ hrest) _
    _ = groupingPoints (g :: groups') rest' := (groupingPoints_cons _ _ _).symm

/-! ## From splits to groupings -/

/-- At most one size is listed, so that order is no matter. -/
theorem eq_of_perm_sizes {rest : Nat} {sizes : List Nat}
    (h : sizes.Perm (if rest = 0 then [] else [rest])) :
    sizes = if rest = 0 then [] else [rest] := by
  by_cases h0 : rest = 0
  · rw [if_pos h0] at h ⊢
    exact List.perm_nil.mp h
  · rw [if_neg h0] at h ⊢
    exact List.perm_singleton.mp h

/-- A split apart from one of its full blocks: the other full ones, and the one that is left over
if there is one. -/
theorem IsSplit.exists_full_short {size rest : Nat} {positions block : List Nat}
    {blocks : List (List Nat)} (h : IsSplit size rest positions blocks) (hb : block ∈ blocks)
    (hl : block.length = size) :
    ∃ full short : List (List Nat), (block :: (full ++ short)).Perm blocks ∧
      (∀ b ∈ full, b.length = size) ∧
      short.map List.length = if rest = 0 then [] else [rest] := by
  have hperm : blocks.Perm (block :: blocks.erase block) := List.perm_cons_erase hb
  refine ⟨(blocks.erase block).filter (fun b => b.length = size),
    (blocks.erase block).filter (fun b => !decide (b.length = size)), ?_, ?_, ?_⟩
  · exact ((List.filter_append_perm _ _).cons block).trans hperm.symm
  · intro b hb
    simpa using (List.mem_filter.mp hb).2
  · have hsizes := (hperm.map List.length).filter (· ≠ size)
    have hblock : ¬ decide (block.length ≠ size) = true := by simpa using hl
    rw [h.sizes, List.map_cons, List.filter_cons, if_neg hblock, List.filter_map] at hsizes
    have hsame : (blocks.erase block).filter ((fun l => decide (l ≠ size)) ∘ List.length)
        = (blocks.erase block).filter (fun b => !decide (b.length = size)) :=
      List.filter_congr fun b _ => by simp
    rw [hsame] at hsizes
    exact eq_of_perm_sizes hsizes.symm

/-- A split is a grouping; any of its full blocks can stand first. The groups are its full blocks. -/
theorem Admissible.exists_grouping {size : Nat} {pool : List Device} {blocks : List (List Nat)}
    (h : Admissible pool.length size blocks) {block : List Nat} (hb : block ∈ blocks)
    (hl : block.length = size) :
    ∃ groups rest, IsGrouping size pool (devicesAt pool block :: groups) rest ∧
      groupingPoints (devicesAt pool block :: groups) rest = splitPoints pool blocks ∧
      ∀ g ∈ devicesAt pool block :: groups, ∃ b ∈ blocks, b.length = size ∧ devicesAt pool b = g := by
  obtain ⟨full, short, hperm, hfull, hshort⟩ := IsSplit.exists_full_short h hb hl
  have hpos : ∀ b ∈ blocks, ∀ p ∈ b, p < pool.length := fun b hm p hp =>
    List.mem_range.mp (IsSplit.mem_positions h hm hp)
  have hgroups : ∀ g ∈ devicesAt pool block :: full.map (devicesAt pool),
      ∃ b ∈ blocks, b.length = size ∧ devicesAt pool b = g := by
    intro g hg
    rw [← List.map_cons (f := devicesAt pool)] at hg
    obtain ⟨b, hm, rfl⟩ := List.mem_map.mp hg
    refine ⟨b, hperm.subset (List.cons_subset_cons block (List.subset_append_left full short) hm),
      ?_, rfl⟩
    rcases List.mem_cons.mp hm with rfl | hm
    · exact hl
    · exact hfull b hm
  -- There is at most one short block, so nothing is lost in joining them.
  obtain ⟨hrest, hpoints⟩ : (devicesAt pool short.flatten).length = pool.length % size ∧
      setPoints (devicesAt pool short.flatten)
        = (short.map fun b => setPoints (devicesAt pool b)).sum := by
    cases short with
    | nil =>
      by_cases h0 : pool.length % size = 0
      · exact ⟨h0.symm, rfl⟩
      · rw [if_neg h0] at hshort
        exact absurd hshort (by simp)
    | cons b short =>
      by_cases h0 : pool.length % size = 0
      · rw [if_pos h0] at hshort
        exact absurd hshort (by simp)
      · rw [if_neg h0, List.map_cons, List.cons.injEq, List.map_eq_nil_iff] at hshort
        obtain ⟨hb, rfl⟩ := hshort
        rw [List.flatten_cons, List.flatten_nil, List.append_nil]
        exact ⟨(length_devicesAt (hpos b (hperm.subset (by simp)))).trans hb, by simp⟩
  refine ⟨full.map (devicesAt pool), devicesAt pool short.flatten, ⟨?_, ?_, hrest⟩, ?_, hgroups⟩
  · rw [List.flatten_cons, ← devicesAt_flatten, List.append_assoc, ← devicesAt_append,
      ← devicesAt_append, ← List.flatten_append, ← List.flatten_cons]
    have hcovers := (hperm.flatten.trans h.covers).filterMap fun p => pool[p]?
    rwa [← devicesAt, ← devicesAt, devicesAt_range] at hcovers
  · intro g hg
    obtain ⟨b, hm, hlen, rfl⟩ := hgroups g hg
    rw [← hlen]
    exact length_devicesAt (hpos b hm)
  · rw [groupingPoints_cons, groupingPoints, hpoints, splitPoints, ← (hperm.map _).sum_eq,
      List.map_cons, List.sum_cons, List.map_append, List.sum_append, List.map_map]
    rfl

/-! ## From groupings to splits -/

/-- Blocks in the written form of a split: each ascending, and in order of their first positions. -/
def arranged (blocks : List (List Nat)) : List (List Nat) :=
  (blocks.map fun b => b.mergeSort).mergeSort fun b c => b.headD 0 ≤ c.headD 0

theorem arranged_perm (blocks : List (List Nat)) :
    (arranged blocks).Perm (blocks.map fun b => b.mergeSort) := List.mergeSort_perm _ _

theorem flatten_map_mergeSort_perm (blocks : List (List Nat)) :
    (blocks.map fun b => b.mergeSort).flatten.Perm blocks.flatten := by
  induction blocks with
  | nil => exact .refl _
  | cons b blocks ih =>
    rw [List.map_cons, List.flatten_cons, List.flatten_cons]
    exact (List.mergeSort_perm b _).append ih

/-- Disjoint blocks that cover the positions are a split once they are arranged. -/
theorem isSplit_arranged {size rest : Nat} {positions : List Nat} {blocks : List (List Nat)}
    (hn : positions.Nodup) (hcovers : blocks.flatten.Perm positions) (hne : ∀ b ∈ blocks, b ≠ [])
    (hsizes : (blocks.map List.length).filter (· ≠ size) = if rest = 0 then [] else [rest]) :
    IsSplit size rest positions (arranged blocks) := by
  have hflat : (arranged blocks).flatten.Perm positions :=
    ((arranged_perm blocks).flatten.trans (flatten_map_mergeSort_perm blocks)).trans hcovers
  obtain ⟨hnodup, hdisjoint⟩ := List.nodup_flatten.mp (hflat.nodup_iff.mpr hn)
  have hsorted : ∀ b ∈ arranged blocks, b ≠ [] := by
    intro b hb
    obtain ⟨c, hc, rfl⟩ := List.mem_map.mp ((arranged_perm blocks).mem_iff.mp hb)
    rw [← List.length_pos_iff, List.length_mergeSort]
    exact List.length_pos_iff.mpr (hne c hc)
  refine ⟨hflat, fun b hb => ?_, ?_, ?_⟩
  · obtain ⟨c, -, rfl⟩ := List.mem_map.mp ((arranged_perm blocks).mem_iff.mp hb)
    have hle : c.mergeSort.Pairwise (· ≤ ·) := List.pairwise_mergeSort' _ c
    exact (hle.and (hnodup _ hb)).imp fun h => Nat.lt_of_le_of_ne h.1 h.2
  · -- Sorted by their first positions, and those differ because the blocks are disjoint.
    have hheads : (arranged blocks).Pairwise fun b c => decide (b.headD 0 ≤ c.headD 0) = true :=
      List.pairwise_mergeSort
        (fun a b c hab hbc => by simp only [decide_eq_true_eq] at *; omega)
        (fun a b => by simp only [Bool.or_eq_true, decide_eq_true_eq]; omega) _
    refine (hheads.and hdisjoint).imp_of_mem fun {b c} hb hc h => ?_
    obtain ⟨p, b', rfl⟩ := List.exists_cons_of_ne_nil (hsorted b hb)
    obtain ⟨q, c', rfl⟩ := List.exists_cons_of_ne_nil (hsorted c hc)
    have hle : p ≤ q := of_decide_eq_true h.1
    have hneq : p ≠ q := by
      rintro rfl
      exact h.2 (List.mem_cons_self) (List.mem_cons_self)
    exact Option.some_lt_some.mpr (Nat.lt_of_le_of_ne hle hneq)
  · have hlengths : ((arranged blocks).map List.length).Perm (blocks.map List.length) := by
      have h := (arranged_perm blocks).map List.length
      rw [List.map_map] at h
      simpa only [Function.comp_def, List.length_mergeSort] using h
    have hperm := hlengths.filter (· ≠ size)
    rw [hsizes] at hperm
    exact eq_of_perm_sizes hperm

/-! ## The positions of devices -/

theorem map_idxOf_self {pool : List Device} (hn : pool.Nodup) :
    pool.map (pool.idxOf ·) = List.range pool.length := by
  refine List.ext_getElem (by simp) fun i h _ => ?_
  rw [List.getElem_map, List.getElem_range]
  exact hn.idxOf_getElem i (by simpa using h)

theorem devicesAt_map_idxOf {pool g : List Device} (hg : g ⊆ pool) :
    devicesAt pool (g.map (pool.idxOf ·)) = g := by
  induction g with
  | nil => rfl
  | cons d g ih =>
    have hd : d ∈ pool := hg (by simp)
    have hpos : pool[pool.idxOf d]? = some d := by
      rw [List.getElem?_eq_getElem (List.idxOf_lt_length_of_mem hd), List.getElem_idxOf]
    rw [List.map_cons, devicesAt_cons_some hpos, ih fun e he => hg (List.mem_cons_of_mem _ he)]

/-- The points of a split do not change when its blocks are arranged. -/
theorem splitPoints_arranged {pool : List Device} (hm : Mutual pool) (blocks : List (List Nat)) :
    splitPoints pool (arranged blocks) = splitPoints pool blocks := by
  rw [splitPoints, ((arranged_perm blocks).map _).sum_eq, List.map_map, splitPoints]
  refine congrArg List.sum (List.map_congr_left fun b _ => ?_)
  exact setPoints_perm ((List.mergeSort_perm b _).filterMap _) (hm.subset (devicesAt_subset _ _))

/-- The rest of a grouping as at most one more group. -/
theorem exists_short (rest : List Device) :
    ∃ short : List (List Device), short.flatten = rest ∧ (∀ g ∈ short, g ≠ []) ∧
      (short.map List.length = if rest.length = 0 then [] else [rest.length]) ∧
      (short.map setPoints).sum = setPoints rest := by
  cases rest with
  | nil => exact ⟨[], rfl, by simp, rfl, rfl⟩
  | cons d rest => exact ⟨[d :: rest], by simp, by simp, rfl, by simp⟩

/-- A grouping is a split. Its groups are among the blocks, each in some order. -/
theorem IsGrouping.exists_split {size : Nat} {pool rest : List Device}
    {groups : List (List Device)} (h : IsGrouping size pool groups rest) (hs : 0 < size)
    (hn : pool.Nodup) (hm : Mutual pool) :
    ∃ blocks, Admissible pool.length size blocks ∧
      splitPoints pool blocks = groupingPoints groups rest ∧
      ∀ g ∈ groups, ∃ b ∈ blocks, (devicesAt pool b).Perm g := by
  obtain ⟨short, hflat, hne, hlength, hpoints⟩ := exists_short rest
  have hperm : (groups ++ short).flatten.Perm pool := by
    rw [List.flatten_append, hflat]
    exact h.covers
  have hat : ∀ g ∈ groups ++ short, devicesAt pool (g.map (pool.idxOf ·)) = g := by
    intro g hg
    exact devicesAt_map_idxOf fun d hd => hperm.subset (List.mem_flatten.mpr ⟨g, hg, hd⟩)
  refine ⟨arranged ((groups ++ short).map fun g => g.map (pool.idxOf ·)), ?_, ?_, ?_⟩
  · refine isSplit_arranged List.nodup_range ?_ ?_ ?_
    · rw [← List.map_flatten, ← map_idxOf_self hn]
      exact hperm.map _
    · intro b hb
      obtain ⟨g, hg, rfl⟩ := List.mem_map.mp hb
      rw [ne_eq, List.map_eq_nil_iff]
      rcases List.mem_append.mp hg with hg | hg
      · exact List.length_pos_iff.mp (by rw [h.full g hg]; exact hs)
      · exact hne g hg
    · have hfull : (groups.map List.length).filter (· ≠ size) = [] := by
        rw [List.filter_eq_nil_iff]
        intro l hl
        obtain ⟨g, hg, rfl⟩ := List.mem_map.mp hl
        simpa using h.full g hg
      have hlt := Nat.mod_lt pool.length hs
      rw [List.map_map, Function.comp_def]
      simp only [List.length_map]
      rw [List.map_append, List.filter_append, hfull, List.nil_append, hlength, h.left]
      split
      · rfl
      · exact List.filter_eq_self.mpr fun l hl => by
          rw [List.mem_singleton.mp hl]
          exact decide_eq_true (Nat.ne_of_lt hlt)
  · rw [splitPoints_arranged hm, splitPoints, List.map_map, groupingPoints, ← hpoints,
      ← List.sum_append, ← List.map_append]
    refine congrArg List.sum (List.map_congr_left fun g hg => ?_)
    rw [Function.comp_apply, hat g hg]
  · intro g hg
    have hg' : g ∈ groups ++ short := List.mem_append_left _ hg
    refine ⟨(g.map (pool.idxOf ·)).mergeSort, ?_, ?_⟩
    · exact (arranged_perm _).mem_iff.mpr (List.mem_map_of_mem (List.mem_map_of_mem hg'))
    · have hsort := (List.mergeSort_perm (g.map (pool.idxOf ·)) (· ≤ ·)).filterMap fun p => pool[p]?
      rwa [← devicesAt, ← devicesAt, hat g hg'] at hsort

end GpuPlacement
