import GpuPlacement.Proofs.Policy.Combinations
import GpuPlacement.Proofs.Policy.Enumeration
import GpuPlacement.Proofs.Policy.FirstBest
import GpuPlacement.Proofs.Policy.Points
import GpuPlacement.Device.List

/-!
# The best-effort policy and its brute-force reading

What `bestEffort` (Policy/BestEffort.lean) should answer can be said over *all* splits of the
pool, with no word on how they are searched:

> take the qualifying split with the most points, the lexicographically first among equals; hand
> out its block with the most points, the first among equals.

`bestEffort_bruteForce` says that this is what it answers. The search for groups of one is not the
general one (each device stands for a split), so the two are proved apart, each from the
enumeration (Proofs/Policy/Enumeration.lean) and the first maximum (Proofs/Policy/FirstBest.lean).
-/

set_option autoImplicit false

namespace GpuPlacement

/-! ## The request, over all splits -/

/-- A block can be handed out: it is full and holds every required device. -/
def Suits (available required : List Device) (size : Nat) (block : List Nat) : Prop :=
  block.length = size ∧ ∀ d ∈ required, ∃ member ∈ devicesAt available block, member.index = d.index

/-- A split of the pool with a block that can be handed out. -/
structure Qualifying (available required : List Device) (size : Nat)
    (blocks : List (List Nat)) : Prop where
  admissible : Admissible available.length size blocks
  suits : ∃ block ∈ blocks, Suits available required size block

/-- A qualifying split that no other one exceeds: not in points, and among equals in points it
comes first when its blocks are filled up and compared. -/
structure BestSplit (available required : List Device) (size : Nat)
    (blocks : List (List Nat)) : Prop extends Qualifying available required size blocks where
  best : ∀ other, Qualifying available required size other →
    splitPoints available other < splitPoints available blocks ∨
      (splitPoints available other = splitPoints available blocks ∧
        (other = blocks ∨ blocks.map (completed available.length size)
          < other.map (completed available.length size)))

/-- The block of a split to hand out: the one with the most points, the first among equals. -/
def BestBlock (available required : List Device) (size : Nat) (blocks : List (List Nat))
    (block : List Nat) : Prop :=
  FirstMax (Suits available required size) (fun b => setPoints (devicesAt available b)) blocks block

/-- The answer to a request: nothing if no split qualifies, else the best block of the best
split. -/
def BruteForce (available required : List Device) (size : Nat) (chosen : List Device) : Prop :=
  ((∀ blocks, ¬ Qualifying available required size blocks) ∧ chosen = []) ∨
    ∃ blocks block, BestSplit available required size blocks ∧
      BestBlock available required size blocks block ∧ chosen = devicesAt available block

/-- The points of every split that the search compares are 32-bit numbers. A request that is
refused by its numbers compares none. -/
def ScoresFit (available required : List Device) (size : Nat) : Prop :=
  isUnsatisfiable available.length required.length size = false →
    ∀ blocks, Qualifying available required size blocks →
      splitPoints available blocks ≤ Text.maxU32

/-! ## The test of a group -/

theorem holdsRequired_iff {available required : List Device} {group : List Nat} :
    holdsRequired available.toArray required group = true ↔
      (∀ p ∈ group, p < available.length) ∧
        ∀ d ∈ required, ∃ member ∈ devicesAt available group, member.index = d.index := by
  have hany : ∀ d : Device, (group.any fun p =>
      available.toArray[p]?.any fun member => member.same d) = true ↔
        ∃ member ∈ devicesAt available group, member.index = d.index := by
    intro d
    rw [List.any_eq_true]
    constructor
    · intro h
      obtain ⟨p, hp, hm⟩ := h
      rw [List.getElem?_toArray, Option.any_eq_true] at hm
      obtain ⟨member, ha, hm⟩ := hm
      exact ⟨member, List.mem_filterMap.mpr ⟨p, hp, ha⟩, by simpa [Device.same] using hm⟩
    · intro h
      obtain ⟨member, hm, hi⟩ := h
      obtain ⟨p, hp, ha⟩ := List.mem_filterMap.mp hm
      refine ⟨p, hp, ?_⟩
      rw [List.getElem?_toArray, Option.any_eq_true]
      exact ⟨member, ha, by simpa [Device.same] using hi⟩
  rw [holdsRequired, Bool.and_eq_true, List.all_eq_true, List.all_eq_true]
  simp only [hany, decide_eq_true_eq, List.size_toArray]

/-- A block of a split passes the test, once it is filled up, if it can be handed out. -/
theorem holdsRequired_completed_iff {available required : List Device} {size : Nat}
    {block : List Nat} (hl : block.length ≤ size) (hp : ∀ p ∈ block, p < available.length) :
    holdsRequired available.toArray required (completed available.length size block) = true ↔
      Suits available required size block := by
  rw [holdsRequired_iff]
  by_cases he : block.length = size
  · rw [completed_of_length he]
    exact ⟨fun h => ⟨he, h.2⟩, fun h => ⟨hp, h.2⟩⟩
  · constructor
    · intro h
      have hm : available.length ∈ completed available.length size block := by
        rw [completed, List.mem_append, List.mem_range'_1]
        omega
      exact absurd (h.1 _ hm) (Nat.lt_irrefl _)
    · exact fun h => absurd h.1 he

/-! ## The two searches -/

section Search

variable {available required : List Device} {size : Nat}

/-- The splits that the search compares: those with a group that passes the test. -/
def candidates (available required : List Device) (size : Nat) : List (List (List Nat)) :=
  (partitions available.length size).filter fun split =>
    split.any (holdsRequired available.toArray required)

/-- A request that is refused by its numbers gets nothing. -/
theorem bestEffort_of_isUnsatisfiable
    (h : isUnsatisfiable available.length required.length size = true) :
    bestEffort available required size = .ok [] := by
  rw [bestEffort, if_pos h]

theorem bestEffort_eq_nil (hsat : isUnsatisfiable available.length required.length size = false)
    (h : firstBest (ScoreTable.ofDevices available).ofPartition (candidates available required size)
      = .ok none) :
    bestEffort available required size = .ok [] := by
  rw [candidates] at h
  rw [bestEffort, hsat, if_neg Bool.false_ne_true]
  simp only [h]
  rfl

theorem bestEffort_eq_devicesAt {split : List (List Nat)} {group : List Nat}
    (hsat : isUnsatisfiable available.length required.length size = false)
    (hs : firstBest (ScoreTable.ofDevices available).ofPartition (candidates available required size)
      = .ok (some split))
    (hg : firstBest (ScoreTable.ofDevices available).ofSet
        (split.filter (holdsRequired available.toArray required)) = .ok (some group)) :
    bestEffort available required size = .ok (devicesAt available group) := by
  rw [candidates] at hs
  rw [bestEffort, hsat, if_neg Bool.false_ne_true]
  simp only [hs, bind, Except.bind, hg]
  rfl

/-! ## Points of filled-up blocks -/

theorem devicesAt_completed (available : List Device) (size : Nat) (block : List Nat) :
    devicesAt available (completed available.length size block) = devicesAt available block := by
  have hpad : devicesAt available (List.range' available.length (size - block.length)) = [] := by
    refine List.filterMap_eq_nil_iff.mpr fun p hp => ?_
    exact List.getElem?_eq_none (List.mem_range'_1.mp hp).1
  rw [completed, devicesAt_append, hpad, List.append_nil]

theorem splitPoints_completed (available : List Device) (size : Nat) (blocks : List (List Nat)) :
    splitPoints available (blocks.map (completed available.length size))
      = splitPoints available blocks := by
  rw [splitPoints, List.map_map, splitPoints]
  refine congrArg List.sum (List.map_congr_left fun block _ => ?_)
  rw [Function.comp_apply, devicesAt_completed]

/-! ## Groups of two and more -/

theorem Admissible.block {count : Nat} {blocks : List (List Nat)} (hs : 0 < size)
    (h : Admissible count size blocks) {b : List Nat} (hb : b ∈ blocks) :
    b.length ≤ size ∧ ∀ p ∈ b, p < count :=
  ⟨IsSplit.length_le h (Nat.mod_lt _ hs) hb,
    fun _ hp => List.mem_range.mp (IsSplit.mem_positions h hb hp)⟩

/-- Filling up blocks loses nothing: the positions below `count` are those of the split. -/
theorem Admissible.eq_of_completed {count : Nat} {blocks other : List (List Nat)}
    (h : Admissible count size blocks) (ho : Admissible count size other)
    (he : blocks.map (completed count size) = other.map (completed count size)) :
    blocks = other := by
  rw [← unpadded_map_completed h, he, unpadded_map_completed ho]

/-- The splits that the search compares are the qualifying ones, filled up. -/
theorem mem_candidates_iff (h2 : 2 ≤ size) (hle : size ≤ available.length)
    {split : List (List Nat)} :
    split ∈ candidates available required size ↔
      ∃ blocks, Qualifying available required size blocks ∧
        split = blocks.map (completed available.length size) := by
  rw [candidates, List.mem_filter, mem_partitions_iff h2 hle]
  have hany : ∀ blocks, Admissible available.length size blocks →
      ((blocks.map (completed available.length size)).any
          (holdsRequired available.toArray required) = true ↔
        ∃ block ∈ blocks, Suits available required size block) := by
    intro blocks ha
    rw [List.any_map, List.any_eq_true]
    constructor
    · intro h
      obtain ⟨b, hb, ht⟩ := h
      obtain ⟨hl, hp⟩ := ha.block (by omega) hb
      exact ⟨b, hb, (holdsRequired_completed_iff hl hp).mp ht⟩
    · intro h
      obtain ⟨b, hb, hs⟩ := h
      obtain ⟨hl, hp⟩ := ha.block (by omega) hb
      exact ⟨b, hb, (holdsRequired_completed_iff hl hp).mpr hs⟩
  constructor
  · intro h
    obtain ⟨⟨blocks, ha, rfl⟩, ht⟩ := h
    exact ⟨blocks, ⟨ha, (hany blocks ha).mp ht⟩, rfl⟩
  · intro h
    obtain ⟨blocks, hq, rfl⟩ := h
    exact ⟨⟨blocks, hq.admissible, rfl⟩, (hany blocks hq.admissible).mpr hq.suits⟩

/-- The first maximum of an ascending list comes first among all items with as many points. -/
theorem FirstMax.lt_or_first {points : List (List Nat) → Nat} {items : List (List (List Nat))}
    {x y : List (List Nat)} (h : FirstMax (fun _ => True) points items x)
    (hasc : items.Pairwise (· < ·)) (hy : y ∈ items) :
    points y < points x ∨ (points y = points x ∧ (y = x ∨ x < y)) := by
  obtain ⟨-, before, after, rfl, hb, ha⟩ := h
  rcases List.mem_append.mp hy with hy | hy
  · exact Or.inl (hb y hy trivial)
  · rcases List.mem_cons.mp hy with rfl | hy
    · exact Or.inr ⟨rfl, Or.inl rfl⟩
    · have hlt := List.rel_of_pairwise_cons (List.pairwise_append.mp hasc).2.1 hy
      rcases Nat.lt_or_eq_of_le (ha y hy trivial) with hl | he
      · exact Or.inl hl
      · exact Or.inr ⟨he, Or.inr hlt⟩

/-- The groups that the search picks from in the best split are its blocks that can be handed
out. -/
theorem filter_completed_eq {blocks : List (List Nat)} (hs : 0 < size)
    (ha : Admissible available.length size blocks) :
    (blocks.map (completed available.length size)).filter
        (holdsRequired available.toArray required)
      = blocks.filter fun b =>
          holdsRequired available.toArray required (completed available.length size b) := by
  rw [List.filter_map]
  refine (List.map_congr_left fun b hb => ?_).trans (List.map_id _)
  obtain ⟨hm, ht⟩ := List.mem_filter.mp hb
  obtain ⟨hl, hp⟩ := ha.block hs hm
  exact completed_of_length ((holdsRequired_completed_iff hl hp).mp ht).1

/-- The first maximum of the search is the best split, filled up. -/
theorem bestSplit_of_firstMax (h2 : 2 ≤ size) (hle : size ≤ available.length)
    {blocks : List (List Nat)} (hq : Qualifying available required size blocks)
    (hmax : FirstMax (fun _ => True) (splitPoints available) (candidates available required size)
      (blocks.map (completed available.length size))) :
    BestSplit available required size blocks := by
  refine ⟨hq, fun other ho => ?_⟩
  have hasc : (candidates available required size).Pairwise (· < ·) :=
    (partitions_ascending _ _).filter _
  have hother := hmax.lt_or_first hasc ((mem_candidates_iff h2 hle).mpr ⟨other, ho, rfl⟩)
  rw [splitPoints_completed, splitPoints_completed] at hother
  -- Points and order of filled-up splits are those of the splits.
  rcases hother with hl | ⟨he, heq | hl⟩
  · exact Or.inl hl
  · exact Or.inr ⟨he, Or.inl (Admissible.eq_of_completed ho.admissible hq.admissible heq)⟩
  · exact Or.inr ⟨he, Or.inr hl⟩

/-- In a split that qualifies, the search finds the best block. -/
theorem exists_bestBlock (hlinks : TwoSided available) (hs : 0 < size) {blocks : List (List Nat)}
    (hq : Qualifying available required size blocks)
    (hfit : splitPoints available blocks ≤ Text.maxU32) :
    ∃ block, BestBlock available required size blocks block ∧
      firstBest (ScoreTable.ofDevices available).ofSet
          ((blocks.map (completed available.length size)).filter
            (holdsRequired available.toArray required)) = .ok (some block) := by
  rw [filter_completed_eq hs hq.admissible]
  have htest : ∀ b ∈ blocks, holdsRequired available.toArray required
      (completed available.length size b) = true ↔ Suits available required size b := by
    intro b hb
    obtain ⟨hl, hp⟩ := hq.admissible.block hs hb
    exact holdsRequired_completed_iff hl hp
  have hset : ∀ group ∈ blocks.filter fun b =>
        holdsRequired available.toArray required (completed available.length size b),
      (ScoreTable.ofDevices available).ofSet group
        = .ok (setPoints (devicesAt available group)) := fun group hg =>
    ofSet_eq hlinks ((setPoints_le_splitPoints (List.mem_of_mem_filter hg)).trans hfit)
  rcases firstBest_eq hset with ⟨hnil, -⟩ | ⟨block, hmax, he⟩
  · obtain ⟨b, hb, hsuits⟩ := hq.suits
    exact absurd ((htest b hb).mpr hsuits) (List.filter_eq_nil_iff.mp hnil b hb)
  · exact ⟨block, hmax.of_filter htest, he⟩

theorem bestEffort_of_two_le (hlinks : TwoSided available) (h2 : 2 ≤ size)
    (hle : size ≤ available.length) (hreq : required.length ≤ size)
    (hfit : ScoresFit available required size) :
    ∃ chosen, bestEffort available required size = .ok chosen ∧
      BruteForce available required size chosen := by
  have hsat : isUnsatisfiable available.length required.length size = false :=
    isUnsatisfiable_eq_false_iff.mpr ⟨by omega, hle, hreq⟩
  have hscore : ∀ split ∈ candidates available required size,
      (ScoreTable.ofDevices available).ofPartition split = .ok (splitPoints available split) := by
    intro split hm
    obtain ⟨blocks, hq, rfl⟩ := (mem_candidates_iff h2 hle).mp hm
    apply ofPartition_eq hlinks
    rw [splitPoints_completed]
    exact hfit hsat blocks hq
  rcases firstBest_eq hscore with ⟨hnil, he⟩ | ⟨split, hmax, he⟩
  · refine ⟨[], bestEffort_eq_nil hsat he, Or.inl ⟨fun blocks hq => ?_, rfl⟩⟩
    have hm := (mem_candidates_iff h2 hle).mpr ⟨blocks, hq, rfl⟩
    rw [hnil] at hm
    exact absurd hm (by simp)
  · obtain ⟨blocks, hq, rfl⟩ := (mem_candidates_iff h2 hle).mp hmax.mem
    obtain ⟨block, hblock, hg⟩ := exists_bestBlock hlinks (by omega) hq (hfit hsat blocks hq)
    exact ⟨devicesAt available block, bestEffort_eq_devicesAt hsat he hg,
      Or.inr ⟨blocks, block, bestSplit_of_firstMax h2 hle hq hmax, hblock, rfl⟩⟩

/-! ## Groups of one -/

/-- Ascending positions have one split into blocks of one. -/
theorem isSplit_one_iff {positions : List Nat} {blocks : List (List Nat)}
    (hasc : positions.Pairwise (· < ·)) :
    IsSplit 1 0 positions blocks ↔ blocks = positions.map fun p => [p] := by
  induction positions generalizing blocks with
  | nil => rw [isSplit_nil_iff (by omega)]; simp
  | cons first positions ih =>
    have hfilter : positions.filter (· ∉ ([] : List Nat)) = positions := by simp
    cases blocks with
    | nil =>
      constructor
      · intro h
        exact absurd h.covers.length_eq (by simp)
      · intro h
        exact absurd h (by simp)
    | cons b bs =>
      rw [isSplit_cons_iff (by omega) hasc, List.map_cons, List.cons.injEq]
      constructor
      · intro hx
        obtain ⟨chosen, left, -, rfl, hleaves, h⟩ := hx
        cases hleaves with
        | full hl =>
          obtain rfl : chosen = [] := List.length_eq_zero_iff.mp (by simpa using hl)
          rw [hfilter, ih (List.pairwise_cons.mp hasc).2] at h
          exact ⟨rfl, h⟩
        | short h0 _ => exact absurd rfl h0
      · intro hx
        obtain ⟨rfl, rfl⟩ := hx
        refine ⟨[], 0, List.nil_sublist _, rfl, .full rfl, ?_⟩
        rw [hfilter, ih (List.pairwise_cons.mp hasc).2]

theorem admissible_one_iff {count : Nat} {blocks : List (List Nat)} :
    Admissible count 1 blocks ↔ blocks = (List.range count).map fun p => [p] := by
  rw [Admissible, Nat.mod_one]
  exact isSplit_one_iff List.pairwise_lt_range

theorem setPoints_devicesAt_singleton (available : List Device) (p : Nat) :
    setPoints (devicesAt available [p]) = 0 := by
  cases h : available[p]? with
  | none => rw [devicesAt_cons_none h]; rfl
  | some d => rw [devicesAt_cons_some h]; rfl

theorem splitPoints_singleton (available : List Device) (p : Nat) :
    splitPoints available [[p]] = 0 := by
  rw [splitPoints, List.map_singleton, List.sum_singleton, setPoints_devicesAt_singleton]

theorem partitions_one (hle : 1 ≤ available.length) :
    partitions available.length 1 = (List.range available.length).map fun p => [[p]] := by
  rw [partitions, if_neg (by omega), if_pos rfl]

theorem holdsRequired_singleton_iff {p : Nat} (hp : p < available.length) :
    holdsRequired available.toArray required [p] = true ↔ Suits available required 1 [p] := by
  have hfull : completed available.length 1 [p] = [p] := completed_of_length rfl
  rw [← hfull]
  exact holdsRequired_completed_iff (by simp) (by simpa using hp)

/-- Each position that can be handed out stands for the whole split. -/
theorem mem_candidates_one_iff (hle : 1 ≤ available.length) {split : List (List Nat)} :
    split ∈ candidates available required 1 ↔
      ∃ p < available.length, Suits available required 1 [p] ∧ split = [[p]] := by
  rw [candidates, partitions_one hle, List.mem_filter, List.mem_map]
  constructor
  · intro h
    obtain ⟨⟨p, hp, rfl⟩, ht⟩ := h
    have hp' := List.mem_range.mp hp
    exact ⟨p, hp', (holdsRequired_singleton_iff hp').mp (by simpa using ht), rfl⟩
  · intro h
    obtain ⟨p, hp, hs, rfl⟩ := h
    exact ⟨⟨p, List.mem_range.mpr hp, rfl⟩, by simpa using (holdsRequired_singleton_iff hp).mpr hs⟩

/-- The one split there is is the best one, if it qualifies. -/
theorem bestSplit_one {p : Nat} (hp : p < available.length)
    (hs : Suits available required 1 [p]) :
    BestSplit available required 1 ((List.range available.length).map fun p => [p]) := by
  refine ⟨⟨admissible_one_iff.mpr rfl, [p], List.mem_map_of_mem (List.mem_range.mpr hp), hs⟩, ?_⟩
  intro other ho
  rw [admissible_one_iff.mp ho.admissible]
  exact Or.inr ⟨rfl, Or.inl rfl⟩

/-- The first position that passes the test is the first block that can be handed out. -/
theorem bestBlock_one (hle : 1 ≤ available.length) {p : Nat}
    (hmax : FirstMax (fun _ => True) (splitPoints available) (candidates available required 1)
      [[p]]) :
    BestBlock available required 1 ((List.range available.length).map fun p => [p]) [p] := by
  have hfirst := hmax.of_filter (p := fun split => Suits available required 1 split.flatten)
    (fun split hs => by
      rw [partitions_one hle] at hs
      obtain ⟨q, hq, rfl⟩ := List.mem_map.mp hs
      simpa using holdsRequired_singleton_iff (List.mem_range.mp hq))
  have hpoints : ∀ split ∈ partitions available.length 1,
      setPoints (devicesAt available split.flatten) = splitPoints available split := by
    intro split hs
    rw [partitions_one hle] at hs
    obtain ⟨q, -, rfl⟩ := List.mem_map.mp hs
    rw [splitPoints_singleton]
    exact setPoints_devicesAt_singleton available q
  have hmap : BestBlock available required 1
      ((partitions available.length 1).map List.flatten) [p] :=
    hfirst.map (fun _ _ => Iff.rfl) hpoints
  rwa [partitions_one hle, List.map_map] at hmap

theorem bestEffort_of_one (hlinks : TwoSided available) (hle : 1 ≤ available.length)
    (hreq : required.length ≤ 1) :
    ∃ chosen, bestEffort available required 1 = .ok chosen ∧
      BruteForce available required 1 chosen := by
  have hsat : isUnsatisfiable available.length required.length 1 = false :=
    isUnsatisfiable_eq_false_iff.mpr ⟨by omega, hle, hreq⟩
  have hscore : ∀ split ∈ candidates available required 1,
      (ScoreTable.ofDevices available).ofPartition split = .ok (splitPoints available split) := by
    intro split hm
    obtain ⟨p, -, -, rfl⟩ := (mem_candidates_one_iff hle).mp hm
    apply ofPartition_eq hlinks
    rw [splitPoints_singleton]
    exact Nat.zero_le _
  rcases firstBest_eq hscore with ⟨hnil, he⟩ | ⟨split, hmax, he⟩
  · refine ⟨[], bestEffort_eq_nil hsat he, Or.inl ⟨fun blocks hq => ?_, rfl⟩⟩
    obtain ⟨b, hb, hs⟩ := hq.suits
    rw [admissible_one_iff.mp hq.admissible] at hb
    obtain ⟨p, hp, rfl⟩ := List.mem_map.mp hb
    have hm := (mem_candidates_one_iff hle).mpr ⟨p, List.mem_range.mp hp, hs, rfl⟩
    rw [hnil] at hm
    exact absurd hm (by simp)
  · obtain ⟨p, hp, hs, rfl⟩ := (mem_candidates_one_iff hle).mp hmax.mem
    have hgroup : [[p]].filter (holdsRequired available.toArray required) = [[p]] := by
      rw [List.filter_cons, if_pos ((holdsRequired_singleton_iff hp).mpr hs), List.filter_nil]
    have hset : ∀ group ∈ [[p]], (ScoreTable.ofDevices available).ofSet group = .ok 0 := by
      intro group hg
      rw [List.mem_singleton.mp hg, ← setPoints_devicesAt_singleton available p]
      apply ofSet_eq hlinks
      rw [setPoints_devicesAt_singleton]
      exact Nat.zero_le _
    have hpick : firstBest (ScoreTable.ofDevices available).ofSet
        ([[p]].filter (holdsRequired available.toArray required)) = .ok (some [p]) := by
      rw [hgroup]
      rcases firstBest_eq hset with ⟨hnil, -⟩ | ⟨group, hg, he⟩
      · exact absurd hnil (by simp)
      · rw [he, List.mem_singleton.mp hg.mem]
    exact ⟨devicesAt available [p], bestEffort_eq_devicesAt hsat he hpick,
      Or.inr ⟨_, [p], bestSplit_one hp hs, bestBlock_one hle hmax, rfl⟩⟩

/-! ## The policy -/

/-- The policy answers every request that its numbers allow as the brute force does. -/
theorem bestEffort_answers (hlinks : TwoSided available) (hsize : 1 ≤ size)
    (hle : size ≤ available.length) (hreq : required.length ≤ size)
    (hfit : ScoresFit available required size) :
    ∃ chosen, bestEffort available required size = .ok chosen ∧
      BruteForce available required size chosen := by
  rcases Nat.lt_or_eq_of_le hsize with h2 | rfl
  · exact bestEffort_of_two_le hlinks h2 hle hreq hfit
  · exact bestEffort_of_one hlinks hle hreq

/-- The policy answers every request. -/
theorem bestEffort_ok (hlinks : TwoSided available) (hfit : ScoresFit available required size) :
    ∃ chosen, bestEffort available required size = .ok chosen := by
  cases hsat : isUnsatisfiable available.length required.length size with
  | true => exact ⟨[], bestEffort_of_isUnsatisfiable hsat⟩
  | false =>
    obtain ⟨hs, hle, hreq⟩ := isUnsatisfiable_eq_false_iff.mp hsat
    obtain ⟨chosen, he, -⟩ := bestEffort_answers hlinks hs hle hreq hfit
    exact ⟨chosen, he⟩

theorem BestSplit.eq {blocks other : List (List Nat)}
    (h : BestSplit available required size blocks)
    (ho : BestSplit available required size other) : blocks = other := by
  rcases h.best other ho.toQualifying with hl | ⟨he, heq | hl⟩
  · rcases ho.best blocks h.toQualifying with hl' | ⟨he, -⟩ <;> omega
  · exact heq.symm
  · rcases ho.best blocks h.toQualifying with hl' | ⟨-, heq | hl'⟩
    · omega
    · exact heq
    · exact absurd hl' (List.lt_asymm hl)

theorem length_devicesAt {block : List Nat} (hp : ∀ p ∈ block, p < available.length) :
    (devicesAt available block).length = block.length := by
  induction block with
  | nil => rfl
  | cons p block ih =>
    rw [devicesAt_cons_some (List.getElem?_eq_getElem (hp p (by simp))), List.length_cons,
      ih fun q hq => hp q (by simp [hq]), List.length_cons]

theorem devicesAt_range (available : List Device) :
    devicesAt available (List.range available.length) = available := by
  induction available with
  | nil => rfl
  | cons d available ih =>
    rw [List.length_cons, List.range_succ_eq_map, devicesAt_cons_some rfl, devicesAt,
      List.filterMap_map]
    exact congrArg (d :: ·) ih

/-- A block hands out its devices in the order of the pool. -/
theorem devicesAt_sublist {block : List Nat} (hasc : block.Pairwise (· < ·))
    (hp : ∀ p ∈ block, p < available.length) : (devicesAt available block).Sublist available := by
  have hsub : block.Sublist (List.range available.length) := sublist_range_iff.mpr ⟨hasc, hp⟩
  have hmap := hsub.filterMap fun p => available[p]?
  rwa [← devicesAt, ← devicesAt, devicesAt_range] at hmap

/-- What the brute force hands out is a full block: `size` devices, in the order of the pool. -/
theorem BestBlock.devices {blocks : List (List Nat)} {block : List Nat} (hsize : 0 < size)
    (h : Admissible available.length size blocks)
    (hb : BestBlock available required size blocks block) :
    (devicesAt available block).length = size ∧ (devicesAt available block).Sublist available := by
  have hmem : block ∈ blocks := FirstMax.mem hb
  have hp := (h.block hsize hmem).2
  exact ⟨(length_devicesAt hp).trans hb.1.1, devicesAt_sublist (h.ascending _ hmem) hp⟩

/-- **The best-effort policy is its brute-force reading.** It gives nothing exactly if no split
qualifies; otherwise there is a best split, and it gives the best block of it. -/
theorem bestEffort_bruteForce (hlinks : TwoSided available) (hsize : 1 ≤ size)
    (hle : size ≤ available.length) (hreq : required.length ≤ size)
    (hfit : ScoresFit available required size) :
    ∃ chosen, bestEffort available required size = .ok chosen ∧
      (chosen = [] ↔ ∀ blocks, ¬ Qualifying available required size blocks) ∧
      ((∃ blocks, Qualifying available required size blocks) →
        ∃ blocks block, BestSplit available required size blocks ∧
          BestBlock available required size blocks block) ∧
      ∀ blocks block, BestSplit available required size blocks →
        BestBlock available required size blocks block →
          chosen = devicesAt available block ∧ chosen.length = size ∧ chosen.Sublist available := by
  obtain ⟨chosen, he, hspec⟩ := bestEffort_answers hlinks hsize hle hreq hfit
  refine ⟨chosen, he, ?_⟩
  rcases hspec with ⟨hno, rfl⟩ | ⟨blocks, block, hs, hb, rfl⟩
  · refine ⟨⟨fun _ => hno, fun _ => rfl⟩, fun ⟨blocks, hq⟩ => absurd hq (hno blocks), ?_⟩
    exact fun blocks _ hs _ => absurd hs.toQualifying (hno blocks)
  · have hdevices := hb.devices hsize hs.admissible
    refine ⟨⟨fun hnil => ?_, fun hno => absurd hs.toQualifying (hno blocks)⟩,
      fun _ => ⟨blocks, block, hs, hb⟩, fun blocks' block' hs' hb' => ?_⟩
    · rw [hnil] at hdevices
      exact absurd hdevices.1 (by simp; omega)
    · obtain rfl := hs.eq hs'
      obtain rfl := FirstMax.eq hb hb'
      exact ⟨rfl, hdevices⟩

/-! ## Whatever the scores are -/

/-- What the policy gives is a group of a split that it compares. -/
theorem bestEffort_eq_ok {chosen : List Device}
    (h : bestEffort available required size = .ok chosen) :
    chosen = [] ∨ (1 ≤ size ∧ size ≤ available.length ∧
      ∃ split ∈ candidates available required size,
        ∃ group ∈ split.filter (holdsRequired available.toArray required),
          chosen = devicesAt available group) := by
  cases hsat : isUnsatisfiable available.length required.length size with
  | true =>
    rw [bestEffort_of_isUnsatisfiable hsat] at h
    exact Or.inl (Except.ok.inj h).symm
  | false =>
    obtain ⟨hsize, hle, -⟩ := isUnsatisfiable_eq_false_iff.mp hsat
    rw [bestEffort, hsat, if_neg Bool.false_ne_true] at h
    obtain ⟨best, hsplit, h⟩ := exists_of_bind_eq_ok h
    cases best with
    | none => exact Or.inl (Except.ok.inj h).symm
    | some split =>
      obtain ⟨best, hgroup, h⟩ := exists_of_bind_eq_ok h
      cases best with
      | none => exact Or.inl (Except.ok.inj h).symm
      | some group =>
        exact Or.inr ⟨hsize, hle, split, mem_of_firstBest hsplit, group, mem_of_firstBest hgroup,
          (Except.ok.inj h).symm⟩

/-- The groups that pass the test are blocks that can be handed out. -/
theorem suits_of_mem_candidates (hsize : 1 ≤ size) (hle : size ≤ available.length)
    {split : List (List Nat)} (hs : split ∈ candidates available required size) {group : List Nat}
    (hg : group ∈ split.filter (holdsRequired available.toArray required)) :
    Suits available required size group ∧ group.Pairwise (· < ·) ∧
      ∀ p ∈ group, p < available.length := by
  rcases Nat.lt_or_eq_of_le hsize with h2 | rfl
  · obtain ⟨blocks, hq, rfl⟩ := (mem_candidates_iff h2 hle).mp hs
    rw [filter_completed_eq hsize hq.admissible] at hg
    obtain ⟨hmem, htest⟩ := List.mem_filter.mp hg
    obtain ⟨hlength, hp⟩ := hq.admissible.block hsize hmem
    exact ⟨(holdsRequired_completed_iff hlength hp).mp htest, hq.admissible.ascending _ hmem, hp⟩
  · obtain ⟨p, hp, hsuits, rfl⟩ := (mem_candidates_one_iff hle).mp hs
    obtain rfl := List.mem_singleton.mp (List.mem_of_mem_filter hg)
    exact ⟨hsuits, List.pairwise_singleton _ _, by simpa using hp⟩

/-- **What the policy gives**, with no assumption on links and scores: nothing, or `size` of the
available devices in their order, with the required ones. -/
theorem bestEffort_gives {chosen : List Device}
    (h : bestEffort available required size = .ok chosen) :
    chosen = [] ∨ (chosen.length = size ∧ chosen.Sublist available ∧
      ∀ d ∈ required, ∃ member ∈ chosen, member.index = d.index) := by
  rcases bestEffort_eq_ok h with hnil | ⟨hsize, hle, split, hs, group, hg, rfl⟩
  · exact Or.inl hnil
  · obtain ⟨⟨hlength, hholds⟩, hasc, hp⟩ := suits_of_mem_candidates hsize hle hs hg
    exact Or.inr ⟨(length_devicesAt hp).trans hlength, devicesAt_sublist hasc hp, hholds⟩

/-- The policy fails on nothing but scores. -/
theorem bestEffort_failsIn (available required : List Device) (size : Nat) :
    FailsIn Fault.OfScores (bestEffort available required size) := by
  unfold bestEffort
  split
  · exact failsIn_ok _
  · refine (firstBest_failsIn fun split _ => ofPartition_failsIn available split).bind fun best => ?_
    cases best with
    | none => exact failsIn_ok _
    | some split =>
      refine (firstBest_failsIn fun group _ => ofSet_failsIn available group).bind fun best => ?_
      cases best with
      | none => exact failsIn_ok _
      | some group => exact failsIn_ok _

/-- Scores fit if those of all listed partitions do. -/
theorem scoresFit_of_partitions (h2 : 2 ≤ size) (hle : size ≤ available.length)
    (h : ∀ split ∈ partitions available.length size, splitPoints available split ≤ Text.maxU32) :
    ScoresFit available required size := by
  intro _ blocks hq
  rw [← splitPoints_completed available size]
  exact h _ ((mem_partitions_iff h2 hle).mpr ⟨blocks, hq.admissible, rfl⟩)

end Search

/-- Five devices with two bundles of links, so that groups of two leave one over. -/
def oddPool : List Device :=
  connected (connected ((List.range 5).map fun i => .plain i s!"GPU-{i}") 1 4 (.nvlink 3))
    2 3 (.nvlink 1)

theorem bestEffort_bruteForce_oddPool :
    ∃ chosen, bestEffort oddPool (oddPool.take 1) 2 = .ok chosen ∧
      (chosen = [] ↔ ∀ blocks, ¬ Qualifying oddPool (oddPool.take 1) 2 blocks) ∧
      ((∃ blocks, Qualifying oddPool (oddPool.take 1) 2 blocks) →
        ∃ blocks block, BestSplit oddPool (oddPool.take 1) 2 blocks ∧
          BestBlock oddPool (oddPool.take 1) 2 blocks block) ∧
      ∀ blocks block, BestSplit oddPool (oddPool.take 1) 2 blocks →
        BestBlock oddPool (oddPool.take 1) 2 blocks block →
          chosen = devicesAt oddPool block ∧ chosen.length = 2 ∧ chosen.Sublist oddPool :=
  bestEffort_bruteForce (by unfold TwoSided; decide) (by decide) (by decide) (by decide)
    (scoresFit_of_partitions (by decide) (by decide) (by decide))

end GpuPlacement
