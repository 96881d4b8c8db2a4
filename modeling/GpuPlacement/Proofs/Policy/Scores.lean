import GpuPlacement.Proofs.Policy.Groupings

/-!
# Scores of pools

What the scores of a pool owe to the links of its devices, where any two of them agree on how many
links connect them (`TwoSided`). That agreement is all that is checked of a pair, and it is about
the number of links, not about what they are. So two facts about scores rest on different things:

* **symmetry** is a matter of points. A pair scores the same from both ends exactly if both ends
  have links of the same worth (`Balanced`), and then a set scores the same in any order
  (`scores_anyOrder`); the number of links alone does not give that (`unevenPair_notSymmetric`).
* **room in 32 bits** is a matter of counting. A link is worth at most 1200 points and no split
  counts a pair twice, so a pool of few links can be scored however it is split
  (`scores_of_fewLinks`).
-/

set_option autoImplicit false

namespace GpuPlacement

/-! ## Scores in another order -/

theorem scoreOf_eq_iff {m n : Nat} :
    scoreOf m = scoreOf n ↔ m = n ∨ (Text.maxU32 < m ∧ Text.maxU32 < n) := by
  rcases Nat.lt_or_ge Text.maxU32 m with hm | hm
  · rw [scoreOf_of_lt hm]
    rcases Nat.lt_or_ge Text.maxU32 n with hn | hn
    · rw [scoreOf_of_lt hn]
      exact iff_of_true rfl (Or.inr ⟨hm, hn⟩)
    · rw [scoreOf_of_le hn]
      exact iff_of_false (by simp) (by omega)
  · rw [scoreOf_of_le hm]
    rcases Nat.lt_or_ge Text.maxU32 n with hn | hn
    · rw [scoreOf_of_lt hn]
      exact iff_of_false (by simp) (by omega)
    · rw [scoreOf_of_le hn, Except.ok.injEq]
      exact ⟨Or.inl, fun h => h.resolve_right (by omega)⟩

/-- Scores that are the same stay so when points are added. -/
theorem scoreOf_add (m n : Nat) (h : scoreOf m = scoreOf n) (t : Nat) :
    scoreOf (t + m) = scoreOf (t + n) := by
  rw [scoreOf_eq_iff] at h ⊢
  omega

/-- The score of devices as one set, in the order in which they stand. -/
def setScore (devices : List Device) : Except Fault Nat :=
  (ScoreTable.ofDevices devices).ofSet (List.range devices.length)

theorem setScore_eq_scoreOf {devices : List Device} (hlinks : TwoSided devices) :
    setScore devices = scoreOf (setPoints devices) := by
  rw [setScore, ofSet_eq_scoreOf hlinks, devicesAt_range]

/-- Seen from either end, the links of two devices are worth the same, or too much for a score. A
device has no links to itself that count. -/
def Balanced (a b : Device) : Prop :=
  a.index = b.index ∨ linkPoints (a.linksTo b.index) = linkPoints (b.linksTo a.index) ∨
    (Text.maxU32 < linkPoints (a.linksTo b.index) ∧ Text.maxU32 < linkPoints (b.linksTo a.index))

instance (a b : Device) : Decidable (Balanced a b) :=
  inferInstanceAs (Decidable (_ ∨ _ ∨ _))

theorem balanced_iff (a b : Device) :
    Balanced a b ↔ scoreOf (pairPoints a b) = scoreOf (pairPoints b a) := by
  have hsame : a.same b = b.same a := Bool.beq_comm
  rw [Balanced, pairPoints, pairPoints, ← hsame]
  by_cases hindex : a.index = b.index
  · have hs : a.same b = true := by simpa [Device.same] using hindex
    rw [if_pos hs, if_pos hs]
    exact iff_of_true (Or.inl hindex) rfl
  · have hs : ¬ a.same b = true := by simpa [Device.same] using hindex
    rw [if_neg hs, if_neg hs, scoreOf_eq_iff, or_iff_right hindex]

/-- The order in which the links of a pair stand at its two ends is no matter. -/
theorem balanced_of_perm {a b : Device} (h : (a.linksTo b.index).Perm (b.linksTo a.index)) :
    Balanced a b := Or.inr (Or.inl (linkPoints_perm h))

theorem pairScore_comm_iff {a b : Device}
    (h : (a.linksTo b.index).length = (b.linksTo a.index).length) :
    pairScore (some a) (some b) = pairScore (some b) (some a) ↔ Balanced a b := by
  rw [pairScore_eq_scoreOf h, pairScore_eq_scoreOf h.symm, balanced_iff]

theorem TwoSided.perm {devices other : List Device} (h : TwoSided devices)
    (hp : devices.Perm other) : TwoSided other := fun a ha b hb =>
  h a (hp.mem_iff.mpr ha) b (hp.mem_iff.mpr hb)

theorem setScore_perm {devices other : List Device} (hlinks : TwoSided devices)
    (hbalanced : ∀ a ∈ devices, ∀ b ∈ devices, Balanced a b) (hp : devices.Perm other) :
    setScore devices = setScore other := by
  rw [setScore_eq_scoreOf hlinks, setScore_eq_scoreOf (hlinks.perm hp), setPoints_eq_pairSum,
    setPoints_eq_pairSum]
  exact map_pairSum_perm scoreOf_add hp fun a ha b hb =>
    (balanced_iff a b).mp (hbalanced a ha b hb)

/-- **When scores do not depend on order.** Two devices that agree on how many links connect them
score the same both ways exactly if their links are balanced, as they are if they are the same
links in any order. A set of devices that are balanced in pairs scores the same in any order. -/
theorem scores_anyOrder :
    (∀ a b : Device, (a.linksTo b.index).length = (b.linksTo a.index).length →
      (pairScore (some a) (some b) = pairScore (some b) (some a) ↔ Balanced a b)) ∧
    (∀ a b : Device, (a.linksTo b.index).Perm (b.linksTo a.index) → Balanced a b) ∧
    ∀ devices other : List Device, TwoSided devices →
      (∀ a ∈ devices, ∀ b ∈ devices, Balanced a b) → devices.Perm other →
        setScore devices = setScore other :=
  ⟨fun _ _ h => pairScore_comm_iff h, fun _ _ h => balanced_of_perm h,
    fun _ _ hlinks hbalanced hp => setScore_perm hlinks hbalanced hp⟩

theorem scores_anyOrder_oddPool :
    TwoSided oddPool ∧ (∀ a ∈ oddPool, ∀ b ∈ oddPool, Balanced a b) ∧
      setScore oddPool = setScore oddPool.reverse :=
  have hlinks : TwoSided oddPool := by unfold TwoSided; decide
  have hbalanced : ∀ a ∈ oddPool, ∀ b ∈ oddPool, Balanced a b := by decide
  ⟨hlinks, hbalanced, scores_anyOrder.2.2 _ _ hlinks hbalanced (List.reverse_perm oddPool).symm⟩

/-- Two devices with one link each way, an NVLink from the first and a PCIe path from the second. -/
def unevenPair : List Device :=
  [⟨0, "GPU-0", none, ⟨[(1, [.nvlink 1])]⟩⟩, ⟨1, "GPU-1", none, ⟨[(0, [.crossCpu])]⟩⟩]

/-- As many links both ways are not enough for a symmetric score. -/
theorem unevenPair_notSymmetric :
    TwoSided unevenPair ∧ pairScore unevenPair[0]? unevenPair[1]? = .ok 100 ∧
      pairScore unevenPair[1]? unevenPair[0]? = .ok 10 ∧
      unevenPair.Perm unevenPair.reverse ∧ setScore unevenPair = .ok 100 ∧
      setScore unevenPair.reverse = .ok 10 :=
  ⟨by unfold TwoSided; decide, by decide, by decide, (List.reverse_perm _).symm,
    by decide +kernel, by decide +kernel⟩

/-! ## Pools with few links -/

/-- The links that join two devices of a pool, each pair counted once. -/
def linkCount (devices : List Device) : Nat :=
  pairSum (fun a b => (a.linksTo b.index).length) devices

section

variable {devices : List Device}

theorem linkCount_le_of_subperm (hlinks : TwoSided devices) {part : List Device}
    (h : part.Subperm devices) : linkCount part ≤ linkCount devices :=
  pairSum_le_of_subperm h hlinks

theorem pairPoints_le_linkCount (hlinks : TwoSided devices) {a b : Device} (ha : a ∈ devices)
    (hb : b ∈ devices) : pairPoints a b ≤ linkCount devices * 1200 := by
  by_cases hab : a = b
  · have hself : pairPoints a b = 0 := by simp [hab, pairPoints, Device.same]
    rw [hself]
    exact Nat.zero_le _
  · have hpair : [a, b].Subperm devices :=
      List.subperm_of_subset (by simpa using hab) (by simp [ha, hb])
    have hcount : linkCount [a, b] = (a.linksTo b.index).length := by simp [linkCount, pairSum]
    calc pairPoints a b ≤ (a.linksTo b.index).length * 1200 := pairPoints_le a b
      _ = linkCount [a, b] * 1200 := by rw [hcount]
      _ ≤ linkCount devices * 1200 :=
        Nat.mul_le_mul_right _ (linkCount_le_of_subperm hlinks hpair)

/-- A partition places no device twice. -/
theorem subperm_of_mem_partitions {size : Nat} {split : List (List Nat)}
    (h : split ∈ partitions devices.length size) :
    (devicesAt devices split.flatten).Subperm devices := by
  by_cases hno : size = 0 ∨ devices.length < size
  · rw [partitions, if_pos hno] at h
    exact absurd h (by simp)
  have hle : size ≤ devices.length := by omega
  rcases Nat.lt_or_eq_of_le (show 1 ≤ size by omega) with h2 | rfl
  · obtain ⟨blocks, ha, rfl⟩ := (mem_partitions_iff h2 hle).mp h
    have hcovers := ha.covers.filterMap fun p => devices[p]?
    rw [← devicesAt, ← devicesAt, devicesAt_range] at hcovers
    -- The padding of a block places no device.
    have hpad : devicesAt devices (blocks.map (completed devices.length size)).flatten
        = devicesAt devices blocks.flatten := by
      rw [devicesAt_flatten, devicesAt_flatten, List.map_map]
      refine congrArg List.flatten (List.map_congr_left fun b _ => ?_)
      exact devicesAt_completed devices size b
    rw [hpad]
    exact hcovers.subperm
  · rw [partitions_one hle] at h
    obtain ⟨p, hp, rfl⟩ := List.mem_map.mp h
    have hlt : p < devices.length := List.mem_range.mp hp
    rw [List.flatten_singleton, devicesAt_cons_some (List.getElem?_eq_getElem hlt)]
    exact List.singleton_subperm_iff.mpr (List.getElem_mem _)

/-- No partition has more points than all links of the pool can be worth. -/
theorem splitPoints_le_linkCount (hlinks : TwoSided devices) {size : Nat}
    {split : List (List Nat)} (h : split ∈ partitions devices.length size) :
    splitPoints devices split ≤ linkCount devices * 1200 := by
  calc splitPoints devices split
      = ((split.map (devicesAt devices)).map (pairSum pairPoints)).sum :=
        splitPoints_eq_pairSum devices split
    _ ≤ pairSum pairPoints (split.map (devicesAt devices)).flatten := sum_pairSum_le_flatten _
    _ = pairSum pairPoints (devicesAt devices split.flatten) := by rw [devicesAt_flatten]
    _ ≤ linkCount (devicesAt devices split.flatten) * 1200 := pairSum_le_mul pairPoints_le _
    _ ≤ linkCount devices * 1200 :=
      Nat.mul_le_mul_right _ (linkCount_le_of_subperm hlinks (subperm_of_mem_partitions h))

/-- **Few links never overflow.** In a pool of at most 3579139 links every pair, and every set and
partition that a search for groups of any size meets, has its points as its score, and those of a
partition are at most 1200 for each link of the pool. -/
theorem scores_of_fewLinks (hlinks : TwoSided devices) (hfew : linkCount devices ≤ 3579139) :
    (∀ a ∈ devices, ∀ b ∈ devices, pairScore (some a) (some b) = .ok (pairPoints a b)) ∧
      ∀ size, ∀ split ∈ partitions devices.length size,
        (∀ group ∈ split, (ScoreTable.ofDevices devices).ofSet group
            = .ok (setPoints (devicesAt devices group))) ∧
          (ScoreTable.ofDevices devices).ofPartition split = .ok (splitPoints devices split) ∧
          splitPoints devices split ≤ 1200 * linkCount devices := by
  have hmax : linkCount devices * 1200 ≤ Text.maxU32 := mul_le_maxU32_iff.mpr hfew
  refine ⟨fun a ha b hb => ?_, fun size split hs => ?_⟩
  · rw [pairScore_eq_scoreOf (hlinks a ha b hb),
      scoreOf_of_le ((pairPoints_le_linkCount hlinks ha hb).trans hmax)]
  · have hbound := splitPoints_le_linkCount hlinks hs
    have hfit := hbound.trans hmax
    refine ⟨fun group hg => ?_, ofPartition_eq hlinks hfit, by omega⟩
    exact ofSet_eq hlinks ((setPoints_le_splitPoints hg).trans hfit)

end

/-- Three devices whose ends agree on the number of links and on nothing else. -/
def cappedPool : List Device :=
  [⟨0, "GPU-0", none, ⟨[(1, [.nvlink 200]), (2, [.sameCpu, .nvlink 1])]⟩⟩,
    ⟨1, "GPU-1", none, ⟨[(0, [.crossCpu])]⟩⟩,
    ⟨2, "GPU-2", none, ⟨[(0, [.sameBoard, .nvlink 12])]⟩⟩]

theorem scores_of_fewLinks_cappedPool :
    TwoSided cappedPool ∧ linkCount cappedPool = 3 ∧
      (∀ a ∈ cappedPool, ∀ b ∈ cappedPool,
        pairScore (some a) (some b) = .ok (pairPoints a b)) ∧
      ∀ size, ∀ split ∈ partitions cappedPool.length size,
        (∀ group ∈ split, (ScoreTable.ofDevices cappedPool).ofSet group
            = .ok (setPoints (devicesAt cappedPool group))) ∧
          (ScoreTable.ofDevices cappedPool).ofPartition split
            = .ok (splitPoints cappedPool split) ∧
          splitPoints cappedPool split ≤ 1200 * linkCount cappedPool :=
  have hlinks : TwoSided cappedPool := by unfold TwoSided; decide
  ⟨hlinks, by decide, scores_of_fewLinks hlinks (by decide)⟩

/-- Two devices joined by `n` bundles of twelve NVLinks. -/
def twins (n : Nat) : List Device :=
  [⟨0, "GPU-0", none, ⟨[(1, List.replicate n (.nvlink 12))]⟩⟩,
    ⟨1, "GPU-1", none, ⟨[(0, List.replicate n (.nvlink 12))]⟩⟩]

/-- No larger number of links is safe. -/
theorem setScore_twins {n : Nat} (h : 3579139 < n) :
    TwoSided (twins n) ∧ linkCount (twins n) = n ∧
      setScore (twins n) = .error .scoreOverflow := by
  have hlinks : TwoSided (twins n) := by
    simp [TwoSided, twins, Device.linksTo, LinkTable.linksTo, List.lookup]
  have hpoints : setPoints (twins n) = n * 1200 := by
    simp [twins, setPoints, pairPoints, Device.same, Device.linksTo, LinkTable.linksTo,
      linkPoints_replicate, Link.points, maxNvlinks, List.lookup]
  refine ⟨hlinks, by simp [linkCount, pairSum, twins, Device.linksTo, LinkTable.linksTo], ?_⟩
  rw [setScore_eq_scoreOf hlinks, hpoints]
  exact scoreOf_of_lt (Nat.not_le.mp fun hle => Nat.not_le.mpr h (mul_le_maxU32_iff.mp hle))

end GpuPlacement
