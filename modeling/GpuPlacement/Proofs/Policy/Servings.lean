import GpuPlacement.Proofs.Policy.Served

/-!
# Groupings that serve a request

What the best-effort policy hands out, said of the devices and not of their positions: of the
groupings (Proofs/Policy/Groupings.lean) with a group that holds all required devices it follows one
with the most points, and hands out a group of that one with the most points
(`bestEffort_bestServing`). None of this speaks of the order of the pool, other than which of several
best groups it is.
-/

set_option autoImplicit false

namespace GpuPlacement

/-- A group has all required devices. -/
def Holds (required group : List Device) : Prop :=
  ∀ d ∈ required, ∃ member ∈ group, member.index = d.index

/-- A grouping with a group that can be handed out. -/
structure IsServing (size : Nat) (pool required : List Device) (groups : List (List Device))
    (rest : List Device) : Prop extends IsGrouping size pool groups rest where
  serves : ∃ g ∈ groups, Holds required g

/-- A serving grouping with the most points. -/
structure BestServing (size : Nat) (pool required : List Device) (groups : List (List Device))
    (rest : List Device) : Prop extends IsServing size pool required groups rest where
  best : ∀ groups' rest', IsServing size pool required groups' rest' →
    groupingPoints groups' rest' ≤ groupingPoints groups rest

/-- A group to hand out, with the most points of those that can be. -/
structure BestGroup (required : List Device) (groups : List (List Device)) (g : List Device) :
    Prop where
  mem : g ∈ groups
  holds : Holds required g
  best : ∀ other ∈ groups, Holds required other → setPoints other ≤ setPoints g

section

variable {pool required rest : List Device} {groups : List (List Device)} {size : Nat}

theorem Holds.subset {group other : List Device} (h : Holds required group) (hs : group ⊆ other) :
    Holds required other := by
  intro d hd
  obtain ⟨member, hm, hi⟩ := h d hd
  exact ⟨member, hs hm, hi⟩

theorem IsGrouping.subset (h : IsGrouping size pool groups rest) {g : List Device}
    (hg : g ∈ groups) : g ⊆ pool := fun _ hd =>
  h.covers.subset (List.mem_append_left _ (List.mem_flatten.mpr ⟨g, hg, hd⟩))

/-- Where nothing is required, every group can be handed out. -/
theorem IsGrouping.serving (h : IsGrouping size pool groups rest) (hs : 0 < size)
    (hle : size ≤ pool.length) : IsServing size pool [] groups rest := by
  obtain ⟨g, hg⟩ : ∃ g, g ∈ groups := by
    apply List.exists_mem_of_length_pos
    rw [h.length_groups hs]
    exact Nat.div_pos hle hs
  exact ⟨h, g, hg, by simp [Holds]⟩

/-! ## From groupings to splits and back -/

theorem IsServing.exists_qualifying (h : IsServing size pool required groups rest) (hs : 0 < size)
    (hn : pool.Nodup) (hm : Mutual pool) :
    ∃ blocks, Qualifying pool required size blocks ∧
      splitPoints pool blocks = groupingPoints groups rest := by
  obtain ⟨blocks, ha, hpoints, hgroups⟩ := h.exists_split hs hn hm
  obtain ⟨g, hg, hholds⟩ := h.serves
  obtain ⟨b, hb, hperm⟩ := hgroups g hg
  refine ⟨blocks, ⟨ha, b, hb, ?_, hholds.subset hperm.symm.subset⟩, hpoints⟩
  rw [← length_devicesAt (ha.block hs hb).2, hperm.length_eq, h.full g hg]

/-- A qualifying split is a serving grouping, whose groups are its full blocks. -/
theorem Qualifying.exists_serving {blocks : List (List Nat)}
    (h : Qualifying pool required size blocks) {block : List Nat} (hb : block ∈ blocks)
    (hsuits : Suits pool required size block) :
    ∃ groups rest, IsServing size pool required (devicesAt pool block :: groups) rest ∧
      groupingPoints (devicesAt pool block :: groups) rest = splitPoints pool blocks ∧
      ∀ g ∈ devicesAt pool block :: groups, ∃ b ∈ blocks, b.length = size ∧ devicesAt pool b = g := by
  obtain ⟨groups, rest, hg, hpoints, hblocks⟩ := h.admissible.exists_grouping hb hsuits.1
  exact ⟨groups, rest, ⟨hg, _, List.mem_cons_self, hsuits.2⟩, hpoints, hblocks⟩

/-- The scores of a request fit if those of all groupings that serve it do. -/
theorem scoresFit_iff (hn : pool.Nodup) (hm : Mutual pool) :
    ScoresFit pool required size ↔
      (isUnsatisfiable pool.length required.length size = false →
        ∀ groups rest, IsServing size pool required groups rest →
          groupingPoints groups rest ≤ Text.maxU32) := by
  constructor
  · intro hfit hsat groups rest h
    obtain ⟨blocks, hq, hpoints⟩ :=
      h.exists_qualifying (isUnsatisfiable_eq_false_iff.mp hsat).1 hn hm
    rw [← hpoints]
    exact hfit hsat blocks hq
  · intro hfit hsat blocks hq
    obtain ⟨b, hb, hsuits⟩ := hq.suits
    obtain ⟨groups, rest, h, hpoints, -⟩ := hq.exists_serving hb hsuits
    rw [← hpoints]
    exact hfit hsat _ _ h

/-! ## The policy -/

/-- **What the policy hands out is a best group of a best serving grouping.** -/
theorem bestEffort_bestServing {chosen : List Device} (hlinks : TwoSided pool) (hm : Mutual pool)
    (hn : pool.Nodup) (hfit : ScoresFit pool required size)
    (he : bestEffort pool required size = .ok chosen) (hne : chosen ≠ []) :
    ∃ groups rest, chosen.Sublist pool ∧ BestServing size pool required (chosen :: groups) rest ∧
      BestGroup required (chosen :: groups) chosen := by
  obtain ⟨hs, hle, hreq, -⟩ := (bestEffort_ne_nil_iff hlinks hfit he).mp hne
  obtain ⟨c, hc, ⟨-, rfl⟩ | ⟨blocks, block, hbest, hblock, rfl⟩⟩ :=
    bestEffort_answers hlinks hs hle hreq hfit
  · exact absurd (Except.ok.inj (he.symm.trans hc)) hne
  · obtain rfl := Except.ok.inj (he.symm.trans hc)
    obtain ⟨groups, rest, h, hpoints, hblocks⟩ :=
      hbest.toQualifying.exists_serving (FirstMax.mem hblock) hblock.1
    refine ⟨groups, rest, (hblock.devices hs hbest.admissible).2, ⟨h, ?_⟩, List.mem_cons_self,
      hblock.1.2, fun g hg hholds => ?_⟩
    · -- Another serving grouping is a split too, which the best one was compared with.
      intro others last ho
      obtain ⟨blocks', hq, hpoints'⟩ := ho.exists_qualifying hs hn hm
      rw [hpoints, ← hpoints']
      rcases hbest.best blocks' hq with hlt | ⟨heq, -⟩
      · exact Nat.le_of_lt hlt
      · exact Nat.le_of_eq heq
    · obtain ⟨b, hb, hl, rfl⟩ := hblocks g hg
      have hsuits : Suits pool required size b := ⟨hl, hholds⟩
      have hle := FirstMax.le hblock hb hsuits
      exact hle

/-! ## Requests that name no device -/

/-- The scores of a request that names no device fit if those of all groupings do. -/
theorem scoresFit_nil_iff (hs : 0 < size) (hle : size ≤ pool.length) (hn : pool.Nodup)
    (hm : Mutual pool) :
    ScoresFit pool [] size ↔
      ∀ groups rest, IsGrouping size pool groups rest →
        groupingPoints groups rest ≤ Text.maxU32 := by
  have hsat : isUnsatisfiable pool.length ([] : List Device).length size = false :=
    isUnsatisfiable_eq_false_iff.mpr ⟨hs, hle, Nat.zero_le _⟩
  rw [scoresFit_iff hn hm]
  exact ⟨fun h groups rest hg => h hsat groups rest (hg.serving hs hle),
    fun h _ groups rest hg => h groups rest hg.toIsGrouping⟩

/-- What the policy hands out is a group of a best grouping. -/
theorem bestEffort_bestGrouping (hlinks : TwoSided pool) (hm : Mutual pool) (hn : pool.Nodup)
    (hs : 0 < size) (hle : size ≤ pool.length) (hfit : ScoresFit pool [] size) :
    ∃ g groups rest, bestEffort pool [] size = .ok g ∧ g.Sublist pool ∧
      BestGrouping size pool (g :: groups) rest := by
  obtain ⟨g, he⟩ := bestEffort_ok hlinks hfit
  have hne : g ≠ [] :=
    (bestEffort_ne_nil_iff hlinks hfit he).mpr ⟨hs, hle, Nat.zero_le _, by simp⟩
  obtain ⟨groups, rest, hsub, hserving, -⟩ := bestEffort_bestServing hlinks hm hn hfit he hne
  exact ⟨g, groups, rest, he, hsub, hserving.toIsGrouping, fun others last ho =>
    hserving.best others last (ho.serving hs hle)⟩

end

end GpuPlacement
