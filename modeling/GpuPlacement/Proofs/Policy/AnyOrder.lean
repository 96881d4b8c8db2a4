import GpuPlacement.Proofs.Policy.Servings
import GpuPlacement.Proofs.Topology.Pools

/-!
# Requests in any order

The same devices in another order make the search meet other splits first, score every pair from the
other end and break ties differently. It may then hand out other devices, but no worse ones:
serving groupings, their points and their groups are the same in every order, and what is handed out
is a best group of a best one both times. Where that leaves no choice (`OneBest`) the answers have
the same devices (`bestEffort_anyOrder`).
-/

set_option autoImplicit false

namespace GpuPlacement

section

variable {size : Nat} {pool pool' required required' rest rest' : List Device}
  {groups groups' : List (List Device)}

/-! ## What the order does not change -/

theorem Holds.perm {group : List Device} (h : Holds required group)
    (hr : required'.Perm required) : Holds required' group :=
  fun d hd => h d (hr.subset hd)

theorem IsServing.perm (h : IsServing size pool required groups rest) (hp : pool.Perm pool')
    (hr : required'.Perm required) : IsServing size pool' required' groups rest where
  covers := h.covers.trans hp
  full := h.full
  left := h.left.trans (congrArg (· % size) hp.length_eq)
  serves := by
    obtain ⟨g, hg, hholds⟩ := h.serves
    exact ⟨g, hg, hholds.perm hr⟩

theorem BestServing.perm (h : BestServing size pool required groups rest) (hp : pool.Perm pool')
    (hr : required.Perm required') : BestServing size pool' required' groups rest where
  toIsServing := h.toIsServing.perm hp hr.symm
  best := fun groups' rest' ho => h.best groups' rest' (ho.perm hp.symm hr)

theorem BestGroup.perm {g : List Device} (h : BestGroup required groups g)
    (hr : required.Perm required') : BestGroup required' groups g where
  mem := h.mem
  holds := h.holds.perm hr.symm
  best := fun other ho hholds => h.best other ho (hholds.perm hr)

theorem ScoresFit.perm (h : ScoresFit pool required size) (hn : pool.Nodup) (hm : Mutual pool)
    (hp : pool.Perm pool') (hr : required.Perm required') : ScoresFit pool' required' size := by
  rw [scoresFit_iff hn hm, hp.length_eq, hr.length_eq] at h
  rw [scoresFit_iff (hp.nodup_iff.mp hn) (hm.subset hp.symm.subset)]
  exact fun hsat groups rest hs => h hsat groups rest (hs.perm hp.symm hr)

/-! ## Where there is no choice -/

/-- There is one best serving grouping, and one group of it to hand out, up to the order of groups
and of their devices. -/
structure OneBest (size : Nat) (pool required : List Device) : Prop where
  grouping : ∀ {groups groups' rest rest'}, BestServing size pool required groups rest →
    BestServing size pool required groups' rest' → ∀ g ∈ groups, ∃ g' ∈ groups', g.Perm g'
  group : ∀ {groups rest g g'}, BestServing size pool required groups rest →
    BestGroup required groups g → BestGroup required groups g' → g.Perm g'

/-- Then it is the same group, whichever of the best groupings it is taken from. -/
theorem OneBest.perm (hone : OneBest size pool required) (hm : Mutual pool)
    (h : BestServing size pool required groups rest)
    (h' : BestServing size pool required groups' rest') {g g' : List Device}
    (hg : BestGroup required groups g) (hg' : BestGroup required groups' g') : g.Perm g' := by
  have hpoints : ∀ {a b : List Device}, a ∈ groups → a.Perm b → setPoints a = setPoints b :=
    fun ha hp => setPoints_perm hp (hm.subset (h.subset ha))
  obtain ⟨same, hmem, hp⟩ := hone.grouping h h' g hg.mem
  refine hp.trans (hone.group h' ⟨hmem, hg.holds.subset hp.subset, fun other ho hholds => ?_⟩ hg')
  -- Every group of the second grouping is one of the first, where `g` is best.
  obtain ⟨other', ho', hp'⟩ := hone.grouping h' h other ho
  rw [← hpoints hg.mem hp, ← hpoints ho' hp'.symm]
  exact hg.best other' ho' (hholds.subset hp'.subset)

end

/-! ## The policy -/

/-- **The quality of an answer does not depend on order.** Take devices of a topology and required
ones, and the same in another order. Both requests get nothing, or both get a best group of a best
serving grouping; if there is only one, they get the same devices. -/
theorem bestEffort_anyOrder {t : Topology} {devices : List Device} (h : t.devices = .ok devices)
    {available available' required required' : List Device} {size : Nat}
    (hsub : available ⊆ devices) (hn : available.Nodup) (ha : available'.Perm available)
    (hr : required'.Perm required) (hfit : ScoresFit available required size) :
    ∃ chosen chosen', bestEffort available required size = .ok chosen ∧
      bestEffort available' required' size = .ok chosen' ∧ (chosen = [] ↔ chosen' = []) ∧
      (chosen ≠ [] → ∀ c ∈ [chosen, chosen'], ∃ groups rest,
        BestServing size available required groups rest ∧ BestGroup required groups c) ∧
      (OneBest size available required → chosen.Perm chosen') := by
  have hd := Topology.nodeDevices h
  have hlinks := hd.twoSided_of_subset hsub
  have hm := hd.mutual_of_subset hsub
  have hsub' : available' ⊆ devices := fun d hd => hsub (ha.subset hd)
  have hlinks' := hd.twoSided_of_subset hsub'
  have hfit' := hfit.perm hn hm ha.symm hr.symm
  obtain ⟨chosen, he⟩ := bestEffort_ok hlinks hfit
  obtain ⟨chosen', he'⟩ := bestEffort_ok hlinks' hfit'
  -- Which requests are served is a matter of members and lengths.
  have hboth : chosen ≠ [] ↔ chosen' ≠ [] := by
    rw [bestEffort_ne_nil_iff hlinks hfit he, bestEffort_ne_nil_iff hlinks' hfit' he',
      ha.length_eq, hr.length_eq]
    simp only [ha.mem_iff, hr.mem_iff]
  have hbest : chosen ≠ [] → ∀ c ∈ [chosen, chosen'], ∃ groups rest,
      BestServing size available required groups rest ∧ BestGroup required groups c := by
    intro hne c hc
    rcases List.mem_pair.mp hc with rfl | rfl
    · obtain ⟨groups, rest, -, hserving, hgroup⟩ := bestEffort_bestServing hlinks hm hn hfit he hne
      exact ⟨_, rest, hserving, hgroup⟩
    · obtain ⟨groups, rest, -, hserving, hgroup⟩ := bestEffort_bestServing hlinks'
        (hd.mutual_of_subset hsub') (ha.nodup_iff.mpr hn) hfit' he' (hboth.mp hne)
      exact ⟨_, rest, hserving.perm ha hr, hgroup.perm hr⟩
  refine ⟨chosen, chosen', he, he', not_iff_not.mp hboth, hbest, fun hone => ?_⟩
  by_cases hne : chosen = []
  · rw [hne, not_iff_not.mp hboth |>.mp hne]
  · obtain ⟨groups, rest, hserving, hgroup⟩ := hbest hne chosen (by simp)
    obtain ⟨groups', rest', hserving', hgroup'⟩ := hbest hne chosen' (by simp)
    exact hone.perm hm hserving hserving' hgroup hgroup'

/-- Of five devices four are best connected without the first, which has no links. -/
theorem oneBest_oddPool : OneBest 4 oddPool (oddPool.drop 4) := by
  have hall : ∀ {groups rest}, BestServing 4 oddPool (oddPool.drop 4) groups rest →
      ∃ g, groups = [g] ∧ g.Perm (oddPool.drop 1) := by
    intro groups rest h
    obtain ⟨g, rfl⟩ := List.length_eq_one_iff.mp (h.length_groups (by decide))
    obtain ⟨d, rfl⟩ := List.length_eq_one_iff.mp h.left
    have hcovers : (d :: g).Perm oddPool := (List.perm_append_singleton d g).symm.trans
      (by simpa using h.covers)
    have hd : d ∈ oddPool := hcovers.subset List.mem_cons_self
    have hg : g.Perm (oddPool.erase d) := (List.cons_perm_iff_perm_erase.mp hcovers).2
    have hbest := h.best [oddPool.drop 1] [oddPool[0]] ⟨⟨by decide, by decide, rfl⟩, _,
      List.mem_singleton_self _, by unfold Holds; decide⟩
    have hm := (Topology.nodeDevices devices_oddTopology).mutual_of_subset
      (h.subset (List.mem_singleton_self g))
    rw [groupingPoints_cons g, setPoints_perm hg hm, ← groupingPoints_cons] at hbest
    have honly : ∀ d ∈ oddPool, groupingPoints [oddPool.drop 1] [oddPool[0]]
        ≤ groupingPoints [oddPool.erase d] [d] → oddPool.erase d = oddPool.drop 1 := by decide
    exact ⟨g, rfl, hg.trans (.of_eq (honly d hd hbest))⟩
  constructor
  · intro groups groups' rest rest' h h' g hg
    obtain ⟨b, rfl, hb⟩ := hall h
    obtain ⟨b', rfl, hb'⟩ := hall h'
    obtain rfl := List.mem_singleton.mp hg
    exact ⟨b', List.mem_singleton_self _, hb.trans hb'.symm⟩
  · intro groups rest g g' h hg hg'
    obtain ⟨b, rfl, -⟩ := hall h
    rw [List.mem_singleton.mp hg.mem, List.mem_singleton.mp hg'.mem]

theorem bestEffort_anyOrder_oddTopology :
    ∃ chosen chosen', bestEffort oddPool (oddPool.drop 4) 4 = .ok chosen ∧
      bestEffort oddPool.reverse (oddPool.drop 4) 4 = .ok chosen' ∧ chosen.Perm chosen' := by
  have hfit : ScoresFit oddPool (oddPool.drop 4) 4 :=
    scoresFit_of_partitions (by decide) (by decide) (by decide)
  obtain ⟨chosen, chosen', he, he', -, -, hsame⟩ := bestEffort_anyOrder devices_oddTopology
    (List.Subset.refl oddPool) (by decide) (List.reverse_perm oddPool) (.refl (oddPool.drop 4)) hfit
  exact ⟨chosen, chosen', he, he', hsame oneBest_oddPool⟩

end GpuPlacement
