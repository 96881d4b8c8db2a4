import GpuPlacement.Proofs.Allocator.Remaining
import GpuPlacement.Proofs.Policy.Servings

/-!
# Equal reservations strand no device

The reason why the best-effort policy looks at splits of the whole pool and not at single groups:
reserving one size over and over, until too few devices remain, deals the pool out in a best way.
Each reservation searches a smaller pool anew and may follow another split than the one before
it. That is no loss, since what a group of a best grouping leaves can be dealt out as well as that
grouping does (`BestGrouping.cons`, Proofs/Policy/Groupings.lean).
-/

set_option autoImplicit false

namespace GpuPlacement

/-- Scores that fit in a pool fit in what a group leaves of it. -/
theorem ScoresFit.of_perm_append {size : Nat} {pool left g : List Device}
    (h : ScoresFit pool [] size) (hp : (g ++ left).Perm pool) (hg : g.length = size)
    (hn : pool.Nodup) (hm : Mutual pool) : ScoresFit left [] size := by
  intro hsat
  obtain ⟨hs, hle, -⟩ := isUnsatisfiable_eq_false_iff.mp hsat
  have hsub : left ⊆ pool := fun d hd => hp.subset (List.mem_append_right g hd)
  have hleft : left.Nodup := ((hp.nodup_iff.mpr hn).sublist (List.sublist_append_right g left))
  have hle' : size ≤ pool.length := by
    rw [← hp.length_eq, List.length_append]
    omega
  refine (scoresFit_nil_iff hs hle hleft (hm.subset hsub)).mpr (fun groups rest hgroup => ?_) hsat
  have hall := (scoresFit_nil_iff hs hle' hn hm).mp h (g :: groups) rest
    ((IsGrouping.cons_iff hp hg).mpr hgroup)
  rw [groupingPoints_cons] at hall
  omega

namespace Allocator

variable {devices : List Device} {a : Allocator} {size : Nat}

/-- A pool that is too small for a group has one grouping, up to the order of the rest. -/
theorem bestGrouping_of_lt {pool : List Device} (hlt : pool.length < size) (hm : Mutual pool) :
    BestGrouping size pool [] pool := by
  refine ⟨⟨.refl _, by simp, (Nat.mod_eq_of_lt hlt).symm⟩, fun groups rest h => ?_⟩
  have hnil : groups = [] := by
    rw [← List.length_eq_zero_iff, h.length_groups (by omega)]
    exact Nat.div_eq_of_lt hlt
  subst hnil
  have hperm : rest.Perm pool := h.covers
  rw [groupingPoints, groupingPoints, setPoints_perm hperm (hm.subset hperm.subset)]

/-- One reservation: the policy picks a group of a best grouping, and it is granted. -/
theorem Sound.allocate_bestGrouping (hd : NodeDevices devices)
    (h : Sound devices .bestEffort a) (hs : 0 < size) (hle : size ≤ a.remaining.length)
    (hfit : ScoresFit a.remaining [] size) :
    ∃ g groups rest, BestGrouping size a.remaining (g :: groups) rest ∧
      g.Sublist a.remaining ∧ (a.allocate size).1 = .ok (g.map Device.index) ∧
      (g ++ (a.step (.allocate size)).remaining).Perm a.remaining := by
  obtain ⟨g, groups, rest, he, hsub, hbest⟩ := bestEffort_bestGrouping (h.twoSided_remaining hd)
    (h.mutual_remaining hd) (h.nodup_remaining hd) hs hle hfit
  have hpicks : Picks a.remaining size g :=
    ⟨hbest.full g (by simp), hsub.subset, (h.nodup_map_index_remaining hd).sublist (hsub.map _)⟩
  have hgrant := allocate_of_picks hd h hs he hpicks
  refine ⟨g, groups, rest, hbest, hsub, by rw [hgrant], ?_⟩
  rw [Allocator.step, hgrant]
  exact remaining_reserve_perm hd h hsub.subset ((h.nodup_remaining hd).sublist hsub)

/-- Reservations of one size, as many as the remaining devices allow, hand out the groups of a
best grouping and leave its rest. -/
theorem Sound.allocate_repeatedly (hd : NodeDevices devices) (h : Sound devices .bestEffort a)
    (hs : 0 < size) (hfit : ScoresFit a.remaining [] size) :
    ∃ groups : List (List Device), groups.length = a.remaining.length / size ∧
      (∀ i (hi : i < groups.length),
        ((a.run (List.replicate i (.allocate size))).allocate size).1
          = .ok (groups[i].map Device.index)) ∧
      BestGrouping size a.remaining groups
        (a.run (List.replicate (a.remaining.length / size) (.allocate size))).remaining := by
  induction hn : a.remaining.length / size generalizing a with
  | zero =>
    have hlt : a.remaining.length < size := (Nat.div_eq_zero_iff_lt hs).mp hn
    exact ⟨[], rfl, fun i hi => absurd hi (by simp),
      bestGrouping_of_lt hlt (h.mutual_remaining hd)⟩
  | succ n ih =>
    have hle : size ≤ a.remaining.length := by
      by_contra hlt
      rw [Nat.div_eq_of_lt (by omega)] at hn
      omega
    obtain ⟨g, groups, rest, hbest, -, hok, hperm⟩ := h.allocate_bestGrouping hd hs hle hfit
    have hg : g.length = size := hbest.full g (by simp)
    have hn' : (a.step (.allocate size)).remaining.length / size = n := by
      rw [← hperm.length_eq, List.length_append, hg, Nat.add_div_left _ hs] at hn
      exact Nat.succ.inj hn
    -- The pool that the first reservation leaves may be split in another way than it was planned
    -- for. That does not matter, as `BestGrouping.cons` says.
    obtain ⟨later, hlen, hgrant, hlater⟩ := ih (h.step _)
      (hfit.of_perm_append hperm hg (h.nodup_remaining hd) (h.mutual_remaining hd)) hn'
    refine ⟨g :: later, by rw [List.length_cons, hlen], fun i hi => ?_, hbest.cons hperm hlater⟩
    cases i with
    | zero => exact hok
    | succ i => exact hgrant i (by simpa using hi)

/-- **Equal reservations strand no device.** However an allocator over the devices of a topology
got where it is, reservations of one size succeed as often as the remaining devices allow; the
groups handed out and the devices left over have the most points that any way to deal the
remaining devices out to groups of that size has. -/
theorem allocate_repeatedly_optimal {t : Topology} (h : t.devices = .ok devices)
    (calls : List Call) (hsize : 1 ≤ size)
    (hfit : ScoresFit ((new devices .bestEffort).run calls).remaining [] size) :
    let a := (new devices .bestEffort).run calls
    let rounds := a.remaining.length / size
    ∃ groups : List (List Device), groups.length = rounds ∧
      (∀ i (hi : i < groups.length),
        ((a.run (List.replicate i (.allocate size))).allocate size).1
          = .ok (groups[i].map Device.index)) ∧
      IsGrouping size a.remaining groups
        (a.run (List.replicate rounds (.allocate size))).remaining ∧
      ∀ groups' rest', IsGrouping size a.remaining groups' rest' →
        groupingPoints groups' rest'
          ≤ groupingPoints groups (a.run (List.replicate rounds (.allocate size))).remaining := by
  intro a rounds
  have hsound : Sound devices .bestEffort a := sound_run_new devices .bestEffort calls
  obtain ⟨groups, hlen, hgrant, hbest⟩ :=
    hsound.allocate_repeatedly (Topology.nodeDevices h) hsize hfit
  exact ⟨groups, hlen, hgrant, hbest.toIsGrouping, hbest.best⟩

/-- With the first device reserved two pairs can be had of the other four. -/
theorem allocate_repeatedly_optimal_oddTopology :
    let a := (new oddPool .bestEffort).run [.allocateSpecific [0]]
    let rounds := a.remaining.length / 2
    ∃ groups : List (List Device), groups.length = rounds ∧
      (∀ i (hi : i < groups.length),
        ((a.run (List.replicate i (.allocate 2))).allocate 2).1
          = .ok (groups[i].map Device.index)) ∧
      IsGrouping 2 a.remaining groups
        (a.run (List.replicate rounds (.allocate 2))).remaining ∧
      ∀ groups' rest', IsGrouping 2 a.remaining groups' rest' →
        groupingPoints groups' rest'
          ≤ groupingPoints groups (a.run (List.replicate rounds (.allocate 2))).remaining :=
  allocate_repeatedly_optimal devices_oddTopology [.allocateSpecific [0]] (by decide)
    (scoresFit_of_partitions (by decide) (by decide) (by decide))

end Allocator
end GpuPlacement
