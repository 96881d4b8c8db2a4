import GpuPlacement.Proofs.Numa.NodeList

/-!
# Runs of nodes

`runs` (Numa/NodeList.lean) cuts an ascending list of nodes wherever a number is missing. What it
gives is the one list of ranges with the nodes in them that is `Canonical`, and no other list of
ranges for the same nodes is shorter (`Canonical.length_le`).

Nodes are numbers of 32 bits, and whether two nodes are neighbours is decided by a sum. So the runs
are also made here from left to right with sums that may overflow (`runs?`). They do not: a sum is
only needed when a larger node follows.
-/

set_option autoImplicit false

namespace GpuPlacement.Numa.NodeList

/-! ## Canonical ranges -/

/-- Ranges that are not empty and ascend with at least one number missing between any two of them,
and contain these nodes and no others. -/
structure Canonical (nodes : List Int) (ranges : List (Int × Int)) : Prop where
  nonempty : ∀ range ∈ ranges, range.1 ≤ range.2
  apart : ranges.Pairwise fun range next => range.2 + 1 < next.1
  covers : ∀ n, Covers ranges n ↔ n ∈ nodes

namespace Canonical

variable {nodes : List Int} {ranges : List (Int × Int)}

theorem first_mem (h : Canonical nodes ranges) {range : Int × Int} (hr : range ∈ ranges) :
    range.1 ∈ nodes :=
  (h.covers _).mp ⟨range, hr, Int.le_refl _, h.nonempty range hr⟩

theorem last_mem (h : Canonical nodes ranges) {range : Int × Int} (hr : range ∈ ranges) :
    range.2 ∈ nodes :=
  (h.covers _).mp ⟨range, hr, h.nonempty range hr, Int.le_refl _⟩

theorem nil (h : Canonical nodes []) : nodes = [] := by
  refine List.eq_nil_iff_forall_not_mem.mpr fun n hn => ?_
  exact covers_nil ((h.covers n).mpr hn)

/-- A smaller node joins the first range if it is next to it, and is a range of its own if not. -/
theorem cons {n : Int} (h : Canonical nodes ranges) (hlt : ∀ m ∈ nodes, n < m) :
    Canonical (n :: nodes) (addToRuns n ranges) := by
  cases ranges with
  | nil =>
    obtain rfl := h.nil
    refine ⟨by simp [addToRuns], by simp [addToRuns], fun m => ?_⟩
    rw [addToRuns, covers_cons, List.mem_singleton]
    simp only [covers_nil, or_false]
    omega
  | cons range more =>
    obtain ⟨first, last⟩ := range
    have hfirst : n < first := hlt first (h.first_mem List.mem_cons_self)
    have hrange : first ≤ last := h.nonempty _ List.mem_cons_self
    obtain ⟨hgap, hmore⟩ := List.pairwise_cons.mp h.apart
    obtain ⟨-, hnonempty⟩ := List.forall_mem_cons.mp h.nonempty
    have hcovers : ∀ m, (first ≤ m ∧ m ≤ last) ∨ Covers more m ↔ m ∈ nodes :=
      fun m => covers_cons.symm.trans (h.covers m)
    rw [addToRuns]
    by_cases hnext : n + 1 = first
    · rw [if_pos hnext]
      refine ⟨List.forall_mem_cons.mpr ⟨?_, hnonempty⟩, List.pairwise_cons.mpr ⟨hgap, hmore⟩,
        fun m => ?_⟩
      · show n ≤ last
        omega
      · rw [covers_cons, List.mem_cons, ← hcovers, ← or_assoc]
        refine or_congr_left ?_
        show n ≤ m ∧ m ≤ last ↔ m = n ∨ (first ≤ m ∧ m ≤ last)
        omega
    · rw [if_neg hnext]
      refine ⟨List.forall_mem_cons.mpr ⟨Int.le_refl n, h.nonempty⟩,
        List.pairwise_cons.mpr ⟨fun next hnextmem => ?_, h.apart⟩, fun m => ?_⟩
      · show n + 1 < next.1
        rcases List.mem_cons.mp hnextmem with rfl | hmem
        · show n + 1 < first
          omega
        · have hlast : last + 1 < next.1 := hgap next hmem
          omega
      · rw [covers_cons, List.mem_cons, h.covers]
        refine or_congr_left ?_
        show n ≤ m ∧ m ≤ n ↔ m = n
        omega

/-- The number after a range is missing. -/
theorem succ_notMem (h : Canonical nodes ranges) {range : Int × Int} (hr : range ∈ ranges) :
    range.2 + 1 ∉ nodes := by
  intro hmem
  obtain ⟨other, ho, hle, hge⟩ := (h.covers _).mpr hmem
  have hrange := h.nonempty range hr
  obtain ⟨before, after, rfl⟩ := List.append_of_mem hr
  obtain ⟨-, hafter, hbefore⟩ := List.pairwise_append.mp h.apart
  rcases List.mem_append.mp ho with ho | ho
  · have hgap := hbefore other ho range List.mem_cons_self
    omega
  · rcases List.mem_cons.mp ho with rfl | ho
    · omega
    · have hgap := List.rel_of_pairwise_cons hafter ho
      omega

/-- **No fewer ranges contain the same nodes.** A range that contains the first nodes of two of
these would contain the number that is missing between them. -/
theorem length_le (h : Canonical nodes ranges) {others : List (Int × Int)}
    (ho : ∀ n, Covers others n ↔ n ∈ nodes) : ranges.length ≤ others.length := by
  have hfirst : ∀ range, ∃ other, range ∈ ranges →
      other ∈ others ∧ other.1 ≤ range.1 ∧ range.1 ≤ other.2 := by
    intro range
    by_cases hr : range ∈ ranges
    · obtain ⟨other, hother⟩ := (ho _).mpr (h.first_mem hr)
      exact ⟨other, fun _ => hother⟩
    · exact ⟨range, fun hmem => absurd hmem hr⟩
  choose holder hholder using hfirst
  have hnodup : (ranges.map holder).Nodup := by
    refine List.pairwise_map.mpr (h.apart.imp_of_mem fun {r s} hr hs hlt heq => ?_)
    obtain ⟨hmem, hle, -⟩ := hholder r hr
    obtain ⟨-, -, hge⟩ := hholder s hs
    rw [← heq] at hge
    have hrange := h.nonempty r hr
    exact h.succ_notMem hr ((ho _).mp ⟨holder r, hmem, by omega, by omega⟩)
  have hsubset : ranges.map holder ⊆ others := by
    intro other hmem
    obtain ⟨range, hr, rfl⟩ := List.mem_map.mp hmem
    exact (hholder range hr).1
  calc ranges.length = (ranges.map holder).length := (List.length_map holder).symm
    _ ≤ others.length := (List.subperm_of_subset hnodup hsubset).length_le

end Canonical

theorem canonical_runs {nodes : List Int} (h : nodes.Pairwise (· < ·)) :
    Canonical nodes (runs nodes) := by
  induction nodes with
  | nil => exact ⟨by simp [runs], by simp [runs], fun n => iff_of_false covers_nil (by simp)⟩
  | cons n nodes ih =>
    obtain ⟨hlt, hrest⟩ := List.pairwise_cons.mp h
    exact (ih hrest).cons hlt

/-! ## Sums of 32 bits -/

/-- A signed number of 32 bits. -/
def HasWord (n : Int) : Prop := -2 ^ 31 ≤ n ∧ n < 2 ^ 31

/-- The number after a node, unless the sum overflows. -/
def successor? (n : Int) : Option Int := if n + 1 < 2 ^ 31 then some (n + 1) else none

/-- Puts a node behind the runs of smaller ones: it joins the last run if it is next to it. -/
def addNext? : List (Int × Int) → Int → Option (List (Int × Int))
  | [], n => some [(n, n)]
  | [(first, last)], n => (successor? last).map fun next =>
    if next = n then [(first, n)] else [(first, last), (n, n)]
  | range :: more, n => (addNext? more n).map fun more => range :: more

/-- The runs of an ascending list from left to right, unless a sum overflows. -/
def runs? (nodes : List Int) : Option (List (Int × Int)) := nodes.foldlM addNext? []

theorem successor?_of_lt {m n : Int} (hlt : m < n) (hn : HasWord n) :
    successor? m = some (m + 1) := by
  have := hn.2
  rw [successor?, if_pos (by omega)]

/-- A node at the front and a node at the back do not disturb each other. -/
theorem addNext?_addToRuns {m n : Int} {ranges out : List (Int × Int)}
    (hm : successor? m = some (m + 1)) (h : addNext? ranges n = some out) :
    addNext? (addToRuns m ranges) n = some (addToRuns m out) := by
  match ranges with
  | [] =>
    obtain rfl := Option.some.inj h
    by_cases hnext : m + 1 = n <;> simp [addToRuns, addNext?, hm, hnext]
  | [(first, last)] =>
    rw [addNext?] at h
    obtain ⟨next, hs, rfl⟩ := Option.map_eq_some_iff.mp h
    by_cases hjoin : next = n <;> by_cases hnext : m + 1 = first <;>
      simp [addToRuns, addNext?, hs, hjoin, hnext]
  | (first, last) :: range :: more =>
    have h : (addNext? (range :: more) n).map (fun more => (first, last) :: more) = some out := h
    obtain ⟨out', hout, rfl⟩ := Option.map_eq_some_iff.mp h
    by_cases hnext : m + 1 = first <;> simp [addToRuns, addNext?, hnext, hout]

theorem addNext?_runs {nodes : List Int} {n : Int} (hlt : ∀ m ∈ nodes, m < n) (hn : HasWord n) :
    addNext? (runs nodes) n = some (runs (nodes ++ [n])) := by
  induction nodes with
  | nil => rfl
  | cons m nodes ih =>
    obtain ⟨hm, hrest⟩ := List.forall_mem_cons.mp hlt
    exact addNext?_addToRuns (successor?_of_lt hm hn) (ih hrest)

/-- **No sum overflows**, and the runs are the same from either end. -/
theorem runs?_eq {nodes : List Int} (h : nodes.Pairwise (· < ·)) (hwords : ∀ n ∈ nodes, HasWord n) :
    runs? nodes = some (runs nodes) := by
  induction nodes using List.reverseRecOn with
  | nil => rfl
  | append_singleton nodes n ih =>
    obtain ⟨hnodes, -, hlt⟩ := List.pairwise_append.mp h
    have hn : HasWord n := hwords n (by simp)
    rw [runs?, List.foldlM_append, ← runs?, ih hnodes fun m hm => hwords m (by simp [hm])]
    show (addNext? (runs nodes) n).bind some = _
    rw [addNext?_runs (fun m hm => hlt m hm n (by simp)) hn]
    rfl

end GpuPlacement.Numa.NodeList
