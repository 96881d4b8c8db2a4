import Mathlib
import GpuPlacement.Numa.NodeList

/-!
# What a node list denotes

`sortedDistinct` (Numa/NodeList.lean) sorts and then drops repeats, which after sorting stand next
to each other. What is read from a text is therefore strictly ascending, and a text that can not
be read is the subject of its error.
-/

set_option autoImplicit false

namespace GpuPlacement.Numa.NodeList

/-- The second half of `sortedDistinct`: of equal neighbours one is kept. -/
def dropRepeats (nodes : List Int) : List Int :=
  nodes.foldr (fun n out => if out.head? = some n then out else n :: out) []

theorem sortedDistinct_eq (nodes : List Int) :
    sortedDistinct nodes = dropRepeats (nodes.mergeSort fun m n => m ≤ n) := rfl

theorem dropRepeats_cons (n : Int) (nodes : List Int) :
    dropRepeats (n :: nodes)
      = if (dropRepeats nodes).head? = some n then dropRepeats nodes else n :: dropRepeats nodes :=
  rfl

theorem mem_dropRepeats {m : Int} {nodes : List Int} : m ∈ dropRepeats nodes ↔ m ∈ nodes := by
  induction nodes with
  | nil => exact Iff.rfl
  | cons n nodes ih =>
    rw [dropRepeats_cons, List.mem_cons]
    split
    · rename_i hhead
      rw [ih]
      constructor
      · exact Or.inr
      · rintro (rfl | hm)
        · exact ih.mp (List.mem_of_head? hhead)
        · exact hm
    · rw [List.mem_cons, ih]

theorem dropRepeats_ascending {nodes : List Int} (h : nodes.Pairwise (· ≤ ·)) :
    (dropRepeats nodes).Pairwise (· < ·) := by
  induction nodes with
  | nil => exact .nil
  | cons n nodes ih =>
    obtain ⟨hle, hrest⟩ := List.pairwise_cons.mp h
    rw [dropRepeats_cons]
    split
    · exact ih hrest
    · rename_i hhead
      refine List.pairwise_cons.mpr ⟨fun m hm => ?_, ih hrest⟩
      refine Int.lt_iff_le_and_ne.mpr ⟨hle m (mem_dropRepeats.mp hm), ?_⟩
      rintro rfl
      -- Of the larger nodes the first is the smallest, so one that is no larger is the first.
      cases hd : dropRepeats nodes with
      | nil =>
        rw [hd] at hm
        exact absurd hm (by simp)
      | cons k rest =>
        have hk : n ≤ k := hle k (mem_dropRepeats.mp (hd ▸ List.mem_cons_self))
        have hasc := ih hrest
        rw [hd] at hm hhead hasc
        rcases List.mem_cons.mp hm with rfl | hm
        · exact hhead rfl
        · have := List.rel_of_pairwise_cons hasc hm
          omega

theorem sortedDistinct_ascending (nodes : List Int) :
    (sortedDistinct nodes).Pairwise (· < ·) := by
  rw [sortedDistinct_eq]
  exact dropRepeats_ascending (List.pairwise_mergeSort' _ nodes)

theorem mem_sortedDistinct {n : Int} {nodes : List Int} : n ∈ sortedDistinct nodes ↔ n ∈ nodes := by
  rw [sortedDistinct_eq, mem_dropRepeats]
  exact List.mem_mergeSort

/-- A set of nodes has one ascending list. -/
theorem eq_of_ascending {nodes more : List Int} (h : nodes.Pairwise (· < ·))
    (h' : more.Pairwise (· < ·)) (hsame : ∀ n, n ∈ nodes ↔ n ∈ more) : nodes = more := by
  have hperm : nodes.Perm more :=
    (List.perm_ext_iff_of_nodup (h.imp Int.ne_of_lt) (h'.imp Int.ne_of_lt)).mpr fun n => hsame n
  exact hperm.eq_of_pairwise (fun _ _ _ _ hlt hgt => absurd hgt (Int.lt_asymm hlt)) h h'

/-- What `sortedDistinct` gives is the one ascending list of the same nodes. -/
theorem sortedDistinct_eq_iff {nodes sorted : List Int} :
    sortedDistinct nodes = sorted ↔ sorted.Pairwise (· < ·) ∧ ∀ n, n ∈ sorted ↔ n ∈ nodes := by
  constructor
  · rintro rfl
    exact ⟨sortedDistinct_ascending nodes, fun n => mem_sortedDistinct⟩
  · intro h
    exact eq_of_ascending (sortedDistinct_ascending nodes) h.1
      fun n => mem_sortedDistinct.trans (h.2 n).symm

theorem sortedDistinct_congr {nodes more : List Int} (h : ∀ n, n ∈ nodes ↔ n ∈ more) :
    sortedDistinct nodes = sortedDistinct more :=
  sortedDistinct_eq_iff.mpr
    ⟨sortedDistinct_ascending more, fun n => mem_sortedDistinct.trans (h n).symm⟩

theorem sortedDistinct_of_ascending {nodes : List Int} (h : nodes.Pairwise (· < ·)) :
    sortedDistinct nodes = nodes :=
  sortedDistinct_eq_iff.mpr ⟨h, fun _ => Iff.rfl⟩

/-- Some of these closed ranges, each given by its first and its last node, contains a node. -/
def Covers (ranges : List (Int × Int)) (n : Int) : Prop := ∃ range ∈ ranges, range.1 ≤ n ∧ n ≤ range.2

theorem covers_nil {n : Int} : ¬ Covers [] n := by simp [Covers]

theorem covers_cons {range : Int × Int} {ranges : List (Int × Int)} {n : Int} :
    Covers (range :: ranges) n ↔ (range.1 ≤ n ∧ n ≤ range.2) ∨ Covers ranges n := by
  simp [Covers]

theorem covers_append {ranges more : List (Int × Int)} {n : Int} :
    Covers (ranges ++ more) n ↔ Covers ranges n ∨ Covers more n := by
  simp only [Covers, List.mem_append, or_and_right, exists_or]

/-! ## Reading -/

theorem parse_of_ne_nil {input : String} (h : Text.trim input.toList ≠ []) :
    parse input = match readParts (Text.splitOn ',' (Text.trim input.toList)) with
      | .error cause => .error (.invalidNodeList input cause)
      | .ok nodes => .ok (sortedDistinct (nodes.map Int.ofNat)) := by
  rw [parse]
  split
  · rename_i hnil
    exact absurd hnil h
  · rfl

theorem parse_ascending {input : String} {nodes : List Int} (h : parse input = .ok nodes) :
    nodes.Pairwise (· < ·) := by
  unfold parse at h
  split at h
  · obtain rfl := Except.ok.inj h
    exact .nil
  · split at h
    · exact absurd h (by simp)
    · obtain rfl := Except.ok.inj h
      exact sortedDistinct_ascending _

theorem parse_error {input : String} {e : Error} (h : parse input = .error e) :
    ∃ cause, e = .invalidNodeList input cause := by
  unfold parse at h
  split at h
  · exact absurd h (by simp)
  · split at h
    · exact ⟨_, (Except.error.inj h).symm⟩
    · exact absurd h (by simp)

end GpuPlacement.Numa.NodeList
