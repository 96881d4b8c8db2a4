import Mathlib
import GpuPlacement.Policy.Partition

/-!
# Splits of positions

What a split of positions is, said without saying how one is found. The blocks of a split carry
no padding; `completed` fills a block up when splits are compared. What the enumeration
(Proofs/Policy/Enumeration.lean) needs about splits is `isSplit_cons_iff`: the first block starts
with the first position, and the other blocks split what it leaves.
-/

set_option autoImplicit false

namespace GpuPlacement

/-- `blocks` splits `positions` into blocks of `size` and, unless `rest` is 0, one more block of
`rest` positions. Each block ascends, and the blocks stand in order of their first positions, so
that a split has one written form. -/
structure IsSplit (size rest : Nat) (positions : List Nat) (blocks : List (List Nat)) : Prop where
  covers : blocks.flatten.Perm positions
  ascending : ∀ b ∈ blocks, b.Pairwise (· < ·)
  ordered : blocks.Pairwise fun b c => b.head? < c.head?
  sizes : (blocks.map List.length).filter (· ≠ size) = if rest = 0 then [] else [rest]

/-- A split of `count` positions into blocks of `size`, with one block for those left over. -/
def Admissible (count size : Nat) (blocks : List (List Nat)) : Prop :=
  IsSplit size (count % size) (List.range count) blocks

/-- A block filled up to `size` with the positions from `count` on. -/
def completed (count size : Nat) (block : List Nat) : List Nat :=
  block ++ List.range' count (size - block.length)

/-- The positions that fill up a block of `rest`, none if there is no such block. -/
def paddingFor (count size rest : Nat) : List Nat :=
  if rest = 0 then [] else List.range' count (size - rest)

theorem completed_of_length {count size : Nat} {block : List Nat} (h : block.length = size) :
    completed count size block = block := by
  simp [completed, h]

@[simp] theorem paddingFor_zero (count size : Nat) : paddingFor count size 0 = [] := rfl

theorem length_paddingFor {count size rest : Nat} :
    (paddingFor count size rest).length = if rest = 0 then 0 else size - rest := by
  unfold paddingFor
  split <;> simp

/-! ## Blocks of a split -/

namespace IsSplit

variable {size rest : Nat} {positions : List Nat} {blocks : List (List Nat)}

theorem length_eq_or (h : IsSplit size rest positions blocks) {b : List Nat} (hb : b ∈ blocks) :
    b.length = size ∨ (rest ≠ 0 ∧ b.length = rest) := by
  by_cases hs : b.length = size
  · exact Or.inl hs
  · have hm : b.length ∈ (blocks.map List.length).filter (· ≠ size) := by
      simp only [List.mem_filter, List.mem_map, decide_eq_true_eq]
      exact ⟨⟨b, hb, rfl⟩, hs⟩
    rw [h.sizes] at hm
    split at hm
    · exact absurd hm (by simp)
    · rename_i hr
      exact Or.inr ⟨hr, List.mem_singleton.mp hm⟩

theorem length_pos (h : IsSplit size rest positions blocks) (hs : 0 < size) {b : List Nat}
    (hb : b ∈ blocks) : 0 < b.length := by
  rcases h.length_eq_or hb with hl | ⟨hr, hl⟩ <;> omega

theorem length_le (h : IsSplit size rest positions blocks) (hr : rest < size) {b : List Nat}
    (hb : b ∈ blocks) : b.length ≤ size := by
  rcases h.length_eq_or hb with hl | ⟨-, hl⟩ <;> omega

theorem mem_positions (h : IsSplit size rest positions blocks) {b : List Nat} (hb : b ∈ blocks)
    {p : Nat} (hp : p ∈ b) : p ∈ positions :=
  h.covers.mem_iff.mp (List.mem_flatten.mpr ⟨b, hb, hp⟩)

end IsSplit

/-- The blocks of a split without what they are filled up with. -/
def unpadded (count : Nat) (split : List (List Nat)) : List (List Nat) :=
  split.map (List.filter (· < count))

theorem unpadded_map_completed {count size : Nat} {blocks : List (List Nat)}
    (h : Admissible count size blocks) :
    unpadded count (blocks.map (completed count size)) = blocks := by
  have hblock : ∀ b ∈ blocks, (completed count size b).filter (· < count) = b := by
    intro b hb
    have hbelow : b.filter (· < count) = b := List.filter_eq_self.mpr fun p hp => by
      simpa using List.mem_range.mp (h.mem_positions hb hp)
    have hnone : (List.range' count (size - b.length)).filter (· < count) = [] :=
      List.filter_eq_nil_iff.mpr fun p hp => by simpa using (List.mem_range'_1.mp hp).1
    rw [completed, List.filter_append, hbelow, hnone, List.append_nil]
  rw [unpadded, List.map_map]
  exact (List.map_congr_left hblock).trans (List.map_id' blocks)

/-- Nothing is split by no block at all. -/
theorem isSplit_nil_iff {size rest : Nat} (hs : 0 < size) {blocks : List (List Nat)} :
    IsSplit size rest [] blocks ↔ blocks = [] ∧ rest = 0 := by
  constructor
  · intro h
    have hnil : blocks = [] := by
      cases blocks with
      | nil => rfl
      | cons b bs =>
        have hpos := h.length_pos hs (b := b) (by simp)
        have hb : b = [] := by
          have := h.covers
          simp only [List.flatten_cons, List.perm_nil, List.append_eq_nil_iff] at this
          exact this.1
        exact absurd hpos (by simp [hb])
    refine ⟨hnil, ?_⟩
    have hz := h.sizes
    rw [hnil] at hz
    by_contra hr
    simp [hr] at hz
  · intro hx
    obtain ⟨rfl, rfl⟩ := hx
    exact ⟨.nil, by simp, .nil, by simp⟩

/-- Taking ascending positions out of ascending ones leaves the others. -/
theorem filter_notMem_perm {chosen others positions : List Nat} (hn : positions.Nodup)
    (h : (chosen ++ others).Perm positions) : others.Perm (positions.filter (· ∉ chosen)) := by
  have hall : (chosen ++ others).Nodup := h.nodup_iff.mpr hn
  have hd : (chosen ++ others).filter (· ∉ chosen) = others := by
    rw [List.filter_append, List.filter_eq_nil_iff.mpr (by simp), List.nil_append,
      List.filter_eq_self]
    intro p hp
    simpa using fun hc => (List.nodup_append.mp hall).2.2 p hc p hp rfl
  rw [← hd]
  exact h.filter _

theorem append_filter_notMem_perm {chosen positions : List Nat} (hn : positions.Nodup)
    (h : chosen.Sublist positions) : (chosen ++ positions.filter (· ∉ chosen)).Perm positions := by
  obtain ⟨others, ho⟩ := h.exists_perm_append
  exact ((filter_notMem_perm hn ho.symm).symm.append_left chosen).trans ho.symm

theorem length_filter_notMem {chosen positions : List Nat} (hn : positions.Nodup)
    (h : chosen.Sublist positions) :
    chosen.length + (positions.filter (· ∉ chosen)).length = positions.length := by
  rw [← List.length_append]
  exact (append_filter_notMem_perm hn h).length_eq

/-- The first block of a split starts with the first position. -/
theorem IsSplit.head_eq {size rest first : Nat} {positions b : List Nat} {bs : List (List Nat)}
    (hs : 0 < size) (hasc : (first :: positions).Pairwise (· < ·))
    (h : IsSplit size rest (first :: positions) (b :: bs)) : b.head? = some first := by
  -- The block that holds the smallest position can have none before it.
  have hmin : ∀ p ∈ first :: positions, first ≤ p := by
    intro p hp
    rcases List.mem_cons.mp hp with rfl | hp
    · exact Nat.le_refl _
    · exact Nat.le_of_lt (List.rel_of_pairwise_cons hasc hp)
  obtain ⟨q, c, rfl⟩ : ∃ q c, b = q :: c :=
    List.exists_cons_of_length_pos (h.length_pos hs (by simp))
  have hq : first ≤ q := hmin q (h.mem_positions (b := q :: c) (by simp) (by simp))
  obtain ⟨b', hb', hf⟩ := List.mem_flatten.mp (h.covers.mem_iff.mpr (List.mem_cons_self))
  rcases List.mem_cons.mp hb' with rfl | hb'
  · rcases List.mem_cons.mp hf with rfl | hf
    · rfl
    · have := List.rel_of_pairwise_cons (h.ascending _ List.mem_cons_self) hf
      omega
  · -- A later block starts behind this one, so it can not hold the smallest position.
    have hlt := List.rel_of_pairwise_cons h.ordered hb'
    cases b' with
    | nil => exact absurd hf (by simp)
    | cons q' c' =>
      simp only [List.head?_cons, Option.some_lt_some] at hlt
      have hle : q' ≤ first := by
        rcases List.mem_cons.mp hf with rfl | hf
        · exact Nat.le_refl _
        · exact Nat.le_of_lt (List.rel_of_pairwise_cons
            (h.ascending _ (List.mem_cons_of_mem _ hb')) hf)
      omega

theorem head?_lt_of_mem {first : Nat} {positions : List Nat} {bs : List (List Nat)} {b : List Nat}
    (hne : b ≠ []) (hb : b ∈ bs) (hsub : ∀ p ∈ bs.flatten, p ∈ positions)
    (hlt : ∀ p ∈ positions, first < p) : some first < b.head? := by
  cases b with
  | nil => exact absurd rfl hne
  | cons q c =>
    exact Option.some_lt_some.mpr (hlt q (hsub q (List.mem_flatten.mpr ⟨_, hb, by simp⟩)))

/-- Of the block of `rest` positions there is at most one: `left` is its size in what a block of
`length` positions leaves, 0 if that block is the one. -/
inductive Leaves (size rest length : Nat) : (left : Nat) → Prop where
  | full (hl : length = size) : Leaves size rest length rest
  | short (hr : rest ≠ 0) (hl : length = rest) : Leaves size rest length 0

theorem Leaves.lt {size rest length left : Nat} (h : Leaves size rest length left)
    (hr : rest < size) : left < size := by
  cases h with
  | full _ => exact hr
  | short _ _ => exact Nat.zero_lt_of_lt hr

/-- A block with the padding before it is full, counting the padding it leaves. -/
theorem Leaves.length_add {size rest length left : Nat} (h : Leaves size rest length left)
    (count : Nat) (hr : rest < size) :
    length + (paddingFor count size rest).length
      = size + (paddingFor count size left).length := by
  cases h with
  | full hl => rw [hl]
  | short h0 hl =>
    rw [length_paddingFor, if_neg h0, paddingFor_zero, List.length_nil]
    omega

/-- A block that starts with the first position goes in front of a split of what it leaves. -/
theorem IsSplit.cons {size rest left first : Nat} {positions chosen : List Nat}
    {bs : List (List Nat)} (hs : 0 < size) (hasc : (first :: positions).Pairwise (· < ·))
    (hsub : chosen.Sublist positions) (h : IsSplit size left (positions.filter (· ∉ chosen)) bs)
    (hsizes : (((first :: chosen) :: bs).map List.length).filter (· ≠ size)
      = if rest = 0 then [] else [rest]) :
    IsSplit size rest (first :: positions) ((first :: chosen) :: bs) := by
  have hnodup : positions.Nodup := (List.pairwise_cons.mp hasc).2.imp Nat.ne_of_lt
  refine ⟨?_, ?_, ?_, hsizes⟩
  · rw [List.flatten_cons, List.cons_append]
    exact ((h.covers.append_left chosen).trans (append_filter_notMem_perm hnodup hsub)).cons first
  · intro c hc
    rcases List.mem_cons.mp hc with rfl | hc
    · exact hasc.sublist (hsub.cons_cons first)
    · exact h.ascending c hc
  · have hmem : ∀ p ∈ bs.flatten, p ∈ positions := fun p hp =>
      List.mem_of_mem_filter (h.covers.mem_iff.mp hp)
    refine List.pairwise_cons.mpr ⟨fun c hc => ?_, h.ordered⟩
    exact head?_lt_of_mem (List.length_pos_iff.mp (h.length_pos hs hc)) hc hmem
      fun p hp => List.rel_of_pairwise_cons hasc hp

/-- What the first block of a split leaves: the blocks behind it cover that, in their order. -/
theorem IsSplit.exists_chosen {size rest first : Nat} {positions b : List Nat}
    {bs : List (List Nat)} (hs : 0 < size) (hasc : (first :: positions).Pairwise (· < ·))
    (h : IsSplit size rest (first :: positions) (b :: bs)) :
    ∃ chosen, chosen.Sublist positions ∧ b = first :: chosen ∧
      bs.flatten.Perm (positions.filter (· ∉ chosen)) := by
  have hasc' := (List.pairwise_cons.mp hasc).2
  obtain ⟨chosen, rfl⟩ : ∃ chosen, b = first :: chosen := by
    have hhead := h.head_eq hs hasc
    cases b with
    | nil => exact absurd hhead (by simp)
    | cons q c => exact ⟨c, by simpa using hhead⟩
  have hperm : (chosen ++ bs.flatten).Perm positions := by
    simpa using h.covers
  have hsub : chosen.Sublist positions :=
    List.sublist_of_subperm_of_pairwise
      (hperm.subperm_left.mp (List.sublist_append_left _ _).subperm)
      (List.pairwise_cons.mp (h.ascending _ List.mem_cons_self)).2 hasc'
  exact ⟨chosen, hsub, rfl, filter_notMem_perm (hasc'.imp Nat.ne_of_lt) hperm⟩

/-- A split is its first block, which starts with the first position, before a split of the
positions that the block leaves. -/
theorem isSplit_cons_iff {size rest first : Nat} {positions b : List Nat} {bs : List (List Nat)}
    (hr : rest < size) (hasc : (first :: positions).Pairwise (· < ·)) :
    IsSplit size rest (first :: positions) (b :: bs) ↔
      ∃ chosen left, chosen.Sublist positions ∧ b = first :: chosen ∧
        Leaves size rest b.length left ∧ IsSplit size left (positions.filter (· ∉ chosen)) bs := by
  have hs : 0 < size := Nat.zero_lt_of_lt hr
  constructor
  · intro h
    obtain ⟨chosen, hsub, rfl, hcovers⟩ := h.exists_chosen hs hasc
    have hascending : ∀ c ∈ bs, c.Pairwise (· < ·) := fun c hc => h.ascending c (by simp [hc])
    have hordered := (List.pairwise_cons.mp h.ordered).2
    have hsizes := h.sizes
    rw [List.map_cons, List.filter_cons] at hsizes
    -- The first block is full, or it is the one of `rest` and no other one is.
    by_cases hl : (first :: chosen).length = size
    · rw [if_neg (by simpa using hl)] at hsizes
      exact ⟨chosen, rest, hsub, rfl, .full hl, hcovers, hascending, hordered, hsizes⟩
    · rw [if_pos (by simpa using hl)] at hsizes
      have hr0 : rest ≠ 0 := by
        intro h0
        rw [if_pos h0] at hsizes
        exact absurd hsizes (by simp)
      rw [if_neg hr0, List.cons.injEq] at hsizes
      exact ⟨chosen, 0, hsub, rfl, .short hr0 hsizes.1, hcovers, hascending, hordered,
        by simpa using hsizes.2⟩
  · intro hx
    obtain ⟨chosen, left, hsub, rfl, hleaves, h⟩ := hx
    apply h.cons hs hasc hsub
    rw [List.map_cons, List.filter_cons]
    cases hleaves with
    | full hl =>
      rw [if_neg (by simpa using hl)]
      exact h.sizes
    | short hr0 hl =>
      have hne : (first :: chosen).length ≠ size := by omega
      rw [if_pos (by simpa using hne), if_neg hr0, hl]
      exact congrArg (rest :: ·) h.sizes

end GpuPlacement
