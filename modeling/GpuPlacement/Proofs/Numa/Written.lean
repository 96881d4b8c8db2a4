import GpuPlacement.Numa.Filter
import GpuPlacement.Proofs.Numa.Notation

/-!
# Written nodes read back

A constraint is its nodes in decimal digits, with commas between them (`written`). Splitting it at
the commas gives the digits back, so no two lists of nodes are written alike, and it is in the
notation of node lists (Proofs/Numa/Notation.lean) unless some number is not:

> `parse_written` — if every node has 16 bits, what is read is the set of the nodes;
> `parse_written_error` — if some node does not, nothing is read.

Nodes are integers of 32 bits everywhere else, so the condition is one that has to be stated.
-/

set_option autoImplicit false

namespace GpuPlacement.Numa

/-- Nodes with commas between them. -/
def written (nodes : List Int) : String := String.intercalate "," (nodes.map toString)

/-- A node that a node list can name. -/
def Readable (node : Int) : Prop := 0 ≤ node ∧ node ≤ Text.maxU16

instance (node : Int) : Decidable (Readable node) :=
  inferInstanceAs (Decidable (0 ≤ node ∧ node ≤ Text.maxU16))

/-! ## One node -/

theorem toList_toString_of_nonneg {n : Int} (h : 0 ≤ n) :
    (toString n).toList = Nat.toDigits 10 n.toNat := by
  rw [Int.toString_eq_repr, Int.repr_eq_if, if_pos h, Nat.toList_repr]

theorem toList_toString_of_neg {n : Int} (h : n < 0) :
    (toString n).toList = '-' :: Nat.toDigits 10 (-n).toNat := by
  rw [Int.toString_eq_repr, Int.repr_eq_if, if_neg (by omega), String.toList_append,
    Nat.toList_repr]
  rfl

/-- A written node is digits, perhaps behind a hyphen. -/
theorem isDigit_or_hyphen {n : Int} {c : Char} (h : c ∈ (toString n).toList) :
    Text.isDigit c = true ∨ c = '-' := by
  rcases Int.lt_or_le n 0 with hn | hn
  · rw [toList_toString_of_neg hn, List.mem_cons] at h
    exact h.symm.imp_left Text.isDigit_of_mem_toDigits
  · rw [toList_toString_of_nonneg hn] at h
    exact Or.inl (Text.isDigit_of_mem_toDigits h)

theorem toList_toString_ne_nil (n : Int) : (toString n).toList ≠ [] := by
  rcases Int.lt_or_le n 0 with hn | hn
  · rw [toList_toString_of_neg hn]
    exact List.cons_ne_nil _ _
  · rw [toList_toString_of_nonneg hn]
    exact Nat.toDigits_ne_nil

theorem comma_notMem_toString (n : Int) : ',' ∉ (toString n).toList := by
  intro h
  rcases isDigit_or_hyphen h with h | h <;> exact absurd h (by decide)

theorem isBlank_of_mem_toString {n : Int} {c : Char} (h : c ∈ (toString n).toList) :
    Text.isBlank c = false := by
  rcases isDigit_or_hyphen h with h | rfl
  · exact Text.isBlank_of_isDigit h
  · decide

/-! ## Lists of nodes -/

theorem toList_written (nodes : List Int) :
    (written nodes).toList = List.intercalate [','] (nodes.map fun n => (toString n).toList) := by
  rw [written, String.toList_intercalate, List.map_map]
  rfl

theorem splitOn_written {nodes : List Int} (h : nodes ≠ []) :
    Text.splitOn ',' (written nodes).toList = nodes.map fun n => (toString n).toList := by
  rw [toList_written]
  refine Text.splitOn_intercalate (by simpa using h) fun piece hp => ?_
  obtain ⟨n, -, rfl⟩ := List.mem_map.mp hp
  exact comma_notMem_toString n

theorem isBlank_of_mem_written {nodes : List Int} {c : Char} (h : c ∈ (written nodes).toList) :
    Text.isBlank c = false := by
  rw [toList_written] at h
  rcases Text.mem_intercalate h with rfl | ⟨piece, hp, hc⟩
  · decide
  · obtain ⟨n, -, rfl⟩ := List.mem_map.mp hp
    exact isBlank_of_mem_toString hc

theorem trim_written (nodes : List Int) :
    Text.trim (written nodes).toList = (written nodes).toList :=
  Text.trim_eq_self fun _ h => isBlank_of_mem_written h

theorem written_ne_empty {nodes : List Int} (h : nodes ≠ []) : (written nodes).toList ≠ [] := by
  intro hnil
  have hsplit := splitOn_written h
  rw [hnil, Text.splitOn] at hsplit
  -- One empty piece would have to be a node without digits.
  obtain ⟨n, rest, rfl⟩ := List.exists_cons_of_ne_nil h
  rw [List.map_cons, List.cons.injEq] at hsplit
  exact toList_toString_ne_nil n hsplit.1.symm

theorem constraint_eq {nodes : List Int} :
    Filter.constraint nodes = if nodes = [] then none else some (written nodes) := by
  simp only [Filter.constraint, List.isEmpty_iff, written]

/-- No two lists of nodes are the same constraint. -/
theorem constraint_injective {nodes more : List Int}
    (h : Filter.constraint nodes = Filter.constraint more) : nodes = more := by
  rw [constraint_eq, constraint_eq] at h
  by_cases hn : nodes = [] <;> by_cases hm : more = []
  · rw [hn, hm]
  · rw [if_pos hn, if_neg hm] at h
    exact absurd h (by simp)
  · rw [if_neg hn, if_pos hm] at h
    exact absurd h (by simp)
  · rw [if_neg hn, if_neg hm, Option.some.injEq] at h
    have hsplit := splitOn_written hn
    rw [h, splitOn_written hm] at hsplit
    refine (List.map_injective_iff.mpr (fun m n hmn => ?_) hsplit).symm
    exact Int.repr_inj.mp (String.toList_inj.mp hmn)

/-! ## Reading -/

theorem hyphen_notMem_toString {n : Int} (h : 0 ≤ n) : '-' ∉ (toString n).toList := by
  rw [toList_toString_of_nonneg h]
  exact fun hmem => absurd (Text.isDigit_of_mem_toDigits hmem) (by decide)

theorem trim_toString (n : Int) : Text.trim (toString n).toList = (toString n).toList :=
  Text.trim_eq_self fun _ hc => isBlank_of_mem_toString hc

namespace NodeList

theorem writes_toString {n : Int} (h : Readable n) : Writes (toString n).toList n.toNat := by
  obtain ⟨h0, hle⟩ := h
  rw [writes_iff, trim_toString, toList_toString_of_nonneg h0]
  exact ⟨Text.numeral_toDigits n.toNat, by omega⟩

theorem part_toString {n : Int} (h : Readable n) : Part (toString n).toList (n, n) := by
  have hpart := Part.number (writes_toString h)
  rwa [Int.toNat_of_nonneg h.1] at hpart

/-- A node that has no 16 bits is too large, or has nothing in front of its hyphen. -/
theorem readable_of_part {n : Int} {range : Int × Int} (h : Part (toString n).toList range) :
    Readable n := by
  generalize htext : (toString n).toList = text at h
  cases h with
  | @number _ k hk =>
    have hnum := writes_iff.mp hk
    rw [← htext, trim_toString] at hnum
    rcases Int.lt_or_le n 0 with hn | hn
    · rw [toList_toString_of_neg hn] at hnum
      rcases hnum.1.isDigit_or_plus '-' List.mem_cons_self with hc | hc <;>
        exact absurd hc (by decide)
    · have hread := Text.readNat_eq_ok_iff.mpr hnum
      rw [toList_toString_of_nonneg hn, Text.readNat_toDigits_eq] at hread
      by_cases hle : n.toNat ≤ Text.maxU16
      · exact ⟨hn, by omega⟩
      · rw [if_neg hle] at hread
        exact absurd hread (by simp)
  | @range first _ m _ hno hm _ _ =>
    rcases Int.lt_or_le n 0 with hn | hn
    · rw [toList_toString_of_neg hn] at htext
      cases first with
      | nil => exact absurd rfl (writes_iff.mp hm).1.ne_nil
      | cons c first => exact absurd (by rw [(List.cons.inj htext).1]; simp) hno
    · exact absurd (by rw [htext]; simp) (hyphen_notMem_toString hn)

theorem denotes_written {nodes : List Int} (hne : nodes ≠ []) (h : ∀ n ∈ nodes, Readable n) :
    Denotes (written nodes).toList (nodes.map fun n => (n, n)) := by
  rw [denotes_iff, splitOn_written hne, List.forall₂_map_left_iff, List.forall₂_map_right_iff]
  exact List.forall₂_same.mpr fun n hn => part_toString (h n hn)

theorem covers_singletons {nodes : List Int} {n : Int} :
    Covers (nodes.map fun m => (m, m)) n ↔ n ∈ nodes := by
  constructor
  · rintro ⟨_, hrange, hle, hge⟩
    obtain ⟨m, hm, rfl⟩ := List.mem_map.mp hrange
    rwa [Int.le_antisymm hge hle]
  · exact fun hn => ⟨_, List.mem_map_of_mem hn, Int.le_refl n, Int.le_refl n⟩

/-- **Nodes of 16 bits are read back as a set.** -/
theorem parse_written {nodes : List Int} (h : ∀ n ∈ nodes, Readable n) :
    parse (written nodes) = .ok (sortedDistinct nodes) := by
  by_cases hn : nodes = []
  · rw [hn, sortedDistinct_of_ascending .nil]
    rfl
  · obtain ⟨back, hback, hasc, hmem⟩ := parse_of_denotes (denotes_written hn h)
    rw [hback, sortedDistinct_eq_iff.mpr ⟨hasc, fun n => (hmem n).trans covers_singletons⟩]

/-- Other nodes are not read back at all. -/
theorem parse_written_error {nodes : List Int} (h : ∃ n ∈ nodes, ¬ Readable n) :
    ∃ cause, parse (written nodes) = .error (.invalidNodeList (written nodes) cause) := by
  obtain ⟨n, hn, hlarge⟩ := h
  have hne : nodes ≠ [] := List.ne_nil_of_mem hn
  refine exists_parse_error (notBlank_iff.mpr ?_) fun hranges => ?_
  · rw [trim_written]
    exact written_ne_empty hne
  · obtain ⟨ranges, hranges⟩ := hranges
    rw [denotes_iff, splitOn_written hne, List.forall₂_map_left_iff] at hranges
    obtain ⟨range, -, hpart⟩ := exists_of_mem_forall₂ hranges.flip hn
    exact hlarge (readable_of_part hpart)

end NodeList
end GpuPlacement.Numa
