import GpuPlacement.Proofs.Policy.Combinations
import GpuPlacement.Proofs.Policy.Splits

/-!
# The enumeration of splits

`partitions` lists exactly the splits, padded to one size, and in strictly ascending order:

> `mem_partitions_iff` — every split is listed and nothing else is;
> `partitions_ascending` — each comes after all that are lexicographically smaller.

Both are proved by the recursion of `Pool.selections` and `Pool.splits`. A pool keeps its padding
together, so the two facts about it that every step needs are what a selection takes (`Selected`,
which `mem_selections_iff` shows the enumeration to list) and that the pool it leaves still ascends
(`selections_sublist`).
The order of the selections is that of the combinations (Proofs/Policy/Combinations.lean) that they
take.
-/

set_option autoImplicit false

namespace GpuPlacement
namespace Pool

/-! ## One group out of a pool -/

/-- A group of `count` with the pool it leaves: some of the positions in their order, followed by
all of the padding or nothing of it. -/
inductive Selected (padding positions : List Nat) (count : Nat) : List Nat × Pool → Prop where
  | plain {chosen : List Nat} (hsub : chosen.Sublist positions) (hl : chosen.length = count) :
      Selected padding positions count (chosen, ⟨positions.filter (· ∉ chosen), padding⟩)
  | padded {chosen : List Nat} (hsub : chosen.Sublist positions) (hpad : padding ≠ [])
      (hl : chosen.length + padding.length = count) :
      Selected padding positions count (chosen ++ padding, ⟨positions.filter (· ∉ chosen), []⟩)

variable {padding positions : List Nat} {count : Nat} {s : List Nat × Pool}

theorem selected_zero_iff : Selected padding positions 0 s ↔ s = ([], ⟨positions, padding⟩) := by
  constructor
  · intro h
    cases h with
    | plain _ hl => simp [List.length_eq_zero_iff.mp hl]
    | padded _ hpad hl => exact absurd (List.length_eq_zero_iff.mp (by omega)) hpad
  · rintro rfl
    have h : Selected padding positions 0 _ := .plain (List.nil_sublist positions) rfl
    simpa using h

theorem selected_nil_iff :
    Selected padding [] (count + 1) s ↔ count + 1 = padding.length ∧ s = (padding, ⟨[], []⟩) := by
  constructor
  · intro h
    cases h with
    | plain hsub hl => exact absurd hl (by simp [List.sublist_nil.mp hsub])
    | padded hsub _ hl =>
      obtain rfl := List.sublist_nil.mp hsub
      exact ⟨by simpa using hl.symm, rfl⟩
  · intro hx
    obtain ⟨hl, rfl⟩ := hx
    have hpad : padding ≠ [] := by
      rintro rfl
      exact absurd hl (by simp)
    exact .padded .slnil hpad (by simpa using hl.symm)

theorem filter_notMem_cons_self {p : Nat} (hp : p ∉ positions) (chosen : List Nat) :
    (p :: positions).filter (· ∉ p :: chosen) = positions.filter (· ∉ chosen) := by
  rw [List.filter_cons, if_neg (by simp)]
  refine List.filter_congr fun q hq => ?_
  have hqp : q ≠ p := fun h => hp (h ▸ hq)
  simp [hqp]

theorem filter_notMem_cons {p : Nat} {chosen : List Nat} (hp : p ∉ chosen) :
    (p :: positions).filter (· ∉ chosen) = p :: positions.filter (· ∉ chosen) := by
  rw [List.filter_cons, if_pos (by simpa using hp)]

/-- A group out of a pool takes its first position or leaves it there. -/
theorem selected_cons_iff {p : Nat} (hp : p ∉ positions) :
    Selected padding (p :: positions) (count + 1) s ↔
      (∃ t, Selected padding positions count t ∧ (p :: t.1, t.2) = s) ∨
        ∃ t, Selected padding positions (count + 1) t ∧ (t.1, t.2.cons p) = s := by
  constructor
  · intro h
    cases h with
    | plain hsub hl =>
      cases hsub with
      | cons _ hsub =>
        rw [filter_notMem_cons fun h => hp (hsub.subset h)]
        exact Or.inr ⟨_, .plain hsub hl, rfl⟩
      | cons_cons _ hsub =>
        rw [filter_notMem_cons_self hp]
        exact Or.inl ⟨_, .plain hsub (by simpa using hl), rfl⟩
    | padded hsub hpad hl =>
      cases hsub with
      | cons _ hsub =>
        rw [filter_notMem_cons fun h => hp (hsub.subset h)]
        exact Or.inr ⟨_, .padded hsub hpad hl, rfl⟩
      | cons_cons _ hsub =>
        rw [filter_notMem_cons_self hp]
        rw [List.length_cons] at hl
        exact Or.inl ⟨_, .padded hsub hpad (by omega), rfl⟩
  · rintro (⟨t, h, rfl⟩ | ⟨t, h, rfl⟩)
    · cases h with
      | plain hsub hl =>
        rw [← filter_notMem_cons_self hp]
        exact .plain (hsub.cons_cons p) (by simp [hl])
      | padded hsub hpad hl =>
        rw [← filter_notMem_cons_self hp]
        apply Selected.padded (hsub.cons_cons p) hpad
        rw [List.length_cons]
        omega
    · cases h with
      | plain hsub hl =>
        rw [Pool.cons, ← filter_notMem_cons fun h => hp (hsub.subset h)]
        exact .plain (hsub.cons p) hl
      | padded hsub hpad hl =>
        rw [Pool.cons, ← filter_notMem_cons fun h => hp (hsub.subset h)]
        exact .padded (hsub.cons p) hpad hl

theorem mem_selections_iff (hn : positions.Nodup) :
    s ∈ selections padding count positions ↔ Selected padding positions count s := by
  induction positions generalizing count s with
  | nil =>
    cases count with
    | zero => rw [selections, List.mem_singleton, selected_zero_iff]
    | succ count =>
      rw [selections, selected_nil_iff]
      split
      · rename_i hl
        rw [List.mem_singleton, and_iff_right hl]
      · rename_i hl
        simp [hl]
  | cons p positions ih =>
    obtain ⟨hp, hn⟩ := List.nodup_cons.mp hn
    cases count with
    | zero => rw [selections, List.mem_singleton, selected_zero_iff]
    | succ count =>
      rw [selections, List.mem_append, List.mem_map, List.mem_map, selected_cons_iff hp]
      simp only [ih hn]

/-- What a selection takes and what it leaves are both in the pool, in its order. -/
theorem selections_sublist (hn : positions.Nodup) (hs : s ∈ selections padding count positions) :
    s.1.length = count ∧ s.1.Sublist (positions ++ padding) ∧
      s.2.all.Sublist (positions ++ padding) := by
  cases (mem_selections_iff hn).mp hs with
  | plain hsub hl =>
    exact ⟨hl, hsub.trans (List.sublist_append_left _ _),
      List.filter_sublist.append (List.Sublist.refl _)⟩
  | padded hsub _ hl =>
    refine ⟨by simpa using hl, hsub.append (List.Sublist.refl _), ?_⟩
    rw [Pool.all, List.append_nil]
    exact List.filter_sublist.trans (List.sublist_append_left _ _)

/-- What is taken are combinations of the pool, listed in their order. -/
theorem map_fst_selections_sublist (padding positions : List Nat) (count : Nat) :
    ((selections padding count positions).map Prod.fst).Sublist
      (combinations count (positions ++ padding)) := by
  induction positions generalizing count with
  | nil =>
    cases count with
    | zero =>
      rw [selections, combinations]
      exact .refl _
    | succ count =>
      rw [selections]
      split
      · rename_i hl
        rw [List.nil_append, hl, combinations_self]
        exact .refl _
      · exact List.nil_sublist _
  | cons p positions ih =>
    cases count with
    | zero =>
      rw [selections, combinations]
      exact .refl _
    | succ count =>
      have hwith := (ih count).map (p :: ·)
      rw [List.map_map] at hwith
      rw [selections, List.cons_append, combinations, List.map_append, List.map_map, List.map_map]
      exact hwith.append (ih (count + 1))

/-- Selections are listed in ascending order of what they take. -/
theorem selections_ascending (hasc : (positions ++ padding).Pairwise (· < ·)) :
    (selections padding count positions).Pairwise fun s t => s.1 < t.1 :=
  List.pairwise_map.mp
    ((combinations_ascending hasc count).sublist (map_fst_selections_sublist padding positions count))

/-! ## All groups out of a pool -/

/-- Splits are listed in ascending order. -/
theorem splits_ascending {size : Nat} :
    ∀ {groups : Nat} {pool : Pool}, pool.all.Pairwise (· < ·) →
      (splits size groups pool).Pairwise (· < ·) := by
  intro groups
  induction groups using Nat.twoStepInduction with
  | zero => intro pool _; simp [splits]
  | one => intro pool _; simp [splits]
  | more groups _ ih =>
    rintro ⟨positions, padding⟩ hasc
    cases positions with
    | nil => simp [splits]
    | cons first positions =>
      have hasc' : (positions ++ padding).Pairwise (· < ·) := (List.pairwise_cons.mp hasc).2
      have hn : positions.Nodup :=
        (hasc'.sublist (List.sublist_append_left _ _)).imp Nat.ne_of_lt
      rw [splits, List.pairwise_flatMap]
      constructor
      · intro s hs
        rw [List.pairwise_map]
        refine (ih (hasc'.sublist (selections_sublist hn hs).2.2)).imp fun h => ?_
        exact List.cons_lt_cons_iff.mpr (Or.inr ⟨rfl, h⟩)
      · refine (selections_ascending hasc').imp fun {s t} hst => ?_
        intro x hx y hy
        obtain ⟨x, -, rfl⟩ := List.mem_map.mp hx
        obtain ⟨y, -, rfl⟩ := List.mem_map.mp hy
        exact List.cons_lt_cons_iff.mpr (Or.inl (List.cons_lt_cons_self.mpr hst))

/-- A split of no more positions than fill one block is one block. -/
theorem eq_singleton_of_isSplit {size rest : Nat} {positions : List Nat} {blocks : List (List Nat)}
    (hr : rest < size) (hasc : positions.Pairwise (· < ·))
    (hl : positions.length = if rest = 0 then size else rest)
    (h : IsSplit size rest positions blocks) : blocks = [positions] := by
  cases positions with
  | nil =>
    exfalso
    split at hl <;> simp at hl <;> omega
  | cons first positions =>
    have hn : positions.Nodup := (List.pairwise_cons.mp hasc).2.imp Nat.ne_of_lt
    cases blocks with
    | nil => exact absurd h.covers.length_eq (by simp)
    | cons b bs =>
      obtain ⟨chosen, left, hsub, rfl, hleaves, hbs⟩ := (isSplit_cons_iff hr hasc).mp h
      have hlen : chosen.length = positions.length := by
        have hle := hsub.length_le
        simp only [List.length_cons] at hl hleaves
        cases hleaves <;> split at hl <;> omega
      obtain rfl := hsub.eq_of_length hlen
      have hnil : chosen.filter (· ∉ chosen) = [] := by simp
      rw [hnil, isSplit_nil_iff (Nat.zero_lt_of_lt hr)] at hbs
      rw [hbs.1]

theorem isSplit_singleton {size rest : Nat} {positions : List Nat} (hr : rest < size)
    (hasc : positions.Pairwise (· < ·))
    (hl : positions.length = if rest = 0 then size else rest) :
    IsSplit size rest positions [positions] := by
  refine ⟨by simp, by simpa using hasc, List.pairwise_singleton _ _, ?_⟩
  by_cases h : rest = 0
  · simp [h, hl]
  · have hne : positions.length ≠ size := by rw [hl, if_neg h]; omega
    simp [h, hl, Nat.ne_of_lt hr]

/-- The last group takes all there is: one block, which the padding fills up. -/
theorem mem_splits_one_iff {count size rest : Nat} {split : List (List Nat)} (hr : rest < size)
    (hasc : positions.Pairwise (· < ·))
    (hlen : positions.length + (paddingFor count size rest).length = size) :
    split ∈ splits size 1 ⟨positions, paddingFor count size rest⟩ ↔
      ∃ blocks, IsSplit size rest positions blocks ∧
        split = blocks.map (completed count size) := by
  rw [length_paddingFor] at hlen
  have hl : positions.length = if rest = 0 then size else rest := by
    split at hlen <;> split <;> omega
  have hfill : positions ++ paddingFor count size rest = completed count size positions := by
    by_cases h0 : rest = 0 <;> simp [completed, paddingFor, h0, hl]
  rw [splits, List.mem_singleton, Pool.all, hfill]
  constructor
  · rintro rfl
    exact ⟨[positions], isSplit_singleton hr hasc hl, rfl⟩
  · intro hx
    obtain ⟨blocks, h, rfl⟩ := hx
    rw [eq_singleton_of_isSplit hr hasc hl h]
    rfl

/-- The selections of a pool that is to be split are the first blocks of its splits. -/
theorem selected_iff {count size rest : Nat} {taken : List Nat} {pool : Pool} (hr : rest < size)
    (first : Nat) :
    Selected (paddingFor count size rest) positions (size - 1) (taken, pool) ↔
      ∃ chosen left, chosen.Sublist positions ∧ Leaves size rest (first :: chosen).length left ∧
        first :: taken = completed count size (first :: chosen) ∧
        pool = ⟨positions.filter (· ∉ chosen), paddingFor count size left⟩ := by
  have hshort : ∀ chosen : List Nat, rest ≠ 0 → (first :: chosen).length = rest →
      completed count size (first :: chosen)
        = first :: (chosen ++ paddingFor count size rest) := by
    intro chosen h0 hl
    rw [completed, hl, paddingFor, if_neg h0]
    rfl
  constructor
  · intro h
    cases h with
    | plain hsub hl =>
      have hfull : (first :: taken).length = size := by
        rw [List.length_cons]
        omega
      exact ⟨taken, rest, hsub, .full hfull, (completed_of_length hfull).symm, rfl⟩
    | @padded chosen hsub hne hl =>
      have h0 : rest ≠ 0 := by
        rintro rfl
        exact hne (paddingFor_zero count size)
      have hrest : (first :: chosen).length = rest := by
        rw [length_paddingFor, if_neg h0] at hl
        rw [List.length_cons]
        omega
      exact ⟨chosen, 0, hsub, .short h0 hrest, (hshort chosen h0 hrest).symm, rfl⟩
  · intro hx
    obtain ⟨chosen, left, hsub, hleaves, hfirst, rfl⟩ := hx
    cases hleaves with
    | full hl =>
      obtain rfl : taken = chosen := by
        simpa [completed_of_length hl] using hfirst
      rw [List.length_cons] at hl
      exact .plain hsub (by omega)
    | short h0 hl =>
      obtain rfl : taken = chosen ++ paddingFor count size rest := by
        simpa [hshort chosen h0 hl] using hfirst
      have hpad : (paddingFor count size rest).length = size - rest := by
        rw [length_paddingFor, if_neg h0]
      rw [List.length_cons] at hl
      exact .padded hsub (List.length_pos_iff.mp (by omega)) (by omega)

/-- A split starts with a block that holds the first position; its others split what that leaves. -/
theorem mem_splits_add_two_iff {count size rest groups first : Nat} {split : List (List Nat)}
    (hr : rest < size) (hn : positions.Nodup) :
    split ∈ splits size (groups + 2) ⟨first :: positions, paddingFor count size rest⟩ ↔
      ∃ chosen left, chosen.Sublist positions ∧ Leaves size rest (first :: chosen).length left ∧
        ∃ tail ∈ splits size (groups + 1)
            ⟨positions.filter (· ∉ chosen), paddingFor count size left⟩,
          completed count size (first :: chosen) :: tail = split := by
  rw [splits, List.mem_flatMap]
  constructor
  · intro h
    obtain ⟨⟨taken, pool⟩, hs, hm⟩ := h
    obtain ⟨tail, ht, rfl⟩ := List.mem_map.mp hm
    obtain ⟨chosen, left, hsub, hleaves, hfirst, rfl⟩ :=
      (selected_iff hr first).mp ((mem_selections_iff hn).mp hs)
    exact ⟨chosen, left, hsub, hleaves, tail, ht, by rw [hfirst]⟩
  · intro h
    obtain ⟨chosen, left, hsub, hleaves, tail, ht, rfl⟩ := h
    obtain ⟨taken, hfirst⟩ : ∃ taken, first :: taken = completed count size (first :: chosen) :=
      ⟨_, rfl⟩
    have hs : (taken, _) ∈ selections (paddingFor count size rest) (size - 1) positions :=
      (mem_selections_iff hn).mpr
        ((selected_iff hr first).mpr ⟨chosen, left, hsub, hleaves, hfirst, rfl⟩)
    exact ⟨_, hs, List.mem_map.mpr ⟨tail, ht, by rw [hfirst]⟩⟩

/-- What a block leaves has one group less to fill, whether or not the padding is used up. -/
theorem length_left {count size rest left groups first : Nat} {chosen : List Nat}
    (hr : rest < size) (hn : positions.Nodup) (hsub : chosen.Sublist positions)
    (hlen : (first :: positions).length + (paddingFor count size rest).length
      = (groups + 1) * size)
    (hleaves : Leaves size rest (first :: chosen).length left) :
    (positions.filter (· ∉ chosen)).length + (paddingFor count size left).length
      = groups * size := by
  have hblock := hleaves.length_add count hr
  have hfilter := length_filter_notMem hn hsub
  rw [List.length_cons] at hlen hblock
  rw [Nat.succ_mul] at hlen
  omega

/-- The splits of a pool are the splits of its positions, filled up with the padding. -/
theorem mem_splits_iff {count size : Nat} :
    ∀ {groups rest : Nat} {positions : List Nat} {split : List (List Nat)},
      rest < size → positions.Pairwise (· < ·) → 0 < groups →
      positions.length + (paddingFor count size rest).length = groups * size →
      (split ∈ splits size groups ⟨positions, paddingFor count size rest⟩ ↔
        ∃ blocks, IsSplit size rest positions blocks ∧
          split = blocks.map (completed count size)) := by
  intro groups
  induction groups using Nat.twoStepInduction with
  | zero => intro _ _ _ _ _ h; exact absurd h (by simp)
  | one =>
    intro rest positions split hr hasc _ hlen
    rw [Nat.one_mul] at hlen
    exact mem_splits_one_iff hr hasc hlen
  | more groups _ ih =>
    intro rest positions split hr hasc _ hlen
    cases positions with
    | nil =>
      -- Two groups are more than padding alone can fill.
      exfalso
      have hle : (paddingFor count size rest).length ≤ size := by
        rw [length_paddingFor]
        split <;> omega
      rw [Nat.succ_mul, Nat.succ_mul, List.length_nil] at hlen
      omega
    | cons first positions =>
      have hasc' := (List.pairwise_cons.mp hasc).2
      have hn : positions.Nodup := hasc'.imp Nat.ne_of_lt
      -- The induction hypothesis, at what a first block leaves.
      have ih' : ∀ {chosen : List Nat} {left : Nat} {tail : List (List Nat)},
          chosen.Sublist positions → Leaves size rest (first :: chosen).length left →
          (tail ∈ splits size (groups + 1)
              ⟨positions.filter (· ∉ chosen), paddingFor count size left⟩ ↔
            ∃ blocks, IsSplit size left (positions.filter (· ∉ chosen)) blocks ∧
              tail = blocks.map (completed count size)) := fun hsub hleaves =>
        ih (hleaves.lt hr) (hasc'.sublist List.filter_sublist) (Nat.succ_pos _)
          (length_left hr hn hsub hlen hleaves)
      rw [mem_splits_add_two_iff hr hn]
      constructor
      · intro hx
        obtain ⟨chosen, left, hsub, hleaves, tail, ht, rfl⟩ := hx
        obtain ⟨blocks, hb, rfl⟩ := (ih' hsub hleaves).mp ht
        exact ⟨(first :: chosen) :: blocks,
          (isSplit_cons_iff hr hasc).mpr ⟨chosen, left, hsub, rfl, hleaves, hb⟩, rfl⟩
      · intro hx
        obtain ⟨blocks, h, rfl⟩ := hx
        cases blocks with
        | nil => exact absurd h.covers.length_eq (by simp)
        | cons b bs =>
          obtain ⟨chosen, left, hsub, rfl, hleaves, hb⟩ := (isSplit_cons_iff hr hasc).mp h
          exact ⟨chosen, left, hsub, hleaves, bs.map (completed count size),
            (ih' hsub hleaves).mpr ⟨bs, hb, rfl⟩, rfl⟩

end Pool

/-! ## The partitions -/

theorem groupCount_mul (count : Nat) {size : Nat} (hs : 0 < size) :
    groupCount count size * size
      = count + (paddingFor count size (count % size)).length := by
  -- Rounded up, the quotient counts the block of those left over as one more.
  have hd := Nat.div_add_mod count size
  have hm := Nat.mod_lt count hs
  rw [length_paddingFor, groupCount]
  by_cases h0 : count % size = 0
  · have : (count + size - 1) / size = count / size := by
      rw [show count + size - 1 = size - 1 + size * (count / size) by omega,
        Nat.add_mul_div_left _ _ hs, Nat.div_eq_of_lt (by omega), Nat.zero_add]
    rw [if_pos h0, this, Nat.mul_comm]
    omega
  · have : (count + size - 1) / size = count / size + 1 := by
      rw [show count + size - 1 = (count % size - 1) + size * (count / size + 1) by
          rw [Nat.mul_add]; omega,
        Nat.add_mul_div_left _ _ hs, Nat.div_eq_of_lt (by omega), Nat.zero_add]
    rw [if_neg h0, this, Nat.add_mul, Nat.mul_comm]
    omega

theorem partitions_eq_splits {count size : Nat} (h2 : 2 ≤ size) (hle : size ≤ count) :
    partitions count size = Pool.splits size (groupCount count size)
      ⟨List.range count, paddingFor count size (count % size)⟩ := by
  have hg := groupCount_mul count (show 0 < size by omega)
  have hpad : List.range' count (groupCount count size * size - count)
      = paddingFor count size (count % size) := by
    rw [hg, length_paddingFor, paddingFor]
    split <;> simp
  rw [partitions, if_neg (by omega), if_neg (by omega), ← hpad]

/-- The partitions are the splits, each block filled up. -/
theorem mem_partitions_iff {count size : Nat} (h2 : 2 ≤ size) (hle : size ≤ count)
    {split : List (List Nat)} :
    split ∈ partitions count size ↔
      ∃ blocks, Admissible count size blocks ∧ split = blocks.map (completed count size) := by
  have hg := groupCount_mul count (show 0 < size by omega)
  rw [partitions_eq_splits h2 hle]
  refine Pool.mem_splits_iff (Nat.mod_lt _ (by omega)) List.pairwise_lt_range ?_ ?_
  · refine Nat.pos_of_ne_zero fun h => ?_
    rw [h] at hg
    omega
  · rw [List.length_range, hg]

/-- The partitions stand in ascending order, so each is listed once. -/
theorem partitions_ascending (count size : Nat) : (partitions count size).Pairwise (· < ·) := by
  rw [partitions]
  split
  · exact .nil
  split
  · rw [List.pairwise_map]
    exact List.pairwise_lt_range.imp fun h =>
      List.cons_lt_cons_iff.mpr (Or.inl (List.cons_lt_cons_iff.mpr (Or.inl h)))
  · apply Pool.splits_ascending
    rw [Pool.all, List.pairwise_append]
    refine ⟨List.pairwise_lt_range, List.pairwise_lt_range', fun p hp q hq => ?_⟩
    have := List.mem_range.mp hp
    have := (List.mem_range'_1.mp hq).1
    omega

end GpuPlacement
