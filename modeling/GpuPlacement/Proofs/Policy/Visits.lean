import GpuPlacement.Proofs.Policy.Enumeration
import GpuPlacement.Proofs.Policy.Odometer

/-!
# The visits of the partitions

`Search.forEachPartition` (Policy/Search.lean) calls once for each partition, in the order in which
`partitions` (Policy/Partition.lean) lists them, and then it ends (`forEachPartition_eq`). It meets
no pool that is too small and stays within its buffers.

The pools of the recursion hold slots, those of the listing hold positions; `Pool.Fills` is what a
pool on the way is known by. The padding is in it as a whole or not at all, because a group with a
part of it is passed over. So the last group, which nothing checks, is right as well.
-/

set_option autoImplicit false

namespace GpuPlacement

/-! ## Loops over lists -/

section Loops

variable {m : Type → Type} [Monad m] {α γ σ : Type}

theorem foldlM_congr {f g : σ → α → m σ} {l : List α} (h : ∀ a ∈ l, ∀ s, f s a = g s a) (s : σ) :
    l.foldlM f s = l.foldlM g s := by
  induction l generalizing s with
  | nil => rfl
  | cons a l ih =>
    rw [List.foldlM_cons, List.foldlM_cons, h a List.mem_cons_self]
    exact bind_congr fun s => ih (fun b hb => h b (List.mem_cons_of_mem _ hb)) s

/-- A loop inside of a loop. -/
theorem foldlM_flatMap [LawfulMonad m] {f : α → List γ} {g : σ → γ → m σ} (l : List α) (s : σ) :
    (l.flatMap f).foldlM g s = l.foldlM (fun s a => (f a).foldlM g s) s := by
  induction l generalizing s with
  | nil => rfl
  | cons a l ih =>
    rw [List.flatMap_cons, List.foldlM_append, List.foldlM_cons]
    exact bind_congr ih

/-- Choosing places of a list is choosing of what is there. -/
theorem foldlM_combinations_range {k : Nat} {xs : List α} {f : σ → List Nat → m σ}
    {g : σ → List α → m σ} (h : ∀ chosen ∈ combinations k xs.zipIdx, ∀ s,
      f s (chosen.map Prod.snd) = g s (chosen.map Prod.fst)) (s : σ) :
    (combinations k (List.range xs.length)).foldlM f s = (combinations k xs).foldlM g s := by
  have hplaces : List.range xs.length = xs.zipIdx.map Prod.snd := by
    rw [List.zipIdx_map_snd, List.range_eq_range']
  have hmembers : combinations k xs = (combinations k xs.zipIdx).map (List.map Prod.fst) := by
    rw [← combinations_map, List.zipIdx_map_fst]
  rw [hplaces, hmembers, combinations_map, List.foldlM_map, List.foldlM_map]
  exact foldlM_congr h s

end Loops

/-! ## Pools on the way -/

theorem paddingFor_eq (count size rest : Nat) :
    paddingFor count size rest = List.range' count (paddingFor count size rest).length := by
  rw [length_paddingFor, paddingFor]
  split <;> rfl

namespace Pool

/-- A pool that is to be split into `groups` groups of `size`. The padding is all in it or all used
up. -/
structure Fills (count size padding groups : Nat) (pool : Pool) : Prop where
  ascending : pool.all.Pairwise (· < ·)
  below : ∀ p ∈ pool.positions, p < count
  beyond : ∀ p ∈ pool.padding, count ≤ p
  whole : pool.padding = [] ∨ pool.padding.length = padding
  length : pool.all.length = groups * size

variable {count size total : Nat} {positions padding : List Nat}

theorem countP_cons_of_lt {p : Nat} (h : p < count) (chosen : List Nat) :
    (p :: chosen).countP (count ≤ ·) = chosen.countP (count ≤ ·) :=
  List.countP_cons_of_neg (by simpa using h)

/-- What is taken in a selection are the combinations with none of the padding or all of it. -/
theorem map_fst_selections (hbelow : ∀ p ∈ positions, p < count)
    (hbeyond : ∀ p ∈ padding, count ≤ p) (hwhole : padding = [] ∨ padding.length = total) (k : Nat) :
    (selections padding k positions).map Prod.fst
      = (combinations k (positions ++ padding)).filter fun chosen =>
          chosen.countP (count ≤ ·) = 0 ∨ chosen.countP (count ≤ ·) = total := by
  induction positions generalizing k with
  | nil =>
    cases k with
    | zero => simp [selections, combinations]
    | succ k =>
      rw [selections, List.nil_append]
      have hall : ∀ chosen ∈ combinations (k + 1) padding, chosen.countP (count ≤ ·) = k + 1 := by
        intro chosen hmem
        obtain ⟨hsub, hl⟩ := mem_combinations_iff.mp hmem
        rw [← hl, List.countP_eq_length]
        exact fun p hp => by simpa using hbeyond p (hsub.subset hp)
      rcases hwhole with rfl | rfl
      · rfl
      by_cases hk : k + 1 = padding.length
      · rw [if_pos hk]
        rw [hk, combinations_self] at hall ⊢
        simp [hall padding (List.mem_singleton_self _)]
      · rw [if_neg hk, List.map_nil, eq_comm, List.filter_eq_nil_iff]
        intro chosen hmem
        simp [hall chosen hmem, hk]
  | cons p positions ih =>
    obtain ⟨hp, hbelow⟩ := List.forall_mem_cons.mp hbelow
    cases k with
    | zero => simp [selections, combinations]
    | succ k =>
      rw [selections, List.cons_append, combinations, List.filter_append, List.filter_map,
        List.map_append, List.map_map, List.map_map, ← ih hbelow (k + 1)]
      simp only [Function.comp_def, countP_cons_of_lt hp]
      rw [← ih hbelow k, List.map_map]
      rfl

/-- The pool that a selection leaves holds what it does not take. -/
theorem all_of_mem_selections {k : Nat} (hasc : (positions ++ padding).Pairwise (· < ·))
    {s : List Nat × Pool} (hs : s ∈ selections padding k positions) :
    s.2.all = (positions ++ padding).filter (· ∉ s.1) := by
  have hn : (positions ++ padding).Nodup := hasc.imp Nat.ne_of_lt
  obtain ⟨hpos, hpad, hdisj⟩ := List.nodup_append'.mp hn
  rw [List.filter_append]
  cases (mem_selections_iff hpos).mp hs with
  | @plain chosen hsub hl =>
    have hkeep : padding.filter (· ∉ chosen) = padding :=
      List.filter_eq_self.mpr fun p hp => by simpa using fun h => hdisj (hsub.subset h) hp
    rw [Pool.all, hkeep]
  | @padded chosen hsub hne hl =>
    have hnone : padding.filter (· ∉ chosen ++ padding) = [] :=
      List.filter_eq_nil_iff.mpr fun p hp => by simp [hp]
    rw [Pool.all, hnone]
    refine congrArg (· ++ []) (List.filter_congr fun p hp => ?_)
    simp [show p ∉ padding from fun h => hdisj hp h]

theorem Fills.countP_all {padding groups : Nat} {pool : Pool}
    (h : Fills count size padding groups pool) :
    pool.all.countP (count ≤ ·) = pool.padding.length := by
  have hnone : pool.positions.countP (count ≤ ·) = 0 :=
    List.countP_eq_zero.mpr fun p hp => by simpa using h.below p hp
  have hall : pool.padding.countP (count ≤ ·) = pool.padding.length :=
    List.countP_eq_length.mpr fun p hp => by simpa using h.beyond p hp
  rw [Pool.all, List.countP_append, hnone, hall, Nat.zero_add]

/-- What is left behind a group is to be split into one group less. -/
theorem Fills.left {first groups : Nat} (hsize : 0 < size)
    (h : Fills count size total (groups + 1) ⟨first :: positions, padding⟩)
    {s : List Nat × Pool} (hs : s ∈ selections padding (size - 1) positions) :
    Fills count size total groups s.2 := by
  have hasc : (positions ++ padding).Pairwise (· < ·) := (List.pairwise_cons.mp h.ascending).2
  have hn : positions.Nodup := (hasc.sublist (List.sublist_append_left _ _)).imp Nat.ne_of_lt
  have hsub := selections_sublist hn hs
  have hlength : s.2.all.length = groups * size := by
    have hbefore : (positions ++ padding).length + 1 = (groups + 1) * size := h.length
    have htaken := length_filter_notMem (hasc.imp Nat.ne_of_lt) hsub.2.1
    rw [← all_of_mem_selections hasc hs, hsub.1] at htaken
    rw [Nat.succ_mul] at hbefore
    omega
  have hbelow : ∀ chosen : List Nat, ∀ p ∈ positions.filter (· ∉ chosen), p < count :=
    fun _ p hp => h.below p (List.mem_cons_of_mem _ (List.mem_of_mem_filter hp))
  cases (mem_selections_iff hn).mp hs with
  | @plain chosen _ _ =>
    exact ⟨hasc.sublist hsub.2.2, hbelow chosen, h.beyond, h.whole, hlength⟩
  | @padded chosen _ _ _ =>
    exact ⟨hasc.sublist hsub.2.2, hbelow chosen, fun p hp => absurd hp List.not_mem_nil, .inl rfl,
      hlength⟩

/-- The pool at the start: all positions, and the padding that the last of them need. -/
def initial (count size : Nat) : Pool :=
  ⟨List.range count, paddingFor count size (count % size)⟩

theorem fills_initial (hsize : 0 < size) (count : Nat) :
    (initial count size).Fills count size (initial count size).padding.length
      (groupCount count size) := by
  have hbeyond : ∀ p ∈ (initial count size).padding, count ≤ p := by
    intro p hp
    rw [initial, paddingFor_eq] at hp
    exact (List.mem_range'_1.mp hp).1
  have hbelow : ∀ p ∈ (initial count size).positions, p < count := fun p hp => List.mem_range.mp hp
  refine ⟨?_, hbelow, hbeyond, .inr rfl, ?_⟩
  · rw [Pool.all, List.pairwise_append]
    refine ⟨List.pairwise_lt_range, ?_, fun p hp q hq => ?_⟩
    · rw [initial, paddingFor_eq]
      exact List.pairwise_lt_range'
    · exact Nat.lt_of_lt_of_le (hbelow p hp) (hbeyond q hq)
  · rw [Pool.all, List.length_append, initial, List.length_range, groupCount_mul count hsize]

end Pool

/-! ## Splits without padding -/

section Splits

variable {count size : Nat}

/-- The splits that the listing fills up. -/
theorem exists_map_completed_eq_partitions (h2 : 2 ≤ size) (hle : size ≤ count) :
    ∃ splits : List (List (List Nat)),
      (∀ blocks, blocks ∈ splits ↔ Admissible count size blocks) ∧
      splits.map (List.map (completed count size)) = partitions count size := by
  have hmem : ∀ split ∈ partitions count size, Admissible count size (unpadded count split) ∧
      (unpadded count split).map (completed count size) = split := by
    intro split hmem
    obtain ⟨blocks, h, rfl⟩ := (mem_partitions_iff h2 hle).mp hmem
    rw [unpadded_map_completed h]
    exact ⟨h, rfl⟩
  refine ⟨(partitions count size).map (unpadded count), fun blocks => ⟨fun h => ?_, fun h => ?_⟩, ?_⟩
  · obtain ⟨split, hsplit, rfl⟩ := List.mem_map.mp h
    exact (hmem split hsplit).1
  · exact List.mem_map.mpr
      ⟨_, (mem_partitions_iff h2 hle).mpr ⟨blocks, h, rfl⟩, unpadded_map_completed h⟩
  · rw [List.map_map]
    exact (List.map_congr_left fun split hsplit => (hmem split hsplit).2).trans (List.map_id' _)

end Splits

namespace Search

variable {σ : Type} {visit : σ → List (List Slot) → Search σ} {slot : Nat → Slot}

/-! ## One group -/

/-- A place holds what it stands with. -/
theorem entry_of_mem_zipIdx {xs : List Nat} {e : Nat × Nat} (h : e ∈ xs.zipIdx) :
    entry (xs.map slot) e.2 = pure (slot e.1) := by
  refine entry_eq _ ?_
  rw [List.getElem?_map, List.mem_zipIdx_iff_getElem?.mp h]
  rfl

theorem mapM_entry {xs : List Nat} {chosen : List (Nat × Nat)} (h : chosen ⊆ xs.zipIdx) :
    (chosen.map Prod.snd).mapM (entry (xs.map slot)) = pure ((chosen.map Prod.fst).map slot) := by
  induction chosen with
  | nil => rfl
  | cons c chosen ih =>
    obtain ⟨hc, h⟩ := List.cons_subset.mp h
    rw [List.map_cons, List.mapM_cons, entry_of_mem_zipIdx hc, pure_bind, ih h, pure_bind]
    rfl

/-- The other places hold the positions that are not chosen. -/
theorem others_eq {xs : List Nat} (hn : xs.Nodup) {chosen : List (Nat × Nat)}
    (h : chosen ⊆ xs.zipIdx) :
    others (xs.map slot) (chosen.map Prod.snd)
      = (xs.filter (· ∉ chosen.map Prod.fst)).map slot := by
  -- Both a place and a position tell which entry they belong to.
  have hsame : ∀ e ∈ xs.zipIdx, (e.2 ∈ chosen.map Prod.snd ↔ e.1 ∈ chosen.map Prod.fst) := by
    rintro ⟨x, i⟩ he
    have hx := List.mk_mem_zipIdx_iff_getElem?.mp he
    constructor
    · intro hi
      obtain ⟨⟨x', i'⟩, hc, rfl⟩ := List.mem_map.mp hi
      have hx' := List.mk_mem_zipIdx_iff_getElem?.mp (h hc)
      obtain rfl := Option.some.inj (hx.symm.trans hx')
      exact List.mem_map_of_mem hc
    · intro hi
      obtain ⟨⟨x', i'⟩, hc, rfl⟩ := List.mem_map.mp hi
      have hx' := List.mk_mem_zipIdx_iff_getElem?.mp (h hc)
      obtain ⟨hlt, -⟩ := List.getElem?_eq_some_iff.mp hx
      obtain rfl := (List.getElem?_inj hlt hn).mp (hx.trans hx'.symm)
      exact List.mem_map_of_mem hc
  have hkeep : xs.filter (· ∉ chosen.map Prod.fst)
      = (xs.zipIdx.filter (fun e => e.2 ∉ chosen.map Prod.snd)).map Prod.fst := by
    conv_lhs => rw [← List.zipIdx_map_fst 0 xs, List.filter_map]
    refine congrArg (List.map Prod.fst) (List.filter_congr fun e he => ?_)
    simp only [Function.comp_apply, hsame e he]
  rw [others, List.zipIdx_map, List.filter_map, hkeep, List.map_map, List.map_map]
  simp [Function.comp_def]

/-- A pool with more than one group is gone through by what joins its first slot. -/
theorem partitionRec_cons {size padding first : Nat} {xs : List Nat} (h2 : 2 ≤ size)
    (hn : xs.Nodup) (hlt : size ≤ xs.length) (groups : List (List Slot)) (s : σ) :
    partitionRec size padding visit ((first :: xs).map slot) groups s
      = (combinations (size - 1) xs).foldlM (fun s chosen =>
          let group := (first :: chosen).map slot
          if countPadding group ≠ 0 ∧ countPadding group ≠ padding then pure s
          else partitionRec size padding visit ((xs.filter (· ∉ chosen)).map slot)
            (groups ++ [group]) s) s := by
  rw [partitionRec.eq_def, if_neg (by simp; omega), if_neg (by simp; omega)]
  simp only [List.map_cons]
  rw [forEachCombination_eq (by omega), List.length_map]
  refine foldlM_combinations_range (fun chosen hchosen s => ?_) s
  have hsub := (mem_combinations_iff.mp hchosen).1.subset
  rw [mapM_entry hsub, pure_bind, others_eq hn hsub]

/-! ## The recursion -/

theorem countPadding_map {count : Nat} (hslot : ∀ p, (slot p).isNone = decide (count ≤ p))
    (group : List Nat) : countPadding (group.map slot) = group.countP (count ≤ ·) := by
  rw [countPadding, ← List.countP_eq_length_filter, List.countP_map]
  exact List.countP_congr fun p _ => by rw [Function.comp_apply, hslot]

/-- The recursion goes through the splits of its pool. -/
theorem partitionRec_eq {count size padding : Nat} (h2 : 2 ≤ size) (hpad : padding < size)
    (hslot : ∀ p, (slot p).isNone = decide (count ≤ p)) :
    ∀ {groups : Nat} {pool : Pool}, 0 < groups → pool.Fills count size padding groups →
      ∀ (done : List (List Slot)) (s : σ),
        partitionRec size padding visit (pool.all.map slot) done s
          = (Pool.splits size groups pool).foldlM
              (fun s split => visit s (done ++ split.map (List.map slot))) s := by
  intro groups
  induction groups using Nat.twoStepInduction with
  | zero => intro _ h; exact absurd h (by simp)
  | one =>
    intro pool _ hpool done s
    have hlength := hpool.length
    rw [Nat.one_mul] at hlength
    rw [partitionRec.eq_def, List.length_map, hlength, if_neg (by omega), if_pos rfl, Pool.splits,
      List.foldlM_cons]
    simp
  | more groups _ ih =>
    rintro ⟨positions, left⟩ _ hpool done s
    cases positions with
    | nil =>
      -- Two groups are more than padding alone can fill.
      exfalso
      have hlength : left.length = (groups + 2) * size := hpool.length
      rw [Nat.succ_mul, Nat.succ_mul] at hlength
      rcases hpool.whole with rfl | hwhole
      · rw [List.length_nil] at hlength
        omega
      · simp only at hwhole
        omega
    | cons first positions =>
      have hasc : (positions ++ left).Pairwise (· < ·) := (List.pairwise_cons.mp hpool.ascending).2
      have hlength : (positions ++ left).length + 1 = (groups + 2) * size := hpool.length
      rw [Nat.succ_mul, Nat.succ_mul] at hlength
      have hfirst := hpool.below first List.mem_cons_self
      -- What is called for behind a group, as far as it depends on the group.
      let behind := fun (s : σ) (chosen : List Nat) => partitionRec size padding visit
        (((positions ++ left).filter (· ∉ chosen)).map slot) (done ++ [(first :: chosen).map slot]) s
      have hbehind : ∀ t ∈ Pool.selections left (size - 1) positions, ∀ s,
          ((Pool.splits size (groups + 1) t.2).map ((first :: t.1) :: ·)).foldlM
            (fun s split => visit s (done ++ split.map (List.map slot))) s = behind s t.1 := by
        intro t ht s
        simp only [behind]
        rw [List.foldlM_map, ← Pool.all_of_mem_selections hasc ht,
          ih (Nat.succ_pos _) (hpool.left (by omega) ht)]
        simp
      calc partitionRec size padding visit ((first :: (positions ++ left)).map slot) done s
        _ = (combinations (size - 1) (positions ++ left)).foldlM (fun s chosen =>
              if chosen.countP (count ≤ ·) = 0 ∨ chosen.countP (count ≤ ·) = padding then
                behind s chosen else pure s) s := by
          rw [partitionRec_cons h2 (hasc.imp Nat.ne_of_lt) (by omega)]
          refine foldlM_congr (fun chosen _ s => ?_) s
          simp only [countPadding_map hslot, Pool.countP_cons_of_lt hfirst, ← not_or, ite_not]
          rfl
        _ = ((Pool.selections left (size - 1) positions).map Prod.fst).foldlM behind s := by
          rw [Pool.map_fst_selections
            (fun p hp => hpool.below p (List.mem_cons_of_mem _ hp)) hpool.beyond hpool.whole,
            List.foldlM_filter]
          simp only [decide_eq_true_eq]
        _ = (Pool.splits size (groups + 2) ⟨first :: positions, left⟩).foldlM
              (fun s split => visit s (done ++ split.map (List.map slot))) s := by
          rw [Pool.splits, foldlM_flatMap, List.foldlM_map]
          exact (foldlM_congr hbehind s).symm

/-! ## All partitions -/

/-- Padding is added up to the next multiple of the size. -/
theorem pad_eq {size : Nat} (missing : Nat) {slots : List Slot}
    (hfull : (slots.length + missing) % size = 0) (hless : ∀ k < missing, (slots.length + k) % size ≠ 0) :
    pad size slots = pure (slots ++ List.replicate missing none) := by
  induction missing generalizing slots with
  | zero =>
    rw [List.replicate_zero, List.append_nil]
    exact loop_done (if_neg (by simpa using hfull))
  | succ missing ih =>
    have hlength : ∀ k, (slots ++ [none]).length + k = slots.length + (k + 1) := by
      intro k
      rw [List.length_append, List.length_singleton, Nat.add_assoc, Nat.add_comm 1]
    have hmore : pad size slots = pad size (slots ++ [none]) :=
      loop_again (if_pos (by simpa using hless 0 (Nat.succ_pos _)))
    rw [hmore, ih]
    · rw [List.append_assoc, List.singleton_append, List.replicate_succ]
    · rw [hlength]
      exact hfull
    · intro k hk
      rw [hlength]
      exact hless (k + 1) (by omega)

variable {devices : List Device} {size : Nat}

/-- The devices of a block, filled up to `size`. -/
def filled (devices : List Device) (size : Nat) (block : List Nat) : List Slot :=
  block.map (devices[·]?) ++ List.replicate (size - block.length) none

theorem map_getElem?_range' (k : Nat) :
    (List.range' devices.length k).map (devices[·]?) = List.replicate k none := by
  rw [List.eq_replicate_iff, List.length_map, List.length_range']
  refine ⟨rfl, fun slot hslot => ?_⟩
  obtain ⟨p, hp, rfl⟩ := List.mem_map.mp hslot
  exact List.getElem?_eq_none (List.mem_range'_1.mp hp).1

theorem map_completed (block : List Nat) :
    (completed devices.length size block).map (devices[·]?) = filled devices size block := by
  rw [completed, List.map_append, map_getElem?_range', filled]

theorem map_getElem?_range : (List.range devices.length).map (devices[·]?) = devices.map some := by
  refine List.ext_getElem (by simp) fun p hp _ => ?_
  rw [List.length_map, List.length_range] at hp
  simp [hp]

theorem pad_devices (hsize : 0 < size) :
    pad size (devices.map some) = pure ((Pool.initial devices.length size).all.map (devices[·]?)) := by
  have hrest := Nat.mod_lt devices.length hsize
  have hless : ∀ k < (paddingFor devices.length size (devices.length % size)).length,
      (devices.length + k) % size ≠ 0 := by
    intro k hk
    rw [length_paddingFor] at hk
    split at hk
    · exact absurd hk (Nat.not_lt_zero k)
    · rw [← Nat.mod_add_mod, Nat.mod_eq_of_lt (by omega)]
      omega
  rw [pad_eq (paddingFor devices.length size (devices.length % size)).length]
  · rw [Pool.all, List.map_append, Pool.initial, map_getElem?_range]
    conv_rhs => rw [paddingFor_eq, map_getElem?_range']
  · rw [List.length_map, ← groupCount_mul devices.length hsize, Nat.mul_mod_left]
  · rw [List.length_map]
    exact hless

/-- With groups of two or more the first pool is split. -/
theorem forEachPartition_of_two_le (h2 : 2 ≤ size) (hle : size ≤ devices.length) (s : σ) :
    forEachPartition devices size visit s
      = ((partitions devices.length size).map
          (List.map (List.map (devices[·]?)))).foldlM visit s := by
  have hsize : 0 < size := by omega
  have hslot : ∀ p, (devices[p]?).isNone = decide (devices.length ≤ p) := by
    intro p
    rw [Bool.eq_iff_iff, Option.isNone_iff_eq_none, List.getElem?_eq_none_iff, decide_eq_true_iff]
  have hpadding : (Pool.initial devices.length size).padding.length < size := by
    rw [Pool.initial, length_paddingFor]
    split <;> omega
  have hfills := Pool.fills_initial hsize devices.length
  have hgroups : 0 < groupCount devices.length size := Nat.div_pos (by omega) hsize
  rw [forEachPartition, if_neg (by omega), if_neg (by omega), pad_devices hsize, pure_bind,
    countPadding_map hslot, hfills.countP_all, partitions_eq_splits h2 hle, List.foldlM_map]
  exact partitionRec_eq h2 hpadding hslot hgroups hfills [] s

/-- The search calls for the partitions in the order in which they are listed. -/
theorem forEachPartition_eq (devices : List Device) (size : Nat)
    (visit : σ → List (List Slot) → Search σ) (s : σ) : forEachPartition devices size visit s
      = ((partitions devices.length size).map
          (List.map (List.map (devices[·]?)))).foldlM visit s := by
  by_cases hnone : size = 0 ∨ devices.length < size
  · rw [forEachPartition, partitions, if_pos hnone, if_pos hnone]
    rfl
  by_cases hone : size = 1
  · have hsingles : (List.range devices.length).map (fun p => [[devices[p]?]])
        = (devices.map some).map fun slot => [[slot]] := by
      rw [← map_getElem?_range, List.map_map]
      rfl
    rw [forEachPartition, partitions, if_neg hnone, if_neg hnone, if_pos hone, if_pos hone,
      List.map_map]
    simp only [Function.comp_def, List.map_cons, List.map_nil]
    rw [hsingles, List.foldlM_map, List.foldlM_map]
  · exact forEachPartition_of_two_le (by omega) (by omega) s

/-- **The search for partitions.** For devices and a size that is not beyond their number, there is
a list of the splits of all positions, each block with as many as the size says but for one with
those left over. It holds each of them, and they ascend as they are filled up, so none is there
twice. The search calls for each split of that list in turn with its devices, whatever its callback
does, and for nothing else. In particular it ends, and with no fault of its own: a callback that
writes down what it is called for gets that list. -/
theorem forEachPartition_exact (h2 : 2 ≤ size) (hle : size ≤ devices.length) :
    ∃ splits : List (List (List Nat)),
      (∀ blocks, blocks ∈ splits ↔ Admissible devices.length size blocks) ∧
      (splits.map (List.map (completed devices.length size))).Pairwise (· < ·) ∧
      (∀ (σ : Type) (visit : σ → List (List Slot) → Search σ) (s : σ),
        forEachPartition devices size visit s
          = (splits.map (List.map (filled devices size))).foldlM visit s) ∧
      forEachPartition devices size (fun calls split => pure (calls ++ [split])) []
        = pure (splits.map (List.map (filled devices size))) := by
  obtain ⟨splits, hmem, hsplits⟩ := exists_map_completed_eq_partitions h2 hle
  have hcalls : ∀ (σ : Type) (visit : σ → List (List Slot) → Search σ) (s : σ),
      forEachPartition devices size visit s
        = (splits.map (List.map (filled devices size))).foldlM visit s := by
    intro σ visit s
    rw [forEachPartition_eq, ← hsplits, List.map_map]
    simp only [Function.comp_def, List.map_map, map_completed]
  refine ⟨splits, hmem, ?_, hcalls, ?_⟩
  · rw [hsplits]
    exact partitions_ascending _ _
  · rw [hcalls, List.foldlM_pure, ← List.flatMap_eq_foldl, List.flatMap_singleton']

/-- Three devices without links. -/
def threeDevices : List Device := (List.range 3).map fun i => .plain i s!"GPU-{i}"

/-- Split into pairs, the first of three devices is left over once, alone with the padding. -/
theorem forEachPartition_exact_three : 2 ≤ 2 ∧ 2 ≤ threeDevices.length ∧
    ∃ calls, forEachPartition threeDevices 2 (fun calls split => pure (calls ++ [split])) []
        = pure calls ∧
      [[threeDevices[0]?, none], [threeDevices[1]?, threeDevices[2]?]] ∈ calls := by
  have hle : 2 ≤ threeDevices.length := by decide
  obtain ⟨splits, hmem, -, -, hcalls⟩ := forEachPartition_exact (Nat.le_refl 2) hle
  have hadmissible : Admissible threeDevices.length 2 [[0], [1, 2]] :=
    ⟨by decide, by decide, by simp, by decide⟩
  exact ⟨Nat.le_refl 2, hle, _, hcalls,
    List.mem_map_of_mem (f := List.map (filled threeDevices 2)) ((hmem _).mpr hadmissible)⟩

end Search
end GpuPlacement
