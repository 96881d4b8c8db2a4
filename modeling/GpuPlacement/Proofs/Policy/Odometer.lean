import GpuPlacement.Policy.Search
import GpuPlacement.Proofs.Policy.Combinations

/-!
# The odometer

`Search.forEachCombination` (Policy/Search.lean) visits the combinations of positions in the order
in which `combinations` lists them, each once, and ends (`forEachCombination_eq`). With what is known
of the list, that is `forEachCombination_exact`.

Of its buffer only the counters up to the level are in use; what stands behind them is stale and is
written before it is read. So the invariant is the form `front ++ counter :: stale` of the buffer at
the level `front.length`, and four equations say what one turn makes of it. A level runs its counter
up to `n` and leaves `front` alone (`Odometer.loop_level`): by induction on the loops inside of it,
and on how far its counter has to go.

A loop ends where its counter equals `n`, and nothing else ends it, so it matters that no counter is
ever beyond `n`. That is so since the counters of the loops around the level are below `n`, which
every turn keeps (`Odometer.InBounds`).
-/

set_option autoImplicit false

namespace GpuPlacement
namespace Search

/-! ## Loops and buffers -/

section Loops

variable {α β : Type} {turn : α → Search (Turn α β)} {a : α}

/-- A loop is its first turn with the loop behind it. -/
theorem loop_eq (turn : α → Search (Turn α β)) (a : α) : loop turn a = turn a >>= fun
    | .again next => loop turn next
    | .done result => pure result := by
  refine Part.ext fun r => ?_
  refine PFun.mem_fix_iff.trans (Iff.trans ?_ Part.mem_bind_iff.symm)
  simp only [Part.mem_map_iff]
  constructor
  · rintro (⟨t, ht, hr⟩ | ⟨next, ⟨t, ht, hnext⟩, hr⟩)
    · refine ⟨t, ht, ?_⟩
      rcases t with fault | next | result
      · obtain rfl := Sum.inl.inj hr
        exact Part.mem_some _
      · exact absurd hr (by simp)
      · obtain rfl := Sum.inl.inj hr
        exact Part.mem_some _
    · refine ⟨t, ht, ?_⟩
      rcases t with fault | next | result
      · exact absurd hnext (by simp)
      · obtain rfl := Sum.inr.inj hnext
        exact hr
      · exact absurd hnext (by simp)
  · rintro ⟨t, ht, hr⟩
    rcases t with fault | next | result
    · exact .inl ⟨_, ht, by rw [Part.mem_some_iff.mp hr]⟩
    · exact .inr ⟨next, ⟨_, ht, rfl⟩, hr⟩
    · exact .inl ⟨_, ht, by rw [Part.mem_some_iff.mp hr]⟩

theorem loop_again {next : α} (h : turn a = pure (.again next)) : loop turn a = loop turn next := by
  rw [loop_eq, h, pure_bind]

theorem loop_done {result : β} (h : turn a = pure (.done result)) : loop turn a = pure result := by
  rw [loop_eq, h, pure_bind]

theorem pure_inj {x y : α} (h : (pure x : Search α) = pure y) : x = y :=
  Except.ok.inj (Part.some_injective h)

/-- Where two steps in turn give a result, the first gives one and the second goes on from it. -/
theorem exists_of_bind_eq_pure {x : Search α} {f : α → Search β} {result : β}
    (h : x >>= f = pure result) : ∃ y, x = pure y ∧ f y = pure result := by
  have hmem : Except.ok result ∈ (x >>= f).run := by
    rw [h]
    exact Part.mem_some _
  obtain ⟨y, hx, hf⟩ := Part.mem_bind_iff.mp hmem
  cases y with
  | error fault => exact absurd (Part.mem_some_iff.mp hf) (by simp)
  | ok y => exact ⟨y, Part.eq_some_iff.mpr hx, Part.eq_some_iff.mpr hf⟩

end Loops

section Buffers

variable {α : Type} (front back : List α) (x y : α)

theorem entry_eq {buffer : List α} {i : Nat} (h : buffer[i]? = some x) :
    entry buffer i = pure x := by
  rw [entry, h]

theorem entry_append_cons : entry (front ++ x :: back) front.length = pure x :=
  entry_eq x (by simp)

theorem assign_append_cons :
    assign (front ++ x :: back) front.length y = pure (front ++ y :: back) := by
  rw [assign, if_pos (by simp), List.set_append_right _ _ (Nat.le_refl _), Nat.sub_self]
  rfl

end Buffers

namespace Odometer

variable {σ : Type} {n size : Nat} {visit : σ → List Nat → Search σ}

/-! ## One turn -/

section Turns

variable {counter : Nat} (front stale : List Nat) (s : σ)

/-- The outermost loop has come to its end. -/
theorem turn_done : turn n size visit ⟨n :: stale, 0, s⟩ = pure (.done s) := by
  rw [turn, entry_eq n (by simp), pure_bind, if_pos rfl]

/-- A loop further in has come to its end, and the one around it goes on. -/
theorem turn_back : turn n size visit ⟨front ++ counter :: n :: stale, front.length + 1, s⟩
    = pure (.again ⟨front ++ (counter + 1) :: n :: stale, front.length, s⟩) := by
  rw [turn, entry_eq n (by simp), pure_bind, if_pos rfl]
  simp only [entry_append_cons, assign_append_cons, pure_bind]

/-- The next loop starts behind the counter of this one. -/
theorem turn_deeper {old : Nat} (hn : counter ≠ n) (hlevel : front.length < size - 1) :
    turn n size visit ⟨front ++ counter :: old :: stale, front.length, s⟩
      = pure (.again ⟨front ++ counter :: (counter + 1) :: stale, front.length + 1, s⟩) := by
  have hassign := assign_append_cons (front ++ [counter]) stale old (counter + 1)
  simp only [List.length_append, List.length_singleton, List.append_assoc,
    List.singleton_append] at hassign
  rw [turn, entry_append_cons, pure_bind, if_neg hn, if_pos hlevel, hassign, pure_bind]

/-- The innermost loop calls and goes on. -/
theorem turn_visit (hn : counter ≠ n) (hlevel : ¬ front.length < size - 1) :
    turn n size visit ⟨front ++ counter :: stale, front.length, s⟩
      = visit s (front ++ counter :: stale) >>= fun s =>
          pure (.again ⟨front ++ (counter + 1) :: stale, front.length, s⟩) := by
  rw [turn, entry_append_cons, pure_bind, if_neg hn, if_neg hlevel]
  simp only [assign_append_cons, pure_bind]

end Turns

/-! ## The whole loop -/

/-- From a level that `inner` more loops are in, the loop calls for every way to go on from `front`
and comes back to this level with its counter at the end. -/
theorem loop_level {inner : Nat} : ∀ (counter : Nat) (front stale : List Nat),
    counter ≤ n → stale.length = inner → front.length + inner + 1 = size →
    ∃ stale', stale'.length = inner ∧ ∀ s,
      loop (turn n size visit) ⟨front ++ counter :: stale, front.length, s⟩
        = (combinations (inner + 1) (List.range' counter (n - counter))).foldlM
            (fun s chosen => visit s (front ++ chosen)) s >>= fun s =>
          loop (turn n size visit) ⟨front ++ n :: stale', front.length, s⟩ := by
  induction inner with
  | zero =>
    intro counter front stale hle hstale hsize
    obtain rfl := List.length_eq_zero_iff.mp hstale
    induction hgo : n - counter generalizing counter with
    | zero =>
      obtain rfl : counter = n := by omega
      exact ⟨[], rfl, fun s => by simp [combinations]⟩
    | succ k ih =>
      obtain ⟨stale', hstale', hrest⟩ := ih (counter + 1) (by omega) (by omega)
      refine ⟨stale', hstale', fun s => ?_⟩
      rw [loop_eq, turn_visit front [] s (by omega) (by omega), List.range'_succ, combinations,
        List.foldlM_append]
      simp only [hrest, combinations, List.map_cons, List.map_nil, List.foldlM_cons, List.foldlM_nil,
        bind_assoc, pure_bind]
  | succ inner ihInner =>
    intro counter front stale hle hstale hsize
    induction hgo : n - counter generalizing counter stale with
    | zero =>
      obtain rfl : counter = n := by omega
      exact ⟨stale, hstale, fun s => by simp [combinations]⟩
    | succ k ih =>
      obtain ⟨old, stale, rfl⟩ := List.exists_cons_of_length_eq_add_one hstale
      obtain ⟨stale', hstale', hinside⟩ := ihInner (counter + 1) (front ++ [counter]) stale
        (by omega) (by simpa using hstale) (by simp; omega)
      obtain ⟨stale'', hstale'', hrest⟩ := ih (counter + 1) (n :: stale') (by omega)
        (by simp [hstale']) (by omega)
      refine ⟨stale'', hstale'', fun s => ?_⟩
      have hk : n - (counter + 1) = k := by omega
      simp only [List.length_append, List.length_singleton, List.append_assoc,
        List.singleton_append, hk] at hinside
      have hback : ∀ s, loop (turn n size visit)
          ⟨front ++ counter :: n :: stale', front.length + 1, s⟩
            = loop (turn n size visit) ⟨front ++ (counter + 1) :: n :: stale', front.length, s⟩ :=
        fun s => loop_again (turn_back front stale' s)
      rw [loop_again (turn_deeper front stale s (by omega) (by omega)), hinside, List.range'_succ,
        combinations, List.foldlM_append, List.foldlM_map, bind_assoc]
      simp only [hback, hrest]

/-! ## The counters -/

/-- The variables in which the loop begins one of its turns. -/
inductive Reached (n size : Nat) (visit : σ → List Nat → Search σ) (s : σ) : Odometer σ → Prop where
  | start (hsize : 0 < size) (hle : size ≤ n) :
      Reached n size visit s ⟨List.replicate size 0, 0, s⟩
  | again {o next : Odometer σ} (h : Reached n size visit s o)
      (hturn : turn n size visit o = pure (.again next)) : Reached n size visit s next

/-- The buffer has `size` counters, and the level is the place of one of them. The counters of the
loops around it are below `n`, and no counter is beyond `n`. -/
inductive InBounds (n size : Nat) : Odometer σ → Prop where
  | atLevel {front stale : List Nat} {counter : Nat} {s : σ}
      (hsize : front.length + stale.length + 1 = size) (hfront : ∀ c ∈ front, c < n)
      (hcounter : counter ≤ n) (hstale : ∀ c ∈ stale, c ≤ n) :
      InBounds n size ⟨front ++ counter :: stale, front.length, s⟩

theorem InBounds.length_indices {o : Odometer σ} (h : o.InBounds n size) :
    o.indices.length = size := by
  obtain ⟨hsize, -, -, -⟩ := h
  rw [List.length_append, List.length_cons, ← Nat.add_assoc, hsize]

theorem InBounds.level_lt {o : Odometer σ} (h : o.InBounds n size) : o.level < size := by
  obtain ⟨hsize, -, -, -⟩ := h
  rw [← hsize]
  exact Nat.lt_succ_of_le (Nat.le_add_right _ _)

theorem InBounds.le_of_mem {o : Odometer σ} (h : o.InBounds n size) : ∀ c ∈ o.indices, c ≤ n := by
  obtain ⟨-, hfront, hcounter, hstale⟩ := h
  intro c hc
  rcases List.mem_append.mp hc with hc | hc
  · exact Nat.le_of_lt (hfront c hc)
  · rcases List.mem_cons.mp hc with rfl | hc
    · exact hcounter
    · exact hstale c hc

/-- A turn that is not the last leaves the variables in bounds. -/
theorem InBounds.turn {o next : Odometer σ} (h : o.InBounds n size)
    (hturn : turn n size visit o = pure (.again next)) : next.InBounds n size := by
  cases h with
  | @atLevel front stale counter s hsize hfront hcounter hstale =>
    by_cases hn : counter = n
    · subst hn
      rcases List.eq_nil_or_concat' front with rfl | ⟨front, outer, rfl⟩
      · exact absurd (pure_inj ((turn_done stale s).symm.trans hturn)) (by simp)
      · -- The counter around it was below `n`, so there is room for one more.
        obtain ⟨hfront, houter⟩ := List.forall_mem_append.mp hfront
        rw [List.length_append, List.length_singleton, List.append_assoc, List.singleton_append,
          turn_back] at hturn
        obtain rfl := Turn.again.inj (pure_inj hturn)
        refine .atLevel ?_ hfront (houter outer (List.mem_singleton_self _)) ?_
        · rw [List.length_append, List.length_singleton] at hsize
          rw [List.length_cons]
          omega
        · exact List.forall_mem_cons.mpr ⟨Nat.le_refl _, hstale⟩
    · have hlt : counter < n := Nat.lt_of_le_of_ne hcounter hn
      by_cases hlevel : front.length < size - 1
      · obtain ⟨old, stale, rfl⟩ := List.exists_cons_of_length_pos (show 0 < stale.length by omega)
        rw [turn_deeper front stale s hn hlevel] at hturn
        obtain rfl := Turn.again.inj (pure_inj hturn)
        have hnext : InBounds n size
            (⟨(front ++ [counter]) ++ (counter + 1) :: stale, (front ++ [counter]).length, s⟩ :
              Odometer σ) := by
          refine .atLevel ?_ ?_ hlt (List.forall_mem_cons.mp hstale).2
          · rw [List.length_cons] at hsize
            rw [List.length_append, List.length_singleton]
            omega
          · exact List.forall_mem_append.mpr ⟨hfront, List.forall_mem_singleton.mpr hlt⟩
        rwa [List.append_assoc, List.singleton_append, List.length_append,
          List.length_singleton] at hnext
      · rw [turn_visit front stale s hn hlevel] at hturn
        obtain ⟨s', -, hturn⟩ := exists_of_bind_eq_pure hturn
        obtain rfl := Turn.again.inj (pure_inj hturn)
        exact .atLevel hsize hfront hlt hstale

/-- Whatever the callback does, the loop stays in bounds. -/
theorem Reached.inBounds {s : σ} {o : Odometer σ} (h : Reached n size visit s o) :
    o.InBounds n size := by
  induction h with
  | start hsize hle =>
    obtain ⟨inner, rfl⟩ := Nat.exists_eq_add_one.mpr hsize
    have hstale : ∀ c ∈ List.replicate inner 0, c ≤ n :=
      fun c hc => (List.eq_of_mem_replicate hc).le.trans (Nat.zero_le n)
    exact .atLevel (by simp) (List.forall_mem_nil _) (Nat.zero_le n) hstale
  | again _ hturn ih => exact ih.turn hturn

end Odometer

/-! ## The search -/

/-- The loop calls for each combination in turn, and then it ends. -/
theorem forEachCombination_eq {σ : Type} {n size : Nat} {visit : σ → List Nat → Search σ}
    (hsize : 0 < size) (s : σ) : forEachCombination n size visit s
      = (combinations size (List.range n)).foldlM visit s := by
  rw [forEachCombination]
  by_cases hle : size ≤ n
  · cases size with
    | zero => exact absurd hsize (Nat.lt_irrefl 0)
    | succ inner =>
      obtain ⟨stale, -, hloop⟩ := Odometer.loop_level 0 [] (List.replicate inner 0) (Nat.zero_le n)
        List.length_replicate (by simp : _ = inner + 1)
      have hdone : ∀ s, loop (Odometer.turn n (inner + 1) visit) ⟨n :: stale, 0, s⟩ = pure s :=
        fun s => loop_done (Odometer.turn_done stale s)
      rw [if_neg (by omega), List.replicate_succ, List.range_eq_range']
      exact (hloop s).trans ((bind_congr hdone).trans (bind_pure _))
  · rw [if_pos (by omega), combinations_eq_nil (by rw [List.length_range]; omega)]
    rfl

/-- **The search for combinations.** For every number of positions and every size there is a list of
the ascending tuples of that size; it holds each of them, in ascending lexicographic order, so none
is there twice and their number is a binomial coefficient. There is none if the size is 0 or more
than the positions. The search calls for each tuple of that list in turn, whatever its callback does,
and for nothing else. In particular it ends wherever its calls do, and with no fault of its own: each
of its turns begins with all counters in the buffer, the level among them, and none beyond `n`. -/
theorem forEachCombination_exact (n size : Nat) : ∃ tuples : List (List Nat),
    (∀ tuple, tuple ∈ tuples ↔
      0 < size ∧ tuple.length = size ∧ tuple.Pairwise (· < ·) ∧ ∀ p ∈ tuple, p < n) ∧
    tuples.Pairwise (· < ·) ∧
    (0 < size → tuples.length = n.choose size) ∧
    (tuples = [] ↔ size = 0 ∨ n < size) ∧
    (∀ (σ : Type) (visit : σ → List Nat → Search σ) (s : σ),
      forEachCombination n size visit s = tuples.foldlM visit s) ∧
    (∀ (σ : Type) (call : σ → List Nat → σ) (s : σ),
      forEachCombination n size (fun s tuple => pure (call s tuple)) s
        = pure (tuples.foldl call s)) ∧
    (∀ (σ : Type) (visit : σ → List Nat → Search σ) (s : σ) (o : Odometer σ),
      Odometer.Reached n size visit s o →
        o.indices.length = size ∧ o.level < size ∧ ∀ c ∈ o.indices, c ≤ n) := by
  have hreached : ∀ (σ : Type) (visit : σ → List Nat → Search σ) (s : σ) (o : Odometer σ),
      Odometer.Reached n size visit s o →
        o.indices.length = size ∧ o.level < size ∧ ∀ c ∈ o.indices, c ≤ n :=
    fun _ _ _ _ h => ⟨h.inBounds.length_indices, h.inBounds.level_lt, h.inBounds.le_of_mem⟩
  rcases Nat.eq_zero_or_pos size with rfl | hsize
  · refine ⟨[], by simp, .nil, fun h => absurd h (Nat.lt_irrefl 0), by simp, ?_, ?_, hreached⟩
    · exact fun _ _ _ => if_pos (.inl rfl)
    · exact fun _ _ _ => if_pos (.inl rfl)
  · have hcalls : ∀ (σ : Type) (visit : σ → List Nat → Search σ) (s : σ),
        forEachCombination n size visit s
          = (combinations size (List.range n)).foldlM visit s :=
      fun _ _ s => forEachCombination_eq hsize s
    refine ⟨combinations size (List.range n), fun tuple => ?_,
      combinations_ascending List.pairwise_lt_range size, fun _ => ?_, ?_, hcalls, ?_, hreached⟩
    · rw [mem_combinations_range_iff, and_iff_right hsize]
    · rw [length_combinations, List.length_range]
    · rw [combinations_range_eq_nil_iff, or_iff_right hsize.ne']
    · intro σ call s
      rw [hcalls, List.foldlM_pure]

/-- Three of five positions are chosen in ten ways: a callback that counts comes to that. The first
turn begins with the level in the buffer. -/
theorem forEachCombination_exact_threeOfFive :
    0 < 3 ∧ forEachCombination 5 3 (fun count _ => pure (count + 1)) 0 = pure 10 ∧
      (∃ tuples : List (List Nat), [0, 1, 2] ∈ tuples ∧ [2, 3, 4] ∈ tuples ∧
        forEachCombination 5 3 (fun calls tuple => pure (calls ++ [tuple])) [] = pure tuples) ∧
      ∃ o, Odometer.Reached 5 3 (fun count _ => pure (count + 1)) 0 o ∧ o.level < 3 := by
  obtain ⟨tuples, hmem, -, hlength, -, -, hcalls, hreached⟩ := forEachCombination_exact 5 3
  have hstart : Odometer.Reached 5 3 (fun count _ => pure (count + 1)) 0 ⟨[0, 0, 0], 0, 0⟩ :=
    .start (by decide) (by decide)
  refine ⟨by decide, ?_, ⟨tuples, ?_, ?_, ?_⟩, _, hstart, (hreached _ _ _ _ hstart).2.1⟩
  · have hcount : tuples.length = 10 := hlength (by decide)
    rw [hcalls, List.foldl_add_const, hcount]
  · exact (hmem _).mpr (by decide)
  · exact (hmem _).mpr (by decide)
  · rw [hcalls, ← List.flatMap_eq_foldl, List.flatMap_singleton']

end Search
end GpuPlacement
