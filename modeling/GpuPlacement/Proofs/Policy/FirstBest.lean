import GpuPlacement.Policy.BestEffort
import GpuPlacement.Proofs.Result

/-!
# First maxima

`firstBest` (Policy/BestEffort.lean) keeps the first item with the highest score. `FirstMax` is
what that means, among those items of a list that satisfy a condition; both folds of the
best-effort policy are read through it.
-/

set_option autoImplicit false

namespace GpuPlacement

/-- `x` satisfies `p`, has more points than every such item before it and no fewer than every
such item after it. -/
def FirstMax {α : Type} (p : α → Prop) (points : α → Nat) (items : List α) (x : α) : Prop :=
  p x ∧ ∃ before after, items = before ++ x :: after ∧
    (∀ y ∈ before, p y → points y < points x) ∧ ∀ y ∈ after, p y → points y ≤ points x

namespace FirstMax

variable {α : Type} {p : α → Prop} {points : α → Nat} {items : List α} {x y : α}

theorem mem (h : FirstMax p points items x) : x ∈ items := by
  obtain ⟨-, before, after, rfl, -, -⟩ := h
  simp

theorem le (h : FirstMax p points items x) (hy : y ∈ items) (hp : p y) : points y ≤ points x := by
  obtain ⟨-, before, after, rfl, hb, ha⟩ := h
  rcases List.mem_append.mp hy with hy | hy
  · exact Nat.le_of_lt (hb y hy hp)
  · rcases List.mem_cons.mp hy with rfl | hy
    · exact Nat.le_refl _
    · exact ha y hy hp

/-- An item in front that is worth less does not matter. -/
theorem cons_of_lt (h : FirstMax p points items x) (hy : p y → points y < points x) :
    FirstMax p points (y :: items) x := by
  obtain ⟨hp, before, after, rfl, hb, ha⟩ := h
  refine ⟨hp, y :: before, after, rfl, fun z hz => ?_, ha⟩
  rcases List.mem_cons.mp hz with rfl | hz
  · exact hy
  · exact hb z hz

/-- An item behind the front one that is worth no more does not matter. -/
theorem insert_of_le {front : α} (h : FirstMax p points (front :: items) x) (hf : p front)
    (hy : points y ≤ points front) : FirstMax p points (front :: y :: items) x := by
  have hle := h.le (y := front) (by simp) hf
  obtain ⟨hp, before, after, he, hb, ha⟩ := h
  cases before with
  | nil =>
    obtain ⟨rfl, rfl⟩ := List.cons.inj he
    refine ⟨hp, [], y :: items, rfl, by simp, fun z hz hpz => ?_⟩
    rcases List.mem_cons.mp hz with rfl | hz
    · exact hy
    · exact ha z hz hpz
  | cons c before =>
    obtain ⟨rfl, rfl⟩ := List.cons.inj he
    have hlt := hb front (by simp) hf
    refine ⟨hp, front :: y :: before, after, rfl, fun z hz hpz => ?_, ha⟩
    rcases List.mem_cons.mp hz with rfl | hz
    · exact hlt
    · rcases List.mem_cons.mp hz with rfl | hz
      · omega
      · exact hb z (by simp [hz]) hpz

/-- The first maximum among the items that pass a test is the first one of all that satisfy it. -/
theorem of_filter {test : α → Bool} (h : FirstMax (fun _ => True) points (items.filter test) x)
    (ht : ∀ y ∈ items, test y = true ↔ p y) : FirstMax p points items x := by
  have hx := List.mem_filter.mp h.mem
  have hpx : p x := (ht x hx.1).mp hx.2
  induction items with
  | nil => exact absurd hx.1 (by simp)
  | cons y items ih =>
    have ht' : ∀ z ∈ items, test z = true ↔ p z := fun z hz => ht z (List.mem_cons_of_mem _ hz)
    -- What the test drops does not satisfy `p`, so that it can go in front again.
    by_cases hy : test y
    · obtain ⟨-, before, after, he, hb, ha⟩ := h
      rw [List.filter_cons, if_pos hy] at he
      cases before with
      | nil =>
        obtain ⟨rfl, rfl⟩ := List.cons.inj he
        refine ⟨hpx, [], items, rfl, by simp, fun z hz hpz => ?_⟩
        exact ha z (List.mem_filter.mpr ⟨hz, (ht' z hz).mpr hpz⟩) trivial
      | cons c before =>
        obtain ⟨rfl, he'⟩ := List.cons.inj he
        have hmem : x ∈ items.filter test := by rw [he']; simp
        exact (ih ⟨trivial, before, after, he', fun z hz => hb z (by simp [hz]), ha⟩ ht'
          (List.mem_filter.mp hmem)).cons_of_lt (fun _ => hb y (by simp) trivial)
    · rw [List.filter_cons, if_neg hy] at h
      exact (ih h ht' (List.mem_filter.mp h.mem)).cons_of_lt
        fun hp => absurd ((ht y (by simp)).mpr hp) hy

/-- A first maximum is one of the images, if the map keeps condition and points. -/
theorem map {β : Type} {f : α → β} {q : β → Prop} {points' : β → Nat}
    (h : FirstMax p points items x) (hq : ∀ y ∈ items, q (f y) ↔ p y)
    (hpoints : ∀ y ∈ items, points' (f y) = points y) :
    FirstMax q points' (items.map f) (f x) := by
  have hx := h.mem
  obtain ⟨hp, before, after, rfl, hb, ha⟩ := h
  have hmem : ∀ y, y ∈ before ∨ y ∈ after → y ∈ before ++ x :: after := by
    intro y hy
    rcases hy with hy | hy <;> simp [hy]
  refine ⟨(hq x hx).mpr hp, before.map f, after.map f, by simp, ?_, ?_⟩
  · intro z hz hqz
    obtain ⟨y, hy, rfl⟩ := List.mem_map.mp hz
    rw [hpoints y (hmem y (Or.inl hy)), hpoints x hx]
    exact hb y hy ((hq y (hmem y (Or.inl hy))).mp hqz)
  · intro z hz hqz
    obtain ⟨y, hy, rfl⟩ := List.mem_map.mp hz
    rw [hpoints y (hmem y (Or.inr hy)), hpoints x hx]
    exact ha y hy ((hq y (hmem y (Or.inr hy))).mp hqz)

/-- A list has one first maximum. -/
theorem eq (h : FirstMax p points items x) (h' : FirstMax p points items y) : x = y := by
  obtain ⟨hpx, before, after, rfl, hb, ha⟩ := h
  obtain ⟨hpy, before', after', he, hb', ha'⟩ := h'
  -- If the places differ, each of the two would have more points than the other or as many.
  rcases List.append_eq_append_iff.mp he with ⟨more, hm, hr⟩ | ⟨more, hm, hr⟩
  · cases more with
    | nil => exact (List.cons.inj hr).1
    | cons z more =>
      obtain ⟨rfl, rfl⟩ := List.cons.inj hr
      have h1 := hb' x (by simp [hm]) hpx
      have h2 := ha y (by simp) hpy
      omega
  · cases more with
    | nil => exact (List.cons.inj hr).1.symm
    | cons z more =>
      obtain ⟨rfl, rfl⟩ := List.cons.inj hr
      have h1 := hb y (by simp [hm]) hpy
      have h2 := ha' x (by simp) hpx
      omega

end FirstMax

/-- The fold that carries the best item so far ends with the first maximum. -/
theorem foldlM_better {α : Type} {score : α → Except Fault Nat} {points : α → Nat} :
    ∀ {items : List α} (front : α), (∀ x ∈ items, score x = .ok (points x)) →
      ∃ x, FirstMax (fun _ => True) points (front :: items) x ∧
        items.foldlM (fun best item => return better best item (← score item))
          (some (front, points front)) = (.ok (some (x, points x)) : Except Fault _) := by
  intro items
  induction items with
  | nil => exact fun front _ => ⟨front, ⟨trivial, [], [], rfl, by simp, by simp⟩, rfl⟩
  | cons y items ih =>
    intro front hs
    have hs' := fun x hx => hs x (List.mem_cons_of_mem y hx)
    rw [List.foldlM_cons, hs y (by simp)]
    -- The best item so far stands for all before it, as the front of the list.
    by_cases hlt : points front < points y
    · have hb : better (some (front, points front)) y (points y) = some (y, points y) :=
        if_pos hlt
      obtain ⟨x, hx, he⟩ := ih y hs'
      refine ⟨x, hx.cons_of_lt fun _ => ?_, ?_⟩
      · exact Nat.lt_of_lt_of_le hlt (hx.le (by simp) trivial)
      · show items.foldlM _ (better (some (front, points front)) y (points y)) = _
        rw [hb]
        exact he
    · have hb : better (some (front, points front)) y (points y) = some (front, points front) :=
        if_neg hlt
      obtain ⟨x, hx, he⟩ := ih front hs'
      refine ⟨x, hx.insert_of_le trivial (by omega), ?_⟩
      show items.foldlM _ (better (some (front, points front)) y (points y)) = _
      rw [hb]
      exact he

/-- `firstBest` finds the first maximum of the points that its score counts. -/
theorem firstBest_eq {α : Type} {score : α → Except Fault Nat} {points : α → Nat}
    {items : List α} (h : ∀ x ∈ items, score x = .ok (points x)) :
    (items = [] ∧ firstBest score items = .ok none) ∨
      ∃ x, FirstMax (fun _ => True) points items x ∧ firstBest score items = .ok (some x) := by
  cases items with
  | nil => exact Or.inl ⟨rfl, rfl⟩
  | cons front items =>
    obtain ⟨x, hx, he⟩ := foldlM_better front
      fun y hy => h y (List.mem_cons_of_mem front hy)
    refine Or.inr ⟨x, hx, ?_⟩
    have hfold : (front :: items).foldlM (fun best item => return better best item (← score item))
        none = (.ok (some (x, points x)) : Except Fault _) := by
      rw [List.foldlM_cons, h front (by simp), ← he]
      rfl
    rw [firstBest, hfold]
    rfl

/-! ## Whatever the scores are -/

/-- What the fold ends with it has met on the way, or had at the start. -/
theorem mem_of_foldlM_better {α : Type} {score : α → Except Fault Nat} {items : List α}
    {best : Option (α × Nat)} {x : α} {highest : Nat}
    (h : items.foldlM (fun best item => return better best item (← score item)) best
      = (.ok (some (x, highest)) : Except Fault _)) : x ∈ items ∨ best = some (x, highest) := by
  induction items generalizing best with
  | nil => exact Or.inr (Except.ok.inj h)
  | cons y items ih =>
    rw [List.foldlM_cons] at h
    obtain ⟨next, hnext, hrest⟩ := exists_of_bind_eq_ok h
    obtain ⟨n, -, hbetter⟩ := exists_of_bind_eq_ok hnext
    rcases ih hrest with hx | rfl
    · exact Or.inl (List.mem_cons_of_mem _ hx)
    · -- The better of the two is either of them.
      have hy : best = some (x, highest) ∨ y = x := by
        have hbest : better best y n = some (x, highest) := Except.ok.inj hbetter
        unfold better at hbest
        split at hbest
        · split at hbest
          · exact Or.inr (Prod.mk.inj (Option.some.inj hbest)).1
          · exact Or.inl hbest
        · exact Or.inr (Prod.mk.inj (Option.some.inj hbest)).1
      rcases hy with hbest | rfl
      · exact Or.inr hbest
      · exact Or.inl List.mem_cons_self

theorem mem_of_firstBest {α : Type} {score : α → Except Fault Nat} {items : List α} {x : α}
    (h : firstBest score items = .ok (some x)) : x ∈ items := by
  obtain ⟨best, hfold, hbest⟩ := exists_of_bind_eq_ok h
  obtain ⟨⟨y, highest⟩, rfl, rfl⟩ := Option.map_eq_some_iff.mp (Except.ok.inj hbest)
  exact (mem_of_foldlM_better hfold).resolve_right (by simp)

theorem firstBest_failsIn {α : Type} {P : Fault → Prop} {score : α → Except Fault Nat}
    {items : List α} (h : ∀ x ∈ items, FailsIn P (score x)) : FailsIn P (firstBest score items) :=
  (failsIn_foldlM (fun x hx _ => (h x hx).bind fun _ => failsIn_ok _) none).bind
    fun _ => failsIn_ok _

end GpuPlacement
