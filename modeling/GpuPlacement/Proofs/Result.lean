import Mathlib.Data.List.Forall2

/-!
# Results and what they were made of

A step of a computation that may fail, read backwards: from what a result has become to what it
was. Behind it stands what the same amounts to for lists, whose members are related one by one.
-/

set_option autoImplicit false

namespace GpuPlacement

variable {ε α β γ : Type}

theorem exists_of_bind_eq_ok {x : Except ε α} {f : α → Except ε β} {b : β}
    (h : x >>= f = .ok b) : ∃ a, x = .ok a ∧ f a = .ok b := by
  cases x with
  | error e => exact absurd h (by simp [bind, Except.bind])
  | ok a => exact ⟨a, rfl, h⟩

theorem exists_of_map_eq_ok {x : Except ε α} {f : α → β} {b : β} (h : x.map f = .ok b) :
    ∃ a, x = .ok a ∧ f a = b := by
  cases x with
  | error e => exact absurd h (by simp [Except.map])
  | ok a => exact ⟨a, rfl, Except.ok.inj h⟩

/-- Results that have become the same failed alike, or succeeded with values that have. -/
theorem cases_of_map_eq {x : Except ε α} {y : Except ε β} {f : α → γ} {g : β → γ}
    (h : x.map f = y.map g) :
    (∃ e, x = .error e ∧ y = .error e) ∨ ∃ a b, x = .ok a ∧ y = .ok b ∧ f a = g b := by
  cases x with
  | error e =>
    cases y with
    | error e' =>
      obtain rfl := Except.error.inj h
      exact Or.inl ⟨e, rfl, rfl⟩
    | ok b => exact absurd h (by simp [Except.map])
  | ok a =>
    obtain ⟨b, rfl, hb⟩ := exists_of_map_eq_ok h.symm
    exact Or.inr ⟨a, b, rfl, rfl, hb.symm⟩

/-! ## What a computation can fail with -/

/-- If a computation fails, then with an error as `P` says. -/
def FailsIn (P : ε → Prop) (x : Except ε α) : Prop := ∀ e, x = .error e → P e

variable {P : ε → Prop}

theorem failsIn_ok (a : α) : FailsIn P (.ok a : Except ε α) := fun _ h => absurd h (by simp)

theorem failsIn_error {e : ε} (h : P e) : FailsIn P (.error e : Except ε α) := by
  intro e' he
  obtain rfl := Except.error.inj he
  exact h

theorem FailsIn.bind {x : Except ε α} {f : α → Except ε β} (hx : FailsIn P x)
    (hf : ∀ a, FailsIn P (f a)) : FailsIn P (x >>= f) := by
  cases x with
  | error e => exact failsIn_error (hx e rfl)
  | ok a => exact hf a

theorem failsIn_foldlM {step : β → α → Except ε β} {l : List α}
    (hstep : ∀ a ∈ l, ∀ b, FailsIn P (step b a)) (b : β) : FailsIn P (l.foldlM step b) := by
  induction l generalizing b with
  | nil => exact failsIn_ok b
  | cons a l ih =>
    rw [List.foldlM_cons]
    exact (hstep a List.mem_cons_self b).bind
      fun next => ih (fun x hx => hstep x (List.mem_cons_of_mem _ hx)) next

/-! ## Lists of results -/

theorem exists_of_map_eq_map {f : α → γ} {i : β → γ} {l : List α} {l' : List β}
    (h : l.map f = l'.map i) {a : α} (ha : a ∈ l) : ∃ b ∈ l', i b = f a := by
  have hmem : f a ∈ l'.map i := h ▸ List.mem_map_of_mem ha
  exact List.mem_map.mp hmem

/-- Two lists that are the same under one pair of readings are so under another, if it is for the
members. -/
theorem map_eq_map_of {δ : Type} {f : α → γ} {i : β → γ} {g : α → δ} {j : β → δ} {l : List α}
    {l' : List β} (h : l.map f = l'.map i) (hf : ∀ a ∈ l, ∀ b, f a = i b → g a = j b) :
    l.map g = l'.map j := by
  induction l generalizing l' with
  | nil =>
    obtain rfl := List.map_eq_nil_iff.mp h.symm
    rfl
  | cons a l ih =>
    cases l' with
    | nil => exact absurd h (by simp)
    | cons b l' =>
      obtain ⟨ha, hl⟩ := List.cons.inj h
      rw [List.map_cons, List.map_cons, hf a List.mem_cons_self b ha,
        ih hl fun x hx => hf x (List.mem_cons_of_mem _ hx)]

theorem mapM_eq_ok {f : α → Except ε β} {l : List α} {l' : List β}
    (h : l.map f = l'.map .ok) : l.mapM f = .ok l' := by
  induction l generalizing l' with
  | nil =>
    obtain rfl := List.map_eq_nil_iff.mp h.symm
    rfl
  | cons a l ih =>
    cases l' with
    | nil => exact absurd h (by simp)
    | cons b l' =>
      obtain ⟨ha, hl⟩ := List.cons.inj h
      rw [List.mapM_cons, ha, ih hl]
      rfl

theorem mapM_congr_left {f g : α → Except ε β} {l : List α} (h : ∀ a ∈ l, f a = g a) :
    l.mapM f = l.mapM g := by
  induction l with
  | nil => rfl
  | cons a l ih =>
    rw [List.mapM_cons, List.mapM_cons, h a List.mem_cons_self,
      ih fun b hb => h b (List.mem_cons_of_mem _ hb)]

/-! ## Lists in step -/

theorem exists_forall₂ {R : α → β → Prop} {l : List α} (h : ∀ x ∈ l, ∃ y, R x y) :
    ∃ l', List.Forall₂ R l l' := by
  induction l with
  | nil => exact ⟨[], .nil⟩
  | cons a l ih =>
    obtain ⟨b, hb⟩ := h a List.mem_cons_self
    obtain ⟨l', hl'⟩ := ih fun x hx => h x (List.mem_cons_of_mem _ hx)
    exact ⟨b :: l', .cons hb hl'⟩

theorem exists_of_mem_forall₂ {R : α → β → Prop} {l : List α} {l' : List β}
    (h : List.Forall₂ R l l') {y : β} (hy : y ∈ l') : ∃ x ∈ l, R x y := by
  induction h with
  | nil => exact absurd hy (by simp)
  | cons hr _ ih =>
    rcases List.mem_cons.mp hy with rfl | hy
    · exact ⟨_, List.mem_cons_self, hr⟩
    · obtain ⟨x, hx, hxy⟩ := ih hy
      exact ⟨x, List.mem_cons_of_mem _ hx, hxy⟩

end GpuPlacement
