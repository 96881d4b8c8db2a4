import GpuPlacement.Data.Decode
import GpuPlacement.Proofs.Result

/-!
# Decoders and what they read back

The decoders of single values and lists (Data/Decode.lean), from both ends: what was written is
read back, and what has been read is of the right range. A record is read by a fold over its
fields, in any order and with unknown ones between them; `foldlM_keeps` is how something is
shown of the record without following the fold.
-/

set_option autoImplicit false

namespace GpuPlacement.Data

/-- What each step keeps, a fold that succeeds keeps. -/
theorem foldlM_keeps {ε α β : Type} {step : β → α → Except ε β} (P : β → Prop)
    (hstep : ∀ b a b', P b → step b a = .ok b' → P b') {items : List α} {b b' : β} (hb : P b)
    (h : items.foldlM step b = .ok b') : P b' := by
  induction items generalizing b with
  | nil =>
    obtain rfl := Except.ok.inj h
    exact hb
  | cons a items ih =>
    rw [List.foldlM_cons] at h
    obtain ⟨next, hnext, hrest⟩ := exists_of_bind_eq_ok h
    exact ih (hstep b a next hb hnext) hrest

/-! ## Numbers -/

/-- An integer of the two's complement range of `bits` bits. -/
def OfWidth (bits : Nat) (n : Int) : Prop :=
  -Int.ofNat (Nat.pow 2 (bits - 1)) ≤ n ∧ n < Int.ofNat (Nat.pow 2 (bits - 1))

instance (bits : Nat) (n : Int) : Decidable (OfWidth bits n) :=
  inferInstanceAs (Decidable (_ ∧ _))

theorem asNat_nat {limit n : Nat} (h : n ≤ limit) : asNat limit (.nat n) = .ok n := by
  have hfit : 0 ≤ (n : Int) ∧ (n : Int) ≤ limit := ⟨Int.natCast_nonneg n, Int.ofNat_le.mpr h⟩
  rw [Data.nat, asNat, if_pos hfit, Int.toNat_natCast]

theorem le_of_asNat {limit n : Nat} {d : Data} (h : asNat limit d = .ok n) : n ≤ limit := by
  unfold asNat at h
  split at h
  · split at h
    · rename_i hfit
      obtain rfl := Except.ok.inj h
      exact Int.toNat_le.mpr hfit.2
    · exact absurd h (by simp)
  · exact absurd h (by simp)

theorem asInt_integer {bits : Nat} {n : Int} (h : OfWidth bits n) :
    asInt bits (.integer n) = .ok n := if_pos h

theorem ofWidth_of_asInt {bits : Nat} {n : Int} {d : Data} (h : asInt bits d = .ok n) :
    OfWidth bits n := by
  unfold asInt at h
  split at h
  · dsimp only at h
    split at h
    · rename_i hfit
      obtain rfl := Except.ok.inj h
      exact hfit
    · exact absurd h (by simp)
  · exact absurd h (by simp)

/-! ## Fields, optional values and lists -/

section

variable {α : Type} {decode : Data → Decoded α}

theorem mem_of_require {name : String} {value : Option α} {x : α}
    (h : require name value = .ok x) : x ∈ value := by
  cases value with
  | none => exact absurd h (by simp [require])
  | some y => exact congrArg some (Except.ok.inj h)

theorem asOptional_some {d : Data} {x : α} (h : asOptional decode d = .ok (some x)) :
    decode d = .ok x := by
  unfold asOptional at h
  split at h
  · exact absurd h (by simp)
  · obtain ⟨y, hy, hx⟩ := exists_of_map_eq_ok h
    rw [hy, Option.some.inj hx]

theorem asOptional_optional {encode : α → Data} {value : Option α}
    (hnull : ∀ x, encode x ≠ .null) (h : ∀ x ∈ value, decode (encode x) = .ok x) :
    asOptional decode (.optional encode value) = .ok value := by
  cases value with
  | none => rfl
  | some x =>
    rw [Data.optional, asOptional, h x rfl]
    · rfl
    · exact hnull x

theorem asList_map {encode : α → Data} {xs : List α}
    (h : ∀ x ∈ xs, decode (encode x) = .ok x) :
    asList decode (.list (xs.map encode)) = .ok xs := by
  rw [asList]
  induction xs with
  | nil => rfl
  | cons x xs ih =>
    rw [List.forall_mem_cons] at h
    rw [List.map_cons, decodeItems, h.1, ih h.2]
    rfl

/-- Every element of a list has been read from one of its items. -/
theorem exists_of_mem_asList {d : Data} {xs : List α} (h : asList decode d = .ok xs) {x : α}
    (hx : x ∈ xs) : ∃ item, decode item = .ok x := by
  cases d with
  | list items =>
    rw [asList] at h
    induction items generalizing xs with
    | nil =>
      obtain rfl := Except.ok.inj h
      exact absurd hx (by simp)
    | cons item items ih =>
      rw [decodeItems] at h
      cases hitem : decode item with
      | error e =>
        rw [hitem] at h
        exact absurd h (by simp)
      | ok first =>
        rw [hitem] at h
        obtain ⟨rest, hrest, rfl⟩ := exists_of_map_eq_ok h
        rcases List.mem_cons.mp hx with rfl | hx
        · exact ⟨item, hitem⟩
        · exact ih hx hrest
  | _ => exact absurd h (by simp [asList])

end

end GpuPlacement.Data
