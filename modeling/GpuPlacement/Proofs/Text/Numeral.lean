import Mathlib
import GpuPlacement.Proofs.Text.Blank
import GpuPlacement.Text.Numeral

/-!
# Numerals

`readNat` (Text/Numeral.lean) reads the texts that are a numeral of a number in its range, and no
others (`readNat_eq_ok_iff`): an optional plus sign and one or more digits, with any number of zeros
in front. A number has one numeral that is written, its decimal digits. It is read back as itself if
it fits the range, and refused as too large if it does not (`readNat_toDigits_eq`). `readInt` does
the same with a sign in front (`readInt_eq_ok_iff`).
-/

set_option autoImplicit false

namespace GpuPlacement.Text

/-! ## Digits -/

theorem isDigit_iff {c : Char} : isDigit c = true ↔ c.isDigit = true := by
  simp only [isDigit, Char.isDigit, Bool.and_eq_true, decide_eq_true_eq]
  exact Iff.rfl

theorem isBlank_of_isDigit {c : Char} (h : isDigit c = true) : isBlank c = false := by
  rw [isDigit, Bool.and_eq_true, decide_eq_true_eq, decide_eq_true_eq] at h
  have hlow : 48 ≤ c.toNat := h.1
  have hhigh : c.toNat ≤ 57 := h.2
  simp only [isBlank, Bool.or_eq_false_iff, Bool.and_eq_false_iff, beq_eq_false_iff_ne,
    decide_eq_false_iff_not]
  omega

theorem isDigit_of_mem_toDigits {n : Nat} {c : Char} (h : c ∈ Nat.toDigits 10 n) :
    isDigit c = true :=
  isDigit_iff.mpr (Nat.isDigit_of_mem_toDigits (by decide) (by decide) h)

theorem isDigit_digitChar {d : Nat} (h : d < 10) : isDigit d.digitChar = true :=
  isDigit_of_mem_toDigits (by rw [Nat.toDigits_of_lt_base h]; exact List.mem_singleton_self _)

theorem digitValue_digitChar {d : Nat} (h : d < 10) : digitValue d.digitChar = d := by
  rw [digitValue, Nat.toNat_digitChar_of_lt_ten h]
  exact Nat.add_sub_cancel_left 48 d

/-- Written numbers can be told from what stands behind them, if that begins with no digit. -/
theorem toDigits_append_inj {m n : Nat} {xs ys : List Char} (hx : ∀ c ∈ xs.head?, isDigit c = false)
    (hy : ∀ c ∈ ys.head?, isDigit c = false)
    (h : Nat.toDigits 10 m ++ xs = Nat.toDigits 10 n ++ ys) : m = n ∧ xs = ys := by
  have hfront : ∀ (k : Nat) (zs : List Char), (∀ c ∈ zs.head?, isDigit c = false) →
      (Nat.toDigits 10 k ++ zs).takeWhile isDigit = Nat.toDigits 10 k := by
    intro k zs hz
    rw [List.takeWhile_append_of_pos fun c hc => isDigit_of_mem_toDigits hc]
    cases zs with
    | nil => simp
    | cons z zs => rw [List.takeWhile_cons, hz z rfl, if_neg Bool.false_ne_true, List.append_nil]
  have hdigits : Nat.toDigits 10 m = Nat.toDigits 10 n := by rw [← hfront m xs hx, h, hfront n ys hy]
  refine ⟨?_, List.append_cancel_left (hdigits ▸ h)⟩
  rw [← Nat.ofDigitChars_ten_toDigits (n := m), hdigits, Nat.ofDigitChars_ten_toDigits]

/-! ## Reading -/

theorem readDigits_append (limit : Nat) (excess : NumeralError) (value : Nat)
    (cs more : List Char) :
    readDigits limit excess value (cs ++ more)
      = (readDigits limit excess value cs).bind fun v => readDigits limit excess v more := by
  induction cs generalizing value with
  | nil => rfl
  | cons c cs ih =>
    rw [List.cons_append, readDigits, readDigits]
    split
    · split
      · exact ih _
      · rfl
    · rfl

/-- Digits that write a number are read as the number, up to the limit. -/
theorem readDigits_toDigits (limit : Nat) (excess : NumeralError) (n : Nat) :
    readDigits limit excess 0 (Nat.toDigits 10 n)
      = if n ≤ limit then .ok n else .error excess := by
  induction n using Nat.strong_induction_on with
  | _ n ih =>
    have hlast : ∀ value d : Nat, d < 10 →
        readDigits limit excess value [d.digitChar]
          = if value * 10 + d ≤ limit then .ok (value * 10 + d) else .error excess := by
      intro value d hd
      rw [readDigits, if_pos (isDigit_digitChar hd), digitValue_digitChar hd]
      split <;> rfl
    -- The last digit is read after the number that the others write.
    by_cases h10 : n < 10
    · have hone := hlast 0 n h10
      rwa [Nat.toDigits_of_lt_base h10, Nat.zero_mul, Nat.zero_add] at *
    · rw [Nat.toDigits_of_base_le (by decide) (by omega), readDigits_append, ih (n / 10) (by omega)]
      by_cases hfit : n / 10 ≤ limit
      · have hone := hlast (n / 10) (n % 10) (Nat.mod_lt _ (by decide))
        rw [show n / 10 * 10 + n % 10 = n by omega] at hone
        rw [if_pos hfit]
        exact hone
      · rw [if_neg hfit, if_neg (by omega)]
        rfl

/-- **A written number is read back**, up to the limit. -/
theorem readNat_toDigits_eq (limit n : Nat) :
    readNat limit (Nat.toDigits 10 n) = if n ≤ limit then .ok n else .error .tooLarge := by
  rw [← readDigits_toDigits]
  cases hd : Nat.toDigits 10 n with
  | nil => exact absurd hd Nat.toDigits_ne_nil
  | cons c cs =>
    have hc : isDigit c = true := isDigit_of_mem_toDigits (n := n) (hd ▸ List.mem_cons_self)
    have hplus : c ≠ '+' := by
      rintro rfl
      exact absurd hc (by decide)
    unfold readNat
    split
    · rename_i he
      exact absurd (List.cons.inj he).1 hplus
    · rfl

theorem readNat_toDigits {limit n : Nat} (h : n ≤ limit) :
    readNat limit (Nat.toDigits 10 n) = .ok n := by
  rw [readNat_toDigits_eq, if_pos h]

/-! ## What is read -/

/-- A numeral: digits, perhaps behind a plus sign, and the number that they write. -/
def Numeral (cs : List Char) (n : Nat) : Prop :=
  ∃ digits, (cs = digits ∨ cs = '+' :: digits) ∧ digits ≠ [] ∧ (∀ c ∈ digits, isDigit c = true) ∧
    Nat.ofDigitChars 10 digits 0 = n

theorem numeral_toDigits (n : Nat) : Numeral (Nat.toDigits 10 n) n :=
  ⟨_, Or.inl rfl, Nat.toDigits_ne_nil, fun _ hc => isDigit_of_mem_toDigits hc,
    Nat.ofDigitChars_ten_toDigits⟩

theorem Numeral.ne_nil {cs : List Char} {n : Nat} (h : Numeral cs n) : cs ≠ [] := by
  obtain ⟨digits, rfl | rfl, hne, -, -⟩ := h
  · exact hne
  · exact List.cons_ne_nil _ _

theorem Numeral.isDigit_or_plus {cs : List Char} {n : Nat} (h : Numeral cs n) :
    ∀ c ∈ cs, isDigit c = true ∨ c = '+' := by
  obtain ⟨digits, rfl | rfl, -, hall, -⟩ := h
  · exact fun c hc => Or.inl (hall c hc)
  · exact fun c hc => (List.mem_cons.mp hc).elim Or.inr fun hc => Or.inl (hall c hc)

theorem Numeral.trim_eq {cs : List Char} {n : Nat} (h : Numeral cs n) : trim cs = cs := by
  refine trim_eq_self fun c hc => ?_
  rcases h.isDigit_or_plus c hc with hd | rfl
  · exact isBlank_of_isDigit hd
  · decide

/-- More digits make a number no smaller. -/
theorem le_ofDigitChars (value : Nat) (cs : List Char) : value ≤ Nat.ofDigitChars 10 cs value := by
  induction cs generalizing value with
  | nil => exact Nat.le_refl _
  | cons c cs ih =>
    rw [Nat.ofDigitChars_cons]
    exact Nat.le_trans (by omega) (ih _)

theorem readDigits_eq_ok_iff {limit value n : Nat} {excess : NumeralError} {cs : List Char}
    (hv : value ≤ limit) : readDigits limit excess value cs = .ok n ↔
      (∀ c ∈ cs, isDigit c = true) ∧ Nat.ofDigitChars 10 cs value = n ∧ n ≤ limit := by
  induction cs generalizing value with
  | nil =>
    rw [readDigits, Except.ok.injEq, Nat.ofDigitChars_nil]
    constructor
    · rintro rfl
      exact ⟨by simp, rfl, hv⟩
    · exact fun h => h.2.1
  | cons c cs ih =>
    have hstep : 10 * value + (c.toNat - '0'.toNat) = value * 10 + digitValue c := by
      rw [Nat.mul_comm, digitValue]
    rw [readDigits, List.forall_mem_cons, Nat.ofDigitChars_cons, hstep]
    by_cases hc : isDigit c = true
    · rw [if_pos hc]
      by_cases hle : value * 10 + digitValue c ≤ limit
      · rw [if_pos hle, ih hle]
        exact ⟨fun h => ⟨⟨hc, h.1⟩, h.2⟩, fun h => ⟨h.1.2, h.2⟩⟩
      -- Beyond the limit no further digit brings the number back.
      · rw [if_neg hle]
        refine iff_of_false (by simp) fun h => ?_
        obtain ⟨-, rfl, hn⟩ := h
        exact hle ((le_ofDigitChars _ cs).trans hn)
    · rw [if_neg hc]
      exact iff_of_false (by simp) fun h => hc h.1.1

theorem readSignless_eq_ok_iff {limit n : Nat} {excess : NumeralError} {signed : Bool}
    {cs : List Char} : readSignless limit excess signed cs = .ok n ↔
      cs ≠ [] ∧ (∀ c ∈ cs, isDigit c = true) ∧ Nat.ofDigitChars 10 cs 0 = n ∧ n ≤ limit := by
  cases cs with
  | nil => exact iff_of_false (by simp [readSignless]) fun h => h.1 rfl
  | cons c cs =>
    show readDigits limit excess 0 (c :: cs) = .ok n ↔ _
    rw [readDigits_eq_ok_iff (Nat.zero_le limit)]
    exact (and_iff_right (List.cons_ne_nil c cs)).symm

/-- **What is read is a numeral in the range**, and every such numeral is read. -/
theorem readNat_eq_ok_iff {limit n : Nat} {cs : List Char} :
    readNat limit cs = .ok n ↔ Numeral cs n ∧ n ≤ limit := by
  unfold readNat
  split
  · rename_i rest
    rw [readSignless_eq_ok_iff]
    constructor
    · intro h
      exact ⟨⟨rest, Or.inr rfl, h.1, h.2.1, h.2.2.1⟩, h.2.2.2⟩
    · intro h
      obtain ⟨⟨digits, hcs, hne, hall, hn⟩, hle⟩ := h
      rcases hcs with rfl | hcs
      · exact absurd (hall '+' List.mem_cons_self) (by decide)
      · obtain rfl := (List.cons.inj hcs).2
        exact ⟨hne, hall, hn, hle⟩
  · rename_i hplus
    rw [readSignless_eq_ok_iff]
    constructor
    · intro h
      exact ⟨⟨cs, Or.inl rfl, h.1, h.2.1, h.2.2.1⟩, h.2.2.2⟩
    · intro h
      obtain ⟨⟨digits, hcs, hne, hall, hn⟩, hle⟩ := h
      rcases hcs with rfl | hcs
      · exact ⟨hne, hall, hn, hle⟩
      · exact absurd hcs (hplus digits)

/-! ## Numerals with a sign -/

/-- A numeral of an integer: digits, perhaps behind a sign, and the number that they write. -/
def SignedNumeral (cs : List Char) (n : Int) : Prop :=
  ∃ digits, digits ≠ [] ∧ (∀ c ∈ digits, isDigit c = true) ∧
    ((cs = digits ∨ cs = '+' :: digits) ∧ n = (Nat.ofDigitChars 10 digits 0 : Int) ∨
      cs = '-' :: digits ∧ n = -(Nat.ofDigitChars 10 digits 0 : Int))

theorem map_readSignless_eq_ok_iff {limit : Nat} {excess : NumeralError} {signed : Bool}
    {digits : List Char} {f : Nat → Int} {n : Int} :
    (readSignless limit excess signed digits).map f = .ok n ↔
      digits ≠ [] ∧ (∀ c ∈ digits, isDigit c = true) ∧ Nat.ofDigitChars 10 digits 0 ≤ limit ∧
        n = f (Nat.ofDigitChars 10 digits 0) := by
  constructor
  · intro h
    cases hr : readSignless limit excess signed digits with
    | error e =>
      rw [hr] at h
      exact absurd h (by simp [Except.map])
    | ok value =>
      obtain ⟨hne, hall, rfl, hle⟩ := readSignless_eq_ok_iff.mp hr
      rw [hr] at h
      exact ⟨hne, hall, hle, (Except.ok.inj h).symm⟩
  · intro h
    obtain ⟨hne, hall, hle, rfl⟩ := h
    rw [readSignless_eq_ok_iff.mpr ⟨hne, hall, rfl, hle⟩]
    rfl

section Signs

variable {rest cs : List Char} {n : Int}

theorem isDigit_of_cons_eq {digits : List Char} {sign : Char} (hall : ∀ c ∈ digits, isDigit c = true)
    (hcs : sign :: rest = digits) : isDigit sign = true :=
  hall sign (hcs ▸ List.mem_cons_self)

theorem signedNumeral_plus_iff : SignedNumeral ('+' :: rest) n ↔
    rest ≠ [] ∧ (∀ c ∈ rest, isDigit c = true) ∧ n = (Nat.ofDigitChars 10 rest 0 : Int) := by
  constructor
  · rintro ⟨digits, hne, hall, ⟨hcs | hcs, rfl⟩ | ⟨hcs, rfl⟩⟩
    · exact absurd (isDigit_of_cons_eq hall hcs) (by decide)
    · obtain rfl := (List.cons.inj hcs).2
      exact ⟨hne, hall, rfl⟩
    · exact absurd (List.cons.inj hcs).1 (by decide)
  · rintro ⟨hne, hall, rfl⟩
    exact ⟨rest, hne, hall, Or.inl ⟨Or.inr rfl, rfl⟩⟩

theorem signedNumeral_minus_iff : SignedNumeral ('-' :: rest) n ↔
    rest ≠ [] ∧ (∀ c ∈ rest, isDigit c = true) ∧ n = -(Nat.ofDigitChars 10 rest 0 : Int) := by
  constructor
  · rintro ⟨digits, hne, hall, ⟨hcs | hcs, rfl⟩ | ⟨hcs, rfl⟩⟩
    · exact absurd (isDigit_of_cons_eq hall hcs) (by decide)
    · exact absurd (List.cons.inj hcs).1 (by decide)
    · obtain rfl := (List.cons.inj hcs).2
      exact ⟨hne, hall, rfl⟩
  · rintro ⟨hne, hall, rfl⟩
    exact ⟨rest, hne, hall, Or.inr ⟨rfl, rfl⟩⟩

theorem signedNumeral_iff_of_no_sign (hplus : ∀ rest, cs ≠ '+' :: rest)
    (hminus : ∀ rest, cs ≠ '-' :: rest) : SignedNumeral cs n ↔
      cs ≠ [] ∧ (∀ c ∈ cs, isDigit c = true) ∧ n = (Nat.ofDigitChars 10 cs 0 : Int) := by
  constructor
  · rintro ⟨digits, hne, hall, ⟨rfl | hcs, rfl⟩ | ⟨hcs, rfl⟩⟩
    · exact ⟨hne, hall, rfl⟩
    · exact absurd hcs (hplus digits)
    · exact absurd hcs (hminus digits)
  · rintro ⟨hne, hall, rfl⟩
    exact ⟨cs, hne, hall, Or.inl ⟨Or.inl rfl, rfl⟩⟩

end Signs

/-- The same for integers: what is read is a numeral in the range of so many bits. -/
theorem readInt_eq_ok_iff {bits : Nat} {n : Int} {cs : List Char} :
    readInt bits cs = .ok n ↔ SignedNumeral cs n ∧
      -(Nat.pow 2 (bits - 1) : Int) ≤ n ∧ n < (Nat.pow 2 (bits - 1) : Int) := by
  have hpos : 0 < Nat.pow 2 (bits - 1) := Nat.two_pow_pos _
  -- In each case the limit on the digits is what the range says of the number.
  unfold readInt
  split
  · rename_i rest
    rw [map_readSignless_eq_ok_iff, signedNumeral_plus_iff, Int.ofNat_eq_natCast]
    constructor
    · rintro ⟨hne, hall, hle, rfl⟩
      exact ⟨⟨hne, hall, rfl⟩, by omega, by omega⟩
    · rintro ⟨⟨hne, hall, rfl⟩, -, hhigh⟩
      exact ⟨hne, hall, by omega, rfl⟩
  · rename_i rest
    rw [map_readSignless_eq_ok_iff, signedNumeral_minus_iff, Int.ofNat_eq_natCast]
    constructor
    · rintro ⟨hne, hall, hle, rfl⟩
      exact ⟨⟨hne, hall, rfl⟩, by omega, by omega⟩
    · rintro ⟨⟨hne, hall, rfl⟩, hlow, -⟩
      exact ⟨hne, hall, by omega, rfl⟩
  · rename_i hplus hminus
    rw [map_readSignless_eq_ok_iff, signedNumeral_iff_of_no_sign hplus hminus,
      Int.ofNat_eq_natCast]
    constructor
    · rintro ⟨hne, hall, hle, rfl⟩
      exact ⟨⟨hne, hall, rfl⟩, by omega, by omega⟩
    · rintro ⟨⟨hne, hall, rfl⟩, -, hhigh⟩
      exact ⟨hne, hall, by omega, rfl⟩

end GpuPlacement.Text
