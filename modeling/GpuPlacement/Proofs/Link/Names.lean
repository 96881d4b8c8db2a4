import GpuPlacement.Proofs.Topology.RoundTrip

/-!
# What a name says about a link

`Link.ofName` (Link.lean) reads the names of links. Six of them are fixed; the others are
`nvlink-` and a numeral, of which a number has many: `nvlink-4`, `nvlink-+4` and `nvlink-004` are
one link. `Reads` says what each text is read as, by the text alone, and `ofName_eq_iff` that it is
read so: the two ways to fail are told apart by nothing but the size of the number.
-/

set_option autoImplicit false

namespace GpuPlacement
namespace Link

/-- The fixed names, those of the PCIe relations. -/
inductive FixedName : String → Link → Prop where
  | crossCpu : FixedName "cross-cpu" .crossCpu
  | sameCpu : FixedName "same-cpu" .sameCpu
  | hostBridge : FixedName "host-bridge" .hostBridge
  | multiSwitch : FixedName "multi-switch" .multiSwitch
  | singleSwitch : FixedName "single-switch" .singleSwitch
  | sameBoard : FixedName "same-board" .sameBoard

/-- `nvlink-` and a numeral: one or more digits, perhaps behind a plus sign, that write `count`. -/
def CountName (s : String) (count : Nat) : Prop :=
  ∃ numeral, s.toList = "nvlink-".toList ++ numeral ∧ Text.Numeral numeral count

/-- What a text is read as. -/
inductive Reads (s : String) : Except LinkError Link → Prop where
  | fixed {link : Link} : FixedName s link → Reads s (.ok link)
  | nvlink {count : Nat} : CountName s count → 1 ≤ count → count ≤ 12 →
      Reads s (.ok (.nvlink count))
  | outOfRange {count : Nat} : CountName s count → count = 0 ∨ (13 ≤ count ∧ count ≤ 255) →
      Reads s (.error (.countOutOfRange count))
  | unknown : (∀ link, ¬ FixedName s link) → (∀ count, CountName s count → 255 < count) →
      Reads s (.error (.unknown s))

variable {s : String} {link : Link} {count : Nat}

/-! ## Names of NVLinks -/

theorem nvlinkCountOf?_eq_some_iff :
    nvlinkCountOf? s = some count ↔ CountName s count ∧ count ≤ Text.maxU8 := by
  have hread : ∀ digits : List Char, (Text.readNat Text.maxU8 digits).toOption = some count ↔
      Text.Numeral digits count ∧ count ≤ Text.maxU8 := by
    intro digits
    rw [← Text.readNat_eq_ok_iff]
    cases Text.readNat Text.maxU8 digits <;> simp [Except.toOption]
  rw [nvlinkCountOf?, Option.bind_eq_some_iff]
  constructor
  · intro h
    obtain ⟨numeral, hstart, hcount⟩ := h
    obtain ⟨hnumeral, hle⟩ := (hread numeral).mp hcount
    exact ⟨⟨numeral, Text.dropStart?_eq_some_iff.mp hstart, hnumeral⟩, hle⟩
  · intro h
    obtain ⟨⟨numeral, hs, hnumeral⟩, hle⟩ := h
    exact ⟨numeral, Text.dropStart?_eq_some_iff.mpr hs, (hread numeral).mpr ⟨hnumeral, hle⟩⟩

/-- A text writes one number at most. -/
theorem CountName.unique {count' : Nat} (h : CountName s count) (h' : CountName s count') :
    count = count' := by
  obtain ⟨numeral, hs, hn⟩ := h
  obtain ⟨numeral', hs', hn'⟩ := h'
  obtain rfl := List.append_cancel_left (hs.symm.trans hs')
  -- With a limit beyond both, the numeral is read as the one and as the other.
  have hread := Text.readNat_eq_ok_iff.mpr ⟨hn, Nat.le_max_left count count'⟩
  rw [Text.readNat_eq_ok_iff.mpr ⟨hn', Nat.le_max_right count count'⟩] at hread
  exact (Except.ok.inj hread).symm

theorem CountName.head? (h : CountName s count) : s.toList.head? = some 'n' := by
  obtain ⟨numeral, hs, -⟩ := h
  rw [hs]
  rfl

theorem FixedName.head?_ne (h : FixedName s link) : s.toList.head? ≠ some 'n' := by
  cases h <;> decide

/-! ## Reading -/

theorem ofName_of_fixedName (h : FixedName s link) : ofName s = .ok link := by
  cases h <;> rfl

theorem ofName_of_no_fixedName (h : ∀ link, ¬ FixedName s link) :
    ofName s = match nvlinkCountOf? s with
      | none => .error (.unknown s)
      | some count =>
        match nvlink? count with
        | some link => .ok link
        | none => .error (.countOutOfRange count) := by
  unfold ofName
  split
  case h_1 => exact absurd .crossCpu (h _)
  case h_2 => exact absurd .sameCpu (h _)
  case h_3 => exact absurd .hostBridge (h _)
  case h_4 => exact absurd .multiSwitch (h _)
  case h_5 => exact absurd .singleSwitch (h _)
  case h_6 => exact absurd .sameBoard (h _)
  case h_7 => rfl

/-- An NVLink name is read as far as its number is in range. -/
theorem CountName.ofName_eq (h : CountName s count) (hle : count ≤ 255) :
    ofName s = if 1 ≤ count ∧ count ≤ maxNvlinks then .ok (.nvlink count)
      else .error (.countOutOfRange count) := by
  rw [ofName_of_no_fixedName fun link hf => hf.head?_ne h.head?,
    nvlinkCountOf?_eq_some_iff.mpr ⟨h, hle⟩]
  simp only [nvlink?_eq]
  by_cases hrange : 1 ≤ count ∧ count ≤ maxNvlinks
  · rw [if_pos hrange, if_pos hrange]
  · rw [if_neg hrange, if_neg hrange]

theorem ofName_eq_unknown (hfixed : ∀ link, ¬ FixedName s link)
    (hcount : ∀ count, CountName s count → 255 < count) : ofName s = .error (.unknown s) := by
  have hnone : nvlinkCountOf? s = none := by
    rw [Option.eq_none_iff_forall_ne_some]
    intro count hsome
    obtain ⟨h, hle⟩ := nvlinkCountOf?_eq_some_iff.mp hsome
    exact Nat.not_lt.mpr hle (hcount count h)
  rw [ofName_of_no_fixedName hfixed, hnone]

theorem Reads.ofName_eq {r : Except LinkError Link} (h : Reads s r) : ofName s = r := by
  cases h with
  | fixed h => exact ofName_of_fixedName h
  | nvlink h h1 h12 => rw [h.ofName_eq (by omega), if_pos ⟨h1, h12⟩]
  | @outOfRange count h hout =>
    have hrange : ¬ (1 ≤ count ∧ count ≤ maxNvlinks) := by
      rw [maxNvlinks]
      omega
    rw [h.ofName_eq (by omega), if_neg hrange]
  | unknown hfixed hcount => exact ofName_eq_unknown hfixed hcount

/-- There is nothing that a text can not be read as. -/
theorem exists_reads (s : String) : ∃ r, Reads s r := by
  by_cases hfixed : ∃ link, FixedName s link
  · obtain ⟨link, h⟩ := hfixed
    exact ⟨_, .fixed h⟩
  by_cases hcount : ∃ count, CountName s count ∧ count ≤ 255
  · obtain ⟨count, h, hle⟩ := hcount
    by_cases hrange : 1 ≤ count ∧ count ≤ 12
    · exact ⟨_, .nvlink h hrange.1 hrange.2⟩
    · exact ⟨_, .outOfRange h (by omega)⟩
  · exact ⟨_, .unknown (not_exists.mp hfixed) fun count h =>
      Nat.lt_of_not_le fun hle => hcount ⟨count, h, hle⟩⟩

/-- **A text is read as its grammar says.** -/
theorem ofName_eq_iff {r : Except LinkError Link} : ofName s = r ↔ Reads s r := by
  constructor
  · rintro rfl
    obtain ⟨r, h⟩ := exists_reads s
    rwa [h.ofName_eq]
  · exact Reads.ofName_eq

/-! ## Names that were written -/

/-- A link in range is read back by its name. -/
theorem InRange.ofName_name (h : link.InRange) : ofName link.name = .ok link := by
  cases link with
  | nvlink count => exact (ofName_name_nvlink (h.count_le rfl)).trans (if_pos h)
  | _ => rfl

/-- The cap on the points of NVLinks is none to a link in range. -/
theorem points_nvlink (h : count ≤ maxNvlinks) : (nvlink count).points = 100 * count := by
  rw [points, Nat.min_eq_left h]

/-- What a name with a number has been read as. -/
theorem CountName.eq_nvlink (h : CountName s count) (hs : ofName s = .ok link) :
    link = .nvlink count := by
  cases ofName_eq_iff.mp hs with
  | fixed hfixed => exact absurd h.head? hfixed.head?_ne
  | nvlink h' => rw [h.unique h']

/-- **The grammar of links**, and that writing undoes reading. A text is a link if it is a fixed
name or `nvlink-` before a numeral of 1 to 12; any other number below 256 is out of range, and any
other text is unknown. What has been read is read back by its name, and a bundle of NVLinks is worth
100 points for each. -/
theorem ofName_exact (s : String) :
    (∀ link, ofName s = .ok link ↔ FixedName s link ∨
      ∃ count, CountName s count ∧ 1 ≤ count ∧ count ≤ 12 ∧ link = .nvlink count) ∧
    (∀ count, ofName s = .error (.countOutOfRange count) ↔
      CountName s count ∧ (count = 0 ∨ (13 ≤ count ∧ count ≤ 255))) ∧
    (ofName s = .error (.unknown s) ↔
      (∀ link, ¬ FixedName s link) ∧ ∀ count, CountName s count → 255 < count) ∧
    ∀ link, ofName s = .ok link → ofName link.name = .ok link ∧
      ∀ count, CountName s count → link = .nvlink count ∧ link.points = 100 * count := by
  refine ⟨fun link => ?_, fun count => ?_, ?_, fun link h => ⟨?_, fun count hcount => ?_⟩⟩
  · rw [ofName_eq_iff]
    constructor
    · intro h
      cases h with
      | fixed h => exact Or.inl h
      | nvlink h h1 h12 => exact Or.inr ⟨_, h, h1, h12, rfl⟩
    · rintro (h | ⟨count, h, h1, h12, rfl⟩)
      · exact .fixed h
      · exact .nvlink h h1 h12
  · rw [ofName_eq_iff]
    constructor
    · intro h
      cases h with
      | outOfRange h hout => exact ⟨h, hout⟩
    · exact fun h => .outOfRange h.1 h.2
  · rw [ofName_eq_iff]
    constructor
    · intro h
      cases h with
      | unknown hfixed hcount => exact ⟨hfixed, hcount⟩
    · exact fun h => .unknown h.1 h.2
  · exact (inRange_of_ofName h).ofName_name
  · obtain rfl := hcount.eq_nvlink h
    exact ⟨rfl, points_nvlink (inRange_of_ofName h).2⟩

example : ofName "nvlink-+0012" = .ok (.nvlink 12) := by decide

end Link
end GpuPlacement
