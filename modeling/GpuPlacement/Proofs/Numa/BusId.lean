import Mathlib.Algebra.Group.Nat.Defs
import Mathlib.Data.List.Forall2
import GpuPlacement.Numa.BusId
import GpuPlacement.Proofs.Text.Split

/-!
# Spellings of a PCI address

NVML writes the domain of a PCI address with eight hexadecimal digits and sysfs with four, if they
are enough. Letters may be of either case and there may be blanks around it all. `Spells` says this
of an address and a string, and `normalize` (Numa/BusId.lean) takes all spellings of an address, and
no others, to one string (`normalize_exact`): the form that sysfs uses, if there is one.
-/

set_option autoImplicit false

namespace GpuPlacement.Numa.BusId

/-! ## The cut -/

/-- The zeros always end between two characters, so they can be cut off as bytes. -/
theorem normalizeSliced?_eq (id : String) : normalizeSliced? id = some (normalize id) := by
  rw [normalizeSliced?, normalize]
  cases Text.splitFirst? ':' ((Text.trim id.toList).map Char.toLower) with
  | none => rfl
  | some parts =>
    obtain ⟨domain, rest⟩ := parts
    cases hlow : Text.dropStart? highZeros domain with
    | none => simp [hlow]
    | some low =>
      by_cases hsize : (String.ofList domain).utf8ByteSize = 8
      · have hslice : Text.sliceFrom? (String.ofList domain) 4 = some (String.ofList low) := by
          rw [Text.dropStart?_eq_some_iff.mp hlow, String.ofList_append]
          exact Text.sliceFrom?_append (String.ofList highZeros) (String.ofList low)
        simp [hlow, hsize, hslice, ← String.toList_inj]
      · simp [hlow, hsize]

/-! ## Hexadecimal digits -/

/-- The last digits of a number, as many as there is room for. -/
def hexDigits : Nat → Nat → List Char
  | 0, _ => []
  | width + 1, n => hexDigits width (n / 16) ++ [Nat.digitChar (n % 16)]

@[simp] theorem length_hexDigits (width n : Nat) : (hexDigits width n).length = width := by
  induction width generalizing n with
  | zero => rfl
  | succ width ih => simp [hexDigits, ih]

theorem mem_hexDigits {width n : Nat} {c : Char} (h : c ∈ hexDigits width n) :
    ∃ digit < 16, c = Nat.digitChar digit := by
  induction width generalizing n with
  | zero => exact absurd h List.not_mem_nil
  | succ width ih =>
    rcases List.mem_append.mp h with h | h
    · exact ih h
    · exact ⟨n % 16, Nat.mod_lt _ (by decide), List.mem_singleton.mp h⟩

theorem digitChar_inj : ∀ d < 16, ∀ d' < 16, Nat.digitChar d = Nat.digitChar d' → d = d' := by
  decide

/-- A number for whose digits there is room can be told by them. -/
theorem hexDigits_inj {width n m : Nat} (hn : n < 16 ^ width) (hm : m < 16 ^ width)
    (h : hexDigits width n = hexDigits width m) : n = m := by
  induction width generalizing n m with
  | zero => omega
  | succ width ih =>
    obtain ⟨hhigh, hlast⟩ := List.append_inj' h rfl
    have hdiv : n / 16 = m / 16 := by
      rw [Nat.pow_succ] at hn hm
      exact ih (by omega) (by omega) hhigh
    have hmod : n % 16 = m % 16 :=
      digitChar_inj _ (Nat.mod_lt _ (by decide)) _ (Nat.mod_lt _ (by decide)) (List.cons.inj hlast).1
    omega

/-- The first digits are those of what is left when the last ones are taken away. -/
theorem hexDigits_add (high low n : Nat) :
    hexDigits (high + low) n = hexDigits high (n / 16 ^ low) ++ hexDigits low n := by
  induction low generalizing n with
  | zero => simp [hexDigits]
  | succ low ih =>
    rw [← Nat.add_assoc, hexDigits, hexDigits, ih, Nat.div_div_eq_div_mul, ← Nat.pow_succ',
      List.append_assoc]

/-! ## Addresses and their spellings -/

/-- The address of a PCI device, each part of it within the digits that it is written with. -/
structure PciAddress where
  domain : Nat
  bus : Nat
  device : Nat
  function : Nat
  domain_lt : domain < 2 ^ 32
  bus_lt : bus < 2 ^ 8
  device_lt : device < 2 ^ 8
  function_lt : function < 2 ^ 4

/-- What follows the domain. -/
def PciAddress.place (a : PciAddress) : List Char :=
  hexDigits 2 a.bus ++ ':' :: (hexDigits 2 a.device ++ '.' :: hexDigits 1 a.function)

/-- An address in lower case, with so many digits for the domain. -/
def PciAddress.written (width : Nat) (a : PciAddress) : List Char :=
  hexDigits width a.domain ++ ':' :: a.place

/-- A character and its lower case. -/
def EitherCase (lower c : Char) : Prop := c = lower ∨ c = lower.toUpper

instance : DecidableRel EitherCase := fun _ _ => inferInstanceAs (Decidable (_ ∨ _))

/-- A string that holds a text in any case, perhaps with blanks around it. -/
def Shows (text : List Char) (s : String) : Prop :=
  ∃ core, List.Forall₂ EitherCase text core ∧ Text.Padded core s.toList

/-- The ways to write an address. Four digits are enough for the smaller domains. -/
inductive Spells (a : PciAddress) (s : String) : Prop
  | long : Shows (a.written 8) s → Spells a s
  | short : a.domain < 2 ^ 16 → Shows (a.written 4) s → Spells a s

/-- How an address is written with no more digits than it needs. -/
def PciAddress.canonical (a : PciAddress) : List Char :=
  if a.domain < 2 ^ 16 then a.written 4 else a.written 8

/-- The lower-case characters of a spelling. -/
def addressChars : List Char := ".:0123456789abcdef".toList

theorem digitChar_mem_addressChars : ∀ d < 16, Nat.digitChar d ∈ addressChars := by
  decide

theorem mem_addressChars_of_mem_hexDigits {width n : Nat} {c : Char} (h : c ∈ hexDigits width n) :
    c ∈ addressChars := by
  obtain ⟨d, hd, rfl⟩ := mem_hexDigits h
  exact digitChar_mem_addressChars d hd

theorem PciAddress.subset_addressChars (a : PciAddress) (width : Nat) :
    ∀ c ∈ a.written width, c ∈ addressChars := by
  intro c h
  simp only [written, place, List.mem_append, List.mem_cons] at h
  rcases h with h | rfl | h | rfl | h | rfl | h
  · exact mem_addressChars_of_mem_hexDigits h
  · decide
  · exact mem_addressChars_of_mem_hexDigits h
  · decide
  · exact mem_addressChars_of_mem_hexDigits h
  · decide
  · exact mem_addressChars_of_mem_hexDigits h

theorem EitherCase.toLower_eq {lower c : Char} (hmem : lower ∈ addressChars)
    (h : EitherCase lower c) : c.toLower = lower := by
  have hall : addressChars.all fun l => l.toLower = l ∧ l.toUpper.toLower = l := by decide
  obtain ⟨hself, hupper⟩ := of_decide_eq_true (List.all_eq_true.mp hall lower hmem)
  rcases h with rfl | rfl
  · exact hself
  · exact hupper

theorem EitherCase.isBlank_eq_false {lower c : Char} (hmem : lower ∈ addressChars)
    (h : EitherCase lower c) : Text.isBlank c = false := by
  have hall : addressChars.all fun l => Text.isBlank l = false ∧ Text.isBlank l.toUpper = false := by
    decide
  obtain ⟨hself, hupper⟩ := of_decide_eq_true (List.all_eq_true.mp hall lower hmem)
  rcases h with rfl | rfl
  · exact hself
  · exact hupper

/-- Whatever shows an address in some case and with some padding, trimming it and putting it into
lower case leaves the address. -/
theorem Shows.map_toLower_trim {text : List Char} {s : String}
    (hchars : ∀ c ∈ text, c ∈ addressChars) (h : Shows text s) :
    (Text.trim s.toList).map Char.toLower = text := by
  obtain ⟨core, hcase, hpad⟩ := h
  have hblank : ∀ c ∈ core, Text.isBlank c = false := by
    intro c hc
    obtain ⟨i, hi, rfl⟩ := List.getElem_of_mem hc
    have hi' : i < text.length := hcase.length_eq ▸ hi
    exact (hcase.get hi' hi).isBlank_eq_false (hchars _ (List.getElem_mem hi'))
  rw [hpad.trim_eq, Text.trim_eq_self hblank]
  clear hpad hblank
  induction hcase with
  | nil => rfl
  | cons hc _ ih =>
    obtain ⟨hfirst, hrest⟩ := List.forall_mem_cons.mp hchars
    rw [List.map_cons, hc.toLower_eq hfirst, ih hrest]

/-! ## What becomes of a spelling -/

theorem utf8ByteSize_hexDigits (width n : Nat) :
    (String.ofList (hexDigits width n)).utf8ByteSize = width := by
  have hsize : ∀ d < 16, (Nat.digitChar d).utf8Size = 1 := by decide
  induction width generalizing n with
  | zero => rfl
  | succ width ih =>
    rw [hexDigits, String.ofList_append, String.utf8ByteSize_append, ih, ← String.singleton_eq_ofList,
      String.utf8ByteSize_singleton, hsize _ (Nat.mod_lt _ (by decide))]

/-- A domain ends at the first colon. -/
theorem splitFirst?_written (a : PciAddress) (width : Nat) :
    Text.splitFirst? ':' (a.written width) = some (hexDigits width a.domain, a.place) := by
  have hcolon : ∀ d < 16, ':' ≠ Nat.digitChar d := by decide
  refine Text.splitFirst?_eq_some_iff.mpr ⟨rfl, fun h => ?_⟩
  obtain ⟨d, hd, he⟩ := mem_hexDigits h
  exact hcolon d hd he

/-- The domains of eight digits that start with four zeros are those that four digits are enough
for. -/
theorem dropStart?_hexDigits {domain : Nat} (hlt : domain < 2 ^ 32) :
    Text.dropStart? highZeros (hexDigits 8 domain)
      = if domain < 2 ^ 16 then some (hexDigits 4 domain) else none := by
  have hhalves : hexDigits 8 domain = hexDigits 4 (domain / 2 ^ 16) ++ hexDigits 4 domain :=
    hexDigits_add 4 4 domain
  by_cases hshort : domain < 2 ^ 16
  · rw [if_pos hshort, Text.dropStart?_eq_some_iff, hhalves, Nat.div_eq_of_lt hshort]
    rfl
  · rw [if_neg hshort, Option.eq_none_iff_forall_ne_some]
    intro low hlow
    have hzeros : hexDigits 4 (domain / 2 ^ 16) = hexDigits 4 0 :=
      (List.append_inj (hhalves.symm.trans (Text.dropStart?_eq_some_iff.mp hlow)) (by simp; rfl)).1
    have hzero := hexDigits_inj (by omega) (by omega) hzeros
    omega

/-- Every spelling of an address becomes its shortest one in lower case. -/
theorem normalize_of_spells {a : PciAddress} {s : String} (h : Spells a s) :
    normalize s = String.ofList a.canonical := by
  rw [normalize]
  cases h with
  | long hshows =>
    rw [hshows.map_toLower_trim (a.subset_addressChars 8), splitFirst?_written, PciAddress.canonical]
    simp only [dropStart?_hexDigits a.domain_lt, utf8ByteSize_hexDigits, if_true]
    by_cases hshort : a.domain < 2 ^ 16
    · simp only [if_pos hshort]
      rfl
    · simp only [if_neg hshort]
  | short hshort hshows =>
    rw [hshows.map_toLower_trim (a.subset_addressChars 4), splitFirst?_written,
      PciAddress.canonical, if_pos hshort]
    simp only [utf8ByteSize_hexDigits]
    cases Text.dropStart? highZeros (hexDigits 4 a.domain) <;> rfl

/-- The shortest spelling is one. -/
theorem PciAddress.spells_canonical (a : PciAddress) : Spells a (String.ofList a.canonical) := by
  have hshows : ∀ text : List Char, Shows text (String.ofList text) := fun text =>
    ⟨text, List.forall₂_same.mpr fun _ _ => Or.inl rfl, [], [], by simp, by simp, by simp⟩
  rw [canonical]
  split
  · rename_i hshort
    exact .short hshort (hshows _)
  · exact .long (hshows _)

theorem PciAddress.eq_of_written_eq {a b : PciAddress} {width : Nat} (ha : a.domain < 16 ^ width)
    (hb : b.domain < 16 ^ width) (h : a.written width = b.written width) : a = b := by
  obtain ⟨hdomain, hplace⟩ := List.append_inj h (by simp)
  obtain ⟨hbus, hplace⟩ := List.append_inj (List.cons.inj hplace).2 (by simp)
  obtain ⟨hdevice, hfunction⟩ := List.append_inj (List.cons.inj hplace).2 (by simp)
  obtain ⟨-, hfunction⟩ := List.cons.inj hfunction
  have := hexDigits_inj ha hb hdomain
  have := hexDigits_inj a.bus_lt b.bus_lt hbus
  have := hexDigits_inj a.device_lt b.device_lt hdevice
  have := hexDigits_inj a.function_lt b.function_lt hfunction
  cases a
  cases b
  simp_all

/-- Addresses are told apart by their shortest spellings. -/
theorem PciAddress.canonical_inj {a b : PciAddress} (h : a.canonical = b.canonical) : a = b := by
  have hlength : ∀ (c : PciAddress) (width : Nat), (c.written width).length = width + 8 := by
    intro c width
    simp [written, place]
  rw [canonical, canonical] at h
  by_cases ha : a.domain < 2 ^ 16 <;> by_cases hb : b.domain < 2 ^ 16
  · rw [if_pos ha, if_pos hb] at h
    exact eq_of_written_eq ha hb h
  · rw [if_pos ha, if_neg hb] at h
    exact absurd (congrArg List.length h) (by rw [hlength, hlength]; decide)
  · rw [if_neg ha, if_pos hb] at h
    exact absurd (congrArg List.length h) (by rw [hlength, hlength]; decide)
  · rw [if_neg ha, if_neg hb] at h
    exact eq_of_written_eq a.domain_lt b.domain_lt h

/-- **Bus IDs.** Two spellings become the same string if and only if they spell the same address.
With a domain that four digits are enough for it is the lower-case spelling with four; in any case
it stays as it is. And no string at all, a spelling or not, is cut inside of a character. -/
theorem normalize_exact :
    (∀ s t, (∃ a, Spells a s) → (∃ b, Spells b t) →
      (normalize s = normalize t ↔ ∃ a, Spells a s ∧ Spells a t)) ∧
    (∀ a s, Spells a s → a.domain < 2 ^ 16 → normalize s = String.ofList (a.written 4)) ∧
    (∀ a s, Spells a s → normalize (normalize s) = normalize s) ∧
    ∀ id, normalizeSliced? id = some (normalize id) := by
  refine ⟨fun s t hs ht => ⟨fun heq => ?_, fun hsame => ?_⟩, fun a s h hshort => ?_,
    fun a s h => ?_, normalizeSliced?_eq⟩
  · obtain ⟨a, ha⟩ := hs
    obtain ⟨b, hb⟩ := ht
    rw [normalize_of_spells ha, normalize_of_spells hb, String.ofList_inj] at heq
    obtain rfl := PciAddress.canonical_inj heq
    exact ⟨a, ha, hb⟩
  · obtain ⟨a, hs, ht⟩ := hsame
    rw [normalize_of_spells hs, normalize_of_spells ht]
  · rw [normalize_of_spells h, PciAddress.canonical, if_pos hshort]
  · rw [normalize_of_spells h, normalize_of_spells a.spells_canonical]

example : normalize "00010000:C1:00.0" = "00010000:c1:00.0" := by decide

-- What is no spelling of an address may change once more: here a blank is left in front.
example : normalize "0000 abc:1" = " abc:1" := by decide

/-- The address `0000:c1:00.0`. -/
def firstOfC1 : PciAddress where
  domain := 0
  bus := 0xC1
  device := 0
  function := 0
  domain_lt := by decide
  bus_lt := by decide
  device_lt := by decide
  function_lt := by decide

/-- It is spelled by NVML in upper case and with eight digits, and by sysfs with four. -/
theorem normalize_exact_nvml : Spells firstOfC1 " 00000000:C1:00.0\n" ∧
    Spells firstOfC1 "0000:c1:00.0" ∧
    normalize " 00000000:C1:00.0\n" = normalize "0000:c1:00.0" ∧
    normalize "0000:c1:00.0" = "0000:c1:00.0" := by
  have hlong : Spells firstOfC1 " 00000000:C1:00.0\n" :=
    .long ⟨"00000000:C1:00.0".toList, by decide, [' '], ['\n'], by decide +kernel,
      by simp [Text.isBlank], by simp [Text.isBlank]⟩
  have hshort : Spells firstOfC1 "0000:c1:00.0" :=
    .short (by decide) ⟨"0000:c1:00.0".toList, by decide, [], [], by decide +kernel, by simp, by simp⟩
  obtain ⟨hiff, hsmall, -, -⟩ := normalize_exact
  exact ⟨hlong, hshort, (hiff _ _ ⟨_, hlong⟩ ⟨_, hshort⟩).mpr ⟨_, hlong, hshort⟩,
    hsmall firstOfC1 _ hshort (by decide)⟩

end GpuPlacement.Numa.BusId
