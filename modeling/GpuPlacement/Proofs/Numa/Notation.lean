import GpuPlacement.Proofs.Numa.NodeList
import GpuPlacement.Proofs.Result
import GpuPlacement.Proofs.Text.Numeral
import GpuPlacement.Proofs.Text.Split

/-!
# The notation of node lists

Which texts are node lists, and what they stand for, said without reading them: the text is parts
with commas between them, and each part is a number or two numbers around a hyphen, with blanks
around every number (`Denotes`). A part stands for a closed range of nodes.

`parse_exact` compares this with what is read (Numa/NodeList.lean). Reading trims three times, the
whole text, each part and each number. Only the last time matters, since the blanks that are taken
away before are next to a number in any case.
-/

set_option autoImplicit false

namespace GpuPlacement.Numa.NodeList

/-! ## The notation -/

/-- A number of 16 bits, with blanks around its numeral. -/
def Writes (piece : List Char) (n : Nat) : Prop :=
  ∃ core, Text.Padded core piece ∧ Text.Numeral core n ∧ n ≤ Text.maxU16

/-- The first and the last node that a part stands for. A range is cut at its first hyphen. -/
inductive Part : List Char → Int × Int → Prop
  | number {piece : List Char} {n : Nat} : Writes piece n → Part piece (n, n)
  | range {first last : List Char} {m n : Nat} : '-' ∉ first → Writes first m → Writes last n →
      m ≤ n → Part (first ++ '-' :: last) (m, n)

/-- A text with commas between parts that stand for these ranges. -/
def Denotes (text : List Char) (ranges : List (Int × Int)) : Prop :=
  ∃ parts, parts ≠ [] ∧ (∀ part ∈ parts, ',' ∉ part) ∧ List.intercalate [','] parts = text ∧
    List.Forall₂ Part parts ranges

/-- A text that is not blank. -/
def NotBlank (text : List Char) : Prop := ∃ c ∈ text, Text.isBlank c = false

theorem notBlank_iff {text : List Char} : NotBlank text ↔ Text.trim text ≠ [] := by
  rw [Ne, Text.trim_eq_nil_iff]
  simp [NotBlank]

/-- The parts of a text are what stands between its commas. -/
theorem denotes_iff {text : List Char} {ranges : List (Int × Int)} :
    Denotes text ranges ↔ List.Forall₂ Part (Text.splitOn ',' text) ranges := by
  constructor
  · intro h
    obtain ⟨parts, hne, hno, rfl, hparts⟩ := h
    rwa [Text.splitOn_intercalate hne hno]
  · intro h
    exact ⟨Text.splitOn ',' text, Text.splitOn_ne_nil ',' text,
      fun _ hp => Text.notMem_of_mem_splitOn hp, Text.intercalate_splitOn ',' text, h⟩

/-- Two lists with a comma between them stand for the ranges of both. -/
theorem Denotes.append {text other : List Char} {ranges more : List (Int × Int)}
    (h : Denotes text ranges) (h' : Denotes other more) :
    Denotes (text ++ ',' :: other) (ranges ++ more) := by
  rw [denotes_iff] at h h' ⊢
  rw [Text.splitOn_append_sep]
  exact List.rel_append h h'

/-! ## Numbers and parts -/

theorem writes_iff {piece : List Char} {n : Nat} :
    Writes piece n ↔ Text.Numeral (Text.trim piece) n ∧ n ≤ Text.maxU16 := by
  constructor
  · intro h
    obtain ⟨core, hpad, hnum, hle⟩ := h
    rw [hpad.trim_eq, hnum.trim_eq]
    exact ⟨hnum, hle⟩
  · exact fun h => ⟨Text.trim piece, Text.padded_trim piece, h⟩

theorem Writes.padded {piece padded : List Char} {n : Nat} (h : Writes piece n)
    (hpad : Text.Padded piece padded) : Writes padded n := by
  obtain ⟨core, hcore, hnum⟩ := h
  exact ⟨core, hcore.trans hpad, hnum⟩

theorem Writes.of_padded {piece padded : List Char} {n : Nat} (h : Writes padded n)
    (hpad : Text.Padded piece padded) : Writes piece n := by
  rw [writes_iff] at h ⊢
  rwa [← hpad.trim_eq]

theorem Writes.hyphen_notMem_trim {piece : List Char} {n : Nat} (h : Writes piece n) :
    '-' ∉ Text.trim piece := by
  intro hm
  rcases (writes_iff.mp h).1.isDigit_or_plus '-' hm with hc | hc <;> exact absurd hc (by decide)

theorem readNode_eq_ok_iff {piece : List Char} {n : Nat} :
    readNode piece = .ok n ↔ Writes piece n := by
  rw [writes_iff, ← Text.readNat_eq_ok_iff, readNode]
  cases Text.readNat Text.maxU16 (Text.trim piece) with
  | error e => exact iff_of_false (by simp [Except.mapError]) (by simp)
  | ok k => simp [Except.mapError]

theorem mem_range'_iff {m k : Nat} (hle : m ≤ k) {n : Int} :
    n ∈ (List.range' m (k - m + 1)).map Int.ofNat ↔ (m : Int) ≤ n ∧ n ≤ k := by
  rw [List.mem_map]
  constructor
  · rintro ⟨i, hi, rfl⟩
    rw [List.mem_range'_1] at hi
    show (m : Int) ≤ (i : Int) ∧ (i : Int) ≤ k
    omega
  · intro h
    refine ⟨n.toNat, List.mem_range'_1.mpr (by omega), ?_⟩
    exact Int.toNat_of_nonneg (by omega)

/-- The nodes that are read from a part are those of its range. -/
theorem readPart_complete {part : List Char} {range : Int × Int} (h : Part part range) :
    ∃ nodes, readPart part = .ok nodes ∧
      ∀ n : Int, n ∈ nodes.map Int.ofNat ↔ range.1 ≤ n ∧ n ≤ range.2 := by
  cases h with
  | @number _ k hk =>
    have hsplit : Text.splitFirst? '-' (Text.trim part) = none :=
      Text.splitFirst?_eq_none_iff.mpr hk.hyphen_notMem_trim
    have hread := readNode_eq_ok_iff.mpr (hk.of_padded (Text.padded_trim part))
    refine ⟨[k], ?_, fun n => ?_⟩
    · rw [readPart]
      simp only [hsplit, hread]
      rfl
    · have hone := mem_range'_iff (Nat.le_refl k) (n := n)
      rwa [Nat.sub_self] at hone
  | @range first last m k hno hm hk hle =>
    -- Trimming the part takes blanks from the outer sides of its two numbers.
    have hsplit : Text.splitFirst? '-' (Text.trim (first ++ '-' :: last))
        = some (first.dropWhile Text.isBlank, Text.dropEndWhile Text.isBlank last) := by
      rw [Text.trim_append_cons (by decide)]
      exact Text.splitFirst?_eq_some_iff.mpr
        ⟨rfl, fun hmem => hno ((List.dropWhile_sublist _).mem hmem)⟩
    have hfirst := readNode_eq_ok_iff.mpr (hm.of_padded (Text.padded_dropWhile first))
    have hlast := readNode_eq_ok_iff.mpr (hk.of_padded (Text.padded_dropEndWhile last))
    refine ⟨List.range' m (k - m + 1), ?_, fun n => mem_range'_iff hle⟩
    rw [readPart]
    simp only [hsplit, hfirst, hlast, bind, Except.bind]
    rw [if_neg (Nat.not_lt.mpr hle)]

/-- What is read from a part makes it one. -/
theorem exists_part_of_readPart {part : List Char} {nodes : List Nat}
    (h : readPart part = .ok nodes) : ∃ range, Part part range := by
  obtain ⟨before, after, he, hb, ha⟩ := Text.padded_trim part
  rw [readPart] at h
  cases hsplit : Text.splitFirst? '-' (Text.trim part) with
  | none =>
    simp only [hsplit] at h
    obtain ⟨n, hn, -⟩ := exists_of_map_eq_ok h
    exact ⟨_, .number ((readNode_eq_ok_iff.mp hn).padded (Text.padded_trim part))⟩
  | some pair =>
    obtain ⟨first, last⟩ := pair
    simp only [hsplit] at h
    obtain ⟨m, hm, h⟩ := exists_of_bind_eq_ok h
    obtain ⟨n, hn, h⟩ := exists_of_bind_eq_ok h
    have hle : m ≤ n := by
      by_contra hlt
      rw [if_pos (Nat.lt_of_not_le hlt)] at h
      exact absurd h (by simp)
    obtain ⟨htrim, hno⟩ := Text.splitFirst?_eq_some_iff.mp hsplit
    have hpart : part = (before ++ first) ++ '-' :: (last ++ after) := by
      rw [he, htrim]
      simp only [List.append_assoc, List.cons_append]
    have hfirst : Text.Padded first (before ++ first) := ⟨before, [], by simp, hb, by simp⟩
    have hlast : Text.Padded last (last ++ after) := ⟨[], after, by simp, by simp, ha⟩
    have hhyphen : '-' ∉ before ++ first := by
      rw [List.mem_append, not_or]
      exact ⟨fun hmem => absurd (hb '-' hmem) (by decide), hno⟩
    rw [hpart]
    exact ⟨_, .range hhyphen ((readNode_eq_ok_iff.mp hm).padded hfirst)
      ((readNode_eq_ok_iff.mp hn).padded hlast) hle⟩

/-! ## Lists of parts -/

theorem readParts_complete {parts : List (List Char)} {ranges : List (Int × Int)}
    (h : List.Forall₂ Part parts ranges) :
    ∃ nodes, readParts parts = .ok nodes ∧ ∀ n, n ∈ nodes.map Int.ofNat ↔ Covers ranges n := by
  induction h with
  | nil => exact ⟨[], rfl, fun n => iff_of_false (by simp) covers_nil⟩
  | cons hpart _ ih =>
    obtain ⟨nodes, hnodes, hmem⟩ := readPart_complete hpart
    obtain ⟨more, hmore, hmem'⟩ := ih
    refine ⟨nodes ++ more, ?_, fun n => ?_⟩
    · rw [readParts, hnodes, hmore]
      rfl
    · rw [List.map_append, List.mem_append, hmem, hmem', covers_cons]

theorem exists_parts_of_readParts {parts : List (List Char)} {nodes : List Nat}
    (h : readParts parts = .ok nodes) : ∃ ranges, List.Forall₂ Part parts ranges := by
  induction parts generalizing nodes with
  | nil => exact ⟨[], .nil⟩
  | cons part parts ih =>
    rw [readParts] at h
    obtain ⟨first, hfirst, h⟩ := exists_of_bind_eq_ok h
    obtain ⟨more, hmore, -⟩ := exists_of_bind_eq_ok h
    obtain ⟨range, hrange⟩ := exists_part_of_readPart hfirst
    obtain ⟨ranges, hranges⟩ := ih hmore
    exact ⟨range :: ranges, .cons hrange hranges⟩

/-- Reading a part begins with trimming it. -/
theorem readParts_map_trim (parts : List (List Char)) :
    readParts (parts.map Text.trim) = readParts parts := by
  induction parts with
  | nil => rfl
  | cons part parts ih =>
    have hpart : readPart (Text.trim part) = readPart part := by
      rw [readPart, Text.trim_trim, ← readPart]
    rw [List.map_cons, readParts, readParts, hpart, ih]

/-- So the whole text need not be trimmed. -/
theorem readParts_splitOn_trim (text : List Char) :
    readParts (Text.splitOn ',' (Text.trim text)) = readParts (Text.splitOn ',' text) := by
  rw [← readParts_map_trim, Text.map_trim_splitOn_trim (by decide), readParts_map_trim]

/-! ## Texts -/

theorem Denotes.notBlank {text : List Char} {ranges : List (Int × Int)} (h : Denotes text ranges) :
    NotBlank text := by
  rw [notBlank_iff]
  intro hnil
  obtain ⟨nodes, hnodes, -⟩ := readParts_complete (denotes_iff.mp h)
  have hempty : readParts (Text.splitOn ',' []) = .error (.invalidNode "" .empty) := rfl
  rw [← readParts_splitOn_trim, hnil, hempty] at hnodes
  exact absurd hnodes (by simp)

/-- A text in the notation is read, as the set of the nodes in its ranges. -/
theorem parse_of_denotes {input : String} {ranges : List (Int × Int)}
    (h : Denotes input.toList ranges) :
    ∃ nodes, parse input = .ok nodes ∧ nodes.Pairwise (· < ·) ∧ ∀ n, n ∈ nodes ↔ Covers ranges n := by
  obtain ⟨nodes, hnodes, hmem⟩ := readParts_complete (denotes_iff.mp h)
  refine ⟨sortedDistinct (nodes.map Int.ofNat), ?_, sortedDistinct_ascending _, fun n => ?_⟩
  · rw [parse_of_ne_nil (notBlank_iff.mp h.notBlank), readParts_splitOn_trim, hnodes]
  · rw [mem_sortedDistinct, hmem]

/-- A text that is read and is not blank is in the notation. -/
theorem exists_denotes_of_parse {input : String} {nodes : List Int} (hb : NotBlank input.toList)
    (h : parse input = .ok nodes) : ∃ ranges, Denotes input.toList ranges := by
  rw [parse_of_ne_nil (notBlank_iff.mp hb), readParts_splitOn_trim] at h
  cases hread : readParts (Text.splitOn ',' input.toList) with
  | error cause =>
    rw [hread] at h
    exact absurd h (by simp)
  | ok read =>
    obtain ⟨ranges, hranges⟩ := exists_parts_of_readParts hread
    exact ⟨ranges, denotes_iff.mpr hranges⟩

/-- A text that is neither blank nor in the notation is not read. -/
theorem exists_parse_error {input : String} (hb : NotBlank input.toList)
    (hno : ¬ ∃ ranges, Denotes input.toList ranges) :
    ∃ cause, parse input = .error (.invalidNodeList input cause) := by
  cases hp : parse input with
  | error e =>
    obtain ⟨cause, rfl⟩ := parse_error hp
    exact ⟨cause, rfl⟩
  | ok nodes => exact absurd (exists_denotes_of_parse hb hp) hno

theorem parse_of_blank {input : String} (h : ∀ c ∈ input.toList, Text.isBlank c = true) :
    parse input = .ok [] := by
  rw [parse, Text.trim_of_blank h]

/-- What reading a text comes to. -/
structure ExactParse (input : String) : Prop where
  /-- A blank text is the empty list. -/
  blank : (∀ c ∈ input.toList, Text.isBlank c = true) → parse input = .ok []
  /-- Any other text is read if it is in the notation, and only then. -/
  accepted : NotBlank input.toList →
    ((∃ nodes, parse input = .ok nodes) ↔ ∃ ranges, Denotes input.toList ranges)
  /-- What is read are the nodes of the ranges, in ascending order and each once. -/
  denoted : ∀ ranges, Denotes input.toList ranges → ∃ nodes, parse input = .ok nodes ∧
    nodes.Pairwise (· < ·) ∧ ∀ n, n ∈ nodes ↔ ∃ range ∈ ranges, range.1 ≤ n ∧ n ≤ range.2
  /-- A text that is neither blank nor in the notation is the subject of the error. -/
  refused : NotBlank input.toList → (¬ ∃ ranges, Denotes input.toList ranges) →
    ∃ cause, parse input = .error (.invalidNodeList input cause)
  /-- A comma between two texts unites what is read from them. -/
  joined : NotBlank input.toList → ∀ other : String, NotBlank other.toList →
    ∀ nodes more, parse input = .ok nodes → parse other = .ok more →
      ∃ all, parse (input ++ "," ++ other) = .ok all ∧ all.Pairwise (· < ·) ∧
        ∀ n, n ∈ all ↔ n ∈ nodes ∨ n ∈ more

/-- **Reading accepts exactly the notation**, and gives the set that a text denotes. -/
theorem parse_exact (input : String) : ExactParse input where
  blank := parse_of_blank
  accepted hb := by
    constructor
    · intro h
      obtain ⟨nodes, hnodes⟩ := h
      exact exists_denotes_of_parse hb hnodes
    · intro h
      obtain ⟨ranges, hranges⟩ := h
      obtain ⟨nodes, hnodes, -⟩ := parse_of_denotes hranges
      exact ⟨nodes, hnodes⟩
  denoted _ h := parse_of_denotes h
  refused := exists_parse_error
  joined hb other hb' nodes more hnodes hmore := by
    obtain ⟨ranges, hranges⟩ := exists_denotes_of_parse hb hnodes
    obtain ⟨ranges', hranges'⟩ := exists_denotes_of_parse hb' hmore
    have hboth : Denotes (input ++ "," ++ other).toList (ranges ++ ranges') := by
      have htext : (input ++ "," ++ other).toList = input.toList ++ ',' :: other.toList := by
        simp
      rw [htext]
      exact hranges.append hranges'
    obtain ⟨all, hall, hasc, hmem⟩ := parse_of_denotes hboth
    refine ⟨all, hall, hasc, fun n => ?_⟩
    obtain ⟨nodes', hnodes', -, hmem'⟩ := parse_of_denotes hranges
    obtain ⟨more', hmore', -, hmem''⟩ := parse_of_denotes hranges'
    obtain rfl := Except.ok.inj (hnodes.symm.trans hnodes')
    obtain rfl := Except.ok.inj (hmore.symm.trans hmore')
    rw [hmem, covers_append, hmem', hmem'']

/-- Ranges that overlap and do not ascend, with blanks, a plus sign and a zero in front; and a range
whose second number would have to be negative. -/
theorem parse_exact_overlapping :
    Denotes " 3-5, +1 ,4- 07".toList [(3, 5), (1, 1), (4, 7)] ∧
      parse " 3-5, +1 ,4- 07" = .ok [1, 3, 4, 5, 6, 7] ∧
      NotBlank "1--2".toList ∧ (¬ ∃ ranges, Denotes "1--2".toList ranges) ∧
      ∃ cause, parse "1--2" = .error (.invalidNodeList "1--2" cause) := by
  have hfirst : Part " 3-5".toList (3, 5) :=
    .range (show '-' ∉ [' ', '3'] by decide) (readNode_eq_ok_iff.mp rfl)
      (readNode_eq_ok_iff.mp rfl) (by decide)
  have hsecond : Part " +1 ".toList (1, 1) := .number (readNode_eq_ok_iff.mp rfl)
  have hthird : Part "4- 07".toList (4, 7) :=
    .range (show '-' ∉ ['4'] by decide) (readNode_eq_ok_iff.mp rfl)
      (readNode_eq_ok_iff.mp rfl) (by decide)
  have hdenotes : Denotes " 3-5, +1 ,4- 07".toList [(3, 5), (1, 1), (4, 7)] :=
    denotes_iff.mpr (.cons hfirst (.cons hsecond (.cons hthird .nil)))
  have hblank : NotBlank "1--2".toList := ⟨'1', by decide, by decide⟩
  have hno : ¬ ∃ ranges, Denotes "1--2".toList ranges := by
    intro h
    obtain ⟨nodes, hnodes⟩ := ((parse_exact "1--2").accepted hblank).mpr h
    have hfails : parse "1--2" = .error (.invalidNodeList "1--2" (.invalidNode "-2" .invalidDigit)) :=
      rfl
    rw [hfails] at hnodes
    exact absurd hnodes (by simp)
  obtain ⟨nodes, hnodes, hascending, hmem⟩ := (parse_exact " 3-5, +1 ,4- 07").denoted _ hdenotes
  have hsame : nodes = [1, 3, 4, 5, 6, 7] := by
    refine eq_of_ascending hascending (by decide) fun n => ?_
    rw [hmem]
    simp only [List.mem_cons, List.not_mem_nil, or_false, exists_eq_or_imp, exists_eq_left]
    omega
  exact ⟨hdenotes, hsame ▸ hnodes, hblank, hno, (parse_exact "1--2").refused hblank hno⟩

end GpuPlacement.Numa.NodeList
