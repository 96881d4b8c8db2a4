import GpuPlacement.Proofs.Numa.Runs
import GpuPlacement.Proofs.Numa.Written

/-!
# Sets of nodes as texts

A set of nodes is written as its runs (Proofs/Numa/Runs.lean), each as one number or as two with a
hyphen between them. A hyphen also stands before a negative number, but no run is ever in doubt: a
number ends where its digits end. So a text belongs to one set only (`format_canonical`).

Negative numbers, and those of more than 16 bits, have no notation (Proofs/Numa/Notation.lean). All
other sets are read back from their texts (`format_parsesBack`).
-/

set_option autoImplicit false

namespace GpuPlacement.Numa.NodeList

/-! ## Runs as texts -/

theorem toList_formatRun (run : Int × Int) :
    (formatRun run).toList = (toString run.1).toList
      ++ if run.1 = run.2 then [] else '-' :: (toString run.2).toList := by
  rw [formatRun]
  split
  · rw [List.append_nil]
  · show (toString run.1 ++ "-" ++ toString run.2).toList = _
    simp

/-- A number can be told from what stands behind it, if that is nothing or begins with a hyphen. -/
theorem toString_append_inj {m n : Int} {xs ys : List Char} (hx : ∀ c ∈ xs.head?, c = '-')
    (hy : ∀ c ∈ ys.head?, c = '-')
    (h : (toString m).toList ++ xs = (toString n).toList ++ ys) : m = n ∧ xs = ys := by
  have hdigit : ∀ zs : List Char, (∀ c ∈ zs.head?, c = '-') →
      ∀ c ∈ zs.head?, Text.isDigit c = false := by
    intro zs hz c hc
    rw [hz c hc]
    rfl
  -- A number of no sign does not begin with a hyphen.
  have hsign : ∀ (k : Nat) (zs more : List Char), Nat.toDigits 10 k ++ zs ≠ '-' :: more := by
    intro k zs more he
    cases hk : Nat.toDigits 10 k with
    | nil => exact Nat.toDigits_ne_nil hk
    | cons c cs =>
      rw [hk, List.cons_append] at he
      have hc : Text.isDigit c = true := Text.isDigit_of_mem_toDigits (n := k) (hk ▸ List.mem_cons_self)
      rw [(List.cons.inj he).1] at hc
      exact absurd hc (by decide)
  rcases Int.lt_or_le m 0 with hm | hm <;> rcases Int.lt_or_le n 0 with hn | hn
  · rw [toList_toString_of_neg hm, toList_toString_of_neg hn] at h
    obtain ⟨hmn, hxy⟩ :=
      Text.toDigits_append_inj (hdigit xs hx) (hdigit ys hy) (List.cons.inj h).2
    exact ⟨by omega, hxy⟩
  · rw [toList_toString_of_neg hm, toList_toString_of_nonneg hn] at h
    exact absurd h.symm (hsign _ _ _)
  · rw [toList_toString_of_nonneg hm, toList_toString_of_neg hn] at h
    exact absurd h (hsign _ _ _)
  · rw [toList_toString_of_nonneg hm, toList_toString_of_nonneg hn] at h
    obtain ⟨hmn, hxy⟩ := Text.toDigits_append_inj (hdigit xs hx) (hdigit ys hy) h
    exact ⟨by omega, hxy⟩

theorem formatRun_injective : Function.Injective formatRun := by
  intro r s h
  have hhyphen : ∀ t : Int × Int,
      ∀ c ∈ (if t.1 = t.2 then [] else '-' :: (toString t.2).toList).head?, c = '-' := by
    intro t c hc
    split at hc
    · exact absurd hc (by simp)
    · exact (Option.some.inj hc).symm
  have hlist := congrArg String.toList h
  rw [toList_formatRun, toList_formatRun] at hlist
  obtain ⟨hfirst, hrest⟩ := toString_append_inj (hhyphen r) (hhyphen s) hlist
  refine Prod.ext hfirst ?_
  by_cases hr : r.1 = r.2 <;> by_cases hs : s.1 = s.2
  · rw [← hr, ← hs, hfirst]
  · rw [if_pos hr, if_neg hs] at hrest
    exact absurd hrest (by simp)
  · rw [if_neg hr, if_pos hs] at hrest
    exact absurd hrest (by simp)
  · rw [if_neg hr, if_neg hs] at hrest
    exact Int.repr_inj.mp (String.toList_inj.mp (List.cons.inj hrest).2)

theorem formatRun_ne_nil (run : Int × Int) : (formatRun run).toList ≠ [] := by
  rw [toList_formatRun]
  exact List.append_ne_nil_of_left_ne_nil (toList_toString_ne_nil run.1) _

theorem comma_notMem_formatRun (run : Int × Int) : ',' ∉ (formatRun run).toList := by
  rw [toList_formatRun, List.mem_append, not_or]
  refine ⟨comma_notMem_toString run.1, ?_⟩
  split
  · exact List.not_mem_nil
  · rw [List.mem_cons, not_or]
    exact ⟨by decide, comma_notMem_toString run.2⟩

theorem toList_formatRuns (ranges : List (Int × Int)) :
    (String.intercalate "," (ranges.map formatRun)).toList
      = List.intercalate [','] (ranges.map fun run => (formatRun run).toList) := by
  rw [String.toList_intercalate, List.map_map]
  rfl

theorem formatRuns_injective {ranges more : List (Int × Int)}
    (h : String.intercalate "," (ranges.map formatRun) = String.intercalate "," (more.map formatRun)) :
    ranges = more := by
  have hpieces : ∀ rs : List (Int × Int), ∀ piece ∈ rs.map fun run => (formatRun run).toList,
      piece ≠ [] ∧ ',' ∉ piece := by
    intro rs piece hp
    obtain ⟨run, -, rfl⟩ := List.mem_map.mp hp
    exact ⟨formatRun_ne_nil run, comma_notMem_formatRun run⟩
  have hlist := congrArg String.toList h
  rw [toList_formatRuns, toList_formatRuns] at hlist
  have hsame := Text.intercalate_injective (hpieces ranges) (hpieces more) hlist
  refine List.map_injective_iff.mpr (fun r s hrs => ?_) hsame
  exact formatRun_injective (String.toList_inj.mp hrs)

/-! ## The text of a set -/

theorem format_congr {nodes more : List Int} (h : ∀ n, n ∈ nodes ↔ n ∈ more) :
    format nodes = format more := by
  rw [format, format, sortedDistinct_congr h]

theorem canonical_format (nodes : List Int) : Canonical nodes (runs (sortedDistinct nodes)) := by
  have h := canonical_runs (sortedDistinct_ascending nodes)
  exact ⟨h.nonempty, h.apart, fun n => (h.covers n).trans mem_sortedDistinct⟩

theorem format_eq_format_iff {nodes more : List Int} :
    format nodes = format more ↔ ∀ n, n ∈ nodes ↔ n ∈ more := by
  refine ⟨fun h n => ?_, format_congr⟩
  have hruns := formatRuns_injective h
  rw [← (canonical_format nodes).covers, hruns, (canonical_format more).covers]

/-- **A set of nodes has one text**, and each text belongs to one set. It is written as the fewest
ranges that make the set up, and making them takes no sum of more than 32 bits. -/
theorem format_canonical (nodes : List Int) (h : ∀ n ∈ nodes, HasWord n) :
    (∃ ranges, runs? (sortedDistinct nodes) = some ranges ∧
      format nodes = String.intercalate "," (ranges.map formatRun) ∧ Canonical nodes ranges ∧
      ∀ others, (∀ n, Covers others n ↔ n ∈ nodes) → ranges.length ≤ others.length) ∧
    ∀ more, format nodes = format more ↔ ∀ n, n ∈ nodes ↔ n ∈ more := by
  have hcanonical := canonical_format nodes
  have hruns : runs? (sortedDistinct nodes) = some (runs (sortedDistinct nodes)) :=
    runs?_eq (sortedDistinct_ascending nodes) fun n hn => h n (mem_sortedDistinct.mp hn)
  exact ⟨⟨_, hruns, rfl, hcanonical, fun _ ho => hcanonical.length_le ho⟩,
    fun _ => format_eq_format_iff⟩

/-- Numbers from both ends of the 32 bits, and negative neighbours. -/
theorem format_canonical_extremes :
    (∀ n ∈ [2147483647, -1, -2147483648, -3, 2147483646, -2, -1], HasWord n) ∧
      runs? (sortedDistinct [2147483647, -1, -2147483648, -3, 2147483646, -2, -1])
        = some [(-2147483648, -2147483648), (-3, -1), (2147483646, 2147483647)] ∧
      format [2147483647, -1, -2147483648, -3, 2147483646, -2, -1]
        = "-2147483648,-3--1,2147483646-2147483647" ∧
      format [2147483647, -1, -2147483648, -3, 2147483646, -2, -1]
        ≠ format [2147483647, -1, -2147483648, -3, 2147483646] := by
  have hwords : ∀ n ∈ [2147483647, -1, -2147483648, -3, 2147483646, -2, -1], HasWord n := by
    unfold HasWord
    decide
  have hsorted : sortedDistinct [2147483647, -1, -2147483648, -3, 2147483646, -2, -1]
      = [-2147483648, -3, -2, -1, 2147483646, 2147483647] := by
    refine sortedDistinct_eq_iff.mpr ⟨by decide, fun n => ?_⟩
    simp only [List.mem_cons, List.not_mem_nil, or_false]
    omega
  have hrun : runs? [-2147483648, -3, -2, -1, 2147483646, 2147483647]
      = some [(-2147483648, -2147483648), (-3, -1), (2147483646, 2147483647)] := by decide
  obtain ⟨⟨ranges, hruns, hformat, -, -⟩, hsame⟩ := format_canonical _ hwords
  rw [hsorted] at hruns ⊢
  obtain rfl := Option.some.inj (hrun.symm.trans hruns)
  refine ⟨hwords, hrun, hformat.trans (by decide), fun heq => ?_⟩
  exact absurd (((hsame _).mp heq (-2)).mp (by decide)) (by decide)

/-! ## Reading the text back -/

/-- A run of nodes that have 16 bits is written in the notation. -/
theorem part_formatRun {run : Int × Int} (hle : run.1 ≤ run.2) (h1 : Readable run.1)
    (h2 : Readable run.2) : Part (formatRun run).toList run := by
  obtain ⟨first, last⟩ := run
  rw [toList_formatRun]
  by_cases heq : first = last
  · rw [if_pos heq, List.append_nil, ← heq]
    exact part_toString h1
  · rw [if_neg heq]
    have hpart := Part.range (hyphen_notMem_toString h1.1) (writes_toString h1)
      (writes_toString h2) (Int.toNat_le_toNat hle)
    rwa [Int.toNat_of_nonneg h1.1, Int.toNat_of_nonneg h2.1] at hpart

theorem denotes_format {nodes : List Int} (hne : nodes ≠ []) (h : ∀ n ∈ nodes, Readable n) :
    Denotes (format nodes).toList (runs (sortedDistinct nodes)) := by
  have hcanonical := canonical_format nodes
  refine ⟨(runs (sortedDistinct nodes)).map fun run => (formatRun run).toList, ?_, ?_,
    (toList_formatRuns _).symm, ?_⟩
  · rw [Ne, List.map_eq_nil_iff]
    intro hnil
    rw [hnil] at hcanonical
    exact hne hcanonical.nil
  · intro part hp
    obtain ⟨run, -, rfl⟩ := List.mem_map.mp hp
    exact comma_notMem_formatRun run
  · refine List.forall₂_map_left_iff.mpr (List.forall₂_same.mpr fun run hr => ?_)
    exact part_formatRun (hcanonical.nonempty run hr) (h _ (hcanonical.first_mem hr))
      (h _ (hcanonical.last_mem hr))

theorem exists_parse_format {nodes : List Int} (h : ∀ n ∈ nodes, Readable n) :
    ∃ back, parse (format nodes) = .ok back ∧ back.Pairwise (· < ·) ∧ ∀ n, n ∈ back ↔ n ∈ nodes := by
  by_cases hne : nodes = []
  · have hempty : format [] = "" := by
      rw [format, sortedDistinct_of_ascending .nil]
      rfl
    rw [hne, hempty]
    exact ⟨[], parse_of_blank (by simp), .nil, fun _ => Iff.rfl⟩
  · obtain ⟨back, hback, hasc, hmem⟩ := parse_of_denotes (denotes_format hne h)
    exact ⟨back, hback, hasc, fun n => (hmem n).trans ((canonical_format nodes).covers n)⟩

theorem Part.readable {part : List Char} {range : Int × Int} (h : Part part range) {n : Int}
    (hle : range.1 ≤ n) (hge : n ≤ range.2) : Readable n := by
  cases h with
  | number hn =>
    have hmax := (writes_iff.mp hn).2
    exact ⟨by omega, by omega⟩
  | range _ _ hk _ =>
    have hmax := (writes_iff.mp hk).2
    exact ⟨by omega, by omega⟩

/-- Only nodes of 16 bits are ever read. -/
theorem readable_of_parse {text : String} {nodes : List Int} (h : parse text = .ok nodes) :
    ∀ n ∈ nodes, Readable n := by
  by_cases hb : NotBlank text.toList
  · obtain ⟨ranges, hranges⟩ := exists_denotes_of_parse hb h
    obtain ⟨nodes', hnodes', -, hmem⟩ := parse_of_denotes hranges
    obtain rfl := Except.ok.inj (h.symm.trans hnodes')
    intro n hn
    obtain ⟨range, hr, hle, hge⟩ := (hmem n).mp hn
    obtain ⟨part, -, hpart⟩ := exists_of_mem_forall₂ (denotes_iff.mp hranges) hr
    exact hpart.readable hle hge
  · have hblank : ∀ c ∈ text.toList, Text.isBlank c = true := by simpa [NotBlank] using hb
    obtain rfl := Except.ok.inj (h.symm.trans (parse_of_blank hblank))
    simp

/-- What is read is read back from its text. -/
theorem parse_format_of_parse {text : String} {nodes : List Int} (h : parse text = .ok nodes) :
    parse (format nodes) = .ok nodes := by
  obtain ⟨back, hback, hasc, hmem⟩ := exists_parse_format (readable_of_parse h)
  rw [hback, eq_of_ascending hasc (parse_ascending h) hmem]

/-- **Sets of nodes are read back from their texts.** A set that was read has a text, the same
however it was written before, and that text is read and written as itself. -/
theorem format_parsesBack :
    (∀ nodes : List Int, (∀ n ∈ nodes, Readable n) → ∃ back, parse (format nodes) = .ok back ∧
      back.Pairwise (· < ·) ∧ ∀ n, n ∈ back ↔ n ∈ nodes) ∧
    ∀ (text : String) (nodes : List Int), parse text = .ok nodes →
      parse (format nodes) = .ok nodes ∧
      ∀ (other : String) (more : List Int), parse other = .ok more →
        (format nodes = format more ↔ ∀ n, n ∈ nodes ↔ n ∈ more) :=
  ⟨fun _ h => exists_parse_format h,
    fun _ _ h => ⟨parse_format_of_parse h, fun _ _ _ => format_eq_format_iff⟩⟩

/-- The largest node ends a run, and a text with blanks, zeros and a plus sign has the same set as
one without. -/
theorem format_parsesBack_bounds :
    (∀ n ∈ [65535, 0, 65534, 0], Readable n) ∧
      (∃ back, parse (format [65535, 0, 65534, 0]) = .ok back ∧ back.Pairwise (· < ·) ∧
        ∀ n, n ∈ back ↔ n ∈ [65535, 0, 65534, 0]) ∧
      parse " 3,+1 , 1 -02" = .ok [1, 2, 3] ∧ parse (format [1, 2, 3]) = .ok [1, 2, 3] := by
  have hread : parse " 3,+1 , 1 -02" = .ok (sortedDistinct [3, 1, 1, 2]) := by
    rw [parse_of_ne_nil (by decide)]
    have hparts : readParts (Text.splitOn ',' (Text.trim " 3,+1 , 1 -02".toList))
        = .ok [3, 1, 1, 2] := by decide
    rw [hparts]
    rfl
  have hsorted : sortedDistinct [3, 1, 1, 2] = [1, 2, 3] := by
    refine sortedDistinct_eq_iff.mpr ⟨by decide, fun n => ?_⟩
    simp only [List.mem_cons, List.not_mem_nil, or_false]
    omega
  rw [hsorted] at hread
  exact ⟨by decide, format_parsesBack.1 _ (by decide), hread, (format_parsesBack.2 _ _ hread).1⟩

end GpuPlacement.Numa.NodeList
