import GpuPlacement.Proofs.Text.Blank
import GpuPlacement.Text.Split

/-!
# Splitting, said without the search

`splitFirst?` (Text/Split.lean) goes through a text; what it finds is a way to write the text with
a separator in it and none before that. `splitOn` undoes the joining of pieces that hold no
separator. The blanks at the ends of a text are those of its first and of its last piece, so a text
whose pieces are trimmed need not be trimmed before (`map_trim_splitOn_trim`).
-/

set_option autoImplicit false

namespace GpuPlacement.Text

theorem splitFirst?_eq_none_iff {sep : Char} {cs : List Char} :
    splitFirst? sep cs = none ↔ sep ∉ cs := by
  induction cs with
  | nil => simp [splitFirst?]
  | cons c cs ih =>
    by_cases h : c = sep
    · simp [splitFirst?, h]
    · simp [splitFirst?, h, ih, Ne.symm h]

theorem splitFirst?_eq_some_iff {sep : Char} {cs before after : List Char} :
    splitFirst? sep cs = some (before, after) ↔ cs = before ++ sep :: after ∧ sep ∉ before := by
  induction cs generalizing before with
  | nil => simp [splitFirst?]
  | cons c cs ih =>
    unfold splitFirst?
    by_cases h : c = sep
    · rw [if_pos h]
      cases before with
      | nil => simp [h, eq_comm]
      | cons b before =>
        constructor
        · intro he
          exact absurd he (by simp)
        · intro hx
          obtain ⟨he, hno⟩ := hx
          obtain ⟨rfl, -⟩ := List.cons.inj he
          exact absurd (h ▸ List.mem_cons_self) hno
    · rw [if_neg h, Option.map_eq_some_iff]
      constructor
      · intro hx
        obtain ⟨⟨before', after'⟩, hs, he⟩ := hx
        obtain ⟨rfl, rfl⟩ := Prod.mk.inj he
        obtain ⟨rfl, hno⟩ := ih.mp hs
        exact ⟨rfl, by simp [hno, Ne.symm h]⟩
      · intro hx
        obtain ⟨he, hno⟩ := hx
        cases before with
        | nil => exact absurd (List.cons.inj he).1 h
        | cons b before =>
          obtain ⟨rfl, rfl⟩ := List.cons.inj he
          exact ⟨(before, after), ih.mpr ⟨rfl, fun hm => hno (List.mem_cons_of_mem _ hm)⟩, rfl⟩

/-! ## Pieces -/

theorem splitOn_eq (sep : Char) (cs : List Char) : splitOn sep cs = cs.splitOn sep := by
  induction cs with
  | nil => exact (List.splitOn_nil sep).symm
  | cons c cs ih =>
    rw [splitOn, List.splitOn, List.splitOnP_cons_eq_if_modifyHead]
    by_cases h : c = sep
    · rw [if_pos h, if_pos (beq_iff_eq.mpr h), ih]
      rfl
    · rw [if_neg h, if_neg (by simpa using h), ih]
      show _ = List.modifyHead (List.cons c) (cs.splitOn sep)
      cases hs : cs.splitOn sep with
      | nil => exact absurd (ih.trans hs) (splitOn_ne_nil sep cs)
      | cons piece more => rfl

/-- Pieces without a separator, joined by it and split again, are the pieces. -/
theorem splitOn_intercalate {sep : Char} {pieces : List (List Char)} (hne : pieces ≠ [])
    (hno : ∀ piece ∈ pieces, sep ∉ piece) :
    splitOn sep (List.intercalate [sep] pieces) = pieces := by
  rw [splitOn_eq]
  exact List.splitOn_intercalate sep hno hne

theorem mem_intercalate {sep c : Char} {pieces : List (List Char)}
    (h : c ∈ List.intercalate [sep] pieces) : c = sep ∨ ∃ piece ∈ pieces, c ∈ piece := by
  induction pieces with
  | nil => exact absurd h (by simp)
  | cons piece pieces ih =>
    cases pieces with
    | nil =>
      rw [List.intercalate_singleton] at h
      exact Or.inr ⟨piece, List.mem_cons_self, h⟩
    | cons next pieces =>
      rw [List.intercalate_cons_cons, List.append_assoc, List.mem_append, List.mem_append,
        List.mem_singleton] at h
      rcases h with h | h | h
      · exact Or.inr ⟨piece, List.mem_cons_self, h⟩
      · exact Or.inl h
      · rcases ih h with h | ⟨piece', hm, h⟩
        · exact Or.inl h
        · exact Or.inr ⟨piece', List.mem_cons_of_mem _ hm, h⟩

theorem splitOn_append_sep (sep : Char) (before after : List Char) :
    splitOn sep (before ++ sep :: after) = splitOn sep before ++ splitOn sep after := by
  rw [splitOn_eq, splitOn_eq, splitOn_eq]
  exact List.splitOn_append_cons_self before after

theorem splitOn_of_notMem {sep : Char} {cs : List Char} (h : sep ∉ cs) : splitOn sep cs = [cs] := by
  rw [splitOn_eq]
  exact List.splitOn_eq_singleton h

theorem intercalate_splitOn (sep : Char) (cs : List Char) :
    List.intercalate [sep] (splitOn sep cs) = cs := by
  rw [splitOn_eq]
  exact List.intercalate_splitOn sep

theorem notMem_of_mem_splitOn {sep : Char} {cs piece : List Char} (h : piece ∈ splitOn sep cs) :
    sep ∉ piece := by
  induction cs generalizing piece with
  | nil =>
    rw [List.mem_singleton.mp h]
    exact List.not_mem_nil
  | cons c cs ih =>
    rw [splitOn] at h
    by_cases hc : c = sep
    · rw [if_pos hc] at h
      rcases List.mem_cons.mp h with rfl | h
      · exact List.not_mem_nil
      · exact ih h
    · rw [if_neg hc] at h
      cases hs : splitOn sep cs with
      | nil => exact absurd hs (splitOn_ne_nil sep cs)
      | cons first more =>
        rw [hs] at h ih
        rcases List.mem_cons.mp h with rfl | h
        · rw [List.mem_cons, not_or]
          exact ⟨Ne.symm hc, ih List.mem_cons_self⟩
        · exact ih (List.mem_cons_of_mem _ h)

/-- Pieces that are not empty and hold no separator can be told from what they are joined to. -/
theorem intercalate_injective {sep : Char} {pieces more : List (List Char)}
    (hp : ∀ piece ∈ pieces, piece ≠ [] ∧ sep ∉ piece) (hm : ∀ piece ∈ more, piece ≠ [] ∧ sep ∉ piece)
    (h : List.intercalate [sep] pieces = List.intercalate [sep] more) : pieces = more := by
  -- No pieces, and one empty piece, are both joined to nothing.
  have hnil : ∀ ps : List (List Char), (∀ p ∈ ps, p ≠ [] ∧ sep ∉ p) →
      List.intercalate [sep] ps = [] → ps = [] := by
    intro ps hps he
    cases ps with
    | nil => rfl
    | cons p ps =>
      have hsplit := splitOn_intercalate (List.cons_ne_nil p ps) fun q hq => (hps q hq).2
      rw [he, splitOn] at hsplit
      exact absurd (List.cons.inj hsplit).1.symm (hps p List.mem_cons_self).1
  by_cases h1 : pieces = []
  · rw [h1] at h
    rw [h1, hnil more hm h.symm]
  · by_cases h2 : more = []
    · rw [h2] at h
      rw [h2, hnil pieces hp h]
    · rw [← splitOn_intercalate h1 fun p hq => (hp p hq).2, h,
        splitOn_intercalate h2 fun p hq => (hm p hq).2]

/-! ## Trimmed pieces -/

/-- What stands behind the last separator goes to the last piece. -/
theorem exists_splitOn_append {sep : Char} {after : List Char} (h : sep ∉ after) (cs : List Char) :
    ∃ pieces last, splitOn sep cs = pieces ++ [last] ∧
      splitOn sep (cs ++ after) = pieces ++ [last ++ after] := by
  induction cs with
  | nil => exact ⟨[], [], rfl, splitOn_of_notMem h⟩
  | cons c cs ih =>
    obtain ⟨pieces, last, hcs, hall⟩ := ih
    rw [List.cons_append, splitOn, splitOn, hcs, hall]
    by_cases hc : c = sep
    · rw [if_pos hc, if_pos hc]
      exact ⟨[] :: pieces, last, rfl, rfl⟩
    · rw [if_neg hc, if_neg hc]
      cases pieces with
      | nil => exact ⟨[], c :: last, rfl, rfl⟩
      | cons piece pieces => exact ⟨(c :: piece) :: pieces, last, rfl, rfl⟩

theorem map_trim_splitOn_append {sep : Char} {after : List Char}
    (hsep : isBlank sep = false) (h : ∀ c ∈ after, isBlank c = true) (cs : List Char) :
    (splitOn sep (cs ++ after)).map trim = (splitOn sep cs).map trim := by
  have hno : sep ∉ after := fun hm => Bool.false_ne_true (hsep.symm.trans (h sep hm))
  obtain ⟨pieces, last, hcs, hall⟩ := exists_splitOn_append hno cs
  have hlast : trim (last ++ after) = trim last :=
    Padded.trim_eq ⟨[], after, by rw [List.nil_append], by simp, h⟩
  rw [hcs, hall, List.map_append, List.map_append, List.map_singleton, List.map_singleton, hlast]

theorem map_trim_splitOn_cons {sep c : Char} (hsep : isBlank sep = false) (hc : isBlank c = true)
    (cs : List Char) : (splitOn sep (c :: cs)).map trim = (splitOn sep cs).map trim := by
  have hne : c ≠ sep := by
    rintro rfl
    exact Bool.false_ne_true (hsep.symm.trans hc)
  rw [splitOn, if_neg hne]
  cases hs : splitOn sep cs with
  | nil => exact absurd hs (splitOn_ne_nil sep cs)
  | cons piece more =>
    have hpiece : trim (c :: piece) = trim piece :=
      Padded.trim_eq ⟨[c], [], by simp, by simpa using hc, by simp⟩
    show trim (c :: piece) :: more.map trim = trim piece :: more.map trim
    rw [hpiece]

/-- **Trimmed pieces are those of the trimmed text.** -/
theorem map_trim_splitOn_trim {sep : Char} (hsep : isBlank sep = false) (cs : List Char) :
    (splitOn sep (trim cs)).map trim = (splitOn sep cs).map trim := by
  obtain ⟨before, after, he, hb, ha⟩ := padded_trim cs
  have hfront : ∀ xs : List Char, (∀ c ∈ xs, isBlank c = true) →
      (splitOn sep (xs ++ trim cs)).map trim = (splitOn sep (trim cs)).map trim := by
    intro xs hxs
    induction xs with
    | nil => rfl
    | cons c xs ih =>
      obtain ⟨hc, hxs⟩ := List.forall_mem_cons.mp hxs
      rw [List.cons_append, map_trim_splitOn_cons hsep hc, ih hxs]
  calc (splitOn sep (trim cs)).map trim
      = (splitOn sep (before ++ trim cs)).map trim := (hfront before hb).symm
    _ = (splitOn sep (before ++ trim cs ++ after)).map trim :=
        (map_trim_splitOn_append hsep ha _).symm
    _ = (splitOn sep cs).map trim := by rw [← he]

end GpuPlacement.Text
