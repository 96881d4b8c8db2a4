import Mathlib.Data.List.TakeWhile
import GpuPlacement.Text.Blank

/-!
# Padded texts

`trim` (Text/Blank.lean) takes blanks away from both ends of a text. A text with blanks around it is
`Padded`, and padding is all that trimming takes away (`padded_trim`, `Padded.trim_eq`).
-/

set_option autoImplicit false

namespace GpuPlacement.Text

/-! ## No blanks at all, or nothing else -/

theorem dropWhile_isBlank_eq_self {cs : List Char} (h : ∀ c ∈ cs, isBlank c = false) :
    cs.dropWhile isBlank = cs := by
  cases cs with
  | nil => rfl
  | cons c cs => rw [List.dropWhile_cons, h c List.mem_cons_self, if_neg Bool.false_ne_true]

theorem trim_eq_self {cs : List Char} (h : ∀ c ∈ cs, isBlank c = false) : trim cs = cs := by
  rw [trim, dropWhile_isBlank_eq_self h, dropEndWhile, dropWhile_isBlank_eq_self,
    List.reverse_reverse]
  exact fun c hc => h c (List.mem_reverse.mp hc)

theorem trim_of_blank {cs : List Char} (h : ∀ c ∈ cs, isBlank c = true) : trim cs = [] := by
  rw [trim, List.dropWhile_eq_nil_iff.mpr h]
  rfl

/-! ## Padding -/

/-- A text with blanks before and after it. -/
def Padded (core cs : List Char) : Prop :=
  ∃ before after, cs = before ++ core ++ after ∧ (∀ c ∈ before, isBlank c = true) ∧
    ∀ c ∈ after, isBlank c = true

theorem Padded.trans {core mid cs : List Char} (h : Padded core mid) (h' : Padded mid cs) :
    Padded core cs := by
  obtain ⟨before, after, rfl, hb, ha⟩ := h
  obtain ⟨before', after', rfl, hb', ha'⟩ := h'
  refine ⟨before' ++ before, after ++ after', by simp only [List.append_assoc],
    fun c hc => ?_, fun c hc => ?_⟩
  · exact (List.mem_append.mp hc).elim (hb' c) (hb c)
  · exact (List.mem_append.mp hc).elim (ha c) (ha' c)

theorem padded_dropWhile (cs : List Char) : Padded (cs.dropWhile isBlank) cs := by
  refine ⟨cs.takeWhile isBlank, [], ?_, fun c hc => List.mem_takeWhile_imp hc, by simp⟩
  rw [List.append_nil, List.takeWhile_append_dropWhile]

theorem padded_dropEndWhile (cs : List Char) : Padded (dropEndWhile isBlank cs) cs := by
  refine ⟨[], (cs.reverse.takeWhile isBlank).reverse, ?_, by simp, fun c hc =>
    List.mem_takeWhile_imp (List.mem_reverse.mp hc)⟩
  rw [List.nil_append, dropEndWhile, ← List.reverse_append, List.takeWhile_append_dropWhile,
    List.reverse_reverse]

theorem padded_trim (cs : List Char) : Padded (trim cs) cs :=
  (padded_dropEndWhile _).trans (padded_dropWhile cs)

theorem dropEndWhile_append_of_blank {after : List Char} (h : ∀ c ∈ after, isBlank c = true)
    (cs : List Char) : dropEndWhile isBlank (cs ++ after) = dropEndWhile isBlank cs := by
  rw [dropEndWhile, List.reverse_append,
    List.dropWhile_append_of_pos fun c hc => h c (List.mem_reverse.mp hc), ← dropEndWhile]

/-- Padding does not count once a text is trimmed. -/
theorem Padded.trim_eq {core cs : List Char} (h : Padded core cs) : trim cs = trim core := by
  obtain ⟨before, after, rfl, hb, ha⟩ := h
  rw [List.append_assoc, trim, List.dropWhile_append_of_pos hb]
  by_cases hcore : ∀ c ∈ core, isBlank c = true
  · have hall : ∀ c ∈ core ++ after, isBlank c = true :=
      fun c hc => (List.mem_append.mp hc).elim (hcore c) (ha c)
    rw [List.dropWhile_eq_nil_iff.mpr hall, trim_of_blank hcore]
    rfl
  · have hne : core.dropWhile isBlank ≠ [] := fun he => hcore (List.dropWhile_eq_nil_iff.mp he)
    rw [List.dropWhile_append, if_neg (by simpa using hne), dropEndWhile_append_of_blank ha, ← trim]

theorem trim_trim (cs : List Char) : trim (trim cs) = trim cs := (padded_trim cs).trim_eq.symm

/-- Padding holds blanks only. -/
theorem Padded.mem_iff {core cs : List Char} (h : Padded core cs) {c : Char}
    (hc : isBlank c = false) : c ∈ core ↔ c ∈ cs := by
  obtain ⟨before, after, rfl, hb, ha⟩ := h
  have hno : ∀ blanks : List Char, (∀ b ∈ blanks, isBlank b = true) → c ∉ blanks := by
    intro blanks hall hmem
    rw [hall c hmem] at hc
    exact absurd hc (by decide)
  rw [List.mem_append, List.mem_append, or_iff_left (hno after ha), or_iff_right (hno before hb)]

theorem mem_trimmed_iff {s : String} {c : Char} (hc : isBlank c = false) :
    c ∈ (trimmed s).toList ↔ c ∈ s.toList := by
  rw [trimmed, String.toList_ofList]
  exact (padded_trim s.toList).mem_iff hc

theorem trim_eq_nil_iff {cs : List Char} : trim cs = [] ↔ ∀ c ∈ cs, isBlank c = true := by
  refine ⟨fun h c hc => ?_, trim_of_blank⟩
  by_contra hb
  have hmem := ((padded_trim cs).mem_iff ((Bool.not_eq_true _).mp hb)).mpr hc
  rw [h] at hmem
  exact List.not_mem_nil hmem

/-- Around a character that is no blank both sides are trimmed, each on its own. -/
theorem trim_append_cons {sep : Char} (hsep : isBlank sep = false) (before after : List Char) :
    trim (before ++ sep :: after)
      = before.dropWhile isBlank ++ sep :: dropEndWhile isBlank after := by
  have hfront : ∀ xs ys : List Char, (xs ++ sep :: ys).dropWhile isBlank
      = xs.dropWhile isBlank ++ sep :: ys := by
    intro xs ys
    rw [List.dropWhile_append, List.dropWhile_cons, hsep, if_neg Bool.false_ne_true]
    split
    · rename_i he
      rw [List.isEmpty_iff.mp he]
      rfl
    · rfl
  have hback : ∀ xs ys : List Char, dropEndWhile isBlank (xs ++ sep :: ys)
      = xs ++ sep :: dropEndWhile isBlank ys := by
    intro xs ys
    have hreverse : (xs ++ sep :: ys).reverse = ys.reverse ++ sep :: xs.reverse := by simp
    rw [dropEndWhile, hreverse, hfront, List.reverse_append, List.reverse_cons,
      List.reverse_reverse, List.append_assoc, List.singleton_append, dropEndWhile]
  rw [trim, hfront, hback]

end GpuPlacement.Text
