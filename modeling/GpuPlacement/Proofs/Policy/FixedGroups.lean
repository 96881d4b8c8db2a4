import Mathlib
import GpuPlacement.Policy
import GpuPlacement.Proofs.Device.Set

/-!
# The policies of fixed groups

What a table of groups hands out (Policy/FixedGroups.lean): the members of one of its groups, the
required ones first, or nothing. None of the tables has a group that names an index twice
(`simple_and_sized`), which is why no device is handed out twice.
-/

set_option autoImplicit false

namespace GpuPlacement

namespace FixedGroups

/-! ## Groups and their members -/

@[simp] theorem pick_nil (group : List Nat) : pick group [] = [] := by
  simp [pick]

theorem pick_subset (group : List Nat) (devices : List Device) : pick group devices ⊆ devices := by
  intro d hd
  obtain ⟨i, -, hi⟩ := List.mem_filterMap.mp hd
  exact List.mem_of_find?_eq_some hi

/-- Members are picked in group order, one for each index that some device has. -/
theorem map_index_pick (group : List Nat) (devices : List Device) :
    (pick group devices).map Device.index = group.filter (· ∈ devices.map Device.index) := by
  induction group with
  | nil => rfl
  | cons i group ih =>
    rw [pick, List.filterMap_cons, List.filter_cons]
    cases hi : devices.find? fun d => d.index == i with
    | none =>
      have hno : i ∉ devices.map Device.index := by
        intro hm
        obtain ⟨d, hd, rfl⟩ := List.mem_map.mp hm
        exact absurd (List.find?_eq_none.mp hi d hd) (by simp)
      rw [if_neg (by simpa using hno)]
      exact ih
    | some d =>
      have hd : d.index = i := by simpa using List.find?_some hi
      have hmem : i ∈ devices.map Device.index :=
        hd ▸ List.mem_map_of_mem (List.mem_of_find?_eq_some hi)
      rw [if_pos (decide_eq_true hmem), List.map_cons, hd]
      exact congrArg (i :: ·) ih

theorem map_index_pick_sublist (group : List Nat) (devices : List Device) :
    ((pick group devices).map Device.index).Sublist group := by
  rw [map_index_pick]
  exact List.filter_sublist

/-- A group holds the required devices, and its members among them and the candidates are as many
as asked for. -/
def Fills (required candidates : List Device) (size : Nat) (group : List Nat) : Prop :=
  (∀ d ∈ required, d.index ∈ group) ∧
    (pick group required ++ pick group candidates).length = size

section Search

variable {required candidates : List Device} {size : Nat} {group : List Nat}
  {groups : List (List Nat)}

theorem findGroup_cons_of_fills (h : Fills required candidates size group) :
    findGroup required candidates size (group :: groups)
      = pick group required ++ pick group candidates := by
  rw [findGroup, if_pos, if_pos h.2]
  exact List.all_eq_true.mpr fun d hd => List.contains_iff_mem.mpr (h.1 d hd)

/-- A group that does not fill up is passed over. -/
theorem findGroup_cons_of_not_fills (h : ¬ Fills required candidates size group) :
    findGroup required candidates size (group :: groups)
      = findGroup required candidates size groups := by
  rw [findGroup]
  by_cases hreq : required.all fun d => group.contains d.index
  · have hholds : ∀ d ∈ required, d.index ∈ group := fun d hd =>
      List.contains_iff_mem.mp (List.all_eq_true.mp hreq d hd)
    rw [if_pos hreq, if_neg fun hlen => h ⟨hholds, hlen⟩]
  · rw [if_neg hreq]

/-- The search stops at the first group that fills up. -/
theorem findGroup_of_first {before after : List (List Nat)}
    (hb : ∀ g ∈ before, ¬ Fills required candidates size g)
    (h : Fills required candidates size group) :
    findGroup required candidates size (before ++ group :: after)
      = pick group required ++ pick group candidates := by
  induction before with
  | nil => exact findGroup_cons_of_fills h
  | cons g before ih =>
    rw [List.cons_append, findGroup_cons_of_not_fills (hb g List.mem_cons_self)]
    exact ih fun g hg => hb g (List.mem_cons_of_mem _ hg)

/-- A search through groups finds nothing, or stops at a group that holds the required devices and
fills up. -/
theorem findGroup_cases (required candidates : List Device) (size : Nat)
    (groups : List (List Nat)) :
    findGroup required candidates size groups = [] ∨
      ∃ group ∈ groups, (∀ d ∈ required, d.index ∈ group) ∧
        findGroup required candidates size groups = pick group required ++ pick group candidates ∧
        (findGroup required candidates size groups).length = size := by
  induction groups with
  | nil => exact Or.inl rfl
  | cons group groups ih =>
    by_cases h : Fills required candidates size group
    · rw [findGroup_cons_of_fills h]
      exact Or.inr ⟨group, List.mem_cons_self, h.1, rfl, h.2⟩
    · rw [findGroup_cons_of_not_fills h]
      rcases ih with hnone | ⟨g, hg, hfound⟩
      · exact Or.inl hnone
      · exact Or.inr ⟨g, List.mem_cons_of_mem _ hg, hfound⟩

theorem findGroup_eq_nil_iff (hs : 0 < size) :
    findGroup required candidates size groups = [] ↔
      ∀ g ∈ groups, ¬ Fills required candidates size g := by
  induction groups with
  | nil => simp [findGroup]
  | cons group groups ih =>
    rw [List.forall_mem_cons]
    by_cases h : Fills required candidates size group
    · rw [findGroup_cons_of_fills h]
      refine iff_of_false (fun hnil => ?_) fun hno => hno.1 h
      have hlen := h.2
      rw [hnil, List.length_nil] at hlen
      omega
    · rw [findGroup_cons_of_not_fills h, ih, and_iff_right h]

end Search

/-! ## The tables -/

/-- No group names an index twice. -/
def Simple (t : FixedGroups) : Prop := ∀ row ∈ t.groups, ∀ group ∈ row.2, group.Nodup

instance (t : FixedGroups) : Decidable t.Simple :=
  inferInstanceAs (Decidable (∀ row ∈ t.groups, ∀ group ∈ row.2, group.Nodup))

/-- Every group stands in the row of its size. -/
def Sized (t : FixedGroups) : Prop := ∀ row ∈ t.groups, ∀ group ∈ row.2, group.length = row.1

instance (t : FixedGroups) : Decidable t.Sized :=
  inferInstanceAs (Decidable (∀ row ∈ t.groups, ∀ group ∈ row.2, group.length = row.1))

/-- The groups of all tables name no index twice and stand in the row of their size. -/
theorem simple_and_sized {kind : PolicyKind} {t : FixedGroups}
    (hk : kind.policy = .fixedGroups t) : t.Simple ∧ t.Sized := by
  cases kind with
  | bestEffort => exact absurd hk (by simp [PolicyKind.policy])
  | dgx1Pascal =>
    obtain rfl := Policy.fixedGroups.inj hk
    decide
  | dgx1Volta =>
    obtain rfl := Policy.fixedGroups.inj hk
    decide
  | dgx2Volta =>
    obtain rfl := Policy.fixedGroups.inj hk
    decide

theorem mem_groups_of_mem_ofSize {t : FixedGroups} {size : Nat} {group : List Nat}
    (hg : group ∈ t.ofSize size) : ∃ row ∈ t.groups, row.1 = size ∧ group ∈ row.2 := by
  unfold ofSize at hg
  cases hl : t.groups.lookup size with
  | none =>
    rw [hl] at hg
    exact absurd hg (by simp)
  | some row =>
    rw [hl, Option.getD_some] at hg
    obtain ⟨before, after, hrow, -⟩ := List.lookup_eq_some_iff.mp hl
    exact ⟨(size, row), by rw [hrow]; simp, rfl, hg⟩

theorem Simple.nodup {t : FixedGroups} (h : t.Simple) {size : Nat} {group : List Nat}
    (hg : group ∈ t.ofSize size) : group.Nodup := by
  obtain ⟨row, hrow, -, hmem⟩ := mem_groups_of_mem_ofSize hg
  exact h row hrow group hmem

theorem Sized.length_eq {t : FixedGroups} (h : t.Sized) {size : Nat} {group : List Nat}
    (hg : group ∈ t.ofSize size) : group.length = size := by
  obtain ⟨row, hrow, rfl, hmem⟩ := mem_groups_of_mem_ofSize hg
  exact h row hrow group hmem

end FixedGroups

/-! ## Requests that name no device -/

/-- As many devices of a pool as asked for, all different. -/
structure Picks (pool : List Device) (count : Nat) (chosen : List Device) : Prop where
  length_eq : chosen.length = count
  subset : chosen ⊆ pool
  distinct : (chosen.map Device.index).Nodup

/-- Whatever its groups are, a table hands out required devices and devices of the pool. -/
theorem FixedGroups.allocate_subset (t : FixedGroups) (pool required : List Device) (size : Nat) :
    t.allocate pool required size ⊆ required ++ pool := by
  rw [FixedGroups.allocate]
  split
  · exact List.nil_subset _
  rcases findGroup_cases required ((DeviceSet.ofList pool).erase required).sorted size
      (t.ofSize size) with hnone | ⟨group, -, -, he, -⟩
  · rw [hnone]
    exact List.nil_subset _
  · rw [he]
    refine List.append_subset.mpr ⟨fun d hd => ?_, fun d hd => ?_⟩
    · exact List.mem_append_left _ (FixedGroups.pick_subset _ _ hd)
    · have hmem := (DeviceSet.mem_erase.mp
        (DeviceSet.mem_sorted.mp (FixedGroups.pick_subset _ _ hd))).1
      exact List.mem_append_right _
        ((DeviceSet.mem_insert hmem).resolve_left (by simp [DeviceSet.empty]))

theorem FixedGroups.Simple.allocate_picks {t : FixedGroups} (h : t.Simple) (pool : List Device)
    (count : Nat) : t.allocate pool [] count = [] ∨ Picks pool count (t.allocate pool [] count) := by
  have hsub : t.allocate pool [] count ⊆ pool := t.allocate_subset pool [] count
  rw [FixedGroups.allocate] at hsub ⊢
  split
  · exact Or.inl rfl
  rename_i hserves
  rw [if_neg hserves] at hsub
  rcases findGroup_cases [] ((DeviceSet.ofList pool).erase []).sorted count (t.ofSize count) with
    hnone | ⟨group, hg, -, he, hlen⟩
  · exact Or.inl hnone
  · refine Or.inr ⟨hlen, hsub, ?_⟩
    rw [he, FixedGroups.pick_nil, List.nil_append]
    exact (h.nodup hg).sublist (FixedGroups.map_index_pick_sublist _ _)

end GpuPlacement
