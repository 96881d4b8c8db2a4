import GpuPlacement.Proofs.Numa.Placement

/-!
# Visible devices, value by value

What a list of visible devices stands for does not depend on how the list is put together: the
entries of two values with a comma between them are those of the one and then those of the other,
and so are their UUIDs (`Composes`). Nor does it depend on the order in which discovery reports the
devices (`SameDevices`), as long as no two of them have an index in common.

Everything that a topology declares can be named in two ways, by one word and by all indices in
order. The first sorts the devices by index and the second looks each of them up, and both come to
the same UUIDs (`resolveVisible_composes`).
-/

set_option autoImplicit false

namespace GpuPlacement.Numa

/-! ## Entries -/

theorem tokens_eq (value : String) : tokens value = visibleEntries value.toList := by
  rw [tokens, Text.trimmed, String.toList_ofList, visibleEntries, visibleEntries,
    Text.map_trim_splitOn_trim (by decide)]

/-- The entries of two values with a comma between them. -/
theorem tokens_append (u v : String) : tokens (u ++ "," ++ v) = tokens u ++ tokens v := by
  have htext : (u ++ "," ++ v).toList = u.toList ++ ',' :: v.toList := by simp
  rw [tokens_eq, tokens_eq, tokens_eq, htext, visibleEntries, Text.splitOn_append_sep,
    List.map_append, List.filterMap_append]
  rfl

/-- An entry that a list gives back as it is: not empty, and with neither commas nor blanks. -/
def PlainEntry (entry : String) : Prop :=
  entry ≠ "" ∧ ∀ c ∈ entry.toList, c ≠ ',' ∧ Text.isBlank c = false

theorem tokens_intercalate {entries : List String}
    (h : ∀ entry ∈ entries, PlainEntry entry) :
    tokens (String.intercalate "," entries) = entries := by
  by_cases hne : entries = []
  · rw [hne]
    decide
  · have hlist : (String.intercalate "," entries).toList
        = List.intercalate [','] (entries.map String.toList) := String.toList_intercalate
    have hno : ∀ piece ∈ entries.map String.toList, ',' ∉ piece := by
      intro piece hp
      obtain ⟨entry, he, rfl⟩ := List.mem_map.mp hp
      exact fun hm => ((h entry he).2 ',' hm).1 rfl
    rw [tokens_eq, hlist, visibleEntries,
      Text.splitOn_intercalate (by rwa [Ne, List.map_eq_nil_iff]) hno, List.map_map,
      List.filterMap_map]
    have hsame : ∀ entry ∈ entries, ((fun piece : List Char =>
        if piece.isEmpty then none else some (String.ofList piece)) ∘ Text.trim ∘ String.toList) entry
          = some entry := by
      intro entry he
      obtain ⟨hempty, hchars⟩ := h entry he
      have htrim : Text.trim entry.toList = entry.toList :=
        Text.trim_eq_self fun c hc => (hchars c hc).2
      show (if (Text.trim entry.toList).isEmpty then none
        else some (String.ofList (Text.trim entry.toList))) = some entry
      rw [htrim, if_neg (by simpa using hempty), String.ofList_toList]
    exact (List.filterMap_congr hsame).trans List.filterMap_some

/-! ## Values -/

/-- A value with a comma in it is a list. -/
theorem isList_of_comma {value : String} (h : ',' ∈ value.toList) : IsList value := by
  have htrim : ',' ∈ (Text.trimmed value).toList := (Text.mem_trimmed_iff (by decide)).mpr h
  refine ⟨fun hw => ?_, fun hw => ?_, fun hw => ?_⟩ <;> rw [hw] at htrim <;>
    exact absurd htrim (by decide)

/-! ## Two values -/

theorem entryUuids_append (devices : List DeviceHandle) (entries more : List String) :
    entryUuids devices (entries ++ more)
      = (entryUuids devices entries).bind fun uuids =>
          (entryUuids devices more).map (uuids ++ ·) := by
  induction entries with
  | nil =>
    rw [List.nil_append]
    show _ = (entryUuids devices more).map ([] ++ ·)
    cases entryUuids devices more <;> rfl
  | cons entry entries ih =>
    rw [List.cons_append, entryUuids, entryUuids, ih]
    cases entryUuid devices entry with
    | error e => rfl
    | ok uuid =>
      cases entryUuids devices entries with
      | error e => rfl
      | ok uuids =>
        cases entryUuids devices more <;> rfl

theorem listed_append {answer first second : Except Error (List DeviceHandle)}
    (h1 : SameDevices answer first) (h2 : SameDevices answer second)
    (hindex : ∀ devices, answer = .ok devices → (devices.map DeviceHandle.index).Nodup)
    (entries more : List String) :
    listed answer (entries ++ more)
      = (listed first entries).bind fun uuids => (listed second more).map (uuids ++ ·) := by
  cases h1 with
  | @error e =>
    cases h2
    rw [listed_error, listed_error, listed_error, List.any_append]
    cases entries.any isIndex <;> cases more.any isIndex <;> rfl
  | @ok devices others hperm =>
    cases h2 with
    | ok hperm' =>
      have hnodup := hindex devices rfl
      rw [listed_ok, listed_ok, listed_ok, ← entryUuids_perm hperm hnodup,
        ← entryUuids_perm hperm' hnodup, entryUuids_append]

/-- Two values with a comma between them, against one and then the other. -/
structure Composes (d first second : Discoverer) (u v : String) : Prop where
  /-- They stand for the UUIDs of both in order, or fail as the first of the two that fails. -/
  result : (resolveVisible d (u ++ "," ++ v)).result
    = (resolveVisible first u).result.bind fun uuids =>
        (resolveVisible second v).result.map (uuids ++ ·)
  /-- The devices are asked for once if there is an index among all entries. -/
  asks : (∃ token ∈ tokens u ++ tokens v, IndexForm token) →
    (resolveVisible d (u ++ "," ++ v)).queries = [.devices]
  /-- And not at all if there is none. -/
  asksNot : (∀ token ∈ tokens u ++ tokens v, ¬ IndexForm token) →
    (resolveVisible d (u ++ "," ++ v)).queries = []

theorem composes {d first second : Discoverer} {u v : String}
    (h1 : SameDevices d.devices first.devices) (h2 : SameDevices d.devices second.devices)
    (hindex : ∀ devices, d.devices = .ok devices → (devices.map DeviceHandle.index).Nodup)
    (hu : IsList u) (hv : IsList v) : Composes d first second u v := by
  have hboth : IsList (u ++ "," ++ v) := isList_of_comma (by simp)
  obtain ⟨hresult, hqueries⟩ := resolveVisible_list hboth d
  rw [tokens_append] at hresult hqueries
  refine ⟨?_, fun hsome => ?_, fun hnone => ?_⟩
  · rw [hresult, (resolveVisible_list hu first).1, (resolveVisible_list hv second).1,
      listed_append h1 h2 hindex]
  · obtain ⟨token, hm, hform⟩ := hsome
    rw [hqueries, if_pos (List.any_eq_true.mpr ⟨token, hm, isIndex_iff.mpr hform⟩)]
  · rw [hqueries, if_neg]
    intro hany
    obtain ⟨token, hm, hform⟩ := List.any_eq_true.mp hany
    exact hnone token hm (isIndex_iff.mp hform)

/-! ## Everything, in two ways -/

/-- The indices of all devices: those of the GPUs in ascending order, each followed by those of its
MIG devices. -/
def allIndices (t : Topology) : List String :=
  t.byIndex.flatMap fun g =>
    toString g.index :: (List.range g.migs.length).map fun mig => s!"{g.index}:{mig}"

theorem map_index_listing (t : Topology) :
    (listing t).map InventoryDevice.index = allIndices t := by
  rw [listing, List.map_flatMap, allIndices]
  refine List.flatMap_congr fun g _ => congrArg (toString g.index :: ·) ?_
  refine List.ext_getElem (by simp) fun i hi hi' => ?_
  simp [migIndex]

theorem indexForm_of_mem_listing {t : Topology} {d : InventoryDevice} (h : d ∈ listing t) :
    IndexForm d.index := by
  have hdigits : ∀ n : Nat, Digits (Nat.toDigits 10 n) := by
    intro n
    refine ⟨Nat.toDigits_ne_nil, fun c hc => ?_⟩
    simpa [Text.isDigit] using Text.isDigit_of_mem_toDigits hc
  obtain ⟨g, -, hd⟩ := List.mem_flatMap.mp h
  rcases List.mem_cons.mp hd with rfl | hd
  · apply Or.inl
    rw [toList_toString]
    exact hdigits g.index
  · obtain ⟨i, -, rfl⟩ := List.mem_mapIdx.mp hd
    exact Or.inr ⟨_, _, toList_migIndex g.index i, hdigits g.index, hdigits i⟩

/-- An index is digits and colons. -/
theorem IndexForm.isDigit_or_colon {token : String} (h : IndexForm token) :
    ∀ c ∈ token.toList, Text.isDigit c = true ∨ c = ':' := by
  have hdigits : ∀ cs : List Char, Digits cs → ∀ c ∈ cs, Text.isDigit c = true := by
    intro cs hcs c hc
    simpa [Text.isDigit] using hcs.2 c hc
  rcases h with h | ⟨gpu, mig, he, hg, hm⟩
  · exact fun c hc => Or.inl (hdigits _ h c hc)
  · intro c hc
    rw [he, List.mem_append, List.mem_cons] at hc
    rcases hc with hc | rfl | hc
    · exact Or.inl (hdigits gpu hg c hc)
    · exact Or.inr rfl
    · exact Or.inl (hdigits mig hm c hc)

theorem IndexForm.plain {token : String} (h : IndexForm token) : PlainEntry token := by
  refine ⟨?_, fun c hc => ?_⟩
  · rintro rfl
    rcases h with h | ⟨gpu, mig, he, -, -⟩
    · exact h.1 rfl
    · exact absurd he (by simp)
  · rcases h.isDigit_or_colon c hc with hd | rfl
    · refine ⟨?_, Text.isBlank_of_isDigit hd⟩
      rintro rfl
      exact absurd hd (by decide)
    · decide

theorem tokens_allIndices (t : Topology) :
    tokens (String.intercalate "," (allIndices t)) = allIndices t := by
  refine tokens_intercalate fun entry he => ?_
  rw [← map_index_listing] at he
  obtain ⟨d, hd, rfl⟩ := List.mem_map.mp he
  exact (indexForm_of_mem_listing hd).plain

/-- A list of indices is no word. -/
theorem isList_allIndices (t : Topology) : IsList (String.intercalate "," (allIndices t)) := by
  have hplain : ∀ c ∈ (String.intercalate "," (allIndices t)).toList,
      c = ',' ∨ Text.isDigit c = true ∨ c = ':' := by
    intro c hc
    rw [String.toList_intercalate] at hc
    rcases Text.mem_intercalate hc with hc | ⟨piece, hp, hc⟩
    · exact Or.inl hc
    · obtain ⟨entry, he, rfl⟩ := List.mem_map.mp hp
      rw [← map_index_listing] at he
      obtain ⟨d, hd, rfl⟩ := List.mem_map.mp he
      exact Or.inr ((indexForm_of_mem_listing hd).isDigit_or_colon c hc)
  have hletter : ∀ word : String, Text.trimmed (String.intercalate "," (allIndices t)) = word →
      ∀ c ∈ word.toList, Text.isBlank c = false → c = ',' ∨ Text.isDigit c = true ∨ c = ':' := by
    rintro word rfl c hc hblank
    exact hplain c ((Text.mem_trimmed_iff hblank).mp hc)
  refine ⟨fun hw => ?_, fun hw => ?_, fun hw => ?_⟩
  · exact absurd (hletter "void" hw 'v' (by decide) (by decide)) (by decide)
  · exact absurd (hletter "none" hw 'n' (by decide) (by decide)) (by decide)
  · exact absurd (hletter "all" hw 'a' (by decide) (by decide)) (by decide)

section Everything

variable {t : Topology} (h : Accepted t) {fs : FileSystem} {root name : String} {d : Discoverer}
  (hd : SameDevices (inventoryDiscoverer t fs root name).devices d.devices)
include h hd

theorem resolveVisible_all :
    (resolveVisible d "all").result = .ok ((listing t).map InventoryDevice.uuid) := by
  obtain ⟨devices, hdevices, hperm⟩ := hd.exists_perm_handles h.devices
  rw [resolveVisible_of_all (by decide) hdevices, h.mergeSort_of_perm_handles hperm,
    List.map_map]
  rfl

theorem resolveVisible_allIndices :
    (resolveVisible d (String.intercalate "," (allIndices t))).result
      = .ok ((listing t).map InventoryDevice.uuid) := by
  obtain ⟨devices, hdevices, hperm⟩ := hd.exists_perm_handles h.devices
  rw [(resolveVisible_list (isList_allIndices t) d).1, tokens_allIndices, hdevices, listed_ok,
    ← entryUuids_perm hperm (h.nodup_index_handles fs root), ← map_index_listing]
  refine entryUuids_of_passedAs fs root h ?_
  refine List.forall₂_map_left_iff.mpr (List.forall₂_map_right_iff.mpr ?_)
  refine List.forall₂_same.mpr fun e he => ?_
  have hform := indexForm_of_mem_listing he
  exact .index hform ⟨he, fun _ => rfl, fun hno => absurd hform hno⟩

end Everything

/-- **Values are resolved entry by entry**, whatever the order of the devices each time; and the
word for all devices of a topology stands for the same as all their indices. -/
theorem resolveVisible_composes :
    (∀ (d first second : Discoverer) (u v : String), SameDevices d.devices first.devices →
      SameDevices d.devices second.devices →
      (∀ devices, d.devices = .ok devices → (devices.map DeviceHandle.index).Nodup) →
      IsList u → IsList v → Composes d first second u v) ∧
    ∀ (t : Topology), Accepted t → ∀ (fs : FileSystem) (root name : String) (d e : Discoverer),
      SameDevices (inventoryDiscoverer t fs root name).devices d.devices →
      SameDevices (inventoryDiscoverer t fs root name).devices e.devices →
      ∃ uuids, (resolveVisible d "all").result = .ok uuids ∧
        (resolveVisible e (String.intercalate "," (allIndices t))).result = .ok uuids :=
  ⟨fun _ _ _ _ _ h1 h2 hindex hu hv => composes h1 h2 hindex hu hv,
    fun _ h _ _ _ _ _ hd he => ⟨_, resolveVisible_all h hd, resolveVisible_allIndices h he⟩⟩

/-- Entries that are blank, named twice and named by UUID, of devices that come in another order
the second time. -/
theorem resolveVisible_composes_migTopology :
    let d := inventoryDiscoverer migTopology (treeWith "1\n") "/sys" "GPUS"
    let reversed : Discoverer :=
      { d with devices := .ok (handles migTopology (treeWith "1\n") "/sys").reverse }
    SameDevices d.devices d.devices ∧ SameDevices d.devices reversed.devices ∧
      IsList " ,0:1" ∧ IsList "GPU-9, 0:1" ∧ Composes d d reversed " ,0:1" "GPU-9, 0:1" ∧
      ∃ uuids, (resolveVisible d "all").result = .ok uuids ∧
        (resolveVisible reversed (String.intercalate "," (allIndices migTopology))).result
          = .ok uuids := by
  intro d reversed
  have hsame : SameDevices d.devices d.devices := SameDevices.refl _
  have hdevices :=
    devices_inventoryDiscoverer accepted_migTopology.devices (treeWith "1\n") "/sys" "GPUS"
  have hreversed : SameDevices d.devices reversed.devices :=
    (discovers_reverse accepted_migTopology (treeWith "1\n") "/sys" "GPUS").devices
  have hlists : IsList " ,0:1" ∧ IsList "GPU-9, 0:1" := by
    constructor <;> exact isList_of_comma (by decide)
  have hindex : ∀ devices, d.devices = .ok devices →
      (devices.map DeviceHandle.index).Nodup := by
    intro devices hok
    rw [hdevices] at hok
    obtain rfl := Except.ok.inj hok
    exact accepted_migTopology.nodup_index_handles _ _
  exact ⟨hsame, hreversed, hlists.1, hlists.2,
    resolveVisible_composes.1 d d reversed _ _ hsame hreversed hindex hlists.1 hlists.2,
    resolveVisible_composes.2 migTopology accepted_migTopology _ _ _ d reversed hsame hreversed⟩

end GpuPlacement.Numa
