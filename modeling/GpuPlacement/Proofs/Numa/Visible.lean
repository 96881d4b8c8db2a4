import GpuPlacement.Proofs.Numa.Inventory
import GpuPlacement.Proofs.Numa.Run

/-!
# Visible devices

Which devices of a topology a container sees (`Sees`), said over its environment and the listing
of the topology, with no word on how names are looked up; and the name that is reported if some
name is wrong (`Reported`). What discovery makes of the environment (Numa/Discovery.lean), in
whatever order it reports the devices, is compared with the two.

Names are checked in two passes. An index is looked up by discovery, so the first wrong index is
reported before any wrong UUID; a UUID is passed on as it stands and looked up in the cache.
-/

set_option autoImplicit false

namespace GpuPlacement.Numa

/-! ## Names -/

/-- One or more digits. -/
def Digits (cs : List Char) : Prop := cs ≠ [] ∧ ∀ c ∈ cs, '0' ≤ c ∧ c ≤ '9'

/-- The form of an index: digits, or digits twice with a colon between them. -/
def IndexForm (token : String) : Prop :=
  Digits token.toList ∨
    ∃ gpu mig, token.toList = gpu ++ ':' :: mig ∧ Digits gpu ∧ Digits mig

/-- A token names a device: by its index if the token has the form of one, else by its UUID. -/
def Names (t : Topology) (token : String) (d : InventoryDevice) : Prop :=
  d ∈ listing t ∧ (IndexForm token → d.index = token) ∧ (¬ IndexForm token → d.uuid = token)

/-- The first item that has a property. -/
def First {α : Type} (p : α → Prop) (items : List α) (x : α) : Prop :=
  ∃ before after, items = before ++ x :: after ∧ p x ∧ ∀ y ∈ before, ¬ p y

/-- The token to report: the first index that names no device or, if every index names one, the
first UUID that does not. -/
inductive Reported (t : Topology) (tokens : List String) : String → Prop
  | index {token : String} :
      First (fun y => IndexForm y ∧ ∀ d, ¬ Names t y d) tokens token → Reported t tokens token
  | uuid {token : String} :
      (∀ y ∈ tokens, IndexForm y → ∃ d, Names t y d) →
        First (fun y => ∀ d, ¬ Names t y d) tokens token → Reported t tokens token

/-! ## Environments -/

/-- The value of the first entry of a variable. -/
def FirstEntry (name : String) (env : List String) (value : String) : Prop :=
  ∃ before after, env = before ++ Container.envEntry name value :: after ∧
    ∀ entry ∈ before, ∀ v, entry ≠ Container.envEntry name v

/-- No entry of a variable. -/
def NoEntry (name : String) (env : List String) : Prop :=
  ∀ entry ∈ env, ∀ v, entry ≠ Container.envEntry name v

/-- A value that names devices one by one. -/
def IsTokenList (value : String) : Prop :=
  Text.trimmed value ≠ "" ∧ Text.trimmed value ≠ "void" ∧ Text.trimmed value ≠ "none" ∧
    Text.trimmed value ≠ "all"

/-- A value that stands neither for nothing, by a word, nor for everything. It may be blank. -/
def IsList (value : String) : Prop :=
  Text.trimmed value ≠ "void" ∧ Text.trimmed value ≠ "none" ∧ Text.trimmed value ≠ "all"

/-- The names of a value, between commas and without blanks around them. Blank ones do not count. -/
def tokens (value : String) : List String := visibleEntries (Text.trimmed value).toList

/-- The devices that an environment shows: none, all of them, or those that a list names, as often
as it names them. -/
inductive Sees (t : Topology) (name : String) (env : List String) :
    List InventoryDevice → Prop
  | unset : NoEntry name env → Sees t name env []
  | nothing {value : String} : FirstEntry name env value →
      (Text.trimmed value = "" ∨ Text.trimmed value = "void" ∨ Text.trimmed value = "none") →
        Sees t name env []
  | all {value : String} : FirstEntry name env value → Text.trimmed value = "all" →
      Sees t name env (listing t)
  | list {value : String} {devices : List InventoryDevice} : FirstEntry name env value →
      IsTokenList value → List.Forall₂ (Names t) (tokens value) devices →
        Sees t name env devices

/-- An environment names a device that is not there; this is the name to report. -/
def Misnames (t : Topology) (name : String) (env : List String) (token : String) : Prop :=
  ∃ value, FirstEntry name env value ∧ IsTokenList value ∧ Reported t (tokens value) token

/-! ## Looking up names -/

theorem isNumber_iff {cs : List Char} : isNumber cs = true ↔ Digits cs := by
  simp [isNumber, Digits, Text.isDigit]

theorem Digits.colon_notMem {cs : List Char} (h : Digits cs) : ':' ∉ cs := by
  intro hm
  exact absurd (h.2 ':' hm) (by decide)

theorem isIndex_iff {token : String} : isIndex token = true ↔ IndexForm token := by
  unfold isIndex IndexForm
  cases hs : Text.splitFirst? ':' token.toList with
  | none =>
    have hno : ':' ∉ token.toList := Text.splitFirst?_eq_none_iff.mp hs
    rw [isNumber_iff]
    constructor
    · exact Or.inl
    · rintro (h | ⟨gpu, mig, he, -, -⟩)
      · exact h
      · exact absurd (by rw [he]; simp) hno
  | some pair =>
    obtain ⟨gpu, mig⟩ := pair
    obtain ⟨he, hno⟩ := Text.splitFirst?_eq_some_iff.mp hs
    rw [Bool.and_eq_true, isNumber_iff, isNumber_iff]
    constructor
    · exact fun h => Or.inr ⟨gpu, mig, he, h⟩
    · rintro (h | ⟨gpu', mig', he', hg, hm⟩)
      · exact absurd (by rw [he]; simp) h.colon_notMem
      -- Digits hold no colon, so the text is split at the only one.
      · have hsame := Text.splitFirst?_eq_some_iff.mpr ⟨he', hg.colon_notMem⟩
        rw [hs] at hsame
        obtain ⟨rfl, rfl⟩ := Prod.mk.inj (Option.some.inj hsame)
        exact ⟨hg, hm⟩

/-- Among devices with different indices an index finds the one that has it. -/
theorem findByIndex?_eq_some_iff {devices : List DeviceHandle}
    (h : (devices.map DeviceHandle.index).Nodup) {index : String} {d : DeviceHandle} :
    findByIndex? devices index = some d ↔ d ∈ devices ∧ d.index = index := by
  have hfound : ∀ {e}, findByIndex? devices index = some e → e ∈ devices ∧ e.index = index := by
    intro e hf
    unfold findByIndex? at hf
    have hbeq := List.find?_some hf
    exact ⟨List.mem_of_find?_eq_some hf, eq_of_beq hbeq⟩
  constructor
  · exact hfound
  · intro hd
    cases hf : findByIndex? devices index with
    | none => exact absurd (beq_iff_eq.mpr hd.2) (List.find?_eq_none.mp hf d hd.1)
    | some e =>
      obtain ⟨hmem, hsame⟩ := hfound hf
      rw [List.inj_on_of_nodup_map h hmem hd.1 (hsame.trans hd.2.symm)]

section Order

variable {devices others : List DeviceHandle} (h : devices.Perm others)
  (hindex : (devices.map DeviceHandle.index).Nodup)

include h hindex

theorem findByIndex?_perm (index : String) :
    findByIndex? devices index = findByIndex? others index := by
  refine Option.ext fun d => ?_
  rw [findByIndex?_eq_some_iff hindex,
    findByIndex?_eq_some_iff ((h.map DeviceHandle.index).nodup_iff.mp hindex), h.mem_iff]

/-- What a list of entries stands for does not depend on the order of the devices. -/
theorem entryUuids_perm (entries : List String) :
    entryUuids devices entries = entryUuids others entries := by
  induction entries with
  | nil => rfl
  | cons entry entries ih =>
    rw [entryUuids, entryUuids, entryUuid, entryUuid, findByIndex?_perm h hindex, ih]

end Order

section Lookup

variable {t : Topology} (fs : FileSystem) (root : String)

/-- What a token is passed on as: the UUID of the device with that index, or the token itself. -/
inductive PassedAs (t : Topology) (token : String) : String → Prop
  | index {d : InventoryDevice} : IndexForm token → Names t token d → PassedAs t token d.uuid
  | uuid : ¬ IndexForm token → PassedAs t token token

theorem findByIndex?_handles (h : Accepted t) {d : InventoryDevice} (hd : d ∈ listing t) :
    findByIndex? (handles t fs root) d.index = some (d.handle fs root) :=
  (findByIndex?_eq_some_iff (h.nodup_index_handles fs root)).mpr ⟨mem_handles.mpr ⟨d, hd, rfl⟩, rfl⟩

theorem findByUuid?_eq_none {fs : FileSystem} {root : String} {devices : List DeviceHandle}
    (hperm : (handles t fs root).Perm devices) {uuid : String}
    (hu : ∀ d ∈ listing t, d.uuid ≠ uuid) : findByUuid? devices uuid = none := by
  refine List.find?_eq_none.mpr fun e he => ?_
  obtain ⟨d, hd, rfl⟩ := mem_handles.mp (hperm.mem_iff.mpr he)
  intro hbeq
  exact hu d hd (eq_of_beq hbeq)

theorem entryUuid_of_passedAs (h : Accepted t) {token uuid : String} (hp : PassedAs t token uuid) :
    entryUuid (handles t fs root) token = .ok uuid := by
  cases hp with
  | @index d hform hname =>
    have hi : d.index = token := hname.2.1 hform
    have hf := findByIndex?_handles fs root h hname.1
    rw [hi] at hf
    rw [entryUuid, if_pos (isIndex_iff.mpr hform), hf]
    rfl
  | uuid hform => rw [entryUuid, if_neg (fun hi => hform (isIndex_iff.mp hi))]

theorem entryUuid_of_unknown {token : String} (hform : IndexForm token)
    (hno : ∀ d, ¬ Names t token d) :
    entryUuid (handles t fs root) token = .error (.deviceNotFound token) := by
  have hf : findByIndex? (handles t fs root) token = none := by
    refine List.find?_eq_none.mpr fun e he => ?_
    obtain ⟨d, hd, rfl⟩ := mem_handles.mp he
    intro hbeq
    exact hno d ⟨hd, fun _ => eq_of_beq hbeq, fun hn => absurd hform hn⟩
  rw [entryUuid, if_pos (isIndex_iff.mpr hform), hf]

/-- A token that is no wrong index is passed on. -/
theorem exists_passedAs {token : String} (hok : IndexForm token → ∃ d, Names t token d) :
    ∃ uuid, PassedAs t token uuid := by
  by_cases hform : IndexForm token
  · obtain ⟨d, hd⟩ := hok hform
    exact ⟨d.uuid, .index hform hd⟩
  · exact ⟨token, .uuid hform⟩

theorem entryUuids_of_passedAs (h : Accepted t) {entries uuids : List String}
    (hp : List.Forall₂ (PassedAs t) entries uuids) :
    entryUuids (handles t fs root) entries = .ok uuids := by
  induction hp with
  | nil => rfl
  | cons hp _ ih =>
    rw [entryUuids, entryUuid_of_passedAs fs root h hp, ih]
    rfl

/-- Looking up tokens fails at the first wrong index. -/
theorem entryUuids_of_unknown (h : Accepted t) {entries : List String} {token : String}
    (hf : First (fun y => IndexForm y ∧ ∀ d, ¬ Names t y d) entries token) :
    entryUuids (handles t fs root) entries = .error (.deviceNotFound token) := by
  obtain ⟨before, after, rfl, ⟨hform, hno⟩, hb⟩ := hf
  induction before with
  | nil =>
    rw [List.nil_append, entryUuids, entryUuid_of_unknown fs root hform hno]
    rfl
  | cons y before ih =>
    have hy : IndexForm y → ∃ d, Names t y d := by
      intro hform
      by_contra hn
      exact hb y List.mem_cons_self ⟨hform, not_exists.mp hn⟩
    obtain ⟨uuid, hp⟩ := exists_passedAs hy
    rw [List.cons_append, entryUuids, entryUuid_of_passedAs fs root h hp,
      ih fun z hz => hb z (List.mem_cons_of_mem _ hz)]
    rfl

/-- Without an index nothing is looked up. -/
theorem entryUuids_of_noIndex {devices : List DeviceHandle} {entries : List String}
    (hno : entries.any isIndex = false) : entryUuids devices entries = .ok entries := by
  induction entries with
  | nil => rfl
  | cons entry entries ih =>
    rw [List.any_cons, Bool.or_eq_false_iff] at hno
    rw [entryUuids, entryUuid, hno.1, if_neg Bool.false_ne_true, ih hno.2]
    rfl

/-! ## What discovery makes of an environment -/

theorem valueOf?_eq_some_iff {name entry value : String} :
    Container.valueOf? name entry = some value ↔ entry = Container.envEntry name value := by
  have hentry : (Container.envEntry name value).toList = name.toList ++ ['='] ++ value.toList := by
    simp [Container.envEntry, toString]
  rw [Container.valueOf?, Option.map_eq_some_iff, ← String.toList_inj, hentry]
  constructor
  · intro h
    obtain ⟨rest, hd, rfl⟩ := h
    rw [String.toList_ofList]
    exact Text.dropStart?_eq_some_iff.mp hd
  · intro he
    exact ⟨value.toList, Text.dropStart?_eq_some_iff.mpr he, String.ofList_toList⟩

theorem valueOf?_eq_none_iff {name entry : String} :
    Container.valueOf? name entry = none ↔ ∀ v, entry ≠ Container.envEntry name v := by
  rw [Option.eq_none_iff_forall_ne_some]
  exact forall_congr' fun v => not_congr valueOf?_eq_some_iff

theorem envValue_eq_some_iff {c : Container} {name value : String} :
    c.envValue name = some value ↔ FirstEntry name c.env value := by
  rw [Container.envValue, List.findSome?_eq_some_iff]
  constructor
  · intro h
    obtain ⟨before, entry, after, he, hv, hb⟩ := h
    rw [valueOf?_eq_some_iff.mp hv] at he
    exact ⟨before, after, he, fun e hm => valueOf?_eq_none_iff.mp (hb e hm)⟩
  · intro h
    obtain ⟨before, after, he, hb⟩ := h
    exact ⟨before, _, after, he, valueOf?_eq_some_iff.mpr rfl,
      fun e hm => valueOf?_eq_none_iff.mpr (hb e hm)⟩

theorem envValue_eq_none_iff {c : Container} {name : String} :
    c.envValue name = none ↔ NoEntry name c.env := by
  rw [Container.envValue, List.findSome?_eq_none_iff]
  exact forall₂_congr fun _ _ => valueOf?_eq_none_iff

theorem resolveVisible_of_nothing {d : Discoverer} {value : String}
    (h : Text.trimmed value = "" ∨ Text.trimmed value = "void" ∨ Text.trimmed value = "none") :
    (resolveVisible d value).result = .ok [] := by
  unfold resolveVisible
  rw [if_pos h]
  rfl

theorem resolveVisible_of_all {d : Discoverer} {value : String} {devices : List DeviceHandle}
    (h : Text.trimmed value = "all") (hd : d.devices = .ok devices) :
    (resolveVisible d value).result
      = .ok ((devices.mergeSort indexLe).map DeviceHandle.uuid) := by
  unfold resolveVisible
  rw [if_neg (by rw [h]; decide), if_pos h, Reply.bind_of_ok hd]
  rfl

/-- The UUIDs of entries, given an answer about the devices that is only needed for an index. -/
def listed (answer : Except Error (List DeviceHandle)) (entries : List String) :
    Except Error (List String) :=
  if entries.any isIndex then answer.bind fun devices => entryUuids devices entries
  else .ok entries

theorem listed_ok (devices : List DeviceHandle) (entries : List String) :
    listed (.ok devices) entries = entryUuids devices entries := by
  rw [listed]
  split
  · rfl
  · rename_i hno
    exact (entryUuids_of_noIndex (by simpa using hno)).symm

theorem listed_error (e : Error) (entries : List String) :
    listed (.error e) entries = if entries.any isIndex then .error e else .ok entries := rfl

/-- **What a list stands for**, and when the devices are asked for. -/
theorem resolveVisible_list {value : String} (h : IsList value) (d : Discoverer) :
    (resolveVisible d value).result = listed d.devices (tokens value) ∧
      (resolveVisible d value).queries = if (tokens value).any isIndex then [.devices] else [] := by
  by_cases hblank : Text.trimmed value = ""
  · have hempty : tokens value = [] := by
      rw [tokens, hblank]
      rfl
    rw [hempty]
    unfold resolveVisible
    rw [if_pos (Or.inl hblank)]
    exact ⟨rfl, rfl⟩
  · unfold resolveVisible
    rw [if_neg fun hw => hw.elim hblank fun hw => hw.elim h.1 h.2.1, if_neg h.2.2, listed, tokens]
    generalize visibleEntries (Text.trimmed value).toList = entries
    cases hany : entries.any isIndex with
    | false =>
      simp only [hany, Bool.false_eq_true, if_false]
      rw [Reply.bind_of_ok rfl]
      exact ⟨entryUuids_of_noIndex hany, rfl⟩
    | true =>
      simp only [hany, if_true]
      cases hd : d.devices with
      | error e =>
        rw [Reply.bind_of_error hd]
        exact ⟨rfl, rfl⟩
      | ok devices =>
        rw [Reply.bind_of_ok hd]
        exact ⟨rfl, rfl⟩

theorem resolveVisible_of_list {d : Discoverer} {value : String} {devices : List DeviceHandle}
    (h : IsTokenList value) (hd : d.devices = .ok devices) :
    (resolveVisible d value).result = entryUuids devices (tokens value) := by
  rw [(resolveVisible_list h.2 d).1, hd, listed_ok]

/-! ## Environments against the listing -/

theorem first_or_forall_not {α : Type} (p : α → Prop) (items : List α) :
    (∃ x, First p items x) ∨ ∀ y ∈ items, ¬ p y := by
  induction items with
  | nil => exact Or.inr (by simp)
  | cons a items ih =>
    by_cases ha : p a
    · exact Or.inl ⟨a, [], items, rfl, ha, by simp⟩
    · rcases ih with ⟨x, before, after, rfl, hx, hb⟩ | hno
      · exact Or.inl ⟨x, a :: before, after, rfl, hx, List.forall_mem_cons.mpr ⟨ha, hb⟩⟩
      · exact Or.inr (List.forall_mem_cons.mpr ⟨ha, hno⟩)

/-- Names are all those of devices, or one of them is reported. -/
theorem named_or_reported (t : Topology) (names : List String) :
    (∃ devices, List.Forall₂ (Names t) names devices) ∨ ∃ token, Reported t names token := by
  rcases first_or_forall_not (fun y => IndexForm y ∧ ∀ d, ¬ Names t y d) names with
    ⟨token, hf⟩ | hindex
  · exact Or.inr ⟨token, .index hf⟩
  · have hnamed : ∀ y ∈ names, IndexForm y → ∃ d, Names t y d := by
      intro y hy hform
      by_contra hno
      exact hindex y hy ⟨hform, not_exists.mp hno⟩
    rcases first_or_forall_not (fun y => ∀ d, ¬ Names t y d) names with ⟨token, hf⟩ | hall
    · exact Or.inr ⟨token, .uuid hnamed hf⟩
    · exact Or.inl (exists_forall₂ fun y hy => by simpa using hall y hy)

/-- A container sees some devices, or it names one that is not there. -/
theorem sees_or_misnames (t : Topology) (name : String) (env : List String) :
    (∃ devices, Sees t name env devices) ∨ ∃ token, Misnames t name env token := by
  cases he : (Container.mk "" env none).envValue name with
  | none => exact Or.inl ⟨[], .unset (envValue_eq_none_iff.mp he)⟩
  | some value =>
    have hfirst : FirstEntry name env value := envValue_eq_some_iff.mp he
    by_cases hnothing : Text.trimmed value = "" ∨ Text.trimmed value = "void" ∨
        Text.trimmed value = "none"
    · exact Or.inl ⟨[], .nothing hfirst hnothing⟩
    · by_cases hall : Text.trimmed value = "all"
      · exact Or.inl ⟨listing t, .all hfirst hall⟩
      · rw [not_or, not_or] at hnothing
        have hlist : IsTokenList value := ⟨hnothing.1, hnothing.2.1, hnothing.2.2, hall⟩
        rcases named_or_reported t (tokens value) with ⟨devices, hn⟩ | ⟨token, hr⟩
        · exact Or.inl ⟨devices, .list hfirst hlist hn⟩
        · exact Or.inr ⟨token, value, hfirst, hlist, hr⟩

theorem assignedDevices_of_entry {d : Discoverer} {name value : String} {c : Container}
    (hname : d.deviceVariable = name) (h : FirstEntry name c.env value) :
    d.assignedDevices c = resolveVisible d value := by
  rw [Discoverer.assignedDevices, hname, envValue_eq_some_iff.mpr h]

theorem assignedDevices_of_noEntry {d : Discoverer} {name : String} {c : Container}
    (hname : d.deviceVariable = name) (h : NoEntry name c.env) :
    (d.assignedDevices c).result = .ok [] := by
  rw [Discoverer.assignedDevices, hname, envValue_eq_none_iff.mpr h]
  rfl

/-- What a container sees is there. -/
theorem Sees.listed {name : String} {env : List String} {devices : List InventoryDevice}
    (h : Sees t name env devices) : ∀ d ∈ devices, d ∈ listing t := by
  cases h with
  | unset _ => simp
  | nothing _ _ => simp
  | all _ _ => exact fun _ hd => hd
  | list _ _ hnamed =>
    intro d hd
    obtain ⟨_, -, hname⟩ := exists_of_mem_forall₂ hnamed hd
    exact hname.1

theorem Names.passedAs {token : String} {d : InventoryDevice} (h : Names t token d) :
    PassedAs t token d.uuid := by
  by_cases hform : IndexForm token
  · exact .index hform h
  · rw [h.2.2 hform]
    exact .uuid hform

variable {fs root} {name : String} {d : Discoverer} {c : Container}

/-- Discovery gives the UUIDs of the devices that a container sees. -/
theorem assignedDevices_of_sees (h : Accepted t) (hd : Discovers t fs root name d)
    {devices : List InventoryDevice} (hs : Sees t name c.env devices) :
    (d.assignedDevices c).result = .ok (devices.map InventoryDevice.uuid) := by
  obtain ⟨found, hfound, hperm⟩ := hd.devices.exists_perm_handles h.devices
  have hname := hd.deviceVariable
  cases hs with
  | unset hno => exact assignedDevices_of_noEntry hname hno
  | nothing hfirst hnothing =>
    rw [assignedDevices_of_entry hname hfirst]
    exact resolveVisible_of_nothing hnothing
  | all hfirst hall =>
    rw [assignedDevices_of_entry hname hfirst, resolveVisible_of_all hall hfound,
      h.mergeSort_of_perm_handles hperm, List.map_map]
    rfl
  | list hfirst hlist hnamed =>
    rw [assignedDevices_of_entry hname hfirst, resolveVisible_of_list hlist hfound,
      ← entryUuids_perm hperm (h.nodup_index_handles fs root)]
    refine entryUuids_of_passedAs fs root h (List.forall₂_map_right_iff.mpr ?_)
    exact hnamed.imp fun _ _ hn => hn.passedAs

/-- Of a container that names a device that is not there discovery reports the name, or it passes
the name on behind UUIDs that are there. -/
theorem assignedDevices_of_misnames (h : Accepted t) (hd : Discovers t fs root name d)
    {token : String} (hm : Misnames t name c.env token) :
    (d.assignedDevices c).result = .error (.deviceNotFound token) ∨
      ∃ before after, (d.assignedDevices c).result = .ok (before ++ token :: after) ∧
        (∀ u ∈ before, ∃ d ∈ listing t, d.uuid = u) ∧ ∀ d ∈ listing t, d.uuid ≠ token := by
  obtain ⟨found, hfound, hperm⟩ := hd.devices.exists_perm_handles h.devices
  obtain ⟨value, hfirst, hlist, hreported⟩ := hm
  rw [assignedDevices_of_entry hd.deviceVariable hfirst, resolveVisible_of_list hlist hfound,
    ← entryUuids_perm hperm (h.nodup_index_handles fs root)]
  cases hreported with
  | index hf => exact Or.inl (entryUuids_of_unknown fs root h hf)
  | uuid hnamed hf =>
    obtain ⟨before, after, he, hno, hb⟩ := hf
    rw [he] at hnamed ⊢
    have hform : ¬ IndexForm token := by
      intro hform
      obtain ⟨e, he⟩ := hnamed token (by simp) hform
      exact hno e he
    -- No index is wrong, so all names are passed on, and this one as it stands.
    obtain ⟨front, hfront⟩ := exists_forall₂ (R := PassedAs t) (l := before)
      fun y hy => exists_passedAs fun hi => hnamed y (by simp [hy]) hi
    obtain ⟨back, hback⟩ := exists_forall₂ (R := PassedAs t) (l := after)
      fun y hy => exists_passedAs fun hi => hnamed y (by simp [hy]) hi
    have hall : List.Forall₂ (PassedAs t) (before ++ token :: after) (front ++ token :: back) :=
      List.rel_append hfront (.cons (.uuid hform) hback)
    refine Or.inr ⟨front, back, entryUuids_of_passedAs fs root h hall, fun u hu => ?_, ?_⟩
    · obtain ⟨y, hy, hp⟩ := exists_of_mem_forall₂ hfront hu
      obtain ⟨e, he⟩ : ∃ e, Names t y e := by simpa using hb y hy
      cases hp with
      | @index e' _ hname => exact ⟨e', hname.1, rfl⟩
      | uuid hi => exact ⟨e, he.1, he.2.2 hi⟩
    · intro e he hu
      exact hno e ⟨he, fun hi => absurd hi hform, fun _ => hu⟩

end Lookup

end GpuPlacement.Numa
