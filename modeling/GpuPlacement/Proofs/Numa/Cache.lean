import GpuPlacement.Proofs.Numa.Fill

/-!
# The node cache

What the operations of the cache (Numa/Cache.lean) do, one lemma for each way they can end, so that
nothing later has to open them.

An entry that is there stays (`Cache.Extends`), and a new one is of a device that was asked for, on
the node that the discoverer reports (`deviceNodes_adds`). Both are read off what filling does to the
table (Proofs/Numa/Fill.lean).
-/

set_option autoImplicit false

namespace GpuPlacement.Numa

/-! ## Replies -/

namespace Reply

variable {α β : Type}

theorem bind_of_ok {r : Reply α} {a : α} (h : r.result = .ok a) (f : α → Reply β) :
    r >>= f = ⟨(f a).result, r.queries ++ (f a).queries⟩ := by
  show Reply.bind r f = _
  rw [Reply.bind, h]

theorem bind_of_error {r : Reply α} {e : Error} (h : r.result = .error e) (f : α → Reply β) :
    r >>= f = ⟨.error e, r.queries⟩ := by
  show Reply.bind r f = _
  rw [Reply.bind, h]

theorem result_map {r : Reply α} (f : α → β) : (f <$> r).result = r.result.map f := by
  show (Reply.bind r (fun a => pure (f a))).result = _
  rw [Reply.bind]
  cases r.result <;> rfl

theorem exists_of_map_eq_ok {r : Reply α} {f : α → β} {b : β} (h : (f <$> r).result = .ok b) :
    ∃ a, r.result = .ok a ∧ f a = b := by
  rw [result_map] at h
  exact GpuPlacement.exists_of_map_eq_ok h

end Reply

/-- A discoverer lists a device of that UUID, on that node. -/
def Discoverer.Reports (d : Discoverer) (uuid : String) (node : Int) : Prop :=
  ∃ devices h, d.devices = .ok devices ∧ findByUuid? devices uuid = some h ∧ h.node = .ok node

namespace Cache

/-! ## Filling the cache -/

theorem tableOf_cons_eq_ok {d : DeviceHandle} {devices : List DeviceHandle} {table : NodeTable}
    (h : tableOf (d :: devices) = .ok table) :
    ∃ node rest, d.node = .ok node ∧ tableOf devices = .ok rest ∧
      table = (d.uuid, node) :: rest := by
  rw [tableOf] at h
  cases hd : d.node with
  | error e =>
    rw [hd] at h
    exact absurd h (by simp [bind, Except.bind])
  | ok node =>
    cases hr : tableOf devices with
    | error e =>
      rw [hd, hr] at h
      exact absurd h (by simp [bind, Except.bind])
    | ok rest =>
      rw [hd, hr] at h
      exact ⟨node, rest, rfl, rfl, (Except.ok.inj h).symm⟩

/-- An entry for a device: its UUID and the node that it reports. -/
def Notes (d : DeviceHandle) (entry : String × Int) : Prop :=
  d.node = .ok entry.2 ∧ entry.1 = d.uuid

section Table

variable {devices : List DeviceHandle} {table : NodeTable}

/-- The table of devices has an entry for each of them, in the same order. -/
theorem tableOf_eq_ok_iff : tableOf devices = .ok table ↔ List.Forall₂ Notes devices table := by
  induction devices generalizing table with
  | nil => simp [tableOf, eq_comm]
  | cons d devices ih =>
    constructor
    · intro h
      obtain ⟨node, rest, hd, hr, rfl⟩ := tableOf_cons_eq_ok h
      exact .cons ⟨hd, rfl⟩ (ih.mp hr)
    · intro h
      cases h with
      | cons hd hrest =>
        rw [tableOf, hd.1, ih.mpr hrest, ← hd.2]
        rfl

theorem exists_tableOf_iff :
    (∃ table, tableOf devices = .ok table) ↔ ∀ d ∈ devices, ∃ node, d.node = .ok node := by
  constructor
  · intro h d hd
    obtain ⟨table, ht⟩ := h
    obtain ⟨entry, -, hentry⟩ := exists_of_mem_forall₂ (tableOf_eq_ok_iff.mp ht).flip hd
    exact ⟨entry.2, hentry.1⟩
  · intro h
    obtain ⟨table, ht⟩ := exists_forall₂ (R := Notes) fun d hd =>
      (h d hd).imp' (Prod.mk d.uuid) fun _ hnode => ⟨hnode, rfl⟩
    exact ⟨table, tableOf_eq_ok_iff.mpr ht⟩

/-- A table can only fail as one of the devices does. -/
theorem failsIn_tableOf {P : Error → Prop} (h : ∀ d ∈ devices, FailsIn P d.node) :
    FailsIn P (tableOf devices) := by
  induction devices with
  | nil => exact failsIn_ok []
  | cons d devices ih =>
    rw [tableOf]
    exact (h d List.mem_cons_self).bind fun node =>
      (ih fun e he => h e (List.mem_cons_of_mem d he)).bind fun table => failsIn_ok _

/-- Devices in another order have the same table, in another order. -/
theorem tableOf_perm {others : List DeviceHandle} (h : devices.Perm others)
    (ht : tableOf devices = .ok table) :
    ∃ table', tableOf others = .ok table' ∧ table.Perm table' := by
  obtain ⟨table', hnotes, hperm⟩ := List.perm_comp_forall₂ h.symm (tableOf_eq_ok_iff.mp ht)
  exact ⟨table', tableOf_eq_ok_iff.mpr hnotes, hperm.symm⟩

theorem map_fst_tableOf (h : tableOf devices = .ok table) :
    table.map Prod.fst = devices.map DeviceHandle.uuid := by
  rw [← List.forall₂_eq_eq_eq, List.forall₂_map_left_iff, List.forall₂_map_right_iff]
  exact ((tableOf_eq_ok_iff.mp h).imp fun _ _ hd => hd.2).flip

/-- In a table with an entry for each UUID, looking up finds the entry. -/
theorem lookup_eq_some_iff (hn : (table.map Prod.fst).Nodup) {uuid : String} {node : Int} :
    table.lookup uuid = some node ↔ (uuid, node) ∈ table := by
  rw [List.lookup_eq_some_iff]
  constructor
  · intro h
    obtain ⟨before, after, rfl, -⟩ := h
    simp
  · intro h
    obtain ⟨before, after, rfl⟩ := List.append_of_mem h
    refine ⟨before, after, rfl, fun entry he => bne_iff_ne.mpr fun hu => ?_⟩
    rw [List.map_append, List.nodup_append] at hn
    exact hn.2.2 entry.1 (List.mem_map_of_mem he) uuid (by simp) hu.symm

theorem lookup_perm {table' : NodeTable} (hn : (table.map Prod.fst).Nodup)
    (h : table.Perm table') (uuid : String) : table.lookup uuid = table'.lookup uuid := by
  refine Option.ext fun node => ?_
  rw [lookup_eq_some_iff hn, lookup_eq_some_iff ((h.map Prod.fst).nodup_iff.mp hn), h.mem_iff]

/-- The table of devices has the node of each of them, and nothing else. -/
theorem lookup_tableOf (h : tableOf devices = .ok table)
    (hn : (devices.map DeviceHandle.uuid).Nodup) :
    (∀ d ∈ devices, ∃ node, d.node = .ok node ∧ table.lookup d.uuid = some node) ∧
      ∀ uuid, uuid ∉ devices.map DeviceHandle.uuid → table.lookup uuid = none := by
  rw [← map_fst_tableOf h] at hn ⊢
  refine ⟨fun d hd => ?_, fun uuid hu => ?_⟩
  · obtain ⟨entry, he, hnode, huuid⟩ := exists_of_mem_forall₂ (tableOf_eq_ok_iff.mp h).flip hd
    exact ⟨entry.2, hnode, (lookup_eq_some_iff hn).mpr (huuid ▸ he)⟩
  · rw [List.lookup_eq_none_iff]
    exact fun entry he => bne_iff_ne.mpr fun heq => hu (List.mem_map.mpr ⟨entry, he, heq.symm⟩)

end Table

/-- Of several devices with one UUID the first counts, in the table as when one is looked for. -/
theorem findByUuid?_of_lookup_tableOf {devices : List DeviceHandle} {table : NodeTable}
    (h : tableOf devices = .ok table) {uuid : String} {node : Int}
    (hl : table.lookup uuid = some node) :
    ∃ d, findByUuid? devices uuid = some d ∧ d.node = .ok node := by
  induction devices generalizing table with
  | nil =>
    obtain rfl := Except.ok.inj h
    exact absurd hl (by simp)
  | cons d devices ih =>
    obtain ⟨first, rest, hd, hr, rfl⟩ := tableOf_cons_eq_ok h
    rw [findByUuid?, List.find?_cons]
    by_cases hu : uuid = d.uuid
    · rw [hu, List.lookup_cons_self, Option.some.injEq] at hl
      exact ⟨d, by rw [beq_iff_eq.mpr hu.symm], hl ▸ hd⟩
    · rw [List.lookup_cons, beq_eq_false_iff_ne.mpr hu] at hl
      rw [beq_eq_false_iff_ne.mpr (Ne.symm hu)]
      exact ih hr hl

/-- Filling the cache succeeds if the system nodes, the devices and all of their nodes are found. -/
theorem discover_eq_ok {system : Except Error (List Int)} {d : Discoverer} {c : Cache}
    (h : (discover system d).result = .ok c) :
    ∃ devices, system = .ok c.systemNodes ∧ d.devices = .ok devices ∧
      tableOf devices = .ok c.nodeTable := by
  unfold discover at h
  cases hs : system with
  | error e =>
    rw [hs, Reply.bind_of_error rfl] at h
    exact absurd h (by simp)
  | ok nodes =>
    rw [hs, Reply.bind_of_ok rfl] at h
    cases hd : d.devices with
    | error e =>
      rw [Reply.bind_of_error hd] at h
      exact absurd h (by simp)
    | ok devices =>
      rw [Reply.bind_of_ok hd] at h
      cases ht : tableOf devices with
      | error e =>
        rw [ht, Reply.bind_of_error rfl] at h
        exact absurd h (by simp)
      | ok table =>
        rw [ht, Reply.bind_of_ok rfl] at h
        obtain rfl := Except.ok.inj h
        exact ⟨devices, rfl, rfl, ht⟩

/-- What a cache is filled from, once the devices are found. -/
theorem result_discover {d : Discoverer} {devices : List DeviceHandle} (hd : d.devices = .ok devices)
    (system : Except Error (List Int)) :
    (discover system d).result = (do
      let systemNodes ← system
      let table ← tableOf devices
      return ⟨systemNodes, table⟩) := by
  unfold discover
  cases system with
  | error e =>
    rw [Reply.bind_of_error rfl]
    rfl
  | ok nodes =>
    rw [Reply.bind_of_ok rfl, Reply.bind_of_ok hd]
    cases ht : tableOf devices with
    | error e =>
      rw [Reply.bind_of_error rfl]
      rfl
    | ok table =>
      rw [Reply.bind_of_ok rfl]
      rfl

theorem exists_discover_iff {d : Discoverer} {devices : List DeviceHandle}
    (hd : d.devices = .ok devices) (system : Except Error (List Int)) :
    (∃ c, (discover system d).result = .ok c) ↔
      (∃ nodes, system = .ok nodes) ∧ ∀ h ∈ devices, ∃ node, h.node = .ok node := by
  rw [result_discover hd, ← exists_tableOf_iff]
  constructor
  · intro h
    obtain ⟨c, hc⟩ := h
    obtain ⟨nodes, hs, hrest⟩ := exists_of_bind_eq_ok hc
    obtain ⟨table, ht, -⟩ := exists_of_bind_eq_ok hrest
    exact ⟨⟨nodes, hs⟩, table, ht⟩
  · intro h
    obtain ⟨⟨nodes, rfl⟩, table, ht⟩ := h
    exact ⟨⟨nodes, table⟩, by rw [ht]; rfl⟩

/-- Filling the cache can only fail as the system nodes or one of the devices do. -/
theorem failsIn_discover {P : Error → Prop} {d : Discoverer} {devices : List DeviceHandle}
    (hd : d.devices = .ok devices) {system : Except Error (List Int)} (hs : FailsIn P system)
    (hn : ∀ h ∈ devices, FailsIn P h.node) : FailsIn P (discover system d).result := by
  rw [result_discover hd]
  exact hs.bind fun nodes => (failsIn_tableOf hn).bind fun table => failsIn_ok _

/-! ## Looking up in the cache -/

/-- All of some values are there, or there is a first that is not. -/
theorem mapM_option_cases {α β : Type} (f : α → Option β) (l : List α) :
    (∃ l', l.mapM f = some l' ∧ l.map f = l'.map some) ∨
      (l.mapM f = none ∧ ∃ before x after, l = before ++ x :: after ∧ f x = none ∧
        ∀ y ∈ before, ∃ v, f y = some v) := by
  induction l with
  | nil => exact Or.inl ⟨[], rfl, rfl⟩
  | cons a l ih =>
    cases ha : f a with
    | none =>
      refine Or.inr ⟨?_, [], a, l, rfl, ha, by simp⟩
      rw [List.mapM_cons, ha]
      rfl
    | some v =>
      rcases ih with ⟨l', hm, hl⟩ | ⟨hm, before, x, after, rfl, hx, hb⟩
      · refine Or.inl ⟨v :: l', ?_, by rw [List.map_cons, ha, hl, List.map_cons]⟩
        rw [List.mapM_cons, ha, hm]
        rfl
      · refine Or.inr ⟨?_, a :: before, x, after, rfl, hx, ?_⟩
        · rw [List.mapM_cons, ha, hm]
          rfl
        · intro y hy
          rcases List.mem_cons.mp hy with rfl | hy
          · exact ⟨v, ha⟩
          · exact hb y hy

/-- A device is missing, or all of them are known. -/
theorem exists_missing_or_known (c : Cache) (uuids : List String) :
    (∃ uuid ∈ uuids, c.cachedNode uuid = none) ∨
      ∃ nodes : List Int, uuids.map c.cachedNode = nodes.map some := by
  rcases mapM_option_cases c.cachedNode uuids with
    ⟨nodes, -, hknown⟩ | ⟨-, before, uuid, after, rfl, hnone, -⟩
  · exact Or.inr ⟨nodes, hknown⟩
  · exact Or.inl ⟨uuid, by simp, hnone⟩

/-- Looking up known devices changes nothing and asks nothing. -/
theorem deviceNodes_of_known {c : Cache} {uuids : List String} {nodes : List Int}
    (h : uuids.map c.cachedNode = nodes.map some) (d : Discoverer) :
    c.deviceNodes d uuids = (pure nodes, c) := by
  have hmapM : uuids.mapM c.cachedNode = some nodes := by
    rcases mapM_option_cases c.cachedNode uuids with
      ⟨nodes', hm, hl⟩ | ⟨-, before, x, after, rfl, hx, -⟩
    · rw [hm, List.map_injective_iff.mpr (Option.some_injective _) (hl.symm.trans h)]
    · obtain ⟨n, -, hn⟩ := exists_of_map_eq_map h (by simp : x ∈ before ++ x :: after)
      exact absurd (hn.trans hx) (by simp)
  rw [deviceNodes, hmapM]

/-- Looking up devices of which one is not known asks for all of them, once. -/
theorem deviceNodes_of_missing {c : Cache} {uuids : List String}
    (h : ∃ uuid ∈ uuids, c.cachedNode uuid = none) (d : Discoverer) :
    c.deviceNodes d uuids = match d.devices with
      | .error e => (⟨.error e, [.devices]⟩, c)
      | .ok devices => (⟨(fill devices c.nodeTable uuids).1, [.devices]⟩,
          ⟨c.systemNodes, (fill devices c.nodeTable uuids).2⟩) := by
  have hmapM : uuids.mapM c.cachedNode = none := by
    rcases mapM_option_cases c.cachedNode uuids with ⟨nodes, -, hl⟩ | ⟨hm, -⟩
    · obtain ⟨uuid, hmem, hnone⟩ := h
      obtain ⟨n, -, hn⟩ := exists_of_map_eq_map hl hmem
      exact absurd (hn.trans hnone) (by simp)
    · exact hm
  rw [deviceNodes, hmapM]
  cases hd : d.devices with
  | error e => simp only [Discoverer.allDevices, Reply.asking, hd]
  | ok devices => simp only [Discoverer.allDevices, Reply.asking, hd]

theorem deviceNodes_of_unknown {c : Cache} {before after : List String} {uuid : String}
    (hb : ∀ u ∈ before, ∃ n, c.cachedNode u = some n) (hu : c.cachedNode uuid = none)
    {d : Discoverer} {devices : List DeviceHandle} (hd : d.devices = .ok devices)
    (hf : findByUuid? devices uuid = none) :
    c.deviceNodes d (before ++ uuid :: after)
      = (⟨.error (.deviceNotFound uuid), [.devices]⟩, c) := by
  rw [deviceNodes_of_missing ⟨uuid, by simp, hu⟩, hd]
  simp only [fill_of_unknown hb hu hf]

/-- A cache of the same system, with at least the devices of another one. -/
structure Extends (c' c : Cache) : Prop where
  systemNodes : c'.systemNodes = c.systemNodes
  kept : ∀ {uuid node}, c.cachedNode uuid = some node → c'.cachedNode uuid = some node

theorem Extends.refl (c : Cache) : c.Extends c := ⟨rfl, id⟩

theorem Extends.trans {c c' c'' : Cache} (h' : c''.Extends c') (h : c'.Extends c) :
    c''.Extends c :=
  ⟨h'.systemNodes.trans h.systemNodes, fun hn => h'.kept (h.kept hn)⟩

section DeviceNodes

variable (c : Cache) (d : Discoverer) (uuids : List String)

/-- A lookup of devices leaves the cache as it is, or fills it from the devices that there are. -/
theorem deviceNodes_cases :
    (∃ nodes, c.deviceNodes d uuids = (pure nodes, c) ∧ uuids.map c.cachedNode = nodes.map some) ∨
    (∃ e, c.deviceNodes d uuids = (⟨.error e, [.devices]⟩, c)) ∨
    ∃ devices, d.devices = .ok devices ∧ c.deviceNodes d uuids
      = (⟨(fill devices c.nodeTable uuids).1, [.devices]⟩,
          ⟨c.systemNodes, (fill devices c.nodeTable uuids).2⟩) := by
  rcases c.exists_missing_or_known uuids with hmiss | ⟨nodes, hknown⟩
  · rw [deviceNodes_of_missing hmiss]
    cases hd : d.devices with
    | error e => exact Or.inr (Or.inl ⟨e, rfl⟩)
    | ok devices => exact Or.inr (Or.inr ⟨devices, rfl, rfl⟩)
  · exact Or.inl ⟨nodes, deviceNodes_of_known hknown d, hknown⟩

theorem deviceNodes_extends : (c.deviceNodes d uuids).2.Extends c := by
  rcases c.deviceNodes_cases d uuids with ⟨nodes, heq, -⟩ | ⟨e, heq⟩ | ⟨devices, -, heq⟩
  · rw [heq]
    exact .refl c
  · rw [heq]
    exact .refl c
  · rw [heq]
    exact ⟨rfl, fill_keeps uuids⟩

variable {c d uuids}

theorem deviceNodes_adds {uuid : String} {node : Int} (hnone : c.cachedNode uuid = none)
    (h : (c.deviceNodes d uuids).2.cachedNode uuid = some node) :
    uuid ∈ uuids ∧ d.Reports uuid node := by
  rcases c.deviceNodes_cases d uuids with ⟨nodes, heq, -⟩ | ⟨e, heq⟩ | ⟨devices, hd, heq⟩
  · rw [heq, hnone] at h
    exact absurd h (by simp)
  · rw [heq, hnone] at h
    exact absurd h (by simp)
  · rw [heq] at h
    obtain ⟨hmem, handle, hf, hn⟩ := fill_adds hnone h
    exact ⟨hmem, devices, handle, hd, hf, hn⟩

theorem deviceNodes_answers {nodes : List Int} (h : (c.deviceNodes d uuids).1.result = .ok nodes) :
    uuids.map (c.deviceNodes d uuids).2.cachedNode = nodes.map some := by
  rcases c.deviceNodes_cases d uuids with ⟨known, heq, hl⟩ | ⟨e, heq⟩ | ⟨devices, hd, heq⟩
  · rw [heq] at h ⊢
    obtain rfl := Except.ok.inj h
    exact hl
  · rw [heq] at h
    exact absurd h (by simp)
  · rw [heq] at h ⊢
    exact fill_answers h

end DeviceNodes

/-! ## Containers -/

theorem resolve_of_base_error {c : Cache} {container : Container} {e : Error}
    (h : c.baseNodes container.mems = .error e) (d : Discoverer) :
    c.resolve d container = (⟨.error e, []⟩, c) := by
  have hlift : (liftM (c.baseNodes container.mems) : Reply (List Int)) = ⟨.error e, []⟩ := by
    rw [h]
    rfl
  unfold resolve
  rw [hlift, Reply.bind_of_error rfl]

theorem resolve_of_assigned_error {c : Cache} {container : Container} {base : List Int} {e : Error}
    (h : c.baseNodes container.mems = .ok base) {d : Discoverer}
    (ha : (d.assignedDevices container).result = .error e) :
    (c.resolve d container).1.result = .error e ∧ (c.resolve d container).2 = c := by
  have hlift : (liftM (c.baseNodes container.mems) : Reply (List Int)) = ⟨.ok base, []⟩ := by
    rw [h]
    rfl
  unfold resolve
  rw [hlift, Reply.bind_of_ok rfl, Reply.bind_of_error ha]
  exact ⟨rfl, rfl⟩

theorem resolve_of_assigned {c : Cache} {container : Container} {base : List Int}
    {uuids : List String} (h : c.baseNodes container.mems = .ok base) {d : Discoverer}
    (ha : (d.assignedDevices container).result = .ok uuids) :
    (c.resolve d container).1.result = (c.deviceNodes d uuids).1.result.map (base ++ ·) ∧
      (c.resolve d container).2 = (c.deviceNodes d uuids).2 := by
  have hlift : (liftM (c.baseNodes container.mems) : Reply (List Int)) = ⟨.ok base, []⟩ := by
    rw [h]
    rfl
  unfold resolve
  rw [hlift, Reply.bind_of_ok rfl, Reply.bind_of_ok ha]
  exact ⟨rfl, rfl⟩

/-- The nodes of a container are those it may keep, and then those of its devices. -/
theorem resolve_eq_ok {c : Cache} {d : Discoverer} {container : Container} {all : List Int}
    (h : (c.resolve d container).1.result = .ok all) :
    ∃ base uuids nodes, c.baseNodes container.mems = .ok base ∧
      (d.assignedDevices container).result = .ok uuids ∧
      (c.deviceNodes d uuids).1.result = .ok nodes ∧ all = base ++ nodes ∧
      (c.resolve d container).2 = (c.deviceNodes d uuids).2 := by
  cases hb : c.baseNodes container.mems with
  | error e =>
    rw [resolve_of_base_error hb] at h
    exact absurd h (by simp)
  | ok base =>
    cases ha : (d.assignedDevices container).result with
    | error e =>
      rw [(resolve_of_assigned_error hb ha).1] at h
      exact absurd h (by simp)
    | ok uuids =>
      obtain ⟨hresult, hcache⟩ := resolve_of_assigned hb ha
      cases hn : (c.deviceNodes d uuids).1.result with
      | error e =>
        rw [hresult, hn] at h
        exact absurd h (by simp [Except.map])
      | ok nodes =>
        rw [hresult, hn] at h
        exact ⟨base, uuids, nodes, rfl, rfl, hn, (Except.ok.inj h).symm, hcache⟩

/-- A container changes the cache by one lookup of its devices, if at all. -/
theorem resolve_cases (c : Cache) (d : Discoverer) (container : Container) :
    (c.resolve d container).2 = c ∨
      ∃ uuids, (d.assignedDevices container).result = .ok uuids ∧
        (c.resolve d container).2 = (c.deviceNodes d uuids).2 := by
  cases hb : c.baseNodes container.mems with
  | error e => exact Or.inl (by rw [resolve_of_base_error hb])
  | ok base =>
    cases ha : (d.assignedDevices container).result with
    | error e => exact Or.inl (resolve_of_assigned_error hb ha).2
    | ok uuids => exact Or.inr ⟨uuids, rfl, (resolve_of_assigned hb ha).2⟩

end Cache
end GpuPlacement.Numa
