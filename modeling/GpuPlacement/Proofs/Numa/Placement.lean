import GpuPlacement.Proofs.Numa.NodeList
import GpuPlacement.Proofs.Numa.Visible

/-!
# Placement on a started node

The filter over the devices of a topology and a sysfs tree, once it has been started: what it
answers for a container, whatever has been asked of it since and however the tree has changed. Each
time the devices may be reported in another order (`Discovers`).

A start that succeeds has found the node of every device (`StartedAt`). Later lookups find all
that there is in the cache and nothing anywhere else, so neither the cache nor an answer depends
on what sysfs says later, or on the order of the devices.
-/

set_option autoImplicit false

namespace GpuPlacement.Numa

/-- A cache that knows the node that every device had at the start, and nothing else. -/
structure StartedAt (t : Topology) (fs : FileSystem) (root : String) (c : Cache) : Prop where
  known : ∀ d ∈ listing t, ∃ node, d.node fs root = .ok node ∧ c.cachedNode d.uuid = some node
  only : ∀ uuid, (∀ d ∈ listing t, d.uuid ≠ uuid) → c.cachedNode uuid = none

/-- The nodes that a container is constrained to, none if it is not. -/
inductive MemNodes : Option String → List Int → Prop
  | unset : MemNodes none []
  | parsed {mems : String} {nodes : List Int} :
      NodeList.parse mems = .ok nodes → MemNodes (some mems) nodes

/-- The system nodes among those of a constraint, or all of them if there are none. -/
def baseNodes (system named : List Int) : List Int :=
  if named.filter (· ∈ system) = [] then system else named.filter (· ∈ system)

/-- The answer of a filter for a container, on a node that was started at `fs`. -/
structure AnswersFor (t : Topology) (name : String) (fs : FileSystem) (root : String)
    (system : List Int) (c : Container) (answer : Except Error (Option String)) : Prop where
  /-- The constraint so far is refused exactly if it can not be read. -/
  invalid : (∃ input cause, answer = .error (.invalidNodeList input cause)) ↔
    ∃ mems e, c.mems = some mems ∧ NodeList.parse mems = .error e
  /-- Otherwise, if the environment names a device that is not there, that name is reported. -/
  unknown : ∀ named, MemNodes c.mems named → ∀ token, Misnames t name c.env token →
    answer = .error (.deviceNotFound token)
  /-- Otherwise the container sees some devices, and the answer joins the nodes that it may keep
  and those that its devices had at the start; no nodes are no constraint. -/
  placed : ∀ named, MemNodes c.mems named → (∀ token, ¬ Misnames t name c.env token) →
    named.Pairwise (· < ·) ∧ (∃ devices, Sees t name c.env devices) ∧
      ∀ devices, Sees t name c.env devices → ∃ nodes : List Int,
        devices.map (fun d => d.node fs root) = nodes.map .ok ∧
          answer = .ok (if baseNodes system named ++ nodes = [] then none
            else some (String.intercalate "," ((baseNodes system named ++ nodes).map toString)))

/-! ## Started caches -/

section Started

variable {t : Topology} {fs later : FileSystem} {root name : String} {d : Discoverer} {c : Cache}

theorem startedAt_of_discover (h : Accepted t) (hd : Discovers t fs root name d)
    {system : Except Error (List Int)} (hc : (Cache.discover system d).result = .ok c) :
    system = .ok c.systemNodes ∧ StartedAt t fs root c := by
  obtain ⟨devices, hdevices, hperm⟩ := hd.devices.exists_perm_handles h.devices
  obtain ⟨found, hs, hfound, ht⟩ := Cache.discover_eq_ok hc
  obtain rfl := Except.ok.inj (hdevices.symm.trans hfound)
  have huuids : (devices.map DeviceHandle.uuid).Perm ((listing t).map InventoryDevice.uuid) := by
    refine (hperm.map DeviceHandle.uuid).symm.trans ?_
    rw [map_uuid_handles]
    exact (inventory_perm_listing t).map InventoryDevice.uuid
  obtain ⟨hknown, honly⟩ := Cache.lookup_tableOf ht (huuids.nodup_iff.mpr h.nodup_uuids)
  refine ⟨hs, fun e he => hknown _ (hperm.mem_iff.mp (mem_handles.mpr ⟨e, he, rfl⟩)),
    fun uuid hu => honly uuid ?_⟩
  rw [huuids.mem_iff, List.mem_map]
  intro hx
  obtain ⟨e, he, rfl⟩ := hx
  exact hu e he rfl

namespace StartedAt

theorem exists_cachedNode (hc : StartedAt t fs root c) {uuid : String}
    (hu : ∃ d ∈ listing t, d.uuid = uuid) : ∃ node, c.cachedNode uuid = some node := by
  obtain ⟨d, hd, rfl⟩ := hu
  obtain ⟨node, -, hnode⟩ := hc.known d hd
  exact ⟨node, hnode⟩

/-- Devices that are there have the nodes of the start. -/
theorem deviceNodes_of_listed (hc : StartedAt t fs root c) {devices : List InventoryDevice}
    (hl : ∀ d ∈ devices, d ∈ listing t) :
    ∃ nodes, devices.map (fun d => d.node fs root) = nodes.map .ok ∧
      ∀ d : Discoverer, c.deviceNodes d (devices.map InventoryDevice.uuid) = (pure nodes, c) := by
  obtain ⟨nodes, hnodes, hcached⟩ : ∃ nodes : List Int,
      devices.map (fun d => d.node fs root) = nodes.map .ok ∧
        (devices.map InventoryDevice.uuid).map c.cachedNode = nodes.map some := by
    induction devices with
    | nil => exact ⟨[], rfl, rfl⟩
    | cons d devices ih =>
      obtain ⟨nodes, hnodes, hcached⟩ := ih fun e he => hl e (List.mem_cons_of_mem _ he)
      obtain ⟨node, hnode, hknown⟩ := hc.known d (hl d List.mem_cons_self)
      refine ⟨node :: nodes, ?_, ?_⟩
      · rw [List.map_cons, List.map_cons, hnode, hnodes]
      · rw [List.map_cons, List.map_cons, List.map_cons, hknown, hcached]
  exact ⟨nodes, hnodes, fun d => Cache.deviceNodes_of_known hcached d⟩

/-- The first UUID that is not there is reported, and nothing is remembered. -/
theorem deviceNodes_of_unlisted (h : Accepted t) (hc : StartedAt t fs root c)
    (hd : Discovers t later root name d) {before after : List String} {uuid : String}
    (hb : ∀ u ∈ before, ∃ e ∈ listing t, e.uuid = u) (hu : ∀ e ∈ listing t, e.uuid ≠ uuid) :
    c.deviceNodes d (before ++ uuid :: after)
      = (⟨.error (.deviceNotFound uuid), [.devices]⟩, c) := by
  obtain ⟨devices, hdevices, hperm⟩ := hd.devices.exists_perm_handles h.devices
  exact Cache.deviceNodes_of_unknown (fun u hm => hc.exists_cachedNode (hb u hm)) (hc.only uuid hu)
    hdevices (findByUuid?_eq_none hperm hu)

/-- No lookup changes the cache. -/
theorem deviceNodes_snd (h : Accepted t) (hc : StartedAt t fs root c)
    (hd : Discovers t later root name d) (uuids : List String) : (c.deviceNodes d uuids).2 = c := by
  -- A lookup fails at the first UUID that is not there, or finds all in the cache.
  rcases first_or_forall_not (fun u => ∀ e ∈ listing t, e.uuid ≠ u) uuids with
    ⟨uuid, before, after, rfl, hu, hb⟩ | hall
  · rw [hc.deviceNodes_of_unlisted h hd (fun u hm => by simpa using hb u hm) hu]
  · obtain ⟨devices, hnamed⟩ := exists_forall₂ (R := fun u e => e ∈ listing t ∧ e.uuid = u)
      (l := uuids) fun u hm => by simpa using hall u hm
    have huuids : devices.map InventoryDevice.uuid = uuids := by
      induction hnamed with
      | nil => rfl
      | cons hr _ ih =>
        rw [List.map_cons, hr.2, ih fun u hm => hall u (List.mem_cons_of_mem _ hm)]
    have hlisted : ∀ e ∈ devices, e ∈ listing t := by
      intro e hm
      obtain ⟨u, -, hr⟩ := exists_of_mem_forall₂ hnamed hm
      exact hr.1
    obtain ⟨nodes, -, hlook⟩ := hc.deviceNodes_of_listed hlisted
    rw [← huuids, hlook]

/-- A started filter stays as it is, whatever it is asked and whatever sysfs says. -/
theorem run (h : Accepted t) (hc : StartedAt t fs root c) {calls : List (Moment × FilterCall)}
    (hcalls : ∀ call ∈ calls, ∃ now, Discovers t now root name call.1.discoverer) :
    (Filter.mk (some c)).run calls = ⟨some c⟩ := by
  induction calls with
  | nil => rfl
  | cons call calls ih =>
    obtain ⟨now, hd⟩ := hcalls call List.mem_cons_self
    have hstep : (Filter.mk (some c)).step call.1 call.2 = ⟨some c⟩ := by
      rcases Filter.step_cases ⟨some c⟩ call.1 call.2 with
        hsame | ⟨hnone, -⟩ | ⟨c', uuids, hsome, -, hlook⟩
      · exact hsame
      · exact absurd hnone (by simp)
      · obtain rfl := Option.some.inj hsome
        rw [hlook]
        exact congrArg (fun c => Filter.mk (some c)) (hc.deviceNodes_snd h hd uuids)
    rw [Filter.run_cons, hstep]
    exact ih fun call hm => hcalls call (List.mem_cons_of_mem _ hm)

end StartedAt

/-! ## Answers -/

/-- A constraint is read, or it can not be. -/
theorem memNodes_or_error (mems : Option String) :
    (∃ named, MemNodes mems named) ∨
      ∃ text e, mems = some text ∧ NodeList.parse text = .error e := by
  cases mems with
  | none => exact Or.inl ⟨[], .unset⟩
  | some text =>
    cases hp : NodeList.parse text with
    | ok nodes => exact Or.inl ⟨nodes, .parsed hp⟩
    | error e => exact Or.inr ⟨text, e, rfl, hp⟩

theorem MemNodes.ascending {mems : Option String} {named : List Int} (h : MemNodes mems named) :
    named.Pairwise (· < ·) := by
  cases h with
  | unset => exact .nil
  | parsed hp => exact NodeList.parse_ascending hp

theorem baseNodes_subset (system named : List Int) : baseNodes system named ⊆ system := by
  unfold baseNodes
  split
  · exact List.Subset.refl _
  · exact fun n hn => of_decide_eq_true (List.mem_filter.mp hn).2

theorem baseNodes_of_memNodes (c : Cache) {mems : Option String} {named : List Int}
    (h : MemNodes mems named) : c.baseNodes mems = .ok (baseNodes c.systemNodes named) := by
  have hkept : (if (named.filter fun n => c.systemNodes.contains n).isEmpty then c.systemNodes
      else named.filter fun n => c.systemNodes.contains n) = baseNodes c.systemNodes named := by
    simp only [baseNodes, List.contains_eq_mem, List.isEmpty_iff]
  cases h with
  | unset => exact congrArg Except.ok hkept
  | parsed hp =>
    rw [Cache.baseNodes, hp]
    exact congrArg Except.ok hkept

theorem baseNodes_of_error (c : Cache) {text : String} {e : Error}
    (h : NodeList.parse text = .error e) : c.baseNodes (some text) = .error e := by
  rw [Cache.baseNodes, h]
  rfl

/-- A hook of a started filter joins what the cache resolves. -/
theorem result_adjust (c : Cache) (d : Discoverer) (container : Container) :
    ((Filter.mk (some c)).adjust d container).1.result
      = (c.resolve d container).1.result.map Filter.constraint :=
  Reply.result_map Filter.constraint

namespace StartedAt

/-- A container that names a device that is not there is refused with that name. -/
theorem adjust_of_misnames (h : Accepted t) (hc : StartedAt t fs root c)
    (hd : Discovers t later root name d) {container : Container} {named : List Int}
    (hmem : MemNodes container.mems named) {token : String}
    (hmis : Misnames t name container.env token) :
    ((Filter.mk (some c)).adjust d container).1.result = .error (.deviceNotFound token) := by
  have hbase := baseNodes_of_memNodes c hmem
  rw [result_adjust]
  rcases assignedDevices_of_misnames h hd hmis with ha | ⟨before, after, ha, hb, hu⟩
  · rw [(Cache.resolve_of_assigned_error hbase ha).1]
    rfl
  · rw [(Cache.resolve_of_assigned hbase ha).1, hc.deviceNodes_of_unlisted h hd hb hu]
    rfl

/-- A container that sees devices keeps the nodes it may keep and gets those of its devices. -/
theorem adjust_of_sees (h : Accepted t) (hc : StartedAt t fs root c)
    (hd : Discovers t later root name d) {container : Container} {named : List Int}
    (hmem : MemNodes container.mems named) {devices : List InventoryDevice}
    (hsees : Sees t name container.env devices) :
    ∃ nodes : List Int, devices.map (fun e => e.node fs root) = nodes.map .ok ∧
      ((Filter.mk (some c)).adjust d container).1.result
        = .ok (if baseNodes c.systemNodes named ++ nodes = [] then none
            else some (String.intercalate ","
              ((baseNodes c.systemNodes named ++ nodes).map toString))) := by
  obtain ⟨nodes, hnodes, hlook⟩ := hc.deviceNodes_of_listed hsees.listed
  refine ⟨nodes, hnodes, ?_⟩
  rw [result_adjust, (Cache.resolve_of_assigned (baseNodes_of_memNodes c hmem)
    (assignedDevices_of_sees h hd hsees)).1, hlook]
  show Except.ok (Filter.constraint (baseNodes c.systemNodes named ++ nodes)) = _
  simp only [Filter.constraint, List.isEmpty_iff]

/-- A container whose constraint can not be read is refused before anything is asked. -/
theorem adjust_of_invalid {container : Container} {text : String} {e : Error}
    (hmems : container.mems = some text) (hp : NodeList.parse text = .error e) :
    ∃ cause, ((Filter.mk (some c)).adjust d container).1.result
      = .error (.invalidNodeList text cause) := by
  obtain ⟨cause, rfl⟩ := NodeList.parse_error hp
  have hbase : c.baseNodes container.mems = .error (.invalidNodeList text cause) := by
    rw [hmems]
    exact baseNodes_of_error c hp
  refine ⟨cause, ?_⟩
  rw [result_adjust, Cache.resolve_of_base_error hbase]
  rfl

/-- A filter that was started at `fs` gives the answers for that node. -/
theorem answersFor (h : Accepted t) (hc : StartedAt t fs root c)
    (hd : Discovers t later root name d) (container : Container) :
    AnswersFor t name fs root c.systemNodes container
      ((Filter.mk (some c)).adjust d container).1.result := by
  have hsees := sees_or_misnames t name container.env
  refine ⟨⟨?_, ?_⟩, ?_, ?_⟩
  · -- Once the constraint is read, no answer complains about it.
    intro hx
    obtain ⟨input, cause, he⟩ := hx
    rcases memNodes_or_error container.mems with ⟨named, hmem⟩ | herr
    · rcases hsees with ⟨devices, hsees⟩ | ⟨token, hmis⟩
      · obtain ⟨nodes, -, hok⟩ := hc.adjust_of_sees h hd hmem hsees
        rw [hok] at he
        exact absurd he (by simp)
      · rw [hc.adjust_of_misnames h hd hmem hmis] at he
        exact absurd he (by simp)
    · exact herr
  · intro hx
    obtain ⟨text, e, hmems, hp⟩ := hx
    obtain ⟨cause, he⟩ := adjust_of_invalid hmems hp
    exact ⟨text, cause, he⟩
  · intro named hmem token hmis
    exact hc.adjust_of_misnames h hd hmem hmis
  · intro named hmem hno
    refine ⟨hmem.ascending, ?_, fun devices hs => hc.adjust_of_sees h hd hmem hs⟩
    rcases hsees with hsees | ⟨token, hmis⟩
    · exact hsees
    · exact absurd hmis (hno token)

end StartedAt

end Started

/-- **Placement end to end.** Over an accepted topology and a sysfs tree, a filter whose start has
succeeded answers every container, being created or updated, by the system nodes and the device
nodes of the start: after any calls and any changes of the tree, and in whatever order the devices
were reported at the start, at each of these calls and now. -/
theorem filter_answersFor {t : Topology} (h : Accepted t) {systemRoot root name : String}
    {fs later : FileSystem} {first d : Discoverer} (hfirst : Discovers t fs root name first)
    (hstart : (Filter.new.start (Sysfs.systemNodes fs systemRoot) first).1.result = .ok ())
    {calls : List (Moment × FilterCall)}
    (hcalls : ∀ call ∈ calls, ∃ now, Discovers t now root name call.1.discoverer)
    (hd : Discovers t later root name d) (container : Container) :
    let f := (Filter.new.start (Sysfs.systemNodes fs systemRoot) first).2.run calls
    ∃ system, Sysfs.systemNodes fs systemRoot = .ok system ∧
      AnswersFor t name fs root system container (f.createContainer d container).1.result ∧
      AnswersFor t name fs root system container (f.updateContainer d container).1.result := by
  intro f
  cases hc : (Cache.discover (Sysfs.systemNodes fs systemRoot) first).result with
  | error e =>
    have hfails := (Filter.start_of_error (f := Filter.new) rfl hc).1
    rw [hfails] at hstart
    exact absurd hstart (by simp)
  | ok c =>
    obtain ⟨hsystem, hstarted⟩ := startedAt_of_discover h hfirst hc
    have hf : f = ⟨some c⟩ := by
      have hs := (Filter.start_of_ok (f := Filter.new) rfl hc).2
      show (Filter.new.start (Sysfs.systemNodes fs systemRoot) first).2.run calls = _
      rw [hs]
      exact hstarted.run h hcalls
    refine ⟨c.systemNodes, hsystem, ?_, ?_⟩
    · rw [hf]
      exact hstarted.answersFor h hd container
    · rw [hf]
      exact hstarted.answersFor h hd container

/-- Two GPUs, one with a declared node and MIG devices, and one whose node is looked up. -/
def migTopology : Topology where
  gpus := [
    ⟨0, "GPU-0", none, some 0, [⟨"MIG-0"⟩, ⟨"MIG-1"⟩]⟩,
    ⟨1, "GPU-1", some "0000:41:00.0", none, []⟩]
  links := []

/-- A tree with two system nodes whose PCI devices are all on one node. -/
def treeWith (node : String) : FileSystem where
  readText path := if path.toList.getLast? = some 'e' then .ok node else .ok "0-3"
  list _ := .ok ["node0", "node1"]

theorem accepted_migTopology : Accepted migTopology where
  devices := by
    refine ⟨[⟨0, "GPU-0", none, .empty⟩, ⟨1, "GPU-1", some "0000:41:00.0", .empty⟩], ?_⟩
    rw [Topology.devices, Topology.byIndex, List.mergeSort_of_pairwise (by decide)]
    rfl
  gpus := by decide
  migs := by decide

theorem discovers_reverse {t : Topology} (h : Accepted t) (fs : FileSystem) (root name : String) :
    Discovers t fs root name ⟨.ok (handles t fs root).reverse, name⟩ := by
  refine ⟨?_, rfl⟩
  rw [devices_inventoryDiscoverer h.devices]
  exact .ok (List.reverse_perm _).symm

/-- A device is moved to another node between the start and the container, and from then on the
devices are reported in reverse. -/
theorem filter_answersFor_migTopology :
    let first := inventoryDiscoverer migTopology (treeWith "1\n") "/sys" "GPUS"
    let d : Discoverer := ⟨.ok (handles migTopology (treeWith "0\n") "/sys").reverse, "GPUS"⟩
    let container : Container := ⟨"c", ["GPUS=1,0:1"], some "0-7"⟩
    let start := Filter.new.start (Sysfs.systemNodes (treeWith "1\n") "/sys") first
    let f := start.2.run [(⟨.ok [], d⟩, .start), (⟨.ok [], d⟩, .createContainer container)]
    Discovers migTopology (treeWith "1\n") "/sys" "GPUS" first ∧ start.1.result = .ok () ∧
      Discovers migTopology (treeWith "0\n") "/sys" "GPUS" d ∧
      ∃ system, Sysfs.systemNodes (treeWith "1\n") "/sys" = .ok system ∧
        AnswersFor migTopology "GPUS" (treeWith "1\n") "/sys" system container
          (f.createContainer d container).1.result ∧
        AnswersFor migTopology "GPUS" (treeWith "1\n") "/sys" system container
          (f.updateContainer d container).1.result := by
  intro first d container start f
  have hfirst := discovers_inventoryDiscoverer migTopology (treeWith "1\n") "/sys" "GPUS"
  have hd := discovers_reverse accepted_migTopology (treeWith "0\n") "/sys" "GPUS"
  have hstart : start.1.result = .ok () := rfl
  refine ⟨hfirst, hstart, hd, filter_answersFor accepted_migTopology hfirst hstart ?_ hd container⟩
  intro call hcall
  exact ⟨treeWith "0\n", by rcases List.mem_pair.mp hcall with rfl | rfl <;> exact hd⟩

end GpuPlacement.Numa
