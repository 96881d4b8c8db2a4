import GpuPlacement.Commands
import GpuPlacement.Proofs.Numa.Placement
import GpuPlacement.Proofs.Numa.Written

/-!
# Constraints read back

A constraint that the filter gives for a container may come back as the one that the container has,
and the command that shows the nodes of a container reads it at once. Both read what was written
(Proofs/Numa/Written.lean), so both depend on the size of the nodes: the file of a topology, the
sysfs file of a PCI device and the name of a node directory all allow numbers of 32 bits, and a node
list has only 16. With smaller nodes everywhere each constraint is read back
(`StartedAt.exists_parse_constraint`); one node that is larger makes all constraints with it
unreadable (`readsBack_largeNode`).
-/

set_option autoImplicit false

namespace GpuPlacement.Numa

/-- What reading the constraint for some nodes comes to: the set of them, if a node list can name
them all, and an error about the constraint otherwise. -/
structure ReadsBack (nodes : List Int) (mems : String) : Prop where
  readable : (∃ back, NodeList.parse mems = .ok back) ↔ ∀ n ∈ nodes, Readable n
  same : ∀ back, NodeList.parse mems = .ok back →
    back.Pairwise (· < ·) ∧ ∀ n, n ∈ back ↔ n ∈ nodes
  refused : ∀ e, NodeList.parse mems = .error e → ∃ cause, e = .invalidNodeList mems cause

theorem readsBack_written (nodes : List Int) : ReadsBack nodes (written nodes) := by
  by_cases h : ∀ n ∈ nodes, Readable n
  · have hparse := NodeList.parse_written h
    refine ⟨iff_of_true ⟨_, hparse⟩ h, fun back hback => ?_, fun e he => ?_⟩
    · rw [hparse] at hback
      obtain rfl := Except.ok.inj hback
      exact ⟨NodeList.sortedDistinct_ascending nodes, fun n => NodeList.mem_sortedDistinct⟩
    · rw [hparse] at he
      exact absurd he (by simp)
  · have hlarge : ∃ n ∈ nodes, ¬ Readable n := by simpa using h
    obtain ⟨cause, hparse⟩ := NodeList.parse_written_error hlarge
    refine ⟨iff_of_false (fun hok => ?_) h, fun back hback => ?_, fun e he => ?_⟩
    · obtain ⟨back, hback⟩ := hok
      rw [hparse] at hback
      exact absurd hback (by simp)
    · rw [hparse] at hback
      exact absurd hback (by simp)
    · rw [hparse] at he
      exact ⟨cause, (Except.error.inj he).symm⟩

/-! ## The hooks -/

/-- A constraint is the nodes of the container, written. -/
theorem adjust_eq_some {f : Filter} {d : Discoverer} {container : Container} {mems : String}
    (h : (f.adjust d container).1.result = .ok (some mems)) :
    ∃ nodes, (f.resolve d container).1.result = .ok nodes ∧ nodes ≠ [] ∧ mems = written nodes := by
  obtain ⟨nodes, hnodes, hconstraint⟩ := Reply.exists_of_map_eq_ok (f := Filter.constraint) h
  refine ⟨nodes, hnodes, ?_⟩
  rw [constraint_eq] at hconstraint
  by_cases hnil : nodes = []
  · rw [if_pos hnil] at hconstraint
    exact absurd hconstraint (by simp)
  · rw [if_neg hnil] at hconstraint
    exact ⟨hnil, (Option.some.inj hconstraint).symm⟩

/-! ## The command -/

section Command

variable (fs : FileSystem) (c : Config) (t : Topology)

/-- The discoverer of the command that shows the nodes of a container. -/
def commandDiscoverer : Discoverer :=
  inventoryDiscoverer t fs c.numa.sysfsRoot c.numa.deviceVariable

/-- The start of its filter. -/
def commandStart : Reply Unit × Filter :=
  Filter.new.start (Sysfs.systemNodes fs c.numa.sysfsRoot) (commandDiscoverer fs c t)

/-- The command has a topology, a filter that has been started, and the nodes of the container. -/
structure CommandFinds (id : String) (mems visible : Option String) (nodes : List Int) : Prop where
  accepted : checkedTopology fs c.topology.path = .ok t
  started : (commandStart fs c t).1.result = .ok ()
  resolved : ((commandStart fs c t).2.resolve (commandDiscoverer fs c t)
    (Commands.containerOf c id mems visible)).1.result = .ok nodes

variable {fs c t} {id : String} {mems visible : Option String} {nodes : List Int}

/-- Once the nodes are found, all that can fail is reading them back. -/
theorem CommandFinds.resolveNodes (h : CommandFinds fs c t id mems visible nodes) :
    Commands.resolveNodes fs c t (Commands.containerOf c id mems visible)
      = (NodeList.parse (written nodes)).map fun back =>
          (nodes.map toString, NodeList.format back) := by
  have hstarted := h.started
  have hresolved := h.resolved
  unfold commandStart commandDiscoverer at hstarted hresolved
  unfold Commands.resolveNodes
  simp only [hstarted, hresolved, bind, Except.bind, written]
  cases NodeList.parse (String.intercalate "," (nodes.map toString)) <;> rfl

/-- A hook of the filter joins the nodes that the command finds. -/
theorem CommandFinds.createContainer (h : CommandFinds fs c t id mems visible nodes) :
    ((commandStart fs c t).2.createContainer (commandDiscoverer fs c t)
      (Commands.containerOf c id mems visible)).1.result = .ok (Filter.constraint nodes) :=
  (Reply.result_map Filter.constraint).trans
    (congrArg (Except.map Filter.constraint) h.resolved)

theorem CommandFinds.numaNodes_of_parse_ok (h : CommandFinds fs c t id mems visible nodes)
    {back : List Int} (hparse : NodeList.parse (written nodes) = .ok back) (json : Bool) :
    ∃ output, Commands.numaNodes fs c id mems visible json = .ok output := by
  have hresolve := h.resolveNodes
  rw [hparse] at hresolve
  unfold Commands.numaNodes
  simp only [h.accepted, hresolve, Except.map, Except.mapError, bind, Except.bind]
  cases json <;> exact ⟨_, rfl⟩

theorem CommandFinds.numaNodes_of_parse_error (h : CommandFinds fs c t id mems visible nodes)
    {e : Error} (hparse : NodeList.parse (written nodes) = .error e) (json : Bool) :
    Commands.numaNodes fs c id mems visible json = .error (.numa e) := by
  have hresolve := h.resolveNodes
  rw [hparse] at hresolve
  unfold Commands.numaNodes
  simp only [h.accepted, hresolve, Except.map, Except.mapError, bind, Except.bind]

/-- The command ends well exactly if the nodes can be read back, and otherwise reports that they can
not. -/
theorem CommandFinds.numaNodes (h : CommandFinds fs c t id mems visible nodes) (json : Bool) :
    ((∃ output, Commands.numaNodes fs c id mems visible json = .ok output) ↔
        ∀ n ∈ nodes, Readable n) ∧
      ∀ problem, Commands.numaNodes fs c id mems visible json = .error problem →
        ∃ cause, problem = .numa (.invalidNodeList (written nodes) cause) := by
  have hback := readsBack_written nodes
  rw [← hback.readable]
  cases hparse : NodeList.parse (written nodes) with
  | ok back =>
    obtain ⟨output, hout⟩ := h.numaNodes_of_parse_ok hparse json
    refine ⟨iff_of_true ⟨output, hout⟩ ⟨back, rfl⟩, fun problem hp => ?_⟩
    rw [hout] at hp
    exact absurd hp (by simp)
  | error e =>
    have hout := h.numaNodes_of_parse_error hparse json
    obtain ⟨cause, rfl⟩ := hback.refused e hparse
    refine ⟨iff_of_false ?_ (by simp), fun problem hp => ⟨cause, ?_⟩⟩
    · rw [hout]
      simp
    · rw [hout] at hp
      exact (Except.error.inj hp).symm

end Command

/-- **What comes of reading a constraint back**, whatever the node and the container. A hook that
gives a constraint has found nodes for the container, and the constraint reads back as these nodes
exactly if a node list can name them all. The command that has found nodes ends well exactly if a
node list can name them all. -/
theorem constraint_readsBack (f : Filter) (d : Discoverer) (container : Container)
    (fs : FileSystem) (c : Config) (t : Topology) (id : String) (given visible : Option String)
    (json : Bool) :
    (∀ mems, (f.createContainer d container).1.result = .ok (some mems) ∨
        (f.updateContainer d container).1.result = .ok (some mems) →
      ∃ nodes, (f.resolve d container).1.result = .ok nodes ∧ nodes ≠ [] ∧
        mems = written nodes ∧ ReadsBack nodes mems) ∧
      ∀ nodes, CommandFinds fs c t id given visible nodes →
        ((∃ output, Commands.numaNodes fs c id given visible json = .ok output) ↔
            ∀ n ∈ nodes, Readable n) ∧
          ∀ problem, Commands.numaNodes fs c id given visible json = .error problem →
            ∃ cause, problem = .numa (.invalidNodeList (written nodes) cause) := by
  refine ⟨fun mems h => ?_, fun nodes h => h.numaNodes json⟩
  have hadjust : (f.adjust d container).1.result = .ok (some mems) := by
    rcases h with hcreate | hupdate
    · exact hcreate
    · exact hupdate
  obtain ⟨nodes, hnodes, hne, rfl⟩ := adjust_eq_some hadjust
  exact ⟨nodes, hnodes, hne, rfl, readsBack_written nodes⟩

/-- Node directories that are listed in order need no sorting. -/
theorem systemNodes_of_ascending {fs : FileSystem} {root : String} {names : List String}
    {nodes : List Int} (hlist : fs.list (Sysfs.nodeDir root) = .ok names)
    (hnodes : Sysfs.nodesWithCpus fs (Sysfs.nodeDir root) names = .ok nodes)
    (hasc : nodes.Pairwise (· ≤ ·)) : Sysfs.systemNodes fs root = .ok nodes := by
  rw [Sysfs.systemNodes]
  simp only [hlist, hnodes]
  rw [List.mergeSort_of_pairwise (hasc.imp decide_eq_true)]

/-- The file of `migTopology`. -/
def migFile : String :=
  "[[device]]\nindex = 0\nuuid = \"GPU-0\"\nnuma_node = 0\n" ++
    "[[device.migs]]\nuuid = \"MIG-0\"\n[[device.migs]]\nuuid = \"MIG-1\"\n" ++
    "[[device]]\nindex = 1\nuuid = \"GPU-1\"\npci_bus_id = \"0000:41:00.0\"\n"

/-- The tree of `treeWith`, and that file where the default configuration looks for it. -/
def diskWith (node : String) : FileSystem where
  readText path :=
    if path = ({} : Config).topology.path then .ok migFile else (treeWith node).readText path
  list := (treeWith node).list

theorem checkedTopology_diskWith (node : String) :
    checkedTopology (diskWith node) ({} : Config).topology.path = .ok migTopology := by
  have hfile : Topology.ofFile (diskWith node) ({} : Config).topology.path = .ok migTopology := by
    show Topology.ofToml migFile = _
    decide +kernel
  obtain ⟨devices, hd⟩ := accepted_migTopology.devices
  rw [checkedTopology, hfile]
  show (migTopology.devices >>= fun _ => _) = _
  rw [hd]
  rfl

theorem systemNodes_diskWith (node : String) :
    Sysfs.systemNodes (diskWith node) ({} : Config).numa.sysfsRoot = .ok [0, 1] :=
  systemNodes_of_ascending rfl rfl (by decide)

/-- For a container that sees the second GPU the command finds what the filter resolves. -/
theorem commandFinds_diskWith {node : String} {nodes : List Int}
    (h : let d := commandDiscoverer (diskWith node) {} migTopology
      let start := Filter.new.start (.ok [0, 1]) d
      start.1.result = .ok () ∧
        (start.2.resolve d (Commands.containerOf {} "cli" none (some "1"))).1.result = .ok nodes) :
    CommandFinds (diskWith node) {} migTopology "cli" none (some "1") nodes := by
  refine ⟨checkedTopology_diskWith node, ?_, ?_⟩
  · rw [commandStart, systemNodes_diskWith]
    exact h.1
  · rw [commandStart, systemNodes_diskWith]
    exact h.2

theorem commandFinds_large :
    CommandFinds (diskWith "70000\n") {} migTopology "cli" none (some "1") [0, 1, 70000] :=
  commandFinds_diskWith (by decide +kernel)

theorem commandFinds_small :
    CommandFinds (diskWith "1\n") {} migTopology "cli" none (some "1") [0, 1, 1] :=
  commandFinds_diskWith (by decide +kernel)

/-- The node of the GPU is too large for a node list, or it is small enough. -/
theorem constraint_readsBack_diskWith :
    ((commandStart (diskWith "70000\n") {} migTopology).2.createContainer
        (commandDiscoverer (diskWith "70000\n") {} migTopology)
        (Commands.containerOf {} "cli" none (some "1"))).1.result = .ok (some "0,1,70000") ∧
      ReadsBack [0, 1, 70000] "0,1,70000" ∧
      CommandFinds (diskWith "70000\n") {} migTopology "cli" none (some "1") [0, 1, 70000] ∧
      (¬ ∃ output,
        Commands.numaNodes (diskWith "70000\n") {} "cli" none (some "1") false = .ok output) ∧
      CommandFinds (diskWith "1\n") {} migTopology "cli" none (some "1") [0, 1, 1] ∧
      ∃ output, Commands.numaNodes (diskWith "1\n") {} "cli" none (some "1") false = .ok output := by
  have hmems := commandFinds_large.createContainer
  rw [show Filter.constraint [0, 1, 70000] = some "0,1,70000" by decide] at hmems
  have hreads := fun fs => constraint_readsBack
    (commandStart (diskWith "70000\n") {} migTopology).2
    (commandDiscoverer (diskWith "70000\n") {} migTopology)
    (Commands.containerOf {} "cli" none (some "1")) fs {} migTopology "cli" none (some "1") false
  obtain ⟨nodes, hnodes, -, -, hback⟩ := (hreads (diskWith "70000\n")).1 _ (Or.inl hmems)
  obtain rfl := Except.ok.inj (hnodes.symm.trans commandFinds_large.resolved)
  refine ⟨hmems, hback, commandFinds_large, fun hout => ?_, commandFinds_small, ?_⟩
  · exact absurd (((hreads _).2 _ commandFinds_large).1.mp hout) (by decide)
  · exact ((hreads _).2 _ commandFinds_small).1.mpr (by decide)

/-- A GPU whose node needs more than 16 bits is placed on it, and its constraint is unreadable. -/
theorem readsBack_largeNode :
    let fs := diskWith "70000\n"
    let d := inventoryDiscoverer migTopology fs "/sys" "NVIDIA_VISIBLE_DEVICES"
    let start := Filter.new.start (Sysfs.systemNodes fs "/sys") d
    let container : Container := ⟨"cli", ["NVIDIA_VISIBLE_DEVICES=1"], none⟩
    (∃ devices, migTopology.devices = .ok devices) ∧ start.1.result = .ok () ∧
      (start.2.createContainer d container).1.result = .ok (some "0,1,70000") ∧
      NodeList.parse "0,1,70000"
        = .error (.invalidNodeList "0,1,70000" (.invalidNode "70000" .tooLarge)) ∧
      (start.2.resolve d container).1.result = .ok [0, 1, 70000] ∧
      Commands.resolveNodes fs {} migTopology container
        = .error (.invalidNodeList "0,1,70000" (.invalidNode "70000" .tooLarge)) ∧
      ∀ json, Commands.numaNodes fs {} "cli" none (some "1") json
        = .error (.numa (.invalidNodeList "0,1,70000" (.invalidNode "70000" .tooLarge))) := by
  have hparse : NodeList.parse (written [0, 1, 70000])
      = .error (.invalidNodeList "0,1,70000" (.invalidNode "70000" .tooLarge)) := by
    decide +kernel
  have hresolve := commandFinds_large.resolveNodes
  rw [hparse] at hresolve
  exact ⟨accepted_migTopology.devices, commandFinds_large.started,
    commandFinds_large.createContainer.trans (by decide), hparse, commandFinds_large.resolved,
    hresolve, fun json => commandFinds_large.numaNodes_of_parse_error hparse json⟩

/-! ## Nodes that are small enough -/

namespace StartedAt

variable {t : Topology} {fs later : FileSystem} {root name : String} {d : Discoverer} {c : Cache}

/-- If a node list can name the system nodes and the nodes of all devices, every constraint is read
back. -/
theorem exists_parse_constraint (h : Accepted t) (hc : StartedAt t fs root c)
    (hd : Discovers t later root name d) (hsystem : ∀ n ∈ c.systemNodes, Readable n)
    (hdevices : ∀ e ∈ listing t, ∀ n, e.node fs root = .ok n → Readable n)
    {container : Container} {mems : String}
    (hok : ((Filter.mk (some c)).adjust d container).1.result = .ok (some mems)) :
    ∃ back, NodeList.parse mems = .ok back := by
  rcases memNodes_or_error container.mems with ⟨named, hmem⟩ | ⟨text, e, hmems, hp⟩
  · rcases sees_or_misnames t name container.env with ⟨devices, hsees⟩ | ⟨token, hmis⟩
    · obtain ⟨nodes, hnodes, hall⟩ := hc.adjust_of_sees h hd hmem hsees
      have hdev : ∀ n ∈ nodes, ∃ e ∈ devices, e.node fs root = .ok n := by
        intro n hn
        have hmem : (.ok n : Except Error Int) ∈ nodes.map .ok := List.mem_map_of_mem hn
        rw [← hnodes] at hmem
        exact List.mem_map.mp hmem
      rw [hall] at hok
      by_cases hnil : baseNodes c.systemNodes named ++ nodes = []
      · rw [if_pos hnil] at hok
        exact absurd (Except.ok.inj hok) (by simp)
      · rw [if_neg hnil] at hok
        obtain rfl := Option.some.inj (Except.ok.inj hok)
        refine (readsBack_written (baseNodes c.systemNodes named ++ nodes)).readable.mpr ?_
        intro n hn
        rcases List.mem_append.mp hn with hn | hn
        · exact hsystem n (baseNodes_subset _ _ hn)
        · obtain ⟨e, he, hnode⟩ := hdev n hn
          exact hdevices e (hsees.listed e he) n hnode
    · rw [hc.adjust_of_misnames h hd hmem hmis] at hok
      exact absurd hok (by simp)
  · obtain ⟨cause, hbad⟩ := adjust_of_invalid (c := c) (d := d) hmems hp
    rw [hbad] at hok
    exact absurd hok (by simp)

end StartedAt

end GpuPlacement.Numa
