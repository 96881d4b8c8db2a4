import GpuPlacement.Numa.Sysfs
import GpuPlacement.Proofs.Result
import GpuPlacement.Proofs.Text.Numeral

/-!
# The system nodes, said without the listing

`Sysfs.systemNodes` (Numa/Sysfs.lean) goes through the node directory entry by entry. What it finds
depends on the entries that stand for a node (`NodeEntry`) and on what their lists of processors
say (`HasCpus`), and on nothing else: not on the order in which the entries are listed, and not on
what else there is.
-/

set_option autoImplicit false

namespace GpuPlacement.Numa.Sysfs

/-- The list of processors of an entry of the node directory. -/
def cpuList (root name : String) : String := Path.join (Path.join (nodeDir root) name) "cpulist"

/-- An entry that stands for a node: `node` and a numeral of 32 bits with a sign. -/
def NodeEntry (name : String) (node : Int) : Prop :=
  ∃ numeral, name.toList = "node".toList ++ numeral ∧ Text.SignedNumeral numeral node ∧
    -(2 ^ 31) ≤ node ∧ node < 2 ^ 31

/-- An entry that stands for a node with processors: its list can be read and is not blank. -/
def HasCpus (fs : FileSystem) (root name : String) (node : Int) : Prop :=
  NodeEntry name node ∧ ∃ cpus, fs.readText (cpuList root name) = .ok cpus ∧
    ∃ c ∈ cpus.toList, Text.isBlank c = false

variable {fs : FileSystem} {root name : String} {names : List String}

theorem nodeId?_eq_some_iff {node : Int} : nodeId? name = some node ↔ NodeEntry name node := by
  have hread : ∀ digits : List Char, (Text.readInt 32 digits).toOption = some node ↔
      Text.readInt 32 digits = .ok node := by
    intro digits
    cases Text.readInt 32 digits <;> simp [Except.toOption]
  rw [nodeId?, Option.bind_eq_some_iff]
  simp only [Text.dropStart?_eq_some_iff, hread, Text.readInt_eq_ok_iff]
  exact Iff.rfl

/-! ## One entry at a time -/

/-- The node that an entry adds to those found, if its list can be read. -/
def found? (fs : FileSystem) (root name : String) : Option Int :=
  match nodeId? name, fs.readText (cpuList root name) with
  | some node, .ok cpus => if (Text.trim cpus.toList).isEmpty then none else some node
  | _, _ => none

theorem found?_eq_some_iff {node : Int} :
    found? fs root name = some node ↔ HasCpus fs root name node := by
  rw [HasCpus, ← nodeId?_eq_some_iff, found?]
  cases hid : nodeId? name with
  | none => simp
  | some id =>
    cases hread : fs.readText (cpuList root name) with
    | error e => simp
    | ok cpus =>
      have hblank : (Text.trim cpus.toList).isEmpty = true ↔
          ¬ ∃ c ∈ cpus.toList, Text.isBlank c = false := by
        rw [List.isEmpty_iff, Text.trim_eq_nil_iff]
        simp
      by_cases hcpus : ∃ c ∈ cpus.toList, Text.isBlank c = false
      · simp only [if_neg (hblank.not_left.mpr hcpus)]
        simpa using fun _ => hcpus
      · simp only [if_pos (hblank.mpr hcpus)]
        simpa using fun _ => hcpus

/-- The lists of the entries that stand for a node can all be read. -/
def AllReadable (fs : FileSystem) (root : String) (names : List String) : Prop :=
  ∀ name ∈ names, ∀ node, NodeEntry name node →
    ∃ cpus, fs.readText (cpuList root name) = .ok cpus

/-- An entry that stands for a node whose list can not be read, and why. -/
def Unreadable (fs : FileSystem) (root : String) (names : List String) (node : Int)
    (cause : FileError) : Prop :=
  ∃ name ∈ names, NodeEntry name node ∧ fs.readText (cpuList root name) = .error cause

theorem AllReadable.not_unreadable (h : AllReadable fs root names) {node : Int} {cause : FileError} :
    ¬ Unreadable fs root names node cause := by
  rintro ⟨name, hmem, hnode, hread⟩
  obtain ⟨cpus, hok⟩ := h name hmem node hnode
  exact absurd (hread.symm.trans hok) (by simp)

/-- Each entry adds what it stands for, or the first list that can not be read is reported. -/
theorem nodesWithCpus_cases (fs : FileSystem) (root : String) (names : List String) :
    (AllReadable fs root names ∧
      nodesWithCpus fs (nodeDir root) names = .ok (names.filterMap (found? fs root))) ∨
    ∃ node cause, Unreadable fs root names node cause ∧
      nodesWithCpus fs (nodeDir root) names = .error (.unreadableCpus node cause) := by
  induction names with
  | nil => exact Or.inl ⟨by simp [AllReadable], rfl⟩
  | cons name names ih =>
    have hlater : ∀ {node cause}, Unreadable fs root names node cause →
        Unreadable fs root (name :: names) node cause := by
      rintro node cause ⟨name', hmem, h⟩
      exact ⟨name', List.mem_cons_of_mem _ hmem, h⟩
    rw [nodesWithCpus, List.filterMap_cons, found?, AllReadable, List.forall_mem_cons]
    cases hid : nodeId? name with
    | none =>
      have hno : ∀ node, ¬ NodeEntry name node := fun node h => by
        rw [nodeId?_eq_some_iff.mpr h] at hid
        exact absurd hid (by simp)
      rcases ih with ⟨hall, hok⟩ | ⟨node, cause, hbad, herror⟩
      · exact Or.inl ⟨⟨fun node h => absurd h (hno node), hall⟩, hok⟩
      · exact Or.inr ⟨node, cause, hlater hbad, herror⟩
    | some node =>
      have hnode := nodeId?_eq_some_iff.mp hid
      rw [← cpuList]
      cases hread : fs.readText (cpuList root name) with
      | error cause =>
        exact Or.inr ⟨node, cause, ⟨name, List.mem_cons_self, hnode, hread⟩, rfl⟩
      | ok cpus =>
        rcases ih with ⟨hall, hok⟩ | ⟨node', cause, hbad, herror⟩
        · refine Or.inl ⟨⟨fun _ _ => ⟨cpus, rfl⟩, hall⟩, ?_⟩
          simp only [hok]
          split <;> rfl
        · refine Or.inr ⟨node', cause, hlater hbad, ?_⟩
          simp only [herror]
          rfl

/-! ## The nodes of a directory -/

/-- What is found in a directory that can be listed. -/
theorem systemNodes_cases (hlist : fs.list (nodeDir root) = .ok names) :
    (AllReadable fs root names ∧ ∃ nodes, systemNodes fs root = .ok nodes ∧
      nodes.Pairwise (· ≤ ·) ∧ nodes.Perm (names.filterMap (found? fs root))) ∨
    ∃ node cause, Unreadable fs root names node cause ∧
      systemNodes fs root = .error (.systemNodes (.unreadableCpus node cause)) := by
  simp only [systemNodes, hlist]
  rcases nodesWithCpus_cases fs root names with ⟨hall, hok⟩ | ⟨node, cause, hbad, herror⟩
  · rw [hok]
    refine Or.inl ⟨hall, _, rfl, ?_, List.mergeSort_perm _ _⟩
    exact List.pairwise_mergeSort' (· ≤ ·) _
  · rw [herror]
    exact Or.inr ⟨node, cause, hbad, rfl⟩

open Classical in
/-- An entry is found as often as it stands for a node with processors. -/
theorem count_filterMap_found? (fs : FileSystem) (root : String) (names : List String)
    (node : Int) : (names.filterMap (found? fs root)).count node
      = names.countP (HasCpus fs root · node) := by
  rw [List.count, List.countP_filterMap]
  refine List.countP_congr fun name _ => ?_
  rw [decide_eq_true_iff, ← found?_eq_some_iff]
  cases found? fs root name <;> simp

open Classical in
theorem systemNodes_eq_ok (hlist : fs.list (nodeDir root) = .ok names) {nodes : List Int}
    (h : systemNodes fs root = .ok nodes) : AllReadable fs root names ∧ nodes.Pairwise (· ≤ ·) ∧
      ∀ node, nodes.count node = names.countP (HasCpus fs root · node) := by
  rcases systemNodes_cases hlist with ⟨hall, nodes', hok, hasc, hperm⟩ | ⟨node, cause, -, herror⟩
  · obtain rfl := Except.ok.inj (hok.symm.trans h)
    exact ⟨hall, hasc, fun node => by rw [hperm.count_eq, count_filterMap_found?]⟩
  · exact absurd (herror.symm.trans h) (by simp)

/-! ## Directories with the same nodes -/

/-- Two directories with the same nodes: each entry that stands for one is in both of them, and
its list answers alike. Other entries and the order of the listing may differ. -/
def SameNodes (root : String) (fs fs' : FileSystem) (names names' : List String) : Prop :=
  ∀ name node, NodeEntry name node → names'.count name = names.count name ∧
    fs'.readText (cpuList root name) = fs.readText (cpuList root name)

namespace SameNodes

variable {fs' : FileSystem} {names' : List String}

/-- The same files, listed in another order. -/
theorem of_perm (h : names'.Perm names) (hread : fs'.readText = fs.readText) :
    SameNodes root fs fs' names names' :=
  fun name _ _ => ⟨h.count_eq name, by rw [hread]⟩

theorem hasCpus_iff (h : SameNodes root fs fs' names names') {node : Int} :
    HasCpus fs' root name node ↔ HasCpus fs root name node :=
  and_congr_right fun hnode => by rw [(h name node hnode).2]

theorem allReadable (h : SameNodes root fs fs' names names') (hall : AllReadable fs root names) :
    AllReadable fs' root names' := by
  intro name hmem node hnode
  obtain ⟨hcount, hread⟩ := h name node hnode
  rw [hread]
  exact hall name (List.count_pos_iff.mp (hcount ▸ List.count_pos_iff.mpr hmem)) node hnode

open Classical in
theorem countP_eq (h : SameNodes root fs fs' names names') (node : Int) :
    names'.countP (HasCpus fs' root · node) = names.countP (HasCpus fs root · node) := by
  have hperm : (names'.filter (HasCpus fs' root · node)).Perm
      (names.filter (HasCpus fs root · node)) := by
    rw [List.perm_iff_count]
    intro name
    simp only [h.hasCpus_iff]
    by_cases hcpus : HasCpus fs root name node
    · rw [List.count_filter (by simpa using hcpus), List.count_filter (by simpa using hcpus)]
      exact (h name node hcpus.1).1
    · rw [List.count_eq_zero_of_not_mem, List.count_eq_zero_of_not_mem] <;> simp [hcpus]
  rw [List.countP_eq_length_filter, List.countP_eq_length_filter, hperm.length_eq]

end SameNodes

/-- Ascending lists that hold each number equally often are the same. -/
theorem eq_of_count_eq {l l' : List Int} (hl : l.Pairwise (· ≤ ·)) (hl' : l'.Pairwise (· ≤ ·))
    (h : ∀ n, l.count n = l'.count n) : l = l' :=
  (List.perm_iff_count.mpr h).eq_of_pairwise (fun _ _ _ _ => Int.le_antisymm) hl hl'

open Classical in
/-- **The system nodes.** They are found if the list of each node can be read, and otherwise one
that can not is reported. What is found ascends and holds a node once for each entry that stands for
it and has processors; so it is the same for all directories with the same nodes, in whatever order
they are listed. -/
theorem systemNodes_exact {fs : FileSystem} {root : String} {names : List String}
    (hlist : fs.list (nodeDir root) = .ok names) :
    ((∃ nodes, systemNodes fs root = .ok nodes) ↔ AllReadable fs root names) ∧
    (∀ e, systemNodes fs root = .error e → ∃ node cause, Unreadable fs root names node cause ∧
      e = .systemNodes (.unreadableCpus node cause)) ∧
    (∀ nodes, systemNodes fs root = .ok nodes → nodes.Pairwise (· ≤ ·) ∧
      ∀ node, nodes.count node = names.countP (HasCpus fs root · node)) ∧
    ∀ fs' names', fs'.list (nodeDir root) = .ok names' → SameNodes root fs fs' names names' →
      ∀ nodes, systemNodes fs root = .ok nodes → systemNodes fs' root = .ok nodes := by
  refine ⟨⟨fun h => ?_, fun hall => ?_⟩, fun e he => ?_, fun nodes h => ?_, ?_⟩
  · obtain ⟨nodes, h⟩ := h
    exact (systemNodes_eq_ok hlist h).1
  · rcases systemNodes_cases hlist with ⟨-, nodes, hok, -⟩ | ⟨node, cause, hbad, -⟩
    · exact ⟨nodes, hok⟩
    · exact absurd hbad hall.not_unreadable
  · rcases systemNodes_cases hlist with ⟨-, nodes, hok, -⟩ | ⟨node, cause, hbad, herror⟩
    · exact absurd (hok.symm.trans he) (by simp)
    · exact ⟨node, cause, hbad, (Except.error.inj (herror.symm.trans he)).symm⟩
  · exact (systemNodes_eq_ok hlist h).2
  · intro fs' names' hlist' hsame nodes h
    obtain ⟨hall, hasc, hcount⟩ := systemNodes_eq_ok hlist h
    rcases systemNodes_cases hlist' with ⟨-, nodes', hok, -⟩ | ⟨node, cause, hbad, -⟩
    · obtain ⟨-, hasc', hcount'⟩ := systemNodes_eq_ok hlist' hok
      rw [hok, eq_of_count_eq hasc' hasc fun node => by
        rw [hcount', hcount, hsame.countP_eq]]
    · exact absurd hbad (hsame.allReadable hall).not_unreadable

/-- Nodes 10, 1 and 2, listed in that order with a file between them. Node 1 has no processors. -/
def unsortedNodes : FileSystem where
  readText path :=
    if path = "/sys/devices/system/node/node1/cpulist" then .ok "\n"
    else if path = "/sys/devices/system/node/possible/cpulist" then .error .notADirectory
    else .ok "0-15\n"
  list _ := .ok ["node10", "possible", "node1", "node2"]

/-- Node 2 stands before node 10, and does so if they are listed the other way round. -/
theorem systemNodes_exact_unsorted :
    let names := ["node10", "possible", "node1", "node2"]
    let reversed : FileSystem := { unsortedNodes with list := fun _ => .ok names.reverse }
    unsortedNodes.list (nodeDir "/sys") = .ok names ∧ AllReadable unsortedNodes "/sys" names ∧
      systemNodes unsortedNodes "/sys" = .ok [2, 10] ∧ systemNodes reversed "/sys" = .ok [2, 10] := by
  intro names reversed
  have hlist : unsortedNodes.list (nodeDir "/sys") = .ok names := rfl
  have hfound : nodesWithCpus unsortedNodes (nodeDir "/sys") names = .ok [10, 2] := by
    decide +kernel
  have hok : systemNodes unsortedNodes "/sys" = .ok [2, 10] := by
    simp only [systemNodes, hlist, hfound]
    cbv
  obtain ⟨hsucceeds, -, -, hsame⟩ := systemNodes_exact hlist
  exact ⟨hlist, hsucceeds.mp ⟨_, hok⟩, hok,
    hsame reversed names.reverse rfl (.of_perm (List.reverse_perm names) rfl) _ hok⟩

end GpuPlacement.Numa.Sysfs
