import GpuPlacement.Proofs.Numa.Inventory
import GpuPlacement.Proofs.Result

/-!
# The node of a device

Where the node of a GPU comes from, and of its MIG devices with it (Numa/Inventory.lean): a declared
node, or what the file of its bus ID says (Numa/Sysfs.lean). `GpuOn` is what there is to find and
`NoNode` the ways in which it is not found, both read off the topology and the tree and not off the
lookup; `node_eq_ok_iff` and `node_eq_numaNode_iff` say that the lookup finds the one and fails with
the other.

A failed lookup names the device that it was for, but for one cause: a number that can not be read
is met where nothing but the bus ID is known, and is reported under that (`NamedAs`).
-/

set_option autoImplicit false

namespace GpuPlacement

/-! ## Paths -/

namespace Path

variable {base path more : String}

theorem isAbsolute_append (h : path ≠ "") : isAbsolute (path ++ more) = isAbsolute path := by
  obtain ⟨c, cs, hcs⟩ := List.exists_cons_of_ne_nil fun he => h (String.toList_eq_nil_iff.mp he)
  rw [isAbsolute, isAbsolute, String.toList_append, hcs]
  rfl

theorem join_append (h : path ≠ "") : join base (path ++ more) = join base path ++ more := by
  rw [join, join, isAbsolute_append h]
  split
  · rfl
  · split <;> simp only [String.append_assoc]

theorem getLast?_append (h : path ≠ "") (before : String) :
    (before ++ path).toList.getLast? = path.toList.getLast? := by
  have hne : path.toList ≠ [] := fun he => h (String.toList_eq_nil_iff.mp he)
  rw [String.toList_append, List.getLast?_append_of_ne_nil _ hne]

/-- A path that is not empty ends as before, whatever it is seen from. -/
theorem getLast?_join (h : path ≠ "") :
    (join base path).toList.getLast? = path.toList.getLast? := by
  rw [join]
  split
  · rfl
  · split <;> exact getLast?_append h _

theorem isAbsolute_of_notMem (h : '/' ∉ path.toList) : isAbsolute path = false := by
  rw [isAbsolute, beq_eq_false_iff_ne]
  exact fun hhead => h (List.mem_of_head? hhead)

/-- Behind a name there is one slash. -/
theorem join_of_name {c : Char} (hbase : base.toList.getLast? = some c) (hc : c ≠ '/')
    (hpath : '/' ∉ path.toList) : join base path = base ++ "/" ++ path := by
  have hne : base ≠ "" := by
    rintro rfl
    exact absurd hbase (by simp)
  rw [join, isAbsolute_of_notMem hpath, if_neg Bool.false_ne_true, hbase]
  rw [if_neg (by simpa using ⟨hne, hc⟩)]

/-- Behind a slash there is none. -/
theorem join_of_slash (hbase : base.toList.getLast? = some '/') (hpath : '/' ∉ path.toList) :
    join base path = base ++ path := by
  rw [join, isAbsolute_of_notMem hpath, if_neg Bool.false_ne_true, if_pos (by simp [hbase])]

end Path

namespace Numa

/-! ## The file of a bus ID -/

theorem toLower_eq_slash_iff {c : Char} : c.toLower = '/' ↔ c = '/' := by
  constructor
  · intro h
    rw [Char.toLower] at h
    split at h
    · -- What an upper-case letter becomes is beyond all of them, and so beyond the slash.
      rename_i hupper
      have hval : c.val + ('a'.val - 'A'.val) = '/'.val := congrArg Char.val h
      grind
    · exact h
  · rintro rfl
    decide

/-- A bus ID is put into lower case and may lose some zeros, but no character is new. -/
theorem BusId.sublist_normalize (id : String) :
    (BusId.normalize id).toList.Sublist ((Text.trim id.toList).map Char.toLower) := by
  rw [BusId.normalize, String.toList_ofList]
  split
  · exact List.Sublist.refl _
  · rename_i domain rest hsplit
    split
    · rename_i low hlow
      split
      · rw [(Text.splitFirst?_eq_some_iff.mp hsplit).1, Text.dropStart?_eq_some_iff.mp hlow]
        exact (List.sublist_append_right BusId.highZeros low).append_right _
      · exact List.Sublist.refl _
    · exact List.Sublist.refl _

theorem BusId.slash_notMem_normalize {id : String} (h : '/' ∉ id.toList) :
    '/' ∉ (BusId.normalize id).toList := by
  intro hmem
  obtain ⟨c, hc, hlower⟩ := List.mem_map.mp ((BusId.sublist_normalize id).mem hmem)
  obtain rfl := toLower_eq_slash_iff.mp hlower
  exact h (((Text.padded_trim id.toList).mem_iff (by decide)).mp hc)

namespace Sysfs

/-- The path below the root where the kernel says which node a PCI device is on. An empty ID has no
directory of its own. -/
def affinityPath (busId : String) : String :=
  if BusId.normalize busId = "" then "bus/pci/devices/numa_node"
  else "bus/pci/devices/" ++ BusId.normalize busId ++ "/numa_node"

/-- The file of a bus ID without slashes is where its short form in lower case says. -/
theorem nodeFile_eq {busId : String} (h : '/' ∉ busId.toList) (root : String) :
    nodeFile root busId = Path.join root (affinityPath busId) := by
  have hslash := BusId.slash_notMem_normalize h
  have hdevices : (Path.join root "bus/pci/devices").toList.getLast? = some 's' :=
    Path.getLast?_join (by decide)
  have hbelow : ∀ path : String, Path.join root ("bus/pci/devices" ++ path)
      = Path.join root "bus/pci/devices" ++ path := fun path => Path.join_append (by decide)
  rw [nodeFile, Path.join_of_name hdevices (by decide) hslash, affinityPath]
  generalize BusId.normalize busId = name at hslash ⊢
  by_cases hname : name = ""
  · rw [if_pos hname, hname, String.append_empty, Path.join_of_slash (by simp) (by decide),
      String.append_assoc]
    exact (hbelow "/numa_node").symm
  · have hne : name.toList ≠ [] := fun he => hname (String.toList_eq_nil_iff.mp he)
    have hlast := List.getLast?_eq_some_getLast hne
    have hc : name.toList.getLast hne ≠ '/' := fun he => hslash (he ▸ List.getLast_mem hne)
    rw [if_neg hname, Path.join_of_name ((Path.getLast?_append hname _).trans hlast) hc (by decide)]
    have hpath : "bus/pci/devices/" ++ name ++ "/numa_node"
        = "bus/pci/devices" ++ ("/" ++ name ++ "/" ++ "numa_node") := by
      simp [← String.toList_inj]
    rw [hpath, hbelow]
    simp only [String.append_assoc]

example : affinityPath " 00000000:C1:00.0" = "bus/pci/devices/0000:c1:00.0/numa_node" := by decide

/-! ## What the file says -/

/-- The file at a path holds that text, perhaps with blanks around it. -/
def Holds (fs : FileSystem) (path : String) (text : List Char) : Prop :=
  ∃ content, fs.readText path = .ok content ∧ Text.trim content.toList = text

/-- What the kernel answers for a bus ID, by what is at the path of its file. -/
inductive Answers (fs : FileSystem) (path busId : String) : Except Error (Option Int) → Prop
  | missing : fs.readText path = .error .notFound → Answers fs path busId (.ok none)
  | unreadable {e : FileError} : fs.readText path = .error e → e ≠ .notFound →
      Answers fs path busId (.error (.file e))
  | malformed {text : List Char} {e : Text.NumeralError} : Holds fs path text →
      Text.readInt 32 text = .error e →
      Answers fs path busId (.error (.numaNode busId (.malformed (String.ofList text) e)))
  | unattached {text : List Char} {node : Int} : Holds fs path text →
      Text.readInt 32 text = .ok node → node < 0 → Answers fs path busId (.ok none)
  | attached {text : List Char} {node : Int} : Holds fs path text →
      Text.readInt 32 text = .ok node → 0 ≤ node → Answers fs path busId (.ok (some node))

theorem pciNode_eq_iff {fs : FileSystem} {root busId : String}
    {answer : Except Error (Option Int)} :
    pciNode fs root busId = answer ↔ Answers fs (nodeFile root busId) busId answer := by
  constructor
  · rintro rfl
    rw [pciNode]
    cases hread : fs.readText (nodeFile root busId) with
    | error e =>
      cases e with
      | notFound => exact .missing hread
      | _ => exact .unreadable hread (by simp)
    | ok content =>
      have hholds : Holds fs (nodeFile root busId) (Text.trim content.toList) :=
        ⟨content, hread, rfl⟩
      cases hnode : Text.readInt 32 (Text.trim content.toList) with
      | error e =>
        simp only [hnode]
        exact .malformed hholds hnode
      | ok node =>
        simp only [hnode]
        by_cases hnonneg : 0 ≤ node
        · rw [if_pos hnonneg]
          exact .attached hholds hnode hnonneg
        · rw [if_neg hnonneg]
          exact .unattached hholds hnode (Int.not_le.mp hnonneg)
  · intro h
    rw [pciNode]
    cases h with
    | missing hread => rw [hread]
    | @unreadable e hread hne =>
      rw [hread]
      cases e with
      | notFound => exact absurd rfl hne
      | _ => rfl
    | malformed hholds hnumeral =>
      obtain ⟨content, hread, rfl⟩ := hholds
      rw [hread]
      simp only [hnumeral]
    | unattached hholds hnode hneg =>
      obtain ⟨content, hread, rfl⟩ := hholds
      rw [hread]
      simp only [hnode, if_neg (Int.not_le.mpr hneg)]
    | attached hholds hnode hnonneg =>
      obtain ⟨content, hread, rfl⟩ := hholds
      rw [hread]
      simp only [hnode, if_pos hnonneg]

/-- Why the file at a path gives no node, as far as a lookup says so. -/
inductive Lacks (fs : FileSystem) (path : String) : NodeCause → Prop
  | missing : fs.readText path = .error .notFound → Lacks fs path .noAffinity
  | unattached {text : List Char} {node : Int} : Holds fs path text →
      Text.readInt 32 text = .ok node → node < 0 → Lacks fs path .noAffinity
  | malformed {text : List Char} {e : Text.NumeralError} : Holds fs path text →
      Text.readInt 32 text = .error e → Lacks fs path (.malformed (String.ofList text) e)

end Sysfs

/-- The name under which it is reported that the device of a UUID has no node: the bus ID where the
file holds no number, and otherwise the UUID. -/
def NamedAs (busId : Option String) (uuid : String) : NodeCause → String → Prop
  | .malformed _ _, reported => busId = some reported
  | _, reported => reported = uuid

/-! ## Devices that are looked up -/

section LookedUp

variable {d : InventoryDevice} {busId : String} {fs : FileSystem} {root : String}

theorem node_eq_ok_iff_of_pci (h : d.source = .pci busId) {node : Int} :
    d.node fs root = .ok node ↔ ∃ text, Sysfs.Holds fs (Sysfs.nodeFile root busId) text ∧
      Text.readInt 32 text = .ok node ∧ 0 ≤ node := by
  simp only [InventoryDevice.node, h]
  constructor
  · intro hok
    have hanswer := Sysfs.pciNode_eq_iff.mp (rfl : Sysfs.pciNode fs root busId = _)
    generalize Sysfs.pciNode fs root busId = answer at hanswer hok
    cases hanswer with
    | missing | unreadable | malformed | unattached => exact absurd hok (by simp)
    | attached hholds hread hnonneg =>
      obtain rfl := Except.ok.inj hok
      exact ⟨_, hholds, hread, hnonneg⟩
  · intro hx
    obtain ⟨text, hholds, hread, hnonneg⟩ := hx
    simp only [Sysfs.pciNode_eq_iff.mpr (.attached hholds hread hnonneg)]

theorem node_eq_numaNode_iff_of_pci (h : d.source = .pci busId) {reported : String}
    {cause : NodeCause} : d.node fs root = .error (.numaNode reported cause) ↔
      Sysfs.Lacks fs (Sysfs.nodeFile root busId) cause ∧
        NamedAs (some busId) d.uuid cause reported := by
  simp only [InventoryDevice.node, h]
  constructor
  · intro herror
    have hanswer := Sysfs.pciNode_eq_iff.mp (rfl : Sysfs.pciNode fs root busId = _)
    generalize Sysfs.pciNode fs root busId = answer at hanswer herror
    -- Of what sysfs answers only a malformed number is passed on, under the name it has there.
    cases hanswer with
    | missing hread =>
      obtain ⟨rfl, rfl⟩ := Error.numaNode.inj (Except.error.inj herror)
      exact ⟨.missing hread, rfl⟩
    | unreadable => exact absurd (Except.error.inj herror) (by simp)
    | malformed hholds hread =>
      obtain ⟨rfl, rfl⟩ := Error.numaNode.inj (Except.error.inj herror)
      exact ⟨.malformed hholds hread, rfl⟩
    | unattached hholds hread hneg =>
      obtain ⟨rfl, rfl⟩ := Error.numaNode.inj (Except.error.inj herror)
      exact ⟨.unattached hholds hread hneg, rfl⟩
    | attached => exact absurd herror (by simp)
  · intro hx
    obtain ⟨hlacks, hnamed⟩ := hx
    cases hlacks with
    | missing hread =>
      obtain rfl := hnamed
      simp only [Sysfs.pciNode_eq_iff.mpr (.missing hread)]
    | unattached hholds hread hneg =>
      obtain rfl := hnamed
      simp only [Sysfs.pciNode_eq_iff.mpr (.unattached hholds hread hneg)]
    | malformed hholds hread =>
      obtain rfl := Option.some.inj hnamed
      simp only [Sysfs.pciNode_eq_iff.mpr (.malformed hholds hread)]

end LookedUp

/-! ## The devices of a GPU -/

/-- The node of a GPU: a declared one, or the number in the file of its bus ID. -/
inductive GpuOn (fs : FileSystem) (root : String) (g : Gpu) : Int → Prop
  | declared {node : Int} : g.numaNode = some node → GpuOn fs root g node
  | attached {busId : String} {text : List Char} {node : Int} :
      g.numaNode = none → g.busId = some busId →
      Sysfs.Holds fs (Path.join root (Sysfs.affinityPath busId)) text →
      Text.readInt 32 text = .ok node → 0 ≤ node → GpuOn fs root g node

/-- Why a GPU has no node, as far as a lookup of it says so. -/
inductive NoNode (fs : FileSystem) (root : String) (g : Gpu) : NodeCause → Prop
  | negative {node : Int} : g.numaNode = some node → node < 0 → NoNode fs root g .negative
  | noSource : g.numaNode = none → g.busId = none → NoNode fs root g .noSource
  | lacking {busId : String} {cause : NodeCause} : g.numaNode = none → g.busId = some busId →
      Sysfs.Lacks fs (Sysfs.nodeFile root busId) cause → NoNode fs root g cause

section Devices

variable {g : Gpu} {d : InventoryDevice} {fs : FileSystem} {root : String}

theorem source_of_mem_gpuInventory (h : d ∈ gpuInventory g) : d.source = nodeSource g := by
  rcases List.mem_cons.mp h with rfl | h
  · rfl
  · obtain ⟨i, hi, rfl⟩ := List.mem_mapIdx.mp h
    rfl

theorem uuid_mem_of_mem_gpuInventory (h : d ∈ gpuInventory g) : d.uuid ∈ g.uuids :=
  map_uuid_gpuInventory g ▸ List.mem_map_of_mem h

/-- A device has its node from where the GPU has it. -/
theorem source_cases (h : d ∈ gpuInventory g) :
    (∃ node, g.numaNode = some node ∧ d.source = .declared node) ∨
    (g.numaNode = none ∧ g.busId = none ∧ d.source = .unknown) ∨
    ∃ busId, g.numaNode = none ∧ g.busId = some busId ∧ d.source = .pci busId := by
  rw [source_of_mem_gpuInventory h, nodeSource]
  cases hn : g.numaNode with
  | some node => exact Or.inl ⟨node, rfl, rfl⟩
  | none =>
    cases hb : g.busId with
    | none => exact Or.inr (Or.inl ⟨rfl, rfl, rfl⟩)
    | some busId => exact Or.inr (Or.inr ⟨busId, rfl, rfl, rfl⟩)

/-- A GPU and its MIG devices are on the node of the GPU. -/
theorem node_eq_ok_iff (h : d ∈ gpuInventory g) (hnode : ∀ node ∈ g.numaNode, 0 ≤ node)
    (hbus : ∀ busId ∈ g.busId, '/' ∉ busId.toList) {node : Int} :
    d.node fs root = .ok node ↔ GpuOn fs root g node := by
  rcases source_cases h with ⟨declared, hn, hs⟩ | ⟨hn, hb, hs⟩ | ⟨busId, hn, hb, hs⟩
  · rw [InventoryDevice.node, hs]
    simp only [if_pos (hnode declared hn)]
    constructor
    · intro hok
      obtain rfl := Except.ok.inj hok
      exact .declared hn
    · intro hon
      cases hon with
      | declared hn' => rw [Option.some.inj (hn.symm.trans hn')]
      | attached hn' => exact absurd (hn.symm.trans hn') (by simp)
  · rw [InventoryDevice.node, hs]
    refine iff_of_false (by simp) fun hon => ?_
    cases hon with
    | declared hn' => exact absurd (hn.symm.trans hn') (by simp)
    | attached _ hb' => exact absurd (hb.symm.trans hb') (by simp)
  · rw [node_eq_ok_iff_of_pci hs, Sysfs.nodeFile_eq (hbus busId hb)]
    constructor
    · intro hx
      obtain ⟨text, hholds, hread, hnonneg⟩ := hx
      exact .attached hn hb hholds hread hnonneg
    · intro hon
      cases hon with
      | declared hn' => exact absurd (hn.symm.trans hn') (by simp)
      | attached _ hb' hholds hread hnonneg =>
        obtain rfl := Option.some.inj (hb.symm.trans hb')
        exact ⟨_, hholds, hread, hnonneg⟩

/-- If their node is not found, then for a reason that the GPU has. -/
theorem node_eq_numaNode_iff (h : d ∈ gpuInventory g) {reported : String} {cause : NodeCause} :
    d.node fs root = .error (.numaNode reported cause) ↔
      NoNode fs root g cause ∧ NamedAs g.busId d.uuid cause reported := by
  rcases source_cases h with ⟨declared, hn, hs⟩ | ⟨hn, hb, hs⟩ | ⟨busId, hn, hb, hs⟩
  · simp only [InventoryDevice.node, hs]
    constructor
    · intro herror
      split at herror
      · exact absurd herror (by simp)
      · obtain ⟨rfl, rfl⟩ := Error.numaNode.inj (Except.error.inj herror)
        exact ⟨.negative hn (by omega), rfl⟩
    · intro hx
      obtain ⟨hno, hnamed⟩ := hx
      cases hno with
      | negative hn' hneg =>
        obtain rfl := Option.some.inj (hn.symm.trans hn')
        obtain rfl := hnamed
        rw [if_neg (by omega)]
      | noSource hn' | lacking hn' => exact absurd (hn.symm.trans hn') (by simp)
  · simp only [InventoryDevice.node, hs]
    constructor
    · intro herror
      obtain ⟨rfl, rfl⟩ := Error.numaNode.inj (Except.error.inj herror)
      exact ⟨.noSource hn hb, rfl⟩
    · intro hx
      obtain ⟨hno, hnamed⟩ := hx
      cases hno with
      | negative hn' => exact absurd (hn.symm.trans hn') (by simp)
      | noSource =>
        obtain rfl := hnamed
        rfl
      | lacking _ hb' => exact absurd (hb.symm.trans hb') (by simp)
  · rw [node_eq_numaNode_iff_of_pci hs, hb]
    refine and_congr_left' ⟨fun hlacks => .lacking hn hb hlacks, fun hno => ?_⟩
    cases hno with
    | negative hn' => exact absurd (hn.symm.trans hn') (by simp)
    | noSource _ hb' => exact absurd (hb.symm.trans hb') (by simp)
    | lacking _ hb' hlacks =>
      obtain rfl := Option.some.inj (hb.symm.trans hb')
      exact hlacks

end Devices

end Numa
end GpuPlacement
