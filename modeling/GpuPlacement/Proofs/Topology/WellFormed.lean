import GpuPlacement.Proofs.Device.Set
import GpuPlacement.Proofs.Policy.Points
import GpuPlacement.Proofs.Topology.Devices

/-!
# Well-formed topologies

`Topology.devices` (Topology.lean) sorts the GPUs by index and then checks each of them against its
position, which says nothing by itself about the file. What it accepts is a property of the file in
any order (`WellFormed`), and what it makes of an accepted file is as well (`Describes`).

The indices are where the two meet: sorted indices that count up from zero are, before sorting,
those numbers in some order, and the only sorted list of those numbers is the one that counts up.

Since the links of a pair are the same from both ends, no pair score faults on links with one side.
What is left of `pairScore` is its sum, a number of 32 bits: two GPUs have to be joined by more than
three and a half million links before their points do not fit. A file may do that, since nothing
bounds the number of its links, and then a score faults all the same (`scoreOverflow_bundled`).
-/

set_option autoImplicit false

namespace GpuPlacement

/-- A topology that follows the rules of a node description. -/
structure WellFormed (t : Topology) : Prop where
  /-- The indices are `0`, `1` and so on, in some order. -/
  indices : (t.gpus.map Gpu.index).Perm (List.range t.gpus.length)
  nodes : ∀ g ∈ t.gpus, ∀ node ∈ g.numaNode, 0 ≤ node
  /-- All UUIDs, of GPUs and MIG devices, are different. -/
  uuids : (t.gpus.flatMap Gpu.uuids).Nodup
  links : ∀ l ∈ t.links, l.a ≠ l.b ∧ l.a < t.gpus.length ∧ l.b < t.gpus.length

/-- The devices of a topology, and the links between them. -/
structure Describes (t : Topology) (devices : List Device) : Prop where
  length : devices.length = t.gpus.length
  /-- At each position is the GPU with that index. -/
  entry : ∀ i d, devices[i]? = some d →
    ∃ g ∈ t.gpus, g.index = i ∧ d.index = i ∧ d.uuid = g.uuid ∧ d.busId = g.busId
  /-- The links to a peer are those of all entries that join the two, in file order. -/
  linksTo : ∀ i d, devices[i]? = some d → ∀ j,
    d.linksTo j = (t.links.filter (·.joins i j)).flatMap LinkEntry.types
  symmetric : ∀ a ∈ devices, ∀ b ∈ devices, a.linksTo b.index = b.linksTo a.index
  noLoop : ∀ d ∈ devices, d.linksTo d.index = []
  noStranger : ∀ d ∈ devices, ∀ j, devices.length ≤ j → d.linksTo j = []
  /-- No pair is found to disagree on its links: its score is the sum of their points, and it faults
  exactly if that sum needs more than 32 bits. -/
  score : ∀ a ∈ devices, ∀ b ∈ devices, pairScore (some a) (some b)
    = if pairPoints a b ≤ Text.maxU32 then .ok (pairPoints a b) else .error .scoreOverflow
  /-- With no more links than this the sum never does. -/
  scored : ∀ a ∈ devices, ∀ b ∈ devices, (a.linksTo b.index).length ≤ Text.maxU32 / 1200 →
    pairScore (some a) (some b) = .ok (pairPoints a b)

namespace Topology

/-! ## What is accepted -/

theorem pairwise_byIndex (t : Topology) : t.byIndex.Pairwise fun g h => g.index ≤ h.index :=
  pairwise_mergeSort_le Gpu.index t.gpus

/-- Sorted indices count up exactly if the indices are the first numbers. -/
theorem map_index_byIndex_eq_iff (t : Topology) :
    t.byIndex.map Gpu.index = List.range t.gpus.length ↔
      (t.gpus.map Gpu.index).Perm (List.range t.gpus.length) := by
  have hperm : (t.byIndex.map Gpu.index).Perm (t.gpus.map Gpu.index) := t.byIndex_perm.map _
  constructor
  · intro h
    rw [← h]
    exact hperm.symm
  · intro h
    have hsorted : (t.byIndex.map Gpu.index).Pairwise (· ≤ ·) :=
      List.pairwise_map.mpr t.pairwise_byIndex
    exact (hperm.trans h).eq_of_pairwise (fun _ _ _ _ => Nat.le_antisymm) hsorted
      List.pairwise_le_range

theorem checkGpus_byIndex_iff (t : Topology) :
    checkGpus 0 [] t.byIndex = .ok () ↔
      (t.gpus.map Gpu.index).Perm (List.range t.gpus.length) ∧
        (∀ g ∈ t.gpus, ∀ node ∈ g.numaNode, 0 ≤ node) ∧ (t.gpus.flatMap Gpu.uuids).Nodup := by
  have hperm := t.byIndex_perm
  rw [checkGpus_eq_ok_iff, ← List.range_eq_range', hperm.length_eq, map_index_byIndex_eq_iff,
    (hperm.flatMap_right Gpu.uuids).nodup_iff]
  simp only [hperm.mem_iff, List.not_mem_nil, not_false_eq_true, implies_true, and_true]

/-- Links are made if each of them joins two different devices of the list. -/
theorem addLinks_eq_ok_iff {entries : List LinkEntry} {devices : List Device} :
    (∃ made, addLinks devices entries = .ok made) ↔
      ∀ l ∈ entries, l.a ≠ l.b ∧ l.a < devices.length ∧ l.b < devices.length := by
  induction entries generalizing devices with
  | nil => exact iff_of_true ⟨devices, rfl⟩ (by simp)
  | cons l entries ih =>
    have hlength : ∀ (types : List Link) (ds : List Device),
        (types.foldl (fun ds type => connected ds l.a l.b type) ds).length = ds.length := by
      intro types
      induction types with
      | nil => exact fun _ => rfl
      | cons type types ihTypes =>
        intro ds
        rw [List.foldl_cons, ihTypes, length_connected]
    rw [List.forall_mem_cons, addLinks]
    split
    · exact iff_of_false (by simp) (by omega)
    · rename_i hvalid
      rw [ih, hlength]
      exact (and_iff_right (by omega)).symm

/-- A topology has devices exactly if it is well formed. -/
theorem exists_devices_iff (t : Topology) :
    (∃ devices, t.devices = .ok devices) ↔ WellFormed t := by
  have hlinks := @addLinks_eq_ok_iff t.links (t.byIndex.map Gpu.device)
  rw [List.length_map, t.byIndex_perm.length_eq] at hlinks
  constructor
  · intro h
    obtain ⟨devices, hd⟩ := h
    obtain ⟨hcheck, hadd⟩ := devices_eq_ok hd
    obtain ⟨hindices, hnodes, huuids⟩ := t.checkGpus_byIndex_iff.mp hcheck
    exact ⟨hindices, hnodes, huuids, hlinks.mp ⟨devices, hadd⟩⟩
  · intro h
    rw [devices, t.checkGpus_byIndex_iff.mpr ⟨h.indices, h.nodes, h.uuids⟩]
    exact hlinks.mpr h.links

/-! ## What is refused -/

theorem addUuids_error {uuids seen : List String} {e : Error}
    (h : addUuids seen uuids = .error e) : ∃ cause, e = .topology cause := by
  induction uuids generalizing seen with
  | nil => exact absurd h (by simp [addUuids])
  | cons uuid uuids ih =>
    rw [addUuids] at h
    split at h
    · exact ⟨_, (Except.error.inj h).symm⟩
    · exact ih h

theorem checkGpus_error {gpus : List Gpu} {position : Nat} {seen : List String} {e : Error}
    (h : checkGpus position seen gpus = .error e) : ∃ cause, e = .topology cause := by
  induction gpus generalizing position seen with
  | nil => exact absurd h (by simp [checkGpus])
  | cons g gpus ih =>
    rw [checkGpus] at h
    split at h
    · exact ⟨_, (Except.error.inj h).symm⟩
    split at h
    · exact ⟨_, (Except.error.inj h).symm⟩
    split at h
    · rename_i hadd
      obtain rfl := Except.error.inj h
      exact addUuids_error hadd
    · exact ih h

theorem addLinks_error {entries : List LinkEntry} {devices : List Device} {e : Error}
    (h : addLinks devices entries = .error e) : ∃ cause, e = .topology cause := by
  induction entries generalizing devices with
  | nil => exact absurd h (by simp [addLinks])
  | cons l entries ih =>
    rw [addLinks] at h
    split at h
    · exact ⟨_, (Except.error.inj h).symm⟩
    · exact ih h

theorem devices_error {t : Topology} {e : Error} (h : t.devices = .error e) :
    ∃ cause, e = .topology cause := by
  rw [devices] at h
  split at h
  · rename_i hcheck
    obtain rfl := Except.error.inj h
    exact checkGpus_error hcheck
  · exact addLinks_error h

/-! ## What is made -/

/-- The device at a position is a GPU of the topology, but for the links. -/
theorem exists_gpu_of_position {t : Topology} {devices : List Device}
    (h : t.devices = .ok devices) {i : Nat} {d : Device} (hd : devices[i]? = some d) :
    ∃ g ∈ t.gpus, d.bare = g.device := by
  have hmap : (devices.map Device.bare)[i]? = (t.byIndex.map Gpu.device)[i]? := by
    rw [map_bare_devices h]
  rw [List.getElem?_map, List.getElem?_map, hd] at hmap
  obtain ⟨g, hg, hbare⟩ := Option.map_eq_some_iff.mp hmap.symm
  exact ⟨g, t.byIndex_perm.mem_iff.mp (List.mem_of_getElem? hg), hbare.symm⟩

theorem flatMap_joins_eq_nil {links : List LinkEntry} {i j : Nat}
    (h : ∀ l ∈ links, l.joins i j = false) :
    (links.filter (·.joins i j)).flatMap LinkEntry.types = [] := by
  rw [List.filter_eq_nil_iff.mpr fun l hl => by simp [h l hl], List.flatMap_nil]

/-- **The device list of a topology describes it.** -/
theorem describes {t : Topology} {devices : List Device} (h : t.devices = .ok devices) :
    Describes t devices := by
  have hwf := t.exists_devices_iff.mp ⟨devices, h⟩
  have hnode := nodeDevices h
  have htwo : TwoSided devices := fun a ha b hb => congrArg List.length (hnode.symmetric a ha b hb)
  have hlength : devices.length = t.gpus.length := by
    have hmap := congrArg List.length (map_bare_devices h)
    rwa [List.length_map, List.length_map, t.byIndex_perm.length_eq] at hmap
  have hlinks : ∀ i d, devices[i]? = some d → ∀ j,
      d.linksTo j = (t.links.filter (·.joins i j)).flatMap LinkEntry.types := by
    intro i d hd j
    rw [← linksBetween_eq hd, linksBetween_devices h]
  have hat : ∀ d ∈ devices, devices[d.index]? = some d := fun d hd =>
    getElem?_of_map_index hnode.indices hd
  refine ⟨hlength, fun i d hd => ?_, hlinks, hnode.symmetric, fun d hd => ?_, fun d hd j hj => ?_,
    fun a ha b hb => ?_, fun a ha b hb hfew => ?_⟩
  · obtain ⟨g, hg, hbare⟩ := exists_gpu_of_position h hd
    have hindex : d.index = g.index := congrArg Device.index hbare
    have hi := index_of_map_index hnode.indices hd
    exact ⟨g, hg, hindex ▸ hi, hi, congrArg Device.uuid hbare, congrArg Device.busId hbare⟩
  · rw [hlinks _ d (hat d hd)]
    refine flatMap_joins_eq_nil fun l hl => Bool.eq_false_iff.mpr fun hjoins => ?_
    have := (hwf.links l hl).1
    simp only [LinkEntry.joins, Bool.or_eq_true, Bool.and_eq_true, beq_iff_eq] at hjoins
    omega
  · rw [hlinks _ d (hat d hd)]
    refine flatMap_joins_eq_nil fun l hl => Bool.eq_false_iff.mpr fun hjoins => ?_
    have := (hwf.links l hl).2
    simp only [LinkEntry.joins, Bool.or_eq_true, Bool.and_eq_true, beq_iff_eq] at hjoins
    omega
  · exact pairScore_eq_scoreOf (htwo a ha b hb)
  · rw [pairScore_eq_scoreOf (htwo a ha b hb)]
    refine scoreOf_of_le ((pairPoints_le a b).trans ?_)
    exact (Nat.mul_le_mul_right 1200 hfew).trans (Nat.div_mul_le_self _ _)

/-- **Exactly the well-formed topologies have devices**, and every other one is refused as a
topology. The devices are those described, and the score of a pair is its points if they fit. -/
theorem devices_wellFormed (t : Topology) :
    ((∃ devices, t.devices = .ok devices) ↔ WellFormed t) ∧
      (¬ WellFormed t → ∃ cause, t.devices = .error (.topology cause)) ∧
      ∀ devices, t.devices = .ok devices → Describes t devices := by
  refine ⟨t.exists_devices_iff, fun hbad => ?_, fun devices h => describes h⟩
  cases h : t.devices with
  | ok devices => exact absurd (t.exists_devices_iff.mp ⟨devices, h⟩) hbad
  | error e =>
    obtain ⟨cause, rfl⟩ := devices_error h
    exact ⟨cause, rfl⟩

/-! ## More links than a score can count -/

/-- Two GPUs joined by `n` bundles of twelve NVLinks, all of one entry. -/
def bundled (n : Nat) : Topology where
  gpus := [⟨0, "GPU-0", none, none, []⟩, ⟨1, "GPU-1", none, none, []⟩]
  links := [⟨0, 1, List.replicate n (.nvlink 12)⟩]

theorem wellFormed_bundled (n : Nat) : WellFormed (bundled n) where
  indices := .refl _
  nodes := by simp [bundled]
  uuids := by simp [bundled, Gpu.uuids]
  links := by simp [bundled]

/-- No larger number of links is safe. -/
theorem exists_scoreOverflow {n : Nat} (h : 3579139 < n) :
    ∃ devices, (bundled n).devices = .ok devices ∧ ∃ a ∈ devices, ∃ b ∈ devices,
      pairScore (some a) (some b) = .error .scoreOverflow := by
  obtain ⟨devices, hd⟩ := (exists_devices_iff _).mpr (wellFormed_bundled n)
  have hdesc := describes hd
  have hlength : devices.length = 2 := hdesc.length
  obtain ⟨a, ha⟩ : ∃ a, devices[0]? = some a := ⟨_, List.getElem?_eq_getElem (by omega)⟩
  obtain ⟨b, hb⟩ : ∃ b, devices[1]? = some b := ⟨_, List.getElem?_eq_getElem (by omega)⟩
  obtain ⟨-, -, -, hai, -⟩ := hdesc.entry 0 a ha
  obtain ⟨-, -, -, hbi, -⟩ := hdesc.entry 1 b hb
  have hlinks : a.linksTo b.index = List.replicate n (.nvlink 12) := by
    rw [hdesc.linksTo 0 a ha, hbi]
    simp [bundled, LinkEntry.joins]
  have hpoints : pairPoints a b = n * 1200 := by
    rw [pairPoints, if_neg (by simp [Device.same, hai, hbi]), hlinks, linkPoints_replicate]
    rfl
  have hover : ¬ pairPoints a b ≤ Text.maxU32 := by
    rw [hpoints, mul_le_maxU32_iff]
    omega
  have hma := List.mem_of_getElem? ha
  have hmb := List.mem_of_getElem? hb
  refine ⟨devices, hd, a, hma, b, hmb, ?_⟩
  rw [hdesc.score a hma b hmb, if_neg hover]

/-- So being well formed does not keep a score from faulting. -/
theorem scoreOverflow_bundled :
    WellFormed (bundled 3579140) ∧ ∃ devices, (bundled 3579140).devices = .ok devices ∧
      ∃ a ∈ devices, ∃ b ∈ devices, pairScore (some a) (some b) = .error .scoreOverflow :=
  ⟨wellFormed_bundled _, exists_scoreOverflow (by decide)⟩

end Topology
end GpuPlacement
