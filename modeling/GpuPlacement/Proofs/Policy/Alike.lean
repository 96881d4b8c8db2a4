import GpuPlacement.Policy
import GpuPlacement.Proofs.Policy.Points
import GpuPlacement.Proofs.Result
import GpuPlacement.Proofs.Topology.Links

/-!
# What policies see of links

Two devices are alike if they differ in nothing but the order in which their links to a peer
stand (`Device.Alike`). No policy tells alike devices apart (`Policy.allocate_alike`), for two
reasons:

* the search over the links reads them through pair scores alone, and a pair scores the same
  whichever way its links are ordered, the fault of a score that does not fit included;
* the tables of fixed groups read no links at all: what they pick from devices without links is
  what they pick, without its links (`FixedGroups.allocate_bare`).

Lists of devices are compared one by one, with `List.Forall₂`.
-/

set_option autoImplicit false

namespace GpuPlacement

/-! ## Alike devices -/

/-- The same device, with the same links to every peer in perhaps another order. -/
structure Device.Alike (d e : Device) : Prop where
  bare : d.bare = e.bare
  links : ∀ peer, (d.linksTo peer).Perm (e.linksTo peer)

namespace Device.Alike

variable {d e : Device}

theorem index (h : d.Alike e) : d.index = e.index := by
  show d.bare.index = e.bare.index
  rw [h.bare]

theorem uuid (h : d.Alike e) : d.uuid = e.uuid := by
  show d.bare.uuid = e.bare.uuid
  rw [h.bare]

end Device.Alike

/-- What is the same for related elements is the same for related lists. -/
theorem map_eq_of_forall₂ {α β γ : Type} {R : α → β → Prop} {f : α → γ} {g : β → γ}
    (hfg : ∀ x y, R x y → f x = g y) {xs : List α} {ys : List β} (h : List.Forall₂ R xs ys) :
    xs.map f = ys.map g := by
  rw [← List.forall₂_eq_eq_eq, List.forall₂_map_left_iff, List.forall₂_map_right_iff]
  exact h.imp hfg

section

variable {devices devices' : List Device}

theorem map_bare_alike (h : List.Forall₂ Device.Alike devices devices') :
    devices.map Device.bare = devices'.map Device.bare :=
  map_eq_of_forall₂ (fun _ _ h => h.bare) h

theorem map_index_alike (h : List.Forall₂ Device.Alike devices devices') :
    devices.map Device.index = devices'.map Device.index :=
  map_eq_of_forall₂ (fun _ _ h => h.index) h

end

/-! ## Scores -/

/-- Links score the same in any order, also where their points do not fit. -/
theorem linkScore_perm {links links' : List Link} (h : links.Perm links') :
    linkScore links = linkScore links' := by
  rw [linkScore_eq_scoreOf, linkScore_eq_scoreOf, linkPoints_perm h]

theorem pairScore_alike {a b a' b' : Device} (ha : a.Alike a') (hb : b.Alike b') :
    pairScore (some a) (some b) = pairScore (some a') (some b') := by
  have hforward := ha.links b.index
  have hbackward := hb.links a.index
  rw [hb.index] at hforward
  rw [ha.index] at hbackward
  simp only [pairScore, Device.same, ha.index, hb.index, hforward.length_eq,
    hbackward.length_eq, linkScore_perm hforward]
  rfl

namespace ScoreTable

variable {devices devices' : List Device}

theorem ofDevices_alike (h : List.Forall₂ Device.Alike devices devices') :
    ofDevices devices = ofDevices devices' := by
  have hrow : ∀ a a' : Device, a.Alike a' →
      devices.map (fun b => pairScore (some a) (some b))
        = devices'.map fun b => pairScore (some a') (some b) := fun a a' ha =>
    map_eq_of_forall₂ (fun b b' hb => pairScore_alike ha hb) h
  have hrows : devices.map (fun a => (devices.map fun b => pairScore (some a) (some b)).toArray)
      = devices'.map fun a => (devices'.map fun b => pairScore (some a) (some b)).toArray :=
    map_eq_of_forall₂ (fun a a' ha => congrArg List.toArray (hrow a a' ha)) h
  simp only [ofDevices, List.map_toArray]
  rw [hrows]

end ScoreTable

/-! ## The search over the links -/

section Search

variable {available required available' required' : List Device}

/-- The test of a group reads indices only. -/
theorem holdsRequired_alike (ha : List.Forall₂ Device.Alike available available')
    (hr : List.Forall₂ Device.Alike required required') :
    holdsRequired available.toArray required = holdsRequired available'.toArray required' := by
  have hindices : ∀ (available required : List Device) (group : List Nat),
      holdsRequired available.toArray required group
        = (group.all (fun p => p < (available.map Device.index).length) &&
            (required.map Device.index).all fun i => group.any fun p =>
              (available.map Device.index)[p]?.any fun j => j == i) := by
    intro available required group
    simp [holdsRequired, Device.same, List.all_map, Option.any_map, Function.comp_def]
  funext group
  rw [hindices, hindices, map_index_alike ha, map_index_alike hr]

theorem map_bare_devicesAt (available : List Device) (group : List Nat) :
    (devicesAt available group).map Device.bare
      = group.filterMap fun p => (available.map Device.bare)[p]? := by
  rw [devicesAt, List.map_filterMap]
  simp only [List.getElem?_map]

theorem bestEffort_alike (ha : List.Forall₂ Device.Alike available available')
    (hr : List.Forall₂ Device.Alike required required') (size : Nat) :
    (bestEffort available required size).map (List.map Device.bare)
      = (bestEffort available' required' size).map (List.map Device.bare) := by
  have hgroup : ∀ group : List Nat, (group.filterMap fun p => available[p]?).map Device.bare
      = (group.filterMap fun p => available'[p]?).map Device.bare := by
    intro group
    have hbare := map_bare_devicesAt available group
    rw [map_bare_alike ha, ← map_bare_devicesAt available' group] at hbare
    exact hbare
  -- Both searches look at the same scores and the same tests, so they end in the same group.
  simp only [bestEffort, ha.length_eq, hr.length_eq, ScoreTable.ofDevices_alike ha,
    holdsRequired_alike ha hr]
  cases isUnsatisfiable available'.length required'.length size with
  | true => rfl
  | false =>
    simp only [Bool.false_eq_true, if_false]
    cases firstBest (ScoreTable.ofDevices available').ofPartition
        ((partitions available'.length size).filter fun split =>
          split.any (holdsRequired available'.toArray required')) with
    | error fault => rfl
    | ok best =>
      cases best with
      | none => rfl
      | some split =>
        simp only [bind, Except.bind]
        cases firstBest (ScoreTable.ofDevices available').ofSet
            (split.filter (holdsRequired available'.toArray required')) with
        | error fault => rfl
        | ok best =>
          cases best with
          | none => rfl
          | some group => exact congrArg Except.ok (hgroup group)

end Search

/-! ## The tables of fixed groups -/

namespace DeviceSet

/-- The set of the devices without their links. -/
def bare (s : DeviceSet) : DeviceSet := ⟨s.devices.map Device.bare⟩

theorem bare_eraseOne (s : DeviceSet) (d : Device) :
    (s.eraseOne d).bare = s.bare.eraseOne d.bare := by
  simp only [bare, eraseOne, List.filter_map]
  rfl

theorem bare_insertOne (s : DeviceSet) (d : Device) :
    (s.insertOne d).bare = s.bare.insertOne d.bare := by
  have herase := congrArg DeviceSet.devices (bare_eraseOne s d)
  simp only [insertOne, bare, List.map_cons] at herase ⊢
  rw [herase]

theorem bare_insert (s : DeviceSet) (ds : List Device) :
    (s.insert ds).bare = s.bare.insert (ds.map Device.bare) := by
  induction ds generalizing s with
  | nil => rfl
  | cons d ds ih =>
    have hrest := ih (s.insertOne d)
    rwa [bare_insertOne] at hrest

theorem bare_erase (s : DeviceSet) (ds : List Device) :
    (s.erase ds).bare = s.bare.erase (ds.map Device.bare) := by
  induction ds generalizing s with
  | nil => rfl
  | cons d ds ih =>
    have hrest := ih (s.eraseOne d)
    rwa [bare_eraseOne] at hrest

theorem bare_ofList (ds : List Device) : (ofList ds).bare = ofList (ds.map Device.bare) :=
  bare_insert empty ds

theorem containsAll_bare (s : DeviceSet) (ds : List Device) :
    s.bare.containsAll (ds.map Device.bare) = s.containsAll ds := by
  simp only [containsAll, size, bare, List.length_map, List.all_map, Function.comp_def, contains,
    List.any_map]
  rfl

theorem sorted_bare (s : DeviceSet) : s.bare.sorted = s.sorted.map Device.bare :=
  (List.map_mergeSort (f := Device.bare) fun _ _ _ _ => rfl).symm

end DeviceSet

namespace FixedGroups

theorem pick_bare (group : List Nat) (devices : List Device) :
    pick group (devices.map Device.bare) = (pick group devices).map Device.bare := by
  simp only [pick, List.map_filterMap, List.find?_map]
  rfl

theorem findGroup_bare (required candidates : List Device) (size : Nat)
    (groups : List (List Nat)) :
    findGroup (required.map Device.bare) (candidates.map Device.bare) size groups
      = (findGroup required candidates size groups).map Device.bare := by
  induction groups with
  | nil => rfl
  | cons group groups ih =>
    have hall : ((required.map Device.bare).all fun d => group.contains d.index)
        = required.all fun d => group.contains d.index := List.all_map
    simp only [findGroup, hall, pick_bare, ← List.map_append, List.length_map, ih]
    split
    · split
      · rfl
      · rfl
    · rfl

/-- What a table picks does not depend on links. -/
theorem allocate_bare (t : FixedGroups) (available required : List Device) (size : Nat) :
    t.allocate (available.map Device.bare) (required.map Device.bare) size
      = (t.allocate available required size).map Device.bare := by
  rw [allocate, allocate, ← DeviceSet.bare_ofList, ← DeviceSet.bare_erase, DeviceSet.sorted_bare,
    DeviceSet.containsAll_bare, List.length_map, List.length_map, findGroup_bare]
  split
  · rfl
  · rfl

end FixedGroups

/-- **No policy tells alike devices apart.** -/
theorem Policy.allocate_alike (p : Policy) {available required available' required' : List Device}
    (ha : List.Forall₂ Device.Alike available available')
    (hr : List.Forall₂ Device.Alike required required') (size : Nat) :
    (p.allocate available required size).map (List.map Device.bare)
      = (p.allocate available' required' size).map (List.map Device.bare) := by
  cases p with
  | bestEffort => exact bestEffort_alike ha hr size
  | fixedGroups table =>
    have hbare : (table.allocate available required size).map Device.bare
        = (table.allocate available' required' size).map Device.bare := by
      rw [← FixedGroups.allocate_bare, map_bare_alike ha, map_bare_alike hr,
        FixedGroups.allocate_bare]
    exact congrArg Except.ok hbare

/-- Both requests fail by the same fault, or get the same devices but for their links. -/
theorem Policy.allocate_alike_cases (p : Policy)
    {available required available' required' : List Device}
    (ha : List.Forall₂ Device.Alike available available')
    (hr : List.Forall₂ Device.Alike required required') (size : Nat) :
    (∃ fault, p.allocate available required size = .error fault ∧
        p.allocate available' required' size = .error fault) ∨
      ∃ chosen chosen', p.allocate available required size = .ok chosen ∧
        p.allocate available' required' size = .ok chosen' ∧
        chosen.map Device.bare = chosen'.map Device.bare :=
  cases_of_map_eq (p.allocate_alike ha hr size)

theorem map_index_of_bare {devices devices' : List Device}
    (h : devices.map Device.bare = devices'.map Device.bare) :
    devices.map Device.index = devices'.map Device.index := by
  have hindex := congrArg (List.map Device.index) h
  rwa [List.map_map, List.map_map] at hindex

theorem map_uuid_of_bare {devices devices' : List Device}
    (h : devices.map Device.bare = devices'.map Device.bare) :
    devices.map Device.uuid = devices'.map Device.uuid := by
  have huuid := congrArg (List.map Device.uuid) h
  rwa [List.map_map, List.map_map] at huuid

end GpuPlacement
