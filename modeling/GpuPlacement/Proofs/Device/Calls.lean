import Mathlib.Data.List.Induction
import GpuPlacement.Proofs.Device.Set

/-!
# Sets of devices after calls

A set is a finite map from UUIDs to devices, and what the map is after some calls can be read off
the calls (`InsertedLast`): a UUID is held if the last call that names it inserts it, by the device
that this call inserts last under it. A table of entries has no order of its own, so the same is said
of every set with the entries of that map in some order (`Refines`).

That a set contains all devices of a list is more than that it contains each of them: the list must
not be longer than the set either. The two differ for lists that repeat a UUID, and for no others
(`ComparesAll`).
-/

set_option autoImplicit false

namespace GpuPlacement

/-! ## Calls -/

/-- A call that changes a set, or builds one from nothing. -/
inductive SetCall where
  | ofList (ds : List Device)
  | insert (ds : List Device)
  | erase (ds : List Device)
  deriving DecidableEq, Repr

namespace SetCall

/-- The devices that a call is given. -/
def devices : SetCall → List Device
  | .ofList ds => ds
  | .insert ds => ds
  | .erase ds => ds

def Names (call : SetCall) (uuid : String) : Prop := uuid ∈ call.devices.map Device.uuid

def Inserts : SetCall → Prop
  | .erase _ => False
  | _ => True

def Builds : SetCall → Prop
  | .ofList _ => True
  | _ => False

end SetCall

/-- `d` is the last device of a list with a UUID. -/
def LastWith (ds : List Device) (uuid : String) (d : Device) : Prop :=
  ∃ before after, ds = before ++ d :: after ∧ d.uuid = uuid ∧ ∀ e ∈ after, e.uuid ≠ uuid

/-- `call` is the last of some calls that names a UUID, and the set is not built anew after it. -/
def LastNaming (calls : List SetCall) (uuid : String) (call : SetCall) : Prop :=
  ∃ before after, calls = before ++ call :: after ∧ call.Names uuid ∧
    ∀ later ∈ after, ¬ later.Names uuid ∧ ¬ later.Builds

/-- The last call that names a UUID inserts it. -/
def Held (calls : List SetCall) (uuid : String) : Prop :=
  ∃ call, LastNaming calls uuid call ∧ call.Inserts

/-- The last call that names a UUID inserts it, and `d` is the last device it inserts under it. -/
def InsertedLast (calls : List SetCall) (uuid : String) (d : Device) : Prop :=
  ∃ call, LastNaming calls uuid call ∧ call.Inserts ∧ LastWith call.devices uuid d

section

variable {calls : List SetCall} {call last : SetCall} {ds : List Device} {uuid : String}
  {d : Device}

theorem findDevice?_reverse_eq_some_iff :
    findDevice? ds.reverse uuid = some d ↔ LastWith ds uuid d := by
  rw [findDevice?, List.find?_eq_some_iff_append, beq_iff_eq]
  constructor
  · rintro ⟨hu, after, before, hds, hafter⟩
    refine ⟨before.reverse, after.reverse, ?_, hu, fun e he => ?_⟩
    · rw [← List.reverse_reverse ds, hds]
      simp
    · simpa using hafter e (List.mem_reverse.mp he)
  · rintro ⟨before, after, rfl, hu, hafter⟩
    refine ⟨hu, after.reverse, before.reverse, by simp, fun e he => ?_⟩
    simpa using hafter e (List.mem_reverse.mp he)

theorem findDevice?_reverse_eq_none_iff :
    findDevice? ds.reverse uuid = none ↔ uuid ∉ ds.map Device.uuid := by
  rw [findDevice?, List.find?_eq_none]
  simp

theorem exists_lastWith (h : call.Names uuid) : ∃ d, LastWith call.devices uuid d := by
  cases hf : findDevice? call.devices.reverse uuid with
  | none => exact absurd h (findDevice?_reverse_eq_none_iff.mp hf)
  | some d => exact ⟨d, findDevice?_reverse_eq_some_iff.mp hf⟩

theorem LastWith.names (h : LastWith call.devices uuid d) : call.Names uuid := by
  obtain ⟨before, after, hds, rfl, -⟩ := h
  rw [SetCall.Names, hds]
  simp

theorem held_iff : Held calls uuid ↔ ∃ d, InsertedLast calls uuid d := by
  constructor
  · rintro ⟨call, hlast, hinserts⟩
    have hnames : call.Names uuid := by
      obtain ⟨before, after, -, hnames, -⟩ := hlast
      exact hnames
    obtain ⟨d, hd⟩ := exists_lastWith hnames
    exact ⟨d, call, hlast, hinserts, hd⟩
  · rintro ⟨d, call, hlast, hinserts, -⟩
    exact ⟨call, hlast, hinserts⟩

/-- The last call settles what it names, and everything if it builds the set. -/
theorem lastNaming_concat_iff : LastNaming (calls ++ [last]) uuid call ↔
    (call = last ∧ last.Names uuid) ∨
      (¬ last.Names uuid ∧ ¬ last.Builds ∧ LastNaming calls uuid call) := by
  constructor
  · rintro ⟨before, after, heq, hnames, hafter⟩
    rcases List.eq_nil_or_concat after with rfl | ⟨after', last', rfl⟩
    · obtain ⟨-, hlast⟩ := List.append_inj' heq rfl
      obtain rfl := (List.cons.inj hlast).1
      exact Or.inl ⟨rfl, hnames⟩
    · rw [List.concat_eq_append] at heq hafter
      rw [← List.cons_append, ← List.append_assoc] at heq
      obtain ⟨rfl, hlast⟩ := List.append_inj' heq rfl
      obtain rfl := (List.cons.inj hlast).1
      obtain ⟨hno, hbuilds⟩ := hafter last (by simp)
      exact Or.inr ⟨hno, hbuilds, before, after', rfl, hnames,
        fun later hm => hafter later (List.mem_append_left _ hm)⟩
  · rintro (⟨rfl, hnames⟩ | ⟨hno, hbuilds, before, after, rfl, hnames, hafter⟩)
    · exact ⟨calls, [], rfl, hnames, by simp⟩
    · refine ⟨before, after ++ [last], by simp, hnames, fun later hm => ?_⟩
      rcases List.mem_append.mp hm with hm | hm
      · exact hafter later hm
      · rw [List.mem_singleton.mp hm]
        exact ⟨hno, hbuilds⟩

theorem insertedLast_concat_iff : InsertedLast (calls ++ [last]) uuid d ↔
    (last.Inserts ∧ LastWith last.devices uuid d) ∨
      (¬ last.Names uuid ∧ ¬ last.Builds ∧ InsertedLast calls uuid d) := by
  constructor
  · rintro ⟨call, hlast, hinserts, hd⟩
    rcases lastNaming_concat_iff.mp hlast with ⟨rfl, -⟩ | ⟨hno, hbuilds, hlast⟩
    · exact Or.inl ⟨hinserts, hd⟩
    · exact Or.inr ⟨hno, hbuilds, call, hlast, hinserts, hd⟩
  · rintro (⟨hinserts, hd⟩ | ⟨hno, hbuilds, call, hlast, hinserts, hd⟩)
    · exact ⟨last, lastNaming_concat_iff.mpr (Or.inl ⟨rfl, hd.names⟩), hinserts, hd⟩
    · exact ⟨call, lastNaming_concat_iff.mpr (Or.inr ⟨hno, hbuilds, hlast⟩), hinserts, hd⟩

end

namespace DeviceSet

/-! ## Steps and runs -/

/-- The set after a call. -/
def step (s : DeviceSet) : SetCall → DeviceSet
  | .ofList ds => ofList ds
  | .insert ds => s.insert ds
  | .erase ds => s.erase ds

/-- The set after calls in turn, from the empty one. -/
def run (calls : List SetCall) : DeviceSet := calls.foldl step empty

section

variable {s : DeviceSet} {calls : List SetCall} {call : SetCall} {uuid : String} {d : Device}

theorem run_concat (calls : List SetCall) (call : SetCall) :
    run (calls ++ [call]) = (run calls).step call := List.foldl_append

/-- What a call does to the map: it inserts a device, or leaves what was there before. -/
theorem get?_step_eq_some_iff : (s.step call).get? uuid = some d ↔
    (call.Inserts ∧ LastWith call.devices uuid d) ∨
      (¬ call.Names uuid ∧ ¬ call.Builds ∧ s.get? uuid = some d) := by
  cases call with
  | ofList ds =>
    have hempty : empty.get? uuid = none := rfl
    rw [step, ofList, get?_insert, hempty, Option.or_none, findDevice?_reverse_eq_some_iff]
    simp [SetCall.Inserts, SetCall.Builds, SetCall.devices]
  | insert ds =>
    rw [step, get?_insert, Option.or_eq_some_iff, findDevice?_reverse_eq_some_iff,
      findDevice?_reverse_eq_none_iff]
    simp [SetCall.Inserts, SetCall.Builds, SetCall.Names, SetCall.devices]
  | erase ds =>
    rw [step, get?_erase, ite_eq_iff]
    simp [SetCall.Inserts, SetCall.Builds, SetCall.Names, SetCall.devices]

/-- The map after a run is what its calls insert last. -/
theorem get?_run_eq_some_iff : (run calls).get? uuid = some d ↔ InsertedLast calls uuid d := by
  induction calls using List.reverseRecOn with
  | nil =>
    refine iff_of_false (by simp [run, empty, get?, findDevice?]) ?_
    rintro ⟨call, ⟨before, after, heq, -⟩, -⟩
    exact absurd heq (by simp)
  | append_singleton calls last ih =>
    rw [run_concat, get?_step_eq_some_iff, insertedLast_concat_iff, ih]

theorem keyed_step (h : s.Keyed) (call : SetCall) : (s.step call).Keyed := by
  cases call with
  | ofList ds => exact keyed_empty.insert ds
  | insert ds => exact h.insert ds
  | erase ds => exact h.erase ds

theorem keyed_run (calls : List SetCall) : (run calls).Keyed := by
  induction calls using List.reverseRecOn with
  | nil => exact keyed_empty
  | append_singleton calls last ih =>
    rw [run_concat]
    exact keyed_step ih last

end

/-! ## What can be seen of a run -/

/-- A set is what a map from UUIDs to devices would be after some calls. -/
structure Refines (calls : List SetCall) (s : DeviceSet) : Prop where
  contains : ∀ d, s.contains d = true ↔ Held calls d.uuid
  /-- The size is the number of UUIDs that are held. -/
  size : ∃ uuids : List String, uuids.Nodup ∧ (∀ uuid, uuid ∈ uuids ↔ Held calls uuid) ∧
    s.size = uuids.length
  /-- Under a UUID that is held stands the device that was inserted last under it, once. -/
  listed : ∀ uuid, Held calls uuid →
    ∃ d, InsertedLast calls uuid d ∧ s.sorted.filter (·.uuid == uuid) = [d]
  /-- And nothing else is listed. -/
  only : ∀ d ∈ s.sorted, Held calls d.uuid
  ascending : s.sorted.Pairwise fun d e => d.index ≤ e.index

theorem refines_of_perm {calls : List SetCall} {s : DeviceSet}
    (h : (run calls).devices.Perm s.devices) : Refines calls s := by
  have hkeyed : s.Keyed := (keyed_run calls).perm h
  have hget : ∀ uuid d, s.get? uuid = some d ↔ InsertedLast calls uuid d := by
    intro uuid d
    rw [hkeyed.get?_eq_some_iff, ← get?_run_eq_some_iff, (keyed_run calls).get?_eq_some_iff,
      h.mem_iff]
  have hheld : ∀ uuid, Held calls uuid ↔ ∃ d ∈ s.devices, d.uuid = uuid := by
    intro uuid
    simp only [held_iff, ← hget, hkeyed.get?_eq_some_iff]
  refine ⟨fun d => ?_, ⟨s.devices.map Device.uuid, hkeyed, fun uuid => ?_, ?_⟩, fun uuid hu => ?_,
    fun d hd => ?_, s.pairwise_sorted⟩
  · rw [contains_iff, held_iff]
    exact exists_congr fun e => hget d.uuid e
  · rw [hheld, List.mem_map]
  · rw [size, List.length_map]
  · obtain ⟨d, hd⟩ := held_iff.mp hu
    refine ⟨d, hd, ?_⟩
    obtain ⟨hmem, rfl⟩ := hkeyed.get?_eq_some_iff.mp ((hget uuid d).mpr hd)
    exact filter_uuid_eq ((s.sorted_perm.map Device.uuid).nodup_iff.mpr hkeyed)
      (mem_sorted.mpr hmem)
  · exact (hheld d.uuid).mpr ⟨d, mem_sorted.mp hd, rfl⟩

/-- **A set is a map from UUIDs to devices.** Whatever the order of its entries, after any calls it
answers what the calls have inserted last. If no two devices that are held have the same index, then
it lists them alike for all calls that leave the same contents, in whatever order their entries
stand. -/
theorem run_refines :
    (∀ calls s, (run calls).devices.Perm s.devices → Refines calls s) ∧
    ∀ calls calls', (∀ uuid d, InsertedLast calls uuid d ↔ InsertedLast calls' uuid d) →
      (∀ uuid uuid' d e, InsertedLast calls uuid d → InsertedLast calls uuid' e →
        d.index = e.index → d = e) →
      ∀ s s' : DeviceSet, (run calls).devices.Perm s.devices → (run calls').devices.Perm s'.devices →
        s.sorted = s'.sorted := by
  refine ⟨fun calls s h => refines_of_perm h, fun calls calls' hsame hindex s s' h h' => ?_⟩
  have hperm : s.devices.Perm s'.devices := by
    refine h.symm.trans (((keyed_run calls).perm_of_get?_eq (keyed_run calls') ?_).trans h')
    intro uuid d
    rw [get?_run_eq_some_iff, get?_run_eq_some_iff, hsame]
  refine sorted_congr hperm fun d hd e he => ?_
  have hinserted : ∀ d ∈ s.devices, InsertedLast calls d.uuid d := by
    intro d hd
    exact get?_run_eq_some_iff.mp ((keyed_run calls).get?_eq_some_iff.mpr ⟨h.mem_iff.mpr hd, rfl⟩)
  exact hindex d.uuid e.uuid d e (hinserted d hd) (hinserted e he)

/-- Devices that are replaced, removed in vain and listed in another order. -/
theorem run_refines_replaced :
    let calls : List SetCall := [.ofList [.plain 5 "GPU-A", .plain 1 "GPU-B"],
      .insert [.plain 2 "GPU-A", .plain 3 "GPU-A"], .erase [.plain 4 "GPU-C"]]
    let calls' : List SetCall := [.insert [.plain 3 "GPU-A"], .insert [.plain 1 "GPU-B"]]
    let s : DeviceSet := ⟨[.plain 1 "GPU-B", .plain 3 "GPU-A"]⟩
    (run calls).devices.Perm s.devices ∧ Refines calls s ∧
      (∀ uuid d, InsertedLast calls uuid d ↔ InsertedLast calls' uuid d) ∧
      (∀ uuid uuid' d e, InsertedLast calls uuid d → InsertedLast calls uuid' e →
        d.index = e.index → d = e) ∧
      s.sorted = (run calls').sorted := by
  intro calls calls' s
  have hperm : (run calls).devices.Perm s.devices := by decide
  have hperm' : (run calls').devices.Perm s.devices := by decide
  have hsame : ∀ uuid d, InsertedLast calls uuid d ↔ InsertedLast calls' uuid d := by
    intro uuid d
    rw [← get?_run_eq_some_iff, ← get?_run_eq_some_iff, (keyed_run calls).get?_eq_some_iff,
      (keyed_run calls').get?_eq_some_iff, hperm.mem_iff, hperm'.mem_iff]
  have hmem : ∀ uuid d, InsertedLast calls uuid d → d ∈ s.devices := by
    intro uuid d hd
    rw [← get?_run_eq_some_iff, (keyed_run calls).get?_eq_some_iff, hperm.mem_iff] at hd
    exact hd.1
  have hmembers : ∀ d ∈ s.devices, ∀ e ∈ s.devices, d.index = e.index → d = e := by decide
  have hindex : ∀ uuid uuid' d e, InsertedLast calls uuid d → InsertedLast calls uuid' e →
      d.index = e.index → d = e :=
    fun uuid uuid' d e hd he => hmembers d (hmem uuid d hd) e (hmem uuid' e he)
  exact ⟨hperm, run_refines.1 calls s hperm, hsame, hindex,
    run_refines.2 calls calls' hsame hindex s (run calls') hperm (List.Perm.refl _)⟩

/-! ## All devices of a list -/

/-- `containsAll` for a list, against `contains` for each device of it. -/
structure ComparesAll (s : DeviceSet) (ds : List Device) : Prop where
  sound : s.containsAll ds = true → ∀ d ∈ ds, s.contains d = true
  /-- For devices with different UUIDs they agree. -/
  complete : (ds.map Device.uuid).Nodup → (∀ d ∈ ds, s.contains d = true) →
    s.containsAll ds = true
  /-- They disagree where UUIDs are repeated until the list is longer than the set. -/
  refused : (∀ d ∈ ds, s.contains d = true) → (s.containsAll ds = false ↔ s.size < ds.length)

/-- **Containing all devices of a list is containing each of them**, unless the list repeats UUIDs
and is longer than the set. -/
theorem containsAll_run (calls : List SetCall) (ds : List Device) :
    ComparesAll (run calls) ds where
  sound h := (containsAll_eq_true_iff.mp h).2
  complete hn h := containsAll_eq_true_iff.mpr ⟨length_le_size hn h, h⟩
  refused h := by
    rw [← Bool.not_eq_true, containsAll_eq_true_iff, and_iff_left h, Nat.not_le]

/-- A set of one device contains it, but not all of a list that names it twice. -/
theorem containsAll_repeated :
    let gpu := Device.plain 0 "GPU-0"
    let s := run [.insert [gpu]]
    ¬ (s.containsAll [gpu, gpu] = true ↔ ∀ d ∈ [gpu, gpu], s.contains d = true) := by
  decide

end DeviceSet
end GpuPlacement
