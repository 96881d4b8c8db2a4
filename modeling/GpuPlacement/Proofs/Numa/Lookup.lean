import GpuPlacement.Proofs.Numa.Cache

/-!
# The lookup of devices

What `Cache.deviceNodes` (Numa/Cache.lean) answers, what it asks for and what the cache is after it,
in full (`ExactLookup`). It is a direct lookup of each UUID, with two differences: known devices are
on the node that the cache has for them, and nothing is asked if all of them are. Where the cache
agrees with the devices the first makes no difference to the answer.
-/

set_option autoImplicit false

namespace GpuPlacement.Numa.Cache

/-- Of these devices the known ones are on the node that they report. -/
def Agrees (c : Cache) (devices : List DeviceHandle) (uuids : List String) : Prop :=
  ∀ uuid ∈ uuids, ∀ node, c.cachedNode uuid = some node → reportedNode devices uuid = .ok node

/-- What a lookup of UUIDs does. -/
structure ExactLookup (c : Cache) (d : Discoverer) (uuids : List String) : Prop where
  /-- If all of them are known, the answer is their nodes. Nothing is asked, nothing changes. -/
  known : (∀ uuid ∈ uuids, ∃ node, c.cachedNode uuid = some node) →
    ∃ nodes, uuids.map c.cachedNode = nodes.map some ∧
      c.deviceNodes d uuids = (⟨.ok nodes, []⟩, c)
  /-- Otherwise the devices are asked for once. -/
  asks : (∃ uuid ∈ uuids, c.cachedNode uuid = none) →
    (c.deviceNodes d uuids).1.queries = [.devices]
  /-- If they can not be found, that is the answer, and nothing changes. -/
  failed : (∃ uuid ∈ uuids, c.cachedNode uuid = none) → ∀ e, d.devices = .error e →
    (c.deviceNodes d uuids).1.result = .error e ∧ (c.deviceNodes d uuids).2 = c
  /-- If all that is missing is found, the answer has a node for each position, and the cache gains
  what was missing. -/
  found : (∃ uuid ∈ uuids, c.cachedNode uuid = none) → ∀ devices, d.devices = .ok devices →
    (∀ uuid ∈ uuids, c.cachedNode uuid = none → ∃ node, reportedNode devices uuid = .ok node) →
    ∃ nodes, (c.deviceNodes d uuids).1.result = .ok nodes ∧
      uuids.map (nodeOf devices c.nodeTable) = nodes.map .ok ∧
      Gains devices c.nodeTable uuids (c.deviceNodes d uuids).2.nodeTable
  /-- Otherwise the first that is missing and not found decides the answer, and the cache gains what
  was missing before it. -/
  lost : ∀ devices, d.devices = .ok devices →
    (∃ uuid ∈ uuids, c.cachedNode uuid = none ∧ ∃ e, reportedNode devices uuid = .error e) →
    ∃ before uuid after e, uuids = before ++ uuid :: after ∧
      (∀ v ∈ before, c.cachedNode v = none → ∃ node, reportedNode devices v = .ok node) ∧
      c.cachedNode uuid = none ∧ reportedNode devices uuid = .error e ∧
      (c.deviceNodes d uuids).1.result = .error e ∧
      Gains devices c.nodeTable before (c.deviceNodes d uuids).2.nodeTable
  /-- System nodes and known devices stay as they are. -/
  kept : (c.deviceNodes d uuids).2.Extends c
  /-- Where the cache agrees with the devices, the answer is that of a direct lookup. -/
  direct : ∀ devices, d.devices = .ok devices → c.Agrees devices uuids →
    (c.deviceNodes d uuids).1.result = uuids.mapM (reportedNode devices)

section

variable {c : Cache} {d : Discoverer} {devices : List DeviceHandle} {uuids : List String}

theorem Agrees.nodeOf_eq (h : c.Agrees devices uuids) :
    ∀ uuid ∈ uuids, nodeOf devices c.nodeTable uuid = reportedNode devices uuid := by
  intro uuid hmem
  cases hl : c.nodeTable.lookup uuid with
  | none => exact nodeOf_of_unknown hl
  | some node => exact (nodeOf_of_known hl).trans (h uuid hmem node hl).symm

theorem nodeOf_eq_error_iff {uuid : String} {e : Error} :
    nodeOf devices c.nodeTable uuid = .error e ↔
      c.cachedNode uuid = none ∧ reportedNode devices uuid = .error e := by
  rw [cachedNode]
  cases hl : c.nodeTable.lookup uuid with
  | none => simp [nodeOf_of_unknown hl]
  | some node => simp [nodeOf_of_known hl]

theorem deviceNodes_of_found (h : ∃ uuid ∈ uuids, c.cachedNode uuid = none)
    (hd : d.devices = .ok devices) :
    c.deviceNodes d uuids = (⟨(fill devices c.nodeTable uuids).1, [.devices]⟩,
      ⟨c.systemNodes, (fill devices c.nodeTable uuids).2⟩) := by
  rw [deviceNodes_of_missing h, hd]

theorem deviceNodes_direct (hd : d.devices = .ok devices) (h : c.Agrees devices uuids) :
    (c.deviceNodes d uuids).1.result = uuids.mapM (reportedNode devices) := by
  rw [← mapM_congr_left h.nodeOf_eq]
  rcases c.exists_missing_or_known uuids with hmiss | ⟨nodes, hknown⟩
  · rw [deviceNodes_of_found hmiss hd]
    exact fill_result devices c.nodeTable uuids
  · have hnodes : uuids.map (nodeOf devices c.nodeTable) = nodes.map .ok :=
      map_eq_map_of hknown fun _ _ _ => nodeOf_of_known
    rw [deviceNodes_of_known hknown, mapM_eq_ok hnodes]
    rfl

end

/-- **A lookup is a direct one, as far as anything is missing.** -/
theorem deviceNodes_exact (c : Cache) (d : Discoverer) (uuids : List String) :
    c.ExactLookup d uuids where
  known hknown := by
    rcases c.exists_missing_or_known uuids with ⟨uuid, hmem, hnone⟩ | ⟨nodes, h⟩
    · obtain ⟨node, hnode⟩ := hknown uuid hmem
      exact absurd (hnone.symm.trans hnode) (by simp)
    · exact ⟨nodes, h, deviceNodes_of_known h d⟩
  asks hmiss := by
    rw [deviceNodes_of_missing hmiss]
    cases d.devices <;> rfl
  failed hmiss e he := by
    rw [deviceNodes_of_missing hmiss, he]
    exact ⟨rfl, rfl⟩
  found hmiss devices hd hfound := by
    rw [deviceNodes_of_found hmiss hd]
    rcases fill_cases devices c.nodeTable uuids with h | ⟨before, uuid, after, e, rfl, -, he, -, -⟩
    · exact h
    · obtain ⟨hnone, herror⟩ := nodeOf_eq_error_iff.mp he
      obtain ⟨node, hnode⟩ := hfound uuid (by simp) hnone
      exact absurd (herror.symm.trans hnode) (by simp)
  lost devices hd hlost := by
    obtain ⟨uuid, hmem, hnone, e, he⟩ := hlost
    rw [deviceNodes_of_found ⟨uuid, hmem, hnone⟩ hd]
    rcases fill_cases devices c.nodeTable uuids with
      ⟨nodes, -, hnodes, -⟩ | ⟨before, v, after, e', rfl, hb, hv, hresult, hg⟩
    · obtain ⟨n, -, hn⟩ := exists_of_map_eq_map hnodes hmem
      exact absurd (hn.trans (nodeOf_eq_error_iff.mpr ⟨hnone, he⟩)) (by simp)
    · obtain ⟨hvnone, hverror⟩ := nodeOf_eq_error_iff.mp hv
      refine ⟨before, v, after, e', rfl, fun u hu hunone => ?_, hvnone, hverror, hresult, hg⟩
      obtain ⟨n, hn⟩ := hb u hu
      exact ⟨n, (nodeOf_of_unknown hunone).symm.trans hn⟩
  kept := c.deviceNodes_extends d uuids
  direct _ hd h := deviceNodes_direct hd h

end GpuPlacement.Numa.Cache
