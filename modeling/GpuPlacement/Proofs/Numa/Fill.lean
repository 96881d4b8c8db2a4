import Mathlib
import GpuPlacement.Numa.Cache
import GpuPlacement.Proofs.Result

/-!
# Filling the node table

`Cache.fill` (Numa/Cache.lean) looks UUIDs up one after the other in a table that grows on the way.
What it does can be said of the table at the start: a UUID is on the node that this table has for it,
or else on the one that its device reports (`nodeOf`), because a node noted on the way is the one that
would be found again (`nodeOf_noted`). So a lookup answers with these nodes and the table gains the
UUIDs it lacked, or it stops at the first UUID without a node and the table gains those before it
(`fill_cases`).
-/

set_option autoImplicit false

namespace GpuPlacement.Numa

/-- The node of a UUID, as its device reports it. -/
def reportedNode (devices : List DeviceHandle) (uuid : String) : Except Error Int :=
  match findByUuid? devices uuid with
  | none => .error (.deviceNotFound uuid)
  | some d => d.node

namespace Cache

/-- The node of a UUID: the one in the table, or else the one that its device reports. -/
def nodeOf (devices : List DeviceHandle) (table : NodeTable) (uuid : String) : Except Error Int :=
  match table.lookup uuid with
  | some node => .ok node
  | none => reportedNode devices uuid

/-- A table that has the node of a UUID, put behind the others if it was not there. -/
def noted (table : NodeTable) (uuid : String) (node : Int) : NodeTable :=
  match table.lookup uuid with
  | some _ => table
  | none => table ++ [(uuid, node)]

/-- `after` is `table` and, behind it, those of the UUIDs that it lacks: each once, on the node that
its device reports. -/
def Gains (devices : List DeviceHandle) (table : NodeTable) (uuids : List String)
    (after : NodeTable) : Prop :=
  ∃ added : NodeTable, after = table ++ added ∧ (added.map Prod.fst).Nodup ∧
    (∀ v, v ∈ added.map Prod.fst ↔ v ∈ uuids ∧ table.lookup v = none) ∧
    ∀ e ∈ added, reportedNode devices e.1 = .ok e.2

section

variable {devices : List DeviceHandle} {table after : NodeTable} {uuid v : String} {node : Int}
  {uuids rest : List String}

/-! ## One UUID -/

theorem reportedNode_eq_ok_iff :
    reportedNode devices uuid = .ok node ↔
      ∃ d, findByUuid? devices uuid = some d ∧ d.node = .ok node := by
  unfold reportedNode
  cases findByUuid? devices uuid with
  | none => simp
  | some d => simp

theorem nodeOf_of_known (h : table.lookup uuid = some node) :
    nodeOf devices table uuid = .ok node := by
  rw [nodeOf, h]

theorem nodeOf_of_unknown (h : table.lookup uuid = none) :
    nodeOf devices table uuid = reportedNode devices uuid := by
  rw [nodeOf, h]

theorem noted_of_known {n : Int} (h : table.lookup uuid = some n) : noted table uuid node = table := by
  rw [noted, h]

theorem lookup_noted : (noted table uuid node).lookup v
    = (table.lookup v).or (if v = uuid then some node else none) := by
  unfold noted
  cases h : table.lookup uuid with
  | some n =>
    by_cases hv : v = uuid
    · rw [hv, h, Option.some_or]
    · rw [if_neg hv, Option.or_none]
  | none =>
    rw [List.lookup_append, List.lookup_cons, List.lookup_nil]
    by_cases hv : v = uuid
    · rw [if_pos hv, beq_iff_eq.mpr hv]
    · rw [if_neg hv, beq_eq_false_iff_ne.mpr hv]

/-- Noting the node of a UUID changes the node of none. -/
theorem nodeOf_noted (h : nodeOf devices table uuid = .ok node) :
    nodeOf devices (noted table uuid node) = nodeOf devices table := by
  funext v
  cases hv : table.lookup v with
  | some n =>
    have hnoted : (noted table uuid node).lookup v = some n := by rw [lookup_noted, hv, Option.some_or]
    rw [nodeOf_of_known hnoted, nodeOf_of_known hv]
  | none =>
    by_cases heq : v = uuid
    · subst heq
      have hnoted : (noted table v node).lookup v = some node := by
        rw [lookup_noted, hv, if_pos rfl, Option.none_or]
      rw [nodeOf_of_known hnoted, h]
    · have hnoted : (noted table uuid node).lookup v = none := by
        rw [lookup_noted, hv, if_neg heq, Option.none_or]
      rw [nodeOf_of_unknown hnoted, nodeOf_of_unknown hv]

/-- A UUID that has a node: it is answered and noted, and the lookup goes on. -/
theorem fill_cons_of_ok (h : nodeOf devices table uuid = .ok node) :
    fill devices table (uuid :: rest)
      = ((fill devices (noted table uuid node) rest).1.map (node :: ·),
          (fill devices (noted table uuid node) rest).2) := by
  rw [fill, noted]
  cases hl : table.lookup uuid with
  | some n =>
    obtain rfl : n = node := Except.ok.inj ((nodeOf_of_known hl).symm.trans h)
    rfl
  | none =>
    rw [nodeOf_of_unknown hl, reportedNode] at h
    cases hf : findByUuid? devices uuid with
    | none =>
      rw [hf] at h
      exact absurd h (by simp)
    | some d =>
      rw [hf] at h
      simp only [h]

/-- A UUID that has no node ends the lookup. -/
theorem fill_cons_of_error {e : Error} (h : nodeOf devices table uuid = .error e) :
    fill devices table (uuid :: rest) = (.error e, table) := by
  rw [fill]
  cases hl : table.lookup uuid with
  | some n => exact absurd ((nodeOf_of_known hl).symm.trans h) (by simp)
  | none =>
    rw [nodeOf_of_unknown hl, reportedNode] at h
    cases hf : findByUuid? devices uuid with
    | none =>
      rw [hf] at h
      obtain rfl := Except.error.inj h
      rfl
    | some d =>
      rw [hf] at h
      simp only [h]

/-! ## All of them -/

theorem Gains.nil (devices : List DeviceHandle) (table : NodeTable) :
    Gains devices table [] table :=
  ⟨[], (List.append_nil _).symm, .nil, by simp, by simp⟩

/-- What is noted first is gained with the others. -/
theorem Gains.cons (h : nodeOf devices table uuid = .ok node)
    (hg : Gains devices (noted table uuid node) uuids after) :
    Gains devices table (uuid :: uuids) after := by
  obtain ⟨added, rfl, hn, hkeys, hnodes⟩ := hg
  have hmissing : ∀ v, (noted table uuid node).lookup v = none ↔ v ≠ uuid ∧ table.lookup v = none := by
    intro v
    rw [lookup_noted, Option.or_eq_none_iff]
    by_cases hv : v = uuid <;> simp [hv]
  unfold noted
  cases hl : table.lookup uuid with
  | some n =>
    refine ⟨added, rfl, hn, fun v => ?_, hnodes⟩
    rw [hkeys, hmissing, List.mem_cons]
    by_cases hv : v = uuid
    · simp [hv, hl]
    · simp [hv]
  | none =>
    refine ⟨(uuid, node) :: added, by simp, ?_, fun v => ?_, ?_⟩
    · refine List.nodup_cons.mpr ⟨fun hm => ?_, hn⟩
      exact ((hmissing uuid).mp ((hkeys uuid).mp hm).2).1 rfl
    · rw [List.map_cons, List.mem_cons, hkeys, hmissing, List.mem_cons]
      by_cases hv : v = uuid
      · simp [hv, hl]
      · simp [hv]
    · refine List.forall_mem_cons.mpr ⟨?_, hnodes⟩
      rw [← nodeOf_of_unknown hl]
      exact h

/-- **What a lookup does.** Every UUID has a node, and the lookup answers with all of them; or it
fails at the first that has none. The table gains the UUIDs up to there. -/
theorem fill_cases (devices : List DeviceHandle) (table : NodeTable) (uuids : List String) :
    (∃ nodes, (fill devices table uuids).1 = .ok nodes ∧
      uuids.map (nodeOf devices table) = nodes.map .ok ∧
      Gains devices table uuids (fill devices table uuids).2) ∨
    ∃ before uuid rest e, uuids = before ++ uuid :: rest ∧
      (∀ v ∈ before, ∃ n, nodeOf devices table v = .ok n) ∧ nodeOf devices table uuid = .error e ∧
      (fill devices table uuids).1 = .error e ∧
      Gains devices table before (fill devices table uuids).2 := by
  induction uuids generalizing table with
  | nil => exact Or.inl ⟨[], rfl, rfl, .nil devices table⟩
  | cons uuid uuids ih =>
    cases h : nodeOf devices table uuid with
    | error e =>
      rw [fill_cons_of_error h]
      exact Or.inr ⟨[], uuid, uuids, e, rfl, by simp, h, rfl, .nil devices table⟩
    | ok node =>
      rw [fill_cons_of_ok h]
      have hrest := ih (noted table uuid node)
      rw [nodeOf_noted h] at hrest
      rcases hrest with ⟨nodes, hok, hnodes, hg⟩ | ⟨before, v, rest, e, rfl, hb, hv, herror, hg⟩
      · refine Or.inl ⟨node :: nodes, by rw [hok]; rfl, ?_, hg.cons h⟩
        rw [List.map_cons, List.map_cons, h, hnodes]
      · refine Or.inr ⟨uuid :: before, v, rest, e, rfl, ?_, hv, by rw [herror]; rfl, hg.cons h⟩
        exact List.forall_mem_cons.mpr ⟨⟨node, h⟩, hb⟩

/-- The answer is that of a direct lookup with the table at the start. -/
theorem fill_result (devices : List DeviceHandle) (table : NodeTable) (uuids : List String) :
    (fill devices table uuids).1 = uuids.mapM (nodeOf devices table) := by
  induction uuids generalizing table with
  | nil => rfl
  | cons uuid uuids ih =>
    rw [List.mapM_cons]
    cases h : nodeOf devices table uuid with
    | error e =>
      rw [fill_cons_of_error h]
      rfl
    | ok node =>
      rw [fill_cons_of_ok h, ih, nodeOf_noted h]
      rfl

/-- A lookup fails at the first device that is neither known nor there to be found, and keeps what
it knew. -/
theorem fill_of_unknown {before : List String} (hb : ∀ u ∈ before, ∃ n, table.lookup u = some n)
    (hu : table.lookup uuid = none) (hf : findByUuid? devices uuid = none) :
    fill devices table (before ++ uuid :: rest) = (.error (.deviceNotFound uuid), table) := by
  induction before with
  | nil =>
    apply fill_cons_of_error
    rw [nodeOf_of_unknown hu, reportedNode, hf]
  | cons u before ih =>
    obtain ⟨n, hn⟩ := hb u List.mem_cons_self
    rw [List.cons_append, fill_cons_of_ok (nodeOf_of_known hn), noted_of_known hn,
      ih fun v hv => hb v (List.mem_cons_of_mem _ hv)]
    rfl

/-! ## The table afterwards -/

theorem exists_lookup_of_mem_keys {added : NodeTable} (h : v ∈ added.map Prod.fst) :
    ∃ n, added.lookup v = some n ∧ (v, n) ∈ added := by
  cases hl : added.lookup v with
  | none =>
    obtain ⟨e, he, rfl⟩ := List.mem_map.mp h
    exact absurd (List.lookup_eq_none_iff.mp hl e he) (by simp)
  | some n =>
    obtain ⟨before, after, rfl, -⟩ := List.lookup_eq_some_iff.mp hl
    exact ⟨n, rfl, by simp⟩

namespace Gains

theorem kept (hg : Gains devices table uuids after) (h : table.lookup v = some node) :
    after.lookup v = some node := by
  obtain ⟨added, rfl, -⟩ := hg
  rw [List.lookup_append, h, Option.some_or]

/-- What is gained was asked for, and is on the node that its device reports. -/
theorem reported (hg : Gains devices table uuids after) (hnone : table.lookup v = none)
    (h : after.lookup v = some node) : v ∈ uuids ∧ reportedNode devices v = .ok node := by
  obtain ⟨added, rfl, -, hkeys, hnodes⟩ := hg
  rw [List.lookup_append, hnone, Option.none_or] at h
  obtain ⟨before, after, rfl, -⟩ := List.lookup_eq_some_iff.mp h
  exact ⟨((hkeys v).mp (by simp)).1, hnodes (v, node) (by simp)⟩

/-- The table has the UUIDs that were asked for, on their nodes. -/
theorem lookup_eq (hg : Gains devices table uuids after) (hv : v ∈ uuids)
    (h : nodeOf devices table v = .ok node) : after.lookup v = some node := by
  cases hl : table.lookup v with
  | some n =>
    obtain rfl : n = node := Except.ok.inj ((nodeOf_of_known hl).symm.trans h)
    exact hg.kept hl
  | none =>
    obtain ⟨added, rfl, -, hkeys, hnodes⟩ := hg
    obtain ⟨n, hn, hm⟩ := exists_lookup_of_mem_keys ((hkeys v).mpr ⟨hv, hl⟩)
    have hreport : reportedNode devices v = .ok n := hnodes (v, n) hm
    rw [nodeOf_of_unknown hl] at h
    rw [List.lookup_append, hl, Option.none_or, hn, Except.ok.inj (hreport.symm.trans h)]

theorem map_lookup {nodes : List Int} (hg : Gains devices table uuids after)
    (h : uuids.map (nodeOf devices table) = nodes.map .ok) :
    (uuids.map fun v => after.lookup v) = nodes.map some :=
  map_eq_map_of h fun _ hv _ hnode => hg.lookup_eq hv hnode

end Gains

theorem exists_gains (devices : List DeviceHandle) (table : NodeTable) (uuids : List String) :
    ∃ reached, reached ⊆ uuids ∧ Gains devices table reached (fill devices table uuids).2 := by
  rcases fill_cases devices table uuids with ⟨-, -, -, hg⟩ | ⟨before, v, rest, -, rfl, -, -, -, hg⟩
  · exact ⟨uuids, List.Subset.refl _, hg⟩
  · exact ⟨before, List.subset_append_left _ _, hg⟩

/-- A lookup keeps what is in the table. -/
theorem fill_keeps (uuids : List String) (h : table.lookup v = some node) :
    (fill devices table uuids).2.lookup v = some node := by
  obtain ⟨reached, -, hg⟩ := exists_gains devices table uuids
  exact hg.kept h

/-- What a lookup adds was asked for, and is on the node that its device reports. -/
theorem fill_adds (hnone : table.lookup v = none)
    (h : (fill devices table uuids).2.lookup v = some node) :
    v ∈ uuids ∧ ∃ d, findByUuid? devices v = some d ∧ d.node = .ok node := by
  obtain ⟨reached, hsub, hg⟩ := exists_gains devices table uuids
  obtain ⟨hv, hreport⟩ := hg.reported hnone h
  exact ⟨hsub hv, reportedNode_eq_ok_iff.mp hreport⟩

/-- A lookup that succeeds answers what the table has after it. -/
theorem fill_answers {nodes : List Int} (h : (fill devices table uuids).1 = .ok nodes) :
    (uuids.map fun v => (fill devices table uuids).2.lookup v) = nodes.map some := by
  rcases fill_cases devices table uuids with ⟨nodes', hok, hnodes, hg⟩ | ⟨_, _, _, e, _, _, _, he, _⟩
  · obtain rfl := Except.ok.inj (h.symm.trans hok)
    exact hg.map_lookup hnodes
  · exact absurd (h.symm.trans he) (by simp)

end

end Cache
end GpuPlacement.Numa
