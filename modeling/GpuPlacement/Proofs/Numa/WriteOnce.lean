import GpuPlacement.Proofs.Numa.Run
import GpuPlacement.Proofs.Numa.Written

/-!
# The filter is written once

What a run of the filter (Proofs/Numa/Run.lean) can rely on, while the node may answer anything at
any moment. The first start that succeeds fixes the system nodes; from then on a device that is in
the cache stays there, on the node it has, and a device gets there only on the node that the
discoverer reports at that moment.

`run_extends` carries what is kept through a run. Where an entry comes from is a question about the
calls made so far and not about the state, so `exists_brings` goes back from the last of them; and
that two answers agree needs `reply_answers`, that an answer is what the cache has after it.
-/

set_option autoImplicit false

namespace GpuPlacement.Numa

/-! ## Replies of the filter -/

/-- What a call answers. -/
inductive Answer where
  | started
  | constraint (text : Option String)
  | nodes (nodes : List Int)
  deriving DecidableEq, Repr

/-- The answer of a call that comes to some nodes. -/
def FilterCall.answer (nodes : List Int) : FilterCall → Answer
  | .start => .started
  | .createContainer _ => .constraint (Filter.constraint nodes)
  | .updateContainer _ => .constraint (Filter.constraint nodes)
  | .resolve _ => .nodes nodes
  | .deviceNodes _ => .nodes nodes

namespace Filter

/-- The reply to a call, whose other half `step` is. -/
def reply (f : Filter) (m : Moment) : FilterCall → Reply Answer
  | .start => (fun _ => .started) <$> (f.start m.system m.discoverer).1
  | .createContainer container => .constraint <$> (f.createContainer m.discoverer container).1
  | .updateContainer container => .constraint <$> (f.updateContainer m.discoverer container).1
  | .resolve container => .nodes <$> (f.resolve m.discoverer container).1
  | .deviceNodes uuids => .nodes <$> (f.deviceNodes m.discoverer uuids).1

def cachedNode (f : Filter) (uuid : String) : Option Int := f.cache.bind (·.cachedNode uuid)

theorem cachedNode_of_cache {f : Filter} {c : Cache} (h : f.cache = some c) :
    f.cachedNode = c.cachedNode := by
  funext uuid
  rw [cachedNode, h]
  rfl

/-- A call of a filter that has not been started asks nothing. -/
theorem reply_of_unstarted {f : Filter} (h : f.cache = none) (m : Moment) {call : FilterCall}
    (hcall : call ≠ .start) : f.reply m call = ⟨.error .notInitialized, []⟩ := by
  have hwith : ∀ {α : Type} (run : Cache → Reply α × Cache),
      (f.withCache run).1 = .of (.error .notInitialized) := by
    intro α run
    rw [withCache, h]
  cases call with
  | start => exact absurd rfl hcall
  | createContainer container =>
    show Answer.constraint <$> Filter.constraint <$> (f.resolve m.discoverer container).1 = _
    rw [Filter.resolve, hwith]
    rfl
  | updateContainer container =>
    show Answer.constraint <$> Filter.constraint <$> (f.resolve m.discoverer container).1 = _
    rw [Filter.resolve, hwith]
    rfl
  | resolve container =>
    rw [reply, Filter.resolve, hwith]
    rfl
  | deviceNodes uuids =>
    rw [reply, deviceNodes, hwith]
    rfl

theorem reply_start_of_ok {f : Filter} {m : Moment} {c : Cache} (hc : f.cache = none)
    (hd : (Cache.discover m.system m.discoverer).result = .ok c) :
    (f.reply m .start).result = .ok .started := by
  rw [reply, Reply.result_map, (start_of_ok hc hd).1]
  rfl

/-- What a start can do. -/
theorem start_cases (f : Filter) (m : Moment) :
    (∃ c, f.cache = some c ∧ f.reply m .start = ⟨.ok .started, []⟩ ∧ f.step m .start = f) ∨
    (f.cache = none ∧ ∃ c, (Cache.discover m.system m.discoverer).result = .ok c ∧
      (f.reply m .start).result = .ok .started ∧ f.step m .start = ⟨some c⟩) ∨
    (f.cache = none ∧ ∃ e, (f.reply m .start).result = .error e ∧ f.step m .start = f) := by
  cases hc : f.cache with
  | some c =>
    refine Or.inl ⟨c, rfl, ?_, ?_⟩
    · rw [reply, start, hc]
      rfl
    · rw [step, start, hc]
  | none =>
    apply Or.inr
    cases hd : (Cache.discover m.system m.discoverer).result with
    | ok c => exact Or.inl ⟨rfl, c, rfl, reply_start_of_ok hc hd, (start_of_ok hc hd).2⟩
    | error e =>
      obtain ⟨hresult, hsame⟩ := start_of_error hc hd
      refine Or.inr ⟨rfl, e, ?_, hsame⟩
      rw [reply, Reply.result_map, hresult]
      rfl

/-- An operation on the cache that succeeds has found one. -/
theorem withCache_eq_ok {α : Type} {f : Filter} {run : Cache → Reply α × Cache} {a : α}
    (h : (f.withCache run).1.result = .ok a) :
    ∃ c, (run c).1.result = .ok a ∧ (f.withCache run).2 = ⟨some (run c).2⟩ := by
  unfold withCache at h ⊢
  cases hc : f.cache with
  | none =>
    rw [hc] at h
    exact absurd h (by simp [Reply.of])
  | some c =>
    rw [hc] at h
    exact ⟨c, h, rfl⟩

theorem deviceNodes_answers {f : Filter} {d : Discoverer} {uuids : List String} {nodes : List Int}
    (h : (f.deviceNodes d uuids).1.result = .ok nodes) :
    uuids.map (f.deviceNodes d uuids).2.cachedNode = nodes.map some := by
  obtain ⟨c, hn, hafter⟩ := withCache_eq_ok h
  rw [deviceNodes, hafter, cachedNode_of_cache rfl]
  exact Cache.deviceNodes_answers hn

/-- The nodes a container gets stand in the cache afterwards, behind those it keeps. -/
theorem resolve_answers {f : Filter} {d : Discoverer} {container : Container} {all : List Int}
    (h : (f.resolve d container).1.result = .ok all) :
    ∃ uuids base nodes, (d.assignedDevices container).result = .ok uuids ∧ all = base ++ nodes ∧
      uuids.map (f.resolve d container).2.cachedNode = nodes.map some := by
  obtain ⟨c, hall, hafter⟩ := withCache_eq_ok h
  obtain ⟨base, uuids, nodes, -, ha, hn, rfl, hcache⟩ := Cache.resolve_eq_ok hall
  refine ⟨uuids, base, nodes, ha, rfl, ?_⟩
  rw [Filter.resolve, hafter, cachedNode_of_cache rfl, hcache]
  exact Cache.deviceNodes_answers hn

theorem adjust_answers {f : Filter} {d : Discoverer} {container : Container} {text : Option String}
    (h : (f.adjust d container).1.result = .ok text) :
    ∃ uuids base nodes, (d.assignedDevices container).result = .ok uuids ∧
      text = constraint (base ++ nodes) ∧
      uuids.map (f.adjust d container).2.cachedNode = nodes.map some := by
  obtain ⟨all, hall, rfl⟩ := Reply.exists_of_map_eq_ok (f := constraint) h
  obtain ⟨uuids, base, nodes, ha, rfl, hcached⟩ := resolve_answers hall
  exact ⟨uuids, base, nodes, ha, rfl, hcached⟩

/-- **What a call answers.** Behind some nodes that it keeps there are those of the devices it asks
for, which stand in the cache afterwards. -/
theorem reply_answers {f : Filter} {m : Moment} {call : FilterCall} {a : Answer}
    (h : (f.reply m call).result = .ok a) :
    ∃ uuids base nodes, call.requested m.discoverer = .ok uuids ∧
      a = call.answer (base ++ nodes) ∧
      uuids.map (f.step m call).cachedNode = nodes.map some := by
  cases call with
  | start =>
    obtain ⟨-, -, rfl⟩ := Reply.exists_of_map_eq_ok h
    exact ⟨[], [], [], rfl, rfl, rfl⟩
  | createContainer container | updateContainer container =>
    obtain ⟨text, htext, rfl⟩ := Reply.exists_of_map_eq_ok h
    obtain ⟨uuids, base, nodes, ha, rfl, hcached⟩ := adjust_answers htext
    exact ⟨uuids, base, nodes, ha, rfl, hcached⟩
  | resolve container =>
    obtain ⟨all, hall, rfl⟩ := Reply.exists_of_map_eq_ok h
    obtain ⟨uuids, base, nodes, ha, rfl, hcached⟩ := resolve_answers hall
    exact ⟨uuids, base, nodes, ha, rfl, hcached⟩
  | deviceNodes uuids =>
    obtain ⟨nodes, hn, rfl⟩ := Reply.exists_of_map_eq_ok h
    exact ⟨uuids, [], nodes, rfl, rfl, deviceNodes_answers hn⟩

/-! ## Steps and runs -/

/-- A filter that has been started only learns. -/
theorem step_extends {f : Filter} {c : Cache} (h : f.cache = some c) (m : Moment)
    (call : FilterCall) : ∃ c', (f.step m call).cache = some c' ∧ c'.Extends c := by
  rcases f.step_cases m call with hsame | ⟨hnone, -⟩ | ⟨c', uuids, hc, -, hlook⟩
  · exact ⟨c, by rw [hsame, h], .refl c⟩
  · rw [h] at hnone
    exact absurd hnone (by simp)
  · rw [h] at hc
    obtain rfl := Option.some.inj hc
    exact ⟨_, by rw [hlook], c.deviceNodes_extends m.discoverer uuids⟩

theorem run_extends {f : Filter} {c : Cache} (h : f.cache = some c)
    (calls : List (Moment × FilterCall)) :
    ∃ c', (f.run calls).cache = some c' ∧ c'.Extends c := by
  induction calls generalizing f c with
  | nil => exact ⟨c, h, .refl c⟩
  | cons call calls ih =>
    obtain ⟨c', hc', hext⟩ := step_extends h call.1 call.2
    obtain ⟨c'', hc'', hext'⟩ := ih hc'
    exact ⟨c'', hc'', hext'.trans hext⟩

/-- A filter is started by a start that succeeds, and stays so. -/
theorem step_started_iff (f : Filter) (m : Moment) (call : FilterCall) :
    (∃ c, (f.step m call).cache = some c) ↔
      (∃ c, f.cache = some c) ∨ (call = .start ∧ (f.reply m call).result = .ok .started) := by
  constructor
  · rintro ⟨c', hc'⟩
    rcases f.step_cases m call with hsame | ⟨hnone, rfl, c, hd, -⟩ | ⟨c, uuids, hc, -⟩
    · exact Or.inl ⟨c', by rw [← hsame, hc']⟩
    · exact Or.inr ⟨rfl, reply_start_of_ok hnone hd⟩
    · exact Or.inl ⟨c, hc⟩
  · rintro (⟨c, hc⟩ | ⟨rfl, hok⟩)
    · obtain ⟨c', hc', -⟩ := step_extends hc m call
      exact ⟨c', hc'⟩
    · rcases f.start_cases m with ⟨c, hc, -, hs⟩ | ⟨-, c, -, -, hs⟩ | ⟨-, e, he, -⟩
      · exact ⟨c, by rw [hs, hc]⟩
      · exact ⟨c, by rw [hs]⟩
      · rw [hok] at he
        exact absurd he (by simp)

/-- Where an entry comes from: the discoverer reports it at a start, or at a lookup of it. -/
theorem step_adds {f : Filter} {m : Moment} {call : FilterCall} {uuid : String} {node : Int}
    (hnone : f.cachedNode uuid = none) (h : (f.step m call).cachedNode uuid = some node) :
    m.discoverer.Reports uuid node ∧
      ((f.cache = none ∧ call = .start ∧ (f.reply m call).result = .ok .started) ∨
        ∃ c uuids, f.cache = some c ∧ call.requested m.discoverer = .ok uuids ∧ uuid ∈ uuids) := by
  rcases f.step_cases m call with hsame | ⟨hc, rfl, c, hd, hstart⟩ | ⟨c, uuids, hc, hreq, hlook⟩
  · rw [hsame, hnone] at h
    exact absurd h (by simp)
  · obtain ⟨devices, -, hdevices, htable⟩ := Cache.discover_eq_ok hd
    rw [hstart, cachedNode_of_cache rfl] at h
    obtain ⟨d, hf, hn⟩ := Cache.findByUuid?_of_lookup_tableOf htable h
    exact ⟨⟨devices, d, hdevices, hf, hn⟩, Or.inl ⟨hc, rfl, reply_start_of_ok hc hd⟩⟩
  · rw [cachedNode_of_cache hc] at hnone
    rw [hlook, cachedNode_of_cache rfl] at h
    obtain ⟨hmem, hrep⟩ := Cache.deviceNodes_adds hnone h
    exact ⟨hrep, Or.inr ⟨c, uuids, hc, hreq, hmem⟩⟩

/-- The filter after calls from the very beginning. -/
def after (calls : List (Moment × FilterCall)) : Filter := Filter.new.run calls

theorem run_append (f : Filter) (calls more : List (Moment × FilterCall)) :
    f.run (calls ++ more) = (f.run calls).run more := List.foldl_append

theorem after_concat (calls : List (Moment × FilterCall)) (m : Moment) (call : FilterCall) :
    after (calls ++ [(m, call)]) = (after calls).step m call := run_append Filter.new calls _

/-- One of some calls is a start that succeeds. -/
def StartedBy (calls : List (Moment × FilterCall)) : Prop :=
  ∃ before m, before ++ [(m, .start)] <+: calls ∧
    ((after before).reply m .start).result = .ok .started

theorem StartedBy.mono {calls more : List (Moment × FilterCall)} (h : StartedBy calls)
    (hp : calls <+: more) : StartedBy more := by
  obtain ⟨before, m, hb, hok⟩ := h
  exact ⟨before, m, hb.trans hp, hok⟩

/-- A filter has a cache once a start has succeeded. -/
theorem startedBy_iff (calls : List (Moment × FilterCall)) :
    StartedBy calls ↔ ∃ c, (after calls).cache = some c := by
  induction calls using List.reverseRecOn with
  | nil =>
    refine iff_of_false (fun h => ?_) (fun h => ?_)
    · obtain ⟨before, m, hp, -⟩ := h
      exact absurd (List.prefix_nil.mp hp) (by simp)
    · obtain ⟨c, hc⟩ := h
      exact absurd hc (by simp [after, Filter.new])
  | append_singleton calls last ih =>
    obtain ⟨m, call⟩ := last
    rw [after_concat, step_started_iff, ← ih]
    constructor
    · intro h
      obtain ⟨before, m', hp, hok⟩ := h
      rcases List.prefix_concat_iff.mp hp with heq | hp
      · obtain ⟨rfl, hlast⟩ := List.append_inj' heq rfl
        obtain ⟨rfl, rfl⟩ := Prod.mk.inj (List.cons.inj hlast).1
        exact Or.inr ⟨rfl, hok⟩
      · exact Or.inl ⟨before, m', hp, hok⟩
    · rintro (h | ⟨rfl, hok⟩)
      · exact h.mono (List.prefix_append _ _)
      · exact ⟨calls, m, List.prefix_refl _, hok⟩

/-- What is in the cache stays there. -/
theorem cachedNode_mono {earlier later : List (Moment × FilterCall)}
    (hp : earlier <+: later) {uuid : String} {node : Int}
    (h : (after earlier).cachedNode uuid = some node) :
    (after later).cachedNode uuid = some node := by
  obtain ⟨more, rfl⟩ := hp
  obtain ⟨c, hc, hn⟩ := Option.bind_eq_some_iff.mp h
  obtain ⟨c', hc', hext⟩ := run_extends hc more
  have hafter : (after (earlier ++ more)).cache = some c' := by
    rw [after, run_append]
    exact hc'
  rw [cachedNode_of_cache hafter]
  exact hext.kept hn

/-! ## Runs from the beginning -/

/-- A call answers that the device of a UUID is on a node: the UUID is one of those that it asks
for, and the node stands at its place behind the nodes that are kept. -/
def Finds (f : Filter) (m : Moment) (call : FilterCall) (uuid : String) (node : Int) : Prop :=
  ∃ uuids base nodes, call.requested m.discoverer = .ok uuids ∧ nodes.length = uuids.length ∧
    (f.reply m call).result = .ok (call.answer (base ++ nodes)) ∧ (uuid, node) ∈ uuids.zip nodes

/-- What is found is in the cache afterwards. -/
theorem Finds.cachedNode_step {f : Filter} {m : Moment} {call : FilterCall} {uuid : String}
    {node : Int} (h : Finds f m call uuid node) :
    (f.step m call).cachedNode uuid = some node := by
  obtain ⟨uuids, base, nodes, hreq, hlen, hok, hmem⟩ := h
  obtain ⟨uuids', base', nodes', hreq', hanswer, hcached⟩ := reply_answers hok
  obtain rfl := Except.ok.inj (hreq.symm.trans hreq')
  have hlen' : nodes'.length = uuids.length := by
    simpa using (congrArg List.length hcached).symm
  -- The answer determines all nodes in it, and the number of UUIDs which of them are new.
  have hnodes : nodes = nodes' := by
    have happ : ∀ h : base ++ nodes = base' ++ nodes', nodes = nodes' := fun h =>
      (List.append_inj' h (hlen.trans hlen'.symm)).2
    cases call with
    | start =>
      obtain rfl : uuids = [] := (Except.ok.inj hreq).symm
      rw [List.length_eq_zero_iff.mp hlen, List.length_eq_zero_iff.mp hlen']
    | createContainer | updateContainer =>
      exact happ (constraint_injective (Answer.constraint.inj hanswer))
    | resolve | deviceNodes => exact happ (Answer.nodes.inj hanswer)
  subst hnodes
  obtain ⟨i, hi, hat⟩ := List.mem_iff_getElem.mp hmem
  rw [List.getElem_zip, Prod.mk.injEq] at hat
  rw [List.length_zip] at hi
  have hmap : (uuids.map (f.step m call).cachedNode)[i]? = (nodes.map some)[i]? := by
    rw [hcached]
  rw [List.getElem?_map, List.getElem?_map, List.getElem?_eq_getElem (by omega),
    List.getElem?_eq_getElem (by omega), hat.1, hat.2] at hmap
  exact Option.some.inj hmap

/-- A call brings a device into the cache, the start or a lookup of it on a filter that has been
started, and on the node that the discoverer of that moment reports. -/
structure Brings (before : List (Moment × FilterCall)) (m : Moment) (call : FilterCall)
    (uuid : String) (node : Int) : Prop where
  missing : (after before).cachedNode uuid = none
  cached : (after (before ++ [(m, call)])).cachedNode uuid = some node
  reports : m.discoverer.Reports uuid node
  lookup :
    (¬ StartedBy before ∧ call = .start ∧ ((after before).reply m call).result = .ok .started) ∨
      (StartedBy before ∧ ∃ uuids, call.requested m.discoverer = .ok uuids ∧ uuid ∈ uuids)

/-- What holds of the calls of a run, `calls`, at every moment of it. -/
structure WriteOnce (calls : List (Moment × FilterCall)) : Prop where
  /-- Before a start has succeeded there is no cache, and every query fails without a question. -/
  unstarted : ∀ before m call, before ++ [(m, call)] <+: calls → ¬ StartedBy before →
    (after before).startedCache = .error .notInitialized ∧
      (call ≠ .start → (after before).reply m call = ⟨.error .notInitialized, []⟩)
  /-- A start that fails leaves the filter as unstarted as it was. -/
  failed : ∀ before m e, before ++ [(m, .start)] <+: calls →
    ((after before).reply m .start).result = .error e →
      ¬ StartedBy (before ++ [(m, .start)]) ∧
        (after (before ++ [(m, .start)])).startedCache = .error .notInitialized
  /-- Once a start has succeeded, others succeed too; they ask nothing and change nothing. -/
  restarted : ∀ before m, before ++ [(m, .start)] <+: calls → StartedBy before →
    (after before).reply m .start = ⟨.ok .started, []⟩ ∧
      after (before ++ [(m, .start)]) = after before
  /-- The first start that succeeds fixes the system nodes. -/
  system : ∀ before m, before ++ [(m, .start)] <+: calls → ¬ StartedBy before →
    ((after before).reply m .start).result = .ok .started →
      ∃ nodes, m.system = .ok nodes ∧
        ∀ later, before ++ [(m, .start)] <+: later → later <+: calls →
          ∃ c, (after later).startedCache = .ok c ∧ c.systemNodes = nodes
  /-- A device that is in the cache stays there, on the node it has. -/
  kept : ∀ earlier later, earlier <+: later → later <+: calls → ∀ uuid node,
    (after earlier).cachedNode uuid = some node → (after later).cachedNode uuid = some node
  /-- Two calls never find one device on two nodes. -/
  agree : ∀ before m call, before ++ [(m, call)] <+: calls →
    ∀ before' m' call', before' ++ [(m', call')] <+: calls → ∀ uuid node node',
      Finds (after before) m call uuid node → Finds (after before') m' call' uuid node' →
        node = node'
  /-- What is in the cache was brought there by one of the calls. -/
  reported : ∀ uuid node, (after calls).cachedNode uuid = some node →
    ∃ before m call, before ++ [(m, call)] <+: calls ∧ Brings before m call uuid node

variable {calls : List (Moment × FilterCall)}

theorem cache_eq_none_of_not_startedBy (h : ¬ StartedBy calls) : (after calls).cache = none := by
  cases hc : (after calls).cache with
  | none => rfl
  | some c => exact absurd ((startedBy_iff calls).mpr ⟨c, hc⟩) h

theorem startedCache_of_not_startedBy (h : ¬ StartedBy calls) :
    (after calls).startedCache = .error .notInitialized := by
  rw [startedCache, cache_eq_none_of_not_startedBy h]

/-- Entries of the cache are brought there by a call; induction on the calls, from the last one. -/
theorem exists_brings {uuid : String} {node : Int}
    (h : (after calls).cachedNode uuid = some node) :
    ∃ before m call, before ++ [(m, call)] <+: calls ∧ Brings before m call uuid node := by
  induction calls using List.reverseRecOn with
  | nil => exact absurd h (by simp [after, new, cachedNode])
  | append_singleton calls last ih =>
    obtain ⟨m, call⟩ := last
    cases hbefore : (after calls).cachedNode uuid with
    | some node' =>
      have hsame := cachedNode_mono (List.prefix_append calls [(m, call)]) hbefore
      rw [h, Option.some.injEq] at hsame
      obtain ⟨before, m', call', hp, hbrings⟩ := ih (hsame ▸ hbefore)
      exact ⟨before, m', call', hp.trans (List.prefix_append _ _), hbrings⟩
    | none =>
      refine ⟨calls, m, call, List.prefix_refl _, ?_⟩
      have hstep := h
      rw [after_concat] at hstep
      obtain ⟨hrep, ⟨hc, hstart, hok⟩ | ⟨c, uuids, hc, hreq, hmem⟩⟩ := step_adds hbefore hstep
      · refine ⟨hbefore, h, hrep, Or.inl ⟨fun hs => ?_, hstart, hok⟩⟩
        obtain ⟨c, hsome⟩ := (startedBy_iff calls).mp hs
        rw [hc] at hsome
        exact absurd hsome (by simp)
      · exact ⟨hbefore, h, hrep,
          Or.inr ⟨(startedBy_iff calls).mpr ⟨c, hc⟩, uuids, hreq, hmem⟩⟩

/-- **The filter is written once**, whatever calls are made and whatever the node answers. -/
theorem writeOnce (calls : List (Moment × FilterCall)) : WriteOnce calls where
  unstarted before m call _ hno :=
    ⟨startedCache_of_not_startedBy hno,
      fun hcall => reply_of_unstarted (cache_eq_none_of_not_startedBy hno) m hcall⟩
  failed before m e _ he := by
    rcases (after before).start_cases m with ⟨-, -, hok, -⟩ | ⟨-, -, -, hok, -⟩ | ⟨hnone, -, -, hs⟩
    · rw [hok] at he
      exact absurd he (by simp)
    · rw [hok] at he
      exact absurd he (by simp)
    · have hno : ¬ StartedBy (before ++ [(m, .start)]) := by
        rw [startedBy_iff, after_concat, hs, hnone]
        simp
      exact ⟨hno, startedCache_of_not_startedBy hno⟩
  restarted before m _ hs := by
    obtain ⟨c, hc⟩ := (startedBy_iff before).mp hs
    rcases (after before).start_cases m with ⟨-, -, hok, hsame⟩ | ⟨hnone, -⟩ | ⟨hnone, -⟩
    · exact ⟨hok, by rw [after_concat, hsame]⟩
    · rw [hc] at hnone
      exact absurd hnone (by simp)
    · rw [hc] at hnone
      exact absurd hnone (by simp)
  system before m _ hno hok := by
    rcases (after before).start_cases m with ⟨c, hc, -⟩ | ⟨-, c, hd, -, hstart⟩ | ⟨-, e, he, -⟩
    · exact absurd ((startedBy_iff before).mpr ⟨c, hc⟩) hno
    · obtain ⟨-, hsystem, -⟩ := Cache.discover_eq_ok hd
      refine ⟨c.systemNodes, hsystem, fun later hp _ => ?_⟩
      obtain ⟨more, rfl⟩ := hp
      obtain ⟨c', hc', hext⟩ := run_extends (f := after (before ++ [(m, .start)]))
        (by rw [after_concat, hstart]) more
      refine ⟨c', ?_, hext.systemNodes⟩
      rw [startedCache, after, run_append]
      unfold after at hc'
      rw [hc']
    · rw [hok] at he
      exact absurd he (by simp)
  kept earlier later hp _ uuid node hn := cachedNode_mono hp hn
  agree before m call hp before' m' call' hp' uuid node node' hf hf' := by
    -- Both are what the cache has at the end.
    have hn := hf.cachedNode_step
    have hn' := hf'.cachedNode_step
    rw [← after_concat] at hn hn'
    have hend := cachedNode_mono hp hn
    rw [cachedNode_mono hp' hn'] at hend
    exact (Option.some.inj hend).symm
  reported _ _ h := exists_brings h

/-- A device that moves after the start is still found where it was. -/
example :
    let listedOn (node : Int) : Moment :=
      ⟨.ok [0], ⟨.ok [⟨"GPU-0", "0", .ok node⟩], "VISIBLE_DEVICES"⟩⟩
    (after [(listedOn 0, .start), (listedOn 1, .start)]).reply (listedOn 1)
      (.deviceNodes ["GPU-0"]) = ⟨.ok (.nodes [0]), []⟩ := by rfl

end Filter
end GpuPlacement.Numa
