import GpuPlacement.Numa.Filter
import GpuPlacement.Proofs.Numa.Cache

/-!
# Runs of the filter

The calls of the lifecycle filter (Numa/Filter.lean), each made at a moment of the node: what the
system and the discoverer answer may be anything and may change from call to call.

`step_cases` says once what a call can do to the filter: nothing, start it, or look the devices
that it asks for up in the cache (Proofs/Numa/Cache.lean).
-/

set_option autoImplicit false

namespace GpuPlacement.Numa

/-- The calls that a filter takes. -/
inductive FilterCall where
  | start
  | createContainer (container : Container)
  | updateContainer (container : Container)
  | resolve (container : Container)
  | deviceNodes (uuids : List String)
  deriving DecidableEq, Repr

/-- The UUIDs whose nodes a call asks for: those it names, or those of the devices that its
container sees. -/
def FilterCall.requested (d : Discoverer) : FilterCall → Except Error (List String)
  | .start => .ok []
  | .createContainer container => (d.assignedDevices container).result
  | .updateContainer container => (d.assignedDevices container).result
  | .resolve container => (d.assignedDevices container).result
  | .deviceNodes uuids => .ok uuids

/-- What a node answers at one moment. -/
structure Moment where
  system : Except Error (List Int)
  discoverer : Discoverer

/-! ## Calls of the filter -/

namespace Filter

/-- The filter after a call. -/
def step (f : Filter) (m : Moment) : FilterCall → Filter
  | .start => (f.start m.system m.discoverer).2
  | .createContainer container => (f.createContainer m.discoverer container).2
  | .updateContainer container => (f.updateContainer m.discoverer container).2
  | .resolve container => (f.resolve m.discoverer container).2
  | .deviceNodes uuids => (f.deviceNodes m.discoverer uuids).2

/-- The filter after calls in turn, each at its own moment. -/
def run (f : Filter) (calls : List (Moment × FilterCall)) : Filter :=
  calls.foldl (fun f call => f.step call.1 call.2) f

@[simp] theorem run_nil (f : Filter) : f.run [] = f := rfl

@[simp] theorem run_cons (f : Filter) (call : Moment × FilterCall)
    (calls : List (Moment × FilterCall)) :
    f.run (call :: calls) = (f.step call.1 call.2).run calls := rfl

theorem start_of_error {f : Filter} {system : Except Error (List Int)} {d : Discoverer} {e : Error}
    (hc : f.cache = none) (hd : (Cache.discover system d).result = .error e) :
    (f.start system d).1.result = .error e ∧ (f.start system d).2 = f := by
  rw [start, hc]
  simp only [hd, and_self]

theorem start_of_ok {f : Filter} {system : Except Error (List Int)} {d : Discoverer} {c : Cache}
    (hc : f.cache = none) (hd : (Cache.discover system d).result = .ok c) :
    (f.start system d).1.result = .ok () ∧ (f.start system d).2 = ⟨some c⟩ := by
  rw [start, hc]
  simp only [hd, and_self]

/-- **What a call can do.** It changes nothing; or it starts the filter; or it looks the devices
that it asks for up in the cache of a filter that has been started. -/
theorem step_cases (f : Filter) (m : Moment) (call : FilterCall) :
    f.step m call = f ∨
      (f.cache = none ∧ call = .start ∧ ∃ c,
        (Cache.discover m.system m.discoverer).result = .ok c ∧ f.step m call = ⟨some c⟩) ∨
      ∃ c uuids, f.cache = some c ∧ call.requested m.discoverer = .ok uuids ∧
        f.step m call = ⟨some (c.deviceNodes m.discoverer uuids).2⟩ := by
  -- Both hooks do what `resolve` does, and join the nodes.
  have hresolve : ∀ container, (f.resolve m.discoverer container).2 = f ∨
      ∃ c uuids, f.cache = some c ∧ (m.discoverer.assignedDevices container).result = .ok uuids ∧
        (f.resolve m.discoverer container).2 = ⟨some (c.deviceNodes m.discoverer uuids).2⟩ := by
    intro container
    unfold Filter.resolve withCache
    cases hc : f.cache with
    | none => exact Or.inl rfl
    | some c =>
      rcases c.resolve_cases m.discoverer container with hsame | ⟨uuids, ha, hlook⟩
      · apply Or.inl
        show Filter.mk (some (c.resolve m.discoverer container).2) = f
        rw [hsame, ← hc]
      · exact Or.inr ⟨c, uuids, rfl, ha, congrArg (fun c => Filter.mk (some c)) hlook⟩
  cases call with
  | start =>
    cases hc : f.cache with
    | some c =>
      apply Or.inl
      rw [step, start, hc]
    | none =>
      cases hd : (Cache.discover m.system m.discoverer).result with
      | error e => exact Or.inl (start_of_error hc hd).2
      | ok c => exact Or.inr (Or.inl ⟨rfl, rfl, c, rfl, (start_of_ok hc hd).2⟩)
  | createContainer container => exact (hresolve container).imp_right Or.inr
  | updateContainer container => exact (hresolve container).imp_right Or.inr
  | resolve container => exact (hresolve container).imp_right Or.inr
  | deviceNodes uuids =>
    unfold step deviceNodes withCache
    cases hc : f.cache with
    | none => exact Or.inl rfl
    | some c => exact Or.inr (Or.inr ⟨c, uuids, rfl, rfl, rfl⟩)

end Filter
end GpuPlacement.Numa
