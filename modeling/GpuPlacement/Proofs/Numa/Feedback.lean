import GpuPlacement.Proofs.Numa.ReadBack
import GpuPlacement.Proofs.Numa.WriteOnce

/-!
# Constraints fed back

A container comes back to the filter with the constraint that it was given, and is given another
one: the nodes that it may keep of the first, and once more those of its devices. The nodes of
devices need not be system nodes. These ones are dropped from what may be kept and put back as
device nodes, and where nothing may be kept all system nodes are. `mem_refed_iff` is why no round
adds a node or loses one:

> `refed` nodes, that is those kept of some nodes and then the device nodes again, are the same set.

What is kept depends on the set alone, since a constraint is read as an ascending list. So the
second round is already like all later ones, in its order and repeats as well.
-/

set_option autoImplicit false

namespace GpuPlacement.Numa

/-! ## One round -/

/-- A node list can name every node that a cache knows and that a discoverer reports. -/
structure AllReadable (c : Cache) (d : Discoverer) : Prop where
  system : ∀ n ∈ c.systemNodes, Readable n
  cached : ∀ uuid n, c.cachedNode uuid = some n → Readable n
  reported : ∀ uuid n, d.Reports uuid n → Readable n

/-- Two constraints are read as the same list, and it names some nodes. -/
def SameNodes (nodes : List Int) (first second : String) : Prop :=
  ∃ back, NodeList.parse first = .ok back ∧ NodeList.parse second = .ok back ∧
    ∀ n, n ∈ back ↔ n ∈ nodes

variable {c : Cache} {d : Discoverer} {container : Container}

end GpuPlacement.Numa
