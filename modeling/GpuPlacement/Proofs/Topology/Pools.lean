import GpuPlacement.Proofs.Policy.Groupings
import GpuPlacement.Proofs.Topology.Devices

/-!
# Pools of a node

Any devices of the list of a topology (`NodeDevices`) are a pool that the policies can work on: the
links of a pair are the same seen from both ends, so they are as many and score the same.
-/

set_option autoImplicit false

namespace GpuPlacement

namespace NodeDevices

variable {devices pool : List Device}

theorem twoSided_of_subset (h : NodeDevices devices) (hs : pool ⊆ devices) : TwoSided pool := by
  intro a ha b hb
  rw [h.symmetric a (hs ha) b (hs hb)]

theorem mutual_of_subset (h : NodeDevices devices) (hs : pool ⊆ devices) : Mutual pool := by
  intro a ha b hb
  have hsame : a.same b = b.same a := Bool.beq_comm
  rw [pairPoints, pairPoints, hsame, h.symmetric a (hs ha) b (hs hb)]

theorem nodup (h : NodeDevices devices) : devices.Nodup := by
  apply List.Nodup.of_map Device.index
  rw [h.indices]
  exact List.nodup_range

end NodeDevices

/-- The topology of `oddPool`. -/
def oddTopology : Topology where
  gpus := (List.range 5).map fun i => ⟨i, s!"GPU-{i}", none, none, []⟩
  links := [⟨1, 4, [.nvlink 3]⟩, ⟨2, 3, [.nvlink 1]⟩]

theorem devices_oddTopology : oddTopology.devices = .ok oddPool := by
  rw [Topology.devices, Topology.byIndex, List.mergeSort_of_pairwise (by decide)]
  rfl

end GpuPlacement
