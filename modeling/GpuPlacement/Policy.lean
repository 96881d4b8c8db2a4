import GpuPlacement.Policy.BestEffort
import GpuPlacement.Policy.FixedGroups
import GpuPlacement.Policy.Kind

/-!
# Allocation policies

A policy picks `size` of the available devices, the required ones among them, or none at all.
-/

set_option autoImplicit false

namespace GpuPlacement

/-- How devices are picked. -/
inductive Policy where
  | bestEffort
  | fixedGroups (table : FixedGroups)
  deriving DecidableEq, Repr

namespace Policy

/-- The name of a policy in logs. -/
def name : Policy → String
  | .bestEffort => "best-effort"
  | .fixedGroups table => table.name

/-- The devices for a request, empty if it cannot be satisfied. -/
def allocate (p : Policy) (available required : List Device) (size : Nat) :
    Except Fault (List Device) :=
  match p with
  | .bestEffort => GpuPlacement.bestEffort available required size
  | .fixedGroups table => .ok (table.allocate available required size)

end Policy

def PolicyKind.policy : PolicyKind → Policy
  | .bestEffort => .bestEffort
  | .dgx1Pascal => .fixedGroups .dgx1Pascal
  | .dgx1Volta => .fixedGroups .dgx1Volta
  | .dgx2Volta => .fixedGroups .dgx2Volta

end GpuPlacement
