/-!
# Requests by their numbers

What every policy refuses without looking at a device.
-/

set_option autoImplicit false

namespace GpuPlacement

/-- Whether a request for `size` of `available` devices, `required` of them named, can be
satisfied by no policy: it asks for nothing, for more than there is, or names more than it asks
for. -/
def isUnsatisfiable (available required size : Nat) : Bool :=
  size == 0 || decide (available < size) || decide (size < required)

theorem isUnsatisfiable_eq_false_iff {available required size : Nat} :
    isUnsatisfiable available required size = false ↔
      0 < size ∧ size ≤ available ∧ required ≤ size := by
  simp [isUnsatisfiable, Nat.pos_iff_ne_zero, and_assoc]

end GpuPlacement
