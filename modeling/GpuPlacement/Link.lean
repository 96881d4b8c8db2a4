import GpuPlacement.Text.Numeral
import GpuPlacement.Text.Quoted
import GpuPlacement.Text.Split

/-!
# Links between devices

A link is either one of six PCIe relations, named for the closest common ancestor of the
two devices, or a bundle of parallel NVLinks. Its points say how much the link is worth
when groups of devices are compared; its name is how topology files write it.
-/

set_option autoImplicit false

namespace GpuPlacement

/-- The nature of a link between two devices, from the farthest apart to the closest. -/
inductive Link where
  | crossCpu
  | sameCpu
  | hostBridge
  | multiSwitch
  | singleSwitch
  | sameBoard
  /-- `count` parallel NVLinks. Reading a name admits counts from 1 to 12 only. -/
  | nvlink (count : Nat)
  deriving DecidableEq, Repr

/-- The largest number of parallel NVLinks that counts. -/
def maxNvlinks : Nat := 12

/-- Why a text names no link. -/
inductive LinkError where
  | unknown (name : String)
  | countOutOfRange (count : Nat)
  deriving DecidableEq, Repr

def LinkError.message : LinkError → String
  | .unknown name => s!"unknown link type {Text.quoted name}"
  | .countOutOfRange count => s!"nvlink count {count} outside 1..={maxNvlinks}"

namespace Link

def nvlink? (count : Nat) : Option Link :=
  if 1 ≤ count ∧ count ≤ maxNvlinks then some (.nvlink count) else none

/-- What a link is worth. Counts beyond the largest are capped. -/
def points : Link → Nat
  | .crossCpu => 10
  | .sameCpu => 20
  | .hostBridge => 30
  | .multiSwitch => 40
  | .singleSwitch => 50
  | .sameBoard => 60
  | .nvlink count => 100 * min count maxNvlinks

def nvlinkStart : String := "nvlink-"

/-- The name of a link in topology files and output. -/
def name : Link → String
  | .crossCpu => "cross-cpu"
  | .sameCpu => "same-cpu"
  | .hostBridge => "host-bridge"
  | .multiSwitch => "multi-switch"
  | .singleSwitch => "single-switch"
  | .sameBoard => "same-board"
  | .nvlink count => nvlinkStart ++ toString count

def nvlinkCount? : Link → Option Nat
  | .nvlink count => some count
  | _ => none

/-- The count behind `nvlink-`: a numeral below 256. -/
def nvlinkCountOf? (s : String) : Option Nat :=
  (Text.dropStart? nvlinkStart.toList s.toList).bind fun digits =>
    (Text.readNat Text.maxU8 digits).toOption

/-- The link of a name. A text that is no name at all is unknown; a numeral out of range is
an error of its own. -/
def ofName (s : String) : Except LinkError Link :=
  match s with
  | "cross-cpu" => .ok .crossCpu
  | "same-cpu" => .ok .sameCpu
  | "host-bridge" => .ok .hostBridge
  | "multi-switch" => .ok .multiSwitch
  | "single-switch" => .ok .singleSwitch
  | "same-board" => .ok .sameBoard
  | other =>
    match nvlinkCountOf? other with
    | none => .error (.unknown other)
    | some count =>
      match nvlink? count with
      | some link => .ok link
      | none => .error (.countOutOfRange count)

/-- No link is worth more than twelve NVLinks. -/
theorem points_le (l : Link) : l.points ≤ 1200 := by
  cases l <;> simp [points, maxNvlinks]
  omega

end Link
end GpuPlacement
