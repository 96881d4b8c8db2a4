import GpuPlacement.Error
import GpuPlacement.Text.Numeral

/-!
# Errors of NUMA placement

As elsewhere an error is its cause, and the wording stands in the `message` functions.
-/

set_option autoImplicit false

namespace GpuPlacement.Numa

/-- Why the system nodes could not be found. -/
inductive SystemCause where
  | unlistable (path : String) (cause : FileError)
  | unreadableCpus (node : Int) (cause : FileError)
  | other (text : String)
  deriving DecidableEq, Repr

def SystemCause.message : SystemCause → String
  | .unlistable path cause => s!"failed to list {path}: {cause.message}"
  | .unreadableCpus node cause =>
    s!"failed to read CPU list for NUMA node {node}: {cause.message}"
  | .other text => text

/-- Why the node of a device is not known. -/
inductive NodeCause where
  | negative
  | noAffinity
  | noSource
  | malformed (text : String) (cause : Text.NumeralError)
  | other (text : String)
  deriving DecidableEq, Repr

def NodeCause.message : NodeCause → String
  | .negative => "negative NUMA node in topology"
  | .noAffinity => "no NUMA affinity reported by sysfs"
  | .noSource => "neither a NUMA node nor a PCI bus ID is known"
  | .malformed text cause =>
    s!"error parsing value for NUMA node {Text.quoted text}: {cause.message}"
  | .other text => text

/-- What is wrong with a node list. -/
inductive NodeListCause where
  | invalidNode (piece : String) (cause : Text.NumeralError)
  | invalidRange (part : String) (first last : Nat)
  | other (text : String)
  deriving DecidableEq, Repr

def NodeListCause.message : NodeListCause → String
  | .invalidNode piece cause => s!"invalid node {Text.quoted piece}: {cause.message}"
  | .invalidRange part first last =>
    s!"invalid range {Text.quoted part} ({first} > {last})"
  | .other text => text

/-- An error of NUMA placement. -/
inductive Error where
  | notInitialized
  | systemNodes (cause : SystemCause)
  | discovery (text : String)
  | deviceNotFound (uuid : String)
  | numaNode (uuid : String) (cause : NodeCause)
  | invalidNodeList (input : String) (cause : NodeListCause)
  | file (cause : FileError)
  deriving DecidableEq, Repr

def Error.message : Error → String
  | .notInitialized => "NUMA topology not initialized"
  | .systemNodes cause => s!"failed to get system NUMA nodes: {cause.message}"
  | .discovery text => s!"failed to get devices: {text}"
  | .deviceNotFound uuid => s!"device with UUID {uuid} not found"
  | .numaNode uuid cause => s!"failed to get NUMA node for device {uuid}: {cause.message}"
  | .invalidNodeList input cause =>
    s!"failed to parse NUMA nodes from {Text.quoted input}: {cause.message}"
  | .file cause => s!"IO error: {cause.message}"

/-- An error met while devices were looked for. -/
def Error.ofTopology (e : GpuPlacement.Error) : Error := .discovery e.message

end GpuPlacement.Numa
