import GpuPlacement.DocumentError
import GpuPlacement.FileSystem

/-!
# Errors of allocation and topologies

Each error is its cause; the wording of all of them stands in the `message` functions. The
`other` causes carry a text from elsewhere. A `Fault` is not an error of the caller's: it says
that an invariant this library relies on does not hold of its input, and the operation that
met it is abandoned.
-/

set_option autoImplicit false

namespace GpuPlacement

/-- What is wrong with a configuration or a topology document. -/
inductive ConfigCause where
  | unreadable (cause : FileError)
  | malformed (cause : DocumentError)
  | topologyUnreadable (path : String) (cause : FileError)
  | topologyMalformed (cause : DocumentError)
  | other (text : String)
  deriving DecidableEq, Repr

def ConfigCause.message : ConfigCause → String
  | .unreadable cause => s!"Failed to read config file: {cause.message}"
  | .malformed cause => s!"Failed to parse config: {cause.message}"
  | .topologyUnreadable path cause => s!"Failed to read topology file {path}: {cause.message}"
  | .topologyMalformed cause => s!"Failed to parse topology: {cause.message}"
  | .other text => text

/-- How a topology breaks the rules of a node description. -/
inductive TopologyCause where
  | strayIndex (index position : Nat)
  | negativeNode (device : Nat) (node : Int)
  | duplicateUuid (uuid : String)
  | invalidLink (a b : Nat)
  | other (text : String)
  deriving DecidableEq, Repr

def TopologyCause.message : TopologyCause → String
  | .strayIndex index position =>
    s!"device indices must be unique and contiguous from 0, found {index} at position {position}"
  | .negativeNode device node => s!"device {device} has negative NUMA node {node}"
  | .duplicateUuid uuid => s!"duplicate device uuid {uuid}"
  | .invalidLink a b => s!"invalid link between devices {a} and {b}"
  | .other text => text

/-- Why devices could not be reserved or preferred. -/
inductive AllocationCause where
  /-- The policy finds no group of `count` among the devices that remain. -/
  | noGroup (count remaining : Nat)
  /-- Some of the devices asked for are unknown or taken. -/
  | unavailable (indices remaining : List Nat)
  | unknownAvailable (uuid : String)
  | unknownRequired (uuid : String)
  | other (text : String)
  deriving DecidableEq, Repr

def unknownDeviceMessage (uuid : String) : String := s!"no device with uuid: {uuid}"

def AllocationCause.message : AllocationCause → String
  | .noGroup count remaining => s!"unable to allocate {count} GPUs: {remaining} remaining"
  | .unavailable indices remaining =>
    s!"devices {Text.bracketed indices} are unavailable for allocation, " ++
      s!"available: {Text.bracketed remaining}"
  | .unknownAvailable uuid =>
    s!"unable to retrieve list of available devices: {unknownDeviceMessage uuid}"
  | .unknownRequired uuid =>
    s!"unable to retrieve list of required devices: {unknownDeviceMessage uuid}"
  | .other text => text

/-- An error of the library, by what it is about. -/
inductive Error where
  | config (cause : ConfigCause)
  | topology (cause : TopologyCause)
  | deviceNotFound (uuid : String)
  | allocation (cause : AllocationCause)
  | file (cause : FileError)
  | serialization (text : String)
  deriving DecidableEq, Repr

def Error.message : Error → String
  | .config cause => s!"Configuration error: {cause.message}"
  | .topology cause => s!"Topology error: {cause.message}"
  | .deviceNotFound uuid => unknownDeviceMessage uuid
  | .allocation cause => s!"Allocation error: {cause.message}"
  | .file cause => s!"IO error: {cause.message}"
  | .serialization text => s!"Serialization error: {text}"

/-- A broken invariant. -/
inductive Fault where
  /-- Two devices disagree on how many links connect them. -/
  | oneSidedLinks (a b forward backward : Nat)
  | positionOutOfBounds (length position : Nat)
  | scoreOverflow
  /-- The policy chose devices that cannot be reserved. -/
  | choiceRefused (cause : Error)
  deriving DecidableEq, Repr

def Fault.message : Fault → String
  | .oneSidedLinks a b forward backward =>
    s!"Internal error in best effort GPU allocator: links between GPU {a} and GPU {b} " ++
      s!"are not bidirectional ({forward} vs {backward})"
  | .positionOutOfBounds length position =>
    s!"index out of bounds: the len is {length} but the index is {position}"
  | .scoreOverflow => "attempt to add with overflow"
  | .choiceRefused cause => s!"Internal error while allocating GPUs: {cause.message}"

/-- Why an operation gave no answer: it was refused, or it met a broken invariant. -/
inductive Failure where
  | refused (cause : Error)
  | broken (fault : Fault)
  deriving DecidableEq, Repr

end GpuPlacement
