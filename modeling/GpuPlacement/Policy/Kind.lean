/-!
# The names of the allocation policies

How a configuration file or a command line chooses the policy.
-/

set_option autoImplicit false

namespace GpuPlacement

/-- The policies to choose from: a search over the links, or the fixed groups of a machine. -/
inductive PolicyKind where
  | bestEffort
  | dgx1Pascal
  | dgx1Volta
  | dgx2Volta
  deriving DecidableEq, Repr

namespace PolicyKind

def name : PolicyKind → String
  | .bestEffort => "best-effort"
  | .dgx1Pascal => "dgx1-pascal"
  | .dgx1Volta => "dgx1-volta"
  | .dgx2Volta => "dgx2-volta"

/-- Every policy, in the order in which messages list them. -/
def all : List PolicyKind := [.bestEffort, .dgx1Pascal, .dgx1Volta, .dgx2Volta]

def ofName? (s : String) : Option PolicyKind := all.find? fun kind => kind.name == s

def unknownMessage (s : String) : String := s!"unknown allocation policy: {s}"

theorem ofName?_name (kind : PolicyKind) : ofName? kind.name = some kind := by
  cases kind <;> decide

end PolicyKind
end GpuPlacement
