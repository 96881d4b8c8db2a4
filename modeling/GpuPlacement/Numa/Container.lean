import GpuPlacement.Text.Split

/-!
# Containers

The parts of a container that placement looks at.
-/

set_option autoImplicit false

namespace GpuPlacement.Numa

/-- A container as its lifecycle hooks see it. -/
structure Container where
  id : String
  /-- The environment, entries of the form `key=value`. -/
  env : List String
  /-- The memory nodes it is constrained to so far, as a node list. -/
  mems : Option String
  deriving DecidableEq, Repr

namespace Container

def envEntry (key value : String) : String := s!"{key}={value}"

/-- The value of an environment entry, if it is one of `key`. -/
def valueOf? (key entry : String) : Option String :=
  (Text.dropStart? (key.toList ++ ['=']) entry.toList).map String.ofList

/-- The value of the first entry of `key`. -/
def envValue (c : Container) (key : String) : Option String := c.env.findSome? (valueOf? key)

end Container
end GpuPlacement.Numa
