import GpuPlacement.Numa.Cache

/-!
# The lifecycle filter

Runs at the hooks of a container runtime and says which memory nodes a container is to be
constrained to. The filter has to be started once, which finds the nodes of the system and of
all devices; before that every hook fails.
-/

set_option autoImplicit false

namespace GpuPlacement.Numa

/-- The filter: its cache, once it has been started. -/
structure Filter where
  cache : Option Cache
  deriving DecidableEq, Repr

namespace Filter

def new : Filter := ⟨none⟩

def isStarted (f : Filter) : Bool := f.cache.isSome

def startedCache (f : Filter) : Except Error Cache :=
  match f.cache with
  | none => .error .notInitialized
  | some c => .ok c

/-- Starts the filter. A filter that has been started stays as it is and asks nothing. -/
def start (f : Filter) (system : Except Error (List Int)) (d : Discoverer) :
    Reply Unit × Filter :=
  match f.cache with
  | some _ => (pure (), f)
  | none =>
    let reply := Cache.discover system d
    match reply.result with
    | .error e => (⟨.error e, reply.queries⟩, f)
    | .ok c => (⟨.ok (), reply.queries⟩, ⟨some c⟩)

def withCache {α : Type} (f : Filter) (run : Cache → Reply α × Cache) : Reply α × Filter :=
  match f.cache with
  | none => (.of (.error .notInitialized), f)
  | some c => ((run c).1, ⟨some (run c).2⟩)

def deviceNodes (f : Filter) (d : Discoverer) (uuids : List String) :
    Reply (List Int) × Filter :=
  f.withCache fun c => c.deviceNodes d uuids

/-- The nodes a container is to be constrained to. -/
def resolve (f : Filter) (d : Discoverer) (container : Container) : Reply (List Int) × Filter :=
  f.withCache fun c => c.resolve d container

/-- Nodes as the text of a constraint; no nodes are no constraint. -/
def constraint (nodes : List Int) : Option String :=
  if nodes.isEmpty then none else some (String.intercalate "," (nodes.map toString))

/-- The constraint for a container, whether it is being created or updated. -/
def adjust (f : Filter) (d : Discoverer) (container : Container) :
    Reply (Option String) × Filter :=
  let (nodes, f) := f.resolve d container
  (constraint <$> nodes, f)

/-- The constraint for a container that is being created. -/
def createContainer (f : Filter) (d : Discoverer) (container : Container) :
    Reply (Option String) × Filter :=
  f.adjust d container

/-- The constraint for a container that is being updated. -/
def updateContainer (f : Filter) (d : Discoverer) (container : Container) :
    Reply (Option String) × Filter :=
  f.adjust d container

end Filter
end GpuPlacement.Numa
