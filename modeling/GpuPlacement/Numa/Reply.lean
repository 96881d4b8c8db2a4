import GpuPlacement.Numa.Error

/-!
# Replies

What an operation answers, together with the questions it put to the node on the way. Asking for
the devices or for the system nodes is the expensive part of placement, so when it happens, and
how often, is part of what the operations promise.
-/

set_option autoImplicit false

namespace GpuPlacement.Numa

/-- A question put to the node. -/
inductive Query where
  | systemNodes
  | devices
  deriving DecidableEq, Repr

/-- A result and the questions that were asked for it, in order. -/
structure Reply (α : Type) where
  result : Except Error α
  queries : List Query

namespace Reply

variable {α β : Type}

/-- A result that needs no question. -/
def of (result : Except Error α) : Reply α := ⟨result, []⟩

def asking (query : Query) (result : Except Error α) : Reply α := ⟨result, [query]⟩

/-- Goes on with a result. After an error nothing more is asked. -/
protected def bind (r : Reply α) (f : α → Reply β) : Reply β :=
  match r.result with
  | .error e => ⟨.error e, r.queries⟩
  | .ok a => ⟨(f a).result, r.queries ++ (f a).queries⟩

instance : Monad Reply where
  pure a := .of (.ok a)
  bind := Reply.bind

instance : MonadLift (Except Error) Reply where
  monadLift := .of

end Reply
end GpuPlacement.Numa
