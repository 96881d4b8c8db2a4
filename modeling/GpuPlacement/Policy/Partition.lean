/-!
# Partitions of positions

The ways to split positions into groups of one size. When the size does not divide the number
of positions, padding positions follow them so that the last group is full, and one group takes
the whole padding: the devices that are left over stay together. A pool holds the positions not
yet in a group; `selections` takes one group out of it, and `splits` all groups. Both list
their results in lexicographic order.
-/

set_option autoImplicit false

namespace GpuPlacement

/-- Positions in ascending order. The padding comes after the others and stays together. -/
structure Pool where
  positions : List Nat
  padding : List Nat

namespace Pool

def all (pool : Pool) : List Nat := pool.positions ++ pool.padding

def cons (p : Nat) (pool : Pool) : Pool := { pool with positions := p :: pool.positions }

/-- The ways to take `count` positions out of a pool, each with the pool that remains. They
include all of the padding or nothing of it. -/
def selections (padding : List Nat) : (count : Nat) → List Nat → List (List Nat × Pool)
  | 0, positions => [([], ⟨positions, padding⟩)]
  | count + 1, [] => if count + 1 = padding.length then [(padding, ⟨[], []⟩)] else []
  | count + 1, p :: rest =>
    let withFirst := (selections padding count rest).map fun (chosen, left) => (p :: chosen, left)
    let without := (selections padding (count + 1) rest).map fun (chosen, left) =>
      (chosen, left.cons p)
    withFirst ++ without

/-- The ways to split a pool into `groups` groups of `size`. The first group takes the first
position; the last one takes what is left. -/
def splits (size : Nat) : (groups : Nat) → Pool → List (List (List Nat))
  | 0, _ => []
  | 1, pool => [[pool.all]]
  | _ + 2, ⟨[], _⟩ => []
  | groups + 2, ⟨first :: rest, padding⟩ =>
    (selections padding (size - 1) rest).flatMap fun (chosen, left) =>
      (splits size (groups + 1) left).map ((first :: chosen) :: ·)

end Pool

/-- The number of groups of `size` that hold `count` positions. -/
def groupCount (count size : Nat) : Nat := (count + size - 1) / size

/-- The partitions of `count` positions into groups of `size`. With groups of one a partition
is told apart by nothing but the group that is picked, so each single position stands for one. -/
def partitions (count size : Nat) : List (List (List Nat)) :=
  if size = 0 ∨ count < size then []
  else if size = 1 then (List.range count).map fun p => [[p]]
  else
    let groups := groupCount count size
    Pool.splits size groups ⟨List.range count, List.range' count (groups * size - count)⟩

end GpuPlacement
