/-!
# The registry of cells

The registry lists, by number, the cells that a reclaim pass may visit, in the order in which they
were registered. It does not keep a cell alive, so some of its cells may be gone. Those are dropped
when the cells are listed, and when room is needed for one more.
-/

namespace TableCache

/-- Registered cells in order, and the number of cells there is room for. -/
structure Registry where
  cells : List Nat
  capacity : Nat
  deriving DecidableEq, Repr, Inhabited

namespace Registry

/-- No cell, and room for none. -/
def empty : Registry := ⟨[], 0⟩

/-- Drops the cells that are gone. -/
def prune (registry : Registry) (isAlive : Nat → Bool) : Registry :=
  { registry with cells := registry.cells.filter isAlive }

/-- Room for one more cell: as much as there is, or twice as much, and never less than four. -/
def grow (registry : Registry) : Nat :=
  if registry.cells.length < registry.capacity then registry.capacity
  else Nat.max 4 (2 * registry.capacity)

/-- Puts a cell at the end, dropping the cells that are gone first if `compact` says so. -/
def push (registry : Registry) (compact : Bool) (isAlive : Nat → Bool) (cell : Nat) : Registry :=
  let registry := if compact then registry.prune isAlive else registry
  ⟨registry.cells ++ [cell], registry.grow⟩

/-- Whether there is no room for one more cell. -/
def isFull (registry : Registry) : Bool := registry.cells.length = registry.capacity

/-- Registers a cell. A full registry drops the cells that are gone before it grows. -/
def register (registry : Registry) (isAlive : Nat → Bool) (cell : Nat) : Registry :=
  registry.push registry.isFull isAlive cell

end Registry

end TableCache
