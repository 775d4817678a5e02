import TableCache.Assoc

/-!
# The recency index

The index names at most `capacity` keys, those used last. It keeps two maps: from a key to the tick
of its last use, and from a tick back to the key. A use of a new key in a full index pushes out the
key with the least tick, and says which one that was.

Main definitions:

1. `Recency.touch`: a use of a key, and the key pushed out by it;
2. `Recency.remove`: takes a key out without disturbing the others;
3. `Recency.members`: the keys, the one to be pushed out next first.
-/

namespace TableCache

/-- The keys used last. `ticks` and `order` are inverse to each other. -/
structure Recency where
  capacity : Nat
  clock : Nat
  ticks : Assoc Nat Nat
  order : Assoc Nat Nat
  deriving DecidableEq, Repr

namespace Recency

/-- An index holds thirty-two keys unless told otherwise. -/
def defaultCapacity : Nat := 32

/-- An index without keys. -/
def ofCapacity (capacity : Nat) : Recency := ⟨capacity, 0, .empty, .empty⟩

instance : Inhabited Recency := ⟨ofCapacity defaultCapacity⟩

/-- Marks a key as used last. A new key in a full index pushes out the key whose last use is longest
ago. -/
def touch (index : Recency) (key : Nat) : Option Nat × Recency :=
  let tick := index.clock + 1
  let ticks := index.ticks.insert key tick
  match index.ticks.find? key with
  | some previous =>
      (none,
        { index with
          clock := tick
          ticks := ticks
          order := (index.order.erase previous).insert tick key })
  | none =>
      let order := index.order.insert tick key
      let grown := { index with clock := tick, ticks := ticks, order := order }
      if index.capacity < ticks.size then
        match order.popMin? with
        | none => (none, grown)
        | some (_, evicted, remaining) =>
            (some evicted, { grown with ticks := ticks.erase evicted, order := remaining })
      else (none, grown)

/-- Takes a key out, and says whether it was there. -/
def remove (index : Recency) (key : Nat) : Bool × Recency :=
  match index.ticks.find? key with
  | some tick =>
      (true, { index with ticks := index.ticks.erase key, order := index.order.erase tick })
  | none => (false, index)

/-- Whether a key is in the index. -/
def contains (index : Recency) (key : Nat) : Bool := index.ticks.contains key

/-- How many keys are in the index. -/
def size (index : Recency) : Nat := index.ticks.size

/-- Whether no key is in the index. -/
def isEmpty (index : Recency) : Bool := index.size = 0

/-- The keys in the order of their last uses, oldest first. Ticks only grow, so `order` holds them
in that order. -/
def members (index : Recency) : List Nat := index.order.values

end Recency

end TableCache
