import TableCache.Recency
import TableCache.Reply

/-!
# Histories of a recency index

Uses and removals of keys in any order, with the possibility to go back to an index saved before.
-/

namespace TableCache.Recency

/-- Steps of a history. -/
inductive Step where
  | touch (key : Nat)
  | remove (key : Nat)
  | contains (key : Nat)
  | size
  | isEmpty
  | capacity
  /-- Keeps a copy of the index. -/
  | save
  /-- Goes back to the copy kept last. -/
  | restore
  deriving DecidableEq, Repr

/-- What steps answer. -/
inductive Answer where
  | nothing
  | flag (value : Bool)
  | number (value : Nat)
  /-- The key pushed out by a use. -/
  | evicted (key : Option Nat)
  deriving DecidableEq, Repr

/-- An index, and the copy kept last. -/
structure History where
  index : Recency
  saved : Option Recency
  deriving DecidableEq, Repr

/-- The start of a history. No index holds no key. -/
def History.create (capacity : Nat) : Except Fault History :=
  if capacity = 0 then .error .zeroCapacity else .ok ⟨.ofCapacity capacity, none⟩

/-- One step. -/
def History.step (history : History) : Step → Reply History Answer
  | .touch key =>
      let (evicted, index) := history.index.touch key
      .ok { history with index := index } (.evicted evicted)
  | .remove key =>
      let (present, index) := history.index.remove key
      .ok { history with index := index } (.flag present)
  | .contains key => .ok history (.flag (history.index.contains key))
  | .size => .ok history (.number history.index.size)
  | .isEmpty => .ok history (.flag history.index.isEmpty)
  | .capacity => .ok history (.number history.index.capacity)
  | .save => .ok { history with saved := some history.index } .nothing
  | .restore =>
      match history.saved with
      | none => .ok history (.flag false)
      | some saved => .ok { history with index := saved } (.flag true)

end TableCache.Recency
