import TableCache.Host
import TableCache.Memory.Reclaim
import TableCache.Store.Tier

/-!
# The store of entries

The store has one entry for every key under which a table is cached. An entry has up to three
handles on the cell of its table, of falling strength: a strong one that holds the table itself, a
recent one, and a weak one that is always there. Once its cell is cleared an entry stands for
nothing and only waits to be removed.

Which entries have a recent handle is for the caller to decide. Entries of keys without an owner are
found through the store's inbox, never by looking through all entries.

Main definitions:

1. `Store.put`, `clearForReclaim`, `attachRecent`, `dropRecent`, `invalidate`: the handles of one
   entry;
2. `Store.expunge`: removes entries of keys that lost their last owner;
3. `Store.tier`, `contains`, `occupancy`: what the entries stand for.
-/

namespace TableCache

universe u

/-- The handles of an entry: the table held strongly, the cell held recently, and the cell held
weakly. -/
structure Entry where
  strong : Option Nat
  recent : Option Nat
  cell : Nat
  deriving DecidableEq, Repr, Inhabited

/-- Entries by the number of their key, the memory that their handles point into, and the inbox that
hears of keys without owners. -/
structure Store (Row : Type u) where
  memory : Memory Row
  entries : Numbered Entry
  inbox : Nat
  deriving DecidableEq, Repr

namespace Entry

variable {Row : Type u}

/-- The strongest handle of an entry, unless its cell was cleared. -/
def tier (entry : Entry) (memory : Memory Row) : Tier :=
  if !memory.isAlive entry.cell then .absent
  else if entry.strong.isSome then .strong
  else if entry.recent.isSome then .recent
  else .weak

/-- Whether an entry has a recent handle on a cell that was not cleared. -/
def recentAlive (entry : Entry) (memory : Memory Row) : Bool :=
  match entry.recent with
  | none => false
  | some cell => memory.isAlive cell

/-- Gives up all handles of an entry, the strongest first. -/
def discard (entry : Entry) (memory : Memory Row) : Memory Row :=
  let memory :=
    match entry.strong with
    | none => memory
    | some table => memory.release table
  let memory :=
    match entry.recent with
    | none => memory
    | some cell => memory.closeRecent cell
  memory.disown entry.cell

end Entry

namespace Store

variable {Row : Type u}

/-- A store without entries, with an inbox of its own. -/
def create (host : Host) : Store Row × Host :=
  let opened := host.keys.openInbox
  (⟨.empty, .empty, opened.1⟩, { host with keys := opened.2 })

/-- The entry of a key. -/
def entryOf? (store : Store Row) (keyId : Nat) : Option Entry := store.entries.find? keyId

/-- Caches a new table under a key with all three handles, in place of any earlier one. The number
of the table comes back with one more holder: the caller. -/
def put (store : Store Row) (host : Host) (keyId : Nat) (rows : List Row) :
    Nat × Store Row × Host :=
  let (table, memory) := store.memory.newTable rows
  let (birth, host) := host.tick
  let (cell, memory) := (memory.share table).newCell keyId table birth
  let memory := memory.register cell
  let host := host.watch keyId store.inbox
  let memory := memory.share table
  let (use, host) := host.tick
  let memory := memory.openRecent cell use
  let entries := store.entries.insert keyId ⟨some table, some cell, cell⟩
  let memory :=
    match store.entryOf? keyId with
    | none => memory
    | some replaced => replaced.discard memory
  (table, { store with memory := memory, entries := entries }, host)

/-- Drops the strong handle of an entry, and says whether there was one. -/
def clearForReclaim (store : Store Row) (keyId : Nat) : Bool × Store Row :=
  match (store.entryOf? keyId).bind Entry.strong with
  | none => (false, store)
  | some table =>
      (true,
        { store with
          memory := store.memory.release table
          entries := store.entries.adjust keyId fun entry => { entry with strong := none } })

/-- Whether a table is cached under a key and was not reclaimed. -/
def contains (store : Store Row) (keyId : Nat) : Bool :=
  match store.entryOf? keyId with
  | none => false
  | some entry => store.memory.isAlive entry.cell

/-- Removes an entry with all its handles, and says whether there was one. -/
def invalidate (store : Store Row) (keyId : Nat) : Bool × Store Row :=
  match store.entryOf? keyId with
  | none => (false, store)
  | some entry =>
      (true,
        { store with
          memory := entry.discard store.memory
          entries := store.entries.erase keyId })

/-- Gives an entry a recent handle, or uses the one it has. -/
def attachRecent (store : Store Row) (host : Host) (keyId : Nat) : Store Row × Host :=
  match store.entryOf? keyId with
  | none => (store, host)
  | some entry =>
      let (tick, host) := host.tick
      match entry.recent with
      | some cell => ({ store with memory := store.memory.touchRecent cell tick }, host)
      | none =>
          ({ store with
              memory := store.memory.openRecent entry.cell tick
              entries :=
                store.entries.adjust keyId fun entry => { entry with recent := some entry.cell } },
            host)

/-- Drops the recent handle of an entry, and says whether there was one. -/
def dropRecent (store : Store Row) (keyId : Nat) : Bool × Store Row :=
  match (store.entryOf? keyId).bind Entry.recent with
  | none => (false, store)
  | some cell =>
      (true,
        { store with
          memory := store.memory.closeRecent cell
          entries := store.entries.adjust keyId fun entry => { entry with recent := none } })

/-- Goes through posted numbers in order and removes the entries of those keys that have no owner.
The numbers of the removed entries come back. -/
def removeOrphans (keys : Keys) : List Nat → Store Row → List Nat × Store Row
  | [], store => ([], store)
  | keyId :: rest, store =>
      if (store.entryOf? keyId).isSome && !keys.isOwned keyId then
        let later := removeOrphans keys rest (store.invalidate keyId).2
        (keyId :: later.1, later.2)
      else removeOrphans keys rest store

/-- Empties the store's inbox and removes the entries of keys that lost their last owner. Their
numbers come back, in the order in which the keys were dropped. -/
def expunge (store : Store Row) (host : Host) : List Nat × Store Row × Host :=
  let (posted, keys) := host.keys.collect store.inbox
  let (removed, store) := removeOrphans keys posted store
  (removed, store, { host with keys := keys })

/-- The table of a key, with one more holder: the reader that asked. -/
def read (store : Store Row) (keyId : Nat) : Option Nat × Store Row :=
  match store.entryOf? keyId with
  | none => (none, store)
  | some entry =>
      let (table, memory) := store.memory.read entry.cell
      (table, { store with memory := memory })

/-- How strongly the table of a key is kept. -/
def tier (store : Store Row) (keyId : Nat) : Tier :=
  match store.entryOf? keyId with
  | none => .absent
  | some entry => entry.tier store.memory

/-- How many entries have a recent handle, reclaimed or not. -/
def recentHandles (store : Store Row) : Nat :=
  store.entries.values.countP fun entry => entry.recent.isSome

/-- The tally of all entries by tier. -/
def occupancy (store : Store Row) : Occupancy :=
  store.entries.values.foldl
    (fun occupancy entry => occupancy.add (entry.tier store.memory) entry.recent.isSome) .zero

/-- How many entries there are, those of reclaimed tables included. -/
def size (store : Store Row) : Nat := store.entries.size

end Store

end TableCache
