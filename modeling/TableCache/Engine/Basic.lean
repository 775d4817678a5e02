import TableCache.Config.Basic
import TableCache.Store.Basic

/-!
# The cache engine

An engine joins a store, a recency index and a recorder. It keeps the recent handles of the store in
step with the index, counts what it is asked, and removes the entries of keys without owners before
it does anything else. A reclaim pass works on its memory without asking it.

Main definitions:

1. `Hosted.put`: caches a table, pinned until given up;
2. `Hosted.clearForReclaim`: gives up the strong handle, once the buffer is persisted;
3. `Hosted.lookup`: finds a table, counts the look-up and its class, and renews recent use;
4. `Hosted.peek`: finds a table and leaves no trace;
5. `Hosted.invalidate`, `purgeOrphans`: remove entries;
6. `Hosted.reclaim`: a pass over the memory of an engine.
-/

namespace TableCache

universe u v

/-- The parts of an engine. -/
structure Engine (Row : Type u) where
  config : Config
  store : Store Row
  recency : Recency
  recorder : Recorder
  deriving DecidableEq, Repr

/-- An engine and the host it runs on. -/
structure Hosted (Row : Type u) where
  engine : Engine Row
  host : Host
  deriving DecidableEq, Repr

/-- What a look-up found: the table, if any, and the class of the look-up. -/
structure Found where
  table : Option Nat
  access : Access
  deriving DecidableEq, Repr, Inhabited

namespace Hosted

variable {Row : Type u}

/-- An engine with nothing in it, under a configuration that was validated. -/
def build (config : Config) (host : Host) : Hosted Row :=
  let (store, host) := Store.create host
  ⟨⟨config, store, .ofCapacity config.recencyCapacity, .ofInterval config.statisticsIntervalSecs⟩,
    host⟩

/-- An engine with nothing in it, unless the configuration is refused. -/
def create (config : Config) (host : Host) : Except CacheError (Hosted Row) :=
  config.validate.map fun _ => build config host

/-- Replaces the store of an engine. -/
def withStore (state : Hosted Row) (store : Store Row) : Hosted Row :=
  { state with engine := { state.engine with store := store } }

/-- Replaces the recorder of an engine. -/
def withRecorder (state : Hosted Row) (recorder : Recorder) : Hosted Row :=
  { state with engine := { state.engine with recorder := recorder } }

/-- A reader gives a table back. -/
def release (state : Hosted Row) (table : Nat) : Hosted Row :=
  state.withStore
    { state.engine.store with memory := state.engine.store.memory.release table }

/-! ## Keys without owners -/

/-- Frees the places of some keys in a recency index. -/
def removeAll (recency : Recency) (keyIds : List Nat) : Recency :=
  keyIds.foldl (fun recency keyId => (recency.remove keyId).2) recency

/-- Removes the entries of keys that lost their last owner, with their places in the index. Their
number comes back. -/
def purgeOrphans (state : Hosted Row) : Reply (Hosted Row) Nat :=
  let (removed, store, host) := state.engine.store.expunge state.host
  let engine :=
    { state.engine with store := store, recency := removeAll state.engine.recency removed }
  .logged ⟨engine, host⟩ (if removed.isEmpty then [] else [.expunged removed.length])
    removed.length

/-- Asks the engine something: first the entries of keys without owners are removed. -/
def ask {α : Type v} (state : Hosted Row) (next : Hosted Row → Reply (Hosted Row) α) :
    Reply (Hosted Row) α :=
  (next state.purgeOrphans.state).after state.purgeOrphans.events

/-! ## Recent use -/

/-- Marks a key as used last in the index. A key pushed out by that loses its recent handle. -/
def touch (state : Hosted Row) (keyId : Nat) : Hosted Row :=
  let (evicted, recency) := state.engine.recency.touch keyId
  let store :=
    match evicted with
    | none => state.engine.store
    | some evicted => (state.engine.store.dropRecent evicted).2
  { state with engine := { state.engine with store := store, recency := recency } }

/-- Marks a key as used last, in the index and by a recent handle. -/
def promote (state : Hosted Row) (keyId : Nat) : Hosted Row :=
  let state := state.touch keyId
  let (store, host) := state.engine.store.attachRecent state.host keyId
  { state.withStore store with host := host }

/-- Removes the entry of a key and its place in the index, and says whether there was an entry. -/
def forget (state : Hosted Row) (keyId : Nat) : Bool × Hosted Row :=
  let (present, store) := state.engine.store.invalidate keyId
  let engine :=
    { state.engine with store := store, recency := (state.engine.recency.remove keyId).2 }
  (present, { state with engine := engine })

/-! ## Putting and giving up -/

/-- Caches a table under a key, pinned until it is given up, in place of any earlier one. The number
of the table comes back with one more holder: the caller. -/
def put (state : Hosted Row) (keyId : Nat) (rows : List Row) : Reply (Hosted Row) Nat :=
  state.ask fun state =>
    let (table, store, host) := state.engine.store.put state.host keyId rows
    let state := ({ state.withStore store with host := host } : Hosted Row).touch keyId
    let counted := state.engine.recorder.recordPut
    let state := state.withRecorder counted.state
    match counted.result with
    | .error fault => ⟨.error fault, state.release table, counted.events⟩
    | .ok _ =>
        .logged state (counted.events ++ [.cached (state.host.keys.key keyId) rows.length]) table

/-- Lets reclaim passes have the table of a buffer. A buffer that is not persisted is refused before
anything else is done, because its table may be the only copy. -/
def clearForReclaim (state : Hosted Row) (keyId : Nat) (isPersisted : Bool) :
    Reply (Hosted Row) Unit :=
  if isPersisted then
    state.ask fun state =>
      let (present, store) := state.engine.store.clearForReclaim keyId
      .logged (state.withStore store)
        (if present then [.cleared (state.host.keys.key keyId)] else []) ()
  else .stop state (.unpersisted (state.host.keys.key keyId))

/-! ## Finding -/

/-- Finds the table of a key and the class of the look-up. A hit renews recent use; an entry whose
table was reclaimed is removed. -/
def resolve (state : Hosted Row) (keyId : Nat) : Found × Hosted Row × List Event :=
  match state.engine.store.entryOf? keyId with
  | none => (⟨none, .miss⟩, state, [])
  | some entry =>
      let access : Access :=
        if entry.strong.isSome then .hardHit
        else if entry.recentAlive state.engine.store.memory then .softHit
        else .weakHit
      match state.engine.store.read keyId with
      | (some table, store) => (⟨some table, access⟩, (state.withStore store).promote keyId, [])
      | (none, _) =>
          (⟨none, .miss⟩, (state.forget keyId).2, [.swept (state.host.keys.key keyId)])

/-- Finds the table of a key at time `now`, counts the look-up, and reports the counters if it is
time. A table that was found has one more holder: the caller. -/
def lookup (state : Hosted Row) (keyId now : Nat) : Reply (Hosted Row) Found :=
  state.ask fun state =>
    let (found, state, events) := state.resolve keyId
    let counted := state.engine.recorder.recordAccess found.access now
    let state := state.withRecorder counted.state
    match counted.result with
    | .error fault =>
        ⟨.error fault, (found.table.map state.release).getD state, events ++ counted.events⟩
    | .ok none => .logged state (events ++ counted.events) found
    | .ok (some counters) =>
        .logged state (events ++ counted.events ++ [.intervalElapsed counters]) found

/-- Finds the table of a key without counting and without renewing recent use. A table that was
found has one more holder: the caller. -/
def peek (state : Hosted Row) (keyId : Nat) : Reply (Hosted Row) (Option Nat) :=
  state.ask fun state =>
    let (table, store) := state.engine.store.read keyId
    .ok (state.withStore store) table

/-- Whether a table is cached under a key and was not reclaimed. -/
def contains (state : Hosted Row) (keyId : Nat) : Reply (Hosted Row) Bool :=
  state.ask fun state => .ok state (state.engine.store.contains keyId)

/-- How strongly the table of a key is kept. -/
def tier (state : Hosted Row) (keyId : Nat) : Reply (Hosted Row) Tier :=
  state.ask fun state => .ok state (state.engine.store.tier keyId)

/-! ## Removing -/

/-- Removes every trace of the table of a key. -/
def invalidate (state : Hosted Row) (keyId : Nat) : Reply (Hosted Row) Unit :=
  state.ask fun state =>
    let (present, state) := state.forget keyId
    .logged state (if present then [.invalidated (state.host.keys.key keyId)] else []) ()

/-! ## Counting -/

/-- The counters, with every clearance counted. -/
def statistics (state : Hosted Row) : Reply (Hosted Row) Statistics :=
  state.ask fun state => state.engine.recorder.snapshot.within state.withRecorder

/-- The tally of all entries by tier. -/
def occupancy (state : Hosted Row) : Reply (Hosted Row) Occupancy :=
  state.ask fun state => .ok state state.engine.store.occupancy

/-- How many entries there are, those of reclaimed tables included. -/
def size (state : Hosted Row) : Reply (Hosted Row) Nat :=
  state.ask fun state => .ok state state.engine.store.size

/-! ## The end of an engine -/

/-- Gives up all entries and closes the inbox. What is left is the memory, in which only readers
hold tables. -/
def close (state : Hosted Row) : Memory Row × Host :=
  (state.engine.store.entries.values.foldl (fun memory entry => entry.discard memory)
      state.engine.store.memory,
    { state.host with keys := state.host.keys.closeInbox state.engine.store.inbox })

end Hosted

namespace Engine

variable {Row : Type u}

/-- Whether the index and the store have equally many keys in recent use. -/
def recencyInStep (engine : Engine Row) : Bool :=
  engine.recency.size = engine.store.recentHandles

/-- A reclaim pass over the memory of an engine. The clearances wait until the recorder looks. -/
def reclaim (engine : Engine Row) (pressure : Pressure) : Reply (Engine Row) Report :=
  let pass := engine.store.memory.reclaim pressure
  .logged
    { engine with
      store := { engine.store with memory := pass.memory }
      recorder := engine.recorder.post pass.clearances }
    pass.events pass.report

end Engine

end TableCache
