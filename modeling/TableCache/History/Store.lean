import TableCache.Assoc
import TableCache.Store.Basic

/-!
# Histories of a store

Calls on a store alone, without an engine that keeps its recent handles in bounds. Keys and holds go
by name; what a name stood for before is given up after the name was given anew.
-/

namespace TableCache.Store

universe u

/-- Steps of a history. -/
inductive Step (Row : Type u) where
  | createKey (name : String)
  | cloneKey (source target : String)
  | dropKey (name : String)
  | put (name : String) (rows : List Row) (hold : Option String)
  | dropHold (hold : String)
  | clear (name : String)
  | contains (name : String)
  | invalidate (name : String)
  | attachRecent (name : String)
  | dropRecent (name : String)
  | expunge
  | recentHandles
  | size
  | occupancy
  /-- What the entry of a key holds. -/
  | entry (name : String)
  | reclaim (pressure : Pressure)
  | reclaimable
  | tracked
  /-- Takes all waiting clearances. -/
  | clearances
  deriving DecidableEq, Repr

/-- What the entry of a key holds: a strong handle, a recent handle, a recent handle on a cell that
was not cleared; its tier; and the rows of its table, unless reclaimed. -/
structure EntryView (Row : Type u) where
  strong : Bool
  recent : Bool
  recentAlive : Bool
  tier : Tier
  rows : Option (List Row)
  deriving DecidableEq, Repr

/-- What steps answer. -/
inductive Answer (Row : Type u) where
  | nothing
  | flag (value : Bool)
  | number (value : Nat)
  | numbers (values : List Nat)
  | occupancy (value : Occupancy)
  | entry (value : Option (EntryView Row))
  | report (value : Report)
  | clearances (values : List Clearance)
  | noKey
  deriving DecidableEq, Repr

/-- A store on a host, names for keys and holds, and the waiting clearances. -/
structure History (Row : Type u) where
  store : Store Row
  host : Host
  keys : Assoc String Nat
  holds : Assoc String Nat
  waiting : List Clearance
  deriving DecidableEq, Repr

/-- What an entry holds in a memory. -/
def view {Row : Type u} (entry : Entry) (memory : Memory Row) : EntryView Row where
  strong := entry.strong.isSome
  recent := entry.recent.isSome
  recentAlive := entry.recentAlive memory
  tier := entry.tier memory
  rows := (memory.slot? entry.cell).map memory.rows

namespace History

variable {Row : Type u}

/-- The start of a history. -/
def create : History Row :=
  let (store, host) := Store.create .empty
  ⟨store, host, .empty, .empty, []⟩

/-- Replaces the store. -/
def withStore (history : History Row) (store : Store Row) : History Row :=
  { history with store := store }

/-- Replaces the keys of the host. -/
def withKeys (history : History Row) (keys : Keys) : History Row :=
  { history with host := { history.host with keys := keys } }

/-- Changes the memory of the store. -/
def onMemory (history : History Row) (change : Memory Row → Memory Row) : History Row :=
  history.withStore { history.store with memory := change history.store.memory }

/-- Gives a key a name. -/
def nameKey (history : History Row) (name : String) (keyId : Nat) : History Row :=
  let named := { history with keys := history.keys.insert name keyId }
  match history.keys.find? name with
  | none => named
  | some replaced => named.withKeys (named.host.keys.release replaced)

/-- Gives a hold a name. -/
def nameHold (history : History Row) (name : String) (table : Nat) : History Row :=
  let named := { history with holds := history.holds.insert name table }
  match history.holds.find? name with
  | none => named
  | some replaced => named.onMemory fun memory => memory.release replaced

/-- Does something with the key of a name. -/
def withKey (history : History Row) (name : String) (next : Nat → History Row × Answer Row) :
    Reply (History Row) (Answer Row) :=
  match history.keys.find? name with
  | none => .ok history .noKey
  | some keyId => .ok (next keyId).1 (next keyId).2

/-- One step. -/
def step (history : History Row) : Step Row → Reply (History Row) (Answer Row)
  | .createKey name =>
      let (keyId, keys) := history.host.keys.create name
      .ok ((history.withKeys keys).nameKey name keyId) (.number keyId)
  | .cloneKey source target =>
      history.withKey source fun keyId =>
        ((history.withKeys (history.host.keys.share keyId)).nameKey target keyId, .nothing)
  | .dropKey name =>
      match history.keys.find? name with
      | none => .ok history (.flag false)
      | some keyId =>
          .ok
            (({ history with keys := history.keys.erase name } : History Row).withKeys
              (history.host.keys.release keyId))
            (.flag true)
  | .put name rows hold =>
      history.withKey name fun keyId =>
        let (table, store, host) := history.store.put history.host keyId rows
        let history := { history.withStore store with host := host }
        let history :=
          match hold with
          | none => history.onMemory fun memory => memory.release table
          | some hold => history.nameHold hold table
        (history, .number rows.length)
  | .dropHold hold =>
      match history.holds.find? hold with
      | none => .ok history (.flag false)
      | some table =>
          .ok
            (({ history with holds := history.holds.erase hold } : History Row).onMemory
              fun memory => memory.release table)
            (.flag true)
  | .clear name =>
      history.withKey name fun keyId =>
        let (present, store) := history.store.clearForReclaim keyId
        (history.withStore store, .flag present)
  | .contains name =>
      history.withKey name fun keyId => (history, .flag (history.store.contains keyId))
  | .invalidate name =>
      history.withKey name fun keyId =>
        let (present, store) := history.store.invalidate keyId
        (history.withStore store, .flag present)
  | .attachRecent name =>
      history.withKey name fun keyId =>
        let (store, host) := history.store.attachRecent history.host keyId
        ({ history.withStore store with host := host }, .nothing)
  | .dropRecent name =>
      history.withKey name fun keyId =>
        let (present, store) := history.store.dropRecent keyId
        (history.withStore store, .flag present)
  | .expunge =>
      let (removed, store, host) := history.store.expunge history.host
      .ok { history.withStore store with host := host } (.numbers removed)
  | .recentHandles => .ok history (.number history.store.recentHandles)
  | .size => .ok history (.number history.store.size)
  | .occupancy => .ok history (.occupancy history.store.occupancy)
  | .entry name =>
      history.withKey name fun keyId =>
        (history,
          .entry ((history.store.entryOf? keyId).map fun entry => view entry history.store.memory))
  | .reclaim pressure =>
      let pass := history.store.memory.reclaim pressure
      .logged
        { history.onMemory fun _ => pass.memory with
          waiting := history.waiting ++ pass.clearances }
        pass.events (.report pass.report)
  | .reclaimable =>
      .ok (history.onMemory fun memory => memory.reclaimable.2)
        (.number history.store.memory.reclaimable.1)
  | .tracked =>
      .ok (history.onMemory fun memory => memory.tracked.2)
        (.number history.store.memory.tracked.1)
  | .clearances => .ok { history with waiting := [] } (.clearances history.waiting)

end History

end TableCache.Store
