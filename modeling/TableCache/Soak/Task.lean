import TableCache.Engine.Basic
import TableCache.Soak.Consumer
import TableCache.Soak.Settings

/-!
# Tasks of a soak

A soak runs producers, consumers, one reclaimer, and somebody who cancels it. Producers cache
tables, flush them, and give them up for reclaiming; consumers look tables up; the reclaimer runs
passes. Each task goes from one action to the next, and the actions of different tasks interleave in
any order. An action whose task is elsewhere does nothing, so every list of actions is a possible
history.

Main definitions:

1. `Buffer`: what a producer flushes;
2. `State`: the cache, the published keys, and where each task is;
3. `State.act`: one action;
4. `State.isFinished`: every task has ended;
5. `State.summarize`: what a soak reports at its end.
-/

namespace TableCache.Soak

/-- A row: some number of equal bytes. -/
structure Block where
  byte : Nat
  length : Nat
  deriving DecidableEq, Repr, Inhabited

/-- The rows of the table with a number: the byte changes from row to row. -/
def makeRows (settings : Settings) (table : Nat) : List Block :=
  (List.range settings.rowsPerTable).map fun row => ⟨(table + row) % 251, settings.rowBytes⟩

/-- The buffer of a table: the key of the table, and whether the table was recorded to have reached
durable storage. -/
structure Buffer where
  keyId : Nat
  isPersisted : Bool
  deriving DecidableEq, Repr, Inhabited

/-- A new buffer. Its table is not persisted. -/
def Buffer.create (keyId : Nat) : Buffer := ⟨keyId, false⟩

/-- The table of a buffer has reached durable storage. -/
def Buffer.markPersisted (buffer : Buffer) : Buffer := { buffer with isPersisted := true }

/-- Where a producer is: about to make the table with a number, waiting for the buffer of that table
to be flushed, or at its end. -/
inductive Phase where
  | ready (table : Nat)
  | flushing (table : Nat) (buffer : Buffer)
  | done
  deriving DecidableEq, Repr, Inhabited

/-- Where a consumer is: at a cursor, or at its end. -/
inductive Reading where
  | next (cursor : Nat)
  | done
  deriving DecidableEq, Repr, Inhabited

/-- What a task does next. -/
inductive Action where
  /-- A producer caches its next table and publishes the key. -/
  | put (producer : Nat)
  /-- A producer's table is flushed: it is given up for reclaiming, and perhaps invalidated. -/
  | flush (producer : Nat)
  /-- A producer ends, because it has made all its tables or the soak was cancelled. -/
  | stopProducer (producer : Nat)
  /-- A consumer looks up one published table at time `now`, unless the soak was cancelled. -/
  | lookup (consumer now : Nat)
  /-- A consumer ends, because the soak was cancelled. -/
  | stopConsumer (consumer : Nat)
  /-- The reclaimer runs one pass. -/
  | pass
  /-- The reclaimer ends, because the soak was cancelled. -/
  | stopReclaimer
  /-- The soak is cancelled. -/
  | cancel
  deriving DecidableEq, Repr, Inhabited

/-- A soak under way. The directory lists the published keys and owns a share of each; the buffer of
a producer that waits owns another share of its key. -/
structure State where
  settings : Settings
  cache : Hosted Block
  producers : Array Phase
  consumers : Array Reading
  isReclaiming : Bool
  isCancelled : Bool
  directory : List Nat
  produced : Nat
  lookups : Nat
  reclaimed : Report
  deriving DecidableEq, Repr

namespace State

/-- A soak at its start, over a cache with nothing in it. -/
def create (settings : Settings) (cache : Hosted Block) : State where
  settings := settings
  cache := cache
  producers := Array.replicate settings.producers (.ready 0)
  consumers := (Array.range settings.consumers).map .next
  isReclaiming := true
  isCancelled := false
  directory := []
  produced := 0
  lookups := 0
  reclaimed := .zero

/-- Replaces the cache. -/
def withCache (state : State) (cache : Hosted Block) : State := { state with cache := cache }

/-- Replaces the keys of the host. -/
def withKeys (state : State) (keys : Keys) : State :=
  state.withCache { state.cache with host := { state.cache.host with keys := keys } }

/-- Moves a producer on. -/
def moveProducer (state : State) (producer : Nat) (phase : Phase) : State :=
  { state with producers := state.producers.setIfInBounds producer phase }

/-- Moves a consumer on. -/
def moveConsumer (state : State) (consumer : Nat) (reading : Reading) : State :=
  { state with consumers := state.consumers.setIfInBounds consumer reading }

/-- The label of a table. -/
def label (producer table : Nat) : String := "p" ++ toString producer ++ "-t" ++ toString table

/-- A producer caches the table with a number under a new key and publishes the key. -/
def putTable (state : State) (producer table : Nat) : Reply State Unit :=
  let (keyId, keys) := state.cache.host.keys.create (label producer table)
  let state := state.withKeys keys
  ((state.cache.put keyId (makeRows state.settings table)).within state.withCache).andThen
    fun state cached =>
      let state := state.withCache (state.cache.release cached)
      let state := state.withKeys (state.cache.host.keys.share keyId)
      .ok
        { state.moveProducer producer (.flushing table (.create keyId)) with
          directory := state.directory ++ [keyId]
          produced := state.produced + 1 }
        ()

/-- A producer's table is persisted, given up for reclaiming, and invalidated if its number says so.
The producer then drops the buffer, and with it a share of the key, and turns to the next table. -/
def flushTable (state : State) (producer table : Nat) (buffer : Buffer) : Reply State Unit :=
  let buffer := buffer.markPersisted
  let cleared := state.cache.clearForReclaim buffer.keyId buffer.isPersisted
  let settled :=
    if state.settings.invalidates table then
      cleared.andThen fun cache _ => cache.invalidate buffer.keyId
    else cleared
  (settled.within state.withCache).andThen fun state _ =>
    .ok
      ((state.withKeys (state.cache.host.keys.release buffer.keyId)).moveProducer producer
        (.ready (table + 1)))
      ()

/-- A consumer looks a key up at time `now` and gives a table that was found back. -/
def lookupKey (state : State) (consumer cursor keyId now : Nat) : Reply State Unit :=
  ((state.cache.lookup keyId now).within state.withCache).andThen fun state found =>
    let cache := (found.table.map state.cache.release).getD state.cache
    .ok
      { (state.withCache cache).moveConsumer consumer (.next (Consumer.advance cursor)) with
        lookups := state.lookups + 1 }
      ()

/-- One pass of the reclaimer, added to what it reclaimed before. -/
def passOnce (state : State) : Reply State Unit :=
  let pass := state.cache.engine.reclaim (.bounded state.settings.reclaimBatch)
  (pass.within fun engine => state.withCache { state.cache with engine := engine }).andThen
    fun state report =>
      match state.reclaimed.merge? report with
      | none => .stop state .overflow
      | some reclaimed => .ok { state with reclaimed := reclaimed } ()

/-- One action. -/
def act (state : State) : Action → Reply State Unit
  | .put producer =>
      match state.producers[producer]? with
      | some (.ready table) =>
          if state.isCancelled ∨ state.settings.tablesPerProducer ≤ table then .ok state ()
          else state.putTable producer table
      | _ => .ok state ()
  | .flush producer =>
      match state.producers[producer]? with
      | some (.flushing table buffer) => state.flushTable producer table buffer
      | _ => .ok state ()
  | .stopProducer producer =>
      match state.producers[producer]? with
      | some (.ready table) =>
          if state.isCancelled ∨ state.settings.tablesPerProducer ≤ table then
            .ok (state.moveProducer producer .done) ()
          else .ok state ()
      | _ => .ok state ()
  | .lookup consumer now =>
      match state.consumers[consumer]? with
      | some (.next cursor) =>
          match state.isCancelled, Consumer.pick state.directory cursor with
          | false, some keyId => state.lookupKey consumer cursor keyId now
          | _, _ => .ok state ()
      | _ => .ok state ()
  | .stopConsumer consumer =>
      match state.consumers[consumer]? with
      | some (.next _) =>
          if state.isCancelled then .ok (state.moveConsumer consumer .done) () else .ok state ()
      | _ => .ok state ()
  | .pass => if state.isReclaiming then state.passOnce else .ok state ()
  | .stopReclaimer =>
      .ok { state with isReclaiming := state.isReclaiming && !state.isCancelled } ()
  | .cancel => .ok { state with isCancelled := true } ()

/-- Whether every task has ended. -/
def isFinished (state : State) : Bool :=
  state.producers.all (· = .done) && state.consumers.all (· = .done) && !state.isReclaiming

/-- Some actions in order, up to the first fault. -/
def actAll : List Action → State → Reply State Unit
  | [], state => .ok state ()
  | action :: rest, state => (state.act action).andThen fun state _ => actAll rest state

end State

/-- What a soak reports at its end: tables made, look-ups issued, tables cleared by the reclaimer,
and the counters and the occupancy of the cache. -/
structure Summary where
  tablesProduced : Nat
  lookups : Nat
  reclaimed : Report
  statistics : Statistics
  occupancy : Occupancy
  deriving DecidableEq, Repr, Inhabited

namespace State

/-- The report of a soak. -/
def summarize (state : State) : Reply State Summary :=
  ((state.cache.statistics.andThen fun cache statistics =>
    cache.occupancy.map fun occupancy => (statistics, occupancy)).within state.withCache).map
    fun (statistics, occupancy) =>
      ⟨state.produced, state.lookups, state.reclaimed, statistics, occupancy⟩

/-- Gives up the published keys. -/
def closeDirectory (state : State) : State :=
  let keys := state.directory.foldl Keys.release state.cache.host.keys
  { state.withKeys keys with directory := [] }

end State

end TableCache.Soak
