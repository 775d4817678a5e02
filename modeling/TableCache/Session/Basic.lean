import TableCache.Assoc
import TableCache.Exposition.Exporter
import TableCache.Session.Step

/-!
# Sessions

A session runs steps over one or more engines that share a host. It keeps the owners of keys and the
holds on tables by name, so that a name is exactly one owner or one holder. What a name stood for
before is given up after the name was given anew.

Main definitions:

1. `Session`: engines or what is left of them, owners and holds by name;
2. `Session.step`: one step; its reply carries the state also after a fault;
3. `Session.run`: the replies to a list of steps;
4. `Session.survey`: everything that can be read of the current engine.
-/

namespace TableCache

universe u v

/-- What a key name owns: a share of a key, or a buffer with a share of its key. -/
inductive Owner where
  | bare (keyId : Nat)
  | buffer (keyId : Nat) (isPersisted : Bool)
  deriving DecidableEq, Repr

/-- The key of an owner. -/
def Owner.keyId : Owner → Nat
  | .bare keyId => keyId
  | .buffer keyId _ => keyId

/-- A held table, by the number of its engine and its own number there. -/
structure Hold where
  engine : Nat
  table : Nat
  deriving DecidableEq, Repr

/-- An engine, or the memory that is left of one for the memory manager and for readers. -/
inductive Cache (Row : Type u) where
  | running (engine : Engine Row)
  | closed (memory : Memory Row)
  deriving DecidableEq, Repr

/-- The memory of an engine, running or not. -/
def Cache.memory {Row : Type u} : Cache Row → Memory Row
  | .running engine => engine.store.memory
  | .closed memory => memory

/-- Replaces the memory of an engine. -/
def Cache.withMemory {Row : Type u} (cache : Cache Row) (memory : Memory Row) : Cache Row :=
  match cache with
  | .running engine => .running { engine with store := { engine.store with memory := memory } }
  | .closed _ => .closed memory

/-- Engines on one host, the number of the current one, owners and holds by name, and the exporter
once it was used. -/
structure Session (Row : Type u) where
  host : Host
  caches : List (Cache Row)
  current : Nat
  owners : Assoc String Owner
  holds : Assoc String Hold
  exporter : Option Exporter
  deriving DecidableEq, Repr

namespace Session

variable {Row : Type u}

/-- Some engines of one configuration on a host. -/
def buildCaches (config : Config) : Nat → Host → List (Cache Row) × Host
  | 0, host => ([], host)
  | count + 1, host =>
      let built : Hosted Row := .build config host
      let later := buildCaches config count built.host
      (.running built.engine :: later.1, later.2)

/-- A session with some engines of one configuration, unless the configuration is refused. -/
def create (config : Config) (engines : Nat) : Except CacheError (Session Row) :=
  config.validate.map fun _ =>
    let built := buildCaches config engines .empty
    ⟨built.2, built.1, 0, .empty, .empty, none⟩

/-! ## Names -/

/-- Replaces one engine. -/
def setCache (session : Session Row) (number : Nat) (cache : Cache Row) : Session Row :=
  { session with caches := session.caches.set number cache }

/-- Replaces the keys of the host. -/
def withKeys (session : Session Row) (keys : Keys) : Session Row :=
  { session with host := { session.host with keys := keys } }

/-- The rows of a held table. -/
def rowsOf (session : Session Row) (hold : Hold) : List Row :=
  match session.caches[hold.engine]? with
  | none => []
  | some cache => cache.memory.rows hold.table

/-- Changes the memory of an engine. -/
def onMemory (session : Session Row) (number : Nat) (change : Memory Row → Memory Row) :
    Session Row :=
  match session.caches[number]? with
  | none => session
  | some cache => session.setCache number (cache.withMemory (change cache.memory))

/-- One holder of a table less. -/
def releaseHold (session : Session Row) (hold : Hold) : Session Row :=
  session.onMemory hold.engine fun memory => memory.release hold.table

/-- Gives an owner a name. An earlier owner of that name gives its key up afterwards. -/
def nameOwner (session : Session Row) (name : String) (owner : Owner) : Session Row :=
  let named := { session with owners := session.owners.insert name owner }
  match session.owners.find? name with
  | none => named
  | some replaced => named.withKeys (named.host.keys.release replaced.keyId)

/-- Gives a hold a name. An earlier hold of that name is given up afterwards. -/
def nameHold (session : Session Row) (name : String) (hold : Hold) : Session Row :=
  let named := { session with holds := session.holds.insert name hold }
  match session.holds.find? name with
  | none => named
  | some replaced => named.releaseHold replaced

/-- What a caller does with a table of the current engine that it was handed: keep it under a name,
or give it back. -/
def settle (session : Session Row) (table : Nat) (name : Option String) : Session Row :=
  match name with
  | none => session.releaseHold ⟨session.current, table⟩
  | some name => session.nameHold name ⟨session.current, table⟩

/-! ## Steps -/

/-- A step on keys. -/
def keyStep (session : Session Row) : KeyStep → Session Row × Answer Row
  | .create name label =>
      let (keyId, keys) := session.host.keys.create label
      ((session.withKeys keys).nameOwner name (.bare keyId), .number keyId)
  | .createBuffer name label =>
      let (keyId, keys) := session.host.keys.create label
      ((session.withKeys keys).nameOwner name (.buffer keyId false), .number keyId)
  | .clone source target =>
      match session.owners.find? source with
      | none => (session, .noKey)
      | some owner =>
          let shared := session.withKeys (session.host.keys.share owner.keyId)
          (shared.nameOwner target (.bare owner.keyId), .number owner.keyId)
  | .drop name =>
      match session.owners.find? name with
      | none => (session, .flag false)
      | some owner =>
          (({ session with owners := session.owners.erase name } : Session Row).withKeys
              (session.host.keys.release owner.keyId),
            .flag true)
  | .same first second =>
      match session.owners.find? first, session.owners.find? second with
      | some first, some second => (session, .flag (first.keyId = second.keyId))
      | _, _ => (session, .noKey)
  | .count names =>
      match names.mapM session.owners.find? with
      | none => (session, .noKey)
      | some owners => (session, .number (owners.map Owner.keyId).eraseDups.length)
  | .label name =>
      match session.owners.find? name with
      | none => (session, .noKey)
      | some owner => (session, .text (session.host.keys.key owner.keyId).label)
  | .describe name =>
      match session.owners.find? name with
      | none => (session, .noKey)
      | some owner =>
          let key := session.host.keys.key owner.keyId
          (session, .texts [key.text, key.describe])
  | .markPersisted name =>
      match session.owners.find? name with
      | none => (session, .noKey)
      | some (.bare _) => (session, .flag false)
      | some (.buffer keyId _) =>
          ({ session with owners := session.owners.insert name (.buffer keyId true) }, .flag true)
  | .isPersisted name =>
      match session.owners.find? name with
      | none => (session, .noKey)
      | some (.bare _) => (session, .nothing)
      | some (.buffer _ isPersisted) => (session, .flag isPersisted)

/-- A step on holds. -/
def holdStep (session : Session Row) : HoldStep → Session Row × Answer Row
  | .rows name =>
      match session.holds.find? name with
      | none => (session, .noHold)
      | some hold => (session, .table (session.rowsOf hold))
  | .describe name =>
      match session.holds.find? name with
      | none => (session, .noHold)
      | some hold => (session, .text (describeRows (session.rowsOf hold).length))
  | .drop name =>
      match session.holds.find? name with
      | none => (session, .flag false)
      | some hold =>
          (({ session with holds := session.holds.erase name } : Session Row).releaseHold hold,
            .flag true)
  | .clone source target =>
      match session.holds.find? source with
      | none => (session, .noHold)
      | some hold =>
          let shared := session.onMemory hold.engine fun memory => memory.share hold.table
          (shared.nameHold target hold, .nothing)
  | .same first second =>
      match session.holds.find? first, session.holds.find? second with
      | some first, some second => (session, .flag (first = second))
      | _, _ => (session, .noHold)

/-- A step of the memory manager. Without an engine nobody is left to hear of cleared tables. -/
def managerStep (session : Session Row) (step : ManagerStep) : Reply (Session Row) (Answer Row) :=
  match session.caches[session.current]? with
  | none => .ok session .noEngine
  | some cache =>
      match step with
      | .reclaim pressure =>
          match cache with
          | .running engine =>
              ((engine.reclaim pressure).map Answer.report).within fun engine =>
                session.setCache session.current (.running engine)
          | .closed memory =>
              let pass := memory.reclaim pressure
              .logged (session.setCache session.current (.closed pass.memory)) pass.events
                (.report pass.report)
      | .reclaimable =>
          .ok (session.setCache session.current (cache.withMemory cache.memory.reclaimable.2))
            (.number cache.memory.reclaimable.1)
      | .tracked =>
          .ok (session.setCache session.current (cache.withMemory cache.memory.tracked.2))
            (.number cache.memory.tracked.1)
      | .renew => .ok session .nothing

/-- Puts an engine and its host back. -/
def restore (session : Session Row) (state : Hosted Row) : Session Row :=
  { session.setCache session.current (.running state.engine) with host := state.host }

/-- Asks the current engine, at `state`, for a table and settles it. -/
def settled (session : Session Row) (reply : Reply (Hosted Row) (Option Nat))
    (hold : Option String) (answer : Option (List Row) → Answer Row) :
    Reply (Session Row) (Answer Row) :=
  (reply.within session.restore).andThen fun session table =>
    match table with
    | none => .ok session (answer none)
    | some table =>
        let rows := session.rowsOf ⟨session.current, table⟩
        .ok (session.settle table hold) (answer (some rows))

/-- The answer of a call that finds a table or not. -/
def tableAnswer : Option (List Row) → Answer Row
  | none => .nothing
  | some rows => .table rows

/-- Calls the current engine for the key under a name. -/
def withKey (session : Session Row) (name : String)
    (next : Owner → Reply (Session Row) (Answer Row)) : Reply (Session Row) (Answer Row) :=
  match session.owners.find? name with
  | none => .ok session .noKey
  | some owner => next owner

/-- A call on the current engine, which is at `state`. The clock of reports stands at zero. To
compare two keys the engine is asked for the tier of the first before the second name is looked up,
so it has removed the entries of keys without owners also if nothing has that name. -/
def callStep (session : Session Row) (state : Hosted Row) :
    Call Row → Reply (Session Row) (Answer Row)
  | .put name rows hold =>
      session.withKey name fun owner =>
        session.settled ((state.put owner.keyId rows).map some) hold tableAnswer
  | .get name hold =>
      session.withKey name fun owner =>
        session.settled ((state.lookup owner.keyId 0).map Found.table) hold tableAnswer
  | .lookup name hold =>
      session.withKey name fun owner =>
        let reply := state.lookup owner.keyId 0
        match reply.result with
        | .error fault => ⟨.error fault, session.restore reply.state, reply.events⟩
        | .ok found => session.settled (reply.map Found.table) hold (.found found.access)
  | .peek name hold =>
      session.withKey name fun owner =>
        session.settled (state.peek owner.keyId) hold tableAnswer
  | .clear name isPersisted =>
      session.withKey name fun owner =>
        let isPersisted :=
          match owner with
          | .bare _ => isPersisted
          | .buffer _ isPersisted => isPersisted
        ((state.clearForReclaim owner.keyId isPersisted).map fun _ => Answer.nothing).within
          session.restore
  | .contains name =>
      session.withKey name fun owner =>
        ((state.contains owner.keyId).map Answer.flag).within session.restore
  | .invalidate name =>
      session.withKey name fun owner =>
        ((state.invalidate owner.keyId).map fun _ => Answer.nothing).within session.restore
  | .tier name =>
      session.withKey name fun owner =>
        ((state.tier owner.keyId).map Answer.tier).within session.restore
  | .compareTiers first second =>
      session.withKey first fun first =>
        ((state.tier first.keyId).andThen fun state tier =>
          match session.owners.find? second with
          | none => .ok state .noKey
          | some second =>
              (state.tier second.keyId).map fun other => Answer.order (tier.order other)).within
          session.restore
  | .purge => (state.purgeOrphans.map Answer.number).within session.restore
  | .statistics => (state.statistics.map Answer.statistics).within session.restore
  | .hitRatio =>
      (state.statistics.andThen fun state counters =>
        match counters.hitRatio? with
        | none => .stop state .overflow
        | some ratio => .ok state (Answer.ratio ratio)).within session.restore
  | .occupancy => (state.occupancy.map Answer.occupancy).within session.restore
  | .size => (state.size.map Answer.number).within session.restore
  | .isEmpty => (state.size.map fun size => Answer.flag (size = 0)).within session.restore
  | .config => .ok session (.config state.engine.config)
  | .describe => .ok session (.texts [state.engine.describe, state.engine.describeLines])
  | .observe =>
      ((state.statistics.andThen fun state counters =>
        state.occupancy.map fun occupancy => (counters, occupancy)).within session.restore).andThen
        fun session observed =>
          let exporter := (session.exporter.getD .fresh).observe observed.1 observed.2
          .ok { session with exporter := some exporter } .nothing

/-- Drops the current engine, and says whether it was there. -/
def dropEngine (session : Session Row) : Session Row × Answer Row :=
  match session.caches[session.current]? with
  | some (.running engine) =>
      let (memory, host) := (⟨engine, session.host⟩ : Hosted Row).close
      ({ session.setCache session.current (.closed memory) with host := host }, .flag true)
  | _ => (session, .flag false)

/-- One step of a session. -/
def step (session : Session Row) : Step Row → Reply (Session Row) (Answer Row)
  | .key step => .ok (session.keyStep step).1 (session.keyStep step).2
  | .hold step => .ok (session.holdStep step).1 (session.holdStep step).2
  | .manager step => session.managerStep step
  | .call call =>
      match session.caches[session.current]? with
      | some (.running engine) => session.callStep ⟨engine, session.host⟩ call
      | _ => .ok session .noEngine
  | .select number =>
      let current := number % session.caches.length
      .ok { session with current := current } (.number current)
  | .dropEngine => .ok session.dropEngine.1 session.dropEngine.2
  | .encode =>
      .ok session
        (match session.exporter with
        | none => .nothing
        | some exporter => .text exporter.encode)

/-- The replies to a list of steps. -/
def run (session : Session Row) (steps : List (Step Row)) :
    List (Reply (Session Row) (Answer Row)) :=
  replies Session.step session steps

/-! ## Surveys -/

/-- Everything that can be read of the current engine: its size, its occupancy, its counters and the
tiers of all named keys, unless it was dropped, and what its memory manager sees. -/
structure Survey where
  size : Option Nat
  occupancy : Option Occupancy
  statistics : Option Statistics
  tiers : List (String × Tier)
  reclaimable : Nat
  tracked : Nat
  deriving DecidableEq, Repr

/-- The tiers of keys by name, asked one after the other. -/
def tiersOf : List (String × Owner) → Hosted Row → List (String × Tier) × Hosted Row
  | [], state => ([], state)
  | (name, owner) :: rest, state =>
      let reply := state.tier owner.keyId
      let later := tiersOf rest reply.state
      match reply.result with
      | .ok tier => ((name, tier) :: later.1, later.2)
      | .error _ => later

/-- Reads everything that can be read. Like every question to an engine this removes the entries of
keys without owners and counts waiting clearances. -/
def survey (session : Session Row) : Survey × Session Row :=
  match session.caches[session.current]? with
  | some (.running engine) =>
      let size := (⟨engine, session.host⟩ : Hosted Row).size
      let occupancy := size.state.occupancy
      let statistics := occupancy.state.statistics
      let (tiers, state) := tiersOf session.owners.pairs statistics.state
      let memory := state.engine.store.memory
      (⟨size.result.toOption, occupancy.result.toOption, statistics.result.toOption, tiers,
          memory.reclaimable.1, memory.reclaimable.2.tracked.1⟩,
        (session.restore state).onMemory session.current fun memory =>
          memory.reclaimable.2.tracked.2)
  | some (.closed memory) =>
      (⟨none, none, none, [], memory.reclaimable.1, memory.reclaimable.2.tracked.1⟩,
        session.onMemory session.current fun memory => memory.reclaimable.2.tracked.2)
  | none => (⟨none, none, none, [], 0, 0⟩, session)

/-- The replies to a list of steps, each with a survey taken after it. -/
def runSurveyed (session : Session Row) :
    List (Step Row) → List (Reply (Session Row) (Answer Row) × Survey)
  | [] => []
  | step :: rest =>
      let reply := session.step step
      let surveyed := reply.state.survey
      (reply, surveyed.1) :: runSurveyed surveyed.2 rest

end Session

end TableCache
