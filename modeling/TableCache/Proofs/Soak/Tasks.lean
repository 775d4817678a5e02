import TableCache.Proofs.Engine.Tidy
import TableCache.Soak.Task

/-!
# Producers, their keys and the cache

A producer that waits for its table to be flushed owns a second share of its key, and it is the only
one that waits for that key. The keys that show a pinned table are the keys that producers wait for.
So a key never loses its last owner while a soak runs, and nothing is ever purged: `State.Tasks` is
kept by every action of every task, in whatever order they come.

Main statements:

1. `putTable_of_ok`, `flushTable_eq`, `lookupKey_of_ok`, `passOnce_eq`: the actions that work on the
   cache, told by what the cache is asked;
2. `Tasks.putTable`, `Tasks.flushTable`, `Tasks.lookupKey`, `Tasks.passOnce`: what they keep.
-/

namespace TableCache

universe u v w x

variable {Row : Type u}

/-! ## Replies one after the other -/

namespace Reply

variable {σ : Type u} {τ : Type w} {α : Type v} {β : Type x} {first : Reply σ α}

theorem andThen_of_ok {value : α} (done : first.result = .ok value)
    (next : σ → α → Reply σ β) :
    first.andThen next = (next first.state value).after first.events := by
  rw [andThen, done]

theorem andThen_of_error {fault : Fault} (stopped : first.result = .error fault)
    (next : σ → α → Reply σ β) :
    first.andThen next = ⟨.error fault, first.state, first.events⟩ := by
  rw [andThen, stopped]

@[simp]
theorem result_within (put : σ → τ) (reply : Reply σ α) :
    (reply.within put).result = reply.result := rfl

@[simp]
theorem result_after (events : List Event) (reply : Reply σ α) :
    (reply.after events).result = reply.result := rfl

@[simp]
theorem state_after (events : List Event) (reply : Reply σ α) :
    (reply.after events).state = reply.state := rfl

end Reply

/-! ## Owners -/

namespace Keys

theorem posted_create (keys : Keys) (label : String) (inbox : Nat) :
    (keys.create label).2.posted inbox = keys.posted inbox := rfl

theorem posted_share (keys : Keys) (keyId inbox : Nat) :
    (keys.share keyId).posted inbox = keys.posted inbox := rfl

/-- An owner that is not the last one goes unnoticed. -/
theorem release_of_two {keys : Keys} {keyId : Nat} (two : keys.owners? keyId = some 2) :
    (∀ inbox, (keys.release keyId).posted inbox = keys.posted inbox) ∧
      (keys.release keyId).owned.next = keys.owned.next ∧
      ∀ other, other ≠ keyId → (keys.release keyId).owners? other = keys.owners? other := by
  obtain ⟨identity, found, owners⟩ := Option.map_eq_some_iff.1 two
  have many : ¬identity.owners ≤ 1 := by omega
  rw [release, found]
  simp only [if_neg many]
  refine ⟨fun _ => rfl, Numbered.next_adjust _ _ _, fun other different => ?_⟩
  simp only [owners?, Numbered.find?_adjust, if_neg different]

end Keys

namespace Hosted

/-- Replaces the keys of the host of an engine. -/
def withKeys (state : Hosted Row) (keys : Keys) : Hosted Row :=
  { state with host := { state.host with keys := keys } }

@[simp]
theorem engine_withKeys (state : Hosted Row) (keys : Keys) :
    (state.withKeys keys).engine = state.engine := rfl

@[simp]
theorem keys_withKeys (state : Hosted Row) (keys : Keys) :
    (state.withKeys keys).host.keys = keys := rfl

end Hosted

namespace Soak

/-! ## Actions on the cache -/

namespace State

variable {state : State} {producer table keyId : Nat}

/-- The cache once a producer has made a new key. -/
def labelled (state : State) (producer table : Nat) : Hosted Block :=
  state.cache.withKeys (state.cache.host.keys.create (label producer table)).2

/-- The key that is made next. -/
def nextKey (state : State) : Nat := state.cache.host.keys.owned.next

/-- The cache once a producer has put a table under a new key, as far as that succeeds. -/
def putting (state : State) (producer table : Nat) : Reply (Hosted Block) Nat :=
  (state.labelled producer table).put state.nextKey (makeRows state.settings table)

/-- The cache once a producer has given a cached table back and shared its key. -/
def published (state : State) (producer table cached : Nat) : Hosted Block :=
  let cache := (state.putting producer table).state.release cached
  cache.withKeys (cache.host.keys.share state.nextKey)

theorem putTable_eq (state : State) (producer table : Nat) :
    state.putTable producer table =
      ((state.putting producer table).within
          (state.withKeys
            (state.cache.host.keys.create (label producer table)).2).withCache).andThen
        fun state' cached =>
          let state' := state'.withCache (state'.cache.release cached)
          let state' := state'.withKeys (state'.cache.host.keys.share state.nextKey)
          .ok
            { state'.moveProducer producer (.flushing table (.create state.nextKey)) with
              directory := state'.directory ++ [state.nextKey]
              produced := state'.produced + 1 }
            () := rfl

@[simp]
theorem engine_labelled (state : State) (producer table : Nat) :
    (state.labelled producer table).engine = state.cache.engine := rfl

theorem putTable_of_ok {cached : Nat} (done : (state.putting producer table).result = .ok cached) :
    (state.putTable producer table).result = .ok () ∧
      (state.putTable producer table).state =
        { state.moveProducer producer (.flushing table (.create state.nextKey)) with
          cache := state.published producer table cached
          directory := state.directory ++ [state.nextKey]
          produced := state.produced + 1 } := by
  rw [putTable_eq, Reply.andThen_of_ok ((Reply.result_within _ _).trans done)]
  unfold published
  generalize state.putting producer table = reply
  exact ⟨rfl, rfl⟩

theorem putTable_of_error {fault : Fault}
    (stopped : (state.putting producer table).result = .error fault) :
    (state.putTable producer table).result = .error fault := by
  rw [putTable_eq, Reply.andThen_of_error ((Reply.result_within _ _).trans stopped)]

/-- The cache once a table was given up for reclaiming, and invalidated if its number says so. -/
def settling (state : State) (table keyId : Nat) : Reply (Hosted Block) Unit :=
  let cleared := state.cache.clearForReclaim keyId true
  if state.settings.invalidates table then cleared.andThen fun cache _ => cache.invalidate keyId
  else cleared

theorem settling_result (state : State) (table keyId : Nat) :
    (state.settling table keyId).result = .ok () := by
  have cleared := Hosted.clear_result state.cache keyId
  unfold settling
  split
  next =>
    rw [Reply.andThen_of_ok cleared, Reply.result_after]
    exact Hosted.invalidate_result _ keyId
  next => exact cleared

/-- The cache once a producer has settled a table and given its share of the key up. -/
def settled (state : State) (table keyId : Nat) : Hosted Block :=
  let cache := (state.settling table keyId).state
  cache.withKeys (cache.host.keys.release keyId)

/-- A flush succeeds, because a buffer is marked as persisted before its table is given up. -/
theorem flushTable_eq (state : State) (producer table : Nat) (buffer : Buffer) :
    (state.flushTable producer table buffer).result = .ok () ∧
      (state.flushTable producer table buffer).state =
        { state.moveProducer producer (.ready (table + 1)) with
          cache := state.settled table buffer.keyId } := by
  have same : state.flushTable producer table buffer =
      ((state.settling table buffer.keyId).within state.withCache).andThen fun state _ =>
        .ok ((state.withKeys (state.cache.host.keys.release buffer.keyId)).moveProducer producer
          (.ready (table + 1))) () := rfl
  rw [same, Reply.andThen_of_ok
    ((Reply.result_within _ _).trans (state.settling_result table buffer.keyId))]
  unfold settled
  generalize state.settling table buffer.keyId = reply
  exact ⟨rfl, rfl⟩

/-- The cache once a reader has given back what a look-up found. -/
def answered (state : State) (keyId now : Nat) (found : Found) : Hosted Block :=
  let cache := (state.cache.lookup keyId now).state
  (found.table.map cache.release).getD cache

theorem lookupKey_eq (state : State) (consumer cursor keyId now : Nat) :
    state.lookupKey consumer cursor keyId now =
      ((state.cache.lookup keyId now).within state.withCache).andThen fun state found =>
        .ok
          { (state.withCache ((found.table.map state.cache.release).getD
              state.cache)).moveConsumer consumer (.next (Consumer.advance cursor)) with
            lookups := state.lookups + 1 }
          () := rfl

theorem lookupKey_of_ok {consumer cursor now : Nat} {found : Found}
    (done : (state.cache.lookup keyId now).result = .ok found) :
    (state.lookupKey consumer cursor keyId now).result = .ok () ∧
      (state.lookupKey consumer cursor keyId now).state =
        { state.moveConsumer consumer (.next (Consumer.advance cursor)) with
          cache := state.answered keyId now found
          lookups := state.lookups + 1 } := by
  rw [lookupKey_eq, Reply.andThen_of_ok ((Reply.result_within _ _).trans done)]
  unfold answered
  generalize state.cache.lookup keyId now = reply
  exact ⟨rfl, rfl⟩

theorem lookupKey_of_error {consumer cursor now : Nat} {fault : Fault}
    (stopped : (state.cache.lookup keyId now).result = .error fault) :
    (state.lookupKey consumer cursor keyId now).result = .error fault := by
  rw [lookupKey_eq, Reply.andThen_of_error ((Reply.result_within _ _).trans stopped)]

/-- The pressure of every pass. -/
def pressure (state : State) : Pressure := .bounded state.settings.reclaimBatch

/-- The cache after a pass. -/
def passed (state : State) : Hosted Block :=
  { state.cache with engine := (state.cache.engine.reclaim state.pressure).state }

theorem passOnce_eq {report : Report}
    (reported : (state.cache.engine.reclaim state.pressure).result = .ok report) :
    state.reclaimed.merge? report = none ∧ state.passOnce.result = .error .overflow ∨
      ∃ merged, state.reclaimed.merge? report = some merged ∧ state.passOnce.result = .ok () ∧
        state.passOnce.state = { state with cache := state.passed, reclaimed := merged } := by
  unfold pressure at reported
  unfold passOnce passed pressure
  rw [Reply.andThen_of_ok ((Reply.result_within _ _).trans reported)]
  generalize state.cache.engine.reclaim (.bounded state.settings.reclaimBatch) = reply
  simp only [Reply.within, withCache]
  cases state.reclaimed.merge? report with
  | none => exact .inl ⟨rfl, rfl⟩
  | some total => exact .inr ⟨total, rfl, rfl, rfl⟩

/-! ## Who waits for a key -/

/-- Whether a producer waits for the table of a key to be flushed. -/
def Flushes (state : State) (producer keyId : Nat) : Prop :=
  ∃ table buffer, state.producers[producer]? = some (.flushing table buffer) ∧ buffer.keyId = keyId

variable {phase next : Phase}

theorem producers_moveProducer (there : state.producers[producer]? = some phase) (next : Phase)
    (other : Nat) :
    (state.moveProducer producer next).producers[other]? =
      if other = producer then some next else state.producers[other]? := by
  obtain ⟨room, -⟩ := Array.getElem?_eq_some_iff.1 there
  simp only [moveProducer, Array.getElem?_setIfInBounds, eq_comm (a := producer), room]
  split
  next => simp
  next => rfl

theorem flushes_moveProducer (there : state.producers[producer]? = some phase) (other keyId : Nat) :
    (state.moveProducer producer next).Flushes other keyId ↔
      if other = producer then ∃ table buffer, next = .flushing table buffer ∧ buffer.keyId = keyId
      else state.Flushes other keyId := by
  simp only [Flushes, producers_moveProducer there]
  split <;> simp

end State

/-- Where a producer can be that made some number of tables and makes `limit` in all. -/
def Phase.Suits (made limit : Nat) : Phase → Prop
  | .ready table => made = table ∧ table ≤ limit
  | .flushing table _ => made = table + 1 ∧ table < limit
  | .done => made ≤ limit

/-- A soak in which each producer made some number of tables and is where it can be then. The keys
that show a pinned table are those that producers wait for, one producer for each, and such a
producer owns one of the two shares of its key. -/
structure State.Tasks (state : State) (config : Config) (settings : Settings) (made : Nat → Nat) :
    Prop where
  set : state.settings = settings
  cache : state.cache.Tidy config settings.rowsPerTable 0
  crew : state.producers.size = settings.producers
  suits : ∀ producer (phase : Phase), state.producers[producer]? = some phase →
    phase.Suits (made producer) settings.tablesPerProducer
  pinned : ∀ keyId, (∃ table, state.cache.engine.store.shown? keyId = some ⟨table, true⟩) ↔
    ∃ producer, state.Flushes producer keyId
  shared : ∀ producer keyId, state.Flushes producer keyId →
    state.cache.host.keys.owners? keyId = some 2
  apart : ∀ first second keyId, state.Flushes first keyId → state.Flushes second keyId →
    first = second

namespace State.Tasks

variable {state after : State} {config : Config} {settings : Settings} {made : Nat → Nat}
  {producer table keyId cached : Nat} {buffer : Buffer}

/-- An action that moves no producer, pins nothing and unpins nothing. -/
theorem of_same (tasks : state.Tasks config settings made) (set : after.settings = state.settings)
    (producers : after.producers = state.producers)
    (tidy : after.cache.Tidy config settings.rowsPerTable 0)
    (pins : ∀ keyId, (∃ table, after.cache.engine.store.shown? keyId = some ⟨table, true⟩) ↔
      ∃ table, state.cache.engine.store.shown? keyId = some ⟨table, true⟩)
    (owners : ∀ keyId, after.cache.host.keys.owners? keyId = state.cache.host.keys.owners? keyId) :
    after.Tasks config settings made where
  set := set.trans tasks.set
  cache := tidy
  crew := producers ▸ tasks.crew
  suits := producers ▸ tasks.suits
  pinned keyId := (pins keyId).trans (by simpa only [Flushes, producers] using tasks.pinned keyId)
  shared producer keyId flushes := (owners keyId).trans
    (tasks.shared producer keyId (by simpa only [Flushes, producers] using flushes))
  apart first second keyId one other := tasks.apart first second keyId
    (by simpa only [Flushes, producers] using one) (by simpa only [Flushes, producers] using other)

/-- A producer that ends. -/
theorem stopProducer (tasks : state.Tasks config settings made)
    (there : state.producers[producer]? = some (.ready table)) :
    (state.moveProducer producer .done).Tasks config settings made := by
  have flushes : ∀ other keyId,
      (state.moveProducer producer .done).Flushes other keyId ↔ state.Flushes other keyId := by
    intro other keyId
    rw [flushes_moveProducer there]
    split
    next same => simp [Flushes, same, there]
    next => rfl
  refine ⟨tasks.set, tasks.cache, ?_, fun other phase found => ?_, fun keyId => ?_,
    fun other keyId waits => ?_, fun first second keyId one other => ?_⟩
  · simpa [moveProducer] using tasks.crew
  · rw [producers_moveProducer there] at found
    split at found
    next same =>
      obtain rfl := Option.some.inj found
      obtain ⟨made, most⟩ := tasks.suits producer _ there
      rw [same, Phase.Suits, made]
      exact most
    next => exact tasks.suits other phase found
  · simp only [flushes]
    exact tasks.pinned keyId
  · exact tasks.shared other keyId ((flushes other keyId).1 waits)
  · exact tasks.apart first second keyId ((flushes first keyId).1 one)
      ((flushes second keyId).1 other)

/-! ## A put -/

theorem tidy_labelled (tasks : state.Tasks config settings made) (producer table : Nat) :
    (state.labelled producer table).Tidy config settings.rowsPerTable 0 := by
  refine tasks.cache.withKeys (Keys.posted_create _ _ _) ?_
  simp [Keys.create]

/-- A key that was not made yet shows nothing. -/
theorem shown?_nextKey (tasks : state.Tasks config settings made) :
    state.cache.engine.store.shown? state.nextKey = none := by
  cases there : state.cache.engine.store.shown? state.nextKey with
  | none => rfl
  | some shown => exact absurd (tasks.cache.known _ shown there) (Nat.lt_irrefl _)

theorem tidy_putting (tasks : state.Tasks config settings made)
    (done : (state.putting producer table).result = .ok cached) :
    (state.putting producer table).state.Tidy config settings.rowsPerTable (cached ::ₘ 0) := by
  have tidy := tasks.tidy_labelled producer table
  have returned := (Hosted.rows_put tidy.sound _ _ done).1
  have fitting : ∀ keyId rows,
      Request.put state.nextKey (makeRows state.settings table) = .put keyId rows →
        keyId < (state.labelled producer table).host.keys.owned.next ∧
          rows.length = settings.rowsPerTable ∧
            ((state.labelled producer table).put keyId rows).result =
              .ok (state.labelled producer table).purged.fresh := by
    rintro _ _ ⟨⟩
    refine ⟨?_, ?_, ?_⟩
    · simp [labelled, nextKey, Keys.create]
    · simp [makeRows, tasks.set]
    · rw [← returned]
      exact done
  have kept := tidy.perform rfl fitting
  rw [Hosted.given_perform, Hosted.perform_state] at kept
  simp only at kept
  rw [show ((state.labelled producer table).put state.nextKey
    (makeRows state.settings table)).result = .ok cached from done] at kept
  exact kept

theorem tidy_published (tasks : state.Tasks config settings made)
    (done : (state.putting producer table).result = .ok cached) :
    (state.published producer table cached).Tidy config settings.rowsPerTable 0 := by
  refine (tasks.tidy_putting done).release.withKeys (Keys.posted_share _ _ _) ?_
  simp [Keys.share]

/-- A put shows the new table under the new key and changes nothing else of what is shown. -/
theorem shown?_published (tasks : state.Tasks config settings made)
    (producer table cached other : Nat) :
    (state.published producer table cached).engine.store.shown? other =
      if other = state.nextKey then some ⟨state.cache.fresh, true⟩
      else state.cache.engine.store.shown? other := by
  have tidy := tasks.tidy_labelled producer table
  have put := Hosted.shown?_put tidy.sound state.nextKey other (makeRows state.settings table)
  simp only [Hosted.fresh, tidy.store_purged] at put
  rw [engine_labelled] at put
  simp only [published, Hosted.engine_withKeys, Hosted.shown?_release]
  exact put

theorem owners?_published (tasks : state.Tasks config settings made)
    (producer table cached other : Nat) :
    (state.published producer table cached).host.keys.owners? other =
      if other = state.nextKey then some 2 else state.cache.host.keys.owners? other := by
  have tidy := tasks.tidy_labelled producer table
  have put := (Hosted.follows_put (state.labelled producer table) state.nextKey
    (makeRows state.settings table)).owners other
  simp only [published, Hosted.keys_withKeys, Keys.owners?_share, Hosted.host_release]
  rw [show (state.putting producer table).state.host.keys.owners? other = _ from put, labelled,
    Hosted.keys_withKeys, Keys.owners?_create]
  by_cases new : other = state.nextKey
  · simp [new, nextKey]
  · simp [new, show other ≠ state.cache.host.keys.owned.next from new]

/-- A put keeps the tasks in order: its producer waits for the new key, and no other does, since no
other key is new. -/
theorem putTable (tasks : state.Tasks config settings made)
    (there : state.producers[producer]? = some (.ready table))
    (more : table < settings.tablesPerProducer)
    (done : (state.putting producer table).result = .ok cached) :
    (state.putTable producer table).state.Tasks config settings
      (Function.update made producer (made producer + 1)) := by
  rw [(putTable_of_ok done).2]
  have flushes : ∀ other keyId,
      (state.moveProducer producer (.flushing table (.create state.nextKey))).Flushes other keyId ↔
        if other = producer then keyId = state.nextKey else state.Flushes other keyId := by
    intro other keyId
    rw [flushes_moveProducer there]
    split <;> simp [Buffer.create, eq_comm]
  have idle : ∀ keyId, ¬state.Flushes producer keyId := by
    rintro keyId ⟨_, _, waits, -⟩
    simp [there] at waits
  have new : ∀ other, ¬state.Flushes other state.nextKey := by
    intro other waits
    obtain ⟨shown, pinned⟩ := (tasks.pinned _).2 ⟨other, waits⟩
    simp [tasks.shown?_nextKey] at pinned
  refine ⟨tasks.set, tasks.tidy_published done, ?_, fun other phase found => ?_, fun keyId => ?_,
    fun other keyId waits => ?_, fun first second keyId one other => ?_⟩
  · simpa [moveProducer] using tasks.crew
  · have found := (producers_moveProducer there _ other).symm.trans found
    split at found
    next same =>
      obtain rfl := Option.some.inj found
      obtain ⟨count, -⟩ := tasks.suits producer _ there
      rw [same, Function.update_self]
      exact ⟨congrArg (· + 1) count, more⟩
    next different =>
      rw [Function.update_of_ne different]
      exact tasks.suits other phase found
  · show (∃ shown, (state.published producer table cached).engine.store.shown? keyId =
        some ⟨shown, true⟩) ↔
      ∃ other,
        (state.moveProducer producer (.flushing table (.create state.nextKey))).Flushes other keyId
    simp only [tasks.shown?_published, flushes]
    split
    next same =>
      refine iff_of_true ⟨_, rfl⟩ ⟨producer, ?_⟩
      rw [if_pos rfl]
      exact same
    next different =>
      rw [tasks.pinned]
      refine exists_congr fun other => ?_
      split
      next same => simp [same, idle, different]
      next => rfl
  · have waits := (flushes other keyId).1 waits
    show (state.published producer table cached).host.keys.owners? keyId = some 2
    rw [tasks.owners?_published]
    split
    next => rfl
    next different =>
      split at waits
      next => exact absurd waits different
      next => exact tasks.shared other keyId waits
  · have one := (flushes first keyId).1 one
    have other := (flushes second keyId).1 other
    split at one <;> split at other
    next same same' => exact same.trans same'.symm
    next same => exact absurd (one ▸ other) (new second)
    next => exact absurd (other ▸ one) (new first)
    next => exact tasks.apart first second keyId one other

/-! ## A flush -/

theorem settling_state (state : State) (table keyId : Nat) :
    (state.settling table keyId).state =
      if state.settings.invalidates table then
        ((state.cache.perform (.clear keyId true)).state.perform (.invalidate keyId)).state
      else (state.cache.perform (.clear keyId true)).state := by
  unfold settling
  split
  next =>
    rw [Reply.andThen_of_ok (Hosted.clear_result state.cache keyId), Reply.state_after,
      Hosted.perform, Hosted.perform, Hosted.state_map, Hosted.state_map]
  next => rw [Hosted.perform, Hosted.state_map]

theorem tidy_settling (tasks : state.Tasks config settings made) (table keyId : Nat) :
    (state.settling table keyId).state.Tidy config settings.rowsPerTable 0 := by
  rw [settling_state]
  split
  next => exact (tasks.cache.clear keyId).invalidate keyId
  next => exact tasks.cache.clear keyId

/-- A flush unpins the table of its key, or takes it out, and changes nothing else of what is
shown. -/
theorem shown?_settling (tasks : state.Tasks config settings made) (table keyId other : Nat) :
    (state.settling table keyId).state.engine.store.shown? other =
      if other = keyId then
        if state.settings.invalidates table then none
        else (state.cache.engine.store.shown? keyId).map Shown.unpin
      else state.cache.engine.store.shown? other := by
  have locks : (Request.clear keyId true : Request Block).locks = true := rfl
  have removes : (Request.invalidate keyId : Request Block).locks = true := rfl
  have cleared := tasks.cache.shown?_perform locks other
  rw [settling_state]
  split
  next =>
    rw [(tasks.cache.clear keyId).shown?_perform removes, cleared]
    simp only [Request.effect]
    split <;> rfl
  next =>
    rw [cleared]
    simp only [Request.effect]
    split
    next same => rw [same]
    next => rfl

theorem owners?_settling (tasks : state.Tasks config settings made) (table keyId other : Nat) :
    (state.settling table keyId).state.host.keys.owners? other =
      state.cache.host.keys.owners? other := by
  have cleared := (Hosted.follows_perform tasks.cache.sound (.clear keyId true)).owners other
  rw [settling_state]
  split
  next =>
    exact ((Hosted.follows_perform (tasks.cache.clear keyId).sound
      (.invalidate keyId)).owners other).trans cleared
  next => exact cleared

theorem recorder_settling (state : State) (table keyId : Nat) :
    (state.settling table keyId).state.engine.recorder = state.cache.engine.recorder := by
  rw [settling_state]
  split
  next => rw [Hosted.recorder_invalidate, Hosted.recorder_clear]
  next => rw [Hosted.recorder_clear]

/-- How many tables there are once a table that a key showed was settled. -/
theorem length_tables_settling (tasks : state.Tasks config settings made) {shown : Shown}
    (there : state.cache.engine.store.shown? keyId = some shown) (table : Nat) :
    state.cache.engine.store.tables.length =
      (state.settling table keyId).state.engine.store.tables.length +
        if state.settings.invalidates table then 1 else 0 := by
  have locks : (Request.clear keyId true : Request Block).locks = true := rfl
  have cleared := tasks.cache.shown?_perform locks
  have kept : (state.cache.perform (.clear keyId true)).state.engine.store.tables.length =
      state.cache.engine.store.tables.length := by
    refine Hosted.Tidy.length_tables_of_same fun other => ?_
    rw [Store.table?, Store.table?, cleared]
    simp only [Request.effect]
    split
    next => exact Option.map_map _ _ _
    next => rfl
  rw [settling_state, ← kept]
  have still : (state.cache.perform (.clear keyId true)).state.engine.store.shown? keyId =
      some shown.unpin := by
    rw [cleared, there]
    simp [Request.effect]
  split
  next => exact (tasks.cache.clear keyId).length_tables_invalidate still
  next => exact (Nat.add_zero _).symm

/-- A flush keeps the tasks in order: nobody waits for its key any more, since only this producer
did. -/
theorem flushTable (tasks : state.Tasks config settings made)
    (there : state.producers[producer]? = some (.flushing table buffer)) :
    (state.flushTable producer table buffer).state.Tasks config settings made := by
  rw [(flushTable_eq state producer table buffer).2]
  have waited : state.Flushes producer buffer.keyId := ⟨table, buffer, there, rfl⟩
  have two := (tasks.owners?_settling table buffer.keyId buffer.keyId).trans
    (tasks.shared _ _ waited)
  obtain ⟨quiet, next, others⟩ := Keys.release_of_two two
  have flushes : ∀ other key, (state.moveProducer producer (.ready (table + 1))).Flushes other key ↔
      other ≠ producer ∧ state.Flushes other key := by
    intro other key
    rw [flushes_moveProducer there]
    split
    next same => simp [same]
    next different => simp [different]
  have free : ∀ other, other ≠ producer → ¬state.Flushes other buffer.keyId :=
    fun other different waits => different (tasks.apart _ _ _ waits waited)
  refine ⟨tasks.set, (tasks.tidy_settling table buffer.keyId).withKeys (quiet _) next.ge, ?_,
    fun other phase found => ?_, fun key => ?_, fun other key waits => ?_,
    fun first second key one other => ?_⟩
  · simpa [moveProducer] using tasks.crew
  · have found := (producers_moveProducer there _ other).symm.trans found
    split at found
    next same =>
      obtain rfl := Option.some.inj found
      rw [same]
      exact tasks.suits producer (.flushing table buffer) there
    next => exact tasks.suits other phase found
  · show (∃ shown,
        (state.settled table buffer.keyId).engine.store.shown? key = some ⟨shown, true⟩) ↔
      ∃ other, (state.moveProducer producer (.ready (table + 1))).Flushes other key
    simp only [settled, Hosted.engine_withKeys, tasks.shown?_settling, flushes]
    split
    next same =>
      refine iff_of_false ?_ ?_
      · rintro ⟨shown, unpinned⟩
        split at unpinned
        next => cases unpinned
        next =>
          obtain ⟨earlier, -, same⟩ := Option.map_eq_some_iff.1 unpinned
          cases same
      · rintro ⟨other, different, waits⟩
        exact free other different (same ▸ waits)
    next different =>
      rw [tasks.pinned]
      refine exists_congr fun other => ⟨fun waits => ⟨?_, waits⟩, And.right⟩
      rintro rfl
      obtain ⟨_, other, waits, rfl⟩ := waits
      rw [there] at waits
      cases waits
      exact different rfl
  · obtain ⟨different, waits⟩ := (flushes other key).1 waits
    have apart : key ≠ buffer.keyId := fun same => free other different (same ▸ waits)
    show ((state.settling table buffer.keyId).state.host.keys.release buffer.keyId).owners? key =
      some 2
    rw [others key apart, tasks.owners?_settling]
    exact tasks.shared other key waits
  · have waits := ((flushes first key).1 one).2
    exact tasks.apart first second key waits ((flushes second key).1 other).2

/-! ## A look-up and a pass -/

theorem shown?_answered (tasks : state.Tasks config settings made) (now : Nat) (found : Found)
    (other : Nat) :
    (state.answered keyId now found).engine.store.shown? other =
      state.cache.engine.store.shown? other := by
  have asked := Hosted.shown?_lookup tasks.cache.sound keyId now other
  rw [tasks.cache.store_purged] at asked
  cases given : found.table with
  | none =>
      simp only [answered, given, Option.map_none, Option.getD_none]
      exact asked
  | some table =>
      simp only [answered, given, Option.map_some, Option.getD_some, Hosted.shown?_release]
      exact asked

theorem tidy_answered (tasks : state.Tasks config settings made) {now : Nat} {found : Found}
    (done : (state.cache.lookup keyId now).result = .ok found) :
    (state.answered keyId now found).Tidy config settings.rowsPerTable 0 := by
  have locks : (Request.lookup keyId now : Request Block).locks = true := rfl
  have asked := tasks.cache.perform locks fun _ _ put => by cases put
  rw [Hosted.given_perform, Hosted.perform_state] at asked
  simp only [done, Hosted.handed] at asked
  rw [answered]
  cases given : found.table with
  | none => simpa [given] using asked
  | some table =>
      rw [given] at asked
      exact Hosted.Tidy.release asked

theorem lookupKey (tasks : state.Tasks config settings made) {consumer cursor now : Nat}
    {found : Found} (done : (state.cache.lookup keyId now).result = .ok found) :
    (state.lookupKey consumer cursor keyId now).state.Tasks config settings made := by
  rw [(lookupKey_of_ok done).2]
  refine tasks.of_same rfl rfl (tasks.tidy_answered done) (fun other => ?_) fun other => ?_
  · simp only [tasks.shown?_answered]
  · have asked := (Hosted.follows_lookup tasks.cache.sound keyId now).owners other
    show (state.answered keyId now found).host.keys.owners? other = _
    cases given : found.table with
    | none =>
        simp only [answered, given, Option.map_none, Option.getD_none]
        exact asked
    | some table =>
        simp only [answered, given, Option.map_some, Option.getD_some, Hosted.host_release]
        exact asked

/-- A pass spares the pinned tables. -/
theorem passed (tasks : state.Tasks config settings made) {merged : Report} :
    ({ state with cache := state.passed, reclaimed := merged } : State).Tasks config settings
      made := by
  refine tasks.of_same rfl rfl (tasks.cache.reclaim _) (fun keyId => ?_) fun _ => rfl
  refine exists_congr fun table => ?_
  rw [show state.passed.engine.store.shown? keyId = _ from
    Hosted.shown?_reclaim tasks.cache.sound state.pressure keyId, Option.filter_eq_some_iff]
  refine ⟨And.left, fun there => ⟨there, ?_⟩⟩
  simpa using tasks.cache.sound.store.pinned_notMem state.pressure there rfl

end State.Tasks

end Soak

end TableCache
