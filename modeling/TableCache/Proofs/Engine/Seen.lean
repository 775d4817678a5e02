import TableCache.Proofs.Engine.Requests
import TableCache.Proofs.Store.Seen

/-!
# An engine without the others

What an engine answers does not depend on the names of the ticks of its host's clock, nor on the
inboxes of other engines: an engine that is seen with other names for ticks and with another inbox
left out answers as before, and is left as it would be left, seen that way.

Main statements:

1. `perform_seen`: a request;
2. `close_seen`, `Engine.reclaim_retick`: the end of an engine, and a reclaim pass.
-/

namespace TableCache

universe u v w

variable {Row : Type u}

/-- An engine with other names for the ticks of its cells. -/
def Engine.retick (tick : Nat → Nat) (engine : Engine Row) : Engine Row :=
  { engine with store := engine.store.retick tick }

theorem Engine.reclaim_retick {tick : Nat → Nat} {clock : Nat} (renames : Renames tick clock)
    (engine : Engine Row) (pressure : Pressure) :
    (engine.retick tick).reclaim pressure = (engine.reclaim pressure).within (retick tick) := by
  have pass : (engine.retick tick).store.memory.reclaim pressure = _ :=
    renames.reclaim_retick engine.store.memory pressure
  unfold reclaim
  rw [pass]
  rfl

namespace Hosted

/-- An engine with other names for the ticks of its host's clock, and without another inbox. -/
def seen (tick : Nat → Nat) (inbox : Nat) (state : Hosted Row) : Hosted Row :=
  ⟨state.engine.retick tick, state.host.seen tick inbox⟩

variable {tick : Nat → Nat} {inbox : Nat} {state : Hosted Row} {keyId : Nat}

theorem recorder_seen (state : Hosted Row) :
    (state.seen tick inbox).engine.recorder = state.engine.recorder := rfl

theorem withStore_seen (state : Hosted Row) (store : Store Row) :
    (state.seen tick inbox).withStore (store.retick tick) =
      (state.withStore store).seen tick inbox := rfl

theorem withRecorder_seen (state : Hosted Row) (recorder : Recorder) :
    (state.seen tick inbox).withRecorder recorder =
      (state.withRecorder recorder).seen tick inbox := rfl

theorem release_seen (state : Hosted Row) (table : Nat) :
    (state.seen tick inbox).release table = (state.release table).seen tick inbox := rfl

theorem key_seen (state : Hosted Row) (keyId : Nat) :
    (state.seen tick inbox).host.keys.key keyId = state.host.keys.key keyId :=
  Keys.key_without inbox state.host.keys keyId

/-! ## Moves -/

theorem purgeOrphans_seen (apart : state.engine.store.inbox ≠ inbox) :
    (state.seen tick inbox).purgeOrphans =
      state.purgeOrphans.within (Hosted.seen tick inbox) := by
  have expunged : (state.seen tick inbox).engine.store.expunge (state.seen tick inbox).host = _ :=
    Store.expunge_seen tick apart state.host
  unfold purgeOrphans
  rw [expunged]
  rfl

/-- An engine is asked after its purge. -/
theorem ask_seen {α : Type v} {next : Hosted Row → Reply (Hosted Row) α}
    (apart : state.engine.store.inbox ≠ inbox)
    (answered : next (state.purged.seen tick inbox) =
      (next state.purged).within (Hosted.seen tick inbox)) :
    (state.seen tick inbox).ask next = (state.ask next).within (Hosted.seen tick inbox) := by
  unfold ask
  rw [purgeOrphans_seen apart]
  exact congrArg (Reply.after state.purgeOrphans.events) answered

theorem yielded_retick (tick : Nat → Nat) (store : Store Row) (evicted : Option Nat) :
    yielded (store.retick tick) evicted = (yielded store evicted).retick tick := by
  cases evicted with
  | none => rfl
  | some evicted => exact congrArg Prod.snd (Store.dropRecent_retick tick store evicted)

theorem touch_seen (state : Hosted Row) (keyId : Nat) :
    (state.seen tick inbox).touch keyId = (state.touch keyId).seen tick inbox := by
  have yielding : yielded (state.seen tick inbox).engine.store
      ((state.seen tick inbox).engine.recency.touch keyId).1 = _ :=
    yielded_retick tick state.engine.store (state.engine.recency.touch keyId).1
  rw [touch_eq, touch_eq, yielding]
  rfl

theorem promote_seen (renames : Renames tick state.host.clock) (keyId : Nat) :
    (state.seen tick inbox).promote keyId = (state.promote keyId).seen tick inbox := by
  have clock : (state.touch keyId).host.clock = state.host.clock := by rw [touch_eq]
  rw [← clock] at renames
  have attached : ((state.touch keyId).seen tick inbox).engine.store.attachRecent
      ((state.touch keyId).seen tick inbox).host keyId = _ :=
    Store.attachRecent_seen renames keyId
  unfold promote
  rw [touch_seen]
  simp only [attached]
  rfl

theorem forget_seen (state : Hosted Row) (keyId : Nat) :
    (state.seen tick inbox).forget keyId =
      ((state.forget keyId).1, (state.forget keyId).2.seen tick inbox) := by
  have removed : (state.seen tick inbox).engine.store.invalidate keyId = _ :=
    Store.invalidate_retick tick state.engine.store keyId
  unfold forget
  simp only [removed]
  rfl

/-! ## Operations

What is left of a put and of a look-up, once the store has done its part, is to count it. -/

/-- Counts a put, and hands its table out. -/
def countPut (state : Hosted Row) (keyId size table : Nat) : Reply (Hosted Row) Nat :=
  let counted := state.engine.recorder.recordPut
  let state := state.withRecorder counted.state
  match counted.result with
  | .error fault => ⟨.error fault, state.release table, counted.events⟩
  | .ok _ => .logged state (counted.events ++ [.cached (state.host.keys.key keyId) size]) table

/-- Counts a look-up at time `now`, and hands out what was found. -/
def countAccess (state : Hosted Row) (found : Found) (events : List Event) (now : Nat) :
    Reply (Hosted Row) Found :=
  let counted := state.engine.recorder.recordAccess found.access now
  let state := state.withRecorder counted.state
  match counted.result with
  | .error fault =>
      ⟨.error fault, (found.table.map state.release).getD state, events ++ counted.events⟩
  | .ok none => .logged state (events ++ counted.events) found
  | .ok (some counters) =>
      .logged state (events ++ counted.events ++ [.intervalElapsed counters]) found

theorem put_eq (state : Hosted Row) (keyId : Nat) (rows : List Row) :
    state.put keyId rows =
      state.ask fun state => (state.placed keyId rows).countPut keyId rows.length state.fresh :=
  rfl

theorem lookup_eq (state : Hosted Row) (keyId now : Nat) :
    state.lookup keyId now =
      state.ask fun state =>
        (state.resolve keyId).2.1.countAccess (state.resolve keyId).1 (state.resolve keyId).2.2
          now :=
  rfl

theorem countPut_seen (state : Hosted Row) (keyId size table : Nat) :
    (state.seen tick inbox).countPut keyId size table =
      (state.countPut keyId size table).within (Hosted.seen tick inbox) := by
  unfold countPut
  simp only [recorder_seen, withRecorder_seen, release_seen, key_seen]
  cases state.engine.recorder.recordPut.result <;> rfl

theorem countAccess_seen (state : Hosted Row) (found : Found) (events : List Event) (now : Nat) :
    (state.seen tick inbox).countAccess found events now =
      (state.countAccess found events now).within (Hosted.seen tick inbox) := by
  obtain ⟨table, access⟩ := found
  unfold countAccess
  simp only [recorder_seen, withRecorder_seen]
  rcases (state.engine.recorder.recordAccess access now).result with fault | _ | counters
  · cases table <;> rfl
  · rfl
  · rfl

theorem put_seen (renames : Renames tick state.host.clock)
    (apart : state.engine.store.inbox ≠ inbox) (keyId : Nat) (rows : List Row) :
    (state.seen tick inbox).put keyId rows =
      (state.put keyId rows).within (Hosted.seen tick inbox) := by
  have still : state.purged.engine.store.inbox ≠ inbox := by
    rwa [(follows_purged state).inbox]
  have clock : Renames tick state.purged.host.clock := renames
  have stored : (state.purged.seen tick inbox).stocked keyId rows =
      (state.purged.stocked keyId rows).seen tick inbox := by
    have stored : (state.purged.seen tick inbox).engine.store.put
        (state.purged.seen tick inbox).host keyId rows = _ :=
      Store.put_seen clock still keyId rows
    unfold stocked
    rw [stored]
    rfl
  rw [put_eq, put_eq]
  refine ask_seen apart ?_
  rw [placed, stored, touch_seen, countPut_seen]
  rfl

theorem clearForReclaim_seen (apart : state.engine.store.inbox ≠ inbox) (keyId : Nat)
    (isPersisted : Bool) :
    (state.seen tick inbox).clearForReclaim keyId isPersisted =
      (state.clearForReclaim keyId isPersisted).within (Hosted.seen tick inbox) := by
  have cleared : (state.purged.seen tick inbox).engine.store.clearForReclaim keyId = _ :=
    Store.clearForReclaim_retick tick state.purged.engine.store keyId
  unfold clearForReclaim
  rw [key_seen]
  split
  next =>
    refine ask_seen apart ?_
    simp only [cleared, key_seen]
    rfl
  next => rfl

theorem resolve_seen (renames : Renames tick state.host.clock) (keyId : Nat) :
    (state.seen tick inbox).resolve keyId =
      ((state.resolve keyId).1, (state.resolve keyId).2.1.seen tick inbox,
        (state.resolve keyId).2.2) := by
  have read : (state.seen tick inbox).engine.store.read keyId = _ :=
    Store.read_retick tick state.engine.store keyId
  have entry : (state.seen tick inbox).engine.store.entryOf? keyId =
      state.engine.store.entryOf? keyId := rfl
  unfold resolve
  rw [entry]
  cases state.engine.store.entryOf? keyId with
  | none => rfl
  | some entry =>
      have recent : entry.recentAlive (state.seen tick inbox).engine.store.memory =
          entry.recentAlive state.engine.store.memory :=
        Memory.recentAlive_retick tick state.engine.store.memory entry
      simp only [recent, read, key_seen, forget_seen]
      rcases state.engine.store.read keyId with ⟨_ | table, store⟩
      · rfl
      · have found : Renames tick (state.withStore store).host.clock := renames
        simp only [withStore_seen, promote_seen found]

theorem lookup_seen (renames : Renames tick state.host.clock)
    (apart : state.engine.store.inbox ≠ inbox) (keyId now : Nat) :
    (state.seen tick inbox).lookup keyId now =
      (state.lookup keyId now).within (Hosted.seen tick inbox) := by
  have clock : Renames tick state.purged.host.clock := renames
  rw [lookup_eq, lookup_eq]
  refine ask_seen apart ?_
  simp only [resolve_seen clock, countAccess_seen]

theorem peek_seen (apart : state.engine.store.inbox ≠ inbox) (keyId : Nat) :
    (state.seen tick inbox).peek keyId =
      (state.peek keyId).within (Hosted.seen tick inbox) := by
  have read : (state.purged.seen tick inbox).engine.store.read keyId = _ :=
    Store.read_retick tick state.purged.engine.store keyId
  refine ask_seen apart ?_
  simp only [read, withStore_seen]
  rfl

theorem contains_seen (apart : state.engine.store.inbox ≠ inbox) (keyId : Nat) :
    (state.seen tick inbox).contains keyId =
      (state.contains keyId).within (Hosted.seen tick inbox) := by
  have contained : (state.purged.seen tick inbox).engine.store.contains keyId = _ :=
    Store.contains_retick tick state.purged.engine.store keyId
  refine ask_seen apart ?_
  rw [contained]
  rfl

theorem tier_seen (apart : state.engine.store.inbox ≠ inbox) (keyId : Nat) :
    (state.seen tick inbox).tier keyId =
      (state.tier keyId).within (Hosted.seen tick inbox) := by
  have kept : (state.purged.seen tick inbox).engine.store.tier keyId = _ :=
    Store.tier_retick tick state.purged.engine.store keyId
  refine ask_seen apart ?_
  rw [kept]
  rfl

theorem invalidate_seen (apart : state.engine.store.inbox ≠ inbox) (keyId : Nat) :
    (state.seen tick inbox).invalidate keyId =
      (state.invalidate keyId).within (Hosted.seen tick inbox) := by
  refine ask_seen apart ?_
  simp only [forget_seen, key_seen]
  rfl

theorem statistics_seen (apart : state.engine.store.inbox ≠ inbox) :
    (state.seen tick inbox).statistics =
      state.statistics.within (Hosted.seen tick inbox) :=
  ask_seen apart rfl

theorem occupancy_seen (apart : state.engine.store.inbox ≠ inbox) :
    (state.seen tick inbox).occupancy =
      state.occupancy.within (Hosted.seen tick inbox) := by
  have tallied : (state.purged.seen tick inbox).engine.store.occupancy = _ :=
    Store.occupancy_retick tick state.purged.engine.store
  refine ask_seen apart ?_
  rw [tallied]
  rfl

theorem size_seen (apart : state.engine.store.inbox ≠ inbox) :
    (state.seen tick inbox).size = state.size.within (Hosted.seen tick inbox) :=
  ask_seen apart rfl

theorem map_within {σ : Type u} {τ : Type u} {α : Type v} {β : Type w} (put : σ → τ)
    (change : α → β) (reply : Reply σ α) :
    (reply.within put).map change = (reply.map change).within put := rfl

/-- A request is answered as before, whatever the ticks of the clock are called and without any
other inbox. -/
theorem perform_seen (renames : Renames tick state.host.clock)
    (apart : state.engine.store.inbox ≠ inbox) (request : Request Row) :
    (state.seen tick inbox).perform request =
      (state.perform request).within (Hosted.seen tick inbox) := by
  cases request with
  | put keyId rows => rw [perform, perform, put_seen renames apart, map_within]
  | get keyId now | lookup keyId now =>
      rw [perform, perform, lookup_seen renames apart, map_within]
  | peek keyId => rw [perform, perform, peek_seen apart, map_within]
  | clear keyId isPersisted => rw [perform, perform, clearForReclaim_seen apart, map_within]
  | contains keyId => rw [perform, perform, contains_seen apart, map_within]
  | tier keyId => rw [perform, perform, tier_seen apart, map_within]
  | invalidate keyId => rw [perform, perform, invalidate_seen apart, map_within]
  | purge => rw [perform, perform, purgeOrphans_seen apart, map_within]
  | statistics => rw [perform, perform, statistics_seen apart, map_within]
  | occupancy => rw [perform, perform, occupancy_seen apart, map_within]
  | size => rw [perform, perform, size_seen apart, map_within]

theorem close_seen (state : Hosted Row) :
    (state.seen tick inbox).close =
      (state.close.1.retick tick, state.close.2.seen tick inbox) := by
  have discarded : ∀ (entries : List Entry) (memory : Memory Row),
      entries.foldl (fun memory entry => entry.discard memory) (memory.retick tick) =
        (entries.foldl (fun memory entry => entry.discard memory) memory).retick tick := by
    intro entries
    induction entries with
    | nil => exact fun _ => rfl
    | cons first rest ih =>
        intro memory
        rw [List.foldl_cons, List.foldl_cons, Memory.discard_retick, ih]
  refine Prod.ext (discarded _ _) ?_
  exact congrArg (Host.mk · (tick state.host.clock))
    (Keys.closeInbox_without inbox state.host.keys state.engine.store.inbox)

end Hosted

end TableCache
