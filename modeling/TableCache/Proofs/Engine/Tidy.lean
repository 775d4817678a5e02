import TableCache.Proofs.Engine.Inbox
import TableCache.Proofs.Faults
import TableCache.Proofs.Store.Tables

/-!
# Engines with nothing to purge

As long as no key that an engine watches loses its last owner, nothing is ever purged, and what a
key shows changes by what the engine is asked about that key and by passes alone. `Hosted.Tidy` is
such an engine whose tables are all of one size. What is asked of it then changes the number of its
tables as its totals say.

Main statements:

1. `Tidy.perform`, `Tidy.release`, `Tidy.reclaim`, `tidy_build`: what keeps an engine tidy;
2. `Tidy.shown?_perform`: a key shows what a request leaves there;
3. `Tidy.length_tables_put` and the like: how many tables there are then.
-/

namespace TableCache

universe u

variable {Row : Type u}

theorem Request.effect_cases {request : Request Row} {keyId fresh : Nat} {before : Option Shown}
    {shown : Shown} (there : request.effect keyId fresh before = some shown) :
    (∃ rows, request = .put keyId rows ∧ shown = ⟨fresh, true⟩) ∨
      ∃ earlier, before = some earlier ∧ earlier.table = shown.table := by
  unfold effect at there
  split at there
  next other rows =>
    split at there
    next same => exact .inl ⟨rows, same ▸ rfl, (Option.some.inj there).symm⟩
    next => exact .inr ⟨shown, there, rfl⟩
  next other =>
    split at there
    next =>
      obtain ⟨earlier, was, rfl⟩ := Option.map_eq_some_iff.1 there
      exact .inr ⟨earlier, was, rfl⟩
    next => exact .inr ⟨shown, there, rfl⟩
  next other =>
    split at there
    next => cases there
    next => exact .inr ⟨shown, there, rfl⟩
  next => exact .inr ⟨shown, there, rfl⟩

/-- What the clearances of a pass count for when every table has `size` rows. -/
def Report.counts (report : Report) (size : Nat) : Statistics :=
  { Statistics.zero with
    tablesReclaimed := report.weakCleared + report.recentCleared
    recentReclaimed := report.recentCleared
    rowsReclaimed := (report.weakCleared + report.recentCleared) * size }

namespace Hosted

/-- An engine whose inbox is empty, that shows tables of one size under keys that were given out,
and whose counters are words. -/
structure Tidy (state : Hosted Row) (config : Config) (size : Nat) (held : Multiset Nat) :
    Prop where
  sound : state.engine.Sound held
  config : state.engine.config = config
  words : state.engine.recorder.counters.Fits
  idle : state.host.keys.posted state.engine.store.inbox = []
  known : ∀ keyId shown, state.engine.store.shown? keyId = some shown →
    keyId < state.host.keys.owned.next
  uniform : ∀ keyId shown, state.engine.store.shown? keyId = some shown →
    (state.engine.store.memory.rows shown.table).length = size

variable {state : Hosted Row} {config : Config} {size : Nat} {held : Multiset Nat}

theorem tidy_build (valid : config.validate = .ok ()) (host : Host) (size : Nat) :
    (build config host : Hosted Row).Tidy config size 0 where
  sound := sound_build valid host
  config := rfl
  words := Statistics.fits_zero
  idle := by
    show ((host.keys.inboxes.add []).find? host.keys.inboxes.next).getD [] = []
    rw [Numbered.find?_add, if_pos rfl]
    rfl
  known := fun keyId shown there => by
    simp [build, Store.create, Store.shown?, Store.entryOf?] at there
  uniform := fun keyId shown there => by
    simp [build, Store.create, Store.shown?, Store.entryOf?] at there

theorem clear_result (state : Hosted Row) (keyId : Nat) :
    (state.clearForReclaim keyId true).result = .ok () := rfl

theorem invalidate_result (state : Hosted Row) (keyId : Nat) :
    (state.invalidate keyId).result = .ok () := rfl

theorem recorder_clear (state : Hosted Row) (keyId : Nat) :
    (state.perform (.clear keyId true)).state.engine.recorder = state.engine.recorder := rfl

theorem recorder_invalidate (state : Hosted Row) (keyId : Nat) :
    (state.perform (.invalidate keyId)).state.engine.recorder = state.engine.recorder := rfl

namespace Tidy

theorem store_purged (tidy : state.Tidy config size held) :
    state.purged.engine.store = state.engine.store :=
  (orphans_eq_nil tidy.idle).2

theorem shown?_perform (tidy : state.Tidy config size held) {request : Request Row}
    (locks : request.locks = true) (keyId : Nat) :
    (state.perform request).state.engine.store.shown? keyId =
      request.effect keyId state.fresh (state.engine.store.shown? keyId) := by
  rw [Hosted.shown?_perform tidy.sound, entered_of_locks state locks, fresh, tidy.store_purged]
  rfl

/-- A request that takes the lock keeps an engine tidy; a put must be of a table of the right size
under a key that was given out, and must not stop. -/
theorem perform (tidy : state.Tidy config size held) {request : Request Row}
    (locks : request.locks = true)
    (fitting : ∀ keyId rows, request = .put keyId rows →
      keyId < state.host.keys.owned.next ∧ rows.length = size ∧
        (state.put keyId rows).result = .ok state.purged.fresh) :
    (state.perform request).state.Tidy config size
      (given (state.perform request).result + held) := by
  have follows := follows_perform tidy.sound request
  have sound := sound_perform tidy.sound request
  refine ⟨sound, follows.config.trans tidy.config,
    (grows_perform tidy.sound request).fits tidy.words, posted_perform tidy.sound locks,
    fun keyId shown there => ?_, fun keyId shown there => ?_⟩
  · rw [follows.next]
    have effect := there
    rw [tidy.shown?_perform locks] at effect
    rcases Request.effect_cases effect with ⟨rows, rfl, -⟩ | ⟨earlier, was, -⟩
    · exact (fitting keyId rows rfl).1
    · exact tidy.known keyId earlier was
  · have effect := there
    rw [tidy.shown?_perform locks] at effect
    rcases Request.effect_cases effect with ⟨rows, rfl, rfl⟩ | ⟨earlier, was, same⟩
    · obtain ⟨-, length, returned⟩ := fitting keyId rows rfl
      have lodged := (rows_put tidy.sound keyId rows returned).2
      rw [fresh, tidy.store_purged] at lodged
      exact (congrArg List.length lodged).trans length
    · rw [← same]
      have old := tidy.sound.store.lt_next_of_shown was
      have still := sound.store.holders_pos there
      rw [← same] at still
      rw [follows.memory.rows_eq old still]
      exact tidy.uniform keyId earlier was

theorem clear (tidy : state.Tidy config size held) (keyId : Nat) :
    (state.perform (.clear keyId true)).state.Tidy config size held := by
  have locks : (Request.clear keyId true : Request Row).locks = true := rfl
  simpa only [given_perform, Multiset.coe_nil, zero_add] using
    tidy.perform locks fun _ _ put => by cases put

theorem invalidate (tidy : state.Tidy config size held) (keyId : Nat) :
    (state.perform (.invalidate keyId)).state.Tidy config size held := by
  have locks : (Request.invalidate keyId : Request Row).locks = true := rfl
  simpa only [given_perform, Multiset.coe_nil, zero_add] using
    tidy.perform locks fun _ _ put => by cases put

/-- A reader that gives a table back leaves an engine tidy. -/
theorem release {table : Nat} (tidy : state.Tidy config size (table ::ₘ held)) :
    (state.release table).Tidy config size held := by
  have sound := sound_release tidy.sound
  have follows := follows_release state table
  refine ⟨sound, tidy.config, tidy.words, tidy.idle, fun keyId shown there => ?_,
    fun keyId shown there => ?_⟩
  · exact tidy.known keyId shown ((shown?_release state table keyId).symm.trans there)
  · have was := (shown?_release state table keyId).symm.trans there
    rw [follows.memory.rows_eq (tidy.sound.store.lt_next_of_shown was)
      (sound.store.holders_pos there)]
    exact tidy.uniform keyId shown was

/-- Keys may come, and owners may come and go, as long as nothing is posted to the engine. -/
theorem withKeys (tidy : state.Tidy config size held) {keys : Keys}
    (quiet : keys.posted state.engine.store.inbox = state.host.keys.posted state.engine.store.inbox)
    (next : state.host.keys.owned.next ≤ keys.owned.next) :
    ({ state with host := { state.host with keys := keys } } : Hosted Row).Tidy config size held :=
  ⟨tidy.sound, tidy.config, tidy.words, quiet.trans tidy.idle,
    fun keyId shown there => (tidy.known keyId shown there).trans_le next, tidy.uniform⟩

/-- A pass keeps an engine tidy. -/
theorem reclaim (tidy : state.Tidy config size held) (pressure : Pressure) :
    ({ state with engine := (state.engine.reclaim pressure).state } : Hosted Row).Tidy config size
      held := by
  have sound := sound_reclaim tidy.sound pressure
  have earlier : ∀ keyId shown,
      (state.engine.reclaim pressure).state.store.shown? keyId = some shown →
        state.engine.store.shown? keyId = some shown := fun keyId shown there => by
    rw [shown?_reclaim tidy.sound, Option.filter_eq_some_iff] at there
    exact there.1
  refine ⟨sound, tidy.config, tidy.words, tidy.idle,
    fun keyId shown there => tidy.known keyId shown (earlier keyId shown there),
    fun keyId shown there => ?_⟩
  have was := earlier keyId shown there
  have later : state.engine.store.memory.Later (state.engine.reclaim pressure).state.store.memory :=
    Memory.later_reclaim _ pressure
  show ((state.engine.reclaim pressure).state.store.memory.rows shown.table).length = size
  rw [later.rows_eq (tidy.sound.store.lt_next_of_shown was) (sound.store.holders_pos there)]
  exact tidy.uniform keyId shown was

/-! ## How many tables there are -/

/-- A put under a key that shows nothing makes one table more. -/
theorem length_tables_put (tidy : state.Tidy config size held) {keyId : Nat}
    (new : state.engine.store.shown? keyId = none) (rows : List Row) :
    (state.put keyId rows).state.engine.store.tables.length =
      state.engine.store.tables.length + 1 := by
  have shown := fun other => shown?_put tidy.sound keyId other rows
  simp only [fresh, tidy.store_purged] at shown
  have same : ∀ other, other ≠ keyId →
      (state.put keyId rows).state.engine.store.table? other = state.engine.store.table? other :=
    fun other different => Store.table?_congr ((shown other).trans (if_neg different))
  have exchanged := congrArg Multiset.card (Store.tables_exchange same)
  have before : state.engine.store.table? keyId = none := by rw [Store.table?, new]; rfl
  have after : (state.put keyId rows).state.engine.store.table? keyId = some state.fresh := by
    rw [Store.table?, shown, if_pos rfl]
    rfl
  simp only [Multiset.card_add, Multiset.coe_card, before, after, Option.toList_some,
    Option.toList_none, List.length_cons, List.length_nil] at exchanged
  omega

/-- An invalidation of a key that shows a table makes one table less. -/
theorem length_tables_invalidate (tidy : state.Tidy config size held) {keyId : Nat} {shown : Shown}
    (there : state.engine.store.shown? keyId = some shown) :
    state.engine.store.tables.length =
      (state.perform (.invalidate keyId)).state.engine.store.tables.length + 1 := by
  have removed := congrArg Multiset.card
    (Store.Sound.tables_invalidate (sound_purged tidy.sound).store keyId)
  have shows : state.purged.engine.store.table? keyId = some shown.table := by
    rw [Store.table?, tidy.store_purged, there]
    rfl
  rw [shows, tidy.store_purged] at removed
  have same : (state.perform (.invalidate keyId)).state.engine.store =
      (state.engine.store.invalidate keyId).2 := by
    rw [← tidy.store_purged]
    rfl
  simp only [Multiset.card_add, Multiset.coe_card, Option.toList_some, List.length_cons,
    List.length_nil] at removed
  rw [same]
  omega

/-- What else is asked leaves the tables as they are. -/
theorem length_tables_of_same {after : Hosted Row}
    (same : ∀ keyId, after.engine.store.table? keyId = state.engine.store.table? keyId) :
    after.engine.store.tables.length = state.engine.store.tables.length :=
  congrArg Multiset.card (Store.tables_of_same same)

/-- Counting leaves what an occupancy tells as it is. -/
theorem occupancy_statistics (tidy : state.Tidy config size held) :
    state.statistics.state.occupancy.result = .ok state.engine.store.occupancy := by
  have locks : (Request.statistics : Request Row).locks = true := rfl
  have later := tidy.perform locks fun _ _ put => by cases put
  have purged : state.statistics.state.purged.engine.store = state.engine.store :=
    later.store_purged.trans tidy.store_purged
  show Except.ok state.statistics.state.purged.engine.store.occupancy = _
  rw [purged]

/-- What a pass reports: the tables that are gone, and what is added to the totals. -/
theorem totals_reclaim (tidy : state.Tidy config size held) (pressure : Pressure) :
    ∃ report : Report, (state.engine.reclaim pressure).result = .ok report ∧
      state.engine.store.tables.length =
        report.weakCleared + report.recentCleared +
          (state.engine.reclaim pressure).state.store.tables.length ∧
      (state.engine.reclaim pressure).state.recorder.totals =
        state.engine.recorder.totals.plus (report.counts size) := by
  refine ⟨(state.engine.store.memory.reclaim pressure).report, rfl, ?_, ?_⟩ <;>
    have reported := Memory.report_reclaim state.engine.store.memory pressure <;>
    have rows := Memory.Backs.rows_clearances tidy.sound.store pressure
  · have tables := congrArg Multiset.card (tidy.sound.store.tables_reclaimed pressure)
    have cleared := rows.length_eq
    simp only [Multiset.card_add, Multiset.coe_card, List.length_map] at tables cleared
    rw [reported.1, cleared]
    exact tables
  · have sizes : ∀ length ∈ (state.engine.store.memory.reclaim pressure).clearances.map
        Clearance.rows, length = size := fun length member => by
      obtain ⟨table, gone, rfl⟩ := List.mem_map.1 (rows.mem_iff.1 member)
      have cleared : table ∈ state.engine.store.cleared pressure := gone
      obtain ⟨keyId, shown, there, rfl⟩ := tidy.sound.store.shown_of_cleared cleared
      exact tidy.uniform keyId shown there
    have sum : ((state.engine.store.memory.reclaim pressure).clearances.map Clearance.rows).sum =
        (state.engine.store.memory.reclaim pressure).clearances.length * size := by
      rw [List.eq_replicate_of_mem sizes, List.sum_replicate_nat, List.length_map]
    rw [show (state.engine.reclaim pressure).state.recorder.totals = _ from
      Recorder.totals_post _ _, Statistics.ofClearances, sum, ← reported.1, ← reported.2]
    rfl

end Tidy

end Hosted

end TableCache
