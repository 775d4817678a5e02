import TableCache.Proofs.Bookkeeping
import TableCache.Proofs.Store.Tables
import TableCache.Proofs.System.Locks

/-!
# Every table has one fate

A table that was put is in the store of its engine until one of two things happens to it: a pass
clears it, or its entry is removed while it still has the table, by a put in its place, by an
invalidation, or by a purge. `Hosted.discarded` names the tables that a request removes so. The
tables that were put are a bag, and one act only moves tables from the store to one of the two
others.

Main statements:

1. `tables_perform`, `Turn.tables`: one request, and one act;
2. `tables_after`: the bag of all tables put, at any moment of a run;
3. `nodup_fates`: no table is discarded and cleared, now or later, or either of it twice;
4. `every_table_has_one_fate`: what an engine answers about it.
-/

namespace TableCache

universe u

variable {Row : Type u}

/-! ## One request -/

namespace Hosted

/-- The new table that a request puts into the store. -/
def created (state : Hosted Row) : Request Row → List Nat
  | .put _ _ => [state.purged.fresh]
  | _ => []

/-- The tables that the purge ahead of a request takes with the entries that it removes. -/
def expunged (state : Hosted Row) : Request Row → List Nat
  | .clear _ false => []
  | _ => state.orphans.filterMap state.engine.store.table?

/-- The table of the entry that a put replaces or an invalidation removes. -/
def displaced (state : Hosted Row) : Request Row → List Nat
  | .put keyId _ | .invalidate keyId => (state.purged.engine.store.table? keyId).toList
  | _ => []

/-- The tables that entries still had when a request removed them. -/
def discarded (state : Hosted Row) (request : Request Row) : List Nat :=
  state.expunged request ++ state.displaced request

variable {state : Hosted Row} {held : Multiset Nat}

theorem tables_entered (sound : state.engine.Sound held) (request : Request Row) :
    (state.engine.store.tables : Multiset Nat) =
      (state.expunged request : Multiset Nat) +
        (state.entered request).engine.store.tables := by
  have purged := sound.store.tables_removeOrphans
    (state.host.keys.collect state.engine.store.inbox).2
    (state.host.keys.collect state.engine.store.inbox).1
  cases request with
  | clear keyId isPersisted =>
      cases isPersisted with
      | false => exact (zero_add _).symm
      | true => exact purged
  | _ => exact purged

/-- After the purge a request puts its new table into the store and takes the table of its key out,
or it leaves the tables alone. -/
theorem tables_of_entered (sound : state.engine.Sound held) (request : Request Row) :
    (state.created request : Multiset Nat) + (state.entered request).engine.store.tables =
      (state.displaced request : Multiset Nat) +
        (state.perform request).state.engine.store.tables := by
  have shown := shown?_perform sound request
  have kept : (∀ keyId shown, (request.effect keyId state.purged.fresh shown).map Shown.table =
        shown.map Shown.table) →
      ((state.perform request).state.engine.store.tables : Multiset Nat) =
        (state.entered request).engine.store.tables := by
    intro spared
    refine Store.tables_of_same fun keyId => ?_
    rw [Store.table?, shown, spared]
    rfl
  cases request with
  | put keyId rows =>
      have new : (state.perform (.put keyId rows)).state.engine.store.table? keyId =
          some state.purged.fresh := by
        rw [Store.table?, shown, Request.effect, if_pos rfl]
        rfl
      have exchanged := Store.tables_exchange fun other (different : other ≠ keyId) =>
        Store.table?_congr ((shown other).trans (if_neg different))
      rw [new] at exchanged
      exact exchanged
  | invalidate keyId =>
      have nothing :
          (state.perform (.invalidate keyId)).state.engine.store.table? keyId = none := by
        rw [Store.table?, shown, Request.effect, if_pos rfl]
        rfl
      have exchanged := Store.tables_exchange fun other (different : other ≠ keyId) =>
        Store.table?_congr ((shown other).trans (if_neg different))
      rw [nothing] at exchanged
      exact exchanged
  | clear keyId isPersisted =>
      refine congrArg _ (kept fun other shown => ?_).symm
      cases isPersisted with
      | false => rfl
      | true =>
          rw [Request.effect]
          split
          next => rw [Option.map_map]; rfl
          next => rfl
  | _ => exact congrArg _ (kept fun _ _ => rfl).symm

/-- A request moves the tables that it discards out of the store and its new one into it. -/
theorem tables_perform (sound : state.engine.Sound held) (request : Request Row) :
    (state.created request : Multiset Nat) + state.engine.store.tables =
      (state.discarded request : Multiset Nat) +
        (state.perform request).state.engine.store.tables := by
  have moved := tables_of_entered sound request
  rw [tables_entered sound request, add_left_comm, moved, ← add_assoc, discarded,
    ← Multiset.coe_add]

theorem length_created (state : Hosted Row) (request : Request Row) :
    (state.created request).length = (state.counts request).tablesCached := by
  cases request with
  | get keyId now | lookup keyId now =>
      unfold counts
      simp only
      split <;> rfl
  | _ => rfl

theorem le_of_mem_created {request : Request Row} {table : Nat}
    (new : table ∈ state.created request) : state.engine.store.memory.tables.next ≤ table := by
  cases request with
  | put keyId rows =>
      obtain rfl := List.mem_singleton.1 new
      exact (follows_purged state).memory.next_le
  | _ => cases new

theorem lt_next_of_mem_created (sound : state.engine.Sound held) {request : Request Row}
    {table : Nat} (new : table ∈ state.created request) :
    table < (state.perform request).state.engine.store.memory.tables.next := by
  cases request with
  | put keyId rows =>
      obtain rfl := List.mem_singleton.1 new
      have shown := shown?_perform sound (.put keyId rows) keyId
      rw [Request.effect, if_pos rfl] at shown
      exact (sound_perform sound (.put keyId rows)).store.lt_next_of_shown shown
  | _ => cases new

theorem nodup_created (state : Hosted Row) (request : Request Row) :
    (state.created request).Nodup := by
  cases request with
  | put keyId rows => exact List.nodup_singleton _
  | _ => exact List.nodup_nil

end Hosted

/-! ## One act -/

namespace Act

/-- The new table that an act puts into the store of an engine. -/
def created (act : Act Row) (number : Nat) (state : Hosted Row) : List Nat :=
  ((act.request? number state.host.keys).map state.created).getD []

/-- The tables that entries of an engine still had when an act removed them. -/
def discarded (act : Act Row) (number : Nat) (state : Hosted Row) : List Nat :=
  ((act.request? number state.host.keys).map state.discarded).getD []

theorem created_of_unasked {act : Act Row} {number : Nat} (state : Hosted Row)
    (unasked : act.request? number state.host.keys = none) :
    act.created number state = [] ∧ act.discarded number state = [] := by
  rw [created, discarded, unasked]
  exact ⟨rfl, rfl⟩

theorem cleared_of_unreached {act : Act Row} {number : Nat} {keys : Keys} {engine : Engine Row}
    (unreached : ¬act.reaches number keys (.running engine)) : act.cleared number engine = [] := by
  cases act with
  | reclaim other pressure =>
      have elsewhere : other ≠ number := unreached
      rw [cleared, if_neg elsewhere]
  | _ => rfl

theorem length_created (act : Act Row) (number : Nat) (state : Hosted Row) :
    (act.created number state).length = (act.counts number state).tablesCached := by
  cases act with
  | ask other request =>
      rw [created, request?, counts]
      split
      next => exact state.length_created request
      next => rfl
  | reclaim other pressure =>
      rw [counts]
      split
      next =>
        unfold Cache.counts
        split <;> rfl
      next => rfl
  | _ => rfl

theorem le_of_mem_created {act : Act Row} {number : Nat} {state : Hosted Row} {table : Nat}
    (new : table ∈ act.created number state) : state.engine.store.memory.tables.next ≤ table := by
  unfold created at new
  cases asked : act.request? number state.host.keys with
  | none =>
      rw [asked] at new
      cases new
  | some request =>
      rw [asked] at new
      exact Hosted.le_of_mem_created new

theorem nodup_created (act : Act Row) (number : Nat) (state : Hosted Row) :
    (act.created number state).Nodup := by
  unfold created
  cases act.request? number state.host.keys with
  | none => exact List.nodup_nil
  | some request => exact state.nodup_created request

end Act

namespace Turn

variable {number : Nat} {host next : Host} {engine after : Engine Row} {held others : Multiset Nat}
  {act : Act Row}

/-- An act moves the tables that it clears and those that it discards out of the store, and a new
one into it. An act that asks nothing creates and discards nothing. -/
theorem tables
    (turn : Turn number host (.running engine) held act next (.running after) others)
    (sound : engine.Sound held) :
    (act.created number ⟨engine, host⟩ : Multiset Nat) + engine.store.tables =
      (act.cleared number engine : Multiset Nat) +
        ((act.discarded number ⟨engine, host⟩ : Multiset Nat) + after.store.tables) := by
  have quiet : act.request? number host.keys = none →
      (engine.store.tables : Multiset Nat) =
        (act.cleared number engine : Multiset Nat) + after.store.tables →
      (act.created number ⟨engine, host⟩ : Multiset Nat) + engine.store.tables =
        (act.cleared number engine : Multiset Nat) +
          ((act.discarded number ⟨engine, host⟩ : Multiset Nat) + after.store.tables) := by
    intro unasked moved
    obtain ⟨created, discarded⟩ := Act.created_of_unasked ⟨engine, host⟩ unasked
    rw [created, discarded, moved]
    exact (zero_add _).trans (congrArg _ (zero_add _).symm)
  cases turn with
  | @asked state held request admitted =>
      have asked : (Act.ask number request).request? number state.host.keys = some request :=
        Act.request?_ask admitted
      rw [Act.created, Act.discarded, asked]
      exact (Hosted.tables_perform sound request).trans (zero_add _).symm
  | @reclaimed host cache held pressure =>
      refine quiet rfl ?_
      rw [Act.cleared, if_pos rfl]
      exact sound.store.tables_reclaimed pressure
  | pruned counting => rcases counting with rfl | rfl <;> exact quiet rfl (zero_add _).symm
  | shared => exact quiet rfl (zero_add _).symm
  | dropped => exact quiet rfl (zero_add _).symm
  | spared unreached =>
      refine quiet (Act.request?_of_unreached unreached) ?_
      rw [Act.cleared_of_unreached unreached]
      exact (zero_add _).symm

theorem lt_next_of_mem_created
    (turn : Turn number host (.running engine) held act next (.running after) others)
    (sound : engine.Sound held) {table : Nat} (new : table ∈ act.created number ⟨engine, host⟩) :
    table < after.store.memory.tables.next := by
  unfold Act.created at new
  rcases turn.request_cases with ⟨request, asked, performed⟩ | unasked
  · have performed : ((⟨engine, host⟩ : Hosted Row).perform request).state.engine = after := by
      rw [performed]
    rw [asked] at new
    rw [← performed]
    exact Hosted.lt_next_of_mem_created sound new
  · rw [unasked] at new
    cases new

/-- An engine that is closed after an act was closed by it or before. -/
theorem eq_close {cache : Cache Row} {memory : Memory Row}
    (turn : Turn number host cache held act next (.closed memory) others) :
    act = .close number ∨ ∃ earlier, cache = .closed earlier := by
  cases cache with
  | closed earlier => exact .inr ⟨earlier, rfl⟩
  | running engine =>
      cases turn
      exact .inl rfl

end Turn

/-! ## Runs -/

/-- Nothing is left to be cleared of an engine that was closed. -/
theorem Cache.cleared_closed {memory : Memory Row} {held : Multiset Nat}
    (sound : (Cache.closed memory).Sound held) (pressure : Pressure) :
    (Cache.closed memory).cleared pressure = [] := by
  refine List.eq_nil_iff_forall_not_mem.2 fun table gone => ?_
  have stored := Memory.mem_stored.1 (List.mem_filter.1 gone).1
  obtain ⟨number, cell, found, -⟩ := Memory.mem_slots.1 stored
  have present : memory.isPresent number = true := by
    rw [Memory.isPresent, Numbered.contains]
    exact Option.isSome_iff_exists.2 ⟨cell, found⟩
  obtain ⟨keyId, entry, member, -⟩ := Memory.Backs.entry_of_cell sound present
  exact Multiset.notMem_zero _ member

namespace System

/-- The tables that some acts put into the store of an engine, the first one first. -/
def createdBy (number : Nat) (acts : List (Act Row)) : List Nat :=
  history (fun act => act.created number) number acts

/-- The tables that entries of an engine still had when one of some acts removed them. -/
def discardedBy (number : Nat) (acts : List (Act Row)) : List Nat :=
  history (fun act => act.discarded number) number acts

variable {number : Nat} {acts : List (Act Row)} {engine : Engine Row}

/-- The tables that were put are in the store, or were cleared, or were discarded: what an act takes
from the store it adds to the tables cleared and discarded before. -/
theorem tables_after (running : (after acts).caches[number]? = some (.running engine)) :
    (createdBy number acts : Multiset Nat) =
      ((empty : System Row).clearedBy number acts : Multiset Nat) +
        ((discardedBy number acts : Multiset Nat) + engine.store.tables) := by
  refine running_induction (motive := fun acts engine => (createdBy number acts : Multiset Nat) =
    ((empty : System Row).clearedBy number acts : Multiset Nat) +
      ((discardedBy number acts : Multiset Nat) + engine.store.tables)) ?_ ?_ running
  · intro acts config absent
    rw [createdBy, discardedBy, history_build absent, history_build absent, clearedBy_build absent]
    rfl
  · intro acts act earlier later before sound turn ih
    have moved := turn.tables sound
    rw [createdBy, discardedBy, history_concat before, history_concat before,
      clearedBy_concat before, ← Multiset.coe_add, ← Multiset.coe_add, ← Multiset.coe_add]
    rw [createdBy, discardedBy] at ih
    rw [ih]
    rw [add_assoc, add_assoc, add_comm (earlier.store.tables : Multiset Nat), moved]
    ac_rfl

/-- Every table that was put has a number of its own. -/
theorem nodup_createdBy (running : (after acts).caches[number]? = some (.running engine)) :
    (createdBy number acts).Nodup ∧
      ∀ table ∈ createdBy number acts, table < engine.store.memory.tables.next := by
  refine running_induction (motive := fun acts engine => (createdBy number acts).Nodup ∧
    ∀ table ∈ createdBy number acts, table < engine.store.memory.tables.next) ?_ ?_ running
  · intro acts config absent
    rw [createdBy, history_build absent]
    exact ⟨List.nodup_nil, fun _ member => absurd member List.not_mem_nil⟩
  · rintro acts act earlier later before sound turn ⟨distinct, known⟩
    rw [createdBy, history_concat before]
    constructor
    · refine distinct.append (act.nodup_created number _) fun table old new => ?_
      exact absurd (known table old) (Nat.not_lt.2 (Act.le_of_mem_created new))
    · intro table member
      rcases List.mem_append.1 member with old | new
      · exact (known table old).trans_le (turn.memory_later sound).next_le
      · exact turn.lt_next_of_mem_created sound new

/-- The tables that were put are as many as the puts. -/
theorem length_createdBy (running : (after acts).caches[number]? = some (.running engine)) :
    (createdBy number acts).length = (tally number acts).tablesCached := by
  refine running_induction (motive := fun acts _ =>
    (createdBy number acts).length = (tally number acts).tablesCached) ?_ ?_ running
  · intro acts config absent
    rw [createdBy, history_build absent, tally_build absent]
    rfl
  · intro acts act earlier later before sound turn ih
    rw [createdBy, history_concat before, List.length_append, tally_concat,
      counts_of_running before, Act.length_created]
    exact congrArg (· + _) ih

/-- An act after which an engine is closed clears and discards nothing of it. -/
theorem fates_of_closed {system : System Row} (sound : system.Sound) {act : Act Row}
    {memory : Memory Row}
    (closed : (system.step act).state.caches[number]? = some (.closed memory)) :
    system.cleared number act = [] ∧
      whileServing (fun act => act.discarded number) number system act = [] := by
  rcases before : system.caches[number]? with _ | cache
  · obtain ⟨-, absent | ⟨config, -, -, -, built⟩⟩ := birth_of_step sound before act
    · rw [absent] at closed
      cases closed
    · rw [closed] at built
      cases built
  · obtain ⟨found, here, turn⟩ := turn_of_step before act
    rw [closed] at here
    cases here
    rcases turn.eq_close with rfl | ⟨earlier, rfl⟩
    · refine ⟨rfl, ?_⟩
      rw [whileServing]
      cases system.serving? number <;> rfl
    · have absent : system.serving? number = none := by rw [serving?, before]
      refine ⟨?_, whileServing_of_absent absent act⟩
      cases act with
      | reclaim other pressure =>
          rw [cleared, before]
          simp only [Cache.cleared_closed (sound.caches number _ before), ite_self]
      | _ => rfl

/-- No table is cleared twice, or discarded twice, or cleared and discarded. -/
theorem nodup_fates (number : Nat) (acts : List (Act Row)) :
    ((empty : System Row).clearedBy number acts ++ discardedBy number acts).Nodup := by
  induction acts using List.reverseRecOn with
  | nil => exact List.nodup_nil
  | append_singleton acts act ih =>
      rcases there : (after (acts ++ [act])).caches[number]? with _ | engine | memory
      · rw [clearedBy_of_absent there, discardedBy, history_of_absent there]
        exact List.nodup_nil
      · have created := (nodup_createdBy there).1
        rw [← Multiset.coe_nodup, tables_after there, ← add_assoc, Multiset.coe_add] at created
        exact Multiset.coe_nodup.1 (Multiset.nodup_of_le (Multiset.le_add_right _ _) created)
      · rw [after_concat] at there
        obtain ⟨cleared, discarded⟩ := fates_of_closed (sound_after acts) there
        have last : (finalState System.step empty acts).clearedBy number [act] = [] := by
          rw [clearedBy, clearedBy, List.append_nil]
          exact cleared
        rw [clearedBy_append, last, List.append_nil, discardedBy, history_append_singleton,
          discarded, List.append_nil]
        exact ih

/-! ## What an engine answers -/

variable {act : Act Row}

/-- An engine without anything to purge counts the tables in its store. -/
theorem occupancy_answer {system : System Row} {state : Hosted Row}
    (serving : system.serving? number = some state)
    (empty : state.host.keys.posted state.engine.store.inbox = []) :
    ∃ occupancy, (system.step (.ask number .occupancy)).result = .ok (.occupancy occupancy) ∧
      occupancy.entries = state.engine.store.tables.length := by
  have unchanged := (Hosted.orphans_eq_nil empty).2
  refine ⟨state.purged.engine.store.occupancy, result_ask serving rfl, ?_⟩
  rw [unchanged, Store.entries_occupancy]

/-- After an act that takes the lock of an engine, the engine has counted every table that was put
once: it is in an entry, or a pass cleared it, or it was discarded. What was cleared or discarded
once is neither cleared nor discarded again, however the run goes on. -/
theorem every_table_has_one_fate (locks : (after acts).locks number act = true)
    (fits : (tally number (acts ++ [act])).Fits) :
    ∃ state statistics occupancy,
      (after (acts ++ [act])).serving? number = some state ∧
        ((after (acts ++ [act])).step (.ask number .statistics)).result =
          .ok (.statistics statistics) ∧
        ((after (acts ++ [act, .ask number .statistics])).step (.ask number .occupancy)).result =
          .ok (.occupancy occupancy) ∧
        statistics.tablesCached =
          occupancy.entries + statistics.tablesReclaimed +
            (discardedBy number (acts ++ [act])).length ∧
        statistics.tablesReclaimed =
          ((empty : System Row).clearedBy number (acts ++ [act])).length ∧
        (createdBy number (acts ++ [act])).Nodup ∧
        (createdBy number (acts ++ [act]) : Multiset Nat) =
          ((empty : System Row).clearedBy number (acts ++ [act]) : Multiset Nat) +
            ((discardedBy number (acts ++ [act]) : Multiset Nat) + state.engine.store.tables) ∧
        ∀ more, ((empty : System Row).clearedBy number (acts ++ [act] ++ more) ++
          discardedBy number (acts ++ [act] ++ more)).Nodup := by
  obtain ⟨state, serving, empty⟩ := serving_of_locks (sound_after acts) locks
  rw [← after_concat] at serving
  have running := (serving?_eq_some_iff.1 serving).1
  have told := (statistics_tell_the_run serving fits).1
  have sound := (sound_after (acts ++ [act])).caches number _ running
  have stocked : (state.perform .statistics).state.engine.store = state.engine.store :=
    (Hosted.orphans_eq_nil empty).2
  have admitted : (Request.statistics : Request Row).isAdmitted state.host.keys = true := rfl
  obtain ⟨still, host⟩ := running_ask serving admitted
  have serving' := serving?_eq_some_iff.2 ⟨still, host.symm⟩
  obtain ⟨occupancy, counted, entries⟩ :=
    occupancy_answer serving' (Hosted.posted_perform sound rfl)
  rw [← after_concat, List.append_assoc] at counted
  refine ⟨state, _, occupancy, serving, told, counted, ?_, tablesReclaimed_tally running,
    (nodup_createdBy running).1, tables_after running, fun more => nodup_fates number _⟩
  have created := length_createdBy running
  have bag := congrArg Multiset.card (tables_after running)
  rw [Multiset.card_add, Multiset.card_add, Multiset.coe_card, Multiset.coe_card,
    Multiset.coe_card, Multiset.coe_card] at bag
  rw [entries, stocked, ← created, tablesReclaimed_tally running, bag]
  omega

/-- Four tables: one is replaced, one is cleared by a pass, one is invalidated, and the key of the
last one loses its owner. -/
def turnover : List (Act Nat) :=
  [.createKey "a", .createKey "b", .createKey "c", .build ⟨4, 300⟩, .ask 0 (.put 1 [7]),
    .ask 0 (.put 1 [8]), .ask 0 (.put 2 [9]), .ask 0 (.put 3 [10]), .ask 0 (.invalidate 2),
    .dropKey 3, .ask 0 (.clear 1 true), .dropHold ⟨0, 1⟩, .reclaim 0 .full]

theorem every_table_has_one_fate_turnover :
    (after turnover).locks 0 (.ask 0 (.get 1 5)) = true ∧
      (tally 0 (turnover ++ [.ask 0 (.get 1 5)])).Fits ∧
      discardedBy 0 (turnover ++ [.ask 0 (.get 1 5)]) = [0, 2, 3] ∧
      ∃ statistics occupancy,
        ((after (turnover ++ [.ask 0 (.get 1 5)])).step (.ask 0 .statistics)).result =
            .ok (.statistics statistics) ∧
          ((after (turnover ++ [.ask 0 (.get 1 5), .ask 0 .statistics])).step
            (.ask 0 .occupancy)).result = .ok (.occupancy occupancy) ∧
          statistics.tablesCached = occupancy.entries + statistics.tablesReclaimed + 3 := by
  have fits : (tally 0 (turnover ++ [.ask 0 (.get 1 5)])).Fits := by decide
  obtain ⟨-, statistics, occupancy, -, told, counted, balance, -⟩ :=
    every_table_has_one_fate rfl fits
  exact ⟨rfl, fits, rfl, statistics, occupancy, told, counted, balance⟩

end System

end TableCache
