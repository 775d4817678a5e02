import Mathlib.Algebra.BigOperators.Intervals
import TableCache.Proofs.Soak.Tasks

/-!
# The books of a soak

What the tasks of a soak count for themselves agrees with what the cache counts: tables made, tables
looked up, tables reclaimed. And every table that was made is still in the cache, was reclaimed, or
was invalidated by its producer. `State.ledger` is all that is counted at a moment of a soak, and
`Ledger.Even` says that it agrees.

Main statements:

1. `Even.put`, `Even.flush`, `Even.lookup`, `Even.pass`: entries that keep a ledger even;
2. `Tasks.ledger_putTable`, `ledger_flushTable`, `ledger_lookupKey`, `ledger_passOnce`: each action
   makes one of these entries.
-/

open Finset (range)

namespace TableCache.Soak

/-! ## Ledgers -/

/-- What is counted at a moment of a soak: the totals of the cache and the tables in it, the tables
that all producers made and invalidated, and what the tasks count. -/
@[ext]
structure Ledger where
  totals : Statistics
  stock : Nat
  made : Nat
  discarded : Nat
  produced : Nat
  lookups : Nat
  reclaimed : Report

/-- The counts of the cache and of the tasks agree, and no table is lost. Every table has `size`
rows. -/
structure Ledger.Even (ledger : Ledger) (size : Nat) : Prop where
  classified : ledger.totals.Balanced
  made : ledger.produced = ledger.made
  cached : ledger.totals.tablesCached = ledger.produced
  looked : ledger.totals.accesses = ledger.lookups
  reclaimed : ledger.totals.tablesReclaimed =
    ledger.reclaimed.weakCleared + ledger.reclaimed.recentCleared
  recent : ledger.totals.recentReclaimed = ledger.reclaimed.recentCleared
  rows : ledger.totals.rowsReclaimed = ledger.totals.tablesReclaimed * size
  kept : ledger.stock + ledger.totals.tablesReclaimed + ledger.discarded = ledger.produced

namespace Ledger

variable {ledger : Ledger} {size : Nat}

/-- One table more is made and cached. -/
def put (ledger : Ledger) : Ledger :=
  { ledger with
    totals := ledger.totals.plus .onePut
    stock := ledger.stock + 1
    made := ledger.made + 1
    produced := ledger.produced + 1 }

/-- Some tables are taken out and count as invalidated; `rest` are left. -/
def flush (ledger : Ledger) (rest count : Nat) : Ledger :=
  { ledger with stock := rest, discarded := ledger.discarded + count }

/-- One table more is looked up. -/
def lookup (ledger : Ledger) (access : Access) : Ledger :=
  { ledger with
    totals := ledger.totals.plus (.oneAccess access)
    lookups := ledger.lookups + 1 }

/-- A pass clears tables; `rest` are left. -/
def pass (ledger : Ledger) (report merged : Report) (size rest : Nat) : Ledger :=
  { ledger with
    totals := ledger.totals.plus (report.counts size)
    stock := rest
    reclaimed := merged }

theorem Even.put (even : ledger.Even size) : ledger.put.Even size := by
  obtain ⟨classified, made, cached, looked, reclaimed, recent, rows, kept⟩ := even
  constructor <;>
    simp only [Ledger.put, Statistics.plus, Statistics.onePut, Statistics.zero,
      Statistics.Balanced] at * <;> omega

theorem Even.flush (even : ledger.Even size) {rest count : Nat}
    (taken : ledger.stock = rest + count) : (ledger.flush rest count).Even size := by
  obtain ⟨classified, made, cached, looked, reclaimed, recent, rows, kept⟩ := even
  constructor <;> simp only [Ledger.flush] at * <;> first | assumption | omega

theorem Even.lookup (even : ledger.Even size) (access : Access) :
    (ledger.lookup access).Even size := by
  obtain ⟨classified, made, cached, looked, reclaimed, recent, rows, kept⟩ := even
  refine ⟨classified.plus (Statistics.balanced_oneAccess access), ?_, ?_, ?_, ?_, ?_, ?_, ?_⟩ <;>
    simp only [Ledger.lookup, Statistics.plus, Statistics.oneAccess, Statistics.zero] at * <;> omega

theorem Even.pass (even : ledger.Even size) {report merged : Report} {rest : Nat}
    (total : ledger.reclaimed.merge? report = some merged)
    (taken : ledger.stock = report.weakCleared + report.recentCleared + rest) :
    (ledger.pass report merged size rest).Even size := by
  obtain ⟨classified, made, cached, looked, reclaimed, recent, rows, kept⟩ := even
  simp only [Report.merge?, Option.bind_eq_bind, Option.bind_eq_some_iff, Word.add?_eq_some_iff]
    at total
  obtain ⟨_, ⟨rfl, -⟩, _, ⟨rfl, -⟩, same⟩ := total
  obtain rfl := Option.some.inj same
  have more := Nat.add_mul ledger.totals.tablesReclaimed
    (report.weakCleared + report.recentCleared) size
  constructor <;>
    simp only [Ledger.pass, Statistics.plus, Report.counts, Statistics.zero,
      Statistics.Balanced] at * <;> omega

/-- All that is counted of an even ledger is at most the tables and look-ups so far, and as many
rows. So if one thing more does not fit, there are very many of these. -/
theorem Even.limit_le (even : ledger.Even size) {more : Statistics}
    (small : more.Le ⟨1, 0, 0, 0, 1, 1, 1, 1, 1⟩) (full : ¬(ledger.totals.plus more).Fits) :
    Word.limit ≤ (ledger.produced + ledger.lookups + 1) * (size + 1) := by
  obtain ⟨classified, made, cached, looked, reclaimed, recent, rows, kept⟩ := even
  by_contra room
  refine full (Statistics.fits_iff.2 ?_)
  have less : ledger.totals.tablesReclaimed * size ≤ ledger.produced * size :=
    Nat.mul_le_mul_right size (by omega)
  have parts : (ledger.produced + ledger.lookups + 1) * (size + 1) =
      ledger.produced * size + ledger.lookups * size + size +
        (ledger.produced + ledger.lookups + 1) := by
    rw [Nat.mul_succ, Nat.add_mul, Nat.add_mul, Nat.one_mul]
  rw [Statistics.le_iff] at small
  simp only [Statistics.plus, Statistics.Balanced] at *
  omega

end Ledger

/-! ## Tables of one producer -/

theorem Settings.invalidates_iff {settings : Settings} {table : Nat} :
    settings.invalidates table = true ↔ settings.invalidateEvery ∣ table + 1 := by
  simp only [invalidates, Bool.and_eq_true, decide_eq_true_eq]
  rcases Nat.eq_zero_or_pos settings.invalidateEvery with never | positive
  · simp [never]
  · have left := Nat.mod_lt table positive
    have parts := Nat.div_add_mod table settings.invalidateEvery
    rw [← parts, Nat.add_assoc, Nat.dvd_add_right (Nat.dvd_mul_right _ _)]
    simp only [positive, true_and, Nat.mul_add_mod, Nat.mod_mod]
    refine ⟨fun last => ⟨1, by omega⟩, fun divides => ?_⟩
    have := Nat.le_of_dvd (Nat.succ_pos _) divides
    omega

/-- Of so many tables one more is invalidated when the last one is. -/
theorem Settings.succ_div_invalidateEvery (settings : Settings) (table : Nat) :
    (table + 1) / settings.invalidateEvery =
      table / settings.invalidateEvery + if settings.invalidates table then 1 else 0 := by
  rw [Nat.succ_div]
  simp only [invalidates_iff]

/-- Two sums that differ in one place. -/
theorem sum_exchange {count place : Nat} {first second : Nat → Nat} (inside : place < count)
    (same : ∀ other, other ≠ place → second other = first other) :
    ∑ other ∈ range count, second other + first place =
      ∑ other ∈ range count, first other + second place := by
  have one := Finset.add_sum_erase _ first (Finset.mem_range.2 inside)
  have other := Finset.add_sum_erase _ second (Finset.mem_range.2 inside)
  have rest : ∑ other ∈ (range count).erase place, second other =
      ∑ other ∈ (range count).erase place, first other :=
    Finset.sum_congr rfl fun other there => same other (Finset.ne_of_mem_erase there)
  omega

/-- How many tables a producer has invalidated that made some number of tables. -/
def Phase.discarded (every made : Nat) : Phase → Nat
  | .flushing table _ => table / every
  | .ready _ | .done => made / every

namespace State

/-- How many tables a producer has invalidated. -/
def discarded (state : State) (every : Nat) (made : Nat → Nat) (producer : Nat) : Nat :=
  (state.producers[producer]?.map (Phase.discarded every (made producer))).getD 0

/-- All that is counted at a moment of a soak. -/
def ledger (state : State) (settings : Settings) (made : Nat → Nat) : Ledger where
  totals := state.cache.engine.recorder.totals
  stock := state.cache.engine.store.tables.length
  made := ∑ producer ∈ range settings.producers, made producer
  discarded := ∑ producer ∈ range settings.producers,
    state.discarded settings.invalidateEvery made producer
  produced := state.produced
  lookups := state.lookups
  reclaimed := state.reclaimed

variable {state : State} {config : Config} {settings : Settings} {made : Nat → Nat}
  {producer table keyId cached : Nat} {buffer : Buffer}

theorem discarded_moveProducer {phase : Phase} (there : state.producers[producer]? = some phase)
    (next : Phase) (every other : Nat) (made : Nat → Nat) :
    (state.moveProducer producer next).discarded every made other =
      if other = producer then next.discarded every (made producer)
      else state.discarded every made other := by
  simp only [discarded, producers_moveProducer there]
  split
  next same => rw [same]; rfl
  next => rfl

/-! ## What each action counts for -/

/-- A producer that ends counts for nothing. -/
theorem ledger_stopProducer (settings : Settings) (made : Nat → Nat)
    (there : state.producers[producer]? = some (.ready table)) :
    (state.moveProducer producer .done).ledger settings made = state.ledger settings made := by
  have sum : ∑ other ∈ range settings.producers,
      (state.moveProducer producer .done).discarded settings.invalidateEvery made other =
      ∑ other ∈ range settings.producers, state.discarded settings.invalidateEvery made other := by
    refine Finset.sum_congr rfl fun other _ => ?_
    rw [discarded_moveProducer there]
    split
    next same => simp [same, State.discarded, there, Phase.discarded]
    next => rfl
  exact Ledger.ext rfl rfl rfl sum rfl rfl rfl

namespace Tasks

theorem lt_producers (tasks : state.Tasks config settings made) {phase : Phase}
    (there : state.producers[producer]? = some phase) : producer < settings.producers := by
  obtain ⟨room, -⟩ := Array.getElem?_eq_some_iff.1 there
  rw [← tasks.crew]
  exact room

theorem length_tables_published (tasks : state.Tasks config settings made)
    (producer table cached : Nat) :
    (state.published producer table cached).engine.store.tables.length =
      state.cache.engine.store.tables.length + 1 := by
  have new : (state.labelled producer table).engine.store.shown? state.nextKey = none :=
    tasks.shown?_nextKey
  have more := (tasks.tidy_labelled producer table).length_tables_put new
    (makeRows state.settings table)
  rw [engine_labelled] at more
  refine (Hosted.Tidy.length_tables_of_same fun other => ?_).trans more
  rw [published, Hosted.engine_withKeys, Store.table?, Hosted.shown?_release]
  rfl

theorem recorder_published (state : State) (producer table cached : Nat) :
    (state.published producer table cached).engine.recorder =
      (state.putting producer table).state.engine.recorder := by
  rw [published, Hosted.engine_withKeys, Hosted.recorder_release]

/-- A put counts for one table, which is not invalidated yet. -/
theorem ledger_putTable (tasks : state.Tasks config settings made)
    (there : state.producers[producer]? = some (.ready table))
    (done : (state.putting producer table).result = .ok cached)
    (counted : (state.putting producer table).state.engine.recorder.totals =
      state.cache.engine.recorder.totals.plus .onePut) :
    (state.putTable producer table).state.ledger settings
        (Function.update made producer (made producer + 1)) =
      (state.ledger settings made).put := by
  obtain ⟨count, -⟩ := tasks.suits producer _ there
  have more :
      ∑ other ∈ range settings.producers,
          Function.update made producer (made producer + 1) other + made producer =
        ∑ other ∈ range settings.producers, made other +
          Function.update made producer (made producer + 1) producer :=
    sum_exchange (tasks.lt_producers there) fun other different =>
      Function.update_of_ne different (made producer + 1) made
  rw [Function.update_self] at more
  have discarded :
      ∑ other ∈ range settings.producers,
          (state.moveProducer producer (.flushing table (.create state.nextKey))).discarded
            settings.invalidateEvery (Function.update made producer (made producer + 1)) other =
        ∑ other ∈ range settings.producers,
          state.discarded settings.invalidateEvery made other := by
    refine Finset.sum_congr rfl fun other _ => ?_
    rw [discarded_moveProducer there]
    split
    next same => simp [same, State.discarded, there, Phase.discarded, count]
    next different => rw [State.discarded, State.discarded, Function.update_of_ne different]
  have stock := tasks.length_tables_published producer table cached
  rw [← recorder_published state producer table cached] at counted
  rw [(putTable_of_ok done).2]
  generalize state.published producer table cached = cache at counted stock
  have sum : ∑ other ∈ range settings.producers,
      Function.update made producer (made producer + 1) other =
        ∑ other ∈ range settings.producers, made other + 1 := by omega
  exact Ledger.ext counted stock sum discarded rfl rfl rfl

/-- A flush may take the table of its key out, which then counts as invalidated. -/
theorem ledger_flushTable (tasks : state.Tasks config settings made)
    (there : state.producers[producer]? = some (.flushing table buffer)) :
    ∃ rest count, (state.ledger settings made).stock = rest + count ∧
      (state.flushTable producer table buffer).state.ledger settings made =
        (state.ledger settings made).flush rest count := by
  obtain ⟨shown, waited⟩ := (tasks.pinned buffer.keyId).2 ⟨producer, table, buffer, there, rfl⟩
  obtain ⟨count, -⟩ := tasks.suits producer _ there
  have discarded : ∑ other ∈ range settings.producers,
        (state.moveProducer producer (.ready (table + 1))).discarded settings.invalidateEvery made
          other +
        state.discarded settings.invalidateEvery made producer =
      ∑ other ∈ range settings.producers, state.discarded settings.invalidateEvery made other +
        (state.moveProducer producer (.ready (table + 1))).discarded settings.invalidateEvery made
          producer :=
    sum_exchange (tasks.lt_producers there) fun other different => by
      rw [discarded_moveProducer there, if_neg different]
  have before : state.discarded settings.invalidateEvery made producer =
      table / settings.invalidateEvery := by
    simp [State.discarded, there, Phase.discarded]
  have after : (state.moveProducer producer (.ready (table + 1))).discarded settings.invalidateEvery
      made producer = (table + 1) / settings.invalidateEvery := by
    rw [discarded_moveProducer there, if_pos rfl, Phase.discarded, count]
  rw [before, after, settings.succ_div_invalidateEvery] at discarded
  have stock := tasks.length_tables_settling waited table
  have recorder := recorder_settling state table buffer.keyId
  rw [tasks.set] at stock
  refine ⟨_, _, stock, ?_⟩
  rw [(flushTable_eq state producer table buffer).2, settled]
  generalize (state.settling table buffer.keyId).state = cache at recorder
  have sum : ∑ other ∈ range settings.producers,
      (state.moveProducer producer (.ready (table + 1))).discarded settings.invalidateEvery made
        other =
      ∑ other ∈ range settings.producers, state.discarded settings.invalidateEvery made other +
        if settings.invalidates table then 1 else 0 := by omega
  exact Ledger.ext (congrArg Recorder.totals recorder) rfl rfl sum rfl rfl rfl

/-- A look-up counts for one access. -/
theorem ledger_lookupKey (tasks : state.Tasks config settings made) {consumer cursor now : Nat}
    {found : Found} {access : Access} (done : (state.cache.lookup keyId now).result = .ok found)
    (counted : (state.cache.lookup keyId now).state.engine.recorder.totals =
      state.cache.engine.recorder.totals.plus (.oneAccess access)) :
    (state.lookupKey consumer cursor keyId now).state.ledger settings made =
      (state.ledger settings made).lookup access := by
  have stock : (state.answered keyId now found).engine.store.tables.length =
      state.cache.engine.store.tables.length := by
    refine Hosted.Tidy.length_tables_of_same fun other => ?_
    rw [Store.table?, tasks.shown?_answered]
    rfl
  have totals : (state.answered keyId now found).engine.recorder.totals =
      state.cache.engine.recorder.totals.plus (.oneAccess access) := by
    cases given : found.table with
    | none =>
        simp only [answered, given, Option.map_none, Option.getD_none]
        exact counted
    | some table =>
        simp only [answered, given, Option.map_some, Option.getD_some, Hosted.recorder_release]
        exact counted
  rw [(lookupKey_of_ok done).2]
  generalize state.answered keyId now found = cache at stock totals
  exact Ledger.ext totals stock rfl rfl rfl rfl rfl

/-- A pass counts for what it reports. -/
theorem ledger_passed (tasks : state.Tasks config settings made) :
    ∃ report rest, (state.cache.engine.reclaim state.pressure).result = .ok report ∧
      (state.ledger settings made).stock = report.weakCleared + report.recentCleared + rest ∧
      ∀ merged, ({ state with cache := state.passed, reclaimed := merged } : State).ledger settings
        made = (state.ledger settings made).pass report merged settings.rowsPerTable rest := by
  obtain ⟨report, reported, taken, totals⟩ := tasks.cache.totals_reclaim state.pressure
  refine ⟨report, _, reported, taken, fun merged => ?_⟩
  unfold State.passed
  generalize (state.cache.engine.reclaim state.pressure).state = engine at totals
  exact Ledger.ext totals rfl rfl rfl rfl rfl rfl

end Tasks

end State

end TableCache.Soak
