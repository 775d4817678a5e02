import Mathlib.Algebra.Order.BigOperators.Group.Finset
import TableCache.Proofs.RecentUse
import TableCache.Proofs.Soak.Books

/-!
# A soak balances its books

However the tasks of a soak take turns, wherever it is cancelled and whatever the clock shows, no
task stops before a counter is full, and when all tasks have ended what the soak reports adds up.
`InOrder` holds at the start, each action keeps it, and so it holds at the end.

Main statements:

1. `InOrder.act`, `InOrder.actAll`: what one action keeps, and what any number of them keep;
2. `InOrder.summarize`: what is reported of a soak in order;
3. `soak_balances`: every soak over a new cache.
-/

open Finset (range)

namespace TableCache.Soak

namespace State

/-- Tasks and books are in order, given how many tables each producer made. -/
structure InOrder (state : State) (config : Config) (settings : Settings) (made : Nat → Nat) :
    Prop where
  tasks : state.Tasks config settings made
  even : (state.ledger settings made).Even settings.rowsPerTable

/-- How many tables a producer makes by an action. -/
def makes (state : State) (action : Action) (producer : Nat) : Nat :=
  if action = .put producer then (state.act action).state.produced - state.produced else 0

/-- How many tables a producer makes by some actions. -/
def makesIn (state : State) : List Action → Nat → Nat
  | [], _ => 0
  | action :: rest, producer =>
      state.makes action producer + (state.act action).state.makesIn rest producer

variable {state after : State} {config : Config} {settings : Settings} {made : Nat → Nat}
  {producer table : Nat} {buffer : Buffer} {action : Action}

/-! ## What an action comes to -/

/-- What an action comes to: nothing, one of the steps of a producer, a look-up, a pass, or a change
of what is not in the books. -/
inductive Comes (state : State) : Action → Reply State Unit → Prop
  | idle (action : Action) : Comes state action (.ok state ())
  | put {producer table : Nat} : state.producers[producer]? = some (.ready table) →
      table < state.settings.tablesPerProducer →
      Comes state (.put producer) (state.putTable producer table)
  | flush {producer table : Nat} {buffer : Buffer} :
      state.producers[producer]? = some (.flushing table buffer) →
      Comes state (.flush producer) (state.flushTable producer table buffer)
  | stopProducer {producer table : Nat} : state.producers[producer]? = some (.ready table) →
      Comes state (.stopProducer producer) (.ok (state.moveProducer producer .done) ())
  | lookup (consumer cursor keyId now : Nat) :
      Comes state (.lookup consumer now) (state.lookupKey consumer cursor keyId now)
  | pass : Comes state .pass state.passOnce
  | aside {action : Action} : (∀ producer, action ≠ .put producer) →
      ∀ (consumers : Array Reading) (isReclaiming isCancelled : Bool),
        Comes state action
          (.ok
            { state with
              consumers := consumers
              isReclaiming := isReclaiming
              isCancelled := isCancelled }
            ())

theorem comes_act (state : State) (action : Action) : state.Comes action (state.act action) := by
  cases action with
  | put producer =>
      unfold State.act
      simp only
      split
      next table there =>
        split
        next => exact .idle _
        next open' => exact .put there (by omega)
      next => exact .idle _
  | flush producer =>
      unfold State.act
      simp only
      split
      next table buffer there => exact .flush there
      next => exact .idle _
  | stopProducer producer =>
      unfold State.act
      simp only
      split
      next table there =>
        split
        next => exact .stopProducer there
        next => exact .idle _
      next => exact .idle _
  | lookup consumer now =>
      unfold State.act
      simp only
      split
      next cursor _ =>
        split
        next keyId _ _ => exact .lookup consumer cursor keyId now
        next => exact .idle _
      next => exact .idle _
  | stopConsumer consumer =>
      unfold State.act
      simp only
      split
      next =>
        split
        next => exact .aside (by simp) _ _ _
        next => exact .idle _
      next => exact .idle _
  | pass =>
      unfold State.act
      simp only
      split
      next => exact .pass
      next => exact .idle _
  | stopReclaimer => exact .aside (by simp) _ _ _
  | cancel => exact .aside (by simp) _ _ _

/-! ## What an action keeps -/

/-- The tables and look-ups so far. -/
def work (state : State) : Nat := state.produced + state.lookups

/-- A reply that leaves tasks and books in order, after at most one table or look-up more; or that
found a counter full, which takes very many of them. -/
def Lasts (state : State) (config : Config) (settings : Settings) (made : Nat → Nat)
    (reply : Reply State Unit) : Prop :=
  reply.result = .ok () ∧ reply.state.InOrder config settings made ∧
      reply.state.work ≤ state.work + 1 ∨
    reply.result = .error .overflow ∧
      Word.limit ≤ (state.work + 1) * (settings.rowsPerTable + 1)

theorem makes_of_same (same : (state.act action).state.produced = state.produced)
    (producer : Nat) : state.makes action producer = 0 := by
  simp [makes, same]

theorem produced_putTable (done : (state.putTable producer table).result = .ok ()) :
    (state.putTable producer table).state.produced = state.produced + 1 := by
  cases put : (state.putting producer table).result with
  | ok cached => rw [(putTable_of_ok put).2]
  | error fault => simp [putTable_of_error put] at done

namespace InOrder

theorem limit_le (order : state.InOrder config settings made) {more : Statistics}
    (small : more.Le ⟨1, 0, 0, 0, 1, 1, 1, 1, 1⟩)
    (full : ¬(state.cache.engine.recorder.totals.plus more).Fits) :
    Word.limit ≤ (state.work + 1) * (settings.rowsPerTable + 1) :=
  order.even.limit_le small full

theorem putTable (order : state.InOrder config settings made)
    (there : state.producers[producer]? = some (.ready table))
    (more : table < settings.tablesPerProducer) :
    state.Lasts config settings (Function.update made producer (made producer + 1))
      (state.putTable producer table) := by
  rcases Hosted.put_counted (state.labelled producer table) state.nextKey
    (makeRows state.settings table) with ⟨done, counted⟩ | ⟨full, fits⟩
  · have ledger := order.tasks.ledger_putTable there done counted
    refine .inl ⟨(putTable_of_ok done).1, ⟨order.tasks.putTable there more done, ?_⟩, ?_⟩
    · rw [ledger]
      exact order.even.put
    · rw [(putTable_of_ok done).2]
      exact (Nat.succ_add _ _).le
  · exact .inr ⟨putTable_of_error full, order.limit_le (by decide) fits⟩

theorem flushTable (order : state.InOrder config settings made)
    (there : state.producers[producer]? = some (.flushing table buffer)) :
    state.Lasts config settings made (state.flushTable producer table buffer) := by
  obtain ⟨rest, count, taken, ledger⟩ := order.tasks.ledger_flushTable there
  obtain ⟨done, state'⟩ := flushTable_eq state producer table buffer
  refine .inl ⟨done, ⟨order.tasks.flushTable there, ?_⟩, ?_⟩
  · rw [ledger]
    exact order.even.flush taken
  · rw [state']
    exact Nat.le_succ _

theorem stopProducer (order : state.InOrder config settings made)
    (there : state.producers[producer]? = some (.ready table)) :
    (state.moveProducer producer .done).InOrder config settings made := by
  refine ⟨order.tasks.stopProducer there, ?_⟩
  rw [ledger_stopProducer settings made there]
  exact order.even

theorem lookupKey (order : state.InOrder config settings made) (consumer cursor keyId now : Nat) :
    state.Lasts config settings made (state.lookupKey consumer cursor keyId now) := by
  rcases Hosted.lookup_counted order.tasks.cache.sound order.even.classified keyId now with
    ⟨done, counted⟩ | ⟨full, fits⟩
  · refine .inl ⟨(lookupKey_of_ok done).1, ⟨order.tasks.lookupKey done, ?_⟩, ?_⟩
    · rw [order.tasks.ledger_lookupKey done counted]
      exact order.even.lookup _
    · rw [(lookupKey_of_ok done).2]
      exact Nat.le_refl _
  · refine .inr ⟨lookupKey_of_error full, order.limit_le ?_ fits⟩
    cases (state.cache.found keyId).access <;> decide

/-- A pass clears tables that were made, and reports no more of them than there are. -/
theorem passOnce (order : state.InOrder config settings made) :
    state.Lasts config settings made state.passOnce := by
  obtain ⟨report, rest, reported, taken, ledger⟩ := order.tasks.ledger_passed
  rcases passOnce_eq reported with ⟨full, stopped⟩ | ⟨merged, total, done, state'⟩
  · refine .inr ⟨stopped, ?_⟩
    have kept := order.even.kept
    have reclaimed := order.even.reclaimed
    have most : Word.limit ≤ state.produced := by
      simp only [Report.merge?, Option.bind_eq_bind, Option.bind_eq_none_iff,
        Word.add?_eq_some_iff] at full
      simp only [State.ledger] at kept reclaimed taken
      by_contra room
      cases full _ ⟨rfl, by omega⟩ _ ⟨rfl, by omega⟩
    exact (Nat.le_succ_of_le (Nat.le_add_right_of_le most)).trans
      (Nat.le_mul_of_pos_right _ (Nat.succ_pos _))
  · refine .inl ⟨done, ?_⟩
    rw [state']
    refine ⟨⟨order.tasks.passed, ?_⟩, Nat.le_succ _⟩
    rw [ledger]
    exact order.even.pass total taken

/-- Consumers, the reclaimer and whoever cancels come and go without touching the books. -/
theorem aside (order : state.InOrder config settings made) (consumers : Array Reading)
    (isReclaiming isCancelled : Bool) :
    ({ state with
        consumers := consumers
        isReclaiming := isReclaiming
        isCancelled := isCancelled } : State).InOrder config settings made :=
  ⟨order.tasks.of_same rfl rfl order.tasks.cache (fun _ => Iff.rfl) fun _ => rfl, order.even⟩

/-- Every action keeps tasks and books in order, or finds a counter full. Only a put makes a table.
-/
theorem act (order : state.InOrder config settings made) (action : Action) :
    state.Lasts config settings (fun producer => made producer + state.makes action producer)
      (state.act action) := by
  have comes := comes_act state action
  generalize same : state.act action = reply at comes
  have unmade : (∀ producer, action ≠ .put producer) →
      (fun producer => made producer + state.makes action producer) = made := fun notPut =>
    funext fun producer => congrArg _ (if_neg (notPut producer))
  cases comes with
  | idle action =>
      have nothing := makes_of_same (show (state.act action).state.produced = _ by rw [same]; rfl)
      simp only [nothing, Nat.add_zero]
      exact .inl ⟨rfl, order, Nat.le_succ _⟩
  | @put producer table there more =>
      rw [order.tasks.set] at more
      refine (order.putTable there more).imp_left fun lasts => ?_
      have count : (fun other => made other + state.makes (.put producer) other) =
          Function.update made producer (made producer + 1) := by
        funext other
        rw [makes, same, produced_putTable lasts.1]
        by_cases one : other = producer
        · simp [one]
        · rw [Function.update_of_ne one, if_neg (by simpa [eq_comm] using one), Nat.add_zero]
      rw [count]
      exact lasts
  | flush there =>
      rw [unmade (by simp)]
      exact order.flushTable there
  | stopProducer there =>
      rw [unmade (by simp)]
      exact .inl ⟨rfl, order.stopProducer there, Nat.le_succ _⟩
  | lookup consumer cursor keyId now =>
      rw [unmade (by simp)]
      exact order.lookupKey consumer cursor keyId now
  | pass =>
      rw [unmade (by simp)]
      exact order.passOnce
  | aside notPut consumers isReclaiming isCancelled =>
      rw [unmade notPut]
      exact .inl ⟨rfl, order.aside consumers isReclaiming isCancelled, Nat.le_succ _⟩

/-- So do any number of actions, one after the other. -/
theorem actAll (order : state.InOrder config settings made) (actions : List Action) :
    (State.actAll actions state).result = .ok () ∧
        (State.actAll actions state).state.InOrder config settings
          (fun producer => made producer + state.makesIn actions producer) ∧
        (State.actAll actions state).state.work ≤ state.work + actions.length ∨
      (State.actAll actions state).result = .error .overflow ∧
        Word.limit ≤ (state.work + actions.length) * (settings.rowsPerTable + 1) := by
  induction actions generalizing state made with
  | nil => exact .inl ⟨rfl, order, Nat.le_refl _⟩
  | cons action rest ih =>
      rw [State.actAll, List.length_cons]
      rcases order.act action with ⟨done, kept, work⟩ | ⟨full, many⟩
      · rw [Reply.andThen_of_ok done, Reply.result_after, Reply.state_after]
        simp only [makesIn, ← Nat.add_assoc]
        rcases ih kept with ⟨finished, later, more⟩ | ⟨full, many⟩
        · exact .inl ⟨finished, later, by omega⟩
        · exact .inr ⟨full, many.trans (Nat.mul_le_mul_right _ (by omega))⟩
      · rw [Reply.andThen_of_error full]
        exact .inr ⟨rfl, many.trans (Nat.mul_le_mul_right _ (by omega))⟩

end InOrder

/-! ## The start -/

theorem ready_of_create {config : Config} {host : Host} {phase : Phase}
    (there : (create settings (Hosted.build config host)).producers[producer]? = some phase) :
    phase = .ready 0 := by
  simp only [create, Array.getElem?_replicate] at there
  split at there
  next => exact (Option.some.inj there).symm
  next => cases there

theorem not_flushes_create (config : Config) (settings : Settings) (host : Host)
    (producer keyId : Nat) :
    ¬(create settings (Hosted.build config host)).Flushes producer keyId := by
  rintro ⟨table, buffer, waits, -⟩
  cases ready_of_create waits

/-- A soak over a new cache starts in order. -/
theorem inOrder_create (valid : config.validate = .ok ()) (settings : Settings) (host : Host) :
    (create settings (Hosted.build config host)).InOrder config settings fun _ => 0 := by
  have bare : ∀ keyId, (Hosted.build config host : Hosted Block).engine.store.shown? keyId = none :=
    fun keyId => by simp [Hosted.build, Store.create, Store.shown?, Store.entryOf?]
  refine ⟨⟨rfl, Hosted.tidy_build valid host _, ?_, fun producer phase there => ?_,
    fun keyId => ?_, fun producer keyId waits => ?_, fun first second keyId waits => ?_⟩, ?_⟩
  · simp [create]
  · rw [ready_of_create there]
    exact ⟨rfl, Nat.zero_le _⟩
  · refine iff_of_false ?_ ?_
    · rintro ⟨table, shown⟩
      cases (bare keyId).symm.trans shown
    · rintro ⟨producer, waits⟩
      exact not_flushes_create _ _ _ _ _ waits
  · exact absurd waits (not_flushes_create _ _ _ _ _)
  · exact absurd waits (not_flushes_create _ _ _ _ _)
  · have discarded : ∀ producer, (create settings (Hosted.build config host)).discarded
        settings.invalidateEvery (fun _ => 0) producer = 0 := by
      intro producer
      unfold discarded
      cases there : (create settings (Hosted.build config host)).producers[producer]? with
      | none => rfl
      | some phase => simp [ready_of_create there, Phase.discarded]
    have unmade : ∑ _producer ∈ range settings.producers, 0 = 0 := Finset.sum_const_zero
    have undiscarded : ∑ producer ∈ range settings.producers,
        (create settings (Hosted.build config host)).discarded settings.invalidateEvery (fun _ => 0)
          producer = 0 := Finset.sum_eq_zero fun producer _ => discarded producer
    rw [show ((create settings (Hosted.build config host)).ledger settings fun _ => 0) =
      ⟨.zero, 0, 0, 0, 0, 0, .zero⟩ from Ledger.ext rfl rfl unmade undiscarded rfl rfl rfl]
    constructor <;> simp [Statistics.Balanced, Statistics.zero, Report.zero]

end State

/-! ## The report -/

/-- What is reported of a soak adds up, given how many tables each producer made. Dividing by zero
gives zero, and so no table counts as invalidated if none is to be. -/
structure Summary.Balances (summary : Summary) (capacity : Nat) (settings : Settings)
    (made : Nat → Nat) : Prop where
  total : summary.tablesProduced = ∑ producer ∈ range settings.producers, made producer
  most : summary.tablesProduced ≤ settings.producers * settings.tablesPerProducer
  cached : summary.statistics.tablesCached = summary.tablesProduced
  looked : summary.statistics.accesses = summary.lookups
  hits : ∃ hits, summary.statistics.hits? = some hits ∧
    summary.statistics.accesses = hits + summary.statistics.misses
  reclaimed : summary.reclaimed.total? = some summary.statistics.tablesReclaimed
  recent : summary.reclaimed.recentCleared = summary.statistics.recentReclaimed
  rows : summary.statistics.rowsReclaimed =
    summary.statistics.tablesReclaimed * settings.rowsPerTable
  unpinned : summary.occupancy.strong = 0
  bounded : summary.occupancy.recent ≤ capacity
  kept : summary.occupancy.entries + summary.statistics.tablesReclaimed +
    ∑ producer ∈ range settings.producers, made producer / settings.invalidateEvery =
      summary.tablesProduced

namespace State

variable {state : State} {config : Config} {settings : Settings} {made : Nat → Nat}

/-- What is reported, once it is known that nothing is too great to be told. -/
def report (state : State) : Summary where
  tablesProduced := state.produced
  lookups := state.lookups
  reclaimed := state.reclaimed
  statistics := state.cache.engine.recorder.totals
  occupancy := state.cache.engine.store.occupancy

/-- A soak in order is reported, unless a counter is full. -/
theorem InOrder.summarize_result (order : state.InOrder config settings made) :
    state.summarize.result = .ok state.report ∧ state.cache.engine.recorder.totals.Fits ∨
      state.summarize.result = .error .overflow ∧
        Word.limit ≤ (state.work + 1) * (settings.rowsPerTable + 1) := by
  have summarized : state.summarize.result =
      (state.cache.statistics.andThen fun cache statistics =>
        cache.occupancy.map fun occupancy => (statistics, occupancy)).result.map
          fun counted : Statistics × Occupancy =>
            ⟨state.produced, state.lookups, state.reclaimed, counted.1, counted.2⟩ := rfl
  rw [summarized]
  rcases Hosted.statistics_counted state.cache with done | ⟨full, fits⟩
  · refine .inl ⟨?_, Hosted.fits_of_statistics order.tasks.cache.words done⟩
    rw [Reply.andThen_of_ok done, Reply.result_after, Hosted.result_map,
      order.tasks.cache.occupancy_statistics]
    rfl
  · refine .inr ⟨?_, ?_⟩
    · rw [Reply.andThen_of_error full]
      rfl
    · refine order.limit_le (show Statistics.zero.Le _ by decide) ?_
      rwa [Statistics.plus_zero]

theorem phase_of_isFinished (finished : state.isFinished = true) {producer : Nat} {phase : Phase}
    (there : state.producers[producer]? = some phase) : phase = .done := by
  simp only [isFinished, Bool.and_eq_true] at finished
  obtain ⟨inside, rfl⟩ := Array.getElem?_eq_some_iff.1 there
  simpa using Array.all_eq_true.1 finished.1.1 producer inside

/-- No producer makes more tables than it is to make. -/
theorem Tasks.made_le (tasks : state.Tasks config settings made) {producer : Nat}
    (inside : producer < settings.producers) : made producer ≤ settings.tablesPerProducer := by
  rw [← tasks.crew] at inside
  have suits := tasks.suits producer _ (Array.getElem?_eq_getElem inside)
  cases phase : state.producers[producer] with
  | ready table =>
      rw [phase] at suits
      exact suits.1.le.trans suits.2
  | flushing table buffer =>
      rw [phase] at suits
      exact suits.1.le.trans suits.2
  | done =>
      rw [phase] at suits
      exact suits

/-- What is reported of a soak that is in order, and whose tasks have ended, adds up. -/
theorem InOrder.balances (order : state.InOrder config settings made)
    (finished : state.isFinished = true) (fits : state.cache.engine.recorder.totals.Fits) :
    state.report.Balances config.recencyCapacity settings made := by
  obtain ⟨tasks, classified, total, cached, looked, reclaimed, recent, rows, kept⟩ := order
  have sound := tasks.cache.sound
  have discarded : ∑ producer ∈ range settings.producers,
      state.discarded settings.invalidateEvery made producer =
        ∑ producer ∈ range settings.producers, made producer / settings.invalidateEvery := by
    refine Finset.sum_congr rfl fun producer inside => ?_
    have inside := Finset.mem_range.1 inside
    rw [← tasks.crew] at inside
    have there := Array.getElem?_eq_getElem inside
    rw [discarded, there, phase_of_isFinished finished there]
    rfl
  have most : ∑ producer ∈ range settings.producers, made producer ≤
      settings.producers * settings.tablesPerProducer := by
    have each : ∑ producer ∈ range settings.producers, made producer ≤
        ∑ _producer ∈ range settings.producers, settings.tablesPerProducer :=
      Finset.sum_le_sum fun producer inside => tasks.made_le (Finset.mem_range.1 inside)
    rwa [Finset.sum_const_nat fun _ _ => rfl, Finset.card_range] at each
  have words := Statistics.fits_iff.1 fits
  simp only [State.ledger] at classified total cached looked reclaimed recent rows kept
  simp only [Statistics.Balanced] at classified
  refine ⟨total, total.le.trans most, cached, looked, ⟨_, ?_, classified⟩, ?_, recent.symm, rows,
    ?_, ?_, ?_⟩
  · have first : Word.add? state.cache.engine.recorder.totals.hardHits
        state.cache.engine.recorder.totals.softHits = some _ :=
      Word.add?_eq_some_iff.2 ⟨rfl, by omega⟩
    simp only [report, Statistics.hits?, first, Option.bind_eq_bind, Option.bind_some]
    exact Word.add?_eq_some_iff.2 ⟨rfl, by omega⟩
  · rw [report, Report.total?, reclaimed]
    exact Word.add?_eq_some_iff.2 ⟨rfl, by omega⟩
  · refine Store.strong_occupancy fun keyId shown there => ?_
    obtain ⟨table, pinned⟩ := shown
    cases pinned with
    | false => rfl
    | true =>
        obtain ⟨producer, table, buffer, waits, -⟩ := (tasks.pinned keyId).1 ⟨table, there⟩
        cases phase_of_isFinished finished waits
  · refine (Store.recent_occupancy_le _).trans ?_
    rw [sound.recentHandles_eq, ← tasks.cache.config]
    exact sound.size_le
  · rw [← discarded, report, Store.entries_occupancy]
    exact kept

/-- Some actions one after the other, and then the report. -/
def reportAfter (start : State) (actions : List Action) : Reply State Summary :=
  (actAll actions start).andThen fun state _ => state.summarize

end State

/-- Every soak over a new cache, whatever its settings are, in whatever order its tasks take turns,
wherever it is cancelled and whatever the clock shows: no task stops and the soak is reported,
unless a counter of the cache is full, which takes very many actions; and if all tasks have ended,
what is reported adds up with the tables that each producer made. -/
theorem soak_balances {config : Config} (valid : config.validate = .ok ()) (settings : Settings)
    (host : Host) (actions : List Action) :
    let start := State.create settings (Hosted.build config host)
    (∃ summary, (start.reportAfter actions).result = .ok summary ∧
        ((State.actAll actions start).state.isFinished = true →
          summary.Balances config.recencyCapacity settings (start.makesIn actions))) ∨
      (start.reportAfter actions).result = .error .overflow ∧
        Word.limit ≤ (actions.length + 1) * (settings.rowsPerTable + 1) := by
  intro start
  rcases (State.inOrder_create valid settings host).actAll actions with
    ⟨done, order, work⟩ | ⟨full, many⟩
  · have work : (State.actAll actions start).state.work ≤ actions.length :=
      work.trans (Nat.zero_add _).le
    simp only [Nat.zero_add] at order
    unfold State.reportAfter
    rw [Reply.andThen_of_ok done, Reply.result_after]
    rcases order.summarize_result with ⟨reported, fits⟩ | ⟨full, many⟩
    · exact .inl ⟨_, reported, fun finished => order.balances finished fits⟩
    · exact .inr ⟨full, many.trans (Nat.mul_le_mul_right _ (Nat.succ_le_succ work))⟩
  · unfold State.reportAfter
    rw [Reply.andThen_of_error full]
    have work : start.work + actions.length ≤ actions.length + 1 := by
      show 0 + 0 + actions.length ≤ _
      omega
    exact .inr ⟨rfl, many.trans (Nat.mul_le_mul_right _ work)⟩

/-- Two producers with two tables each, of which the second is invalidated, and one consumer. -/
def brief : Settings where
  producers := 2
  consumers := 1
  tablesPerProducer := 2
  rowsPerTable := 3
  rowBytes := 1
  flushDelay := 5
  invalidateEvery := 2
  reclaimInterval := 20
  reclaimBatch := 8

/-- The first producer makes two tables and the second one; a pass comes after the first flush, and
the soak is cancelled while the second producer waits. -/
def cancelled : List Action :=
  [.put 0, .lookup 0 1, .put 1, .flush 0, .pass, .lookup 0 400, .put 0, .flush 0, .cancel, .flush 1,
    .stopProducer 0, .stopProducer 1, .stopConsumer 0, .stopReclaimer]

theorem soak_balances_cancelled :
    let start := State.create brief (Hosted.build ⟨1, 300⟩ .empty)
    (start.reportAfter cancelled).result =
        .ok ⟨3, 2, ⟨1, 0⟩, ⟨3, 1, 0, 3, 2, 2, 0, 0, 0⟩, ⟨1, 0, 0, 1⟩⟩ ∧
      (start.makesIn cancelled 0, start.makesIn cancelled 1) = (2, 1) ∧
      Summary.Balances ⟨3, 2, ⟨1, 0⟩, ⟨3, 1, 0, 3, 2, 2, 0, 0, 0⟩, ⟨1, 0, 0, 1⟩⟩ 1 brief
        (start.makesIn cancelled) := by
  intro start
  have told : (start.reportAfter cancelled).result =
      .ok ⟨3, 2, ⟨1, 0⟩, ⟨3, 1, 0, 3, 2, 2, 0, 0, 0⟩, ⟨1, 0, 0, 1⟩⟩ := by
    decide +kernel
  refine ⟨told, by decide +kernel, ?_⟩
  rcases soak_balances (show (⟨1, 300⟩ : Config).validate = .ok () from rfl) brief .empty
    cancelled with ⟨summary, done, balances⟩ | ⟨-, many⟩
  · obtain rfl := Except.ok.inj (done.symm.trans told)
    exact balances (by decide +kernel)
  · exact absurd many (by decide)

end TableCache.Soak
