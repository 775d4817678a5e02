import TableCache.Proofs.Engine.Chores

/-!
# Looks at an engine

A question that neither counts for something nor renews recent use is a look. A look takes the lock
of the engine all the same, so the engine goes through its inbox first, and for the statistics it
also counts the clearances that wait. If all its entries belong to keys with owners then that is all
that is left of a look, once a table that came with the answer was given back.

Main statements:

1. `purged_of_claimed`: an engine whose entries all belong to keys with owners has nothing to purge;
2. `Memory.release_share`: a table that is handed out and given back;
3. `perform_question`: a look.
-/

namespace TableCache

universe u

/-- What can be asked of an engine without leaving a trace. -/
inductive Question where
  | peek (keyId : Nat)
  | contains (keyId : Nat)
  | tier (keyId : Nat)
  | occupancy
  | size
  | isEmpty
  | statistics
  deriving DecidableEq, Repr

variable {Row : Type u}

/-- What is asked of the engine. Whether it has no entries is read off their number. -/
def Question.request : Question → Request Row
  | .peek keyId => .peek keyId
  | .contains keyId => .contains keyId
  | .tier keyId => .tier keyId
  | .occupancy => .occupancy
  | .size | .isEmpty => .size
  | .statistics => .statistics

/-- A table with a holder is as it was after one more holder came and went. -/
theorem Memory.release_share {memory : Memory Row} {table : Nat}
    (held : 0 < memory.holders table) : (memory.share table).release table = memory := by
  have more := holders_share held table
  rw [if_pos rfl] at more
  have tables : ((memory.tables.adjust table fun table =>
        { table with holders := table.holders + 1 }).adjust table fun table =>
          { table with holders := table.holders - 1 }) = memory.tables := by
    refine Numbered.eq_of_find? (by simp) fun other => ?_
    simp only [Numbered.find?_adjust]
    split
    next => cases memory.tables.find? other <;> rfl
    next => rfl
  unfold release
  rw [more, if_neg (by omega)]
  exact congrArg (Memory.mk · memory.cells memory.registry) tables

/-- Nothing is purged if every entry belongs to a key with an owner. -/
theorem Store.removeOrphans_of_claimed {keys : Keys} {store : Store Row}
    (claimed : ∀ keyId, store.has keyId = true → keys.isOwned keyId = true) (posted : List Nat) :
    removeOrphans keys posted store = ([], store) := by
  induction posted with
  | nil => rfl
  | cons first rest ih =>
      rw [removeOrphans]
      split
      next orphan =>
        obtain ⟨there, lost⟩ := Bool.and_eq_true_iff.1 orphan
        rw [claimed first there] at lost
        cases lost
      next => exact ih

namespace Hosted

/-- Every entry belongs to a key with an owner. -/
def Claimed (state : Hosted Row) : Prop :=
  ∀ keyId, state.engine.store.has keyId = true → state.host.keys.isOwned keyId = true

/-- An engine that only went through its inbox and counted what waited. -/
def looked (state : Hosted Row) (recorder : Recorder) : Hosted Row where
  engine := { state.engine with recorder := recorder }
  host := { state.host with keys := (state.host.keys.collect state.engine.store.inbox).2 }

variable {state : Hosted Row} {held : Multiset Nat}

theorem purged_of_claimed (claimed : state.Claimed) :
    state.purged = state.looked state.engine.recorder := by
  have owned : ∀ keyId, state.engine.store.has keyId = true →
      (state.host.keys.collect state.engine.store.inbox).2.isOwned keyId = true := claimed
  have removed := Store.removeOrphans_of_claimed owned
    (state.host.keys.collect state.engine.store.inbox).1
  unfold purged purgeOrphans Store.expunge
  simp only [removed]
  rfl

/-- A table that was read and is given back leaves an engine as it was. -/
theorem release_read (sound : state.engine.Sound held) (keyId : Nat) :
    (state.engine.store.read keyId).1.toList.foldl release
        (state.withStore (state.engine.store.read keyId).2) = state := by
  unfold Store.read
  cases found : state.engine.store.entryOf? keyId with
  | none => rfl
  | some entry =>
      simp only [Memory.read]
      cases filled : state.engine.store.memory.slot? entry.cell with
      | none => rfl
      | some table =>
          have held : 0 < state.engine.store.memory.holders table :=
            sound.store.holding.pos_of_mem
              (Multiset.mem_add.2 (.inl (Memory.mem_slots_of_slot? filled)))
          exact congrArg
            (fun memory => state.withStore { state.engine.store with memory := memory })
            (Memory.release_share held)

/-- Once the tables that came with the answer are given back, nothing is left of a look. -/
theorem perform_question (claimed : state.Claimed) (sound : state.engine.Sound held)
    (words : state.engine.recorder.counters.Fits) {question : Question}
    (answered : (state.perform question.request).result ≠ .error .overflow) :
    ∃ recorder : Recorder, recorder.Agrees state.engine.recorder ∧
      (given (state.perform question.request).result).foldl release
        (state.perform question.request).state = state.looked recorder := by
  have purged := purged_of_claimed claimed
  cases question with
  | peek keyId =>
      refine ⟨_, .refl _, ?_⟩
      rw [perform_state, given_perform, ← purged]
      exact release_read (sound_purged sound) keyId
  | statistics =>
      have counted : state.engine.recorder.snapshot.result ≠ .error .overflow :=
        fun full => answered (by
          rw [Question.request, perform, result_map, statistics_result, full]
          rfl)
      refine ⟨_, Recorder.agrees_snapshot words counted, ?_⟩
      rw [perform_state, given_perform]
      simp only [Question.request]
      rw [purged]
      rfl
  | _ => exact ⟨_, .refl _, purged⟩

end Hosted

end TableCache
