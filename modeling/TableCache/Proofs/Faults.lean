import TableCache.Proofs.Growth

/-!
# Counting stops only at a full counter

An operation of a recorder does its counting or stops because a counter is full, and it never stops
while all that was ever told it fits into words. An operation that did not stop has counted what it
was told, even if the notices that still wait will not fit any more.

Main statements:

1. `Recorder.recordPut_cases`, `recordAccess_cases`, `snapshot_cases`: the operations of a recorder;
2. `Hosted.put_counted`, `lookup_counted`, `statistics_counted`: what an engine is asked.
-/

namespace TableCache

universe u

variable {Row : Type u}

namespace Statistics

/-- Balanced counters are never found out of balance; their sum may be too great to tell. -/
theorem Balanced.isConsistent?_ne {statistics : Statistics} (balanced : statistics.Balanced) :
    statistics.isConsistent? ≠ some false := by
  intro uneven
  simp only [isConsistent?, hits?, Option.bind_eq_bind, Option.bind_eq_some_iff,
    Word.add?_eq_some_iff] at uneven
  obtain ⟨-, ⟨-, ⟨rfl, -⟩, rfl, -⟩, -, ⟨rfl, -⟩, differ⟩ := uneven
  simp [Balanced] at balanced differ
  exact differ balanced

end Statistics

namespace Recorder

variable {recorder : Recorder} {counters after : Statistics} {access : Access} {fault : Fault}

/-! ## Why counting stops -/

theorem fault_countRows {clearance : Clearance}
    (stopped : (countRows counters clearance).1 = .error fault) : fault = .overflow := by
  unfold countRows at stopped
  split at stopped
  next => exact (Except.error.inj stopped).symm
  next =>
    simp only at stopped
    split at stopped
    next =>
      split at stopped
      next => exact (Except.error.inj stopped).symm
      next => cases stopped
    next => cases stopped

theorem fault_countAll {clearances : List Clearance}
    (stopped : (countAll clearances counters).1 = .error fault) : fault = .overflow := by
  induction clearances generalizing counters with
  | nil => cases stopped
  | cons clearance rest ih =>
      rw [countAll] at stopped
      split at stopped
      next cause next counted =>
        cases stopped
        exact fault_countRows (congrArg Prod.fst counted)
      next next counted =>
        cases later : (countAll rest next).1 with
        | error cause =>
            simp only [later, Except.map, Except.error.injEq] at stopped
            exact ih (later.trans (congrArg _ stopped))
        | ok many => simp [later, Except.map] at stopped

theorem fault_drain (stopped : recorder.drain.result = .error fault) : fault = .overflow := by
  unfold drain at stopped
  cases counted : (countAll recorder.pending recorder.counters).1 with
  | error cause =>
      simp only [counted, Reply.stop, Except.error.injEq] at stopped
      exact stopped ▸ fault_countAll counted
  | ok many =>
      simp only [counted] at stopped
      split at stopped
      next => exact (Except.error.inj stopped).symm
      next => cases stopped

theorem fault_countAccess (stopped : (countAccess counters access).1 = .error fault) :
    fault = .overflow := by
  unfold countAccess at stopped
  split at stopped
  next => exact (Except.error.inj stopped).symm
  next =>
    simp only at stopped
    split at stopped
    next => exact (Except.error.inj stopped).symm
    next => cases stopped

theorem countAccess_of_ok {shown : Statistics}
    (counted : countAccess counters access = (.ok shown, after)) :
    after = counters.plus (.oneAccess access) := by
  unfold countAccess at counted
  split at counted
  next => cases counted
  next accesses sum =>
    obtain ⟨rfl, -⟩ := Word.add?_eq_some_iff.1 sum
    simp only at counted
    split at counted
    next => cases counted
    next count classed =>
      obtain ⟨rfl, -⟩ := Word.add?_eq_some_iff.1 classed
      cases access <;> cases counted <;> rfl

theorem fault_emit? (balanced : recorder.counters.Balanced) {now : Nat}
    (stopped : (recorder.emit? now).result = .error fault) : fault = .overflow := by
  unfold emit? at stopped
  split at stopped
  next => cases stopped
  next =>
    simp only at stopped
    split at stopped
    next => exact (Except.error.inj stopped).symm
    next uneven => exact absurd uneven balanced.isConsistent?_ne
    next => cases stopped

/-! ## Operations -/

theorem recordPut_cases (recorder : Recorder) :
    recorder.recordPut.result = .ok () ∧
        recorder.recordPut.state.totals = recorder.totals.plus .onePut ∨
      recorder.recordPut.result = .error .overflow ∧ ¬(recorder.totals.plus .onePut).Fits := by
  by_cases fits : (recorder.totals.plus .onePut).Fits
  · rw [recordPut_eq fits]
    exact .inl ⟨rfl, Statistics.plus_right_comm _ _ _⟩
  · unfold recordPut
    split
    next => exact .inr ⟨rfl, fits⟩
    next tables sum =>
      obtain ⟨rfl, -⟩ := Word.add?_eq_some_iff.1 sum
      exact .inl ⟨rfl, Statistics.plus_right_comm recorder.counters .onePut _⟩

/-- The two ways in which a look-up is recorded. -/
theorem recordAccess_cases (balanced : recorder.totals.Balanced) (access : Access) (now : Nat) :
    (∃ emitted, (recorder.recordAccess access now).result = .ok emitted) ∧
        (recorder.recordAccess access now).state.totals =
          recorder.totals.plus (.oneAccess access) ∨
      (recorder.recordAccess access now).result = .error .overflow ∧
        ¬(recorder.totals.plus (.oneAccess access)).Fits := by
  by_cases fits : (recorder.totals.plus (.oneAccess access)).Fits
  · exact .inl (recordAccess_ok fits balanced now)
  unfold recordAccess
  split
  next fault next counted =>
    exact .inr ⟨congrArg _ (fault_countAccess (congrArg Prod.fst counted)), fits⟩
  next shown next counted =>
    obtain rfl := countAccess_of_ok counted
    have totals :
        ({ recorder with counters := recorder.counters.plus (.oneAccess access) } :
          Recorder).totals = recorder.totals.plus (.oneAccess access) :=
      Statistics.plus_right_comm _ _ _
    unfold Reply.andThen
    split
    next drained done =>
      have state := drain_of_ok done
      rw [totals] at state
      rw [state]
      have even := balanced.plus (Statistics.balanced_oneAccess access)
      cases reported : (emit? { recorder with
          counters := recorder.totals.plus (.oneAccess access), pending := [] } now).result with
      | error fault => exact .inr ⟨reported.trans (congrArg _ (fault_emit? even reported)), fits⟩
      | ok emitted =>
          refine .inl ⟨⟨emitted, reported⟩, ?_⟩
          obtain ⟨counters, pending⟩ := emit?_state { recorder with
            counters := recorder.totals.plus (.oneAccess access), pending := [] } now
          rw [Recorder.totals, Reply.after, counters, pending]
          rfl
    next fault stopped => exact .inr ⟨congrArg _ (fault_drain stopped), fits⟩

theorem snapshot_cases (recorder : Recorder) :
    recorder.snapshot.result = .ok recorder.totals ∨
      recorder.snapshot.result = .error .overflow ∧ ¬recorder.totals.Fits := by
  by_cases fits : recorder.totals.Fits
  · rw [snapshot_eq fits]
    exact .inl rfl
  unfold snapshot Reply.andThen
  split
  next drained done =>
    rw [drain_of_ok done]
    exact .inl rfl
  next fault stopped => exact .inr ⟨congrArg _ (fault_drain stopped), fits⟩

end Recorder

/-! ## Engines -/

namespace Hosted

variable {state : Hosted Row} {held : Multiset Nat}

theorem put_counted (state : Hosted Row) (keyId : Nat) (rows : List Row) :
    (state.put keyId rows).result = .ok state.purged.fresh ∧
        (state.put keyId rows).state.engine.recorder.totals =
          state.engine.recorder.totals.plus .onePut ∨
      (state.put keyId rows).result = .error .overflow ∧
        ¬(state.engine.recorder.totals.plus .onePut).Fits := by
  rw [recorder_put]
  rcases Recorder.recordPut_cases state.engine.recorder with ⟨done, totals⟩ | ⟨full, fits⟩ <;>
    rcases put_cases state keyId rows with ⟨fault, recorded, result, -⟩ | ⟨recorded, result, -⟩
  · simp [done] at recorded
  · exact .inl ⟨result, totals⟩
  · obtain rfl := Except.error.inj (recorded.symm.trans full)
    exact .inr ⟨result, fits⟩
  · simp [full] at recorded

theorem lookup_counted (sound : state.engine.Sound held)
    (balanced : state.engine.recorder.totals.Balanced) (keyId now : Nat) :
    (state.lookup keyId now).result = .ok (state.found keyId) ∧
        (state.lookup keyId now).state.engine.recorder.totals =
          state.engine.recorder.totals.plus (.oneAccess (state.found keyId).access) ∨
      (state.lookup keyId now).result = .error .overflow ∧
        ¬(state.engine.recorder.totals.plus (.oneAccess (state.found keyId).access)).Fits := by
  rw [recorder_lookup sound]
  rcases Recorder.recordAccess_cases balanced (state.found keyId).access now with
    ⟨⟨emitted, done⟩, totals⟩ | ⟨full, fits⟩ <;>
    rcases lookup_cases sound keyId now with
      ⟨fault, recorded, result, -⟩ | ⟨⟨emitted, recorded⟩, result, -⟩
  · simp [counted, done] at recorded
  · exact .inl ⟨result, totals⟩
  · obtain rfl := Except.error.inj (recorded.symm.trans full)
    exact .inr ⟨result, fits⟩
  · simp [counted, full] at recorded

theorem statistics_counted (state : Hosted Row) :
    state.statistics.result = .ok state.engine.recorder.totals ∨
      state.statistics.result = .error .overflow ∧ ¬state.engine.recorder.totals.Fits := by
  rw [statistics_result]
  exact Recorder.snapshot_cases _

/-- Counters that were told are words. -/
theorem fits_of_statistics (words : state.engine.recorder.counters.Fits) {counters : Statistics}
    (told : state.statistics.result = .ok counters) : counters.Fits := by
  rw [statistics_result] at told
  rw [← Recorder.counters_snapshot told]
  exact (Recorder.grows_snapshot _).fits words

end Hosted

end TableCache
