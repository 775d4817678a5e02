import TableCache.Proofs.Faults

/-!
# Recorders that were told the same

Clearances wait until a recorder looks. So of two recorders that were told the same, one may have
counted more of it than the other. No operation tells them apart: a look-up and a snapshot count all
that waits before they answer, and what waits does not matter to a put.

Main statements:

1. `Agrees.recordPut`, `recordAccess`, `snapshot`: the operations of recorders that agree;
2. `agrees_snapshot`: a recorder agrees with itself before a snapshot.
-/

namespace TableCache

namespace Recorder

/-- Two recorders that were told the same and reported last at the same time. -/
structure Agrees (first second : Recorder) : Prop where
  totals : second.totals = first.totals
  interval : second.interval = first.interval
  lastEmission : second.lastEmission = first.lastEmission

variable {recorder first second : Recorder} {access : Access} {now : Nat}

theorem Agrees.refl (recorder : Recorder) : recorder.Agrees recorder := ⟨rfl, rfl, rfl⟩

theorem Agrees.trans {third : Recorder} (one : first.Agrees second) (other : second.Agrees third) :
    first.Agrees third :=
  ⟨other.totals.trans one.totals, other.interval.trans one.interval,
    other.lastEmission.trans one.lastEmission⟩

theorem Agrees.post (agrees : first.Agrees second) (clearances : List Clearance) :
    (first.post clearances).Agrees (second.post clearances) where
  totals := by rw [totals_post, totals_post, agrees.totals]
  interval := agrees.interval
  lastEmission := agrees.lastEmission

/-- A drain that did not run out of counters had room. -/
theorem fits_of_drain (words : recorder.counters.Fits)
    (answered : recorder.drain.result ≠ .error .overflow) : recorder.totals.Fits := by
  have later := (grows_drain recorder).fits words
  cases drained : recorder.drain.result with
  | error fault =>
      rw [drained, fault_drain drained] at answered
      exact absurd rfl answered
  | ok count => rwa [drain_of_ok drained] at later

/-! ## Puts -/

/-- What waits does not count for tables that were put. -/
theorem Agrees.recordPut (agrees : first.Agrees second) :
    second.recordPut.result = first.recordPut.result ∧
      second.recordPut.events = first.recordPut.events ∧
      first.recordPut.state.Agrees second.recordPut.state := by
  have tables : second.totals.tablesCached = first.totals.tablesCached :=
    congrArg Statistics.tablesCached agrees.totals
  change second.counters.tablesCached = first.counters.tablesCached at tables
  unfold Recorder.recordPut
  rw [tables]
  cases Word.add? first.counters.tablesCached 1 with
  | none => exact ⟨rfl, rfl, agrees⟩
  | some count =>
      have totals := congrArg (fun totals => { totals with tablesCached := count }) agrees.totals
      exact ⟨rfl, rfl, totals, agrees.interval, agrees.lastEmission⟩

/-! ## Look-ups -/

/-- With room for it, a look-up is counted together with all that waits, and then reported. -/
theorem recordAccess_of_fits (fits : (recorder.totals.plus (.oneAccess access)).Fits) (now : Nat) :
    recorder.recordAccess access now =
      ({ recorder with counters := recorder.totals.plus (.oneAccess access), pending := [] } :
        Recorder).emit? now := by
  let counted : Recorder := { recorder with counters := recorder.counters.plus (.oneAccess access) }
  have totals : counted.totals = recorder.totals.plus (.oneAccess access) :=
    Statistics.plus_right_comm _ _ _
  have early := totals ▸ fits
  have drained := drain_eq early
  rw [totals] at drained
  unfold recordAccess
  rw [countAccess_eq early.of_plus]
  show counted.drain.andThen _ = _
  rw [drained, Reply.andThen_ok]

/-- A look-up that did not run out of counters had room. -/
theorem fits_of_recordAccess (words : recorder.counters.Fits)
    (answered : (recorder.recordAccess access now).result ≠ .error .overflow) :
    (recorder.totals.plus (.oneAccess access)).Fits := by
  unfold recordAccess at answered
  split at answered
  next fault after counted =>
    exact absurd (congrArg _ (fault_countAccess (congrArg Prod.fst counted))) answered
  next shown after counted =>
    have later := (grows_countAccess recorder.counters access).fits words
    rw [counted] at later
    obtain rfl := countAccess_of_ok counted
    have totals : ({ recorder with counters := recorder.counters.plus (.oneAccess access) } :
        Recorder).totals = recorder.totals.plus (.oneAccess access) :=
      Statistics.plus_right_comm _ _ _
    rw [← totals]
    refine fits_of_drain later fun full => answered ?_
    rw [Reply.andThen, full]

/-- A look-up is answered alike. -/
theorem Agrees.recordAccess (agrees : first.Agrees second) (words : first.counters.Fits)
    (answered : (first.recordAccess access now).result ≠ .error .overflow) :
    second.recordAccess access now = first.recordAccess access now := by
  have fits := fits_of_recordAccess words answered
  have same : ({ second with
      counters := second.totals.plus (.oneAccess access), pending := [] } : Recorder) =
        { first with counters := first.totals.plus (.oneAccess access), pending := [] } := by
    rw [agrees.totals, agrees.interval, agrees.lastEmission]
  rw [recordAccess_of_fits fits, ← same, recordAccess_of_fits]
  rwa [agrees.totals]

/-! ## Snapshots -/

theorem fits_of_snapshot (words : recorder.counters.Fits)
    (answered : recorder.snapshot.result ≠ .error .overflow) : recorder.totals.Fits := by
  refine fits_of_drain words fun full => answered ?_
  rw [snapshot, Reply.andThen, full]

/-- A snapshot is the same one. -/
theorem Agrees.snapshot (agrees : first.Agrees second) (words : first.counters.Fits)
    (answered : first.snapshot.result ≠ .error .overflow) : second.snapshot = first.snapshot := by
  have fits := fits_of_snapshot words answered
  rw [snapshot_eq fits, snapshot_eq (agrees.totals ▸ fits), agrees.totals, agrees.interval,
    agrees.lastEmission]

/-- A snapshot brings nothing new. -/
theorem agrees_snapshot (words : recorder.counters.Fits)
    (answered : recorder.snapshot.result ≠ .error .overflow) :
    recorder.snapshot.state.Agrees recorder := by
  rw [snapshot_eq (fits_of_snapshot words answered)]
  exact ⟨(Statistics.plus_zero _).symm, rfl, rfl⟩

end Recorder

end TableCache
