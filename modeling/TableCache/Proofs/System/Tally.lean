import TableCache.Proofs.System.Sound

/-!
# The tally of a run

What the counters of an engine should say is told by what happened: a put for every put it was asked
for, an access of some class for every look-up, and for every pass over its memory what the pass
reported and the rows of the tables that it cleared. `System.tally` adds that up along a run, on
paper and without any queue. As long as the tally fits into words, the totals of the recorder are
the tally.

Main statements:

1. `totals_perform`, `totals_reclaim`: what one request and one pass add to the totals;
2. `Turn.totals`: every turn adds what it counts for;
3. `totals_after`: the totals of an engine after a run are the tally of the run.
-/

namespace TableCache

universe u

variable {Row : Type u}

/-! ## What single events count for -/

namespace Statistics

/-- One look-up whose class is not known. -/
def unclassified : Statistics := { zero with accesses := 1 }

/-- The class of a look-up is never more frequent than look-ups. -/
theorem Fits.classified {statistics : Statistics} (balanced : statistics.Balanced)
    (fits : (statistics.plus .unclassified).Fits) (access : Access) :
    (statistics.plus (.oneAccess access)).Fits := by
  rw [fits_iff] at fits ⊢
  unfold Balanced at balanced
  simp only [plus, unclassified, oneAccess, zero] at fits ⊢
  cases access <;> simp <;> omega

theorem fits_unclassified {statistics : Statistics} {access : Access}
    (fits : (statistics.plus (.oneAccess access)).Fits) :
    (statistics.plus .unclassified).Fits := by
  rw [fits_iff] at fits ⊢
  simp only [plus, unclassified, oneAccess, zero] at fits ⊢
  omega

end Statistics

/-- What a request counts for. -/
def Hosted.counts (state : Hosted Row) : Request Row → Statistics
  | .put _ _ => .onePut
  | .get keyId now | .lookup keyId now =>
      match (state.lookup keyId now).result with
      | .ok found => .oneAccess found.access
      | .error _ => .unclassified
  | _ => .zero

/-- What a pass counts for: what it reports, and the rows of the tables that it cleared. -/
def Cache.counts (cache : Cache Row) (pressure : Pressure) : Statistics :=
  match (cache.reclaim pressure).result with
  | .ok (.report report) =>
      { Statistics.zero with
        tablesReclaimed := report.weakCleared + report.recentCleared
        recentReclaimed := report.recentCleared
        rowsReclaimed :=
          ((cache.cleared pressure).map fun table => (cache.memory.rows table).length).sum }
  | _ => .zero

/-- What an act counts for, for the engine with a number. -/
def Act.counts (act : Act Row) (number : Nat) (state : Hosted Row) : Statistics :=
  match act with
  | .ask other request =>
      if other = number ∧ request.isAdmitted state.host.keys = true then state.counts request
      else .zero
  | .reclaim other pressure =>
      if other = number then (Cache.running state.engine).counts pressure else .zero
  | _ => .zero

/-! ## Requests and passes -/

namespace Hosted

variable {state : Hosted Row} {held : Multiset Nat}

/-- A look-up adds one access of its class, and does not stop. -/
theorem totals_lookup (sound : state.engine.Sound held)
    (balanced : state.engine.recorder.totals.Balanced) (keyId now : Nat)
    (fits : (state.engine.recorder.totals.plus .unclassified).Fits) :
    (state.lookup keyId now).result = .ok (state.found keyId) ∧
      (state.lookup keyId now).state.engine.recorder.totals =
        state.engine.recorder.totals.plus (.oneAccess (state.found keyId).access) := by
  have words := Statistics.Fits.classified balanced fits (state.found keyId).access
  obtain ⟨⟨emitted, recorded⟩, totals⟩ := Recorder.recordAccess_ok words balanced now
  have counted : (state.counted keyId now).result = .ok emitted := recorded
  rcases lookup_cases sound keyId now with ⟨fault, stopped, -, -⟩ | ⟨-, returned, -⟩
  · rw [counted] at stopped
    cases stopped
  · refine ⟨returned, ?_⟩
    rw [recorder_lookup sound]
    exact totals

theorem totals_put (keyId : Nat) (rows : List Row)
    (fits : (state.engine.recorder.totals.plus .onePut).Fits) :
    (state.put keyId rows).result = .ok state.purged.fresh ∧
      (state.put keyId rows).state.engine.recorder.totals =
        state.engine.recorder.totals.plus .onePut := by
  have recorded := Recorder.recordPut_eq fits
  rcases put_cases state keyId rows with ⟨fault, stopped, -, -⟩ | ⟨-, returned, -⟩
  · rw [recorded] at stopped
    cases stopped
  · refine ⟨returned, ?_⟩
    rw [recorder_put, recorded]
    exact Statistics.plus_right_comm _ _ _

/-- A look-up counts for its class. One that stops would count for no class, so there was room for
one of no class. -/
theorem counts_lookup (sound : state.engine.Sound held)
    (balanced : state.engine.recorder.totals.Balanced) {keyId now : Nat}
    (fits : (state.engine.recorder.totals.plus (state.counts (.lookup keyId now))).Fits) :
    (state.engine.recorder.totals.plus .unclassified).Fits ∧
      state.counts (.lookup keyId now) = .oneAccess (state.found keyId).access := by
  have early : (state.engine.recorder.totals.plus .unclassified).Fits := by
    unfold counts at fits
    simp only at fits
    split at fits
    next => exact Statistics.fits_unclassified fits
    next => exact fits
  refine ⟨early, ?_⟩
  unfold counts
  simp only [(totals_lookup sound balanced keyId now early).1]

/-- What is not counted leaves the totals alone. -/
theorem totals_of_recorder {after : Hosted Row} (balanced : state.engine.recorder.totals.Balanced)
    (same : after.engine.recorder = state.engine.recorder) :
    after.engine.recorder.totals = state.engine.recorder.totals.plus .zero ∧
      after.engine.recorder.totals.Balanced := by
  rw [same, Statistics.plus_zero]
  exact ⟨rfl, balanced⟩

/-- A request adds what it counts for. -/
theorem totals_perform (sound : state.engine.Sound held)
    (balanced : state.engine.recorder.totals.Balanced) (request : Request Row)
    (fits : (state.engine.recorder.totals.plus (state.counts request)).Fits) :
    (state.perform request).state.engine.recorder.totals =
        state.engine.recorder.totals.plus (state.counts request) ∧
      (state.perform request).state.engine.recorder.totals.Balanced := by
  rw [perform_state]
  cases request with
  | put keyId rows =>
      have totals := (totals_put keyId rows fits).2
      simp only [totals]
      exact ⟨rfl, balanced.plus rfl⟩
  | get keyId now =>
      have counted := counts_lookup sound balanced fits
      have totals := (totals_lookup sound balanced keyId now counted.1).2
      simp only [totals]
      rw [← counted.2]
      exact ⟨rfl, by rw [counted.2]; exact balanced.plus (Statistics.balanced_oneAccess _)⟩
  | lookup keyId now =>
      have counted := counts_lookup sound balanced fits
      have totals := (totals_lookup sound balanced keyId now counted.1).2
      simp only [totals, counted.2]
      exact ⟨trivial, balanced.plus (Statistics.balanced_oneAccess _)⟩
  | clear keyId isPersisted => cases isPersisted <;> exact totals_of_recorder balanced rfl
  | statistics =>
      simp only [recorder_withRecorder, Recorder.snapshot_eq fits, Reply.ok]
      exact ⟨rfl, balanced⟩
  | _ => exact totals_of_recorder balanced rfl

/-- A pass adds what it counts for. -/
theorem totals_reclaim {engine : Engine Row} (sound : engine.Sound held) (pressure : Pressure) :
    (engine.reclaim pressure).state.recorder.totals =
      engine.recorder.totals.plus ((Cache.running engine).counts pressure) := by
  have posted := Recorder.totals_post engine.recorder
    (engine.store.memory.reclaim pressure).clearances
  refine posted.trans (congrArg _ ?_)
  have reported := Memory.report_reclaim engine.store.memory pressure
  have rows := (Memory.Backs.rows_clearances sound.store pressure).sum_nat
  rw [Statistics.ofClearances, ← reported.1, ← reported.2, rows]
  rfl

end Hosted

namespace Turn

variable {number : Nat} {host next : Host} {engine after : Engine Row} {held others : Multiset Nat}
  {act : Act Row}

/-- A turn of an engine that goes on adds what the act counts for. -/
theorem totals
    (turn : Turn number host (.running engine) held act next (.running after) others)
    (sound : engine.Sound held) (balanced : engine.recorder.totals.Balanced)
    (fits : (engine.recorder.totals.plus (act.counts number ⟨engine, host⟩)).Fits) :
    after.recorder.totals = engine.recorder.totals.plus (act.counts number ⟨engine, host⟩) ∧
      after.recorder.totals.Balanced := by
  cases turn with
  | @asked state held request admitted =>
      have counted : (Act.ask number request).counts number state = state.counts request :=
        if_pos ⟨rfl, admitted⟩
      rw [counted] at fits ⊢
      exact Hosted.totals_perform sound balanced request fits
  | @reclaimed host cache held pressure =>
      have counted : (Act.reclaim number pressure : Act Row).counts number ⟨engine, host⟩ =
          (Cache.running engine).counts pressure := if_pos rfl
      rw [counted]
      have totals := Hosted.totals_reclaim sound pressure
      refine ⟨totals, ?_⟩
      show (engine.reclaim pressure).state.recorder.totals.Balanced
      rw [totals]
      exact balanced.plus rfl
  | pruned counting =>
      rcases counting with rfl | rfl <;> exact ⟨rfl, balanced⟩
  | shared => exact ⟨rfl, balanced⟩
  | dropped => exact ⟨rfl, balanced⟩
  | spared unreached =>
      have counted : act.counts number ⟨engine, host⟩ = .zero := by
        cases act with
        | ask other request => exact if_neg unreached
        | reclaim other pressure => exact if_neg unreached
        | _ => rfl
      rw [counted]
      exact ⟨rfl, balanced⟩

end Turn

/-! ## Runs -/

namespace System

/-- What an act counts for, for the engine with a number if it is running. -/
def counts (system : System Row) (number : Nat) (act : Act Row) : Statistics :=
  match system.serving? number with
  | none => .zero
  | some state => act.counts number state

/-- What some acts count for together. -/
def tallyFrom (system : System Row) (number : Nat) : List (Act Row) → Statistics
  | [] => .zero
  | act :: rest => (system.counts number act).plus ((system.step act).state.tallyFrom number rest)

/-- What a run counts for, for the engine with a number. -/
def tally (number : Nat) (acts : List (Act Row)) : Statistics :=
  (empty : System Row).tallyFrom number acts

theorem tallyFrom_append (system : System Row) (number : Nat) (first second : List (Act Row)) :
    system.tallyFrom number (first ++ second) =
      (system.tallyFrom number first).plus
        ((finalState step system first).tallyFrom number second) := by
  induction first generalizing system with
  | nil => exact (Statistics.zero_plus _).symm
  | cons act rest ih =>
      rw [List.cons_append, tallyFrom, tallyFrom, ih, finalState, Statistics.plus_assoc]

theorem tally_append (number : Nat) (first second : List (Act Row)) :
    tally number (first ++ second) =
      (tally number first).plus ((after first).tallyFrom number second) :=
  tallyFrom_append empty number first second

theorem tally_concat (number : Nat) (acts : List (Act Row)) (act : Act Row) :
    tally number (acts ++ [act]) = (tally number acts).plus ((after acts).counts number act) :=
  tally_append number acts [act]

variable {number : Nat} {acts : List (Act Row)}

theorem counts_of_absent {system : System Row} {act : Act Row}
    (absent : system.caches[number]? = none) : system.counts number act = .zero := by
  rw [counts, serving?, absent]

/-- Nothing counts for an engine that is not there yet. -/
theorem tally_of_absent (absent : (after acts).caches[number]? = none) :
    tally number acts = .zero := by
  induction acts using List.reverseRecOn with
  | nil => rfl
  | append_singleton acts act ih =>
      rw [after_concat] at absent
      rcases before : (after acts).caches[number]? with _ | cache
      · rw [tally_concat, ih before, counts_of_absent before, Statistics.plus_zero]
      · obtain ⟨found, here, -⟩ := turn_of_step before act
        rw [absent] at here
        cases here

theorem counts_of_running {engine : Engine Row}
    (running : (after acts).caches[number]? = some (.running engine)) (act : Act Row) :
    (after acts).counts number act = act.counts number ⟨engine, (after acts).host⟩ := by
  have serving : (after acts).serving? number = some ⟨engine, (after acts).host⟩ :=
    serving?_eq_some_iff.2 ⟨running, rfl⟩
  rw [counts, serving]

/-- Nothing counts for an engine that was built just now. -/
theorem tally_build (absent : (after acts).caches[number]? = none) (config : Config) :
    tally number (acts ++ [.build config]) = .zero := by
  rw [tally_concat, tally_of_absent absent, counts_of_absent absent, Statistics.plus_zero]

/-- The totals of the recorder of an engine are the tally of the run, unless they were to leave the
range of words. Counters that fit after an act fitted before it. -/
theorem totals_after {engine : Engine Row}
    (running : (after acts).caches[number]? = some (.running engine))
    (fits : (tally number acts).Fits) :
    engine.recorder.totals = tally number acts ∧ engine.recorder.totals.Balanced := by
  refine running_induction (motive := fun acts engine => (tally number acts).Fits →
    engine.recorder.totals = tally number acts ∧ engine.recorder.totals.Balanced)
    ?_ ?_ running fits
  · intro acts config absent fits
    rw [tally_build absent]
    exact ⟨rfl, rfl⟩
  · intro acts act earlier later before sound turn ih fits
    rw [tally_concat, counts_of_running before] at fits ⊢
    obtain ⟨totals, balanced⟩ := ih fits.of_plus
    rw [← totals] at fits ⊢
    exact turn.totals sound balanced fits

end System

end TableCache
