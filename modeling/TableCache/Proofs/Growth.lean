import TableCache.Proofs.System.Locks
import TableCache.Proofs.System.Tally

/-!
# Counters never go back

Whatever a recorder is told, none of its counters gets less, and each stays a word. That is so also
of an operation that stops with a fault in the middle of its counting. So the snapshots that an
engine answers with, one after the other, only grow.

Main statements:

1. `Recorder.grows_drain`, `grows_recordPut`, `grows_recordAccess`: every operation of a recorder;
2. `Recorder.drain_of_ok`: a drain that succeeds brings the counters to the totals;
3. `System.snapshots_grow`: the snapshots along a run.
-/

namespace TableCache

universe u

variable {Row : Type u}

namespace Statistics

/-- Every counter is at most as great. -/
def Le (first second : Statistics) : Prop :=
  List.Forall₂ (fun one other => one ≤ other) first.toList second.toList

instance (first second : Statistics) : Decidable (first.Le second) :=
  inferInstanceAs (Decidable (List.Forall₂ _ _ _))

theorem le_iff {first second : Statistics} :
    first.Le second ↔
      first.tablesCached ≤ second.tablesCached ∧ first.tablesReclaimed ≤ second.tablesReclaimed ∧
      first.recentReclaimed ≤ second.recentReclaimed ∧
      first.rowsReclaimed ≤ second.rowsReclaimed ∧ first.accesses ≤ second.accesses ∧
      first.hardHits ≤ second.hardHits ∧ first.softHits ≤ second.softHits ∧
      first.weakHits ≤ second.weakHits ∧ first.misses ≤ second.misses := by
  simp [Le, toList]

theorem Le.refl (statistics : Statistics) : statistics.Le statistics := by
  simp [le_iff]

theorem Le.trans {first second third : Statistics} (one : first.Le second)
    (other : second.Le third) : first.Le third := by
  rw [le_iff] at *
  omega

theorem fits_zero : zero.Fits := by decide

/-- No counter got less, and counters that were words still are. -/
structure Grows (before after : Statistics) : Prop where
  le : before.Le after
  fits : before.Fits → after.Fits

theorem Grows.refl (statistics : Statistics) : statistics.Grows statistics := ⟨.refl _, id⟩

theorem Grows.trans {first second third : Statistics} (one : first.Grows second)
    (other : second.Grows third) : first.Grows third :=
  ⟨one.le.trans other.le, fun fits => other.fits (one.fits fits)⟩

end Statistics

namespace Recorder

open Statistics

/-! ## Operations of a recorder -/

theorem grows_countRows (counters : Statistics) (clearance : Clearance) :
    counters.Grows (countRows counters clearance).2 := by
  unfold countRows
  split
  next => exact .refl counters
  next rows sum =>
    have added := Word.add?_eq_some_iff.1 sum
    have rowed : counters.Grows { counters with rowsReclaimed := rows } :=
      ⟨by rw [le_iff]; simp; omega, fun fits => by rw [fits_iff] at *; simp_all⟩
    split
    next =>
      simp only
      split
      next => exact rowed
      next recent sum =>
        have added := Word.add?_eq_some_iff.1 sum
        refine rowed.trans ⟨by rw [le_iff]; simp at *; omega, fun fits => ?_⟩
        rw [fits_iff] at *
        simp_all
    next => exact rowed

theorem grows_countAll (clearances : List Clearance) (counters : Statistics) :
    counters.Grows (countAll clearances counters).2.1 := by
  induction clearances generalizing counters with
  | nil => exact .refl counters
  | cons clearance rest ih =>
      have first := grows_countRows counters clearance
      rw [countAll]
      split
      next fault next counted =>
        rw [counted] at first
        exact first
      next next counted =>
        rw [counted] at first
        exact first.trans (ih next)

theorem grows_drain (recorder : Recorder) :
    recorder.counters.Grows recorder.drain.state.counters := by
  have counted := grows_countAll recorder.pending recorder.counters
  unfold drain
  simp only
  split
  next => exact counted
  next drained _ =>
    split
    next => exact counted
    next reclaimed sum =>
      have added := Word.add?_eq_some_iff.1 sum
      refine counted.trans ⟨?_, fun fits => ?_⟩
      · rw [le_iff]
        simp only [Reply.ok] at *
        omega
      · rw [fits_iff] at *
        simp_all [Reply.ok]

theorem grows_recordPut (recorder : Recorder) :
    recorder.counters.Grows recorder.recordPut.state.counters := by
  unfold recordPut
  split
  next => exact .refl _
  next tables sum =>
    have added := Word.add?_eq_some_iff.1 sum
    refine ⟨?_, fun fits => ?_⟩
    · rw [le_iff]
      simp only [Reply.ok]
      omega
    · rw [fits_iff] at *
      simp_all [Reply.ok]

theorem grows_countAccess (counters : Statistics) (access : Access) :
    counters.Grows (countAccess counters access).2 := by
  unfold countAccess
  split
  next => exact .refl counters
  next accesses sum =>
    have added := Word.add?_eq_some_iff.1 sum
    have looked : counters.Grows { counters with accesses := accesses } :=
      ⟨by rw [le_iff]; simp; omega, fun fits => by rw [fits_iff] at *; simp_all⟩
    simp only
    split
    next => exact looked
    next count classed =>
      have added := Word.add?_eq_some_iff.1 classed
      refine looked.trans ?_
      cases access <;> simp only [Statistics.count] at added <;>
        exact ⟨by rw [le_iff]; simp; omega, fun fits => by rw [fits_iff] at *; simp_all⟩

theorem emit?_state (recorder : Recorder) (now : Nat) :
    (recorder.emit? now).state.counters = recorder.counters ∧
      (recorder.emit? now).state.pending = recorder.pending := by
  unfold emit?
  split
  next => exact ⟨rfl, rfl⟩
  next =>
    simp only
    split <;> exact ⟨rfl, rfl⟩

theorem grows_snapshot (recorder : Recorder) :
    recorder.counters.Grows recorder.snapshot.state.counters := by
  have drained := grows_drain recorder
  unfold snapshot Reply.andThen
  split <;> exact drained

theorem grows_recordAccess (recorder : Recorder) (access : Access) (now : Nat) :
    recorder.counters.Grows (recorder.recordAccess access now).state.counters := by
  have counted := grows_countAccess recorder.counters access
  unfold recordAccess
  split
  next fault counters same =>
    rw [same] at counted
    exact counted
  next result counters same =>
    rw [same] at counted
    refine counted.trans ?_
    have drained := grows_drain { recorder with counters := counters }
    unfold Reply.andThen
    split
    next =>
      show Statistics.Grows _ (emit? _ now).state.counters
      rw [(emit?_state _ now).1]
      exact drained
    next => exact drained

/-! ## Drains that succeed -/

theorem countRows_of_ok {counters after : Statistics} {clearance : Clearance}
    (counted : countRows counters clearance = (.ok (), after)) :
    after = { counters with
      recentReclaimed := counters.recentReclaimed + if clearance.recentlyUsed then 1 else 0
      rowsReclaimed := counters.rowsReclaimed + clearance.rows } := by
  unfold countRows at counted
  split at counted
  next => cases counted
  next rows sum =>
    obtain ⟨rfl, -⟩ := Word.add?_eq_some_iff.1 sum
    split at counted
    next recent =>
      simp only at counted
      split at counted
      next => cases counted
      next count sum =>
        obtain ⟨rfl, -⟩ := Word.add?_eq_some_iff.1 sum
        cases counted
        simp [recent]
    next other =>
      cases counted
      simp [other]

theorem countAll_of_ok {clearances : List Clearance} {counters : Statistics} {drained : Nat}
    (counted : (countAll clearances counters).1 = .ok drained) :
    countAll clearances counters =
      (.ok clearances.length,
        { counters with
          recentReclaimed := counters.recentReclaimed + clearances.countP Clearance.recentlyUsed
          rowsReclaimed := counters.rowsReclaimed + (clearances.map Clearance.rows).sum },
        []) := by
  induction clearances generalizing counters drained with
  | nil => rfl
  | cons clearance rest ih =>
      rw [countAll] at counted ⊢
      split
      next fault next stopped => simp [stopped] at counted
      next next done =>
        simp only [done] at counted
        cases later : (countAll rest next).1 with
        | error fault => simp [later, Except.map] at counted
        | ok many =>
            rw [ih later, countRows_of_ok done]
            simp [Except.map, List.countP_cons]
            omega

/-- A drain that succeeds empties the queue and brings the counters to the totals. -/
theorem drain_of_ok {recorder : Recorder} {drained : Nat}
    (done : recorder.drain.result = .ok drained) :
    recorder.drain.state = { recorder with counters := recorder.totals, pending := [] } := by
  unfold drain at done ⊢
  cases counted : (countAll recorder.pending recorder.counters).1 with
  | error fault => simp [counted, Reply.stop] at done
  | ok many =>
      have all := countAll_of_ok counted
      simp only [all] at done ⊢
      split
      next none =>
        rw [none] at done
        cases done
      next reclaimed sum =>
        obtain ⟨rfl, -⟩ := Word.add?_eq_some_iff.1 sum
        simp [Reply.ok, totals, plus, ofClearances, Statistics.zero]

theorem counters_snapshot {recorder : Recorder} {shown : Statistics}
    (taken : recorder.snapshot.result = .ok shown) :
    recorder.snapshot.state.counters = shown := by
  unfold snapshot Reply.andThen at taken ⊢
  cases done : recorder.drain.result with
  | error fault => simp [done] at taken
  | ok drained =>
      simp only [done] at taken ⊢
      exact Except.ok.inj taken

end Recorder

/-! ## Engines -/

namespace Hosted

variable {state : Hosted Row} {held : Multiset Nat}

/-- No request takes anything back that an engine counted. -/
theorem grows_perform (sound : state.engine.Sound held) (request : Request Row) :
    state.engine.recorder.counters.Grows
      (state.perform request).state.engine.recorder.counters := by
  rw [perform_state]
  cases request with
  | put keyId rows =>
      simp only [recorder_put]
      exact Recorder.grows_recordPut _
  | get keyId now | lookup keyId now =>
      simp only [recorder_lookup sound]
      exact Recorder.grows_recordAccess _ _ now
  | clear keyId isPersisted => cases isPersisted <;> exact .refl _
  | statistics => exact Recorder.grows_snapshot _
  | _ => exact .refl _

end Hosted

theorem Turn.grows {number : Nat} {host next : Host} {engine later : Engine Row}
    {held others : Multiset Nat} {act : Act Row}
    (turn : Turn number host (.running engine) held act next (.running later) others)
    (sound : engine.Sound held) : engine.recorder.counters.Grows later.recorder.counters := by
  cases turn with
  | @asked state _ request admitted => exact Hosted.grows_perform sound request
  | _ => exact .refl _

namespace System

variable {number : Nat} {acts : List (Act Row)} {act : Act Row} {engine : Engine Row}

/-! ## Snapshots along a run -/

/-- The snapshot that an engine answers with. -/
def snapshot (number : Nat) (system : System Row) : Act Row → List Statistics
  | .ask other .statistics =>
      match decide (other = number), (system.step (.ask other .statistics)).result with
      | true, .ok (.statistics counters) => [counters]
      | _, _ => []
  | _ => []

/-- The snapshots that an engine answers with along a run, the first one first. -/
def snapshots (number : Nat) (acts : List (Act Row)) : List Statistics :=
  gather (snapshot number) empty acts

theorem snapshots_concat (number : Nat) (acts : List (Act Row)) (act : Act Row) :
    snapshots number (acts ++ [act]) = snapshots number acts ++ snapshot number (after acts) act :=
  gather_concat _ empty acts act

/-- A snapshot shows the counters that the engine has from then on. -/
theorem snapshot_eq {system : System Row} (number : Nat) (act : Act Row) :
    system.snapshot number act = [] ∨
      ∃ earlier later, system.caches[number]? = some (.running earlier) ∧
        (system.step act).state.caches[number]? = some (.running later) ∧
        system.snapshot number act = [later.recorder.counters] := by
  unfold snapshot
  split
  next other =>
    split
    next counters same answered =>
      obtain rfl := of_decide_eq_true same
      refine .inr ?_
      rcases ask_cases system other .statistics with ⟨done, -⟩ | ⟨state, serving, admitted, done⟩
      · rw [done] at answered
        cases answered
      · obtain ⟨running, -⟩ := serving?_eq_some_iff.1 serving
        have result := result_ask serving admitted
        refine ⟨_, _, running, (running_ask serving admitted).1, ?_⟩
        rw [result, Hosted.perform, Hosted.result_map, Hosted.statistics_result] at answered
        cases taken : state.engine.recorder.snapshot.result with
        | error fault => simp [taken, Except.map] at answered
        | ok shown =>
            simp only [taken, Except.map, Except.ok.injEq, Response.statistics.injEq] at answered
            rw [← answered, ← Recorder.counters_snapshot taken]
            rfl
    next => exact .inl rfl
  next => exact .inl rfl

theorem snapshots_of_absent (absent : (after acts).caches[number]? = none) :
    snapshots number acts = [] := by
  induction acts using List.reverseRecOn with
  | nil => rfl
  | append_singleton acts act ih =>
      rw [after_concat] at absent
      have before : (after acts).caches[number]? = none := by
        cases there : (after acts).caches[number]? with
        | none => rfl
        | some cache =>
            obtain ⟨later, here, -⟩ := turn_of_step there act
            rw [absent] at here
            cases here
      rw [snapshots_concat, ih before, List.nil_append]
      rcases snapshot_eq number act with nothing | ⟨earlier, -, running, -⟩
      · exact nothing
      · rw [before] at running
        cases running

/-- A running engine has counted at least what it answered before. -/
theorem le_of_mem_snapshots (running : (after acts).caches[number]? = some (.running engine)) :
    engine.recorder.counters.Fits ∧
      ∀ counters ∈ snapshots number acts, counters.Le engine.recorder.counters := by
  induction acts using List.reverseRecOn generalizing engine with
  | nil => cases running
  | append_singleton acts act ih =>
      rw [after_concat] at running
      have asked : ∀ counters ∈ (after acts).snapshot number act,
          counters = engine.recorder.counters := by
        intro counters member
        rcases snapshot_eq number act with nothing | ⟨-, later, -, here, only⟩
        · rw [nothing] at member
          cases member
        · rw [running] at here
          cases here
          rw [only] at member
          exact List.mem_singleton.1 member
      have new : ∀ counters ∈ (after acts).snapshot number act,
          counters.Le engine.recorder.counters := fun counters member =>
        asked counters member ▸ .refl _
      rw [snapshots_concat]
      rcases running_of_step (sound_after acts) running with
        ⟨earlier, before, turn⟩ | ⟨absent, config, -, rfl, -⟩
      · obtain ⟨fits, le⟩ := ih before
        have grows := turn.grows ((sound_after acts).caches number _ before)
        refine ⟨grows.fits fits, fun counters member => ?_⟩
        rcases List.mem_append.1 member with old | member
        · exact (le counters old).trans grows.le
        · exact new counters member
      · rw [snapshots_of_absent absent, List.nil_append]
        exact ⟨Statistics.fits_zero, new⟩

/-- The snapshots of an engine only grow, and their counters are words. -/
theorem snapshots_grow (number : Nat) (acts : List (Act Row)) :
    (snapshots number acts).Pairwise Statistics.Le ∧
      ∀ counters ∈ snapshots number acts, counters.Fits := by
  induction acts using List.reverseRecOn with
  | nil => exact ⟨.nil, by simp [snapshots, gather]⟩
  | append_singleton acts act ih =>
      obtain ⟨ordered, fit⟩ := ih
      rw [snapshots_concat]
      rcases snapshot_eq number act with nothing | ⟨earlier, later, running, here, only⟩
      · rw [nothing, List.append_nil]
        exact ⟨ordered, fit⟩
      · rw [← after_concat] at here
        obtain ⟨fits, le⟩ := le_of_mem_snapshots here
        have known : ∀ counters ∈ snapshots number acts,
            counters.Le later.recorder.counters := fun counters member =>
          le counters (by rw [snapshots_concat]; exact List.mem_append_left _ member)
        rw [only]
        refine ⟨List.pairwise_append.2 ⟨ordered, List.pairwise_singleton _ _, ?_⟩, ?_⟩
        · simpa using known
        · simp only [List.mem_append, List.mem_singleton]
          rintro counters (old | rfl)
          · exact fit counters old
          · exact fits

end System

end TableCache
