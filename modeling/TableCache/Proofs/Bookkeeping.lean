import TableCache.Proofs.System.Answers

/-!
# Statistics tell what happened

The statistics of an engine are the tally of the run, at any moment they are asked for and however
often the notices of cleared tables were drained before. The tables that passes were tallied for are
all different: a table that a pass cleared is not shown by any key from then on, and only tables
that are shown can be cleared.

Main statements:

1. `gone_of_cleared`: what was cleared is never shown again;
2. `tablesReclaimed_tally`: the reports of the passes count the tables that were cleared;
3. `statistics_tell_the_run`: what an engine answers when it is asked for its statistics.
-/

namespace TableCache

open Memory

universe u

variable {Row : Type u}

/-! ## What an act clears -/

namespace Act

variable {number : Nat} {engine : Engine Row} {held : Multiset Nat}

theorem nodup_cleared (sound : engine.Sound held) (act : Act Row) :
    (act.cleared number engine).Nodup := by
  unfold cleared
  split
  next other pressure =>
    split
    next => exact sound.store.nodup_cleared pressure
    next => exact List.nodup_nil
  next => exact List.nodup_nil

theorem shown_of_cleared (sound : engine.Sound held) {act : Act Row} {table : Nat}
    (gone : table ∈ act.cleared number engine) :
    ∃ keyId shown, engine.store.shown? keyId = some shown ∧ shown.table = table := by
  unfold cleared at gone
  split at gone
  next other pressure =>
    split at gone
    next => exact sound.store.shown_of_cleared gone
    next => cases gone
  next => cases gone

/-- The tables that an act counts as reclaimed are those that it clears. -/
theorem length_cleared (sound : engine.Sound held) (act : Act Row) (host : Host) :
    (act.counts number ⟨engine, host⟩).tablesReclaimed = (act.cleared number engine).length := by
  cases act with
  | ask other request =>
      rw [counts]
      split
      next =>
        cases request with
        | get keyId now | lookup keyId now =>
            unfold Hosted.counts
            simp only
            split <;> rfl
        | _ => rfl
      next => rfl
  | reclaim other pressure =>
      by_cases reached : other = number
      · have counted : (Act.reclaim other pressure).counts number ⟨engine, host⟩ =
            (Cache.running engine).counts pressure := if_pos reached
        have tables : (Act.reclaim other pressure : Act Row).cleared number engine =
            engine.store.cleared pressure := if_pos reached
        have reported := (report_reclaim engine.store.memory pressure).1
        have notices := (Backs.rows_clearances sound.store pressure).length_eq
        rw [List.length_map, List.length_map] at notices
        rw [counted, tables]
        exact reported.trans notices
      · have counted : (Act.reclaim other pressure).counts number ⟨engine, host⟩ = .zero :=
          if_neg reached
        have tables : (Act.reclaim other pressure : Act Row).cleared number engine = [] :=
          if_neg reached
        rw [counted, tables]
        rfl
  | _ => rfl

end Act

/-! ## What was cleared is gone -/

namespace Turn

variable {number : Nat} {host next : Host} {engine after : Engine Row} {held others : Multiset Nat}
  {act : Act Row} {table : Nat}

/-- No key shows a table that was cleared just now. -/
theorem ne_of_cleared
    (turn : Turn number host (.running engine) held act next (.running after) others)
    (sound : engine.Sound held) (gone : table ∈ act.cleared number engine) {keyId : Nat}
    {shown : Shown} (there : after.store.shown? keyId = some shown) : shown.table ≠ table := by
  cases turn with
  | asked => cases gone
  | @reclaimed host cache held pressure =>
      rw [Act.cleared, if_pos rfl] at gone
      have left := (Hosted.shown?_reclaim sound pressure keyId).symm.trans there
      have spared := of_decide_eq_true (Option.filter_eq_some_iff.1 left).2
      rintro rfl
      exact spared gone
  | pruned counting => rcases counting with rfl | rfl <;> cases gone
  | shared => cases gone
  | dropped => cases gone
  | spared unreached =>
      cases act with
      | reclaim other pressure =>
          have elsewhere : other ≠ number := unreached
          rw [Act.cleared, if_neg elsewhere] at gone
          cases gone
      | _ => cases gone

end Turn

namespace System

variable {number : Nat} {acts : List (Act Row)} {engine : Engine Row}

theorem cleared_of_absent {system : System Row} (absent : system.caches[number]? = none)
    (act : Act Row) : system.cleared number act = [] := by
  cases act with
  | reclaim other pressure =>
      rw [cleared, absent]
      exact ite_self _
  | _ => rfl

/-- Nothing is cleared of an engine that is not there yet. -/
theorem clearedBy_of_absent (absent : (after acts).caches[number]? = none) :
    (empty : System Row).clearedBy number acts = [] := by
  induction acts using List.reverseRecOn with
  | nil => rfl
  | append_singleton acts act ih =>
      rw [after_concat] at absent
      rcases before : (after acts).caches[number]? with _ | cache
      · rw [clearedBy_append, ih before, List.nil_append, clearedBy, clearedBy, List.append_nil]
        exact cleared_of_absent before act
      · obtain ⟨found, here, -⟩ := turn_of_step before act
        rw [absent] at here
        cases here

theorem clearedBy_build (absent : (after acts).caches[number]? = none) (config : Config) :
    (empty : System Row).clearedBy number (acts ++ [.build config]) = [] := by
  rw [clearedBy_append, clearedBy_of_absent absent]
  rfl

theorem clearedBy_concat (running : (after acts).caches[number]? = some (.running engine))
    (act : Act Row) :
    (empty : System Row).clearedBy number (acts ++ [act]) =
      (empty : System Row).clearedBy number acts ++ act.cleared number engine := by
  rw [clearedBy_append, clearedBy, clearedBy, List.append_nil]
  exact congrArg _ (cleared_of_running running act)

/-- A table that was given out and that no key shows. -/
def Gone (engine : Engine Row) (table : Nat) : Prop :=
  table < engine.store.memory.tables.next ∧
    ∀ keyId shown, engine.store.shown? keyId = some shown → shown.table ≠ table

/-- The tables that passes cleared are all different, and no key shows one of them: a put shows a
table with a new number, and nothing else makes a key show another table. -/
theorem gone_of_cleared (running : (after acts).caches[number]? = some (.running engine)) :
    ((empty : System Row).clearedBy number acts).Nodup ∧
      ∀ table ∈ (empty : System Row).clearedBy number acts, Gone engine table := by
  refine running_induction (motive := fun acts engine =>
    ((empty : System Row).clearedBy number acts).Nodup ∧
      ∀ table ∈ (empty : System Row).clearedBy number acts, Gone engine table) ?_ ?_ running
  · intro acts config absent
    rw [clearedBy_build absent]
    exact ⟨List.nodup_nil, fun _ member => absurd member List.not_mem_nil⟩
  · rintro acts act earlier later before sound turn ⟨distinct, gone⟩
    have next_le := (turn.memory_later sound).next_le
    rw [clearedBy_concat before]
    constructor
    · refine distinct.append (act.nodup_cleared sound) fun table old new => ?_
      obtain ⟨keyId, shown, there, same⟩ := Act.shown_of_cleared sound new
      exact (gone table old).2 keyId shown there same
    · intro table member
      rcases List.mem_append.1 member with old | new
      · obtain ⟨known, hidden⟩ := gone table old
        refine ⟨known.trans_le next_le, fun keyId shown there => ?_⟩
        rcases turn.put_or_shown sound there with ⟨rows, -, -, fresh⟩ | ⟨first, showed, same⟩
        · exact (known.trans_le fresh).ne'
        · rw [← same]
          exact hidden keyId first showed
      · refine ⟨?_, fun keyId shown there => turn.ne_of_cleared sound new there⟩
        obtain ⟨keyId, shown, there, rfl⟩ := Act.shown_of_cleared sound new
        exact (sound.store.lt_next_of_shown there).trans_le next_le

/-- The reports of the passes over an engine count the tables that were cleared. -/
theorem tablesReclaimed_tally (running : (after acts).caches[number]? = some (.running engine)) :
    (tally number acts).tablesReclaimed =
      ((empty : System Row).clearedBy number acts).length := by
  refine running_induction (motive := fun acts _ => (tally number acts).tablesReclaimed =
    ((empty : System Row).clearedBy number acts).length) ?_ ?_ running
  · intro acts config absent
    rw [tally_build absent, clearedBy_build absent]
    rfl
  · intro acts act earlier later before sound turn ih
    rw [tally_concat, counts_of_running before, clearedBy_concat before, List.length_append, ← ih,
      ← act.length_cleared sound (after acts).host]
    rfl

/-! ## What an engine answers -/

/-- An engine that is asked for its statistics answers with the tally of the run, as long as it fits
into words. In the tally every look-up is in one class, and the passes are counted with each table
that they cleared once. -/
theorem statistics_tell_the_run {state : Hosted Row}
    (serving : (after acts).serving? number = some state) (fits : (tally number acts).Fits) :
    ((after acts).step (.ask number .statistics)).result =
        .ok (.statistics (tally number acts)) ∧
      (tally number acts).accesses =
        (tally number acts).hardHits + (tally number acts).softHits +
          (tally number acts).weakHits + (tally number acts).misses ∧
      (tally number acts).tablesReclaimed =
        ((empty : System Row).clearedBy number acts).length ∧
      ((empty : System Row).clearedBy number acts).Nodup := by
  have running := (serving?_eq_some_iff.1 serving).1
  obtain ⟨totals, balanced⟩ := totals_after running fits
  refine ⟨?_, ?_, tablesReclaimed_tally running, (gone_of_cleared running).1⟩
  · have words := fits
    rw [← totals] at words
    rw [result_ask serving rfl]
    show state.statistics.result.map Response.statistics = _
    rw [Hosted.statistics_result, Recorder.snapshot_eq words, totals]
    rfl
  · rw [totals] at balanced
    exact balanced

/-- Two puts, two look-ups, and a pass over a table that was given up. -/
def busy : List (Act Nat) :=
  [.createKey "a", .createKey "b", .build ⟨1, 300⟩, .ask 0 (.put 1 [7, 8]), .ask 0 (.put 2 [9]),
    .ask 0 (.clear 1 true), .dropHold ⟨0, 0⟩, .reclaim 0 .weakOnly, .ask 0 (.get 1 5),
    .ask 0 (.lookup 2 6)]

theorem statistics_tell_the_run_busy :
    ((after busy).step (.ask 0 .statistics)).result =
        .ok (.statistics (tally 0 busy)) ∧
      tally 0 busy = ⟨2, 1, 0, 2, 2, 1, 0, 0, 1⟩ ∧
      ((empty : System Nat).clearedBy 0 busy).Nodup := by
  have serving : (after busy).serving? 0 = some _ := rfl
  obtain ⟨answer, -, -, once⟩ := statistics_tell_the_run serving (by decide)
  exact ⟨answer, rfl, once⟩

end System

end TableCache
