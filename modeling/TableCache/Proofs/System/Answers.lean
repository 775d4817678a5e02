import TableCache.Proofs.System.Tally
import TableCache.Proofs.System.View

/-!
# What a running engine answers about a key

An owner of a key is told what the key shows. Only a look-up counts for something, and so only a
look-up needs room in the counters: it is answered as long as the tally of the run, this look-up
included, fits into words.

Main statements:

1. `contains_answer`, `tier_answer`, `peek_answer`, `lookup_answer`: what an owner is told;
2. `serving_of_answer`: an answer other than a refusal was given by an engine that is running;
3. `put_of_result`: what is there after a put that was answered with a table.
-/

namespace TableCache.System

universe u

variable {Row : Type u} {system : System Row} {state : Hosted Row} {number keyId : Nat}

/-! ## Questions that are not counted -/

theorem contains_answer (sound : system.Sound) (serving : system.serving? number = some state)
    (owned : state.host.keys.isOwned keyId = true) :
    (system.step (.ask number (.contains keyId))).result =
      .ok (.flag (state.engine.store.shown? keyId).isSome) := by
  have running := (serving?_eq_some_iff.1 serving).1
  have purged := Hosted.shown?_purged_of_isOwned (sound.caches number _ running) owned
  have admitted : (Request.contains keyId : Request Row).isAdmitted state.host.keys = true := owned
  rw [result_ask serving admitted, Hosted.perform, Hosted.result_map, Hosted.contains_result,
    purged]
  rfl

theorem tier_answer (sound : system.Sound) (serving : system.serving? number = some state)
    (owned : state.host.keys.isOwned keyId = true) :
    ∃ isRecent, (system.step (.ask number (.tier keyId))).result =
      .ok (.tier (((state.engine.store.shown? keyId).map (Shown.tier isRecent)).getD .absent)) := by
  have running := (serving?_eq_some_iff.1 serving).1
  have purged := Hosted.shown?_purged_of_isOwned (sound.caches number _ running) owned
  refine ⟨state.purged.engine.store.isRecent keyId, ?_⟩
  have admitted : (Request.tier keyId : Request Row).isAdmitted state.host.keys = true := owned
  rw [result_ask serving admitted, Hosted.perform, Hosted.result_map, Hosted.tier_result, purged]
  rfl

theorem peek_answer (sound : system.Sound) (serving : system.serving? number = some state)
    (owned : state.host.keys.isOwned keyId = true) :
    (system.step (.ask number (.peek keyId))).result =
      .ok (.table ((state.engine.store.shown? keyId).map Shown.table)) := by
  have running := (serving?_eq_some_iff.1 serving).1
  have purged := Hosted.shown?_purged_of_isOwned (sound.caches number _ running) owned
  have admitted : (Request.peek keyId : Request Row).isAdmitted state.host.keys = true := owned
  rw [result_ask serving admitted, Hosted.perform, Hosted.result_map, Hosted.peek_result, purged]
  rfl

/-! ## Look-ups -/

variable {acts : List (Act Row)}

/-- A look-up is answered as long as there is room for it in the counters. -/
theorem found_of_fits {now : Nat} (serving : (after acts).serving? number = some state)
    (owned : state.host.keys.isOwned keyId = true)
    (fits : (tally number (acts ++ [.ask number (.lookup keyId now)])).Fits) :
    (state.lookup keyId now).result = .ok (state.found keyId) := by
  obtain ⟨running, host⟩ := serving?_eq_some_iff.1 serving
  have sound := engine_sound_after running
  have counted : (after acts).counts number (.ask number (.lookup keyId now)) =
      state.counts (.lookup keyId now) := by
    rw [counts, serving]
    exact if_pos ⟨rfl, owned⟩
  rw [tally_concat, counted] at fits
  obtain ⟨totals, balanced⟩ := totals_after running fits.of_plus
  rw [← totals] at fits
  have early := (Hosted.counts_lookup sound balanced fits).1
  exact (Hosted.totals_lookup sound balanced keyId now early).1

/-- A look-up finds what is shown, as long as there is room for it in the counters. -/
theorem lookup_result {now : Nat} (serving : (after acts).serving? number = some state)
    (owned : state.host.keys.isOwned keyId = true)
    (fits : (tally number (acts ++ [.ask number (.lookup keyId now)])).Fits) :
    ∃ isRecent, (state.lookup keyId now).result =
      .ok (Hosted.finding isRecent (state.engine.store.shown? keyId)) := by
  obtain ⟨running, -⟩ := serving?_eq_some_iff.1 serving
  have sound := engine_sound_after running
  obtain ⟨isRecent, found⟩ := Hosted.found_eq sound owned
  exact ⟨isRecent, by rw [found_of_fits serving owned fits, found]⟩

theorem lookup_answer {now : Nat} (serving : (after acts).serving? number = some state)
    (owned : state.host.keys.isOwned keyId = true)
    (fits : (tally number (acts ++ [.ask number (.lookup keyId now)])).Fits) :
    ∃ isRecent, ((after acts).step (.ask number (.lookup keyId now))).result =
      .ok (.found (Hosted.finding isRecent (state.engine.store.shown? keyId))) := by
  obtain ⟨isRecent, result⟩ := lookup_result serving owned fits
  refine ⟨isRecent, ?_⟩
  have admitted : (Request.lookup keyId now : Request Row).isAdmitted state.host.keys = true :=
    owned
  rw [result_ask serving admitted, Hosted.perform, Hosted.result_map, result]
  rfl

theorem tally_get (acts : List (Act Row)) (number keyId now : Nat) :
    tally number (acts ++ [.ask number (.get keyId now)]) =
      tally number (acts ++ [.ask number (.lookup keyId now)]) := by
  rw [tally_concat, tally_concat]
  rfl

theorem get_answer {now : Nat} (serving : (after acts).serving? number = some state)
    (owned : state.host.keys.isOwned keyId = true)
    (fits : (tally number (acts ++ [.ask number (.get keyId now)])).Fits) :
    ((after acts).step (.ask number (.get keyId now))).result =
      .ok (.table ((state.engine.store.shown? keyId).map Shown.table)) := by
  rw [tally_get] at fits
  obtain ⟨isRecent, result⟩ := lookup_result serving owned fits
  have admitted : (Request.get keyId now : Request Row).isAdmitted state.host.keys = true :=
    owned
  rw [result_ask serving admitted, Hosted.perform, Hosted.result_map, result]
  cases state.engine.store.shown? keyId <;> rfl

/-! ## Answers that were given -/

/-- A request that was not refused was answered by an engine that is running. -/
theorem serving_of_answer {request : Request Row} {response : Response}
    (answer : (system.step (.ask number request)).result = .ok response)
    (taken : response ≠ .refused) :
    ∃ state, system.serving? number = some state ∧
      request.isAdmitted state.host.keys = true ∧
      (state.perform request).result = .ok response ∧
      (system.step (.ask number request)).state =
        (system.restore number (state.perform request)).state := by
  rcases ask_cases system number request with ⟨refused, -⟩ | ⟨state, serving, admitted, done⟩
  · rw [refused] at answer
    cases answer
    exact absurd rfl taken
  · rw [done] at answer ⊢
    exact ⟨state, serving, admitted, answer, rfl⟩

/-- A put that was answered with a table was taken by an engine that is running. -/
theorem serving_of_put {rows : List Row} {table : Nat}
    (put : (system.step (.ask number (.put keyId rows))).result = .ok (.table (some table))) :
    ∃ state, system.serving? number = some state ∧ state.host.keys.isOwned keyId = true ∧
      (state.put keyId rows).result = .ok table ∧
      (system.step (.ask number (.put keyId rows))).state =
        (system.restore number (state.perform (.put keyId rows))).state := by
  obtain ⟨state, serving, owned, performed, next⟩ := serving_of_answer put (by simp)
  refine ⟨state, serving, owned, ?_, next⟩
  rw [Hosted.perform, Hosted.result_map] at performed
  cases result : (state.put keyId rows).result with
  | error fault =>
      rw [result] at performed
      cases performed
  | ok other =>
      rw [result] at performed
      cases performed
      rfl

/-- A look-up that was answered was taken by an engine that is running. -/
theorem serving_of_found {now : Nat} {found : Found}
    (answer : (system.step (.ask number (.lookup keyId now))).result = .ok (.found found)) :
    ∃ state, system.serving? number = some state ∧ state.host.keys.isOwned keyId = true ∧
      (state.lookup keyId now).result = .ok found := by
  obtain ⟨state, serving, owned, performed, -⟩ := serving_of_answer answer (by simp)
  refine ⟨state, serving, owned, ?_⟩
  rw [Hosted.perform, Hosted.result_map] at performed
  cases result : (state.lookup keyId now).result with
  | error fault =>
      rw [result] at performed
      cases performed
  | ok other =>
      rw [result] at performed
      cases performed
      rfl

/-- A key that an engine said not to contain shows nothing. -/
theorem absent_of_contains (sound : system.Sound)
    (missing : (system.step (.ask number (.contains keyId))).result = .ok (.flag false)) :
    ∃ state, system.serving? number = some state ∧ state.engine.store.shown? keyId = none := by
  obtain ⟨state, serving, owned, -, -⟩ := serving_of_answer missing (by simp)
  have answer := contains_answer sound serving owned
  rw [missing] at answer
  refine ⟨state, serving, ?_⟩
  cases shown : state.engine.store.shown? keyId with
  | none => rfl
  | some shown =>
      rw [shown] at answer
      cases answer

/-- After a put that was answered with a table the key shows this table, pinned, with the rows that
were put. -/
theorem put_of_result (sound : system.Sound) {rows : List Row} {table : Nat}
    (put : (system.step (.ask number (.put keyId rows))).result = .ok (.table (some table))) :
    ∃ engine, (system.step (.ask number (.put keyId rows))).state.caches[number]? =
        some (.running engine) ∧
      engine.store.shown? keyId = some ⟨table, true⟩ ∧
      engine.store.memory.rows table = rows ∧
      table < engine.store.memory.tables.next ∧
      keyId < (system.step (.ask number (.put keyId rows))).state.host.keys.owned.next := by
  obtain ⟨state, serving, owned, returned, next⟩ := serving_of_put put
  obtain ⟨running, -⟩ := serving?_eq_some_iff.1 serving
  have before : state.engine.Sound _ := sound.caches number _ running
  obtain ⟨fresh, holds⟩ := Hosted.rows_put before keyId rows returned
  have after := Hosted.sound_put before keyId rows
  rw [returned] at after
  have follows := Hosted.follows_put state keyId rows
  rw [next]
  refine ⟨(state.put keyId rows).state.engine, ?_, ?_, holds, ?_, ?_⟩
  · exact (getElem?_setCache system running _ number).trans (if_pos rfl)
  · rw [Hosted.shown?_put before, if_pos rfl, fresh]
  · exact after.store.holding.lt_next_of_mem (by simp [Hosted.handed])
  · have known := Keys.lt_next_of_isOwned owned
    rw [← follows.next] at known
    exact known

end TableCache.System
