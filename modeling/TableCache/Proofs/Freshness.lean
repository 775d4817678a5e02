import TableCache.Proofs.System.Answers

/-!
# Reads are fresh, and what is gone stays gone

The history of a run decides what a read of a key finds: the table of the latest put, if the key was
not invalidated since and no pass cleared that table. `Current` says so of a table in terms of the
acts alone, and the entries, handles and counts of an engine say the same at every moment. A key
that shows nothing shows nothing until it is put again.

Main statements:

1. `Current.concat`: a table stays current through an act that keeps and spares it;
2. `current_of_shown`, `shown_of_current`: a key shows a table exactly if it is current;
3. `absent_finalState`: a key that shows nothing goes on to show nothing;
4. `reads_are_fresh`: what reads answer.
-/

namespace TableCache.System

universe u

variable {Row : Type u} {system : System Row} {number keyId table : Nat}

/-- Whether an act leaves the table of a key in place: it neither replaces nor invalidates it. -/
def KeepsTable (number keyId : Nat) (act : Act Row) : Prop :=
  (∀ rows, act ≠ .ask number (.put keyId rows)) ∧ act ≠ .ask number (.invalidate keyId)

/-- A table is what the latest put of a key in a run was answered with, the key was not invalidated
since, and no pass cleared the table. -/
def Current (number keyId table : Nat) (rows : List Row) (acts : List (Act Row)) : Prop :=
  ∃ front back, acts = front ++ .ask number (.put keyId rows) :: back ∧
    ((after front).step (.ask number (.put keyId rows))).result = .ok (.table (some table)) ∧
    (∀ act ∈ back, KeepsTable number keyId act) ∧
    table ∉ (after (front ++ [.ask number (.put keyId rows)])).clearedBy number back

theorem current_put {rows : List Row} {acts : List (Act Row)}
    (put : ((after acts).step (.ask number (.put keyId rows))).result = .ok (.table (some table))) :
    Current number keyId table rows (acts ++ [.ask number (.put keyId rows)]) :=
  ⟨acts, [], rfl, put, fun _ member => absurd member List.not_mem_nil, List.not_mem_nil⟩

/-- A current table stays current if an act keeps and does not clear it. -/
theorem Current.concat {rows : List Row} {acts : List (Act Row)} {act : Act Row}
    (current : Current number keyId table rows acts) (keeps : KeepsTable number keyId act)
    (spared : table ∉ (after acts).cleared number act) :
    Current number keyId table rows (acts ++ [act]) := by
  obtain ⟨front, back, rfl, put, kept, unharmed⟩ := current
  refine ⟨front, back ++ [act], ?_, put, ?_, ?_⟩
  · rw [List.append_assoc, List.cons_append]
  · exact List.forall_mem_append.2 ⟨kept, List.forall_mem_singleton.2 keeps⟩
  · rw [clearedBy_append, List.mem_append, not_or]
    refine ⟨unharmed, ?_⟩
    rw [← after_append, List.append_assoc, List.singleton_append, clearedBy, clearedBy,
      List.append_nil]
    exact spared

/-! ## What is shown is current -/

/-- An engine that is asked for a key with an owner answers with the table that the key shows, as
long as there is room in the counters. -/
theorem put_answer {acts : List (Act Row)} {rows : List Row} {state : Hosted Row}
    (serving : (after acts).serving? number = some state)
    (owned : state.host.keys.isOwned keyId = true)
    (fits : (tally number (acts ++ [.ask number (.put keyId rows)])).Fits) :
    ((after acts).step (.ask number (.put keyId rows))).result =
      .ok (.table (some state.purged.fresh)) := by
  obtain ⟨running, host⟩ := serving?_eq_some_iff.1 serving
  have admitted : (Request.put keyId rows).isAdmitted state.host.keys = true := owned
  have counted : (after acts).counts number (.ask number (.put keyId rows)) = .onePut := by
    rw [counts, serving]
    exact if_pos ⟨rfl, owned⟩
  rw [tally_concat, counted] at fits
  rw [← (totals_after running fits.of_plus).1] at fits
  rw [result_ask serving admitted, Hosted.perform, Hosted.result_map,
    (Hosted.totals_put keyId rows fits).1]
  rfl

/-- What a key with an owner shows is the table of its latest put. An act puts the table, or
invalidates the key, or leaves the table where it was. -/
theorem current_of_shown {acts : List (Act Row)} {engine : Engine Row} {shown : Shown}
    (running : (after acts).caches[number]? = some (.running engine))
    (there : engine.store.shown? keyId = some shown)
    (owned : (after acts).host.keys.isOwned keyId = true)
    (fits : (tally number acts).Fits) :
    ∃ rows, Current number keyId shown.table rows acts := by
  refine running_induction (motive := fun acts engine => ∀ shown,
    engine.store.shown? keyId = some shown → (after acts).host.keys.isOwned keyId = true →
    (tally number acts).Fits → ∃ rows, Current number keyId shown.table rows acts)
    ?_ ?_ running shown there owned fits
  · intro acts config absent shown there
    rw [shown?_build] at there
    cases there
  · intro acts act earlier later before sound turn ih shown there owned fits
    rw [after_concat] at owned
    have owner : (after acts).host.keys.isOwned keyId = true := by
      rcases turn.put_or_shown sound there with ⟨rows, -, owner, -⟩ | ⟨old, showed, -⟩
      · exact owner
      · exact (keys_later (sound_after acts) act).owned keyId (shown_known before showed) owned
    have effect := turn.shown?_of_isOwned sound owner
    rw [there] at effect
    by_cases put : ∃ rows, act = .ask number (.put keyId rows)
    · obtain ⟨rows, rfl⟩ := put
      have serving : (after acts).serving? number = some ⟨earlier, (after acts).host⟩ :=
        serving?_eq_some_iff.2 ⟨before, rfl⟩
      have answer := put_answer serving owner fits
      rw [Act.effect, if_pos rfl, Request.effect, if_pos rfl] at effect
      cases effect
      exact ⟨rows, current_put answer⟩
    · by_cases invalidated : act = .ask number (.invalidate keyId)
      · subst invalidated
        rw [Act.effect, if_pos rfl, Request.effect, if_pos rfl] at effect
        cases effect
      · have keeps : KeepsTable number keyId act := ⟨fun rows same => put ⟨rows, same⟩, invalidated⟩
        have tables := Act.table_effect keeps ⟨earlier, (after acts).host⟩
          (earlier.store.shown? keyId)
        rw [← effect, Option.map_some] at tables
        obtain ⟨same, spared⟩ := Option.filter_eq_some_iff.1 tables.symm
        obtain ⟨old, showed, table⟩ := Option.map_eq_some_iff.1 same
        rw [tally_concat] at fits
        obtain ⟨rows, current⟩ := ih old showed owner fits.of_plus
        rw [table] at current
        refine ⟨rows, current.concat keeps ?_⟩
        rw [cleared_of_running before]
        exact of_decide_eq_true spared

/-! ## What is current is shown -/

/-- Along a run a key goes on to show its table, until it is put or invalidated or a pass clears the
table. -/
theorem shown_finalState (sound : system.Sound) {acts : List (Act Row)}
    {engine last : Engine Row} {shown : Shown}
    (running : system.caches[number]? = some (.running engine))
    (there : engine.store.shown? keyId = some shown)
    (known : keyId < system.host.keys.owned.next)
    (kept : ∀ act ∈ acts, KeepsTable number keyId act)
    (unharmed : shown.table ∉ system.clearedBy number acts)
    (still : (finalState step system acts).caches[number]? = some (.running last))
    (owned : (finalState step system acts).host.keys.isOwned keyId = true) :
    (last.store.shown? keyId).map Shown.table = some shown.table ∧
      engine.store.memory.Later last.store.memory := by
  induction acts using List.reverseRecOn generalizing last with
  | nil =>
      have same := running.symm.trans still
      cases same
      exact ⟨congrArg (Option.map Shown.table) there, .refl _⟩
  | append_singleton acts act ih =>
      obtain ⟨before, keeps⟩ := List.forall_mem_append.1 kept
      obtain ⟨earlier, here, owner, turn⟩ := last_turn sound running known still owned
      rw [clearedBy_append, List.mem_append, not_or] at unharmed
      obtain ⟨table, later⟩ := ih before unharmed.1 here owner
      have counts := (sound_finalState sound acts).caches number _ here
      have spared := unharmed.2
      rw [clearedBy, clearedBy, List.append_nil, cleared_of_running here] at spared
      refine ⟨?_, later.trans (turn.memory_later counts)⟩
      rw [turn.shown?_of_isOwned counts owner, Act.table_effect (keeps act List.mem_cons_self),
        table, Option.filter_some, if_pos (decide_eq_true spared)]

/-- What is current is shown, with the rows that were put. The put starts a run along which the key
goes on to show the table. -/
theorem shown_of_current {acts : List (Act Row)} {engine : Engine Row} {rows : List Row}
    (current : Current number keyId table rows acts)
    (running : (after acts).caches[number]? = some (.running engine))
    (owned : (after acts).host.keys.isOwned keyId = true) :
    (engine.store.shown? keyId).map Shown.table = some table ∧
      engine.store.memory.rows table = rows := by
  have counts := engine_sound_after running
  obtain ⟨front, back, rfl, put, kept, unharmed⟩ := current
  obtain ⟨first, began, shown, holds, old, known⟩ := put_of_result (sound_after front) put
  rw [← after_concat] at began known
  have split : after (front ++ .ask number (.put keyId rows) :: back) =
      finalState step (after (front ++ [.ask number (.put keyId rows)])) back := by
    rw [← after_append, List.append_assoc, List.singleton_append]
  rw [split] at running owned
  obtain ⟨still, later⟩ :=
    shown_finalState (sound_after _) began shown known kept unharmed running owned
  refine ⟨still, ?_⟩
  obtain ⟨last, there, same⟩ := Option.map_eq_some_iff.1 still
  have table : last.table = table := same
  rw [later.rows_eq old, holds]
  rw [← table]
  exact counts.store.holders_pos there

/-! ## What is gone stays gone -/

/-- A key that shows nothing goes on to show nothing, until it is put. -/
theorem absent_finalState (sound : system.Sound) {acts : List (Act Row)}
    {engine last : Engine Row} (running : system.caches[number]? = some (.running engine))
    (absent : engine.store.shown? keyId = none)
    (unput : ∀ act ∈ acts, ∀ rows, act ≠ .ask number (.put keyId rows))
    (still : (finalState step system acts).caches[number]? = some (.running last)) :
    last.store.shown? keyId = none := by
  induction acts using List.reverseRecOn generalizing last with
  | nil =>
      have same := running.symm.trans still
      cases same
      exact absent
  | append_singleton acts act ih =>
      obtain ⟨before, other⟩ := List.forall_mem_append.1 unput
      have sound' := sound_finalState sound acts
      rw [finalState_append] at still
      rcases running_of_step sound' still with ⟨earlier, there, turn⟩ | ⟨gone, -⟩
      · have nothing := ih before there
        refine Option.eq_none_iff_forall_ne_some.2 fun shown showing => ?_
        rcases turn.put_or_shown (sound'.caches number _ there) showing with
          ⟨rows, put, -⟩ | ⟨old, showed, -⟩
        · exact other act List.mem_cons_self rows put
        · rw [nothing] at showed
          cases showed
      · obtain ⟨present, there⟩ := present_finalState running acts
        rw [gone] at there
        cases there

/-! ## What reads answer -/

/-- Whether a request reads the table of a key. -/
def ReadsTable (request : Request Row) (keyId : Nat) : Prop :=
  (∃ now, request = .get keyId now) ∨ (∃ now, request = .lookup keyId now) ∨
    request = .peek keyId

theorem isAdmitted_read {request : Request Row} {keys : Keys} (reads : ReadsTable request keyId)
    (owned : keys.isOwned keyId = true) : request.isAdmitted keys = true := by
  rcases reads with ⟨now, rfl⟩ | ⟨now, rfl⟩ | rfl <;> exact owned

/-- A read answers with the table that is shown. -/
theorem read_answer {acts : List (Act Row)} {state : Hosted Row} {request : Request Row}
    (serving : (after acts).serving? number = some state)
    (owned : state.host.keys.isOwned keyId = true) (reads : ReadsTable request keyId)
    (fits : (tally number (acts ++ [.ask number request])).Fits) :
    ∃ response, ((after acts).step (.ask number request)).result = .ok response ∧
      response.table? = (state.engine.store.shown? keyId).map Shown.table := by
  rcases reads with ⟨now, rfl⟩ | ⟨now, rfl⟩ | rfl
  · exact ⟨_, get_answer serving owned fits, rfl⟩
  · obtain ⟨isRecent, answer⟩ := lookup_answer serving owned fits
    refine ⟨_, answer, ?_⟩
    cases state.engine.store.shown? keyId <;> rfl
  · exact ⟨_, peek_answer (sound_after acts) serving owned, rfl⟩

/-- A table that a read finds has the rows that were put, for as long as the reader looks. -/
theorem rowsOf_read {acts : List (Act Row)} {state : Hosted Row} {request : Request Row}
    {rows : List Row} (serving : (after acts).serving? number = some state)
    (owned : state.host.keys.isOwned keyId = true) (reads : ReadsTable request keyId)
    (current : Current number keyId table rows acts) :
    ((after acts).step (.ask number request)).state.rowsOf ⟨number, table⟩ = rows := by
  obtain ⟨running, host⟩ := serving?_eq_some_iff.1 serving
  have sound := engine_sound_after running
  obtain ⟨next, clock⟩ := running_ask serving (isAdmitted_read reads owned)
  have keeps : KeepsTable number keyId (.ask number request) := by
    rcases reads with ⟨now, rfl⟩ | ⟨now, rfl⟩ | rfl <;> exact ⟨by simp, by simp⟩
  have still := current.concat keeps List.not_mem_nil
  have owner := (Hosted.follows_perform sound request).owned keyId
  rw [owned, ← clock] at owner
  rw [← after_concat] at next owner ⊢
  rw [rowsOf, next]
  exact (shown_of_current still next owner).2

/-- Reads are fresh and complete, and nothing is brought back. First, in any run, and as long as no
counter is full, a read of a key with an owner finds a table exactly if the table is current, and
this table has the rows that were put. Second, once a key is not contained, it is not contained and
absent, and reads find nothing, until the key is put again. -/
theorem reads_are_fresh :
    (∀ (acts : List (Act Row)) (number keyId : Nat) (state : Hosted Row) (request : Request Row),
      (after acts).serving? number = some state → state.host.keys.isOwned keyId = true →
      ReadsTable request keyId → (tally number (acts ++ [.ask number request])).Fits →
      ∃ response, ((after acts).step (.ask number request)).result = .ok response ∧
        (∀ table, response.table? = some table ↔
          ∃ rows, Current number keyId table rows acts) ∧
        ∀ table rows, Current number keyId table rows acts →
          ((after acts).step (.ask number request)).state.rowsOf ⟨number, table⟩ = rows) ∧
    ∀ (acts more : List (Act Row)) (number keyId : Nat) (state : Hosted Row),
      ((after acts).step (.ask number (.contains keyId))).result = .ok (.flag false) →
      (∀ act ∈ more, ∀ rows, act ≠ .ask number (.put keyId rows)) →
      (after (acts ++ more)).serving? number = some state →
      state.host.keys.isOwned keyId = true →
      ((after (acts ++ more)).step (.ask number (.contains keyId))).result = .ok (.flag false) ∧
      ((after (acts ++ more)).step (.ask number (.tier keyId))).result = .ok (.tier .absent) ∧
      ((after (acts ++ more)).step (.ask number (.peek keyId))).result = .ok (.table none) ∧
      ∀ now, (tally number (acts ++ more ++ [.ask number (.lookup keyId now)])).Fits →
        ((after (acts ++ more)).step (.ask number (.lookup keyId now))).result =
            .ok (.found ⟨none, .miss⟩) ∧
          ((after (acts ++ more)).step (.ask number (.get keyId now))).result =
            .ok (.table none) := by
  constructor
  · intro acts number keyId state request serving owned reads fits
    obtain ⟨running, host⟩ := serving?_eq_some_iff.1 serving
    have owner := owned
    rw [host] at owner
    obtain ⟨response, answer, shows⟩ := read_answer serving owned reads fits
    refine ⟨response, answer, fun table => ?_, fun table rows current =>
      rowsOf_read serving owned reads current⟩
    rw [shows]
    constructor
    · intro shown
      obtain ⟨shown, there, rfl⟩ := Option.map_eq_some_iff.1 shown
      rw [tally_concat] at fits
      exact current_of_shown running there owner fits.of_plus
    · rintro ⟨rows, current⟩
      exact (shown_of_current current running owner).1
  · intro acts more number keyId state missing unput serving owned
    have sound := sound_after (acts ++ more)
    obtain ⟨earlier, there, absent⟩ := absent_of_contains (sound_after acts) missing
    have running := (serving?_eq_some_iff.1 serving).1
    rw [after_append] at running
    have nothing := absent_finalState (sound_after acts) (serving?_eq_some_iff.1 there).1 absent
      unput running
    refine ⟨?_, ?_, ?_, fun now fits => ?_⟩
    · rw [contains_answer sound serving owned, nothing]
      rfl
    · obtain ⟨isRecent, answer⟩ := tier_answer sound serving owned
      rw [answer, nothing]
      rfl
    · rw [peek_answer sound serving owned, nothing]
      rfl
    · obtain ⟨isRecent, answer⟩ := lookup_answer serving owned fits
      rw [← tally_get] at fits
      rw [answer, get_answer serving owned fits, nothing]
      exact ⟨rfl, rfl⟩

/-- A key that is put twice. -/
def rewritten : List (Act Nat) :=
  [.createKey "a", .build ⟨1, 300⟩, .ask 0 (.put 1 [7]), .ask 0 (.put 1 [8, 9])]

/-- The second put is what is read, with its rows, and after an invalidation nothing is, also if the
buffer is persisted and a pass goes over the cache. -/
theorem reads_are_fresh_rewritten :
    (∀ table, table = 1 ↔ ∃ rows, Current 0 1 table rows rewritten) ∧
      ((after (rewritten ++ [.ask 0 (.invalidate 1)] ++
          [.ask 0 (.clear 1 true), .dropHold ⟨0, 1⟩, .reclaim 0 .full])).step
        (.ask 0 (.contains 1))).result = .ok (.flag false) := by
  constructor
  · obtain ⟨response, answer, finds, -⟩ :=
      reads_are_fresh.1 rewritten 0 1 _ (.get 1 5) rfl rfl (.inl ⟨5, rfl⟩) (by decide)
    have same : response = .table (some 1) := (Except.ok.inj answer).symm
    intro table
    rw [← finds, same]
    exact ⟨fun equal => congrArg some equal.symm, fun equal => (Option.some.inj equal).symm⟩
  · have missing : ((after (rewritten ++ [.ask 0 (.invalidate 1)])).step
        (.ask 0 (.contains 1))).result = .ok (.flag false) := rfl
    have serving : (after (rewritten ++ [.ask 0 (.invalidate 1)] ++
        [.ask 0 (.clear 1 true), .dropHold ⟨0, 1⟩, .reclaim 0 .full])).serving? 0 = some _ := rfl
    exact (reads_are_fresh.2 _ _ 0 1 _ missing (by simp) serving rfl).1

end TableCache.System
