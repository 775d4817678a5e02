import TableCache.Proofs.Engine.Moves

/-!
# What each operation of an engine does

One operation after the other: what it answers, that it keeps the engine sound, and what the keys
show afterwards. The tables that an operation hands out are held by the caller from then on. An
operation that stops with a fault, because a counter is full, has done everything it would have done
otherwise, but hands out nothing.

Main statements:

1. `sound_put`, `shown?_put`, `rows_put`: a put key shows the new table, pinned, with its rows;
2. `resolve_found`, `sound_lookup`, `shown?_lookup`: a look-up finds what is shown and changes
   nothing of it;
3. `sound_reclaim`, `sound_build`: a reclaim pass and a new engine;
4. `backs_close`: a closed engine leaves only what readers hold.
-/

namespace TableCache.Hosted

universe u v w

variable {Row : Type u} {state : Hosted Row} {held : Multiset Nat} {keyId : Nat}

/-! ## Parts of an engine -/

@[simp]
theorem recorder_withRecorder (state : Hosted Row) (recorder : Recorder) :
    (state.withRecorder recorder).engine.recorder = recorder := rfl

@[simp]
theorem recorder_release (state : Hosted Row) (table : Nat) :
    (state.release table).engine.recorder = state.engine.recorder := rfl

theorem sound_withRecorder (sound : state.engine.Sound held) (recorder : Recorder) :
    (state.withRecorder recorder).engine.Sound held :=
  ⟨sound.store, sound.recency, sound.inStep, sound.capacity⟩

theorem follows_withRecorder (state : Hosted Row) (recorder : Recorder) :
    state.Follows (state.withRecorder recorder) :=
  .of_memory (.refl _) rfl rfl rfl

/-- An engine of which only the memory changed, and not what is in the cells of its entries. -/
theorem sound_withStore (sound : state.engine.Sound held) {store : Store Row}
    {others : Multiset Nat} (counts : store.Sound others)
    (recent : ∀ keyId, store.isRecent keyId = state.engine.store.isRecent keyId) :
    (state.withStore store).engine.Sound others :=
  ⟨counts, sound.recency, fun keyId => (sound.inStep keyId).trans (recent keyId).symm,
    sound.capacity⟩

theorem sound_release {table : Nat} (sound : state.engine.Sound (table ::ₘ held)) :
    (state.release table).engine.Sound held :=
  sound_withStore sound (Memory.Backs.release sound.store) fun _ => rfl

theorem follows_release (state : Hosted Row) (table : Nat) :
    state.Follows (state.release table) :=
  .of_memory (Memory.later_release _ table) rfl rfl rfl

@[simp]
theorem shown?_release (state : Hosted Row) (table keyId : Nat) :
    (state.release table).engine.store.shown? keyId = state.engine.store.shown? keyId :=
  rfl

@[simp]
theorem shown?_withRecorder (state : Hosted Row) (recorder : Recorder) (keyId : Nat) :
    (state.withRecorder recorder).engine.store.shown? keyId = state.engine.store.shown? keyId :=
  rfl

/-! ## Putting -/

/-- The number of the next table. -/
def fresh (state : Hosted Row) : Nat := state.engine.store.memory.tables.next

/-- An engine with a new table in its store. -/
def stocked (state : Hosted Row) (keyId : Nat) (rows : List Row) : Hosted Row :=
  { state.withStore (state.engine.store.put state.host keyId rows).2.1 with
    host := (state.engine.store.put state.host keyId rows).2.2 }

/-- An engine with a new table under a key, before the put is counted. -/
def placed (state : Hosted Row) (keyId : Nat) (rows : List Row) : Hosted Row :=
  (state.stocked keyId rows).touch keyId

theorem put_cases (state : Hosted Row) (keyId : Nat) (rows : List Row) :
    (∃ fault, state.engine.recorder.recordPut.result = .error fault ∧
        (state.put keyId rows).result = .error fault ∧
        (state.put keyId rows).state =
          ((state.purged.placed keyId rows).withRecorder
            state.engine.recorder.recordPut.state).release state.purged.fresh) ∨
      state.engine.recorder.recordPut.result = .ok () ∧
        (state.put keyId rows).result = .ok state.purged.fresh ∧
        (state.put keyId rows).state =
          (state.purged.placed keyId rows).withRecorder
            state.engine.recorder.recordPut.state := by
  have recorder : (state.purged.placed keyId rows).engine.recorder = state.engine.recorder := by
    rw [placed, touch_eq]
    rfl
  rw [← recorder]
  cases counted : (state.purged.placed keyId rows).engine.recorder.recordPut.result with
  | error fault =>
      refine .inl ⟨fault, rfl, ?_⟩
      unfold put
      rw [ask_result, ask_state]
      unfold placed stocked at counted
      simp only [counted]
      exact ⟨trivial, rfl⟩
  | ok value =>
      refine .inr ⟨rfl, ?_⟩
      unfold put
      rw [ask_result, ask_state]
      unfold placed stocked at counted
      simp only [counted]
      constructor
      · rfl
      · rfl

theorem follows_stocked (state : Hosted Row) (keyId : Nat) (rows : List Row) :
    state.Follows (state.stocked keyId rows) where
  memory := Store.later_put _ _ _ _
  config := rfl
  inbox := rfl
  owners := Keys.owners?_watch state.host.keys keyId state.engine.store.inbox
  next := Keys.next_watch state.host.keys keyId state.engine.store.inbox

theorem follows_placed (state : Hosted Row) (keyId : Nat) (rows : List Row) :
    state.Follows (state.placed keyId rows) :=
  (follows_stocked state keyId rows).trans (follows_touch _ keyId)

/-- A new entry has its recent handle before its key is touched. Until the touch the entries and the
index agree on all other keys only. -/
theorem sound_placed (sound : state.engine.Sound held) (keyId : Nat) (rows : List Row) :
    (state.placed keyId rows).engine.Sound (state.fresh ::ₘ held) := by
  have put : (state.stocked keyId rows).engine.store.Sound (state.fresh ::ₘ held) :=
    sound.store.put state.host keyId rows
  have recent : ∀ other, (state.stocked keyId rows).engine.store.isRecent other =
      if other = keyId then true else state.engine.store.isRecent other :=
    fun other => Store.isRecent_put _ _ _ _ _
  have others : ∀ other, other ≠ keyId →
      (state.stocked keyId rows).engine.recency.contains other =
        (state.stocked keyId rows).engine.store.isRecent other := by
    intro other different
    rw [recent, if_neg different]
    exact sound.inStep other
  have index : (state.stocked keyId rows).engine.recency.Sound := sound.recency
  have kept := Recency.evicted_ne index keyId
  refine ⟨?_, ?_, fun other => ?_, ?_⟩
  · rw [placed, touch_eq]
    exact sound_yielded put _
  · rw [placed, touch_eq]
    exact sound.recency.touch keyId
  · rw [placed, inStep_touch index others, touch_eq]
    simp only [isRecent_yielded, recent]
    by_cases same : other = keyId
    · subst same
      simp [kept]
    · simp [same]
  · rw [placed, touch_eq]
    exact (Recency.capacity_touch _ keyId).trans sound.capacity

theorem shown?_placed (sound : state.engine.Sound held) (keyId other : Nat) (rows : List Row) :
    (state.placed keyId rows).engine.store.shown? other =
      if other = keyId then some ⟨state.fresh, true⟩ else state.engine.store.shown? other := by
  rw [placed, touch_eq]
  refine (shown?_yielded (sound.store.put state.host keyId rows) _ other).trans ?_
  exact sound.store.shown?_put state.host keyId other rows

theorem rows_placed (sound : state.engine.Sound held) (keyId : Nat) (rows : List Row) :
    (state.placed keyId rows).engine.store.memory.rows state.fresh = rows := by
  have stocked : (state.stocked keyId rows).engine.store.memory.rows state.fresh = rows :=
    sound.store.rows_put state.host keyId rows
  have later : (state.stocked keyId rows).engine.store.memory.Later
      (state.placed keyId rows).engine.store.memory := (follows_touch _ keyId).memory
  rw [later.rows_eq, stocked]
  · exact (sound.store.put state.host keyId rows).holding.lt_next_of_mem (by simp [fresh])
  · exact (sound_placed sound keyId rows).store.holding.pos_of_mem (by simp)

/-- The tables that a result hands to the caller, given which table a value comes with. -/
def handed {α : Type v} (pick : α → Option Nat) : Except Fault α → List Nat
  | .ok value => (pick value).toList
  | .error _ => []

theorem handed_map {α : Type v} {β : Type w} (pick : β → Option Nat) (change : α → β)
    (result : Except Fault α) :
    handed pick (result.map change) = handed (fun value => pick (change value)) result := by
  cases result <;> rfl

theorem follows_put (state : Hosted Row) (keyId : Nat) (rows : List Row) :
    state.Follows (state.put keyId rows).state := by
  have placed := (follows_purged state).trans (follows_placed state.purged keyId rows)
  rcases put_cases state keyId rows with ⟨fault, -, -, stopped⟩ | ⟨-, -, done⟩
  · rw [stopped]
    exact (placed.trans (follows_withRecorder _ _)).trans (follows_release _ _)
  · rw [done]
    exact placed.trans (follows_withRecorder _ _)

/-- A put that is not counted gives the caller's hold on the new table back. -/
theorem sound_put (sound : state.engine.Sound held) (keyId : Nat) (rows : List Row) :
    (state.put keyId rows).state.engine.Sound
      (handed some (state.put keyId rows).result + held) := by
  have placed := sound_withRecorder (sound_placed (sound_purged sound) keyId rows)
    state.engine.recorder.recordPut.state
  rcases put_cases state keyId rows with ⟨fault, -, failed, stopped⟩ | ⟨-, returned, done⟩
  · rw [failed, stopped]
    simpa [handed] using sound_release placed
  · rw [returned, done]
    exact placed

theorem shown?_put (sound : state.engine.Sound held) (keyId other : Nat) (rows : List Row) :
    (state.put keyId rows).state.engine.store.shown? other =
      if other = keyId then some ⟨state.purged.fresh, true⟩
      else state.purged.engine.store.shown? other := by
  have placed := shown?_placed (sound_purged sound) keyId other rows
  rcases put_cases state keyId rows with ⟨fault, -, -, stopped⟩ | ⟨-, -, done⟩
  · rw [stopped, shown?_release, shown?_withRecorder]
    exact placed
  · rw [done, shown?_withRecorder]
    exact placed

theorem rows_put (sound : state.engine.Sound held) (keyId : Nat) (rows : List Row) {table : Nat}
    (returned : (state.put keyId rows).result = .ok table) :
    table = state.purged.fresh ∧
      (state.put keyId rows).state.engine.store.memory.rows table = rows := by
  rcases put_cases state keyId rows with ⟨fault, -, failed, -⟩ | ⟨-, same, done⟩
  · rw [failed] at returned
    cases returned
  · rw [same] at returned
    cases returned
    rw [done]
    exact ⟨rfl, rows_placed (sound_purged sound) keyId rows⟩

theorem recorder_put (state : Hosted Row) (keyId : Nat) (rows : List Row) :
    (state.put keyId rows).state.engine.recorder = state.engine.recorder.recordPut.state := by
  rcases put_cases state keyId rows with ⟨fault, -, -, stopped⟩ | ⟨-, -, done⟩
  · rw [stopped]
    rfl
  · rw [done]
    rfl

/-! ## Giving up a pinned table -/

theorem clearForReclaim_state (state : Hosted Row) (keyId : Nat) :
    (state.clearForReclaim keyId true).state =
      state.purged.withStore (state.purged.engine.store.clearForReclaim keyId).2 := rfl

theorem inbox_clearForReclaim (store : Store Row) (keyId : Nat) :
    (store.clearForReclaim keyId).2.inbox = store.inbox := by
  unfold Store.clearForReclaim
  split <;> rfl

theorem follows_clearForReclaim (state : Hosted Row) (keyId : Nat) (isPersisted : Bool) :
    state.Follows (state.clearForReclaim keyId isPersisted).state := by
  cases isPersisted with
  | false => exact .refl state
  | true =>
      refine (follows_purged state).trans (.of_memory ?_ rfl ?_ rfl)
      · exact Store.later_clearForReclaim _ keyId
      · exact inbox_clearForReclaim _ keyId

theorem sound_clearForReclaim (sound : state.engine.Sound held) (keyId : Nat)
    (isPersisted : Bool) :
    (state.clearForReclaim keyId isPersisted).state.engine.Sound held := by
  cases isPersisted with
  | false => exact sound
  | true =>
      have purged := sound_purged sound
      exact sound_withStore purged (purged.store.clearForReclaim keyId) fun other =>
        Store.isRecent_clearForReclaim _ keyId other

/-! ## Finding -/

/-- What a look-up answers under a key with this view. -/
def finding (isRecent : Bool) : Option Shown → Found
  | none => ⟨none, .miss⟩
  | some shown =>
      ⟨some shown.table,
        if shown.pinned then .hardHit else if isRecent then .softHit else .weakHit⟩

/-- A look-up has three outcomes: there is no entry, or one whose table was reclaimed and that is
removed now, or one that is promoted. -/
theorem resolve_cases (sound : state.engine.Sound held) (keyId : Nat) :
    (state.engine.store.shown? keyId = none ∧ state.resolve keyId = (⟨none, .miss⟩, state, [])) ∨
      (state.engine.store.shown? keyId = none ∧
        state.resolve keyId =
          (⟨none, .miss⟩, (state.forget keyId).2, [.swept (state.host.keys.key keyId)])) ∨
      ∃ shown, state.engine.store.shown? keyId = some shown ∧
        (state.engine.store.read keyId).1 = some shown.table ∧
        state.resolve keyId =
          (finding (state.engine.store.isRecent keyId) (some shown),
            (state.withStore (state.engine.store.read keyId).2).promote keyId, []) := by
  have read := Store.read_eq state.engine.store keyId
  unfold resolve
  cases found : state.engine.store.entryOf? keyId with
  | none =>
      refine .inl ⟨?_, rfl⟩
      rw [Store.shown?, found]
      rfl
  | some entry =>
      have view : state.engine.store.shown? keyId =
          (state.engine.store.memory.slot? entry.cell).map
            fun table => ⟨table, entry.strong.isSome⟩ := by
        rw [Store.shown?, found]
        rfl
      rcases Option.eq_none_or_eq_some (state.engine.store.memory.slot? entry.cell) with
        gone | ⟨table, filled⟩
      · rw [gone, Option.map_none] at view
        rw [view, Option.map_none] at read
        refine .inr (.inl ⟨view, ?_⟩)
        rcases given : state.engine.store.read keyId with ⟨answer, store⟩
        rw [given] at read
        simp only at read
        subst read
        rfl
      · rw [filled, Option.map_some] at view
        rw [view, Option.map_some] at read
        refine .inr (.inr ⟨_, view, read, ?_⟩)
        rcases given : state.engine.store.read keyId with ⟨answer, store⟩
        rw [given] at read
        simp only at read
        subst read
        simp only [sound.store.recentAlive_eq found filled]
        rfl

theorem resolve_found (sound : state.engine.Sound held) (keyId : Nat) :
    (state.resolve keyId).1 =
      finding (state.engine.store.isRecent keyId) (state.engine.store.shown? keyId) := by
  rcases resolve_cases sound keyId with
    ⟨nothing, resolved⟩ | ⟨nothing, resolved⟩ | ⟨shown, there, -, resolved⟩
  · rw [resolved, nothing]
    rfl
  · rw [resolved, nothing]
    rfl
  · rw [resolved, there]

theorem sound_read (sound : state.engine.Sound held) (keyId : Nat) :
    (state.withStore (state.engine.store.read keyId).2).engine.Sound
      ((state.engine.store.read keyId).1.toList + held) :=
  sound_withStore sound (sound.store.read keyId) (Store.isRecent_read _ keyId)

theorem sound_resolve (sound : state.engine.Sound held) (keyId : Nat) :
    (state.resolve keyId).2.1.engine.Sound ((state.resolve keyId).1.table.toList + held) := by
  rcases resolve_cases sound keyId with
    ⟨-, resolved⟩ | ⟨-, resolved⟩ | ⟨shown, there, read, resolved⟩
  · rw [resolved]
    simpa using sound
  · rw [resolved]
    simpa using sound_forget sound keyId
  · have reading := sound_read sound keyId
    rw [read] at reading
    have still := Store.shown?_read state.engine.store keyId keyId
    rw [there] at still
    rw [resolved]
    exact sound_promote reading still

/-- A look-up changes nothing of what is shown: the entry it removes shows nothing. -/
theorem shown?_resolve (sound : state.engine.Sound held) (keyId other : Nat) :
    (state.resolve keyId).2.1.engine.store.shown? other = state.engine.store.shown? other := by
  rcases resolve_cases sound keyId with
    ⟨-, resolved⟩ | ⟨nothing, resolved⟩ | ⟨shown, -, -, resolved⟩
  · rw [resolved]
  · rw [resolved, shown?_forget sound]
    split
    next same => rw [same, nothing]
    next => rfl
  · rw [resolved]
    exact (shown?_promote (sound_read sound keyId) keyId other).trans
      (Store.shown?_read _ keyId other)

theorem inbox_read (store : Store Row) (keyId : Nat) :
    (store.read keyId).2.inbox = store.inbox := by
  unfold Store.read
  split <;> rfl

theorem follows_read (state : Hosted Row) (keyId : Nat) :
    state.Follows (state.withStore (state.engine.store.read keyId).2) :=
  .of_memory (Store.later_read _ keyId) rfl (inbox_read _ keyId) rfl

theorem follows_resolve (sound : state.engine.Sound held) (keyId : Nat) :
    state.Follows (state.resolve keyId).2.1 := by
  rcases resolve_cases sound keyId with ⟨-, resolved⟩ | ⟨-, resolved⟩ | ⟨shown, -, -, resolved⟩
  · rw [resolved]
    exact .refl state
  · rw [resolved]
    exact follows_forget state keyId
  · rw [resolved]
    exact (follows_read state keyId).trans (follows_promote _ keyId)

theorem recorder_resolve (sound : state.engine.Sound held) (keyId : Nat) :
    (state.resolve keyId).2.1.engine.recorder = state.engine.recorder := by
  rcases resolve_cases sound keyId with ⟨-, resolved⟩ | ⟨-, resolved⟩ | ⟨shown, -, -, resolved⟩
  · rw [resolved]
  · rw [resolved]
    rfl
  · rw [resolved]
    rfl

/-- What a look-up finds after the purge, before it is counted. -/
def found (state : Hosted Row) (keyId : Nat) : Found := (state.purged.resolve keyId).1

/-- How a look-up is counted. -/
def counted (state : Hosted Row) (keyId now : Nat) : Reply Recorder (Option Statistics) :=
  state.engine.recorder.recordAccess (state.found keyId).access now

theorem lookup_cases (sound : state.engine.Sound held) (keyId now : Nat) :
    (∃ fault, (state.counted keyId now).result = .error fault ∧
        (state.lookup keyId now).result = .error fault ∧
        (state.lookup keyId now).state =
          ((state.found keyId).table.map
            ((state.purged.resolve keyId).2.1.withRecorder
              (state.counted keyId now).state).release).getD
            ((state.purged.resolve keyId).2.1.withRecorder (state.counted keyId now).state)) ∨
      (∃ emitted, (state.counted keyId now).result = .ok emitted) ∧
        (state.lookup keyId now).result = .ok (state.found keyId) ∧
        (state.lookup keyId now).state =
          (state.purged.resolve keyId).2.1.withRecorder (state.counted keyId now).state := by
  have recorder : (state.purged.resolve keyId).2.1.engine.recorder = state.engine.recorder :=
    recorder_resolve (sound_purged sound) keyId
  unfold lookup
  rw [ask_result, ask_state]
  simp only [recorder]
  show (∃ fault, (state.counted keyId now).result = _ ∧ _) ∨ _
  cases counting : (state.counted keyId now).result with
  | error fault =>
      refine .inl ⟨fault, rfl, ?_⟩
      unfold counted found at counting
      simp only [counting]
      exact ⟨trivial, rfl⟩
  | ok emitted =>
      refine .inr ⟨⟨emitted, rfl⟩, ?_⟩
      unfold counted found at counting
      simp only [counting]
      cases emitted <;> exact ⟨rfl, rfl⟩

theorem found_eq (sound : state.engine.Sound held)
    (owned : state.host.keys.isOwned keyId = true) :
    ∃ isRecent, state.found keyId = finding isRecent (state.engine.store.shown? keyId) := by
  refine ⟨state.purged.engine.store.isRecent keyId, ?_⟩
  rw [found, resolve_found (sound_purged sound), shown?_purged_of_isOwned sound owned]

theorem follows_lookup (sound : state.engine.Sound held) (keyId now : Nat) :
    state.Follows (state.lookup keyId now).state := by
  have resolved := (follows_purged state).trans (follows_resolve (sound_purged sound) keyId)
  have recorded := resolved.trans (follows_withRecorder _ (state.counted keyId now).state)
  rcases lookup_cases sound keyId now with ⟨fault, -, -, stopped⟩ | ⟨-, -, done⟩
  · rw [stopped]
    cases (state.found keyId).table with
    | none => exact recorded
    | some table => exact recorded.trans (follows_release _ table)
  · rw [done]
    exact recorded

/-- A look-up that is not counted gives the caller's hold on the table back. -/
theorem sound_lookup (sound : state.engine.Sound held) (keyId now : Nat) :
    (state.lookup keyId now).state.engine.Sound
      (handed Found.table (state.lookup keyId now).result + held) := by
  have resolved := sound_withRecorder (sound_resolve (sound_purged sound) keyId)
    (state.counted keyId now).state
  rcases lookup_cases sound keyId now with ⟨fault, -, failed, stopped⟩ | ⟨-, returned, done⟩
  · rw [failed, stopped]
    have reading : (state.purged.resolve keyId).1.table = (state.found keyId).table := rfl
    rw [reading] at resolved
    cases table : (state.found keyId).table with
    | none =>
        rw [table] at resolved
        exact resolved
    | some table =>
        rw [table] at resolved
        simpa [handed] using sound_release resolved
  · rw [returned, done]
    exact resolved

theorem shown?_lookup (sound : state.engine.Sound held) (keyId now other : Nat) :
    (state.lookup keyId now).state.engine.store.shown? other =
      state.purged.engine.store.shown? other := by
  have resolved := shown?_resolve (sound_purged sound) keyId other
  rcases lookup_cases sound keyId now with ⟨fault, -, -, stopped⟩ | ⟨-, -, done⟩
  · rw [stopped]
    cases (state.found keyId).table <;> simpa using resolved
  · rw [done, shown?_withRecorder]
    exact resolved

theorem recorder_lookup (sound : state.engine.Sound held) (keyId now : Nat) :
    (state.lookup keyId now).state.engine.recorder = (state.counted keyId now).state := by
  rcases lookup_cases sound keyId now with ⟨fault, -, -, stopped⟩ | ⟨-, -, done⟩
  · rw [stopped]
    cases (state.found keyId).table <;> simp
  · rw [done, recorder_withRecorder]

/-! ## Other questions -/

theorem peek_result (state : Hosted Row) (keyId : Nat) :
    (state.peek keyId).result =
      .ok ((state.purged.engine.store.shown? keyId).map Shown.table) :=
  congrArg Except.ok (Store.read_eq state.purged.engine.store keyId)

theorem sound_peek (sound : state.engine.Sound held) (keyId : Nat) :
    (state.peek keyId).state.engine.Sound (handed id (state.peek keyId).result + held) :=
  sound_read (sound_purged sound) keyId

theorem contains_result (state : Hosted Row) (keyId : Nat) :
    (state.contains keyId).result = .ok (state.purged.engine.store.shown? keyId).isSome :=
  congrArg Except.ok (Store.contains_eq _ keyId)

theorem tier_result (state : Hosted Row) (keyId : Nat) :
    (state.tier keyId).result =
      .ok (((state.purged.engine.store.shown? keyId).map
        (Shown.tier (state.purged.engine.store.isRecent keyId))).getD .absent) :=
  congrArg Except.ok (Store.tier_eq _ keyId)

theorem statistics_result (state : Hosted Row) :
    state.statistics.result = state.engine.recorder.snapshot.result := rfl

/-! ## Reclaim passes -/

/-- An engine after a reclaim pass. -/
theorem sound_reclaim {engine : Engine Row} (sound : engine.Sound held) (pressure : Pressure) :
    (engine.reclaim pressure).state.Sound held :=
  ⟨sound.store.reclaimed pressure, sound.recency, sound.inStep, sound.capacity⟩

theorem shown?_reclaim {engine : Engine Row} (sound : engine.Sound held) (pressure : Pressure)
    (keyId : Nat) :
    (engine.reclaim pressure).state.store.shown? keyId =
      (engine.store.shown? keyId).filter fun shown =>
        shown.table ∉ engine.store.cleared pressure :=
  sound.store.shown?_reclaimed pressure keyId

/-! ## The first and the last moment of an engine -/

theorem create_eq_ok_iff {config : Config} {host : Host} {built : Hosted Row} :
    create config host = .ok built ↔ config.validate = .ok () ∧ built = build config host := by
  unfold create
  cases config.validate with
  | error fault => simp [Except.map]
  | ok value => simp [Except.map, eq_comm]

theorem sound_build {config : Config} (valid : config.validate = .ok ()) (host : Host) :
    (build config host : Hosted Row).engine.Sound 0 where
  store := by
    show (Memory.empty : Memory Row).Backs Numbered.empty.pairs 0
    rw [Numbered.pairs_empty]
    exact Memory.backs_empty
  recency := Recency.sound_ofCapacity (Config.validate_eq_ok_iff.1 valid).1
  inStep := fun keyId => by
    show (Recency.ofCapacity config.recencyCapacity).contains keyId =
      ((Numbered.empty.find? keyId).bind Entry.recent).isSome
    rw [Numbered.find?_empty]
    rfl
  capacity := rfl

/-- Discarding all entries one after the other leaves what readers hold. -/
theorem backs_discardAll {memory : Memory Row} {entries : List (Nat × Entry)}
    (backs : memory.Backs entries held) :
    ((entries.map Prod.snd).foldl (fun memory entry => entry.discard memory) memory).Backs 0
      held := by
  induction entries generalizing memory with
  | nil => exact backs
  | cons first rest ih =>
      rw [← Multiset.cons_coe] at backs
      exact ih backs.discard

theorem backs_close (sound : state.engine.Sound held) : state.close.1.Backs 0 held := by
  have all : state.engine.store.memory.Backs (state.engine.store.entries.toList : Multiset _)
      held :=
    sound.store
  have closed := backs_discardAll all
  rw [← Numbered.values_eq_map_toList] at closed
  exact closed

end TableCache.Hosted
