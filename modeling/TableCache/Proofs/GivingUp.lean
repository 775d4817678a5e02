import TableCache.Proofs.Settling

/-!
# Giving a table up is all or nothing

A buffer that is not persisted is refused before anything is done, so its engine, the other engines
and the keys are what they were. For a buffer that is persisted the entries of keys without owners
are removed, as before every request, and then the strong handle of its key goes. Nothing else does:
the table stays in its cell, with one holder less, and the key keeps its recent handle and its place
in the index.

Main definitions:

1. `Store.Unpins`: the strong handle of a key is gone, and all else is as it was.

Main statements:

1. `Store.Sound.unpins`: giving a table up does that;
2. `Store.tier_clearForReclaim`: a tier of strong becomes recent or weak;
3. `Hosted.purged_of_idle`: an engine that has nothing to purge is left as it is by a purge;
4. `clear_refused`: a buffer that is not persisted is refused;
5. `giving_up_is_all_or_nothing`: all of this, of a run.
-/

namespace TableCache

universe u

variable {Row : Type u}

/-! ## Stores -/

/-- An entry without its strong handle. -/
def Entry.unpinned (entry : Entry) : Entry := { entry with strong := none }

namespace Store

open Memory

/-- The strong handle of a key is gone, if there was one, and its table has one holder less. No
other entry, no cell, and no row is touched, and nothing is registered. -/
structure Unpins (before after : Store Row) (keyId : Nat) : Prop where
  entries : ∀ other, after.entryOf? other =
    if other = keyId then (before.entryOf? keyId).map Entry.unpinned else before.entryOf? other
  cells : after.memory.cells = before.memory.cells
  registry : after.memory.registry = before.memory.registry
  rows : ∀ table, after.memory.rows table = before.memory.rows table
  holders : ∀ table, before.memory.holders table = after.memory.holders table +
    if (before.entryOf? keyId).bind Entry.strong = some table then 1 else 0
  inbox : after.inbox = before.inbox

variable {store : Store Row} {held : Multiset Nat} {keyId other table : Nat}

/-- A table that more than one hold has its rows still after one of them let it go. -/
theorem rows_release_of_shared {memory : Memory Row} (shared : 2 ≤ memory.holders table)
    (other : Nat) : (memory.release table).rows other = memory.rows other := by
  have many : ¬memory.holders table ≤ 1 := by omega
  rw [Memory.release, if_neg many, Memory.rows, Memory.rows,
    Numbered.map_find?_adjust memory.tables table other
      (fun table => { table with holders := table.holders - 1 }) fun _ => rfl]

/-- The table of a strong handle is held by its cell as well. -/
theorem Sound.two_le_holders (sound : store.Sound held)
    (pinned : (store.entryOf? keyId).bind Entry.strong = some table) :
    2 ≤ store.memory.holders table := by
  obtain ⟨entry, found, strong⟩ := Option.bind_eq_some_iff.1 pinned
  have filled := (sound.linked found).strong table strong
  refine Backs.two_le_holders sound filled (Multiset.mem_add.2 (.inl ?_))
  exact (Multiset.mem_filterMap _ _).2 ⟨(keyId, entry), mem_pairs found, strong⟩

/-- Giving a table up takes the strong handle of its key, and nothing else. -/
theorem Sound.unpins (sound : store.Sound held) (keyId : Nat) :
    store.Unpins (store.clearForReclaim keyId).2 keyId := by
  rcases Option.eq_none_or_eq_some ((store.entryOf? keyId).bind Entry.strong) with
    unpinned | ⟨table, pinned⟩
  · rw [clearForReclaim_of_unpinned unpinned]
    refine ⟨fun other => ?_, rfl, rfl, fun _ => rfl, fun table => ?_, rfl⟩
    · split
      next same =>
        rw [same]
        cases found : store.entryOf? keyId with
        | none => rfl
        | some entry =>
            rw [found, Option.bind_some] at unpinned
            exact congrArg some (congrArg (Entry.mk · entry.recent entry.cell) unpinned)
      next => rfl
    · rw [unpinned]
      rfl
  · have shared := sound.two_le_holders pinned
    rw [clearForReclaim_of_pinned pinned]
    refine ⟨fun other => ?_, cells_release _ _, rfl, rows_release_of_shared shared,
      fun other => ?_, rfl⟩
    · rw [entryOf?, entryOf?_adjust]
      split
      next same => rw [same]; rfl
      next => rfl
    · rw [holders_release, pinned]
      by_cases same : other = table
      · subst same
        rw [if_pos rfl, if_pos rfl]
        omega
      · rw [if_neg same, if_neg fun both => same (Option.some.inj both).symm]
        rfl

/-- A table that was given up is not given up again. -/
theorem Unpins.clearForReclaim {after : Store Row} (unpins : store.Unpins after keyId) :
    after.clearForReclaim keyId = (false, after) := by
  refine clearForReclaim_of_unpinned ?_
  rw [unpins.entries, if_pos rfl]
  cases store.entryOf? keyId <;> rfl

theorem read_clearForReclaim (store : Store Row) (keyId other : Nat) :
    ((store.clearForReclaim keyId).2.read other).1 = (store.read other).1 := by
  rw [read_eq, read_eq, shown?_clearForReclaim]
  split
  next same =>
    rw [same, Option.map_map]
    rfl
  next => rfl

theorem contains_clearForReclaim (store : Store Row) (keyId other : Nat) :
    (store.clearForReclaim keyId).2.contains other = store.contains other := by
  rw [← isSome_read, ← isSome_read, read_clearForReclaim]

/-- A table that was pinned is kept by its recent handle, if it has one, and else by nothing. -/
theorem tier_clearForReclaim (store : Store Row) (keyId : Nat) :
    (store.clearForReclaim keyId).2.tier keyId =
      if store.tier keyId = .strong then if store.isRecent keyId then .recent else .weak
      else store.tier keyId := by
  rw [tier_eq, tier_eq, shown?_clearForReclaim, isRecent_clearForReclaim, if_pos rfl]
  cases store.shown? keyId with
  | none => rfl
  | some shown =>
      obtain ⟨table, pinned⟩ := shown
      cases pinned <;> cases store.isRecent keyId <;> rfl

theorem tier_clearForReclaim_of_ne (store : Store Row) (different : other ≠ keyId) :
    (store.clearForReclaim keyId).2.tier other = store.tier other := by
  rw [tier_eq, tier_eq, shown?_clearForReclaim, isRecent_clearForReclaim, if_neg different]

end Store

/-! ## Engines -/

namespace Hosted

variable {state : Hosted Row} {held : Multiset Nat} {keyId : Nat}

/-- An engine with nothing in its inbox is left as it is by a purge. -/
theorem purged_of_idle (idle : state.host.keys.posted state.engine.store.inbox = []) :
    state.purged = state := by
  obtain ⟨nothing, store⟩ := orphans_eq_nil idle
  have inboxes : state.host.keys.inboxes.adjust state.engine.store.inbox (fun _ => []) =
      state.host.keys.inboxes := by
    refine Numbered.eq_of_find? (Numbered.next_adjust _ _ _) fun inbox => ?_
    rw [Numbered.find?_adjust]
    split
    next same =>
      rw [Keys.posted, ← same] at idle
      cases found : state.host.keys.inboxes.find? inbox with
      | none => rfl
      | some posted =>
          rw [found, Option.getD_some] at idle
          rw [idle]
          rfl
    next => rfl
  have keys : (state.host.keys.collect state.engine.store.inbox).2 = state.host.keys :=
    congrArg (Keys.mk state.host.keys.owned) inboxes
  have recency : removeAll state.engine.recency state.orphans = state.engine.recency := by
    rw [nothing]
    rfl
  calc
    state.purged =
        ⟨⟨state.engine.config, state.purged.engine.store,
            removeAll state.engine.recency state.orphans, state.engine.recorder⟩,
          ⟨(state.host.keys.collect state.engine.store.inbox).2, state.host.clock⟩⟩ := rfl
    _ = state := by rw [store, keys, recency]

/-- An engine after the strong handle of a key was given up. -/
def unpinned (state : Hosted Row) (keyId : Nat) : Hosted Row :=
  state.purged.withStore (state.purged.engine.store.clearForReclaim keyId).2

theorem perform_clear (state : Hosted Row) (keyId : Nat) :
    (state.perform (.clear keyId true)).result = .ok .done ∧
      (state.perform (.clear keyId true)).state = state.unpinned keyId := ⟨rfl, rfl⟩

/-- There is nothing left to purge, and nothing left to give up. -/
theorem unpinned_unpinned (sound : state.engine.Sound held) (keyId : Nat) :
    (state.unpinned keyId).purged = state.unpinned keyId ∧
      (state.unpinned keyId).unpinned keyId = state.unpinned keyId := by
  have idle := purged_of_idle (posted_perform sound
    (rfl : (Request.clear keyId true : Request Row).locks = true))
  have unpins := (sound_purged sound).store.unpins keyId
  have same : (state.unpinned keyId).purged = state.unpinned keyId := idle
  refine ⟨same, ?_⟩
  have store : ((state.unpinned keyId).engine.store.clearForReclaim keyId).2 =
      (state.unpinned keyId).engine.store := by
    show ((state.purged.engine.store.clearForReclaim keyId).2.clearForReclaim keyId).2 = _
    rw [unpins.clearForReclaim]
    rfl
  calc
    (state.unpinned keyId).unpinned keyId =
        (state.unpinned keyId).withStore
          ((state.unpinned keyId).engine.store.clearForReclaim keyId).2 := by
      rw [unpinned, same]
    _ = state.unpinned keyId := congrArg (state.unpinned keyId).withStore store

/-- A key that is given up is kept by the index, if it is there. -/
theorem tier_unpinned (sound : state.engine.Sound held)
    (owned : state.host.keys.isOwned keyId = true) :
    (state.unpinned keyId).engine.store.tier keyId =
      if state.purged.engine.store.tier keyId = .strong then
        if state.engine.recency.contains keyId then .recent else .weak
      else state.purged.engine.store.tier keyId := by
  have ranked : state.purged.engine.store.isRecent keyId = state.engine.recency.contains keyId := by
    rw [← (sound_purged sound).inStep]
    show (removeAll state.engine.recency state.orphans).contains keyId = _
    rw [contains_removeAll, if_neg (notMem_orphans_of_isOwned owned)]
  rw [← ranked]
  exact Store.tier_clearForReclaim state.purged.engine.store keyId

end Hosted

/-! ## Runs -/

namespace System

variable {acts : List (Act Row)} {number keyId : Nat} {state : Hosted Row}

theorem statistics_told {system : System Row} (serving : system.serving? number = some state) :
    (system.step (.ask number .statistics)).result =
      state.engine.recorder.snapshot.result.map Response.statistics := by
  have admitted : (Request.statistics : Request Row).isAdmitted state.host.keys = true := rfl
  rw [result_ask serving admitted, Hosted.perform, Hosted.result_map, Hosted.statistics_result]

/-- An engine that is put back as it was leaves the system as it was. -/
theorem restore_self {system : System Row} (serving : system.serving? number = some state)
    {reply : Reply (Hosted Row) Response} (same : reply.state = state)
    (nothing : Hosted.given reply.result = []) : (system.restore number reply).state = system := by
  obtain ⟨running, host⟩ := serving?_eq_some_iff.1 serving
  obtain ⟨room, found⟩ := List.getElem?_eq_some_iff.1 running
  have caches : system.caches.set number (.running state.engine) = system.caches := by
    rw [← found, List.set_getElem_self]
  show System.mk reply.state.host (system.caches.set number (.running reply.state.engine))
    ((Hosted.given reply.result).map (Hold.mk number) ++ system.holds) = system
  rw [same, nothing, caches, host]
  rfl

/-- A buffer that is not persisted is refused, and nothing is done. -/
theorem clear_refused (serving : (after acts).serving? number = some state)
    (owned : state.host.keys.isOwned keyId = true) :
    ((after acts).step (.ask number (.clear keyId false))).result =
        .error (.unpersisted (state.host.keys.key keyId)) ∧
      ((after acts).step (.ask number (.clear keyId false))).state = after acts := by
  have admitted : (Request.clear keyId false : Request Row).isAdmitted state.host.keys = true :=
    owned
  rw [step_ask serving admitted]
  exact ⟨rfl, restore_self serving rfl rfl⟩

/-- A buffer that is not persisted is refused with its key, and nothing is changed anywhere, so that
whatever comes next is answered as if the buffer had not been given up.

For a buffer that is persisted the engine is purged, and the strong handle of its key goes; no other
part of the engine, no other engine and no hold is touched. Its tier was strong and is then recent
if the key is in the index, and else weak; every other tier is what it was. All keys still show the
same tables, and the counters say the same. To do the same again changes nothing. -/
theorem giving_up_is_all_or_nothing (serving : (after acts).serving? number = some state)
    (owned : state.host.keys.isOwned keyId = true) :
    ((after acts).step (.ask number (.clear keyId false))).result =
      .error (.unpersisted (state.host.keys.key keyId)) ∧
    ((after acts).step (.ask number (.clear keyId false))).state = after acts ∧
    (∀ rest, replies System.step ((after acts).step (.ask number (.clear keyId false))).state rest =
      replies System.step (after acts) rest) ∧
    let given := after (acts ++ [.ask number (.clear keyId true)])
    ((after acts).step (.ask number (.clear keyId true))).result = .ok .done ∧
    (∃ store, state.purged.engine.store.Unpins store keyId ∧
      given = ⟨state.purged.host,
        (after acts).caches.set number (.running { state.purged.engine with store := store }),
        (after acts).holds⟩) ∧
    (∃ tier,
      ((after acts).step (.ask number (.tier keyId))).result = .ok (.tier tier) ∧
      (given.step (.ask number (.tier keyId))).result =
        .ok (.tier
          (if tier = .strong then
            if state.engine.recency.contains keyId then .recent else .weak
          else tier))) ∧
    (∀ other, state.host.keys.isOwned other = true →
      (other ≠ keyId → (given.step (.ask number (.tier other))).result =
        ((after acts).step (.ask number (.tier other))).result) ∧
      (given.step (.ask number (.contains other))).result =
        ((after acts).step (.ask number (.contains other))).result ∧
      (given.step (.ask number (.peek other))).result =
        ((after acts).step (.ask number (.peek other))).result) ∧
    (given.step (.ask number .statistics)).result =
      ((after acts).step (.ask number .statistics)).result ∧
    (given.step (.ask number (.clear keyId true))).result = .ok .done ∧
    (given.step (.ask number (.clear keyId true))).state = given := by
  obtain ⟨running, -⟩ := serving?_eq_some_iff.1 serving
  have sound := engine_sound_after running
  have admitted : (Request.clear keyId true : Request Row).isAdmitted state.host.keys = true :=
    owned
  obtain ⟨refused, unchanged⟩ := clear_refused serving owned
  obtain ⟨idle, again⟩ := Hosted.unpinned_unpinned sound keyId
  obtain ⟨still, host⟩ := running_ask serving admitted
  rw [← after_concat] at still host
  have next : (after (acts ++ [.ask number (.clear keyId true)])).serving? number =
      some (state.unpinned keyId) := serving?_eq_some_iff.2 ⟨still, host.symm⟩
  have owner : ∀ other, state.host.keys.isOwned other = true →
      (state.unpinned keyId).host.keys.isOwned other = true := fun _ owned => owned
  have repeated : (Request.clear keyId true : Request Row).isAdmitted
      (state.unpinned keyId).host.keys = true := owner keyId owned
  refine ⟨refused, unchanged, fun rest => by rw [unchanged], ?_⟩
  intro given
  refine ⟨?_, ⟨_, (Hosted.sound_purged sound).store.unpins keyId, ?_⟩, ?_,
    fun other known => ⟨fun apart => ?_, ?_, ?_⟩, ?_, ?_, ?_⟩
  · rw [result_ask serving admitted]
    exact (Hosted.perform_clear state keyId).1
  · show after _ = _
    rw [after_concat, step_ask serving admitted]
    rfl
  · refine ⟨_, tier_told serving owned, (tier_told next (owner keyId owned)).trans ?_⟩
    rw [idle]
    exact congrArg (Except.ok ∘ Response.tier) (Hosted.tier_unpinned sound owned)
  · rw [tier_told next (owner other known), tier_told serving known, idle]
    exact congrArg (Except.ok ∘ Response.tier) (Store.tier_clearForReclaim_of_ne _ apart)
  · rw [contains_told next (owner other known), contains_told serving known, idle]
    exact congrArg (Except.ok ∘ Response.flag) (Store.contains_clearForReclaim _ keyId other)
  · rw [peek_told next (owner other known), peek_told serving known, idle]
    exact congrArg (Except.ok ∘ Response.table) (Store.read_clearForReclaim _ keyId other)
  · have same : (state.unpinned keyId).engine.recorder = state.engine.recorder := rfl
    rw [statistics_told next, statistics_told serving, same]
  · rw [result_ask next repeated]
    exact (Hosted.perform_clear _ keyId).1
  · rw [step_ask next repeated]
    obtain ⟨done, left⟩ := Hosted.perform_clear (state.unpinned keyId) keyId
    exact restore_self next (left.trans again) (by rw [done]; rfl)

/-- Three pinned keys in an engine with room for one of them in recent use, which is the second one.
The owner of the third one is gone, and its entry is still there. -/
def outgrown : List (Act Nat) :=
  [.createKey "a", .createKey "b", .createKey "c", .build ⟨1, 300⟩, .ask 0 (.put 3 [9]),
    .ask 0 (.put 1 [7, 8]), .ask 0 (.put 2 [5]), .dropKey 3]

/-- Unless its buffer is persisted, the first key is refused, and the entry of the third one stays.
When it is given up it becomes weak, and the second one in its place becomes recent. -/
theorem giving_up_is_all_or_nothing_outgrown :
    (((after outgrown).step (.ask 0 (.clear 1 false))).result =
        .error (.unpersisted ((after outgrown).host.keys.key 1)) ∧
      ((after outgrown).step (.ask 0 (.clear 1 false))).state = after outgrown) ∧
    ((after (outgrown ++ [.ask 0 (.clear 1 true)])).step (.ask 0 (.tier 1))).result =
      .ok (.tier .weak) ∧
    ((after (outgrown ++ [.ask 0 (.clear 1 true)])).step (.ask 0 (.peek 1))).result =
      .ok (.table (some 1)) ∧
    ((after (outgrown ++ [.ask 0 (.clear 2 true)])).step (.ask 0 (.tier 2))).result =
      .ok (.tier .recent) := by
  have serving : (after outgrown).serving? 0 = some _ := rfl
  obtain ⟨refused, unchanged, -, -, -, ⟨first, told, weaker⟩, others, -⟩ :=
    @giving_up_is_all_or_nothing Nat _ _ 1 _ serving rfl
  obtain ⟨-, -, -, -, -, ⟨second, second_told, recent⟩, -⟩ :=
    @giving_up_is_all_or_nothing Nat _ _ 2 _ serving rfl
  cases (told : Except.ok (Response.tier .strong) = Except.ok (.tier first))
  cases (second_told : Except.ok (Response.tier .strong) = Except.ok (.tier second))
  exact ⟨⟨refused, unchanged⟩, weaker, (others 1 rfl).2.2, recent⟩

end System

end TableCache
