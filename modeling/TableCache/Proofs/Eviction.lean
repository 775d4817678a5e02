import TableCache.Proofs.RecentUse
import TableCache.Proofs.Store.Passes
import TableCache.Proofs.System.Clock

/-!
# Reclaim passes follow the index

The index of an engine pushes out the key whose use is longest ago by its own count of uses. A
reclaim pass knows nothing of the index; it sorts cells by the ticks of the clock that all engines
share. The two orders agree, so of the tables in recent use a pass clears first those that the index
would push out first.

Main statements:

1. `memory_registered_after`, `registered_after`: every cell of an engine is registered once;
2. `Engine.keyIds_recentCandidates`: a pass goes over the tables in recent use in the order of the
   index;
3. `reclaim_follows_recency`: so what a bounded pass clears of them is the front of that order.
-/

namespace TableCache

universe u

variable {Row : Type u}

/-! ## Every cell is registered -/

namespace Hosted

theorem shrinks_yielded (store : Store Row) (evicted : Option Nat) :
    store.memory.Shrinks (yielded store evicted).memory := by
  cases evicted with
  | none => exact .of_cells rfl rfl
  | some evicted => exact Store.shrinks_dropRecent store evicted

theorem shrinks_touch (state : Hosted Row) (keyId : Nat) :
    state.engine.store.memory.Shrinks (state.touch keyId).engine.store.memory := by
  rw [touch_eq]
  exact shrinks_yielded _ _

theorem registered_of_move {before after : Hosted Row} (move : Move before after)
    (registered : before.engine.store.memory.Registered) :
    after.engine.store.memory.Registered := by
  cases move with
  | purged sound => exact (Store.shrinks_removeOrphans _ _ _).registered registered
  | placed keyId rows sound =>
      have stocked : (before.stocked keyId rows).engine.store.memory.Registered :=
        Store.registered_put registered before.host keyId rows
      exact (shrinks_touch _ keyId).registered stocked
  | read keyId => exact (Store.shrinks_read _ keyId).registered registered
  | @promoted _ keyId sound present =>
      have touched := (shrinks_touch before keyId).registered registered
      exact (Store.shrinks_attachRecent _ _ keyId).registered touched
  | forgotten keyId sound => exact (Store.shrinks_invalidate _ keyId).registered registered
  | unpinned keyId => exact (Store.shrinks_clearForReclaim _ keyId).registered registered
  | counted recorder => exact registered
  | released table => exact (Memory.shrinks_release _ table).registered registered

theorem registered_of_course {before after : Hosted Row}
    (course : Relation.ReflTransGen Move before after)
    (registered : before.engine.store.memory.Registered) :
    after.engine.store.memory.Registered := by
  induction course with
  | refl => exact registered
  | tail _ move ih => exact registered_of_move move ih

end Hosted

theorem Memory.registered_discards (entries : List Entry) {memory : Memory Row}
    (registered : memory.Registered) :
    (entries.foldl (fun memory entry => entry.discard memory) memory).Registered := by
  induction entries generalizing memory with
  | nil => exact registered
  | cons first rest ih => exact ih ((shrinks_discard first memory).registered registered)

/-- Every act keeps the cells of an engine registered, and so does its end. -/
theorem Turn.registered {number : Nat} {host next : Host} {cache later : Cache Row}
    {held others : Multiset Nat} {act : Act Row}
    (turn : Turn number host cache held act next later others) (sound : cache.Sound held)
    (registered : cache.memory.Registered) : later.memory.Registered := by
  have kept : ∀ (cache : Cache Row) {memory : Memory Row}, memory.Registered →
      (cache.withMemory memory).memory.Registered := by
    intro cache memory registered
    cases cache <;> exact registered
  cases turn with
  | @asked state _ request admitted =>
      exact Hosted.registered_of_course (Hosted.course_perform sound request) registered
  | closed => exact Memory.registered_discards _ registered
  | reclaimed => cases cache <;> exact registered.reclaim _
  | pruned => exact kept cache registered.live
  | shared => exact kept cache ((Memory.shrinks_share _ _).registered registered)
  | dropped => exact kept cache ((Memory.shrinks_release _ _).registered registered)
  | spared => exact registered

namespace System

variable {acts : List (Act Row)} {number : Nat}

theorem memory_registered_after {cache : Cache Row}
    (there : (after acts).caches[number]? = some cache) : cache.memory.Registered := by
  induction acts using List.reverseRecOn generalizing cache with
  | nil => simp [after, finalState, empty] at there
  | append_singleton acts act ih =>
      have sound := sound_after acts
      rw [after_concat] at there
      rcases before : (after acts).caches[number]? with _ | earlier
      · obtain ⟨-, absent | ⟨config, -, -, -, built⟩⟩ := birth_of_step sound before act
        · rw [absent] at there
          cases there
        · rw [built] at there
          cases there
          exact Memory.registered_empty
      · obtain ⟨later, found, turn⟩ := turn_of_step before act
        rw [there] at found
        cases found
        exact turn.registered (sound.caches number earlier before) (ih before)

theorem registered_after {engine : Engine Row}
    (running : (after acts).caches[number]? = some (.running engine)) :
    engine.store.memory.Registered := memory_registered_after running

end System

/-! ## Two orders that agree -/

namespace Store

variable {store : Store Row} {held : Multiset Nat}

/-- Whether the table of a key could be cleared now. -/
def isReclaimable (store : Store Row) (keyId : Nat) : Bool :=
  (store.cellOf? keyId).any store.memory.isReclaimable

/-- A cell is the cell of the key that it names. -/
theorem Sound.cellOf?_keyId (sound : store.Sound held) {cell : Nat}
    (present : store.memory.isPresent cell = true) :
    store.cellOf? (store.memory.keyId cell) = some cell := by
  obtain ⟨keyId, entry, member, rfl⟩ := Memory.Backs.entry_of_cell sound present
  have found : store.entryOf? keyId = some entry := Numbered.mem_pairs.1 member
  rw [(sound.linked found).keyId, cellOf?, found]
  rfl

theorem Sound.keyId_of_cellOf? (sound : store.Sound held) {keyId cell : Nat}
    (there : store.cellOf? keyId = some cell) : store.memory.keyId cell = keyId := by
  obtain ⟨entry, found, rfl⟩ := Option.map_eq_some_iff.1 there
  exact (sound.linked found).keyId

theorem Sound.usedAt_of_present (sound : store.Sound held) {cell : Nat}
    (present : store.memory.isPresent cell = true) :
    store.usedAt (store.memory.keyId cell) = some (store.memory.lastUsed cell) := by
  obtain ⟨entry, found, rfl⟩ := Option.map_eq_some_iff.1 (sound.cellOf?_keyId present)
  exact sound.usedAt_eq_some found

end Store

namespace Engine

variable {engine : Engine Row} {held : Multiset Nat} {clock : Nat}

/-- Cells with the same tick are the same. -/
theorem Dated.cell_inj (dated : engine.Dated clock) (sound : engine.Sound held) {first second : Nat}
    (one : engine.store.memory.isPresent first = true)
    (other : engine.store.memory.isPresent second = true)
    (same : engine.store.memory.lastUsed first = engine.store.memory.lastUsed second) :
    first = second := by
  have used := sound.store.usedAt_of_present one
  have use := sound.store.usedAt_of_present other
  rw [same] at used
  have cells := sound.store.cellOf?_keyId one
  rw [dated.apart _ _ _ used use, sound.store.cellOf?_keyId other] at cells
  exact (Option.some.inj cells).symm

/-- A key of the index has a cell with a tick. -/
theorem Sound.usedAt_of_mem (sound : engine.Sound held) (index : engine.recency.Ordered)
    {keyId : Nat} (member : keyId ∈ engine.recency.members) :
    ∃ cell tick, engine.store.cellOf? keyId = some cell ∧
      engine.store.memory.isRecentlyHeld cell = true ∧ engine.store.usedAt keyId = some tick := by
  have contained := (Recency.mem_members index.toPaired).1 member
  obtain ⟨entry, found, recent⟩ := (sound.contains_iff_isRecentlyHeld keyId).1 contained
  refine ⟨entry.cell, _, ?_, recent, sound.store.usedAt_eq_some found⟩
  rw [Store.cellOf?, found]
  rfl

/-- A pass goes over the tables in recent use in the order of the index. Both lists are in the
strict order of the ticks, and they have the same members. -/
theorem keyIds_recentCandidates (sound : engine.Sound held) (dated : engine.Dated clock)
    (registered : engine.store.memory.Registered) :
    engine.store.memory.recentCandidates.map engine.store.memory.keyId =
      engine.recency.members.filter engine.store.isReclaimable := by
  let memory := engine.store.memory
  let before : Nat → Nat → Prop := fun first second =>
    (engine.store.usedAt first).getD 0 < (engine.store.usedAt second).getD 0
  have sorted : (memory.recentCandidates.map memory.keyId).Pairwise before := by
    refine List.pairwise_map.2 ?_
    have distinct := registered.nodup_recentCandidates
    refine ((Memory.pairwise_sortByUse memory _).and distinct).imp_of_mem ?_
    intro first second one other both
    have here := Memory.isPresent_of_isReclaimable (registered.mem_recentCandidates.1 one).1
    have there := Memory.isPresent_of_isReclaimable (registered.mem_recentCandidates.1 other).1
    show (engine.store.usedAt _).getD 0 < (engine.store.usedAt _).getD 0
    rw [sound.store.usedAt_of_present here, sound.store.usedAt_of_present there]
    exact Nat.lt_of_le_of_ne both.1 fun same => both.2 (dated.cell_inj sound here there same)
  have ranked : (engine.recency.members.filter engine.store.isReclaimable).Pairwise before := by
    refine (dated.ranked.sublist List.filter_sublist).imp_of_mem ?_
    intro first second one other less
    obtain ⟨-, tick, -, -, used⟩ := sound.usedAt_of_mem dated.ordered (List.mem_filter.1 one).1
    obtain ⟨-, last, -, -, use⟩ := sound.usedAt_of_mem dated.ordered (List.mem_filter.1 other).1
    show (engine.store.usedAt _).getD 0 < (engine.store.usedAt _).getD 0
    rw [used, use]
    exact less tick last used use
  have irreflexive : Std.Irrefl before := ⟨fun _ => Nat.lt_irrefl _⟩
  have antisymmetric : Std.Antisymm before :=
    ⟨fun _ _ less more => absurd more (Nat.lt_asymm less)⟩
  refine sorted.eq_of_mem_iff ranked fun keyId => ?_
  rw [List.mem_map, List.mem_filter]
  constructor
  · rintro ⟨cell, member, rfl⟩
    obtain ⟨clearable, recent⟩ := registered.mem_recentCandidates.1 member
    have cells := sound.store.cellOf?_keyId (Memory.isPresent_of_isReclaimable clearable)
    obtain ⟨entry, found, same⟩ := Option.map_eq_some_iff.1 cells
    refine ⟨(Recency.mem_members dated.ordered.toPaired).2 ?_, ?_⟩
    · exact (sound.contains_iff_isRecentlyHeld _).2 ⟨entry, found, same ▸ recent⟩
    · rw [Store.isReclaimable, cells]
      exact clearable
  · rintro ⟨member, clearable⟩
    obtain ⟨cell, tick, cells, recent, -⟩ := sound.usedAt_of_mem dated.ordered member
    rw [Store.isReclaimable, cells] at clearable
    exact ⟨cell, registered.mem_recentCandidates.2 ⟨clearable, recent⟩,
      sound.store.keyId_of_cellOf? cells⟩

/-- A key comes before another in the index if its cell was used before. -/
theorem lastUsed_lt_iff (sound : engine.Sound held) (dated : engine.Dated clock)
    {first second one other : Nat} (here : engine.recency.ticks.find? first = some one)
    (there : engine.recency.ticks.find? second = some other) :
    ∃ entry alike, engine.store.entryOf? first = some entry ∧
      engine.store.entryOf? second = some alike ∧
      (one < other ↔
        engine.store.memory.lastUsed entry.cell < engine.store.memory.lastUsed alike.cell) := by
  have entries : ∀ {keyId tick}, engine.recency.ticks.find? keyId = some tick →
      ∃ entry, engine.store.entryOf? keyId = some entry ∧
        engine.store.usedAt keyId = some (engine.store.memory.lastUsed entry.cell) := by
    intro keyId tick known
    obtain ⟨entry, found, -⟩ :=
      (sound.contains_iff_recent keyId).1 (Recency.contains_iff.2 ⟨tick, known⟩)
    exact ⟨entry, found, sound.store.usedAt_eq_some found⟩
  obtain ⟨entry, found, used⟩ := entries here
  obtain ⟨alike, known, use⟩ := entries there
  have forward := fun less =>
    dated.ordered.of_pairwise_members dated.ranked here there less _ _ used use
  refine ⟨entry, alike, found, known, forward, fun less => ?_⟩
  rcases Nat.lt_trichotomy one other with before | rfl | behind
  · exact before
  · have inverse := dated.ordered.inverse
    have same := ((inverse first one).1 here).symm.trans ((inverse second one).1 there)
    cases same
    rw [used] at use
    exact absurd (Option.some.inj use) (Nat.ne_of_lt less)
  · have backward := dated.ordered.of_pairwise_members dated.ranked there here behind _ _ use used
    exact absurd less (Nat.lt_asymm backward)

end Engine

namespace System

/-- No two cells of a system have the same tick. -/
theorem cell_inj {system : System Row} (sound : system.Sound) (timed : system.Timed)
    {number other cell last : Nat} {first second : Cache Row}
    (here : system.caches[number]? = some first) (there : system.caches[other]? = some second)
    (one : first.memory.isPresent cell = true) (two : second.memory.isPresent last = true)
    (same : first.memory.lastUsed cell = second.memory.lastUsed last) :
    number = other ∧ cell = last := by
  obtain ⟨engine, rfl⟩ := running_of_present sound here one
  obtain ⟨alike, rfl⟩ := running_of_present sound there two
  have counts : engine.Sound _ := sound.caches number _ here
  have others : alike.Sound _ := sound.caches other _ there
  have used := counts.store.usedAt_of_present one
  have use := others.store.usedAt_of_present two
  rw [show engine.store.memory.lastUsed cell = alike.store.memory.lastUsed last from same] at used
  obtain rfl := timed.apart number other engine alike _ _ _ here there used use
  rw [here] at there
  cases there
  exact ⟨rfl, (timed.dated number engine here).cell_inj counts one two same⟩

/-- Whatever was done in a system: a key stands before another in the index of an engine exactly if
its cell has the earlier tick, and no two cells of any engines have the same tick. So if a bounded
pass clears tables in recent use, it takes them in the order in which the index would push their
keys out if enough new keys were used. -/
theorem reclaim_follows_recency (acts : List (Act Row)) {number : Nat} {engine : Engine Row}
    (running : (after acts).caches[number]? = some (.running engine)) :
    (∀ first second one other, engine.recency.ticks.find? first = some one →
      engine.recency.ticks.find? second = some other →
      ∃ entry alike, engine.store.entryOf? first = some entry ∧
        engine.store.entryOf? second = some alike ∧
        (one < other ↔
          engine.store.memory.lastUsed entry.cell < engine.store.memory.lastUsed alike.cell)) ∧
    (∀ (other : Nat) (cache : Cache Row) (cell last : Nat),
      (after acts).caches[other]? = some cache →
      engine.store.memory.isPresent cell = true → cache.memory.isPresent last = true →
      engine.store.memory.lastUsed cell = cache.memory.lastUsed last →
      number = other ∧ cell = last) ∧
    ∀ (count : Nat) (fresh : List Nat), fresh.Nodup →
      (∀ keyId ∈ fresh, engine.recency.contains keyId = false) →
      fresh.length = engine.config.recencyCapacity →
      ((engine.store.memory.reclaim (.bounded count)).clearances.filter
          Clearance.recentlyUsed).map Clearance.keyId =
        ((engine.recency.pushedOut fresh).filter engine.store.isReclaimable).take
          (count - (engine.store.memory.reclaim (.bounded count)).report.weakCleared) := by
  have sound := sound_after acts
  have timed := timed_after acts
  have counts : engine.Sound _ := sound.caches number _ running
  have dated := timed.dated number engine running
  have registered := registered_after running
  refine ⟨?_, ?_, ?_⟩
  · intro first second one other here there
    exact Engine.lastUsed_lt_iff counts dated here there
  · intro other cache cell last there one two same
    exact cell_inj sound timed running there one two same
  · intro count fresh distinct new many
    rw [← counts.capacity] at many
    have thorough : Pressure.bounded count ≠ .weakOnly := fun same => by cases same
    rw [dated.ordered.pushedOut_of_capacity distinct new many,
      counts.store.recent_clearances registered thorough, Pressure.budget, Option.map_some,
      Memory.within, List.map_take, Engine.keyIds_recentCandidates counts dated registered]

/-- Three keys put into an engine with room for two of them in recent use, while another engine is
used as well. The second key is used again, and all three tables can be cleared. -/
def renewed : List (Act Nat) :=
  [.createKey "a", .createKey "b", .createKey "c", .build ⟨2, 300⟩, .build ⟨2, 300⟩,
    .ask 0 (.put 1 [7]), .ask 0 (.put 2 [8]), .ask 1 (.put 2 [5]), .ask 0 (.put 3 [9]),
    .ask 0 (.get 2 0), .dropHold ⟨0, 0⟩, .dropHold ⟨0, 1⟩, .dropHold ⟨0, 1⟩, .dropHold ⟨0, 2⟩,
    .ask 0 (.clear 1 true), .ask 0 (.clear 2 true), .ask 0 (.clear 3 true)]

/-- A pass over two tables clears the first one, which is not in recent use any more, and the third
one, which the index would push out before the second one. -/
theorem reclaim_follows_recency_renewed :
    ∃ engine, (after renewed).caches[0]? = some (.running engine) ∧
      engine.recency.pushedOut [4, 5] = [3, 2] ∧
      ((engine.store.memory.reclaim (.bounded 2)).clearances.filter
        Clearance.recentlyUsed).map Clearance.keyId = [3] := by
  have running : (after renewed).caches[0]? = some (.running _) := rfl
  obtain ⟨-, -, passes⟩ := reclaim_follows_recency renewed running
  refine ⟨_, running, by decide, ?_⟩
  rw [passes 2 [4, 5] (by decide) (by decide) rfl]
  decide

end System

end TableCache
