import TableCache.Engine.Basic
import TableCache.Proofs.Recency
import TableCache.Proofs.Recorder
import TableCache.Proofs.Store.View

/-!
# Sound engines, and how they purge and promote

An engine is sound if its store counts right, its recency index holds no more than it can, and index
and store agree on every key about recent use. Everything an engine is asked is answered after the
entries of keys without owners were removed, so that is looked at first; then the three moves that
the answers are made of: to touch a key in the index, to promote it, and to forget it.

`Hosted.Follows` says of two states of an engine what holds of any earlier and any later one.

Main statements:

1. `sound_purged`, `shown?_purged_of_isOwned`: a purge keeps an engine sound, and keys with an owner
   show what they showed;
2. `sound_promote`, `shown?_promote`: so does a promotion, of all keys;
3. `sound_forget`, `shown?_forget`: a forgotten key shows nothing.
-/

namespace TableCache

universe u v

variable {Row : Type u}

/-- The store of an engine counts right, its index holds no more than it can, and index and store
agree on what is in recent use. -/
structure Engine.Sound (engine : Engine Row) (held : Multiset Nat) : Prop where
  store : engine.store.Sound held
  recency : engine.recency.Sound
  inStep : ∀ keyId, engine.recency.contains keyId = engine.store.isRecent keyId
  capacity : engine.recency.capacity = engine.config.recencyCapacity

/-! ## What owns a key stays -/

namespace Keys

/-- How many owners a key has, if it has any. -/
def owners? (keys : Keys) (id : Nat) : Option Nat := (keys.owned.find? id).map Identity.owners

theorem isOwned_eq (keys : Keys) (id : Nat) : keys.isOwned id = (keys.owners? id).isSome := by
  rw [isOwned, Numbered.contains, owners?, Option.isSome_map]

theorem owners?_watch (keys : Keys) (id inbox other : Nat) :
    (keys.watch id inbox).owners? other = keys.owners? other := by
  refine Numbered.map_find?_adjust _ _ _ _ fun identity => ?_
  split <;> rfl

theorem owners?_create (keys : Keys) (label : String) (id : Nat) :
    (keys.create label).2.owners? id =
      if id = keys.owned.next then some 1 else keys.owners? id := by
  rw [owners?, owners?, create, Numbered.find?_add]
  split <;> rfl

theorem owners?_share (keys : Keys) (id other : Nat) :
    (keys.share id).owners? other =
      if other = id then (keys.owners? other).map (· + 1) else keys.owners? other := by
  simp only [owners?, share, Numbered.find?_adjust]
  split
  next => rw [Option.map_map, Option.map_map]; rfl
  next => rfl

theorem next_watch (keys : Keys) (id inbox : Nat) :
    (keys.watch id inbox).owned.next = keys.owned.next :=
  Numbered.next_adjust _ _ _

end Keys

namespace Hosted

/-- What holds of a state of an engine and any later one, whatever the engine was asked: no table
changed its rows, the configuration and the inbox are the same, and no key got or lost an owner. -/
structure Follows (before after : Hosted Row) : Prop where
  memory : before.engine.store.memory.Later after.engine.store.memory
  config : after.engine.config = before.engine.config
  inbox : after.engine.store.inbox = before.engine.store.inbox
  owners : ∀ keyId, after.host.keys.owners? keyId = before.host.keys.owners? keyId
  next : after.host.keys.owned.next = before.host.keys.owned.next

theorem Follows.refl (state : Hosted Row) : state.Follows state :=
  ⟨.refl _, rfl, rfl, fun _ => rfl, rfl⟩

theorem Follows.trans {first second third : Hosted Row} (one : first.Follows second)
    (other : second.Follows third) : first.Follows third where
  memory := one.memory.trans other.memory
  config := other.config.trans one.config
  inbox := other.inbox.trans one.inbox
  owners := fun keyId => (other.owners keyId).trans (one.owners keyId)
  next := other.next.trans one.next

theorem Follows.owned {before after : Hosted Row} (follows : before.Follows after) (keyId : Nat) :
    after.host.keys.isOwned keyId = before.host.keys.isOwned keyId := by
  rw [Keys.isOwned_eq, Keys.isOwned_eq, follows.owners]

/-- An engine that only did something to its memory. -/
theorem Follows.of_memory {before after : Hosted Row}
    (memory : before.engine.store.memory.Later after.engine.store.memory)
    (config : after.engine.config = before.engine.config)
    (inbox : after.engine.store.inbox = before.engine.store.inbox)
    (keys : after.host.keys = before.host.keys) : before.Follows after :=
  ⟨memory, config, inbox, fun keyId => by rw [keys], by rw [keys]⟩

variable {state : Hosted Row} {held : Multiset Nat} {keyId : Nat}

/-! ## Purging -/

theorem removeAll_cons (recency : Recency) (first : Nat) (rest : List Nat) :
    removeAll recency (first :: rest) = removeAll (recency.remove first).2 rest := rfl

theorem sound_removeAll {recency : Recency} (sound : recency.Sound) (keyIds : List Nat) :
    (removeAll recency keyIds).Sound := by
  induction keyIds generalizing recency with
  | nil => exact sound
  | cons first rest ih => exact ih (sound.remove first)

theorem capacity_removeAll (recency : Recency) (keyIds : List Nat) :
    (removeAll recency keyIds).capacity = recency.capacity := by
  induction keyIds generalizing recency with
  | nil => rfl
  | cons first rest ih => rw [removeAll_cons, ih, Recency.capacity_remove]

theorem contains_removeAll (recency : Recency) (keyIds : List Nat) (keyId : Nat) :
    (removeAll recency keyIds).contains keyId =
      if keyId ∈ keyIds then false else recency.contains keyId := by
  induction keyIds generalizing recency with
  | nil => rfl
  | cons first rest ih =>
      have removed := Recency.contains_remove recency first keyId
      rw [removeAll_cons, ih]
      by_cases later : keyId ∈ rest
      · simp [later]
      · by_cases same : keyId = first
        · simp_all
        · rw [Bool.eq_iff_iff]
          simp [later, same, removed]

/-- The keys without owners whose entries a purge removes. -/
def orphans (state : Hosted Row) : List Nat := (state.engine.store.expunge state.host).1

/-- An engine after a purge, as it is before it is asked anything. -/
def purged (state : Hosted Row) : Hosted Row := state.purgeOrphans.state

theorem ask_state {α : Type v} (state : Hosted Row) (next : Hosted Row → Reply (Hosted Row) α) :
    (state.ask next).state = (next state.purged).state := rfl

theorem ask_result {α : Type v} (state : Hosted Row) (next : Hosted Row → Reply (Hosted Row) α) :
    (state.ask next).result = (next state.purged).result := rfl

theorem isOwned_of_mem_orphans (orphan : keyId ∈ state.orphans) :
    state.host.keys.isOwned keyId = false :=
  (Store.removed_removeOrphans _ _ _ keyId orphan).2.1

/-- No key with an owner is an orphan. -/
theorem notMem_orphans_of_isOwned (owned : state.host.keys.isOwned keyId = true) :
    keyId ∉ state.orphans := by
  intro orphan
  rw [isOwned_of_mem_orphans orphan] at owned
  cases owned

theorem shown?_purged (sound : state.engine.Sound held) (keyId : Nat) :
    state.purged.engine.store.shown? keyId =
      if keyId ∈ state.orphans then none else state.engine.store.shown? keyId :=
  sound.store.shown?_removeOrphans _ _ keyId

/-- A purge does not touch a key that has an owner. -/
theorem shown?_purged_of_isOwned (sound : state.engine.Sound held)
    (owned : state.host.keys.isOwned keyId = true) :
    state.purged.engine.store.shown? keyId = state.engine.store.shown? keyId := by
  rw [shown?_purged sound, if_neg (notMem_orphans_of_isOwned owned)]

theorem sound_purged (sound : state.engine.Sound held) : state.purged.engine.Sound held where
  store := sound.store.removeOrphans _ _
  recency := sound_removeAll sound.recency _
  inStep := by
    intro keyId
    show (removeAll state.engine.recency state.orphans).contains keyId = _
    rw [contains_removeAll, sound.inStep]
    exact (Store.isRecent_removeOrphans _ _ _ keyId).symm
  capacity := (capacity_removeAll _ _).trans sound.capacity

theorem inbox_invalidate (store : Store Row) (keyId : Nat) :
    (store.invalidate keyId).2.inbox = store.inbox := by
  unfold Store.invalidate
  split <;> rfl

theorem inbox_removeOrphans (keys : Keys) (posted : List Nat) (store : Store Row) :
    (Store.removeOrphans keys posted store).2.inbox = store.inbox := by
  induction posted generalizing store with
  | nil => rfl
  | cons first rest ih =>
      rw [Store.removeOrphans]
      split
      next =>
        rw [ih, inbox_invalidate]
      next => exact ih store

theorem follows_purged (state : Hosted Row) : state.Follows state.purged where
  memory := Store.later_removeOrphans _ _ _
  config := rfl
  inbox := inbox_removeOrphans _ _ _
  owners := fun _ => rfl
  next := rfl

/-! ## Touching a key -/

/-- A store after the recent handle of a key that was pushed out of the index was dropped. -/
def yielded (store : Store Row) : Option Nat → Store Row
  | none => store
  | some evicted => (store.dropRecent evicted).2

theorem touch_eq (state : Hosted Row) (keyId : Nat) :
    state.touch keyId =
      { state with
        engine := { state.engine with
          store := yielded state.engine.store (state.engine.recency.touch keyId).1
          recency := (state.engine.recency.touch keyId).2 } } := by
  unfold touch
  rcases state.engine.recency.touch keyId with ⟨_ | evicted, recency⟩ <;> rfl

variable {store : Store Row}

theorem sound_yielded (sound : store.Sound held) (evicted : Option Nat) :
    (yielded store evicted).Sound held := by
  cases evicted with
  | none => exact sound
  | some evicted => exact sound.dropRecent evicted

theorem later_yielded (store : Store Row) (evicted : Option Nat) :
    store.memory.Later (yielded store evicted).memory := by
  cases evicted with
  | none => exact .refl _
  | some evicted => exact Store.later_dropRecent store evicted

theorem shown?_yielded (sound : store.Sound held) (evicted : Option Nat) (keyId : Nat) :
    (yielded store evicted).shown? keyId = store.shown? keyId := by
  cases evicted with
  | none => rfl
  | some evicted => exact sound.shown?_dropRecent evicted keyId

theorem isRecent_yielded (store : Store Row) (evicted : Option Nat) (keyId : Nat) :
    (yielded store evicted).isRecent keyId =
      if evicted = some keyId then false else store.isRecent keyId := by
  cases evicted with
  | none => rfl
  | some evicted =>
      rw [yielded, Store.isRecent_dropRecent]
      simp only [Option.some.injEq, eq_comm]

theorem inbox_dropRecent (store : Store Row) (keyId : Nat) :
    (store.dropRecent keyId).2.inbox = store.inbox := by
  unfold Store.dropRecent
  split <;> rfl

theorem inbox_yielded (store : Store Row) (evicted : Option Nat) :
    (yielded store evicted).inbox = store.inbox := by
  cases evicted with
  | none => rfl
  | some evicted => exact inbox_dropRecent store evicted

theorem follows_touch (state : Hosted Row) (keyId : Nat) : state.Follows (state.touch keyId) := by
  rw [touch_eq]
  exact .of_memory (later_yielded _ _) rfl (inbox_yielded _ _) rfl

/-- After a key was touched the index and the store agree on all other keys if they did before. The
index has the touched key whether or not its entry has a recent handle yet. -/
theorem inStep_touch (recency : state.engine.recency.Sound)
    (inStep : ∀ other, other ≠ keyId →
      state.engine.recency.contains other = state.engine.store.isRecent other) (other : Nat) :
    (state.touch keyId).engine.recency.contains other =
      if other = keyId then true else (state.touch keyId).engine.store.isRecent other := by
  have contained := Recency.contains_touch recency keyId other
  have kept := Recency.evicted_ne recency keyId
  rw [touch_eq, Bool.eq_iff_iff]
  simp only
  rw [contained, isRecent_yielded]
  by_cases same : other = keyId
  · subst same
    simp [kept]
  · rw [← inStep other same]
    by_cases evicted : (state.engine.recency.touch keyId).1 = some other <;> simp [same, evicted]

/-! ## Promoting a key -/

/-- Marking a key as used last gives its entry a recent handle, so a sound engine stays sound. The
key pushed out only loses its handle, so the entry of the touched key is still there. -/
theorem sound_promote (sound : state.engine.Sound held) {shown : Shown}
    (there : state.engine.store.shown? keyId = some shown) :
    (state.promote keyId).engine.Sound held := by
  have touched : (state.touch keyId).engine.store.Sound held := by
    rw [touch_eq]
    exact sound_yielded sound.store _
  have present : ((state.touch keyId).engine.store.entryOf? keyId).isSome = true := by
    have still : (state.touch keyId).engine.store.shown? keyId = some shown := by
      rw [touch_eq]
      exact (shown?_yielded sound.store _ keyId).trans there
    obtain ⟨entry, found, -⟩ := Option.bind_eq_some_iff.1 still
    rw [found, Option.isSome_some]
  refine ⟨touched.attachRecent _ keyId, ?_, fun other => ?_, ?_⟩
  · show (state.touch keyId).engine.recency.Sound
    rw [touch_eq]
    exact sound.recency.touch keyId
  · have before : ∀ other, other ≠ keyId →
        state.engine.recency.contains other = state.engine.store.isRecent other :=
      fun other _ => sound.inStep other
    have agree := inStep_touch sound.recency before other
    show (state.touch keyId).engine.recency.contains other =
      ((state.touch keyId).engine.store.attachRecent (state.touch keyId).host keyId).1.isRecent
        other
    rw [agree, Store.isRecent_attachRecent, present]
  · show (state.touch keyId).engine.recency.capacity = state.engine.config.recencyCapacity
    rw [touch_eq, ← sound.capacity]
    exact Recency.capacity_touch _ keyId

theorem shown?_promote (sound : state.engine.Sound held) (keyId other : Nat) :
    (state.promote keyId).engine.store.shown? other = state.engine.store.shown? other := by
  have attached := Store.shown?_attachRecent (state.touch keyId).engine.store
    (state.touch keyId).host keyId other
  refine attached.trans ?_
  rw [touch_eq]
  exact shown?_yielded sound.store _ other

theorem inbox_attachRecent (store : Store Row) (host : Host) (keyId : Nat) :
    (store.attachRecent host keyId).1.inbox = store.inbox := by
  unfold Store.attachRecent
  split
  next => rfl
  next entry _ => cases entry.recent <;> rfl

theorem follows_promote (state : Hosted Row) (keyId : Nat) :
    state.Follows (state.promote keyId) :=
  (follows_touch state keyId).trans
    (.of_memory (Store.later_attachRecent _ _ keyId) rfl (inbox_attachRecent _ _ keyId)
      (Store.keys_attachRecent _ _ keyId))

/-! ## Forgetting a key -/

theorem sound_forget (sound : state.engine.Sound held) (keyId : Nat) :
    (state.forget keyId).2.engine.Sound held where
  store := sound.store.invalidate keyId
  recency := sound.recency.remove keyId
  inStep := by
    intro other
    show (state.engine.recency.remove keyId).2.contains other =
      (state.engine.store.invalidate keyId).2.isRecent other
    have removed := Recency.contains_remove state.engine.recency keyId other
    rw [Store.isRecent_invalidate, Bool.eq_iff_iff, removed, sound.inStep]
    by_cases same : other = keyId <;> simp [same]
  capacity := (Recency.capacity_remove _ keyId).trans sound.capacity

theorem shown?_forget (sound : state.engine.Sound held) (keyId other : Nat) :
    (state.forget keyId).2.engine.store.shown? other =
      if other = keyId then none else state.engine.store.shown? other :=
  sound.store.shown?_invalidate keyId other

theorem follows_forget (state : Hosted Row) (keyId : Nat) :
    state.Follows (state.forget keyId).2 :=
  .of_memory (Store.later_invalidate _ keyId) rfl (inbox_invalidate _ keyId) rfl

end Hosted

end TableCache
