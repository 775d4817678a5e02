import TableCache.Proofs.System.Sound

/-!
# What is in recent use

Three parts of an engine say which tables are in recent use: the index, the recent handles of the
entries, and the counts in the cells that reclaim passes look at. They agree, in every state that an
engine can come to, and so name no more keys than the index holds.

Main statements:

1. `recentUse_agrees`: the three views name the same keys, and at most as many as configured;
2. `recencyInStep_of_sound`: so index and store have equally many.
-/

namespace TableCache

universe u

variable {Row : Type u}

namespace Engine

variable {engine : Engine Row} {held : Multiset Nat} {keyId : Nat}

theorem isRecent_iff_recent (engine : Engine Row) (keyId : Nat) :
    engine.store.isRecent keyId = true ↔
      ∃ entry, engine.store.entryOf? keyId = some entry ∧ entry.recent.isSome = true := by
  rw [Store.isRecent]
  cases engine.store.entryOf? keyId <;> simp

/-- The index and the entries name the same keys. -/
theorem Sound.contains_iff_recent (sound : engine.Sound held) (keyId : Nat) :
    engine.recency.contains keyId = true ↔
      ∃ entry, engine.store.entryOf? keyId = some entry ∧ entry.recent.isSome = true := by
  rw [sound.inStep, isRecent_iff_recent]

/-- The cell of an entry counts its recent handle, and no other. -/
theorem Sound.recentHolds_eq (sound : engine.Sound held) {entry : Entry}
    (found : engine.store.entryOf? keyId = some entry) :
    engine.store.memory.recentHolds entry.cell =
      if engine.recency.contains keyId then 1 else 0 := by
  rw [Memory.Backs.recentHolds_eq sound.store (Store.mem_pairs found), sound.inStep,
    Store.isRecent, found, Option.bind_some]

/-- The index and the cells name the same keys. -/
theorem Sound.contains_iff_isRecentlyHeld (sound : engine.Sound held) (keyId : Nat) :
    engine.recency.contains keyId = true ↔
      ∃ entry, engine.store.entryOf? keyId = some entry ∧
        engine.store.memory.isRecentlyHeld entry.cell = true := by
  constructor
  · intro contained
    obtain ⟨entry, found, -⟩ := (sound.contains_iff_recent keyId).1 contained
    refine ⟨entry, found, ?_⟩
    rw [Memory.isRecentlyHeld, sound.recentHolds_eq found, if_pos contained]
    rfl
  · rintro ⟨entry, found, recent⟩
    rw [Memory.isRecentlyHeld, sound.recentHolds_eq found] at recent
    by_contra missing
    rw [if_neg missing] at recent
    cases recent

theorem Sound.size_le (sound : engine.Sound held) :
    engine.recency.size ≤ engine.config.recencyCapacity := by
  rw [← sound.capacity]
  exact sound.recency.size_le

/-- The keys of the entries that have a recent handle. -/
def recentKeys (engine : Engine Row) : List Nat :=
  (engine.store.entries.toList.filter fun pair => pair.2.recent.isSome).map Prod.fst

theorem mem_recentKeys (engine : Engine Row) (keyId : Nat) :
    keyId ∈ engine.recentKeys ↔ engine.store.isRecent keyId = true := by
  rw [isRecent_iff_recent, recentKeys, List.mem_map]
  constructor
  · rintro ⟨⟨other, entry⟩, member, rfl⟩
    obtain ⟨found, recent⟩ := List.mem_filter.1 member
    exact ⟨entry, Numbered.mem_toList.1 found, recent⟩
  · rintro ⟨entry, found, recent⟩
    exact ⟨(keyId, entry), List.mem_filter.2 ⟨Numbered.mem_toList.2 found, recent⟩, rfl⟩

theorem nodup_recentKeys (engine : Engine Row) : engine.recentKeys.Nodup := by
  have distinct := Numbered.nodup_toList engine.store.entries
  exact distinct.sublist (List.filter_sublist.map Prod.fst)

theorem length_recentKeys (engine : Engine Row) :
    engine.recentKeys.length = engine.store.recentHandles := by
  rw [recentKeys, List.length_map, ← List.countP_eq_length_filter, Store.recentHandles,
    Numbered.values_eq_map_toList, List.countP_map]
  rfl

/-- The keys of the recent handles are those of the index. -/
theorem Sound.perm_recentKeys (sound : engine.Sound held) :
    engine.recentKeys.Perm engine.recency.ticks.keys := by
  refine (List.perm_ext_iff_of_nodup engine.nodup_recentKeys engine.recency.ticks.nodup).2 ?_
  intro keyId
  rw [mem_recentKeys, ← sound.inStep]
  exact Assoc.contains_iff_mem_keys

theorem Sound.recentHandles_eq (sound : engine.Sound held) :
    engine.store.recentHandles = engine.recency.size := by
  rw [← length_recentKeys, sound.perm_recentKeys.length_eq]
  exact (Assoc.size_eq_length_keys _).symm

/-- An engine that is sound finds its index in step with its store. -/
theorem recencyInStep_of_sound (sound : engine.Sound held) : engine.recencyInStep = true :=
  decide_eq_true sound.recentHandles_eq.symm

end Engine

namespace System

/-- Whatever was done in a system, also if something stopped with a fault and while dropped keys
wait to be purged: the index of an engine, the recent handles of its entries and the counts in their
cells name the same keys, each once, and no more of them than the engine was configured for. -/
theorem recentUse_agrees (acts : List (Act Row)) {number : Nat} {engine : Engine Row}
    (running : (after acts).caches[number]? = some (.running engine)) :
    (∀ keyId,
      (engine.recency.contains keyId = true ↔
        ∃ entry, engine.store.entryOf? keyId = some entry ∧ entry.recent.isSome = true) ∧
      (engine.recency.contains keyId = true ↔
        ∃ entry, engine.store.entryOf? keyId = some entry ∧
          engine.store.memory.isRecentlyHeld entry.cell = true) ∧
      ∀ entry, engine.store.entryOf? keyId = some entry →
        engine.store.memory.recentHolds entry.cell =
          if engine.recency.contains keyId then 1 else 0) ∧
    ∃ keyIds : List Nat, keyIds.Nodup ∧
      (∀ keyId, keyId ∈ keyIds ↔ engine.recency.contains keyId = true) ∧
      keyIds.length ≤ engine.config.recencyCapacity := by
  have sound : engine.Sound _ := (sound_after acts).caches number _ running
  constructor
  · intro keyId
    exact ⟨sound.contains_iff_recent keyId, sound.contains_iff_isRecentlyHeld keyId,
      fun entry found => sound.recentHolds_eq found⟩
  · refine ⟨engine.recentKeys, engine.nodup_recentKeys, fun keyId => ?_, ?_⟩
    · rw [Engine.mem_recentKeys, sound.inStep]
    · rw [Engine.length_recentKeys, sound.recentHandles_eq]
      exact sound.size_le

/-- Two keys, put into an engine with room for one of them in recent use. -/
def competing : List (Act Nat) :=
  [.createKey "a", .createKey "b", .build ⟨1, 300⟩, .ask 0 (.put 1 [7, 8]), .ask 0 (.put 2 [9])]

/-- The second key took the place of the first one. -/
theorem recentUse_agrees_competing :
    ∃ engine, (after competing).caches[0]? = some (.running engine) ∧
      ¬engine.recency.contains 1 = true ∧
      (∃ entry, engine.store.entryOf? 2 = some entry ∧
        engine.store.memory.isRecentlyHeld entry.cell = true) ∧
      ∃ keyIds : List Nat, keyIds.Nodup ∧
        (∀ keyId, keyId ∈ keyIds ↔ engine.recency.contains keyId = true) ∧ keyIds.length ≤ 1 := by
  have running : (after competing).caches[0]? = some (.running _) := rfl
  obtain ⟨agree, bounded⟩ := recentUse_agrees competing running
  exact ⟨_, running, by decide, (agree 2).2.1.1 rfl, bounded⟩

end System

end TableCache
