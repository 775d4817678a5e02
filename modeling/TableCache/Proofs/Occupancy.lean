import TableCache.Proofs.Demotion
import TableCache.Proofs.Store.Tables
import TableCache.Proofs.Store.Tiers

/-!
# An occupancy is the tally of the tiers

What an engine tells of all its keys at once is what it tells of them one by one. The counts of an
occupancy overlap, because a pinned table may have a recent handle and a reclaimed one may have kept
its own. Entries of reclaimed tables are not counted by it, only by the size of the store, until a
look-up sweeps them.

Main statements:

1. `Engine.Sound.recent_eq`: the recent handles that count are the keys of the index that show a
   table;
2. `Hosted.lookup_sweeps`: what a look-up of a reclaimed table changes;
3. `occupancy_tallies_tiers`: the counts of an occupancy, and their run through such look-ups.
-/

namespace TableCache

universe u

variable {Row : Type u}

/-! ## Keys in recent use -/

namespace Engine

variable {engine : Engine Row} {held : Multiset Nat}

/-- An occupancy counts the stored keys that are in the index and show a table. -/
theorem Sound.recent_eq (sound : engine.Sound held) :
    engine.store.occupancy.recent =
      engine.store.keyIds.countP fun keyId =>
        engine.recency.contains keyId && !engine.store.isReclaimed keyId := by
  rw [Store.occupancy_eq]
  refine List.countP_congr fun keyId member => ?_
  have reclaimed := Store.isReclaimed_iff (Store.mem_keyIds.1 member)
  rw [sound.inStep]
  cases gone : engine.store.isReclaimed keyId with
  | true => simp [reclaimed.1 gone]
  | false =>
      have kept : engine.store.tier keyId ≠ .absent := fun absent => by
        rw [reclaimed.2 absent] at gone
        cases gone
      simp [kept]

/-- No more keys in recent use are counted than there is room for in the index. -/
theorem Sound.recent_le (sound : engine.Sound held) :
    engine.store.occupancy.recent ≤
      min engine.config.recencyCapacity engine.store.occupancy.entries := by
  refine le_min ?_ ?_
  · refine (Store.recent_occupancy_le engine.store).trans ?_
    rw [sound.recentHandles_eq]
    exact sound.size_le
  · rw [Store.occupancy_eq]
    refine List.countP_mono_left fun keyId _ counts => ?_
    exact (Bool.and_eq_true_iff.1 counts).1

end Engine

/-! ## Sweeping -/

namespace Hosted

variable {state : Hosted Row} {held : Multiset Nat} {keyId : Nat}

/-- A look-up of a key that shows nothing removes its entry, if it has one, and leaves all other
entries and what they show. -/
theorem lookup_sweeps (sound : state.engine.Sound held)
    (missing : state.purged.engine.store.contains keyId = false) (now : Nat) :
    (∀ other, (state.perform (.lookup keyId now)).state.engine.store.entryOf? other =
      if other = keyId then none else state.purged.engine.store.entryOf? other) ∧
    ∀ other, (state.perform (.lookup keyId now)).state.engine.store.shown? other =
      state.purged.engine.store.shown? other := by
  refine ⟨fun other => ?_, fun other => shown?_perform sound (.lookup keyId now) other⟩
  have looked := view_looked (fun state => state.engine.store.entryOf? other) (fun _ _ => rfl)
    (fun _ _ => rfl) sound keyId now
  rw [if_neg (Bool.eq_false_iff.1 missing)] at looked
  exact looked.trans (Store.entryOf?_invalidate _ keyId other)

end Hosted

namespace System

variable {acts : List (Act Row)} {number : Nat} {state : Hosted Row}

theorem occupancy_told {system : System Row} (serving : system.serving? number = some state) :
    (system.step (.ask number .occupancy)).result =
      .ok (.occupancy state.purged.engine.store.occupancy) := by
  have admitted : (Request.occupancy : Request Row).isAdmitted state.host.keys = true := rfl
  rw [result_ask serving admitted]
  rfl

/-- Look-ups of some keys, each at some time. -/
def looking (number : Nat) (looks : List (Nat × Nat)) : List (Act Row) :=
  looks.map fun look => .ask number (.lookup look.1 look.2)

/-- Look-ups of keys that show nothing remove the entries of these keys, and nothing else. Each of
them takes the lock, so there is nothing to purge before the next one. -/
theorem looking_sweeps (serving : (after acts).serving? number = some state)
    (looks : List (Nat × Nat))
    (missing : ∀ look ∈ looks, state.host.keys.isOwned look.1 = true ∧
      state.purged.engine.store.contains look.1 = false) :
    ∃ later, (after (acts ++ looking number looks)).serving? number = some later ∧
      (∀ keyId, later.purged.engine.store.entryOf? keyId =
        if keyId ∈ looks.map Prod.fst then none else state.purged.engine.store.entryOf? keyId) ∧
      ∀ keyId, later.purged.engine.store.shown? keyId = state.purged.engine.store.shown? keyId := by
  induction looks generalizing acts state with
  | nil =>
      refine ⟨state, ?_, fun keyId => rfl, fun keyId => rfl⟩
      rw [looking, List.map_nil, List.append_nil]
      exact serving
  | cons look rest ih =>
      obtain ⟨⟨owned, nothing⟩, others⟩ := List.forall_mem_cons.1 missing
      have sound := engine_sound_after (serving?_eq_some_iff.1 serving).1
      have admitted : (Request.lookup look.1 look.2 : Request Row).isAdmitted state.host.keys =
          true := owned
      obtain ⟨still, host⟩ := running_ask serving admitted
      rw [← after_concat] at still host
      have unpurged := (Hosted.orphans_eq_nil (Hosted.posted_perform sound
        (rfl : (Request.lookup look.1 look.2 : Request Row).locks = true))).2
      obtain ⟨entries, shows⟩ := Hosted.lookup_sweeps sound nothing look.2
      obtain ⟨later, there, left, same⟩ :=
        ih (serving?_eq_some_iff.2 ⟨still, host.symm⟩) fun other member => by
          obtain ⟨owner, absent⟩ := others other member
          refine ⟨((Hosted.follows_perform sound _).owned other.1).trans owner, ?_⟩
          rw [unpurged, Store.contains_eq, shows, ← Store.contains_eq]
          exact absent
      rw [unpurged] at left same
      refine ⟨later, ?_, fun keyId => ?_, fun keyId => (same keyId).trans (shows keyId)⟩
      · rw [looking, List.map_cons, ← List.singleton_append, ← List.append_assoc]
        exact there
      · rw [left, entries, List.map_cons]
        by_cases first : keyId = look.1
        · simp [first]
        · simp only [List.mem_cons, first, false_or, if_false]

/-- A stored key has an owner when the purge is done. -/
theorem owned_of_stored (serving : (after acts).serving? number = some state) {keyId : Nat}
    (there : state.purged.engine.store.has keyId = true) :
    state.host.keys.isOwned keyId = true := by
  have sound := engine_sound_after (serving?_eq_some_iff.1 serving).1
  have owned := @owned_of_has _ _ _ _ .size serving rfl rfl keyId there
  exact ((Hosted.follows_perform sound .size).owned keyId).symm.trans owned

/-- The stored keys of an engine that runs, when the purge is done: an occupancy is the tally of
what the engine tells of them one by one. The keys with a recent handle that it counts are those of
the index whose table was not reclaimed. Keys whose tier is recent are neither strong nor weak, and
have their recent handle.

The size counts the keys of reclaimed tables in addition. A look-up of each of them removes them,
and the occupancy stays what it was. -/
theorem occupancy_tallies_tiers (serving : (after acts).serving? number = some state) :
    ∃ (keyIds : List Nat) (tier : Nat → Tier) (occupancy : Occupancy) (size : Nat),
      keyIds.Nodup ∧
      (∀ keyId, keyId ∈ keyIds ↔ state.purged.engine.store.has keyId = true) ∧
      (∀ keyId ∈ keyIds,
        ((after acts).step (.ask number (.tier keyId))).result = .ok (.tier (tier keyId))) ∧
      ((after acts).step (.ask number .occupancy)).result = .ok (.occupancy occupancy) ∧
      ((after acts).step (.ask number .size)).result = .ok (.number size) ∧
      occupancy.entries = (keyIds.countP fun keyId => tier keyId ≠ .absent) ∧
      occupancy.strong = (keyIds.countP fun keyId => tier keyId = .strong) ∧
      occupancy.weakOnly = (keyIds.countP fun keyId => tier keyId = .weak) ∧
      occupancy.recent =
        (keyIds.countP fun keyId => state.purged.engine.recency.contains keyId &&
          !state.purged.engine.store.isReclaimed keyId) ∧
      occupancy.recent ≤ min state.engine.config.recencyCapacity occupancy.entries ∧
      occupancy.entries = occupancy.strong + occupancy.weakOnly +
        (keyIds.countP fun keyId => tier keyId = .recent) ∧
      (keyIds.countP fun keyId => tier keyId = .recent) ≤ occupancy.recent ∧
      size = occupancy.entries + keyIds.countP state.purged.engine.store.isReclaimed ∧
      ∀ looks : List (Nat × Nat),
        (∀ keyId, keyId ∈ looks.map Prod.fst ↔
          keyId ∈ keyIds ∧ state.purged.engine.store.isReclaimed keyId = true) →
        ((after (acts ++ looking number looks)).step (.ask number .occupancy)).result =
            .ok (.occupancy occupancy) ∧
          ((after (acts ++ looking number looks)).step (.ask number .size)).result =
            .ok (.number occupancy.entries) := by
  have sound := Hosted.sound_purged (engine_sound_after (serving?_eq_some_iff.1 serving).1)
  have counts := Store.occupancy_eq state.purged.engine.store
  refine ⟨state.purged.engine.store.keyIds, state.purged.engine.store.tier,
    state.purged.engine.store.occupancy, state.purged.engine.store.size,
    Store.nodup_keyIds _, fun keyId => Store.mem_keyIds, fun keyId member => ?_,
    occupancy_told serving, size_told serving, ?_, ?_, ?_, sound.recent_eq, sound.recent_le, ?_,
    Store.countP_recent_le _, Store.size_eq _, fun looks reclaimed => ?_⟩
  · exact tier_told serving (owned_of_stored serving (Store.mem_keyIds.1 member))
  · rw [counts]
    rfl
  · rw [counts]
    rfl
  · rw [counts]
    rfl
  · rw [counts]
    exact Occupancy.entries_census _ _ _
  · have swept : ∀ keyId, keyId ∈ looks.map Prod.fst →
        state.purged.engine.store.has keyId = true ∧
          state.purged.engine.store.contains keyId = false := by
      intro keyId member
      obtain ⟨-, gone⟩ := (reclaimed keyId).1 member
      rw [Store.isReclaimed_eq, Bool.and_eq_true_iff, Bool.not_eq_true'] at gone
      exact gone
    obtain ⟨later, there, entries, shows⟩ := looking_sweeps serving looks fun look member => by
      obtain ⟨has, missing⟩ := swept look.1 (List.mem_map_of_mem member)
      exact ⟨owned_of_stored serving has, missing⟩
    have same : later.purged.engine.store.occupancy = state.purged.engine.store.occupancy := by
      refine Store.occupancy_of_same shows fun keyId shown => Store.isRecent_congr ?_
      rw [entries, if_neg]
      intro member
      have missing := (swept keyId member).2
      rw [Store.contains_eq, Option.isSome_eq_false_iff, Option.isNone_iff_eq_none] at missing
      exact shown missing
    have clean : later.purged.engine.store.keyIds.countP
        later.purged.engine.store.isReclaimed = 0 := by
      refine List.countP_eq_zero.2 fun keyId member gone => ?_
      have has := Store.mem_keyIds.1 member
      rw [Store.isReclaimed_eq, Store.contains_eq, shows, ← Store.contains_eq] at gone
      rw [Store.has, entries] at has
      split at has
      next => cases has
      next unswept =>
        refine unswept ((reclaimed keyId).2 ⟨Store.mem_keyIds.2 has, ?_⟩)
        rw [Store.isReclaimed_eq, Bool.and_eq_true_iff]
        exact ⟨has, (Bool.and_eq_true_iff.1 gone).2⟩
    refine ⟨?_, ?_⟩
    · rw [occupancy_told there, same]
    · rw [size_told there, Store.size_eq, clean, same, Nat.add_zero]

/-- Two keys in an engine with room for one of them in recent use, of which the second one was
reclaimed while it was the one in use. -/
def halfReclaimed : List (Act Nat) :=
  [.createKey "a", .createKey "b", .build ⟨1, 300⟩, .ask 0 (.put 1 [7, 8]), .ask 0 (.put 2 [9]),
    .ask 0 (.clear 2 true), .dropHold ⟨0, 1⟩, .reclaim 0 .full]

/-- The index is full, but no recent handle counts. The second key is swept by one look-up. -/
theorem occupancy_tallies_tiers_halfReclaimed :
    ((after halfReclaimed).step (.ask 0 .occupancy)).result = .ok (.occupancy ⟨1, 1, 0, 0⟩) ∧
      ((after halfReclaimed).step (.ask 0 .size)).result = .ok (.number 2) ∧
      ((after (halfReclaimed ++ looking 0 [(2, 4)])).step (.ask 0 .occupancy)).result =
        .ok (.occupancy ⟨1, 1, 0, 0⟩) ∧
      ((after (halfReclaimed ++ looking 0 [(2, 4)])).step (.ask 0 .size)).result =
        .ok (.number 1) := by
  have serving : (after halfReclaimed).serving? 0 = some _ := rfl
  obtain ⟨keyIds, tier, occupancy, size, -, stored, -, told, counted, -, -, -, -, -, -, -, -,
    swept⟩ := occupancy_tallies_tiers serving
  have one : ((after halfReclaimed).step (.ask 0 .occupancy)).result =
      .ok (.occupancy ⟨1, 1, 0, 0⟩) := rfl
  have two : ((after halfReclaimed).step (.ask 0 .size)).result = .ok (.number 2) := rfl
  rw [one] at told
  cases told
  refine ⟨one, two, swept [(2, 4)] fun keyId => ?_⟩
  rw [stored]
  constructor
  · intro member
    cases List.mem_singleton.1 member
    exact ⟨rfl, rfl⟩
  · rintro ⟨has, gone⟩
    rcases keyId with _ | _ | _ | keyId
    · cases has
    · cases gone
    · exact List.mem_singleton.2 rfl
    · cases has

end System

end TableCache
