import TableCache.Proofs.Engine.Marks
import TableCache.Proofs.Orphans
import TableCache.Proofs.System.Answers
import TableCache.Proofs.System.Clock

/-!
# A look-up agrees with the tier of its key, and settles it

An engine classifies an entry in four ways: it says whether a table is there, how strongly it is
kept, which table it is, and what a look-up comes to. The tests are different and come in different
order, and entries of reclaimed tables may still have handles. All four read the same view of the
store, so they agree.

After a look-up there is nothing in between: the key is in recent use and used last, or it has no
entry.

Main statements:

1. `Store.found_eq`: what a look-up finds is the table that is read, in the class of the tier;
2. `Hosted.lookup_renews`, `Hosted.lookup_forgets`: the two things that a look-up comes to;
3. `lookup_settles`: the same of a run.
-/

namespace TableCache

universe u v

variable {Row : Type u}

/-- The class of a look-up of a table of a tier. -/
def Tier.access : Tier → Access
  | .strong => .hardHit
  | .recent => .softHit
  | .weak => .weakHit
  | .absent => .miss

/-! ## One view -/

namespace Store

theorem contains_eq_tier (store : Store Row) (keyId : Nat) :
    store.contains keyId = decide (store.tier keyId ≠ .absent) := by
  rw [contains_eq, tier_eq]
  cases store.shown? keyId with
  | none => rfl
  | some shown =>
      refine (decide_eq_true ?_).symm
      simp only [Option.map_some, Option.getD_some, Shown.tier]
      split
      next => simp
      next => split <;> simp

theorem isSome_read (store : Store Row) (keyId : Nat) :
    (store.read keyId).1.isSome = store.contains keyId := by
  rw [read_eq, contains_eq, Option.isSome_map]

/-- What a look-up finds is what is read, and its class is told by the tier. -/
theorem found_eq (store : Store Row) (keyId : Nat) :
    Hosted.finding (store.isRecent keyId) (store.shown? keyId) =
      ⟨(store.read keyId).1, (store.tier keyId).access⟩ := by
  rw [read_eq, tier_eq]
  cases store.shown? keyId with
  | none => rfl
  | some shown =>
      simp only [Hosted.finding, Option.map_some, Option.getD_some, Shown.tier]
      split
      next => rfl
      next => split <;> rfl

/-- A table that has its recent handle is strong if it is pinned, and else recent. -/
theorem tier_of_isRecent {before after : Store Row} {keyId : Nat}
    (same : after.shown? keyId = before.shown? keyId) (recent : after.isRecent keyId = true)
    (present : before.contains keyId = true) :
    after.tier keyId = if before.tier keyId = .strong then .strong else .recent := by
  rw [contains_eq] at present
  obtain ⟨shown, there⟩ := Option.isSome_iff_exists.1 present
  rw [tier_eq, tier_eq, same, there, recent]
  obtain ⟨table, pinned⟩ := shown
  cases pinned with
  | true => rfl
  | false => cases before.isRecent keyId <;> rfl

end Store

/-! ## What a look-up comes to -/

/-- A key in the index has an entry with a recent handle on its own cell. -/
theorem Engine.Sound.recent_of_contains {engine : Engine Row} {held : Multiset Nat} {keyId : Nat}
    (sound : engine.Sound held) (ranked : engine.recency.contains keyId = true) :
    ∃ entry, engine.store.entryOf? keyId = some entry ∧ entry.recent = some entry.cell := by
  obtain ⟨entry, found, handle⟩ := (sound.contains_iff_recent keyId).1 ranked
  obtain ⟨cell, recent⟩ := Option.isSome_iff_exists.1 handle
  have own := (sound.store.linked found).recent cell recent
  exact ⟨entry, found, own ▸ recent⟩

namespace Hosted

variable {state : Hosted Row} {held : Multiset Nat} {keyId : Nat}

theorem size_touch (state : Hosted Row) (keyId : Nat) :
    (state.touch keyId).engine.store.size = state.engine.store.size := by
  rw [touch_eq]
  show (yielded state.engine.store (state.engine.recency.touch keyId).1).size = _
  cases (state.engine.recency.touch keyId).1 with
  | none => rfl
  | some evicted => exact Store.size_dropRecent _ evicted

theorem size_renewed (state : Hosted Row) (keyId : Nat) :
    (state.renewed keyId).engine.store.size = state.engine.store.size := by
  refine (Store.size_attachRecent _ _ keyId).trans ?_
  rw [size_touch]
  exact Store.size_read _ keyId

/-- What sees neither counters nor holders of tables sees that a look-up renews its key or forgets
it. -/
theorem view_looked {α : Type v} (view : Hosted Row → α)
    (counted : ∀ state recorder, view (withRecorder state recorder) = view state)
    (released : ∀ state table, view (release state table) = view state)
    (sound : state.engine.Sound held) (keyId now : Nat) :
    view (state.perform (.lookup keyId now)).state =
      view (if state.purged.engine.store.contains keyId then state.purged.renewed keyId
        else (state.purged.forget keyId).2) := by
  rw [perform_state]
  exact view_lookup view counted released sound keyId now

/-- A look-up finds what is read when the purge is done, in the class of the tier. -/
theorem found_eq_read (sound : state.engine.Sound held) (keyId : Nat) :
    state.found keyId =
      ⟨(state.purged.engine.store.read keyId).1, (state.purged.engine.store.tier keyId).access⟩ :=
  (resolve_found (sound_purged sound) keyId).trans (Store.found_eq _ keyId)

/-- A look-up that finds a table leaves its key with a recent handle, used last, and every entry in
its place. -/
theorem lookup_renews (sound : state.engine.Sound held) (ordered : state.engine.recency.Ordered)
    (present : state.purged.engine.store.contains keyId = true) (now : Nat) :
    (state.perform (.lookup keyId now)).state.engine.recency.contains keyId = true ∧
      (state.perform (.lookup keyId now)).state.engine.recency.members.getLast? = some keyId ∧
      (state.perform (.lookup keyId now)).state.engine.store.size =
        state.purged.engine.store.size := by
  have purged : state.purged.engine.recency.Ordered := ordered_removeAll ordered state.orphans
  have used : (state.perform (.lookup keyId now)).state.engine.recency =
      (state.purged.engine.recency.touch keyId).2 := by
    have marked : (Request.lookup keyId now : Request Row).mark state.purged.engine.store =
        .use keyId := if_pos present
    have recency := recency_perform sound (.lookup keyId now)
    rwa [entered_of_locks state rfl, marked] at recency
  obtain ⟨rest, -, -, members⟩ := purged.members_touch_eq keyId
  rw [used]
  refine ⟨?_, ?_, ?_⟩
  · rw [← Recency.mem_members (purged.touch keyId).toPaired, members]
    exact List.mem_append_right rest (List.mem_singleton.2 rfl)
  · rw [members, List.getLast?_concat]
  · have worked := view_looked (fun state => state.engine.store.size) (fun _ _ => rfl)
      (fun _ _ => rfl) sound keyId now
    rwa [if_pos present, size_renewed] at worked

/-- A look-up that finds no table leaves no entry and no place in the index. There is one entry less
if there was one that stood for a reclaimed table. -/
theorem lookup_forgets (sound : state.engine.Sound held)
    (missing : state.purged.engine.store.contains keyId = false) (now : Nat) :
    (state.perform (.lookup keyId now)).state.engine.store.entryOf? keyId = none ∧
      (state.perform (.lookup keyId now)).state.engine.recency.contains keyId = false ∧
      (state.perform (.lookup keyId now)).state.engine.store.size +
          (if state.purged.engine.store.has keyId then 1 else 0) =
        state.purged.engine.store.size := by
  have absent : ¬state.purged.engine.store.contains keyId = true := Bool.eq_false_iff.1 missing
  have stored := view_looked (fun state => state.engine.store.entryOf? keyId) (fun _ _ => rfl)
    (fun _ _ => rfl) sound keyId now
  have counted := view_looked (fun state => state.engine.store.size) (fun _ _ => rfl)
    (fun _ _ => rfl) sound keyId now
  have ranked := view_looked (fun state => state.engine.recency.contains keyId) (fun _ _ => rfl)
    (fun _ _ => rfl) sound keyId now
  rw [if_neg absent] at stored counted ranked
  refine ⟨stored.trans ?_, ranked.trans ?_, ?_⟩
  · exact (Store.entryOf?_invalidate _ keyId keyId).trans (if_pos rfl)
  · rw [Bool.eq_false_iff]
    intro there
    exact ((Recency.contains_remove _ keyId keyId).1 there).1 rfl
  · rw [counted]
    exact Store.size_invalidate state.purged.engine.store keyId

/-- A key with an owner has an entry after a purge if it had one before. -/
theorem has_purged_of_isOwned (owned : state.host.keys.isOwned keyId = true) :
    state.purged.engine.store.has keyId = state.engine.store.has keyId := by
  rw [Store.has, entryOf?_purged, if_neg (notMem_orphans_of_isOwned owned)]
  rfl

end Hosted

/-! ## Runs -/

namespace System

variable {acts : List (Act Row)} {number keyId now : Nat} {state : Hosted Row}

section Told

variable {system : System Row}

theorem tier_told (serving : system.serving? number = some state)
    (owned : state.host.keys.isOwned keyId = true) :
    (system.step (.ask number (.tier keyId))).result =
      .ok (.tier (state.purged.engine.store.tier keyId)) := by
  have admitted : (Request.tier keyId : Request Row).isAdmitted state.host.keys = true := owned
  rw [result_ask serving admitted]
  rfl

theorem contains_told (serving : system.serving? number = some state)
    (owned : state.host.keys.isOwned keyId = true) :
    (system.step (.ask number (.contains keyId))).result =
      .ok (.flag (state.purged.engine.store.contains keyId)) := by
  have admitted : (Request.contains keyId : Request Row).isAdmitted state.host.keys = true := owned
  rw [result_ask serving admitted]
  rfl

theorem peek_told (serving : system.serving? number = some state)
    (owned : state.host.keys.isOwned keyId = true) :
    (system.step (.ask number (.peek keyId))).result =
      .ok (.table (state.purged.engine.store.read keyId).1) := by
  have admitted : (Request.peek keyId : Request Row).isAdmitted state.host.keys = true := owned
  rw [result_ask serving admitted]
  rfl

theorem size_told (serving : system.serving? number = some state) :
    (system.step (.ask number .size)).result =
      .ok (.number state.purged.engine.store.size) := by
  have admitted : (Request.size : Request Row).isAdmitted state.host.keys = true := rfl
  rw [result_ask serving admitted]
  rfl

end Told

/-- A look-up that there is room for in the counters finds what is read, in the class of the
tier. -/
theorem lookup_found (serving : (after acts).serving? number = some state)
    (owned : state.host.keys.isOwned keyId = true)
    (fits : (tally number (acts ++ [.ask number (.lookup keyId now)])).Fits) :
    ((after acts).step (.ask number (.lookup keyId now))).result =
      .ok (.found ⟨(state.purged.engine.store.read keyId).1,
        (state.purged.engine.store.tier keyId).access⟩) := by
  obtain ⟨running, -⟩ := serving?_eq_some_iff.1 serving
  have sound := engine_sound_after running
  have admitted : (Request.lookup keyId now : Request Row).isAdmitted state.host.keys = true :=
    owned
  rw [result_ask serving admitted, Hosted.perform, Hosted.result_map,
    found_of_fits serving owned fits, Hosted.found_eq_read sound]
  rfl

/-- At any moment an owner of a key is told the same by all questions: the key is contained, and its
table is handed out by a peek, unless its tier is absent, and a look-up hands out the same table, in
the class of the tier.

After a look-up that found a table the key has a recent handle and is used last, and its tier is
strong if it was, and else recent. After one that found none the key has no entry and no place in
the index, and there is one entry less if there was one that stood for a reclaimed table. -/
theorem lookup_settles (serving : (after acts).serving? number = some state)
    (owned : state.host.keys.isOwned keyId = true)
    (fits : (tally number (acts ++ [.ask number (.lookup keyId now)])).Fits) :
    ∃ tier table? before left later,
      ((after acts).step (.ask number (.tier keyId))).result = .ok (.tier tier) ∧
      ((after acts).step (.ask number (.contains keyId))).result =
        .ok (.flag (decide (tier ≠ .absent))) ∧
      ((after acts).step (.ask number (.peek keyId))).result = .ok (.table table?) ∧
      (table?.isSome = true ↔ tier ≠ .absent) ∧
      ((after acts).step (.ask number (.lookup keyId now))).result =
        .ok (.found ⟨table?, tier.access⟩) ∧
      ((after acts).step (.ask number .size)).result = .ok (.number before) ∧
      (after (acts ++ [.ask number (.lookup keyId now)])).serving? number = some later ∧
      ((after (acts ++ [.ask number (.lookup keyId now)])).step (.ask number .size)).result =
        .ok (.number left) ∧
      (tier ≠ .absent →
        (∃ entry, later.engine.store.entryOf? keyId = some entry ∧
          entry.recent = some entry.cell) ∧
        later.engine.recency.members.getLast? = some keyId ∧
        ((after (acts ++ [.ask number (.lookup keyId now)])).step
            (.ask number (.tier keyId))).result =
          .ok (.tier (if tier = .strong then .strong else .recent)) ∧
        left = before) ∧
      (tier = .absent →
        later.engine.store.entryOf? keyId = none ∧
        later.engine.recency.contains keyId = false ∧
        left + (if state.engine.store.has keyId then 1 else 0) = before) := by
  obtain ⟨running, -⟩ := serving?_eq_some_iff.1 serving
  have sound := engine_sound_after running
  have ordered := ordered_after running
  have admitted : (Request.lookup keyId now : Request Row).isAdmitted state.host.keys = true :=
    owned
  obtain ⟨still, host⟩ := running_ask serving admitted
  rw [← after_concat] at still host
  have after := serving?_eq_some_iff.2 ⟨still, host.symm⟩
  have unpurged := (Hosted.orphans_eq_nil (Hosted.posted_perform sound
    (rfl : (Request.lookup keyId now : Request Row).locks = true))).2
  have owner : (state.perform (.lookup keyId now)).state.host.keys.isOwned keyId = true :=
    ((Hosted.follows_perform sound (.lookup keyId now)).owned keyId).trans owned
  have agrees := Store.contains_eq_tier state.purged.engine.store keyId
  refine ⟨state.purged.engine.store.tier keyId, (state.purged.engine.store.read keyId).1,
    state.purged.engine.store.size, (state.perform (.lookup keyId now)).state.engine.store.size,
    _, tier_told serving owned, ?_, peek_told serving owned, ?_, lookup_found serving owned fits,
    size_told serving, after, ?_, ?_, ?_⟩
  · rw [← agrees]
    exact contains_told serving owned
  · rw [Store.isSome_read, agrees, decide_eq_true_iff]
  · rw [size_told after, unpurged]
  · intro kept
    have present : state.purged.engine.store.contains keyId = true :=
      agrees.trans (decide_eq_true kept)
    obtain ⟨ranked, last, size⟩ := Hosted.lookup_renews sound ordered present now
    have performed := Hosted.sound_perform sound (.lookup keyId now)
    have recent := (performed.inStep keyId).symm.trans ranked
    have shown : (state.perform (.lookup keyId now)).state.engine.store.shown? keyId =
        state.purged.engine.store.shown? keyId :=
      Hosted.shown?_perform sound (.lookup keyId now) keyId
    have tier := Store.tier_of_isRecent shown recent present
    refine ⟨performed.recent_of_contains ranked, last, ?_, size⟩
    rw [tier_told after owner, unpurged, tier]
  · intro gone
    have missing : state.purged.engine.store.contains keyId = false := by
      rw [agrees, gone]
      rfl
    have forgotten := Hosted.lookup_forgets sound missing now
    rw [Hosted.has_purged_of_isOwned owned] at forgotten
    exact forgotten

/-- Two keys in an engine with room for one of them in recent use. The first one was pushed out, and
its buffer is persisted. -/
def faded : List (Act Nat) :=
  [.createKey "a", .createKey "b", .build ⟨1, 300⟩, .ask 0 (.put 1 [7, 8]), .ask 0 (.put 2 [9]),
    .ask 0 (.clear 1 true), .dropHold ⟨0, 0⟩]

/-- A look-up of the first key brings it back into recent use. If a pass went over the cache before,
it removes the entry that is left. -/
theorem lookup_settles_faded :
    (((after faded).step (.ask 0 (.lookup 1 5))).result = .ok (.found ⟨some 0, .weakHit⟩) ∧
      ((after (faded ++ [.ask 0 (.lookup 1 5)])).step (.ask 0 (.tier 1))).result =
        .ok (.tier .recent)) ∧
    ((after (faded ++ [.reclaim 0 .weakOnly])).step (.ask 0 (.lookup 1 5))).result =
        .ok (.found ⟨none, .miss⟩) ∧
      ((after (faded ++ [.reclaim 0 .weakOnly])).step (.ask 0 .size)).result = .ok (.number 2) ∧
      ((after (faded ++ [.reclaim 0 .weakOnly] ++ [.ask 0 (.lookup 1 5)])).step
        (.ask 0 .size)).result = .ok (.number 1) := by
  constructor
  · have serving : (after faded).serving? 0 = some _ := rfl
    have fits : (tally 0 (faded ++ [.ask 0 (.lookup 1 5)])).Fits := by decide
    have weak : ((after faded).step (.ask 0 (.tier 1))).result = .ok (.tier .weak) := rfl
    have peeked : ((after faded).step (.ask 0 (.peek 1))).result = .ok (.table (some 0)) := rfl
    obtain ⟨tier, table?, before, left, later, told, -, read, -, found, -, -, -, renewed, -⟩ :=
      lookup_settles serving rfl fits
    rw [weak] at told
    rw [peeked] at read
    cases told
    cases read
    exact ⟨found, (renewed (by decide)).2.2.1⟩
  · have serving : (after (faded ++ [.reclaim 0 .weakOnly])).serving? 0 = some _ := rfl
    have fits : (tally 0 (faded ++ [.reclaim 0 .weakOnly] ++ [.ask 0 (.lookup 1 5)])).Fits := by
      decide
    have absent : ((after (faded ++ [.reclaim 0 .weakOnly])).step (.ask 0 (.tier 1))).result =
      .ok (.tier .absent) := rfl
    have sized : ((after (faded ++ [.reclaim 0 .weakOnly])).step (.ask 0 .size)).result =
      .ok (.number 2) := rfl
    obtain ⟨tier, table?, before, left, later, told, -, -, none, found, count, -, rest, -, gone⟩ :=
      lookup_settles serving rfl fits
    rw [absent] at told
    rw [sized] at count
    cases told
    cases count
    have nothing : table? = Option.none := by
      cases table? with
      | none => rfl
      | some table => exact absurd rfl (none.1 rfl)
    have one : left + 1 = 2 := (gone rfl).2.2
    cases one
    rw [nothing] at found
    exact ⟨found, sized, rest⟩

end System

end TableCache
