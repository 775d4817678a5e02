import TableCache.Proofs.Engine.Marks
import TableCache.Proofs.Store.Standing

/-!
# Whom a request spares

A request spares every key that it is not about, unless the key is pushed out of the recency index
by a use. Then the key loses its recent handle, and nothing else.

Main statements:

1. `spared_worked`, `demoted_worked`: the moves that a request is made of;
2. `standing?_of_spared`, `standing?_of_pushed`: what there is of other keys after a request.
-/

namespace TableCache.Hosted

universe u

variable {Row : Type u} {state : Hosted Row} {held : Multiset Nat} {keyId other : Nat}
  {entry : Entry}

/-! ## Uses -/

theorem sound_touch (sound : state.engine.store.Sound held) (keyId : Nat) :
    (state.touch keyId).engine.store.Sound held := by
  rw [touch_eq]
  exact sound_yielded sound _

theorem spared_touch (sound : state.engine.store.Sound held)
    (kept : (state.engine.recency.touch keyId).1 ≠ some other) :
    state.engine.store.Spared (state.touch keyId).engine.store other := by
  rw [touch_eq]
  cases pushed : (state.engine.recency.touch keyId).1 with
  | none => exact .refl _ other
  | some evicted =>
      refine sound.spared_dropRecent ?_
      rintro rfl
      exact kept pushed

theorem demoted_touch (sound : state.engine.store.Sound held)
    (pushed : (state.engine.recency.touch keyId).1 = some other)
    (found : state.engine.store.entryOf? other = some entry)
    (recent : entry.recent.isSome = true) :
    state.engine.store.Demoted (state.touch keyId).engine.store other entry := by
  rw [touch_eq, pushed]
  exact sound.demoted_dropRecent found recent

/-! ## Puts -/

theorem sound_stocked (sound : state.engine.Sound held) (keyId : Nat) (rows : List Row) :
    (state.stocked keyId rows).engine.store.Sound (state.fresh ::ₘ held) :=
  sound.store.put state.host keyId rows

theorem spared_placed (sound : state.engine.Sound held) (different : other ≠ keyId)
    (kept : (state.engine.recency.touch keyId).1 ≠ some other) (rows : List Row) :
    state.engine.store.Spared (state.placed keyId rows).engine.store other :=
  (sound.store.spared_put different state.host rows).trans
    (spared_touch (sound_stocked sound keyId rows) kept)

theorem demoted_placed (sound : state.engine.Sound held)
    (pushed : (state.engine.recency.touch keyId).1 = some other)
    (found : state.engine.store.entryOf? other = some entry)
    (recent : entry.recent.isSome = true) (rows : List Row) :
    state.engine.store.Demoted (state.placed keyId rows).engine.store other entry := by
  have different : other ≠ keyId := by
    rintro rfl
    exact Recency.evicted_ne sound.recency other pushed
  have spared := sound.store.spared_put different state.host rows
  have stocked : (state.stocked keyId rows).engine.store.entryOf? other = some entry :=
    spared.entry.trans found
  exact spared.demoted (demoted_touch (sound_stocked sound keyId rows) pushed stocked recent)

/-! ## Look-ups -/

theorem spared_renewed (sound : state.engine.Sound held) (different : other ≠ keyId)
    (kept : (state.engine.recency.touch keyId).1 ≠ some other) :
    state.engine.store.Spared (state.renewed keyId).engine.store other := by
  have reading := (sound_read sound keyId).store
  have touched := spared_touch reading kept
  exact ((Store.spared_read _ keyId other).trans touched).trans
    ((sound_touch reading keyId).spared_attachRecent different _)

theorem demoted_renewed (sound : state.engine.Sound held)
    (pushed : (state.engine.recency.touch keyId).1 = some other)
    (found : state.engine.store.entryOf? other = some entry)
    (recent : entry.recent.isSome = true) :
    state.engine.store.Demoted (state.renewed keyId).engine.store other entry := by
  have different : other ≠ keyId := by
    rintro rfl
    exact Recency.evicted_ne sound.recency other pushed
  have reading := (sound_read sound keyId).store
  have spared := Store.spared_read state.engine.store keyId other
  have still : (state.withStore (state.engine.store.read keyId).2).engine.store.entryOf? other =
      some entry := spared.entry.trans found
  have touched := demoted_touch reading pushed still recent
  exact (spared.demoted touched).spared
    ((sound_touch reading keyId).spared_attachRecent different _)

/-! ## Requests -/

/-- A request spares the keys that it is not about and that it does not push out. -/
theorem spared_worked (sound : state.engine.Sound held) {request : Request Row}
    (apart : request.keyId? ≠ some other)
    (kept : ∀ keyId, request.mark state.engine.store = .use keyId →
      (state.engine.recency.touch keyId).1 ≠ some other) :
    state.engine.store.Spared (state.worked request).engine.store other := by
  cases request with
  | put keyId rows =>
      have different : other ≠ keyId := fun same => apart (congrArg some same.symm)
      exact spared_placed sound different (kept keyId rfl) rows
  | get keyId now | lookup keyId now =>
      have different : other ≠ keyId := fun same => apart (congrArg some same.symm)
      rw [worked]
      split
      next present => exact spared_renewed sound different (kept keyId (if_pos present))
      next => exact sound.store.spared_invalidate different
  | peek keyId => exact Store.spared_read _ keyId other
  | clear keyId isPersisted =>
      have different : other ≠ keyId := fun same => apart (congrArg some same.symm)
      cases isPersisted with
      | false => exact .refl _ other
      | true => exact Store.spared_clearForReclaim _ different
  | invalidate keyId =>
      have different : other ≠ keyId := fun same => apart (congrArg some same.symm)
      exact sound.store.spared_invalidate different
  | _ => exact .refl _ other

/-- A key that is pushed out by a use loses its recent handle. -/
theorem demoted_worked (sound : state.engine.Sound held) {request : Request Row}
    (marked : request.mark state.engine.store = .use keyId)
    (pushed : (state.engine.recency.touch keyId).1 = some other)
    (found : state.engine.store.entryOf? other = some entry)
    (recent : entry.recent.isSome = true) :
    state.engine.store.Demoted (state.worked request).engine.store other entry := by
  have used : ∀ key, (if state.engine.store.contains key then Mark.use key else .free key) =
      .use keyId → state.engine.store.contains key = true ∧ key = keyId := by
    intro key marked
    split at marked
    next present =>
      cases marked
      exact ⟨present, rfl⟩
    next => cases marked
  cases request with
  | put key rows =>
      cases marked
      exact demoted_placed sound pushed found recent rows
  | get key now | lookup key now =>
      obtain ⟨present, rfl⟩ := used key marked
      rw [worked, if_pos present]
      exact demoted_renewed sound pushed found recent
  | _ => cases marked

/-! ## What there is of other keys after a request -/

theorem sound_entered (sound : state.engine.Sound held) (request : Request Row) :
    (state.entered request).engine.Sound held := by
  unfold entered
  split
  next => exact sound
  next => exact sound_purged sound

theorem follows_entered (state : Hosted Row) (request : Request Row) :
    state.Follows (state.entered request) := by
  unfold entered
  split
  next => exact .refl state
  next => exact follows_purged state

/-- A table that a request leaves in the cell of an entry keeps its rows. -/
theorem keepsRows_perform (sound : state.engine.Sound held) (request : Request Row) (keyId : Nat) :
    (state.entered request).engine.store.KeepsRows (state.perform request).state.engine.store
      keyId := by
  intro entry table found filled still
  have entered := sound_entered sound request
  have performed := sound_perform sound request
  have there : (state.entered request).engine.store.shown? keyId =
      some ⟨table, entry.strong.isSome⟩ := by
    rw [Store.shown?, found, Option.bind_some, filled]
    rfl
  have old := sound.store.lt_next_of_shown (shown?_of_entered sound there)
  have before :=
    (follows_entered state request).memory.rows_eq old (entered.store.holders_pos there)
  have held := performed.store.holding.pos_of_mem
    (Multiset.mem_add.2 (.inl (Memory.mem_slots_of_slot? still)))
  exact ((follows_perform sound request).memory.rows_eq old held).trans before.symm

/-- How a request is counted is not seen in handles and cells. -/
theorem spared_counted (sound : state.engine.Sound held) (request : Request Row) (keyId : Nat) :
    ((state.entered request).worked request).engine.store.Spared
      (state.perform request).state.engine.store keyId where
  entry := view_perform (fun state => state.engine.store.entryOf? keyId) (fun _ _ => rfl)
    (fun _ _ => rfl) sound request
  cell := fun entry _ => view_perform
    (fun state => state.engine.store.memory.cells.find? entry.cell) (fun _ _ => rfl)
    (fun _ _ => rfl) sound request

/-- There is of a key what there was, if a request is not about it and does not push it out. -/
theorem standing?_of_spared (sound : state.engine.Sound held) {request : Request Row}
    (apart : request.keyId? ≠ some other)
    (kept : ∀ keyId, request.mark (state.entered request).engine.store = .use keyId →
      ((state.entered request).engine.recency.touch keyId).1 ≠ some other) :
    (state.perform request).state.engine.store.standing? other =
      (state.entered request).engine.store.standing? other := by
  have worked := spared_worked (sound_entered sound request) apart kept
  exact (worked.trans (spared_counted sound request other)).standing?
    (keepsRows_perform sound request other)

/-- Of a key that a request pushes out there is all but the recent handle. -/
theorem standing?_of_pushed (sound : state.engine.Sound held) {request : Request Row}
    (marked : request.mark (state.entered request).engine.store = .use keyId)
    (pushed : ((state.entered request).engine.recency.touch keyId).1 = some other) :
    ∃ standing, (state.entered request).engine.store.standing? other = some standing ∧
      standing.entry.recent.isSome = true ∧
      (state.perform request).state.engine.store.standing? other = some standing.demoted := by
  have entered := sound_entered sound request
  have ranked := Recency.contains_of_evicted entered.recency pushed
  rw [entered.inStep, Store.isRecent] at ranked
  obtain ⟨cell, handle⟩ := Option.isSome_iff_exists.1 ranked
  obtain ⟨entry, found, recent⟩ := Option.bind_eq_some_iff.1 handle
  have held : entry.recent.isSome = true := by
    rw [recent]
    rfl
  have worked := demoted_worked entered marked pushed found held
  obtain ⟨standing, there, same, left⟩ :=
    (worked.spared (spared_counted sound request other)).standing?
      (keepsRows_perform sound request other)
  exact ⟨standing, there, same ▸ held, left⟩

end TableCache.Hosted
