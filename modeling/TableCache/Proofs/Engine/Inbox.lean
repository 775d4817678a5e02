import TableCache.Proofs.Engine.Requests
import TableCache.Proofs.Store.Orphans
import TableCache.Proofs.Watchers

/-!
# Locks and inboxes

A request that takes the lock of its engine goes through the inbox of the engine first and leaves it
empty. So nothing is left to purge right after it. Of the keys of the host a request changes nothing
else, except that a put makes the engine watch its key.

Main statements:

1. `keys_perform`: the keys after a request;
2. `posted_perform`, `orphans_eq_nil`: after a request that takes the lock the inbox is empty, and
   an engine with an empty inbox has nothing to purge.
-/

namespace TableCache

universe u

variable {Row : Type u}

/-- Whether a request takes the lock of the engine. Giving up a table that is not persisted is
refused before that. -/
def Request.locks : Request Row → Bool
  | .clear _ false => false
  | _ => true

namespace Hosted

variable {state : Hosted Row} {held : Multiset Nat}

theorem entered_of_locks (state : Hosted Row) {request : Request Row}
    (locks : request.locks = true) :
    state.entered request = state.purged := by
  unfold Request.locks at locks
  unfold entered
  split <;> simp_all

@[simp]
theorem host_release (state : Hosted Row) (table : Nat) :
    (state.release table).host = state.host := rfl

@[simp]
theorem host_withRecorder (state : Hosted Row) (recorder : Recorder) :
    (state.withRecorder recorder).host = state.host := rfl

@[simp]
theorem has_release (state : Hosted Row) (table keyId : Nat) :
    (state.release table).engine.store.has keyId = state.engine.store.has keyId := rfl

@[simp]
theorem has_withRecorder (state : Hosted Row) (recorder : Recorder) (keyId : Nat) :
    (state.withRecorder recorder).engine.store.has keyId = state.engine.store.has keyId := rfl

theorem keys_purged (state : Hosted Row) :
    state.purged.host.keys = (state.host.keys.collect state.engine.store.inbox).2 := rfl

theorem keys_placed (state : Hosted Row) (keyId : Nat) (rows : List Row) :
    (state.placed keyId rows).host.keys = state.host.keys.watch keyId state.engine.store.inbox := by
  rw [placed, touch_eq]
  rfl

theorem keys_put (state : Hosted Row) (keyId : Nat) (rows : List Row) :
    (state.put keyId rows).state.host.keys =
      state.purged.host.keys.watch keyId state.engine.store.inbox := by
  have placed := keys_placed state.purged keyId rows
  rw [(follows_purged state).inbox] at placed
  rcases put_cases state keyId rows with ⟨fault, -, -, stopped⟩ | ⟨-, -, done⟩
  · rw [stopped, host_release, host_withRecorder]
    exact placed
  · rw [done, host_withRecorder]
    exact placed

theorem keys_resolve (sound : state.engine.Sound held) (keyId : Nat) :
    (state.resolve keyId).2.1.host.keys = state.host.keys := by
  rcases resolve_cases sound keyId with ⟨-, resolved⟩ | ⟨-, resolved⟩ | ⟨shown, -, -, resolved⟩
  · rw [resolved]
  · rw [resolved]
    rfl
  · rw [resolved]
    exact Store.keys_attachRecent _ _ keyId

theorem keys_lookup (sound : state.engine.Sound held) (keyId now : Nat) :
    (state.lookup keyId now).state.host.keys = state.purged.host.keys := by
  have resolved := keys_resolve (sound_purged sound) keyId
  rcases lookup_cases sound keyId now with ⟨fault, -, -, stopped⟩ | ⟨-, -, done⟩
  · rw [stopped]
    cases (state.found keyId).table <;> simpa using resolved
  · rw [done, host_withRecorder]
    exact resolved

/-- A request empties the inbox of its engine when it takes the lock, and a put watches its key. -/
theorem keys_perform (sound : state.engine.Sound held) (request : Request Row) :
    (state.perform request).state.host.keys =
      match request with
      | .put keyId _ => (state.entered request).host.keys.watch keyId state.engine.store.inbox
      | _ => (state.entered request).host.keys := by
  rw [perform_state]
  cases request with
  | put keyId rows => exact keys_put state keyId rows
  | get keyId now | lookup keyId now => exact keys_lookup sound keyId now
  | clear keyId isPersisted => cases isPersisted <;> rfl
  | _ => rfl

/-- A request that takes the lock leaves the inbox of its engine empty. -/
theorem posted_perform (sound : state.engine.Sound held) {request : Request Row}
    (locks : request.locks = true) :
    (state.perform request).state.host.keys.posted
      (state.perform request).state.engine.store.inbox = [] := by
  have empty : state.purged.host.keys.posted state.engine.store.inbox = [] := by
    rw [keys_purged, Keys.posted_collect, if_pos rfl]
  rw [(follows_perform sound request).inbox, keys_perform sound, entered_of_locks state locks]
  cases request <;> exact empty

/-- A request that is refused before it takes the lock does nothing. -/
theorem perform_of_not_locks {request : Request Row} (refused : request.locks = false)
    (state : Hosted Row) : (state.perform request).state = state := by
  cases request with
  | clear keyId isPersisted =>
      cases isPersisted with
      | false => rfl
      | true => cases refused
  | _ => cases refused

theorem isOpen_perform (sound : state.engine.Sound held) (request : Request Row) (inbox : Nat) :
    (state.perform request).state.host.keys.isOpen inbox = state.host.keys.isOpen inbox := by
  have entered : (state.entered request).host.keys.isOpen inbox =
      state.host.keys.isOpen inbox := by
    unfold entered
    split
    next => rfl
    next => exact Keys.isOpen_collect _ _ _
  rw [keys_perform sound]
  cases request <;> exact entered

/-- No request makes an inbox stop watching a key. -/
theorem watches_perform (sound : state.engine.Sound held) (request : Request Row)
    {keyId inbox : Nat} (watches : state.host.keys.watches keyId inbox = true) :
    (state.perform request).state.host.keys.watches keyId inbox = true := by
  have entered : (state.entered request).host.keys.watches keyId inbox = true := by
    unfold entered
    split <;> exact watches
  rw [keys_perform sound]
  cases request with
  | put other rows => rw [Keys.watches_watch, entered, Bool.true_or]
  | _ => exact entered

/-- An engine watches the key of a table that it was given. -/
theorem watches_put (sound : state.engine.Sound held) (rows : List Row) {keyId : Nat}
    (owned : state.host.keys.isOwned keyId = true) :
    (state.perform (.put keyId rows)).state.host.keys.watches keyId state.engine.store.inbox =
      true := by
  have still : (state.entered (.put keyId rows)).host.keys.isOwned keyId = true := owned
  rw [keys_perform sound, Keys.watches_watch, still]
  simp

/-- Nothing is purged without a notice in the inbox. -/
theorem orphans_eq_nil (empty : state.host.keys.posted state.engine.store.inbox = []) :
    state.orphans = [] ∧ state.purged.engine.store = state.engine.store := by
  have posted : (state.host.keys.collect state.engine.store.inbox).1 = [] := empty
  have nothing : ∀ {posted : List Nat}, posted = [] →
      Store.removeOrphans (state.host.keys.collect state.engine.store.inbox).2 posted
        state.engine.store = ([], state.engine.store) := by
    rintro _ rfl
    rfl
  exact ⟨congrArg Prod.fst (nothing posted), congrArg Prod.snd (nothing posted)⟩

/-! ## Entries -/

theorem has_touch (state : Hosted Row) (keyId other : Nat) :
    (state.touch keyId).engine.store.has other = state.engine.store.has other := by
  rw [touch_eq]
  show (yielded state.engine.store (state.engine.recency.touch keyId).1).has other = _
  cases (state.engine.recency.touch keyId).1 with
  | none => rfl
  | some evicted => exact Store.has_dropRecent _ evicted other

theorem has_of_put {keyId other : Nat} {rows : List Row}
    (there : (state.put keyId rows).state.engine.store.has other = true) :
    other = keyId ∨ state.purged.engine.store.has other = true := by
  have placed : (state.purged.placed keyId rows).engine.store.has other =
      if other = keyId then true else state.purged.engine.store.has other :=
    (has_touch _ keyId other).trans (Store.has_put _ _ keyId other rows)
  have stored : (state.put keyId rows).state.engine.store.has other =
      (state.purged.placed keyId rows).engine.store.has other := by
    rcases put_cases state keyId rows with ⟨fault, -, -, stopped⟩ | ⟨-, -, done⟩
    · rw [stopped, has_release, has_withRecorder]
    · rw [done, has_withRecorder]
  rw [stored, placed] at there
  split at there
  next same => exact .inl same
  next => exact .inr there

theorem has_of_resolve (sound : state.engine.Sound held) {keyId other : Nat}
    (there : (state.resolve keyId).2.1.engine.store.has other = true) :
    state.engine.store.has other = true := by
  rcases resolve_cases sound keyId with ⟨-, resolved⟩ | ⟨-, resolved⟩ | ⟨shown, -, -, resolved⟩
  · rwa [resolved] at there
  · rw [resolved] at there
    have invalidated := Store.has_invalidate state.engine.store keyId other
    rw [show (state.engine.store.invalidate keyId).2.has other = true from there] at invalidated
    split at invalidated
    next => cases invalidated
    next => exact invalidated.symm
  · rw [resolved] at there
    have attached := Store.has_attachRecent
      ((state.withStore (state.engine.store.read keyId).2).touch keyId).engine.store
      ((state.withStore (state.engine.store.read keyId).2).touch keyId).host keyId other
    rw [has_touch] at attached
    exact (attached.trans (Store.has_read _ keyId other)).symm.trans there

theorem has_of_lookup (sound : state.engine.Sound held) {keyId now other : Nat}
    (there : (state.lookup keyId now).state.engine.store.has other = true) :
    state.purged.engine.store.has other = true := by
  have resolved : (state.lookup keyId now).state.engine.store.has other =
      (state.purged.resolve keyId).2.1.engine.store.has other := by
    rcases lookup_cases sound keyId now with ⟨fault, -, -, stopped⟩ | ⟨-, -, done⟩
    · rw [stopped]
      cases (state.found keyId).table <;> simp
    · rw [done, has_withRecorder]
  rw [resolved] at there
  exact has_of_resolve (sound_purged sound) there

/-- Only a put gives a key an entry, and only the key that it is about. -/
theorem has_of_perform (sound : state.engine.Sound held) {request : Request Row} {keyId : Nat}
    (there : (state.perform request).state.engine.store.has keyId = true) :
    (∃ rows, request = .put keyId rows) ∨
      (state.entered request).engine.store.has keyId = true := by
  rw [perform_state] at there
  cases request with
  | put other rows =>
      rcases has_of_put there with rfl | before
      · exact .inl ⟨rows, rfl⟩
      · exact .inr before
  | get other now | lookup other now => exact .inr (has_of_lookup sound there)
  | peek other => exact .inr ((Store.has_read _ other keyId).symm.trans there)
  | clear other isPersisted =>
      cases isPersisted with
      | false => exact .inr there
      | true => exact .inr ((Store.has_clearForReclaim _ other keyId).symm.trans there)
  | invalidate other =>
      have invalidated := Store.has_invalidate state.purged.engine.store other keyId
      rw [show (state.purged.engine.store.invalidate other).2.has keyId = true from there]
        at invalidated
      split at invalidated
      next => cases invalidated
      next => exact .inr invalidated.symm
  | _ => exact .inr there

end Hosted

end TableCache
