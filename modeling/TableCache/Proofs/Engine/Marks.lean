import TableCache.Proofs.Engine.Inbox
import TableCache.Proofs.Engine.Uses

/-!
# What a request marks

Of all that a request does, one thing matters to the other keys of an engine: what it does in the
recency index. A put uses its key, and so does a look-up that finds a table. An invalidation frees
the place of its key, and so does a look-up that finds none. `Request.mark` says which.

How a request is counted, and whether its table is given back because it could not be counted, is no
part of what it does to entries, cells and index. So what does not see counters and tables is the
same after `Hosted.worked`, which leaves the counting out.

Main statements:

1. `resolve_state`: a look-up renews its key, or forgets it;
2. `view_perform`: what is left of a request without the counting;
3. `recency_entered`, `recency_perform`: the index after a purge, and after a request.
-/

namespace TableCache

universe u v

variable {Row : Type u}

/-- What is done in a recency index. -/
inductive Mark where
  /-- A key is marked as used last. -/
  | use (keyId : Nat)
  /-- A key loses its place. -/
  | free (keyId : Nat)
  /-- No key is marked. -/
  | none
  deriving DecidableEq, Repr

/-- An index after a mark. -/
def Mark.apply : Mark → Recency → Recency
  | .use keyId, index => (index.touch keyId).2
  | .free keyId, index => (index.remove keyId).2
  | .none, index => index

theorem Mark.capacity_apply (mark : Mark) (index : Recency) :
    (mark.apply index).capacity = index.capacity := by
  cases mark with
  | use keyId => exact Recency.capacity_touch index keyId
  | free keyId => exact Recency.capacity_remove index keyId
  | none => rfl

/-- What a request does in the index of an engine with this store. -/
def Request.mark (request : Request Row) (store : Store Row) : Mark :=
  match request with
  | .put keyId _ => .use keyId
  | .get keyId _ | .lookup keyId _ => if store.contains keyId then .use keyId else .free keyId
  | .invalidate keyId => .free keyId
  | _ => .none

/-- A request marks no other key than the one that it is about. -/
theorem Request.keyId?_of_mark {request : Request Row} {store : Store Row} {keyId : Nat}
    (marked : request.mark store = .use keyId ∨ request.mark store = .free keyId) :
    request.keyId? = some keyId := by
  cases request <;> simp [mark, keyId?] at marked ⊢ <;> grind

namespace Hosted

variable {state : Hosted Row} {held : Multiset Nat} {keyId : Nat}

/-! ## Look-ups -/

/-- An engine that has no entry of a key has nothing to forget of it. -/
theorem forget_of_absent (sound : state.engine.Sound held)
    (absent : state.engine.store.entryOf? keyId = none) : (state.forget keyId).2 = state := by
  have unranked : state.engine.recency.ticks.find? keyId = none := by
    have idle := sound.inStep keyId
    rw [Store.isRecent, absent] at idle
    exact Assoc.contains_eq_false_iff.1 idle
  have store : state.engine.store.invalidate keyId = (false, state.engine.store) := by
    rw [Store.invalidate, absent]
  have recency : state.engine.recency.remove keyId = (false, state.engine.recency) := by
    rw [Recency.remove, unranked]
  rw [forget, store, recency]

/-- An engine after a look-up that renewed its key. -/
def renewed (state : Hosted Row) (keyId : Nat) : Hosted Row :=
  (state.withStore (state.engine.store.read keyId).2).promote keyId

/-- A look-up renews a key that has a table, and forgets any other. If there is an entry, it is read
before the look-up ends. -/
theorem resolve_state (sound : state.engine.Sound held) (keyId : Nat) :
    (state.resolve keyId).2.1 =
      if state.engine.store.contains keyId then state.renewed keyId
      else (state.forget keyId).2 := by
  cases found : state.engine.store.entryOf? keyId with
  | none =>
      rw [Store.contains, found, resolve, found, forget_of_absent sound found]
      rfl
  | some entry =>
      rw [Store.contains_eq]
      rcases resolve_cases sound keyId with
        ⟨hidden, resolved⟩ | ⟨hidden, resolved⟩ | ⟨shown, there, -, resolved⟩
      · rw [resolve, found] at resolved
        have read := Store.read_eq state.engine.store keyId
        rw [hidden, Option.map_none] at read
        rcases given : state.engine.store.read keyId with ⟨answer, store⟩
        rw [given] at read resolved
        simp only at read
        subst read
        cases congrArg (fun outcome => outcome.2.2) resolved
      · rw [resolved, hidden]
        rfl
      · rw [resolved, there]
        rfl

/-! ## Requests without the counting -/

/-- What a request makes of an engine that has entered it, apart from the counting. -/
def worked (state : Hosted Row) : Request Row → Hosted Row
  | .put keyId rows => state.placed keyId rows
  | .get keyId _ | .lookup keyId _ =>
      if state.engine.store.contains keyId then state.renewed keyId else (state.forget keyId).2
  | .peek keyId => state.withStore (state.engine.store.read keyId).2
  | .clear keyId true => state.withStore (state.engine.store.clearForReclaim keyId).2
  | .invalidate keyId => (state.forget keyId).2
  | _ => state

section View

variable {α : Type v} (view : Hosted Row → α)

theorem view_put (counted : ∀ state recorder, view (withRecorder state recorder) = view state)
    (released : ∀ state table, view (release state table) = view state)
    (state : Hosted Row) (keyId : Nat) (rows : List Row) :
    view (state.put keyId rows).state = view (state.purged.placed keyId rows) := by
  rcases put_cases state keyId rows with ⟨fault, -, -, stopped⟩ | ⟨-, -, done⟩
  · rw [stopped, released, counted]
  · rw [done, counted]

theorem view_lookup (counted : ∀ state recorder, view (withRecorder state recorder) = view state)
    (released : ∀ state table, view (release state table) = view state)
    (sound : state.engine.Sound held) (keyId now : Nat) :
    view (state.lookup keyId now).state =
      view (if state.purged.engine.store.contains keyId then state.purged.renewed keyId
        else (state.purged.forget keyId).2) := by
  rw [← resolve_state (sound_purged sound)]
  rcases lookup_cases sound keyId now with ⟨fault, -, -, stopped⟩ | ⟨-, -, done⟩
  · rw [stopped]
    cases (state.found keyId).table with
    | none => exact counted _ _
    | some table => exact (released _ table).trans (counted _ _)
  · rw [done, counted]

/-- What sees neither counters nor holders of tables sees a request without the counting. -/
theorem view_perform (counted : ∀ state recorder, view (withRecorder state recorder) = view state)
    (released : ∀ state table, view (release state table) = view state)
    (sound : state.engine.Sound held) (request : Request Row) :
    view (state.perform request).state = view ((state.entered request).worked request) := by
  rw [perform_state]
  cases request with
  | put keyId rows => exact view_put view counted released state keyId rows
  | get keyId now | lookup keyId now => exact view_lookup view counted released sound keyId now
  | clear keyId isPersisted => cases isPersisted <;> rfl
  | statistics => exact counted _ _
  | _ => rfl

end View

/-! ## The index -/

/-- The keys that are purged before a request is answered. -/
def purgedKeys (state : Hosted Row) (request : Request Row) : List Nat :=
  if request.locks then state.orphans else []

/-- A purge takes keys from the index. -/
theorem recency_entered (state : Hosted Row) (request : Request Row) :
    (state.entered request).engine.recency =
      removeAll state.engine.recency (state.purgedKeys request) := by
  rw [purgedKeys]
  cases locks : request.locks with
  | true =>
      rw [entered_of_locks state locks]
      rfl
  | false =>
      cases request with
      | clear keyId isPersisted =>
          cases isPersisted with
          | false => rfl
          | true => cases locks
      | _ => cases locks

theorem ordered_entered (ordered : state.engine.recency.Ordered) (request : Request Row) :
    (state.entered request).engine.recency.Ordered := by
  rw [recency_entered]
  exact ordered_removeAll ordered _

theorem recency_touch (state : Hosted Row) (keyId : Nat) :
    (state.touch keyId).engine.recency = (state.engine.recency.touch keyId).2 := by
  rw [touch_eq]

theorem recency_worked (state : Hosted Row) (request : Request Row) :
    (state.worked request).engine.recency =
      (request.mark state.engine.store).apply state.engine.recency := by
  cases request with
  | put keyId rows => exact recency_touch _ keyId
  | get keyId now | lookup keyId now =>
      rw [worked, Request.mark]
      split
      next => exact recency_touch _ keyId
      next => rfl
  | clear keyId isPersisted => cases isPersisted <;> rfl
  | _ => rfl

/-- What a request does in the index is its mark, and nothing more. -/
theorem recency_perform (sound : state.engine.Sound held) (request : Request Row) :
    (state.perform request).state.engine.recency =
      (request.mark (state.entered request).engine.store).apply
        (state.entered request).engine.recency := by
  have performed := view_perform (fun state => state.engine.recency) (fun _ _ => rfl)
    (fun _ _ => rfl) sound request
  exact performed.trans (recency_worked _ request)

theorem capacity_perform (sound : state.engine.Sound held) (request : Request Row) :
    (state.perform request).state.engine.recency.capacity = state.engine.recency.capacity := by
  rw [recency_perform sound, Mark.capacity_apply, recency_entered, capacity_removeAll]

end Hosted

end TableCache
