import TableCache.Proofs.Engine.Answers

/-!
# Requests

Everything that an engine can be asked, as one type, and what holds of every answer. A table that
comes with an answer is held by the caller from then on. What a request does to a key is
`Request.effect`: a put shows a new table there, giving a table up unpins it, an invalidation hides
it, and no other request changes anything of what is shown, apart from the purge that comes first.

Main statements:

1. `sound_perform`: an engine stays sound, with the table it hands out held once more;
2. `shown?_perform`: what a key shows after a request;
3. `follows_perform`: no request changes the rows of a table, and none owns or disowns a key.
-/

namespace TableCache

universe u v w

/-- What an engine can be asked. -/
inductive Request (Row : Type u) where
  | put (keyId : Nat) (rows : List Row)
  | get (keyId now : Nat)
  | lookup (keyId now : Nat)
  | peek (keyId : Nat)
  | clear (keyId : Nat) (isPersisted : Bool)
  | contains (keyId : Nat)
  | tier (keyId : Nat)
  | invalidate (keyId : Nat)
  | purge
  | statistics
  | occupancy
  | size
  deriving DecidableEq, Repr

/-- What an engine, its reclaimer or the owner of a key answers. -/
inductive Response where
  | done
  | refused
  | flag (value : Bool)
  | number (value : Nat)
  | table (table : Option Nat)
  | found (found : Found)
  | tier (tier : Tier)
  | statistics (statistics : Statistics)
  | occupancy (occupancy : Occupancy)
  | report (report : Report)
  deriving DecidableEq, Repr

/-- The table that comes with an answer. -/
def Response.table? : Response → Option Nat
  | .table handed => handed
  | .found answer => answer.table
  | _ => none

namespace Request

variable {Row : Type u}

/-- The key that a request is about. -/
def keyId? : Request Row → Option Nat
  | .put keyId _ | .get keyId _ | .lookup keyId _ | .peek keyId | .clear keyId _
  | .contains keyId | .tier keyId | .invalidate keyId => some keyId
  | .purge | .statistics | .occupancy | .size => none

/-- What a request makes of what a key shows, if a new table would get the number `fresh`. -/
def effect (request : Request Row) (keyId fresh : Nat) (shown : Option Shown) : Option Shown :=
  match request with
  | .put other _ => if keyId = other then some ⟨fresh, true⟩ else shown
  | .clear other true => if keyId = other then shown.map Shown.unpin else shown
  | .invalidate other => if keyId = other then none else shown
  | _ => shown

end Request

namespace Hosted

variable {Row : Type u}

/-- Answers a request. -/
def perform (state : Hosted Row) : Request Row → Reply (Hosted Row) Response
  | .put keyId rows => (state.put keyId rows).map fun table => .table (some table)
  | .get keyId now => (state.lookup keyId now).map fun found => .table found.table
  | .lookup keyId now => (state.lookup keyId now).map .found
  | .peek keyId => (state.peek keyId).map .table
  | .clear keyId isPersisted => (state.clearForReclaim keyId isPersisted).map fun _ => .done
  | .contains keyId => (state.contains keyId).map .flag
  | .tier keyId => (state.tier keyId).map .tier
  | .invalidate keyId => (state.invalidate keyId).map fun _ => .done
  | .purge => state.purgeOrphans.map .number
  | .statistics => state.statistics.map .statistics
  | .occupancy => state.occupancy.map .occupancy
  | .size => state.size.map .number

theorem state_map {σ : Type u} {α : Type v} {β : Type w} (change : α → β) (reply : Reply σ α) :
    (reply.map change).state = reply.state := rfl

theorem result_map {σ : Type u} {α : Type v} {β : Type w} (change : α → β) (reply : Reply σ α) :
    (reply.map change).result = reply.result.map change := rfl

/-- What is left of an engine when it answered. -/
theorem perform_state (state : Hosted Row) (request : Request Row) :
    (state.perform request).state =
      match request with
      | .put keyId rows => (state.put keyId rows).state
      | .get keyId now | .lookup keyId now => (state.lookup keyId now).state
      | .peek keyId => (state.peek keyId).state
      | .clear keyId isPersisted => (state.clearForReclaim keyId isPersisted).state
      | .invalidate keyId => (state.purged.forget keyId).2
      | .statistics => state.purged.withRecorder state.engine.recorder.snapshot.state
      | .contains _ | .tier _ | .purge | .occupancy | .size => state.purged := by
  cases request with
  | get keyId now | lookup keyId now => rw [perform, state_map]
  | _ => rfl

/-- The tables that a result hands to the caller. -/
def given (result : Except Fault Response) : List Nat := handed Response.table? result

theorem handed_nothing {α : Type v} (result : Except Fault α) :
    handed (fun _ => none) result = [] := by
  cases result <;> rfl

/-- The tables that a request hands to the caller. -/
theorem given_perform (state : Hosted Row) (request : Request Row) :
    given (state.perform request).result =
      match request with
      | .put keyId rows => handed some (state.put keyId rows).result
      | .get keyId now | .lookup keyId now => handed Found.table (state.lookup keyId now).result
      | .peek keyId => handed id (state.peek keyId).result
      | _ => [] := by
  cases request with
  | put keyId rows =>
      rw [perform, result_map]
      exact handed_map Response.table? _ _
  | get keyId now | lookup keyId now =>
      rw [perform, result_map]
      exact handed_map Response.table? _ _
  | peek keyId =>
      rw [perform, result_map]
      exact handed_map Response.table? _ _
  | clear keyId isPersisted => cases isPersisted <;> rfl
  | statistics =>
      rw [perform, result_map]
      exact (handed_map Response.table? _ _).trans (handed_nothing _)
  | _ => rfl

variable {state : Hosted Row} {held : Multiset Nat}

theorem follows_perform (sound : state.engine.Sound held) (request : Request Row) :
    state.Follows (state.perform request).state := by
  have purged := follows_purged state
  rw [perform_state]
  cases request with
  | put keyId rows => exact follows_put state keyId rows
  | get keyId now | lookup keyId now => exact follows_lookup sound keyId now
  | peek keyId => exact purged.trans (follows_read state.purged keyId)
  | clear keyId isPersisted => exact follows_clearForReclaim state keyId isPersisted
  | invalidate keyId => exact purged.trans (follows_forget state.purged keyId)
  | statistics => exact purged.trans (follows_withRecorder _ _)
  | _ => exact purged

/-- An engine stays sound whatever it is asked, also if it stops with a fault. -/
theorem sound_perform (sound : state.engine.Sound held) (request : Request Row) :
    (state.perform request).state.engine.Sound
      (given (state.perform request).result + held) := by
  have purged := sound_purged sound
  rw [perform_state, given_perform]
  cases request with
  | put keyId rows => exact sound_put sound keyId rows
  | get keyId now | lookup keyId now => exact sound_lookup sound keyId now
  | peek keyId => exact sound_peek sound keyId
  | clear keyId isPersisted => simpa using sound_clearForReclaim sound keyId isPersisted
  | invalidate keyId => simpa using sound_forget purged keyId
  | statistics => simpa using sound_withRecorder purged _
  | _ => simpa using purged

/-- An engine as it is when it starts to answer: purged, unless a request is refused before. -/
def entered (state : Hosted Row) : Request Row → Hosted Row
  | .clear _ false => state
  | _ => state.purged

theorem shown?_entered_of_isOwned (sound : state.engine.Sound held) (request : Request Row)
    {keyId : Nat} (owned : state.host.keys.isOwned keyId = true) :
    (state.entered request).engine.store.shown? keyId = state.engine.store.shown? keyId := by
  have purged := shown?_purged_of_isOwned sound owned
  unfold entered
  split
  next => rfl
  next => exact purged

theorem shown?_of_entered (sound : state.engine.Sound held) {request : Request Row} {keyId : Nat}
    {shown : Shown} (there : (state.entered request).engine.store.shown? keyId = some shown) :
    state.engine.store.shown? keyId = some shown := by
  unfold entered at there
  split at there
  next => exact there
  next =>
    rw [shown?_purged sound] at there
    split at there
    next => cases there
    next => exact there

/-- A request does to a key what its effect says, and nothing more. -/
theorem shown?_perform (sound : state.engine.Sound held) (request : Request Row) (keyId : Nat) :
    (state.perform request).state.engine.store.shown? keyId =
      request.effect keyId state.purged.fresh
        ((state.entered request).engine.store.shown? keyId) := by
  rw [perform_state]
  cases request with
  | put other rows => exact shown?_put sound other keyId rows
  | get other now | lookup other now => exact shown?_lookup sound other now keyId
  | peek other => exact Store.shown?_read _ other keyId
  | clear other isPersisted =>
      cases isPersisted with
      | false => rfl
      | true =>
          have cleared := Store.shown?_clearForReclaim state.purged.engine.store other keyId
          rw [Request.effect]
          simp only
          rw [clearForReclaim_state]
          refine cleared.trans ?_
          split
          next same => rw [same]; rfl
          next => rfl
  | invalidate other => exact shown?_forget (sound_purged sound) other keyId
  | _ => rfl

end Hosted

end TableCache
