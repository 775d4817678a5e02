import Mathlib.Logic.Relation
import TableCache.Proofs.Engine.Inbox

/-!
# The course of an answer

Whatever an engine is asked, it answers by a few moves, one after the other. So what each move keeps
is kept by every request, and to show that there is one case for each move and none for a request.

Main definitions and statements:

1. `Hosted.Move`: the moves;
2. `Hosted.course_perform`: every answer is a course of moves.
-/

namespace TableCache.Hosted

universe u

variable {Row : Type u}

/-- What an engine does in one move. All but the last two need its store to be in order. -/
inductive Move : Hosted Row → Hosted Row → Prop
  /-- The entries of keys without owners go. -/
  | purged {state : Hosted Row} {held : Multiset Nat} :
      state.engine.Sound held → Move state state.purged
  /-- A new table comes under a key. -/
  | placed {state : Hosted Row} {held : Multiset Nat} (keyId : Nat) (rows : List Row) :
      state.engine.Sound held → Move state (state.placed keyId rows)
  /-- The table of a key gets a reader. -/
  | read {state : Hosted Row} {held : Multiset Nat} (keyId : Nat) :
      state.engine.Sound held →
      Move state (state.withStore (state.engine.store.read keyId).2)
  /-- A key that has an entry is marked as used last. -/
  | promoted {state : Hosted Row} {held : Multiset Nat} {keyId : Nat} :
      state.engine.Sound held → state.engine.store.has keyId = true →
      Move state (state.promote keyId)
  /-- The entry of a key goes. -/
  | forgotten {state : Hosted Row} {held : Multiset Nat} (keyId : Nat) :
      state.engine.Sound held → Move state (state.forget keyId).2
  /-- The strong handle of a key is given up. -/
  | unpinned {state : Hosted Row} {held : Multiset Nat} (keyId : Nat) :
      state.engine.Sound held →
      Move state (state.withStore (state.engine.store.clearForReclaim keyId).2)
  /-- Something is counted. -/
  | counted (state : Hosted Row) (recorder : Recorder) :
      Move state (state.withRecorder recorder)
  /-- A reader gives a table back. -/
  | released (state : Hosted Row) (table : Nat) : Move state (state.release table)

open Relation (ReflTransGen)

variable {state : Hosted Row} {held : Multiset Nat}

theorem course_put (sound : state.engine.Sound held) (keyId : Nat) (rows : List Row) :
    ReflTransGen Move state (state.put keyId rows).state := by
  have purged := ReflTransGen.single (Move.purged sound)
  have placed := purged.tail (.placed keyId rows (sound_purged sound))
  rcases put_cases state keyId rows with ⟨fault, -, -, stopped⟩ | ⟨-, -, done⟩
  · rw [stopped]
    exact (placed.tail (.counted _ _)).tail (.released _ _)
  · rw [done]
    exact placed.tail (.counted _ _)

theorem course_resolve (sound : state.engine.Sound held) (keyId : Nat) :
    ReflTransGen Move state (state.resolve keyId).2.1 := by
  rcases resolve_cases sound keyId with
    ⟨-, resolved⟩ | ⟨-, resolved⟩ | ⟨shown, there, -, resolved⟩
  · rw [resolved]
  · rw [resolved]
    exact .single (.forgotten keyId sound)
  · have present : (state.engine.store.read keyId).2.has keyId = true := by
      obtain ⟨entry, found, -⟩ := Option.bind_eq_some_iff.1 there
      rw [Store.has_read, Store.has, found]
      rfl
    rw [resolved]
    exact (ReflTransGen.single (.read keyId sound)).tail
      (.promoted (sound_read sound keyId) present)

theorem course_lookup (sound : state.engine.Sound held) (keyId now : Nat) :
    ReflTransGen Move state (state.lookup keyId now).state := by
  have purged := ReflTransGen.single (Move.purged sound)
  have resolved := purged.trans (course_resolve (sound_purged sound) keyId)
  have recorded := resolved.tail (.counted _ (state.counted keyId now).state)
  rcases lookup_cases sound keyId now with ⟨fault, -, -, stopped⟩ | ⟨-, -, done⟩
  · rw [stopped]
    cases (state.found keyId).table with
    | none => exact recorded
    | some table => exact recorded.tail (.released _ table)
  · rw [done]
    exact recorded

/-- Every answer is a course of moves. -/
theorem course_perform (sound : state.engine.Sound held) (request : Request Row) :
    ReflTransGen Move state (state.perform request).state := by
  have purged := ReflTransGen.single (Move.purged sound)
  have still := sound_purged sound
  rw [perform_state]
  cases request with
  | put keyId rows => exact course_put sound keyId rows
  | get keyId now | lookup keyId now => exact course_lookup sound keyId now
  | peek keyId => exact purged.tail (.read keyId still)
  | clear keyId isPersisted =>
      cases isPersisted with
      | false => exact .refl
      | true => exact purged.tail (.unpinned keyId still)
  | invalidate keyId => exact purged.tail (.forgotten keyId still)
  | statistics => exact purged.tail (.counted _ _)
  | _ => exact purged

end TableCache.Hosted
