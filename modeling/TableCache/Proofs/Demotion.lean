import TableCache.Proofs.Engine.Spared
import TableCache.Proofs.Settling

/-!
# A request touches other keys by one demotion at most

Whatever an engine is asked about one key, there is afterwards of every other key what there was:
its handles, its cell, the rows in it, and its place among the others in the index. Only a use of a
key that is new in a full index comes at a cost. The one key whose last use is longest ago loses its
place and its recent handle. Its table goes from recent to weak, or stays strong, and is found by
the next look-up.

Main statements:

1. `Request.crowds`: when a request pushes a key out;
2. `Hosted.spares_others`, `Hosted.tier_of_pushed`: what becomes of other keys;
3. `requests_demote_at_most_one`: the same of a run.
-/

namespace TableCache

universe u

variable {Row : Type u}

/-- Whether a request uses a key that is new in a full index. -/
def Request.crowds (request : Request Row) (engine : Engine Row) (keyId : Nat) : Prop :=
  request.mark engine.store = .use keyId ∧ engine.recency.contains keyId = false ∧
    engine.recency.size = engine.config.recencyCapacity

/-- A request that uses a key takes the lock. -/
theorem Request.locks_of_mark {request : Request Row} {store : Store Row} {keyId : Nat}
    (marked : request.mark store = .use keyId) : request.locks = true := by
  cases request with
  | clear keyId isPersisted => cases marked
  | _ => rfl

namespace Hosted

variable {state : Hosted Row} {held : Multiset Nat} {request : Request Row} {keyId other : Nat}

/-- Without a crowd there is room for every key that is used. -/
theorem room_of_uncrowded (sound : state.engine.Sound held)
    (uncrowded : ∀ keyId, ¬request.crowds (state.entered request).engine keyId)
    (marked : request.mark (state.entered request).engine.store = .use keyId) :
    (state.entered request).engine.recency.contains keyId = true ∨
      (state.entered request).engine.recency.size ≠
        (state.entered request).engine.recency.capacity := by
  cases ranked : (state.entered request).engine.recency.contains keyId with
  | true => exact .inl rfl
  | false =>
      refine .inr fun full => uncrowded keyId ⟨marked, ranked, ?_⟩
      rw [full, (sound_entered sound request).capacity]

/-- What is left of a list of keys without one of them does not depend on what is done to that
one. -/
theorem filter_others (keys : List Nat) (keyId : Nat) :
    ((keys.filter fun other => other ≠ keyId) ++ [keyId]).filter
        (fun other => some keyId ≠ some other) =
      keys.filter fun other => some keyId ≠ some other := by
  have last : [keyId].filter (fun other => some keyId ≠ some other) = [] := by simp
  rw [List.filter_append, last, List.append_nil, List.filter_filter]
  refine List.filter_congr fun other _ => ?_
  by_cases same : other = keyId <;> simp [same]

/-- A request that crowds nobody leaves the other keys in their order. -/
theorem members_of_uncrowded (sound : state.engine.Sound held)
    (ordered : state.engine.recency.Ordered)
    (uncrowded : ∀ keyId, ¬request.crowds (state.entered request).engine keyId) :
    (state.perform request).state.engine.recency.members.filter
        (fun other => request.keyId? ≠ some other) =
      (state.entered request).engine.recency.members.filter
        fun other => request.keyId? ≠ some other := by
  have entered := ordered_entered ordered request
  rw [recency_perform sound]
  cases marked : request.mark (state.entered request).engine.store with
  | use keyId =>
      have room := room_of_uncrowded sound uncrowded marked
      rw [Request.keyId?_of_mark (.inl marked), Mark.apply, (entered.touch_room room).2]
      exact filter_others _ keyId
  | free keyId =>
      rw [Request.keyId?_of_mark (.inr marked), Mark.apply,
        Recency.members_remove entered.toPaired, List.filter_filter]
      refine List.filter_congr fun other _ => ?_
      by_cases same : other = keyId <;> simp [same]
  | none => rfl

/-- A request that crowds nobody spares all keys that it is not about. -/
theorem spares_others (sound : state.engine.Sound held) (ordered : state.engine.recency.Ordered)
    (uncrowded : ∀ keyId, ¬request.crowds (state.entered request).engine keyId)
    (apart : request.keyId? ≠ some other) :
    (state.perform request).state.engine.store.standing? other =
      (state.entered request).engine.store.standing? other := by
  refine standing?_of_spared sound apart fun keyId marked pushed => ?_
  have room := room_of_uncrowded sound uncrowded marked
  rw [((ordered_entered ordered request).touch_room room).1] at pushed
  cases pushed

/-- A key that is pushed out keeps its table, and its tier is weak if it was recent. -/
theorem tier_of_pushed (sound : state.engine.Sound held)
    (marked : request.mark (state.entered request).engine.store = .use keyId)
    (pushed : ((state.entered request).engine.recency.touch keyId).1 = some other) :
    (state.perform request).state.engine.store.shown? other =
        (state.entered request).engine.store.shown? other ∧
      (state.perform request).state.engine.store.tier other =
        if (state.entered request).engine.store.tier other = .recent then .weak
        else (state.entered request).engine.store.tier other := by
  have entered := sound_entered sound request
  have performed := sound_perform sound request
  have about : request.keyId? ≠ some other := by
    rw [Request.keyId?_of_mark (.inl marked)]
    rintro ⟨⟩
    exact Recency.evicted_ne entered.recency _ pushed
  have shown := shown?_perform sound request other
  rw [Request.effect_of_ne about] at shown
  have before : (state.entered request).engine.store.isRecent other = true :=
    (entered.inStep other).symm.trans (Recency.contains_of_evicted entered.recency pushed)
  have after : (state.perform request).state.engine.store.isRecent other = false := by
    rw [← performed.inStep, recency_perform sound, marked, Bool.eq_false_iff]
    intro ranked
    exact ((Recency.contains_touch entered.recency _ _).1 ranked).1 pushed
  refine ⟨shown, ?_⟩
  rw [Store.tier_eq, Store.tier_eq, shown, before, after]
  cases (state.entered request).engine.store.shown? other with
  | none => rfl
  | some shown =>
      obtain ⟨table, pinned⟩ := shown
      cases pinned <;> rfl

end Hosted

/-! ## Runs -/

namespace System

variable {acts : List (Act Row)} {number : Nat} {state : Hosted Row} {request : Request Row}

/-- After a request that takes the lock every key with an entry has an owner. -/
theorem owned_of_has (serving : (after acts).serving? number = some state)
    (admitted : request.isAdmitted state.host.keys = true) (locks : request.locks = true)
    {keyId : Nat} (there : (state.perform request).state.engine.store.has keyId = true) :
    (state.perform request).state.host.keys.isOwned keyId = true := by
  obtain ⟨running, same⟩ := serving?_eq_some_iff.1 serving
  obtain ⟨distinct, dead⟩ := dead_deadSince number acts
  have gone := fun keyId member => (dead keyId member).2
  have informed := informed_after running
  rw [← same] at gone informed
  have sound := engine_sound_after running
  exact (informed.perform sound distinct gone admitted locks).2 keyId there

/-- An engine answers a request about one key. If the request does not use a key that is new in a
full index, there is of all other keys what there was when the purge was done, and in the index they
keep their order. This is so of an invalidation, of giving up a table, of a peek, and of a look-up
that finds nothing.

If it does, the key whose last use is longest ago goes from the front of the index and loses its
recent handle, and there is of all others what there was. Its tier is weak if it was recent, and
else the same, and a look-up that comes next finds the table that it had. -/
theorem requests_demote_at_most_one (serving : (after acts).serving? number = some state)
    (admitted : request.isAdmitted state.host.keys = true) :
    (after (acts ++ [.ask number request])).serving? number = some (state.perform request).state ∧
    ((∀ keyId, ¬request.crowds (state.entered request).engine keyId) →
      (∀ other, request.keyId? ≠ some other →
        (state.perform request).state.engine.store.standing? other =
          (state.entered request).engine.store.standing? other) ∧
      (state.perform request).state.engine.recency.members.filter
          (fun other => request.keyId? ≠ some other) =
        (state.entered request).engine.recency.members.filter
          fun other => request.keyId? ≠ some other) ∧
    ∀ keyId, request.crowds (state.entered request).engine keyId →
      ∃ victim rest standing,
        (state.entered request).engine.recency.members = victim :: rest ∧
        (state.perform request).state.engine.recency.members = rest ++ [keyId] ∧
        (∀ other, other ≠ keyId → other ≠ victim →
          (state.perform request).state.engine.store.standing? other =
            (state.entered request).engine.store.standing? other) ∧
        (state.entered request).engine.store.standing? victim = some standing ∧
        standing.entry.recent.isSome = true ∧
        (state.perform request).state.engine.store.standing? victim = some standing.demoted ∧
        (state.perform request).state.engine.store.tier victim =
          (if (state.entered request).engine.store.tier victim = .recent then .weak
            else (state.entered request).engine.store.tier victim) ∧
        ∀ now, (tally number (acts ++ [.ask number request] ++
            [.ask number (.lookup victim now)])).Fits →
          ((after (acts ++ [.ask number request])).step
              (.ask number (.lookup victim now))).result =
            .ok (.found ⟨((state.entered request).engine.store.read victim).1,
              ((state.perform request).state.engine.store.tier victim).access⟩) := by
  obtain ⟨running, -⟩ := serving?_eq_some_iff.1 serving
  have sound := engine_sound_after running
  have ordered := ordered_after running
  obtain ⟨still, host⟩ := running_ask serving admitted
  rw [← after_concat] at still host
  have next := serving?_eq_some_iff.2 ⟨still, host.symm⟩
  refine ⟨next, fun uncrowded => ⟨fun other apart => ?_, ?_⟩, fun keyId crowded => ?_⟩
  · exact Hosted.spares_others sound ordered uncrowded apart
  · exact Hosted.members_of_uncrowded sound ordered uncrowded
  · obtain ⟨marked, new, full⟩ := crowded
    have entered := Hosted.sound_entered sound request
    rw [← entered.capacity] at full
    obtain ⟨victim, rest, pushed, first, members⟩ :=
      (Hosted.ordered_entered ordered request).touch_full new full
    obtain ⟨standing, there, recent, left⟩ := Hosted.standing?_of_pushed sound marked pushed
    obtain ⟨shown, tier⟩ := Hosted.tier_of_pushed sound marked pushed
    refine ⟨victim, rest, standing, first, ?_, fun other different spared => ?_, there, recent,
      left, tier, fun now fits => ?_⟩
    · rw [Hosted.recency_perform sound, marked]
      exact members
    · refine Hosted.standing?_of_spared sound ?_ fun used again evicted => ?_
      · rw [Request.keyId?_of_mark (.inl marked)]
        rintro ⟨⟩
        exact different rfl
      · rw [marked] at again
        cases again
        rw [pushed] at evicted
        cases evicted
        exact spared rfl
    · have locks := Request.locks_of_mark marked
      have unpurged := (Hosted.orphans_eq_nil (Hosted.posted_perform sound locks)).2
      have has : (state.perform request).state.engine.store.has victim = true := by
        obtain ⟨entry, found, -⟩ := Option.map_eq_some_iff.1 left
        rw [Store.has, found]
        rfl
      have owned := owned_of_has serving admitted locks has
      rw [lookup_found next owned fits, unpurged, Store.read_eq, Store.read_eq, shown]

/-- Three keys in an engine with room for two of them in recent use, of which the first one lives in
its recent handle alone. -/
def filled : List (Act Nat) :=
  [.createKey "a", .createKey "b", .createKey "c", .build ⟨2, 300⟩, .ask 0 (.put 1 [7, 8]),
    .ask 0 (.put 2 [9]), .ask 0 (.clear 1 true), .dropHold ⟨0, 0⟩]

/-- The first use of the third key takes the first key from recent to weak, and a look-up of it
still finds its table. The second use crowds nobody, and the second key stays what it is. -/
theorem requests_demote_at_most_one_filled :
    (((after filled).step (.ask 0 (.tier 1))).result = .ok (.tier .recent) ∧
      ∃ later, (after (filled ++ [.ask 0 (.put 3 [5])])).serving? 0 = some later ∧
        later.engine.recency.members = [2, 3] ∧ later.engine.store.tier 1 = .weak ∧
        ((after (filled ++ [.ask 0 (.put 3 [5])])).step (.ask 0 (.lookup 1 4))).result =
          .ok (.found ⟨some 0, .weakHit⟩)) ∧
    ∃ state later, (after (filled ++ [.ask 0 (.put 3 [5])])).serving? 0 = some state ∧
      (after (filled ++ [.ask 0 (.put 3 [5])] ++ [.ask 0 (.lookup 3 4)])).serving? 0 =
        some later ∧
      later.engine.store.standing? 2 = state.engine.store.standing? 2 := by
  constructor
  · refine ⟨rfl, ?_⟩
    have serving : (after filled).serving? 0 = some _ := rfl
    have fits : (tally 0 (filled ++ [.ask 0 (.put 3 [5])] ++ [.ask 0 (.lookup 1 4)])).Fits := by
      decide
    obtain ⟨next, -, crowded⟩ :=
      @requests_demote_at_most_one Nat _ _ _ (.put 3 [5]) serving rfl
    obtain ⟨victim, rest, standing, first, members, -, -, -, -, tier, found⟩ :=
      crowded 3 ⟨rfl, rfl, rfl⟩
    cases (first : [1, 2] = victim :: rest)
    have weak : (_ : Hosted Nat).engine.store.tier 1 = .weak := tier
    have answer := found 4 fits
    rw [weak] at answer
    exact ⟨_, next, members, weak, answer⟩
  · have serving : (after (filled ++ [.ask 0 (.put 3 [5])])).serving? 0 = some _ := rfl
    obtain ⟨next, calm, -⟩ :=
      @requests_demote_at_most_one Nat _ _ _ (.lookup 3 4) serving rfl
    refine ⟨_, _, serving, next, (calm ?_).1 2 (by decide)⟩
    rintro keyId ⟨marked, new, -⟩
    cases marked
    cases new

end System

end TableCache
