import TableCache.Proofs.Recency.Window
import TableCache.Proofs.Settling
import TableCache.Proofs.Store.Passes

/-!
# A use protects its key for a window

After a put of a key, or a look-up that finds it, the key is in recent use until it is given up on
purpose or as many other keys were used as the index has places. It does not matter how often these
others were used, what was invalidated in between, which owners were dropped, and which passes went
over the cache.

What counts is what each request used and freed, and that is read off its mark. So one step says
what a request does to a protected key, and a run is an induction on that.

Main statements:

1. `Act.used`, `Act.freed`: the keys that an act uses, and those that it takes from the index;
2. `Hosted.guarded_perform`, `Turn.guarded`: one step;
3. `guarded_after`: a run;
4. `use_protects_for_a_window`: what follows for handles, passes and look-ups.
-/

namespace TableCache

universe u

variable {Row : Type u}

open Recency (Guarded)

/-! ## What is used and freed -/

/-- The keys that a mark puts last. -/
def Mark.used : Mark → List Nat
  | .use keyId => [keyId]
  | .free _ | .none => []

/-- The keys that a mark takes from the index. -/
def Mark.freed : Mark → List Nat
  | .free keyId => [keyId]
  | .use _ | .none => []

/-- The keys that a request uses: the key of a put, and of a look-up that finds it. -/
def Hosted.used (state : Hosted Row) (request : Request Row) : List Nat :=
  (request.mark (state.entered request).engine.store).used

/-- The keys that a request takes from the index: those that are purged, and the key of an
invalidation and of a look-up that misses. -/
def Hosted.freed (state : Hosted Row) (request : Request Row) : List Nat :=
  state.purgedKeys request ++ (request.mark (state.entered request).engine.store).freed

/-- The keys that an act uses in an engine. -/
def Act.used (act : Act Row) (number : Nat) (state : Hosted Row) : List Nat :=
  ((act.request? number state.host.keys).map state.used).getD []

/-- The keys that an act takes from the index of an engine. -/
def Act.freed (act : Act Row) (number : Nat) (state : Hosted Row) : List Nat :=
  ((act.request? number state.host.keys).map state.freed).getD []

/-- The keys that are used in an engine along a run. -/
def System.usedBy (system : System Row) (number : Nat) (acts : List (Act Row)) : List Nat :=
  gather (whileServing (fun act => act.used number) number) system acts

/-- The keys that are taken from the index of an engine along a run. -/
def System.freedBy (system : System Row) (number : Nat) (acts : List (Act Row)) : List Nat :=
  gather (whileServing (fun act => act.freed number) number) system acts

/-! ## One step -/

/-- A key stays guarded through a mark that does not free it, as long as fewer other keys were used
than the index has places. -/
theorem Mark.guarded {mark : Mark} {index : Recency} {key : Nat} {used : List Nat}
    (guarded : Guarded key used index.members) (ordered : index.Ordered)
    (kept : key ∉ mark.freed)
    (few : ((used ++ mark.used).toFinset.erase key).card < index.capacity) :
    Guarded key (used ++ mark.used) (mark.apply index).members := by
  cases mark with
  | use other => exact ordered.guarded_touch guarded other few
  | free other =>
      have different : key ≠ other := fun same => kept (List.mem_singleton.2 same)
      rw [Mark.used, List.append_nil, Mark.apply, Recency.members_remove ordered.toPaired]
      exact guarded.filter (decide_eq_true different)
  | none =>
      rw [Mark.used, List.append_nil]
      exact guarded

namespace Hosted

variable {state : Hosted Row} {held : Multiset Nat} {request : Request Row} {keyId : Nat}
  {used : List Nat}

theorem guarded_entered (ordered : state.engine.recency.Ordered)
    (guarded : Guarded keyId used state.engine.recency.members)
    (kept : keyId ∉ state.purgedKeys request) :
    Guarded keyId used (state.entered request).engine.recency.members := by
  rw [recency_entered, members_removeAll ordered]
  exact guarded.filter (decide_eq_true kept)

/-- A request that uses a key puts it last. -/
theorem guarded_of_used (sound : state.engine.Sound held) (ordered : state.engine.recency.Ordered)
    (marked : request.mark (state.entered request).engine.store = .use keyId) :
    Guarded keyId [] (state.perform request).state.engine.recency.members := by
  rw [recency_perform sound, marked]
  exact (ordered_entered ordered request).guarded_self keyId []

/-- A key stays guarded through a request that does not free it, as long as fewer other keys were
used than the index has places. -/
theorem guarded_perform (sound : state.engine.Sound held) (ordered : state.engine.recency.Ordered)
    (guarded : Guarded keyId used state.engine.recency.members)
    (kept : keyId ∉ state.freed request)
    (few : ((used ++ state.used request).toFinset.erase keyId).card <
      state.engine.recency.capacity) :
    Guarded keyId (used ++ state.used request)
      (state.perform request).state.engine.recency.members := by
  obtain ⟨unpurged, unfreed⟩ := not_or.1 (mt List.mem_append.2 kept)
  have room : (state.entered request).engine.recency.capacity = state.engine.recency.capacity := by
    rw [recency_entered, capacity_removeAll]
  rw [← room] at few
  rw [recency_perform sound]
  exact Mark.guarded (guarded_entered ordered guarded unpurged) (ordered_entered ordered request)
    unfreed few

end Hosted

namespace Turn

variable {number : Nat} {host next : Host} {engine later : Engine Row}
  {held others : Multiset Nat} {act : Act Row}

/-- Only a request changes the index. -/
theorem recency_of_unasked
    (turn : Turn number host (.running engine) held act next (.running later) others)
    (unasked : act.request? number host.keys = none) : later.recency = engine.recency := by
  cases turn with
  | asked admitted =>
      rw [Act.request?_ask admitted] at unasked
      cases unasked
  | _ => rfl

/-- A key stays guarded through a turn that does not free it, as long as fewer other keys were used
than the index has places. -/
theorem guarded (turn : Turn number host (.running engine) held act next (.running later) others)
    (sound : engine.Sound held) (ordered : engine.recency.Ordered) {keyId : Nat} {used : List Nat}
    (guarded : Guarded keyId used engine.recency.members)
    (kept : keyId ∉ act.freed number ⟨engine, host⟩)
    (few : ((used ++ act.used number ⟨engine, host⟩).toFinset.erase keyId).card <
      engine.recency.capacity) :
    Guarded keyId (used ++ act.used number ⟨engine, host⟩) later.recency.members ∧
      later.recency.capacity = engine.recency.capacity := by
  rw [Act.freed] at kept
  rw [Act.used] at few ⊢
  rcases turn.request_cases with ⟨request, asked, performed⟩ | unasked
  · rw [asked, Option.map_some, Option.getD_some] at kept few ⊢
    have counts : (⟨engine, host⟩ : Hosted Row).engine.Sound held := sound
    have capacity := Hosted.capacity_perform counts request
    have still := Hosted.guarded_perform counts ordered guarded kept few
    rw [performed] at capacity still
    exact ⟨still, capacity⟩
  · rw [unasked, Option.map_none, Option.getD_none, List.append_nil,
      turn.recency_of_unasked unasked]
    exact ⟨guarded, rfl⟩

end Turn

/-! ## What a recent handle is good for -/

/-- A pass over what is not in recent use spares the table of a key in the index. -/
theorem Engine.Sound.notMem_cleared_of_contains {engine : Engine Row} {held : Multiset Nat}
    {keyId : Nat} {shown : Shown} (sound : engine.Sound held)
    (ranked : engine.recency.contains keyId = true)
    (there : engine.store.shown? keyId = some shown) :
    shown.table ∉ engine.store.cleared .weakOnly := by
  obtain ⟨entry, found, recent⟩ := (sound.contains_iff_isRecentlyHeld keyId).1 ranked
  rw [Store.shown?, found, Option.bind_some] at there
  obtain ⟨table, filled, rfl⟩ := Option.map_eq_some_iff.1 there
  exact Memory.Backs.recent_notMem_cleared sound.store filled recent

theorem Store.tier_ne_weak {store : Store Row} {keyId : Nat}
    (recent : store.isRecent keyId = true) : store.tier keyId ≠ .weak := by
  rw [tier_eq, recent]
  cases store.shown? keyId with
  | none => simp
  | some shown =>
      obtain ⟨table, pinned⟩ := shown
      cases pinned <;> simp [Shown.tier]

theorem Hosted.isRecent_purged_of_isOwned {state : Hosted Row} {keyId : Nat}
    (owned : state.host.keys.isOwned keyId = true) :
    state.purged.engine.store.isRecent keyId = state.engine.store.isRecent keyId := by
  rw [Store.isRecent, entryOf?_purged, if_neg (notMem_orphans_of_isOwned owned)]
  rfl

/-- A look-up of a key with an owner in the index is no weak hit. -/
theorem Hosted.access_ne_weakHit {state : Hosted Row} {held : Multiset Nat} {keyId now : Nat}
    {found : Found} (sound : state.engine.Sound held)
    (owned : state.host.keys.isOwned keyId = true)
    (ranked : state.engine.recency.contains keyId = true)
    (answer : (state.lookup keyId now).result = .ok found) : found.access ≠ .weakHit := by
  have recent := (sound.inStep keyId).symm.trans ranked
  have tier := Store.tier_ne_weak ((isRecent_purged_of_isOwned owned).trans recent)
  rcases lookup_cases sound keyId now with ⟨fault, -, failed, -⟩ | ⟨-, done, -⟩
  · rw [failed] at answer
    cases answer
  · rw [done, found_eq_read sound] at answer
    cases answer
    intro weak
    cases classed : state.purged.engine.store.tier keyId with
    | weak => exact tier classed
    | _ =>
        rw [classed] at weak
        cases weak

/-! ## Runs -/

namespace System

variable {opening before window : List (Act Row)} {number keyId : Nat} {first last : Engine Row}
  {state : Hosted Row} {request : Request Row}

theorem usedBy_concat (system : System Row) (number : Nat) (acts : List (Act Row)) (act : Act Row) :
    system.usedBy number (acts ++ [act]) =
      system.usedBy number acts ++
        whileServing (fun act => act.used number) number (finalState step system acts) act :=
  gather_concat _ system acts act

theorem freedBy_concat (system : System Row) (number : Nat) (acts : List (Act Row))
    (act : Act Row) :
    system.freedBy number (acts ++ [act]) =
      system.freedBy number acts ++
        whileServing (fun act => act.freed number) number (finalState step system acts) act :=
  gather_concat _ system acts act

/-- A guarded key stays guarded along a run that does not free it, as long as fewer other keys are
used than the index has places. What is used up to a moment of the run is used up to its end, so the
bound holds all along. -/
theorem guarded_after (running : (after opening).caches[number]? = some (.running first))
    (guarded : Guarded keyId [] first.recency.members)
    (kept : keyId ∉ (after opening).freedBy number window)
    (few : (((after opening).usedBy number window).toFinset.erase keyId).card <
      first.recency.capacity)
    (still : (after (opening ++ window)).caches[number]? = some (.running last)) :
    Guarded keyId ((after opening).usedBy number window) last.recency.members ∧
      last.recency.capacity = first.recency.capacity := by
  induction window using List.reverseRecOn generalizing last with
  | nil =>
      rw [List.append_nil, running] at still
      cases still
      exact ⟨guarded, rfl⟩
  | append_singleton acts act ih =>
      have sound := sound_after (opening ++ acts)
      rw [← List.append_assoc, after_concat] at still
      rcases running_of_step sound still with ⟨earlier, there, turn⟩ | ⟨absent, -⟩
      · have counts := engine_sound_after there
        have ordered := ordered_after there
        rw [freedBy_concat, ← after_append, whileServing_of_running there, List.mem_append,
          not_or] at kept
        rw [usedBy_concat, ← after_append, whileServing_of_running there] at few ⊢
        have fewer := (Recency.card_others_le keyId _ _).trans_lt few
        obtain ⟨sofar, capacity⟩ := ih kept.1 fewer there
        rw [← capacity] at few ⊢
        exact turn.guarded counts ordered sofar kept.2 few
      · obtain ⟨present, there⟩ := present_finalState running acts
        rw [← after_append, absent] at there
        cases there

/-- A request uses a key: it puts it, or it looks it up and finds it. From then on, and as long as
the key is not invalidated, missed by a look-up or purged, and fewer other keys were used than the
index has places, the key is in the index and has its recent handle. A pass over what is not in
recent use does not clear its table, and a look-up of it is no weak hit. -/
theorem use_protects_for_a_window (serving : (after before).serving? number = some state)
    (admitted : request.isAdmitted state.host.keys = true)
    (used : request.mark (state.entered request).engine.store = .use keyId)
    (kept : keyId ∉ (after (before ++ [.ask number request])).freedBy number window)
    (few : (((after (before ++ [.ask number request])).usedBy number window).toFinset.erase
      keyId).card < state.engine.config.recencyCapacity)
    (still : (after (before ++ [.ask number request] ++ window)).caches[number]? =
      some (.running last)) :
    last.recency.contains keyId = true ∧
      (∃ entry, last.store.entryOf? keyId = some entry ∧ entry.recent = some entry.cell) ∧
      (∀ shown, last.store.shown? keyId = some shown →
        shown.table ∉ (after (before ++ [.ask number request] ++ window)).cleared number
          (.reclaim number .weakOnly)) ∧
      ∀ now found,
        ((after (before ++ [.ask number request] ++ window)).step
          (.ask number (.lookup keyId now))).result = .ok (.found found) →
        found.access ≠ .weakHit := by
  obtain ⟨began, -⟩ := serving?_eq_some_iff.1 serving
  have counts := engine_sound_after began
  obtain ⟨running, -⟩ := running_ask serving admitted
  rw [← after_concat] at running
  have start := Hosted.guarded_of_used counts (ordered_after began) used
  rw [← counts.capacity, ← Hosted.capacity_perform counts request] at few
  obtain ⟨guarded, -⟩ := guarded_after running start kept few still
  have sound := engine_sound_after still
  have paired := (ordered_after still).toPaired
  have ranked := (Recency.mem_members paired).1 guarded.mem
  refine ⟨ranked, sound.recent_of_contains ranked, ?_, ?_⟩
  · intro shown there
    rw [cleared_of_running still, Act.cleared, if_pos rfl]
    exact sound.notMem_cleared_of_contains ranked there
  · intro now found answer
    obtain ⟨later, asked, owned, result⟩ := serving_of_found answer
    obtain ⟨here, -⟩ := serving?_eq_some_iff.1 asked
    rw [still] at here
    cases here
    exact Hosted.access_ne_weakHit sound owned ranked result

/-- Three keys, and an engine with room for two of them in recent use. -/
def roomy : List (Act Nat) :=
  [.createKey "a", .createKey "b", .createKey "c", .build ⟨2, 300⟩]

/-- The second key is used again and again, the third one is invalidated, and the first one gives
its table up before a pass. -/
def eventful : List (Act Nat) :=
  [.ask 0 (.put 2 [9]), .ask 0 (.lookup 2 3), .ask 0 (.invalidate 3), .ask 0 (.clear 1 true),
    .dropHold ⟨0, 0⟩, .reclaim 0 .weakOnly, .ask 0 (.put 2 [5]), .dropKey 3]

/-- The first key was put, and one other key was used since. -/
theorem use_protects_for_a_window_eventful :
    (after (roomy ++ [.ask 0 (.put 1 [7, 8])])).usedBy 0 eventful = [2, 2, 2] ∧
    (after (roomy ++ [.ask 0 (.put 1 [7, 8])])).freedBy 0 eventful = [3] ∧
    ∃ last, (after (roomy ++ [.ask 0 (.put 1 [7, 8])] ++ eventful)).caches[0]? =
        some (.running last) ∧
      last.recency.contains 1 = true ∧
      0 ∉ (after (roomy ++ [.ask 0 (.put 1 [7, 8])] ++ eventful)).cleared 0 (.reclaim 0 .weakOnly) ∧
      ∀ found, ((after (roomy ++ [.ask 0 (.put 1 [7, 8])] ++ eventful)).step
          (.ask 0 (.lookup 1 4))).result = .ok (.found found) → found.access ≠ .weakHit := by
  have serving : (after roomy).serving? 0 = some _ := rfl
  have used : (after (roomy ++ [.ask 0 (.put 1 [7, 8])])).usedBy 0 eventful = [2, 2, 2] := by decide
  have freed : (after (roomy ++ [.ask 0 (.put 1 [7, 8])])).freedBy 0 eventful = [3] := by decide
  have still : (after (roomy ++ [.ask 0 (.put 1 [7, 8])] ++ eventful)).caches[0]? =
    some (.running _) := rfl
  obtain ⟨ranked, -, spared, found⟩ := @use_protects_for_a_window Nat _ _ _ 1 _ _ (.put 1 [7, 8])
    serving rfl rfl (by rw [freed]; decide) (by rw [used]; decide) still
  exact ⟨used, freed, _, still, ranked, spared ⟨0, false⟩ rfl, found 4⟩

end System

end TableCache
