import TableCache.Proofs.Engine.Looks
import TableCache.Proofs.Interference
import TableCache.Proofs.System.Chores

/-!
# Observers leave no trace

Whoever only looks at an engine, or counts the cells that its reclaimer could clear, makes work be
done that was put off: cells that are gone are forgotten, clearances are counted, an inbox is gone
through. Nothing else comes of it. If looks are put into a run, at times when no entry of a key
without owner waits to be removed, every act of the run is answered as it is without them.

Main statements:

1. `Matches.glance`: a system and the same system after a look;
2. `Matches.attend`: an item of a run with looks in it;
3. `observers_leave_no_trace`: the whole run.
-/

namespace TableCache

universe u v

variable {Row : Type u}

/-- What an observer does: to ask a question, or to have the reclaimer count. -/
inductive Look where
  | ask (number : Nat) (question : Question)
  | reclaimable (number : Nat)
  | tracked (number : Nat)
  deriving DecidableEq, Repr

/-- The engine that is looked at. -/
def Look.number : Look → Nat
  | .ask number _ | .reclaimable number | .tracked number => number

/-- The act of an observer. -/
def Look.act : Look → Act Row
  | .ask number question => .ask number question.request
  | .reclaimable number => .reclaimable number
  | .tracked number => .tracked number

/-- An act of a run, or a look that was put into it. -/
inductive Item (Row : Type u) where
  | act (act : Act Row)
  | look (look : Look)
  deriving DecidableEq, Repr

/-- The keys without owners whose entries wait to be removed from an engine. -/
def Hosted.unclaimed (state : Hosted Row) : List Nat :=
  (List.range state.engine.store.entries.next).filter fun keyId =>
    state.engine.store.has keyId && !state.host.keys.isOwned keyId

theorem Hosted.claimed_of_unclaimed {state : Hosted Row} (none : state.unclaimed = []) :
    state.Claimed := by
  intro keyId there
  obtain ⟨entry, found⟩ := Option.isSome_iff_exists.1 there
  have inside := List.mem_range.2 (Numbered.lt_next_of_find? found)
  simpa [there] using List.filter_eq_nil_iff.1 none keyId inside

namespace System

/-- A look, after which every table that came with the answer is given back at once. -/
def glance (system : System Row) (look : Look) : Reply (System Row) Response :=
  let reply := system.step look.act
  { reply with
    state := finalState step reply.state
      ((Hosted.given reply.result).map fun table => .dropHold ⟨look.number, table⟩) }

/-- An act, or a look. -/
def attend (system : System Row) : Item Row → Reply (System Row) Response
  | .act act => system.step act
  | .look look => system.glance look

/-- The system after a run with looks in it, starting from nothing. -/
def attended (items : List (Item Row)) : System Row := finalState attend empty items

/-- What a run with looks in it brings, item by item. -/
def along {α : Type v} (what : System Row → Item Row → List α) (system : System Row) :
    List (Item Row) → List α
  | [] => []
  | item :: rest => what system item ++ along what (system.attend item).state rest

/-- What comes of an act, for an engine; what comes of a look is for the observer. -/
def heard (number : Nat) (system : System Row) : Item Row → List (Told Row)
  | .act act => system.told number act
  | .look _ => []

/-- The keys whose entries wait to be removed from the engine that a look asks. -/
def waits (system : System Row) : Item Row → List Nat
  | .look (.ask number _) => ((system.serving? number).map Hosted.unclaimed).getD []
  | _ => []

end System

/-- An item that is an act. -/
def Item.act? : Item Row → Option (Act Row)
  | .act taken => some taken
  | .look _ => none

/-- The acts of a run, without the looks. -/
def Item.acts (items : List (Item Row)) : List (Act Row) := items.filterMap Item.act?

/-! ## Looks -/

namespace System

variable {system full reduced : System Row} {number : Nat}

/-- Giving back the tables of an engine that were just handed out. -/
theorem finalState_dropHold (caches : List (Cache Row)) (holds : List Hold)
    (inside : number < caches.length) (tables : List Nat) (state : Hosted Row) :
    finalState step
        ⟨state.host, caches.set number (.running state.engine),
          tables.map (Hold.mk number) ++ holds⟩
        (tables.map fun table => .dropHold ⟨number, table⟩) =
      ⟨(tables.foldl Hosted.release state).host,
        caches.set number (.running (tables.foldl Hosted.release state).engine), holds⟩ := by
  induction tables generalizing state with
  | nil => rfl
  | cons table rest ih =>
      have there : (caches.set number (.running state.engine))[number]? =
          some (.running state.engine) := List.getElem?_set_self inside
      have dropped : (System.step
          ⟨state.host, caches.set number (.running state.engine),
            ⟨number, table⟩ :: (rest.map (Hold.mk number) ++ holds)⟩
          (.dropHold ⟨number, table⟩)).state =
        ⟨state.host, caches.set number (.running (state.release table).engine),
          rest.map (Hold.mk number) ++ holds⟩ := by
        rw [step, if_pos List.mem_cons_self]
        simp only [Reply.ok, onMemory, there, setCache, List.set_set, List.erase_cons_head]
        rfl
      rw [List.foldl_cons, ← ih, List.map_cons, List.map_cons, List.cons_append, finalState,
        dropped]
      rfl

/-- What is left of a question that an engine answered, and of the tables that came with it. -/
theorem glance_ask {state : Hosted Row} {question : Question}
    (serving : system.serving? number = some state)
    (admitted : (question.request : Request Row).isAdmitted state.host.keys = true) :
    let later := (Hosted.given (state.perform question.request).result).foldl Hosted.release
      (state.perform question.request).state
    (system.glance (.ask number question)).state =
      ⟨later.host, system.caches.set number (.running later.engine), system.holds⟩ := by
  obtain ⟨running, -⟩ := serving?_eq_some_iff.1 serving
  unfold glance
  simp only [Look.act, Look.number, step_ask serving admitted]
  exact finalState_dropHold system.caches system.holds (List.getElem?_eq_some_iff.1 running).1 _ _

namespace Matches

variable {first second : List (Act Row)}

/-- Work that is done in one system only, if as much of it is left in the other. -/
theorem ahead (same : full.Matches reduced) {cache other : Cache Row} {host : Host}
    (there : reduced.caches[number]? = some other) (next : cache.Matches other)
    (owned : host.keys.owned = full.host.keys.owned) (clock : host.clock = full.host.clock)
    (apart : ∀ place, place ≠ number → host.keys.posted place = full.host.keys.posted place)
    (own : ∀ engine, cache = .running engine →
      (reduced.host.keys.posted number).filter engine.store.has =
        (host.keys.posted number).filter engine.store.has) :
    Matches ⟨host, full.caches.set number cache, full.holds⟩ reduced := by
  have kept : reduced.caches.set number other = reduced.caches := by
    obtain ⟨inside, found⟩ := List.getElem?_eq_some_iff.1 there
    rw [← found]
    exact List.set_getElem_self inside
  have whole := same.set next (same.owned.trans owned.symm) (same.clock.trans clock.symm) full.holds
    (fun place different => ⟨apart place different, rfl⟩) own
  rw [kept, ← same.holds] at whole
  rw [← same.holds]
  exact whole

/-- Nothing that matters waits in the inbox of an engine without orphans: a notice is of a key
without owner, and entries belong to keys with owners. -/
theorem waiting_of_claimed (same : (after first).Matches (after second)) {state : Hosted Row}
    (serving : (after first).serving? number = some state) (claimed : state.Claimed) :
    ((after second).host.keys.posted number).filter state.engine.store.has = [] := by
  obtain ⟨running, host⟩ := serving?_eq_some_iff.1 serving
  have inbox := (wired_after first).inbox number _ running
  have informed := informed_after running
  rw [same.waiting number _ running]
  refine List.filter_eq_nil_iff.2 fun keyId posted there => ?_
  have ended : keyId ∈ deadSince number first := by
    refine informed.ending.subset ?_
    rwa [inbox]
  have lost := ((dead_deadSince number first).2 keyId ended).2
  rw [← host, claimed keyId there] at lost
  cases lost

/-- A question leaves nothing but work that was done. -/
theorem glance_ask (same : (after first).Matches (after second)) {question : Question}
    (claimed : (after first).waits (.look (.ask number question)) = [])
    (answered : ((after first).glance (.ask number question)).result ≠ .error .overflow) :
    ((after first).glance (.ask number question)).state.Matches (after second) := by
  rcases ask_cases (after first) number (question.request : Request Row) with
    ⟨refused, -⟩ | ⟨state, serving, admitted, done⟩
  · have unchanged : ((after first).glance (.ask number question)).state = after first := by
      unfold glance
      simp only [Look.act, refused]
      rfl
    rw [unchanged]
    exact same
  · obtain ⟨running, host⟩ := serving?_eq_some_iff.1 serving
    have inbox := (wired_after first).inbox number _ running
    have words := (le_of_mem_snapshots running).1
    have entries : state.Claimed := by
      refine Hosted.claimed_of_unclaimed ?_
      simpa [waits, serving] using claimed
    have counted : (state.perform question.request).result ≠ .error .overflow := by
      intro full
      refine answered ?_
      show ((after first).step (.ask number question.request)).result = _
      rw [done]
      exact full
    obtain ⟨recorder, agrees, left⟩ := Hosted.perform_question entries
      ((sound_after first).caches number _ running) words counted
    have glanced := System.glance_ask serving admitted
    rw [left] at glanced
    rw [glanced]
    obtain ⟨other, there, alike⟩ := same.caches number _ running
    cases alike with
    | @running _ registry later lists told =>
        have looked : Cache.Matches (.running (state.looked recorder).engine) _ :=
          .running lists (agrees.trans told)
        have waited := same.waiting_of_claimed serving entries
        refine same.ahead there looked (by rw [← host]; rfl) (by rw [← host]; rfl)
          (fun place different => ?_) fun engine here => ?_
        · rw [← inbox] at different
          rw [← host]
          exact (Keys.posted_collect _ _ _).trans (if_neg different)
        · cases here
          have emptied : (state.looked recorder).host.keys.posted number = [] :=
            (Keys.posted_collect _ _ _).trans (if_pos inbox.symm)
          rw [emptied]
          exact waited

/-- Counting cells leaves nothing but cells forgotten. -/
theorem glance_manage (same : full.Matches reduced) {look : Look}
    (counts : look = .reclaimable number ∨ look = .tracked number) :
    (full.glance look).state.Matches reduced := by
  have counted : (full.glance look).state =
      (full.manage number fun cache =>
        .ok (cache.withMemory cache.memory.live.2) .done).state := by
    rcases counts with rfl | rfl <;>
      simp only [glance, Look.act, System.step, System.manage] <;>
      cases full.caches[number]? <;> rfl
  rw [counted, System.manage]
  cases there : full.caches[number]? with
  | none => exact same
  | some cache =>
      obtain ⟨other, here, alike⟩ := same.caches number cache there
      refine same.ahead here alike.pruned rfl rfl (fun _ _ => rfl) fun engine running => ?_
      obtain ⟨earlier, rfl, has⟩ := Cache.has_of_withMemory running
      rw [has]
      exact same.waiting number earlier there

/-- A look leaves two systems that match. -/
theorem glance (same : (after first).Matches (after second)) (look : Look)
    (claimed : (after first).waits (.look look) = [])
    (answered : ((after first).glance look).result ≠ .error .overflow) :
    ((after first).glance look).state.Matches (after second) := by
  cases look with
  | ask number question => exact same.glance_ask claimed answered
  | reclaimable number => exact same.glance_manage (.inl rfl)
  | tracked number => exact same.glance_manage (.inr rfl)

/-- The same comes of an act in two systems that match. -/
theorem told_eq (same : (after first).Matches (after second)) {act : Act Row}
    (answered : ((after first).step act).result ≠ .error .overflow) (number : Nat) :
    (after second).told number act = (after first).told number act := by
  have alike := same.step answered
  have rows (table : Nat) : ((after second).step act).state.rowsOf ⟨number, table⟩ =
      ((after first).step act).state.rowsOf ⟨number, table⟩ := alike.state.rowsOf_eq _
  unfold told
  simp only [alike.result, alike.events, rows]

end Matches

/-! ## Runs -/

variable {first second : List (Act Row)}

/-- A run with looks in it is a run as well. -/
theorem after_attend (acts : List (Act Row)) (item : Item Row) :
    ∃ more, ((after acts).attend item).state = after (acts ++ more) := by
  cases item with
  | act act => exact ⟨[act], (after_concat acts act).symm⟩
  | look look =>
      refine ⟨look.act :: (Hosted.given ((after acts).step look.act).result).map fun table =>
        .dropHold ⟨look.number, table⟩, ?_⟩
      rw [after_append]
      rfl

/-- From systems that match, the acts of a run are answered alike with looks and without them. -/
theorem Matches.along (same : (after first).Matches (after second)) {items : List (Item Row)}
    (claimed : along waits (after first) items = [])
    (answered : ∀ reply ∈ replies attend (after first) items, reply.result ≠ .error .overflow) :
    (∀ number, gather (told number) (after second) (Item.acts items) =
        System.along (heard number) (after first) items) ∧
      (finalState attend (after first) items).Matches
        (finalState System.step (after second) (Item.acts items)) := by
  induction items generalizing first second with
  | nil => exact ⟨fun _ => rfl, same⟩
  | cons item rest ih =>
      obtain ⟨more, next⟩ := after_attend first item
      obtain ⟨here, later⟩ := List.append_eq_nil_iff.1 claimed
      have now := answered _ List.mem_cons_self
      have rest_answered := fun reply member => answered reply (List.mem_cons_of_mem _ member)
      rw [next] at later rest_answered
      cases item with
      | act act =>
          have matching := (same.step now).state
          have moved : ((after first).step act).state = after (first ++ more) := next
          rw [moved, ← after_concat] at matching
          obtain ⟨tail, last⟩ := ih matching later rest_answered
          rw [after_concat, ← moved] at tail last
          exact ⟨fun number => congrArg₂ (· ++ ·) (same.told_eq now number) (tail number), last⟩
      | look look =>
          have matching := same.glance look here now
          have moved : ((after first).glance look).state = after (first ++ more) := next
          rw [moved] at matching
          obtain ⟨tail, last⟩ := ih matching later rest_answered
          rw [← moved] at tail last
          exact ⟨tail, last⟩

/-- Observers leave no trace: if looks are put into a run at times when no entry of a key without
owner waits to be removed from the engine that is asked, and cells are counted at any times, then
every act of the run is answered as it is without them, with the same events and the same rows, and
the same tables are held in the end. -/
theorem observers_leave_no_trace (items : List (Item Row))
    (claimed : along waits empty items = [])
    (answered : ∀ reply ∈ replies attend empty items, reply.result ≠ .error .overflow) :
    (∀ number, toldBy number (Item.acts items) = along (heard number) empty items) ∧
      (after (Item.acts items)).holds = (attended items).holds ∧
      ∀ hold, (after (Item.acts items)).rowsOf hold = (attended items).rowsOf hold := by
  have start : (after ([] : List (Act Row))).Matches (after []) := by
    refine ⟨rfl, rfl, rfl, rfl, fun number cache there => ?_, fun number engine there => ?_⟩ <;>
      simp [after, finalState, empty] at there
  obtain ⟨told, same⟩ := start.along claimed answered
  exact ⟨told, same.holds, same.rowsOf_eq⟩

/-- A run with looks in it. A look finds the table that is due next and does not renew its use, so
the pass clears it; the clearances are counted by a look, and one more look comes while the entry of
a key without owner waits. -/
def browsed : List (Item Nat) :=
  [.act (.createKey "a"), .act (.createKey "b"), .act (.createKey "c"), .act (.build ⟨2, 300⟩),
    .act (.ask 0 (.put 1 [7])), .act (.ask 0 (.put 2 [8])), .look (.ask 0 (.peek 1)),
    .act (.ask 0 (.put 3 [9])), .act (.dropHold ⟨0, 0⟩), .act (.dropHold ⟨0, 1⟩),
    .act (.dropHold ⟨0, 2⟩), .act (.ask 0 (.clear 1 true)), .act (.ask 0 (.clear 2 true)),
    .act (.ask 0 (.clear 3 true)), .look (.reclaimable 0), .look (.ask 0 (.peek 2)),
    .look (.ask 0 (.tier 2)), .act (.reclaim 0 (.bounded 2)), .look (.ask 0 .statistics),
    .look (.ask 0 .isEmpty), .act (.dropKey 1), .look (.tracked 0), .act (.ask 0 .purge),
    .act (.ask 0 (.lookup 2 0)), .look (.tracked 0), .act (.ask 0 .size)]

/-- The looks do work that is left to do without them, and still every act is answered alike. -/
theorem observers_leave_no_trace_browsed :
    (attended browsed).caches ≠ (after (Item.acts browsed)).caches ∧
      toldBy 0 (Item.acts browsed) = along (heard 0) empty browsed ∧
      ((toldBy 0 (Item.acts browsed)).map Told.result).drop 13 =
        [.ok (.report ⟨1, 1⟩), .ok .done, .ok (.number 1), .ok (.found ⟨none, .miss⟩),
          .ok (.number 1)] := by
  obtain ⟨told, -⟩ := observers_leave_no_trace browsed (by decide +kernel)
    (by decide +kernel)
  exact ⟨by decide +kernel, told 0, by decide +kernel⟩

end System

end TableCache
