import TableCache.Proofs.Engine.Chores
import TableCache.Proofs.Orphans

/-!
# Systems whose engines have put off different things

Two systems match if their engines differ in what they put off and in nothing else, and have the
same left to do. An act is answered alike by two systems that match and leaves two that match, as
long as no counter is full.

Main statements:

1. `Cache.Matches.withMemory`, `Cache.Matches.reclaim`: what is done to a memory;
2. `Matches.ask`, `Matches.close`, `Matches.dropKey`, ...: one act after the other;
3. `Matches.step`: any act.
-/

namespace TableCache

universe u v

variable {Row : Type u}

/-- Replies with the same result and the same events, that leave states that `agree`. -/
structure Reply.SameUpTo {σ : Type u} {α : Type v} (agree : σ → σ → Prop)
    (reply other : Reply σ α) : Prop where
  result : other.result = reply.result
  events : other.events = reply.events
  state : agree reply.state other.state

/-! ## Keys with the same owners -/

namespace Keys

variable {keys others : Keys}

theorem owned_release (owned : others.owned = keys.owned) (keyId : Nat) :
    (others.release keyId).owned = (keys.release keyId).owned := by
  unfold release
  rw [owned]
  cases keys.owned.find? keyId with
  | none => exact owned
  | some identity =>
      simp only
      split <;> rfl

/-- The end of a key is posted alike to an inbox that is open. -/
theorem filter_posted_release (owned : others.owned = keys.owned) (first : keys.Distinct)
    (second : others.Distinct) {inbox : Nat} (isOpen : keys.isOpen inbox = true)
    (still : others.isOpen inbox = true) {keep : Nat → Bool}
    (same : (others.posted inbox).filter keep = (keys.posted inbox).filter keep) {keyId : Nat}
    (there : keys.isOwned keyId = true) :
    ((others.release keyId).posted inbox).filter keep =
      ((keys.release keyId).posted inbox).filter keep := by
  have owner : others.isOwned keyId = true := by rwa [isOwned, owned]
  have left : (others.release keyId).isOwned keyId = (keys.release keyId).isOwned keyId := by
    rw [isOwned, owned_release owned, isOwned]
  have watches : others.watches keyId inbox = keys.watches keyId inbox := by
    rw [Keys.watches, owned, Keys.watches]
  cases last : (keys.release keyId).isOwned keyId with
  | true =>
      rw [release_of_shared last, release_of_shared (left.trans last)]
      exact same
  | false =>
      rw [posted_release_of_last first there last isOpen,
        posted_release_of_last second owner (left.trans last) still, watches]
      split
      next => rw [List.filter_append, List.filter_append, same]
      next => exact same

end Keys

/-! ## Engines that match -/

/-- Two engines, or what is left of two, that have the same left to do. -/
inductive Cache.Matches : Cache Row → Cache Row → Prop
  | running {engine : Engine Row} {registry : Registry} {recorder : Recorder} :
      engine.store.memory.Lists registry → engine.recorder.Agrees recorder →
      Matches (.running engine)
        (.running { engine with
          store := engine.store.withRegistry registry
          recorder := recorder })
  | closed {memory : Memory Row} {registry : Registry} :
      memory.Lists registry → Matches (.closed memory) (.closed (memory.withRegistry registry))

/-- Which keys have entries does not depend on the memory. -/
theorem Cache.has_of_withMemory {cache : Cache Row} {memory : Memory Row} {engine : Engine Row}
    (running : cache.withMemory memory = .running engine) :
    ∃ earlier, cache = .running earlier ∧ engine.store.has = earlier.store.has := by
  cases cache with
  | running earlier =>
      cases running
      exact ⟨earlier, rfl, rfl⟩
  | closed other => cases running

theorem Cache.has_of_reclaim {cache : Cache Row} {pressure : Pressure} {engine : Engine Row}
    (running : (cache.reclaim pressure).state = .running engine) :
    ∃ earlier, cache = .running earlier ∧ engine.store.has = earlier.store.has := by
  cases cache with
  | running earlier =>
      cases running
      exact ⟨earlier, rfl, rfl⟩
  | closed memory => cases running

namespace Cache.Matches

variable {cache other : Cache Row}

theorem memory_eq (same : cache.Matches other) :
    ∃ registry, other.memory = cache.memory.withRegistry registry ∧
      cache.memory.Lists registry := by
  cases same with
  | @running engine registry recorder lists agrees => exact ⟨registry, rfl, lists⟩
  | @closed memory registry lists => exact ⟨registry, rfl, lists⟩

/-- What depends on the tables and the cells alone is done to both. -/
theorem withMemory (same : cache.Matches other) {change : Memory Row → Memory Row}
    (steady : ∀ memory registry,
      change (memory.withRegistry registry) = (change memory).withRegistry registry)
    (shrinks : ∀ memory : Memory Row, memory.Shrinks (change memory)) :
    (cache.withMemory (change cache.memory)).Matches
      (other.withMemory (change other.memory)) := by
  cases same with
  | @running engine registry recorder lists agrees =>
      have next := lists.shrinks (shrinks engine.store.memory)
      have changed := steady engine.store.memory registry
      simp only [Cache.memory, Cache.withMemory, Store.withRegistry, changed]
      exact .running next agrees
  | @closed memory registry lists =>
      have next := lists.shrinks (shrinks memory)
      simp only [Cache.memory, Cache.withMemory, steady]
      exact .closed next

/-- A listing shows the same cells. -/
theorem live (same : cache.Matches other) :
    other.memory.live.1 = cache.memory.live.1 ∧
      (cache.withMemory cache.memory.live.2).Matches
        (other.withMemory other.memory.live.2) := by
  cases same with
  | running lists agrees => exact ⟨lists.live_eq, .running lists.live agrees⟩
  | closed lists => exact ⟨lists.live_eq, .closed lists.live⟩

/-- What is forgotten in one place may still be listed in the other. -/
theorem pruned (same : cache.Matches other) :
    (cache.withMemory cache.memory.live.2).Matches other := by
  have again {memory : Memory Row} {registry : Registry} (lists : memory.Lists registry) :
      memory.live.2.Lists registry := by
    refine ⟨lists.known, lists.same.trans ?_⟩
    exact (List.filter_eq_self.2 fun cell member => (List.mem_filter.1 member).2).symm
  cases same with
  | @running engine registry recorder lists agrees =>
      exact .running (again lists) agrees
  | @closed memory registry lists => exact .closed (again lists)

theorem reclaimable_eq (same : cache.Matches other) :
    other.memory.reclaimable.1 = cache.memory.reclaimable.1 := by
  obtain ⟨registry, memory, lists⟩ := same.memory_eq
  rw [memory]
  exact congrArg (List.countP cache.memory.isReclaimable) lists.same

/-- A pass is reported alike. -/
theorem reclaim (same : cache.Matches other) (pressure : Pressure) :
    Reply.SameUpTo Matches (cache.reclaim pressure) (other.reclaim pressure) := by
  cases same with
  | @running engine registry recorder lists agrees =>
      obtain ⟨pass, later⟩ := lists.reclaim pressure
      have pass : ((engine.store.withRegistry registry).memory.reclaim pressure) = _ := pass
      unfold Cache.reclaim Engine.reclaim
      simp only [pass]
      exact ⟨rfl, rfl, .running later (agrees.post _)⟩
  | @closed memory registry lists =>
      obtain ⟨pass, later⟩ := lists.reclaim pressure
      unfold Cache.reclaim
      simp only [pass]
      exact ⟨rfl, rfl, .closed later⟩

end Cache.Matches

namespace System

/-- Two systems whose engines have put off different things and have the same left to do. -/
structure Matches (full reduced : System Row) : Prop where
  owned : reduced.host.keys.owned = full.host.keys.owned
  clock : reduced.host.clock = full.host.clock
  holds : reduced.holds = full.holds
  length : reduced.caches.length = full.caches.length
  caches : ∀ (number : Nat) (cache : Cache Row), full.caches[number]? = some cache →
    ∃ other, reduced.caches[number]? = some other ∧ cache.Matches other
  waiting : ∀ (number : Nat) (engine : Engine Row),
    full.caches[number]? = some (.running engine) →
    (reduced.host.keys.posted number).filter engine.store.has =
      (full.host.keys.posted number).filter engine.store.has

namespace Matches

variable {full reduced : System Row} {number : Nat}

theorem isOwned_eq (same : full.Matches reduced) :
    reduced.host.keys.isOwned = full.host.keys.isOwned := by
  unfold Keys.isOwned
  rw [same.owned]

theorem host_eq (same : full.Matches reduced) :
    full.host.withInboxes reduced.host.keys.inboxes = reduced.host := by
  show Host.mk ⟨full.host.keys.owned, reduced.host.keys.inboxes⟩ full.host.clock = reduced.host
  rw [← same.owned, ← same.clock]

theorem isAdmitted_eq (same : full.Matches reduced) (request : Request Row) :
    request.isAdmitted reduced.host.keys = request.isAdmitted full.host.keys := by
  unfold Request.isAdmitted
  rw [same.isOwned_eq]

theorem absent (same : full.Matches reduced) (absent : full.caches[number]? = none) :
    reduced.caches[number]? = none := by
  rw [List.getElem?_eq_none_iff] at absent ⊢
  rwa [same.length]

theorem rowsOf_eq (same : full.Matches reduced) (hold : Hold) :
    reduced.rowsOf hold = full.rowsOf hold := by
  unfold rowsOf
  cases there : full.caches[hold.engine]? with
  | none => rw [same.absent there]
  | some cache =>
      obtain ⟨other, here, next⟩ := same.caches hold.engine cache there
      obtain ⟨registry, memory, -⟩ := next.memory_eq
      rw [here]
      simp only [memory]
      rfl

/-! ## Changes in one place -/

/-- Other keys, if they post the same to the engines that are running. -/
theorem withKeys (same : full.Matches reduced) {keys others : Keys}
    (owned : others.owned = keys.owned)
    (posted : ∀ (number : Nat) (engine : Engine Row),
      full.caches[number]? = some (.running engine) →
      (others.posted number).filter engine.store.has =
        (keys.posted number).filter engine.store.has) :
    (full.withKeys keys).Matches (reduced.withKeys others) :=
  { same with owned := owned, waiting := posted }

/-- One engine is replaced, and only its own inbox is touched. -/
theorem set (same : full.Matches reduced) {cache other : Cache Row} (next : cache.Matches other)
    {first second : Host} (owned : second.keys.owned = first.keys.owned)
    (clock : second.clock = first.clock) (holds : List Hold)
    (apart : ∀ place, place ≠ number →
      first.keys.posted place = full.host.keys.posted place ∧
        second.keys.posted place = reduced.host.keys.posted place)
    (own : ∀ engine, cache = .running engine →
      (second.keys.posted number).filter engine.store.has =
        (first.keys.posted number).filter engine.store.has) :
    Matches ⟨first, full.caches.set number cache, holds⟩
      ⟨second, reduced.caches.set number other, holds⟩ where
  owned := owned
  clock := clock
  holds := rfl
  length := by simp [same.length]
  caches := by
    intro place found there
    rw [List.getElem?_set] at there ⊢
    split at there
    next here =>
      subst here
      rw [if_pos rfl, same.length]
      split at there
      next inside =>
        cases there
        exact ⟨other, if_pos inside, next⟩
      next => cases there
    next elsewhere =>
      rw [if_neg elsewhere]
      exact same.caches place found there
  waiting := by
    intro place engine there
    simp only at there ⊢
    rw [List.getElem?_set] at there
    split at there
    next here =>
      subst here
      split at there
      next => exact own engine (Option.some.inj there)
      next => cases there
    next elsewhere =>
      obtain ⟨one, two⟩ := apart place (Ne.symm elsewhere)
      rw [one, two]
      exact same.waiting place engine there

/-- One more engine, with an inbox of its own. An engine that is there afterwards was there before,
or is the last one. -/
theorem append (same : full.Matches reduced) {cache other : Cache Row} (next : cache.Matches other)
    {first second : Host} (owned : second.keys.owned = first.keys.owned)
    (clock : second.clock = first.clock)
    (apart : ∀ place, place ≠ full.caches.length →
      first.keys.posted place = full.host.keys.posted place ∧
        second.keys.posted place = reduced.host.keys.posted place)
    (own : second.keys.posted full.caches.length = first.keys.posted full.caches.length) :
    Matches ⟨first, full.caches ++ [cache], full.holds⟩
      ⟨second, reduced.caches ++ [other], reduced.holds⟩ := by
  have cases_of : ∀ (place : Nat) (found : Cache Row),
      (full.caches ++ [cache])[place]? = some found →
      place ≠ full.caches.length ∧ full.caches[place]? = some found ∨
        place = full.caches.length ∧ found = cache := by
    intro place found there
    rcases Nat.lt_trichotomy place full.caches.length with inside | rfl | beyond
    · rw [List.getElem?_append_left inside] at there
      exact .inl ⟨Nat.ne_of_lt inside, there⟩
    · rw [List.getElem?_concat_length] at there
      exact .inr ⟨rfl, (Option.some.inj there).symm⟩
    · have none := List.getElem?_eq_none (l := full.caches ++ [cache]) (i := place) (by
        rw [List.length_append, List.length_singleton]
        exact beyond)
      rw [none] at there
      cases there
  refine ⟨owned, clock, same.holds, by simp [same.length], fun place found there => ?_,
    fun place engine there => ?_⟩
  · rcases cases_of place found there with ⟨-, old⟩ | ⟨rfl, rfl⟩
    · obtain ⟨another, here, alike⟩ := same.caches place found old
      exact ⟨another, List.getElem?_append_left (List.getElem?_eq_some_iff.1 here).1 ▸ here, alike⟩
    · refine ⟨other, ?_, next⟩
      rw [← same.length]
      exact List.getElem?_concat_length
  · rcases cases_of place _ there with ⟨different, old⟩ | ⟨rfl, -⟩
    · obtain ⟨one, two⟩ := apart place different
      simp only
      rw [one, two]
      exact same.waiting place engine old
    · exact congrArg (List.filter _) own

/-- What is done to the tables and the cells of an engine, and then to the holds. -/
theorem onMemory (same : full.Matches reduced) {change : Memory Row → Memory Row}
    (steady : ∀ memory registry,
      change (memory.withRegistry registry) = (change memory).withRegistry registry)
    (shrinks : ∀ memory : Memory Row, memory.Shrinks (change memory)) (number : Nat)
    (holds : List Hold) :
    ((full.onMemory number change).withHolds holds).Matches
      ((reduced.onMemory number change).withHolds holds) := by
  unfold System.onMemory
  cases there : full.caches[number]? with
  | none =>
      rw [same.absent there]
      exact { same with holds := rfl }
  | some cache =>
      obtain ⟨other, here, alike⟩ := same.caches number cache there
      rw [here]
      refine same.set (alike.withMemory steady shrinks) same.owned same.clock holds
        (fun _ _ => ⟨rfl, rfl⟩) fun engine running => ?_
      obtain ⟨earlier, rfl, has⟩ := Cache.has_of_withMemory running
      rw [has]
      exact same.waiting number earlier there

/-- What the memory manager does with an engine. -/
theorem manage (same : full.Matches reduced) {move : Cache Row → Reply (Cache Row) Response}
    (moves : ∀ {cache other : Cache Row}, cache.Matches other →
      Reply.SameUpTo Cache.Matches (move cache) (move other))
    (keeps : ∀ cache : Cache Row, ∀ engine, (move cache).state = .running engine →
      ∃ earlier, cache = .running earlier ∧ engine.store.has = earlier.store.has) (number : Nat) :
    Reply.SameUpTo Matches (full.manage number move) (reduced.manage number move) := by
  unfold System.manage
  cases there : full.caches[number]? with
  | none =>
      rw [same.absent there]
      exact ⟨rfl, rfl, same⟩
  | some cache =>
      obtain ⟨other, here, alike⟩ := same.caches number cache there
      obtain ⟨result, events, next⟩ := moves alike
      rw [here]
      refine ⟨result, events, ?_⟩
      show Matches _ ⟨reduced.host, reduced.caches.set number _, reduced.holds⟩
      rw [same.holds]
      refine same.set next same.owned same.clock full.holds (fun _ _ => ⟨rfl, rfl⟩)
        fun engine running => ?_
      obtain ⟨earlier, rfl, has⟩ := keeps cache engine running
      rw [has]
      exact same.waiting number earlier there

/-- An engine that is running runs in either system, with chores that come to the same. -/
theorem serving (same : full.Matches reduced) (wired : full.Wired) {state : Hosted Row}
    (serving : full.serving? number = some state) :
    ∃ chores, reduced.serving? number = some (state.withChores chores) ∧ state.Owes chores ∧
      chores.inboxes = reduced.host.keys.inboxes := by
  obtain ⟨running, host⟩ := serving?_eq_some_iff.1 serving
  obtain ⟨other, here, alike⟩ := same.caches number _ running
  obtain ⟨engine, host⟩ := state
  subst host
  have inbox := wired.inbox number engine running
  have waiting := same.waiting number engine running
  cases alike with
  | @running _ registry recorder lists agrees =>
      refine ⟨⟨registry, recorder, reduced.host.keys.inboxes⟩, ?_, ⟨lists, agrees, ?_⟩, rfl⟩
      · exact serving?_eq_some_iff.2 ⟨here, same.host_eq⟩
      · rw [inbox]
        exact waiting

theorem not_serving (same : full.Matches reduced) (absent : full.serving? number = none) :
    reduced.serving? number = none := by
  cases there : full.caches[number]? with
  | none => exact serving?_of_absent (same.absent there)
  | some cache =>
      obtain ⟨memory, rfl⟩ := closed_of_not_serving there absent
      obtain ⟨other, here, alike⟩ := same.caches number _ there
      cases alike with
      | closed lists => rw [serving?, here]

/-- A request is answered alike. -/
theorem ask (same : full.Matches reduced) (wired : full.Wired) (sound : full.Sound)
    (ready : ∀ engine, full.caches[number]? = some (.running engine) →
      engine.store.memory.Registered ∧ engine.recorder.counters.Fits) {request : Request Row}
    (answered : (full.step (.ask number request)).result ≠ .error .overflow) :
    Reply.SameUpTo Matches (full.step (.ask number request))
      (reduced.step (.ask number request)) := by
  rcases ask_cases full number request with ⟨done, refused⟩ | ⟨state, serving, admitted, done⟩
  · have too : reduced.step (.ask number request) = .ok reduced .refused := by
      rw [System.step]
      cases serving : full.serving? number with
      | none => rw [same.not_serving serving]
      | some state =>
          obtain ⟨chores, there, -⟩ := same.serving wired serving
          rw [there, same.isAdmitted_eq]
          exact if_neg (refused state serving)
    rw [done, too]
    exact ⟨rfl, rfl, same⟩
  · obtain ⟨running, host⟩ := serving?_eq_some_iff.1 serving
    obtain ⟨registered, words⟩ := ready state.engine running
    have inbox := wired.inbox number _ running
    obtain ⟨chores, there, owes, inboxes⟩ := same.serving wired serving
    rw [done] at answered ⊢
    have safe := sound.caches number _ running
    obtain ⟨next, performed, left, others⟩ :=
      Hosted.perform_withChores owes safe registered words answered
    have allowed : request.isAdmitted (state.withChores chores).host.keys = true := by
      rw [(serving?_eq_some_iff.1 there).2, same.isAdmitted_eq, ← host]
      exact admitted
    rw [step_ask there allowed, performed]
    let later := (state.perform request).state
    let holds := (Hosted.given (state.perform request).result).map (Hold.mk number)
    refine ⟨rfl, rfl, ?_⟩
    show Matches ⟨later.host, full.caches.set number (.running later.engine), holds ++ full.holds⟩
      ⟨(later.withChores next).host,
        reduced.caches.set number (.running (later.withChores next).engine),
        holds ++ reduced.holds⟩
    have owned : (later.withChores next).host.keys.owned = later.host.keys.owned := rfl
    have clock : (later.withChores next).host.clock = later.host.clock := rfl
    rw [same.holds]
    refine same.set (.running left.lists left.agrees) owned clock _
      (fun place different => ?_) fun engine here => ?_
    · rw [← inbox] at different
      rw [Hosted.posted_perform_of_ne safe different, others place different, host,
        (serving?_eq_some_iff.1 there).2]
      exact ⟨rfl, rfl⟩
    · cases here
      have waiting := left.waiting
      rw [(Hosted.follows_perform safe request).inbox, inbox] at waiting
      exact waiting

/-- An engine is closed alike. -/
theorem close (same : full.Matches reduced) (wired : full.Wired) (number : Nat) :
    Reply.SameUpTo Matches (full.step (.close number)) (reduced.step (.close number)) := by
  rw [System.step, System.step]
  cases serving : full.serving? number with
  | none =>
      rw [same.not_serving serving]
      exact ⟨rfl, rfl, same⟩
  | some state =>
      obtain ⟨running, host⟩ := serving?_eq_some_iff.1 serving
      have inbox := wired.inbox number _ running
      obtain ⟨chores, there, owes, -⟩ := same.serving wired serving
      obtain ⟨memory, lists⟩ := Hosted.close_withChores owes
      rw [there]
      refine ⟨rfl, rfl, ?_⟩
      show Matches ⟨state.close.2, full.caches.set number (.closed state.close.1), full.holds⟩
        ⟨(state.withChores chores).close.2,
          reduced.caches.set number (.closed (state.withChores chores).close.1), reduced.holds⟩
      have owned : (state.withChores chores).close.2.keys.owned = state.close.2.keys.owned := rfl
      have clock : (state.withChores chores).close.2.clock = state.close.2.clock := rfl
      rw [same.holds, memory]
      refine same.set (.closed lists) owned clock _ (fun place different => ?_)
        fun engine here => by cases here
      have left := (serving?_eq_some_iff.1 there).2
      rw [← inbox] at different
      rw [← host, ← left]
      exact ⟨Keys.posted_closeInbox_of_ne different, Keys.posted_closeInbox_of_ne different⟩

/-- An engine is built alike. -/
theorem build (same : full.Matches reduced) (first : full.Wired) (second : reduced.Wired)
    (config : Config) :
    Reply.SameUpTo Matches (full.step (.build config)) (reduced.step (.build config)) := by
  rw [System.step, System.step, Hosted.create, Hosted.create]
  cases config.validate with
  | error refusal => exact ⟨rfl, rfl, same⟩
  | ok valid =>
      have next : reduced.host.keys.inboxes.next = full.host.keys.inboxes.next := by
        rw [first.next, second.next, same.length]
      have built : (Hosted.build config reduced.host : Hosted Row).engine =
          (Hosted.build config full.host).engine :=
        congrArg (fun inbox => Engine.mk config (Store.mk .empty .empty inbox)
          (.ofCapacity config.recencyCapacity) (.ofInterval config.statisticsIntervalSecs)) next
      have alike : Cache.Matches (.running (Hosted.build config full.host : Hosted Row).engine)
          (.running (Hosted.build config reduced.host).engine) := by
        rw [built]
        exact .running Memory.registered_empty.lists (.refl _)
      refine ⟨congrArg (fun length => Except.ok (Response.number length)) same.length, rfl, ?_⟩
      refine same.append alike same.owned same.clock (fun place different => ?_) ?_
      · have one := Keys.posted_openInbox full.host.keys place
        have two := Keys.posted_openInbox reduced.host.keys place
        rw [next] at two
        rw [first.next, if_neg different] at one two
        exact ⟨one, two⟩
      · have one := Keys.posted_openInbox full.host.keys full.caches.length
        have two := Keys.posted_openInbox reduced.host.keys full.caches.length
        rw [next] at two
        rw [first.next, if_pos rfl] at one two
        exact two.trans one.symm

/-- An owner's share of a key is given up alike. -/
theorem dropKey (same : full.Matches reduced) (first : full.Wired) (second : reduced.Wired)
    (opened : ∀ (number : Nat) (engine : Engine Row),
      full.caches[number]? = some (.running engine) →
      full.host.keys.isOpen number = true ∧ reduced.host.keys.isOpen number = true)
    (keyId : Nat) :
    Reply.SameUpTo Matches (full.step (.dropKey keyId)) (reduced.step (.dropKey keyId)) := by
  rw [System.step, System.step, same.isOwned_eq]
  split
  next there =>
    refine ⟨rfl, rfl, same.withKeys (Keys.owned_release same.owned keyId)
      fun number engine running => ?_⟩
    obtain ⟨isOpen, still⟩ := opened number engine running
    exact Keys.filter_posted_release same.owned first.distinct second.distinct isOpen still
      (same.waiting number engine running) there
  next => exact ⟨rfl, rfl, same⟩

end Matches

variable {first second : List (Act Row)} {act : Act Row}

/-- An act is answered alike after two runs that lead to systems that match. -/
theorem Matches.step (same : (after first).Matches (after second))
    (answered : ((after first).step act).result ≠ .error .overflow) :
    Reply.SameUpTo Matches ((after first).step act) ((after second).step act) := by
  have wired := wired_after first
  have other := wired_after second
  cases act with
  | createKey label =>
      have owned : ((after second).host.keys.create label).2.owned =
          ((after first).host.keys.create label).2.owned :=
        congrArg (fun owned => owned.add (Identity.mk label 1 [])) same.owned
      have number : ((after second).host.keys.create label).1 =
          ((after first).host.keys.create label).1 :=
        congrArg Numbered.next same.owned
      refine ⟨congrArg (fun number => Except.ok (Response.number number)) number, rfl, ?_⟩
      exact same.withKeys owned same.waiting
  | shareKey keyId =>
      have owned : ((after second).host.keys.share keyId).owned =
          ((after first).host.keys.share keyId).owned :=
        congrArg (Numbered.adjust · keyId _) same.owned
      rw [System.step, System.step, same.isOwned_eq]
      split
      next => exact ⟨rfl, rfl, same.withKeys owned same.waiting⟩
      next => exact ⟨rfl, rfl, same⟩
  | dropKey keyId =>
      refine same.dropKey wired other (fun number engine running => ?_) keyId
      obtain ⟨found, there, alike⟩ := same.caches number _ running
      cases alike with
      | running lists agrees =>
          have one := (informed_after running).isOpen
          have two := (informed_after there).isOpen
          rw [wired.inbox number _ running] at one
          rw [other.inbox number _ there] at two
          exact ⟨one, two⟩
  | shareHold hold =>
      rw [System.step, System.step, same.holds]
      split
      next =>
        exact ⟨rfl, rfl, same.onMemory (fun _ _ => rfl) (Memory.shrinks_share · hold.table) _ _⟩
      next => exact ⟨rfl, rfl, same⟩
  | dropHold hold =>
      rw [System.step, System.step, same.holds]
      split
      next =>
        exact ⟨rfl, rfl, same.onMemory (fun _ _ => rfl) (Memory.shrinks_release · hold.table) _ _⟩
      next => exact ⟨rfl, rfl, same⟩
  | build config => exact same.build wired other config
  | ask number request =>
      refine same.ask wired (sound_after first) (fun engine running => ?_) answered
      exact ⟨registered_after running, (le_of_mem_snapshots running).1⟩
  | reclaim number pressure =>
      exact same.manage (fun alike => alike.reclaim pressure)
        (fun cache engine running => Cache.has_of_reclaim running) number
  | reclaimable number =>
      refine same.manage (fun alike => ?_)
        (fun cache engine running => Cache.has_of_withMemory running) number
      exact ⟨congrArg (fun count => Except.ok (Response.number count)) alike.reclaimable_eq, rfl,
        alike.live.2⟩
  | tracked number =>
      refine same.manage (fun alike => ?_)
        (fun cache engine running => Cache.has_of_withMemory running) number
      exact ⟨congrArg (fun cells : List Nat => Except.ok (Response.number cells.length))
        alike.live.1, rfl, alike.live.2⟩
  | close number => exact same.close wired number

end System

end TableCache
