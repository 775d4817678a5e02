import TableCache.Proofs.Agreement
import TableCache.Proofs.Engine.Seen
import TableCache.Proofs.Eviction
import TableCache.Proofs.Store.Listing

/-!
# What an engine puts off

An engine puts some of its work off: cells that are gone stay registered, clearances wait to be
counted, and the entries of keys without owners wait to be removed. `Chores` is what is left to do
at some time. It may be done earlier or later: with other chores that come to the same
(`Hosted.Owes`) an engine answers as before, as long as no counter is full.

Main statements:

1. `touch_withChores`, `resolve_withChores`, ...: what an engine does without its chores;
2. `purgeOrphans_withChores`, `countPut_withChores`, `countAccess_withChores`: what it does with
   them;
3. `perform_withChores`, `close_withChores`: a request, and the end of an engine.
-/

namespace TableCache

universe u v

variable {Row : Type u}

/-- What is left to do: the registered cells, the clearances that wait, and the inboxes. -/
structure Chores where
  registry : Registry
  recorder : Recorder
  inboxes : Numbered (List Nat)

/-- What is left to do after an inbox was gone through. -/
def Chores.purged (chores : Chores) (inbox : Nat) : Chores :=
  { chores with inboxes := chores.inboxes.adjust inbox fun _ => [] }

namespace Hosted

/-- An engine with other chores. -/
def withChores (state : Hosted Row) (chores : Chores) : Hosted Row where
  engine := { state.engine with
    store := state.engine.store.withRegistry chores.registry
    recorder := chores.recorder }
  host := state.host.withInboxes chores.inboxes

/-- Chores that come to the same as those of an engine. -/
structure Owes (state : Hosted Row) (chores : Chores) : Prop where
  lists : state.engine.store.memory.Lists chores.registry
  agrees : state.engine.recorder.Agrees chores.recorder
  waiting : ((state.withChores chores).host.keys.posted state.engine.store.inbox).filter
      state.engine.store.has =
    (state.host.keys.posted state.engine.store.inbox).filter state.engine.store.has

variable {state : Hosted Row} {held : Multiset Nat}

/-! ## Moves -/

section

variable (state : Hosted Row) (chores : Chores) (keyId : Nat)

theorem yielded_withRegistry (store : Store Row) (registry : Registry) (evicted : Option Nat) :
    yielded (store.withRegistry registry) evicted =
      (yielded store evicted).withRegistry registry := by
  cases evicted with
  | none => rfl
  | some evicted => exact congrArg Prod.snd (store.dropRecent_withRegistry registry evicted)

theorem touch_withChores :
    (state.withChores chores).touch keyId = (state.touch keyId).withChores chores := by
  have yielding : yielded (state.withChores chores).engine.store
      ((state.withChores chores).engine.recency.touch keyId).1 = _ :=
    yielded_withRegistry state.engine.store chores.registry (state.engine.recency.touch keyId).1
  rw [touch_eq, touch_eq, yielding]
  rfl

theorem promote_withChores :
    (state.withChores chores).promote keyId = (state.promote keyId).withChores chores := by
  have attached : ((state.touch keyId).withChores chores).engine.store.attachRecent
      ((state.touch keyId).withChores chores).host keyId = _ :=
    (state.touch keyId).engine.store.attachRecent_withRegistry chores.registry
      (state.touch keyId).host chores.inboxes keyId
  unfold promote
  rw [touch_withChores]
  simp only [attached]
  rfl

theorem forget_withChores :
    (state.withChores chores).forget keyId =
      ((state.forget keyId).1, (state.forget keyId).2.withChores chores) := by
  have removed : (state.withChores chores).engine.store.invalidate keyId = _ :=
    state.engine.store.invalidate_withRegistry chores.registry keyId
  unfold forget
  simp only [removed]
  rfl

theorem resolve_withChores :
    (state.withChores chores).resolve keyId =
      ((state.resolve keyId).1, (state.resolve keyId).2.1.withChores chores,
        (state.resolve keyId).2.2) := by
  have read : (state.withChores chores).engine.store.read keyId = _ :=
    state.engine.store.read_withRegistry chores.registry keyId
  have entry : (state.withChores chores).engine.store.entryOf? keyId =
      state.engine.store.entryOf? keyId := rfl
  unfold resolve
  rw [entry]
  cases state.engine.store.entryOf? keyId with
  | none => rfl
  | some entry =>
      simp only [read, forget_withChores]
      rcases state.engine.store.read keyId with ⟨_ | table, store⟩
      · rfl
      · have promoted := (state.withStore store).promote_withChores chores keyId
        exact congrArg (fun later => (_, later, [])) promoted

end

variable {chores next : Chores}

/-- A purge removes the same entries, and then less is left to do. -/
theorem purgeOrphans_withChores (owes : state.Owes chores) :
    (state.withChores chores).purgeOrphans =
      state.purgeOrphans.within fun later =>
        later.withChores (chores.purged state.engine.store.inbox) := by
  have expunged : (state.withChores chores).engine.store.expunge (state.withChores chores).host =
      _ := state.engine.store.expunge_withRegistry chores.registry state.host chores.inboxes
        owes.waiting
  unfold purgeOrphans
  rw [expunged]
  rfl

/-- What is asked is asked after the purge. -/
theorem ask_withChores {α : Type v} {what : Hosted Row → Reply (Hosted Row) α}
    (owes : state.Owes chores)
    (answered : what (state.purged.withChores (chores.purged state.engine.store.inbox)) =
      (what state.purged).within fun later => later.withChores next) :
    (state.withChores chores).ask what =
      (state.ask what).within fun later => later.withChores next := by
  unfold ask
  rw [purgeOrphans_withChores owes]
  exact congrArg (Reply.after state.purgeOrphans.events) answered

/-- A put is counted by either recorder. -/
theorem countPut_withChores (agrees : state.engine.recorder.Agrees chores.recorder)
    (keyId size table : Nat) :
    (state.withChores chores).countPut keyId size table =
      (state.countPut keyId size table).within fun later =>
        later.withChores { chores with recorder := chores.recorder.recordPut.state } := by
  obtain ⟨result, events, -⟩ := agrees.recordPut
  have counted : (state.withChores chores).engine.recorder.recordPut =
      ⟨state.engine.recorder.recordPut.result, chores.recorder.recordPut.state,
        state.engine.recorder.recordPut.events⟩ :=
    congrArg₂ (Reply.mk · chores.recorder.recordPut.state ·) result events
  unfold countPut
  rw [counted]
  simp only
  cases state.engine.recorder.recordPut.result <;> rfl

/-- A look-up leaves either recorder with the same counters. -/
theorem countAccess_withChores (agrees : state.engine.recorder.Agrees chores.recorder)
    (words : state.engine.recorder.counters.Fits) {found : Found} {events : List Event} {now : Nat}
    (answered : (state.countAccess found events now).result ≠ .error .overflow) :
    (state.withChores chores).countAccess found events now =
      (state.countAccess found events now).within fun later =>
        later.withChores { chores with
          recorder := (state.engine.recorder.recordAccess found.access now).state } := by
  obtain ⟨table, access⟩ := found
  have counted : (state.withChores chores).engine.recorder.recordAccess access now =
      state.engine.recorder.recordAccess access now := by
    refine agrees.recordAccess words fun full => answered ?_
    unfold countAccess
    simp only [full]
  unfold countAccess
  rw [counted]
  simp only
  rcases (state.engine.recorder.recordAccess access now).result with fault | _ | counters
  · cases table <;> rfl
  · rfl
  · rfl

/-! ## Requests -/

/-- The answer of an engine with other chores: the same, with the chores `next` left to do. -/
structure Settles {α : Type v} (reply other : Reply (Hosted Row) α) (next : Chores) : Prop where
  same : other = reply.within fun later => later.withChores next
  lists : reply.state.engine.store.memory.Lists next.registry
  agrees : reply.state.engine.recorder.Agrees next.recorder

theorem Settles.map {α : Type v} {β : Type v} {reply other : Reply (Hosted Row) α}
    (settles : Settles reply other next) (change : α → β) :
    Settles (reply.map change) (other.map change) next :=
  ⟨by rw [settles.same, map_within], settles.lists, settles.agrees⟩

theorem shrinks_purged (state : Hosted Row) :
    state.engine.store.memory.Shrinks state.purged.engine.store.memory :=
  Store.shrinks_removeOrphans _ _ _

theorem Owes.lists_purged (owes : state.Owes chores) :
    state.purged.engine.store.memory.Lists chores.registry :=
  owes.lists.shrinks (shrinks_purged state)

/-- What only looks leaves nothing but the purge. -/
theorem settles_look {α : Type v} (owes : state.Owes chores) (view : Store Row → α)
    (same : ∀ store registry, view (store.withRegistry registry) = view store) :
    Settles (state.ask fun state => .ok state (view state.engine.store))
      ((state.withChores chores).ask fun state => .ok state (view state.engine.store))
      (chores.purged state.engine.store.inbox) where
  same := by
    refine ask_withChores owes ?_
    rw [Reply.within]
    exact congrArg (Reply.ok _) (same state.purged.engine.store chores.registry)
  lists := owes.lists_purged
  agrees := owes.agrees

theorem settles_put (owes : state.Owes chores) (registered : state.engine.store.memory.Registered)
    (keyId : Nat) (rows : List Row) :
    ∃ next, Settles (state.put keyId rows) ((state.withChores chores).put keyId rows) next ∧
      next.inboxes = (chores.purged state.engine.store.inbox).inboxes := by
  let purged := chores.purged state.engine.store.inbox
  have known := (shrinks_purged state).registered registered
  obtain ⟨registry, put, lists⟩ := state.purged.engine.store.put_withRegistry chores.registry
    state.purged.host purged.inboxes keyId rows
  have stocked : (state.purged.withChores purged).stocked keyId rows =
      (state.purged.stocked keyId rows).withChores { purged with registry := registry } := by
    have put : (state.purged.withChores purged).engine.store.put
      (state.purged.withChores purged).host keyId rows = _ := put
    unfold Hosted.stocked
    rw [put]
    rfl
  have listed : (state.purged.placed keyId rows).engine.store.memory.Lists registry :=
    (lists owes.lists_purged known).shrinks (shrinks_touch (state.purged.stocked keyId rows) keyId)
  let next : Chores := { purged with registry := registry }
  have agrees : (state.purged.placed keyId rows).engine.recorder.Agrees next.recorder := by
    rw [placed, touch_eq]
    exact owes.agrees
  have counted := countPut_withChores agrees keyId rows.length state.purged.fresh
  refine ⟨{ next with recorder := next.recorder.recordPut.state }, ⟨?_, ?_, ?_⟩, rfl⟩
  · rw [put_eq, put_eq]
    refine ask_withChores owes ?_
    rw [placed, stocked, touch_withChores]
    exact counted
  · rcases put_cases state keyId rows with ⟨fault, -, -, stopped⟩ | ⟨-, -, done⟩
    · rw [stopped]
      exact listed.shrinks (Memory.shrinks_release _ _)
    · rw [done]
      exact listed
  · rw [recorder_put]
    exact owes.agrees.recordPut.2.2

theorem shrinks_resolve (sound : state.engine.Sound held) (keyId : Nat) :
    state.engine.store.memory.Shrinks (state.resolve keyId).2.1.engine.store.memory := by
  rcases resolve_cases sound keyId with
    ⟨-, resolved⟩ | ⟨-, resolved⟩ | ⟨shown, -, -, resolved⟩
  · rw [resolved]
    exact .of_cells rfl rfl
  · rw [resolved]
    exact Store.shrinks_invalidate _ keyId
  · rw [resolved]
    have read := Store.shrinks_read state.engine.store keyId
    have touched := shrinks_touch
      (state.withStore (state.engine.store.read keyId).2) keyId
    exact (read.trans touched).trans (Store.shrinks_attachRecent _ _ keyId)

theorem settles_lookup (owes : state.Owes chores) (sound : state.engine.Sound held)
    (words : state.engine.recorder.counters.Fits) {keyId now : Nat}
    (answered : (state.lookup keyId now).result ≠ .error .overflow) :
    ∃ next, Settles (state.lookup keyId now) ((state.withChores chores).lookup keyId now) next ∧
      next.inboxes = (chores.purged state.engine.store.inbox).inboxes := by
  have same := recorder_resolve (sound_purged sound) keyId
  let purged := chores.purged state.engine.store.inbox
  have agrees : (state.purged.resolve keyId).2.1.engine.recorder.Agrees purged.recorder := by
    rw [same]
    exact owes.agrees
  have counting : ((state.purged.resolve keyId).2.1.countAccess (state.purged.resolve keyId).1
      (state.purged.resolve keyId).2.2 now).result ≠ .error .overflow := by
    rw [lookup_eq, ask_result] at answered
    exact answered
  have accessed := countAccess_withChores agrees (same ▸ words) counting
  refine ⟨⟨chores.registry, (state.counted keyId now).state, purged.inboxes⟩, ⟨?_, ?_, ?_⟩, rfl⟩
  · rw [lookup_eq, lookup_eq]
    refine ask_withChores owes ?_
    simp only [resolve_withChores]
    rw [accessed, same]
    rfl
  · have listed := owes.lists_purged.shrinks (shrinks_resolve (sound_purged sound) keyId)
    rcases lookup_cases sound keyId now with ⟨fault, -, -, stopped⟩ | ⟨-, -, done⟩
    · rw [stopped]
      cases (state.found keyId).table with
      | none => exact listed
      | some table => exact listed.shrinks (Memory.shrinks_release _ table)
    · rw [done]
      exact listed
  · rw [recorder_lookup sound]
    exact .refl _

theorem settles_peek (owes : state.Owes chores) (keyId : Nat) :
    Settles (state.peek keyId) ((state.withChores chores).peek keyId)
      (chores.purged state.engine.store.inbox) where
  same := by
    have read : (state.purged.withChores
        (chores.purged state.engine.store.inbox)).engine.store.read keyId = _ :=
      state.purged.engine.store.read_withRegistry chores.registry keyId
    refine ask_withChores owes ?_
    simp only [read]
    rfl
  lists := owes.lists_purged.shrinks (Store.shrinks_read _ keyId)
  agrees := owes.agrees

theorem settles_clear (owes : state.Owes chores) (keyId : Nat) :
    Settles (state.clearForReclaim keyId true)
      ((state.withChores chores).clearForReclaim keyId true)
      (chores.purged state.engine.store.inbox) where
  same := by
    have cleared : (state.purged.withChores
        (chores.purged state.engine.store.inbox)).engine.store.clearForReclaim keyId = _ :=
      state.purged.engine.store.clearForReclaim_withRegistry chores.registry keyId
    unfold clearForReclaim
    rw [if_pos rfl, if_pos rfl]
    refine ask_withChores owes ?_
    simp only [cleared]
    rfl
  lists := owes.lists_purged.shrinks (Store.shrinks_clearForReclaim _ keyId)
  agrees := owes.agrees

theorem settles_invalidate (owes : state.Owes chores) (keyId : Nat) :
    Settles (state.invalidate keyId) ((state.withChores chores).invalidate keyId)
      (chores.purged state.engine.store.inbox) where
  same := by
    refine ask_withChores owes ?_
    simp only [forget_withChores]
    rfl
  lists := owes.lists_purged.shrinks (Store.shrinks_invalidate _ keyId)
  agrees := owes.agrees

theorem settles_statistics (owes : state.Owes chores)
    (words : state.engine.recorder.counters.Fits)
    (answered : state.statistics.result ≠ .error .overflow) :
    ∃ next, Settles state.statistics (state.withChores chores).statistics next ∧
      next.inboxes = (chores.purged state.engine.store.inbox).inboxes := by
  let purged := chores.purged state.engine.store.inbox
  have taken := owes.agrees.snapshot words answered
  refine ⟨{ purged with recorder := state.engine.recorder.snapshot.state },
    ⟨?_, owes.lists_purged, .refl _⟩, rfl⟩
  refine ask_withChores owes ?_
  show chores.recorder.snapshot.within _ = _
  rw [taken]
  rfl

theorem settles_perform (owes : state.Owes chores) (sound : state.engine.Sound held)
    (registered : state.engine.store.memory.Registered)
    (words : state.engine.recorder.counters.Fits) {request : Request Row}
    (answered : (state.perform request).result ≠ .error .overflow) :
    ∃ next, Settles (state.perform request) ((state.withChores chores).perform request) next ∧
      next.inboxes =
        if request.locks then (chores.purged state.engine.store.inbox).inboxes
        else chores.inboxes := by
  cases request with
  | put keyId rows =>
      obtain ⟨next, settles, inboxes⟩ := settles_put owes registered keyId rows
      exact ⟨next, settles.map _, inboxes⟩
  | get keyId now | lookup keyId now =>
      have given : (state.lookup keyId now).result ≠ .error .overflow :=
        fun full => answered (by rw [perform, result_map, full]; rfl)
      obtain ⟨next, settles, inboxes⟩ := settles_lookup owes sound words given
      exact ⟨next, settles.map _, inboxes⟩
  | peek keyId => exact ⟨_, (settles_peek owes keyId).map _, rfl⟩
  | clear keyId isPersisted =>
      cases isPersisted with
      | true => exact ⟨_, (settles_clear owes keyId).map _, rfl⟩
      | false => exact ⟨chores, ⟨rfl, owes.lists, owes.agrees⟩, rfl⟩
  | contains keyId =>
      exact ⟨_, (settles_look owes (Store.contains · keyId) fun _ _ => rfl).map _, rfl⟩
  | tier keyId =>
      exact ⟨_, (settles_look owes (Store.tier · keyId) fun _ _ => rfl).map _, rfl⟩
  | invalidate keyId => exact ⟨_, (settles_invalidate owes keyId).map _, rfl⟩
  | purge =>
      exact ⟨_, Settles.map ⟨purgeOrphans_withChores owes, owes.lists_purged, owes.agrees⟩ _, rfl⟩
  | statistics =>
      have given : state.statistics.result ≠ .error .overflow :=
        fun full => answered (by rw [perform, result_map, full]; rfl)
      obtain ⟨next, settles, inboxes⟩ := settles_statistics owes words given
      exact ⟨next, settles.map _, inboxes⟩
  | occupancy => exact ⟨_, (settles_look owes Store.occupancy fun _ _ => rfl).map _, rfl⟩
  | size => exact ⟨_, (settles_look owes Store.size fun _ _ => rfl).map _, rfl⟩

theorem posted_perform_of_ne (sound : state.engine.Sound held) {inbox : Nat}
    (different : inbox ≠ state.engine.store.inbox) (request : Request Row) :
    (state.perform request).state.host.keys.posted inbox = state.host.keys.posted inbox := by
  have entered : (state.entered request).host.keys.posted inbox =
      state.host.keys.posted inbox := by
    unfold Hosted.entered
    split
    next => rfl
    next => rw [keys_purged, Keys.posted_collect, if_neg different]
  rw [keys_perform sound]
  cases request <;> exact entered

/-- A request is answered as before, and afterwards the same is left to do. -/
theorem perform_withChores (owes : state.Owes chores) (sound : state.engine.Sound held)
    (registered : state.engine.store.memory.Registered)
    (words : state.engine.recorder.counters.Fits) {request : Request Row}
    (answered : (state.perform request).result ≠ .error .overflow) :
    ∃ next, (state.withChores chores).perform request =
        ((state.perform request).within fun later => later.withChores next) ∧
      (state.perform request).state.Owes next ∧
      ∀ inbox, inbox ≠ state.engine.store.inbox →
        ((state.perform request).state.withChores next).host.keys.posted inbox =
          (state.withChores chores).host.keys.posted inbox := by
  obtain ⟨next, settles, inboxes⟩ := settles_perform owes sound registered words answered
  have posted : ∀ inbox, ((state.perform request).state.withChores next).host.keys.posted inbox =
      if request.locks = true ∧ inbox = state.engine.store.inbox then []
      else (state.withChores chores).host.keys.posted inbox := by
    intro inbox
    show (next.inboxes.find? inbox).getD [] = _
    rw [inboxes]
    cases request.locks with
    | false => exact (if_neg (by simp)).symm
    | true =>
        have collected := Keys.posted_collect (state.withChores chores).host.keys
          state.engine.store.inbox inbox
        simp only [if_true, true_and]
        exact collected
  refine ⟨next, settles.same, ⟨settles.lists, settles.agrees, ?_⟩, fun inbox different => ?_⟩
  · cases locks : request.locks with
    | false =>
        have own := posted state.engine.store.inbox
        rw [if_neg (by simp [locks])] at own
        rw [perform_of_not_locks locks] at own ⊢
        rw [own]
        exact owes.waiting
    | true =>
        rw [posted_perform sound locks, posted,
          if_pos ⟨locks, (follows_perform sound request).inbox⟩]
  · rw [posted, if_neg fun both => different both.2]

/-! ## The end -/

/-- An engine that is closed leaves the same memory. -/
theorem close_withChores (owes : state.Owes chores) :
    (state.withChores chores).close.1 = state.close.1.withRegistry chores.registry ∧
      state.close.1.Lists chores.registry := by
  have discarded : ∀ (entries : List Entry) (memory : Memory Row),
      entries.foldl (fun memory entry => entry.discard memory)
          (memory.withRegistry chores.registry) =
        (entries.foldl (fun memory entry => entry.discard memory) memory).withRegistry
          chores.registry ∧
      (memory.Lists chores.registry →
        (entries.foldl (fun memory entry => entry.discard memory) memory).Lists
          chores.registry) := by
    intro entries
    induction entries with
    | nil => exact fun _ => ⟨rfl, id⟩
    | cons first rest ih =>
        intro memory
        obtain ⟨same, lists⟩ := ih (first.discard memory)
        rw [List.foldl_cons, List.foldl_cons, Memory.discard_withRegistry]
        exact ⟨same, fun listed => lists (listed.shrinks (Memory.shrinks_discard first memory))⟩
  obtain ⟨same, lists⟩ := discarded state.engine.store.entries.values state.engine.store.memory
  exact ⟨same, lists owes.lists⟩

end Hosted

end TableCache
