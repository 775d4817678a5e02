import TableCache.Proofs.Engine.Course
import TableCache.Proofs.Recency.Members
import TableCache.Proofs.Store.Uses

/-!
# The index and the clock tell of uses alike

An engine marks a use twice: in its index, which counts for itself, and in the cell of the table,
which takes a tick of the clock that all engines share. `Engine.Dated` says that the two agree: the
keys of the index stand in the order of the ticks of their cells. A use moves its key to the end of
the index and gives it a tick that is later than all others, and every other move of an engine only
takes keys away.

Main statements:

1. `Engine.Dated.of_removal`, `Engine.Dated.of_use`: what the moves of an engine keep;
2. `advances_perform`: every request keeps index and ticks in agreement, and only gives out ticks
   that the clock has not given out before.
-/

namespace TableCache

universe u

variable {Row : Type u}

/-- The ticks of the keys of an engine were given out before `clock` and not twice, and the keys of
its index stand in the order of their ticks. -/
structure Engine.Dated (engine : Engine Row) (clock : Nat) : Prop where
  ordered : engine.recency.Ordered
  early : ∀ keyId tick, engine.store.usedAt keyId = some tick → tick < clock
  apart : ∀ first second tick, engine.store.usedAt first = some tick →
    engine.store.usedAt second = some tick → first = second
  ranked : engine.recency.members.Pairwise fun first second => ∀ one other,
    engine.store.usedAt first = some one → engine.store.usedAt second = some other → one < other

namespace Engine.Dated

variable {engine later : Engine Row} {clock stop : Nat}

/-- An engine that only lost keys, while the clock went on. -/
theorem of_removal (dated : engine.Dated clock) (ordered : later.recency.Ordered)
    (members : later.recency.members.Sublist engine.recency.members)
    (uses : ∀ keyId tick, later.store.usedAt keyId = some tick →
      engine.store.usedAt keyId = some tick)
    (goes : clock ≤ stop) : later.Dated stop where
  ordered := ordered
  early := fun keyId tick used => Nat.lt_of_lt_of_le (dated.early keyId tick (uses _ _ used)) goes
  apart := fun first second tick one other =>
    dated.apart first second tick (uses _ _ one) (uses _ _ other)
  ranked := (dated.ranked.sublist members).imp fun before one other first second =>
    before one other (uses _ _ first) (uses _ _ second)

/-- An engine that used a key at a tick that the clock has not given out before. -/
theorem of_use (dated : engine.Dated clock) {keyId tick : Nat}
    (recency : later.recency = (engine.recency.touch keyId).2)
    (uses : ∀ other, later.store.usedAt other =
      if other = keyId then some tick else engine.store.usedAt other)
    (new : clock ≤ tick) (goes : tick < stop) : later.Dated stop where
  ordered := recency ▸ dated.ordered.touch keyId
  early := by
    intro other last used
    rw [uses] at used
    split at used
    next =>
      cases used
      exact goes
    next => exact ((dated.early other last used).trans_le new).trans goes
  apart := by
    intro first second last one other
    rw [uses] at one other
    split at one
    next same =>
      cases one
      split at other
      next alike => exact same.trans alike.symm
      next => exact absurd (dated.early _ _ other) (Nat.not_lt.2 new)
    next =>
      split at other
      next =>
        cases other
        exact absurd (dated.early _ _ one) (Nat.not_lt.2 new)
      next => exact dated.apart _ _ _ one other
  ranked := by
    obtain ⟨rest, shorter, unused, members⟩ := dated.ordered.members_touch_eq keyId
    rw [recency, members, List.pairwise_append]
    have different : ∀ other ∈ rest, other ≠ keyId := fun other member same =>
      unused (same ▸ member)
    refine ⟨?_, List.pairwise_singleton _ _, fun first member second last one other used use => ?_⟩
    · refine (dated.ranked.sublist shorter).imp_of_mem ?_
      intro first second here there before one other used use
      rw [uses, if_neg (different _ here)] at used
      rw [uses, if_neg (different _ there)] at use
      exact before one other used use
    · rw [uses, if_neg (different _ member)] at used
      rw [List.mem_singleton.1 last, uses, if_pos rfl] at use
      cases use
      exact (dated.early first one used).trans_le new

end Engine.Dated

namespace Hosted

/-- What holds of a state of an engine and any later one: the clock went on, new ticks are later
than all that were given out before, and index and ticks still agree if they did. -/
structure Advances (before after : Hosted Row) : Prop where
  clock : before.host.clock ≤ after.host.clock
  uses : ∀ keyId tick, after.engine.store.usedAt keyId = some tick →
    before.engine.store.usedAt keyId = some tick ∨ before.host.clock ≤ tick
  dated : before.engine.Dated before.host.clock → after.engine.Dated after.host.clock

theorem Advances.refl (state : Hosted Row) : state.Advances state :=
  ⟨Nat.le_refl _, fun _ _ used => .inl used, id⟩

theorem Advances.trans {first second third : Hosted Row} (one : first.Advances second)
    (other : second.Advances third) : first.Advances third where
  clock := one.clock.trans other.clock
  uses := fun keyId tick used => (other.uses keyId tick used).elim (one.uses keyId tick) fun new =>
    .inr (one.clock.trans new)
  dated := fun before => other.dated (one.dated before)

variable {state before after : Hosted Row} {held : Multiset Nat} {keyId : Nat}

theorem Advances.of_removal (clock : after.host.clock = before.host.clock)
    (ordered : before.engine.recency.Ordered → after.engine.recency.Ordered)
    (members : before.engine.recency.Ordered →
      after.engine.recency.members.Sublist before.engine.recency.members)
    (uses : ∀ keyId tick, after.engine.store.usedAt keyId = some tick →
      before.engine.store.usedAt keyId = some tick) : before.Advances after where
  clock := Nat.le_of_eq clock.symm
  uses := fun keyId tick used => .inl (uses keyId tick used)
  dated := fun dated => dated.of_removal (ordered dated.ordered) (members dated.ordered) uses
    (Nat.le_of_eq clock.symm)

/-- A move that is seen neither in the index nor in the ticks. -/
theorem Advances.of_same (clock : after.host.clock = before.host.clock)
    (recency : after.engine.recency = before.engine.recency)
    (uses : ∀ keyId, after.engine.store.usedAt keyId = before.engine.store.usedAt keyId) :
    before.Advances after := by
  refine .of_removal clock (fun ordered => recency ▸ ordered) (fun _ => ?_)
    fun keyId tick used => ?_
  · rw [recency]
  · rwa [uses] at used

theorem Advances.of_use (keyId tick : Nat)
    (recency : after.engine.recency = (before.engine.recency.touch keyId).2)
    (uses : ∀ other, after.engine.store.usedAt other =
      if other = keyId then some tick else before.engine.store.usedAt other)
    (new : before.host.clock ≤ tick) (goes : tick < after.host.clock) :
    before.Advances after where
  clock := (new.trans_lt goes).le
  uses := by
    intro other last used
    rw [uses] at used
    split at used
    next =>
      cases used
      exact .inr new
    next => exact .inl used
  dated := fun dated => dated.of_use recency uses new goes

/-! ## Removals -/

theorem ordered_removeAll {recency : Recency} (ordered : recency.Ordered) (keyIds : List Nat) :
    (removeAll recency keyIds).Ordered := by
  induction keyIds generalizing recency with
  | nil => exact ordered
  | cons first rest ih => exact ih (ordered.remove first)

theorem members_removeAll {recency : Recency} (ordered : recency.Ordered) (keyIds : List Nat) :
    (removeAll recency keyIds).members =
      recency.members.filter fun keyId => keyId ∉ keyIds := by
  induction keyIds generalizing recency with
  | nil => exact (List.filter_eq_self.2 fun _ _ => decide_eq_true List.not_mem_nil).symm
  | cons first rest ih =>
      rw [removeAll_cons, ih (ordered.remove first), Recency.members_remove ordered.toPaired,
        List.filter_filter]
      exact List.filter_congr fun keyId _ => by simp [Bool.and_comm]

theorem members_removeAll_sublist {recency : Recency} (ordered : recency.Ordered)
    (keyIds : List Nat) : (removeAll recency keyIds).members.Sublist recency.members := by
  rw [members_removeAll ordered]
  exact List.filter_sublist

theorem usedAt_purged (sound : state.engine.Sound held) (keyId : Nat) :
    state.purged.engine.store.usedAt keyId =
      if keyId ∈ state.orphans then none else state.engine.store.usedAt keyId :=
  sound.store.usedAt_removeOrphans _ _ keyId

theorem advances_purged (sound : state.engine.Sound held) : state.Advances state.purged := by
  refine .of_removal rfl (ordered_removeAll · _) (members_removeAll_sublist · _) ?_
  intro keyId tick used
  rw [usedAt_purged sound] at used
  split at used
  next => cases used
  next => exact used

theorem usedAt_forget (sound : state.engine.Sound held) (keyId other : Nat) :
    (state.forget keyId).2.engine.store.usedAt other =
      if other = keyId then none else state.engine.store.usedAt other :=
  sound.store.usedAt_invalidate keyId other

theorem advances_forget (sound : state.engine.Sound held) (keyId : Nat) :
    state.Advances (state.forget keyId).2 := by
  refine .of_removal rfl (fun ordered => ordered.remove keyId) (fun ordered => ?_) ?_
  · show (state.engine.recency.remove keyId).2.members.Sublist _
    rw [Recency.members_remove ordered.toPaired]
    exact List.filter_sublist
  · intro other tick used
    rw [usedAt_forget sound] at used
    split at used
    next => cases used
    next => exact used

/-! ## Uses -/

theorem usedAt_yielded {store : Store Row} (sound : store.Sound held) (evicted : Option Nat)
    (keyId : Nat) : (yielded store evicted).usedAt keyId = store.usedAt keyId := by
  cases evicted with
  | none => rfl
  | some evicted => exact sound.usedAt_dropRecent evicted keyId

theorem usedAt_touch (sound : state.engine.store.Sound held) (keyId other : Nat) :
    (state.touch keyId).engine.store.usedAt other = state.engine.store.usedAt other := by
  rw [touch_eq]
  exact usedAt_yielded sound _ other

theorem advances_placed (sound : state.engine.Sound held) (keyId : Nat) (rows : List Row) :
    state.Advances (state.placed keyId rows) := by
  have stocked : (state.stocked keyId rows).engine.store.Sound (state.fresh ::ₘ held) :=
    sound.store.put state.host keyId rows
  refine .of_use keyId (state.host.clock + 1) ?_ (fun other => ?_) ?_ ?_
  · rw [placed, touch_eq]
    rfl
  · rw [placed, usedAt_touch stocked]
    exact sound.store.usedAt_put state.host keyId other rows
  · exact Nat.le_succ _
  · rw [placed, touch_eq]
    exact Nat.lt_succ_self _

theorem advances_promote (sound : state.engine.Sound held)
    (present : state.engine.store.has keyId = true) : state.Advances (state.promote keyId) := by
  have touched : (state.touch keyId).engine.store.Sound held := by
    rw [touch_eq]
    exact sound_yielded sound.store _
  have still : (state.touch keyId).engine.store.has keyId = true := by
    rw [has_touch, present]
  have attached := touched.usedAt_attachRecent (state.touch keyId).host keyId
  have ticked := Store.clock_attachRecent (state.touch keyId).engine.store (state.touch keyId).host
    keyId
  simp only [still, and_true, if_true] at attached ticked
  have clock : (state.touch keyId).host.clock = state.host.clock := by rw [touch_eq]
  rw [clock] at attached ticked
  refine .of_use keyId state.host.clock ?_ (fun other => ?_) ?_ ?_
  · show (state.touch keyId).engine.recency = _
    rw [touch_eq]
  · rw [← usedAt_touch sound.store keyId other]
    exact attached other
  · exact Nat.le_refl _
  · exact Nat.lt_of_lt_of_eq (Nat.lt_succ_self _) ticked.symm

/-! ## Requests -/

/-- A move of an engine keeps index and ticks in agreement. -/
theorem advances_of_move (move : Move before after) : before.Advances after := by
  cases move with
  | purged sound => exact advances_purged sound
  | placed keyId rows sound => exact advances_placed sound keyId rows
  | read keyId => exact .of_same rfl rfl (Store.usedAt_read _ keyId)
  | promoted sound present => exact advances_promote sound present
  | forgotten keyId sound => exact advances_forget sound keyId
  | unpinned keyId => exact .of_same rfl rfl (Store.usedAt_clearForReclaim _ keyId)
  | counted recorder => exact .of_same rfl rfl fun _ => rfl
  | released table => exact .of_same rfl rfl fun _ => rfl

theorem advances_of_course (course : Relation.ReflTransGen Move before after) :
    before.Advances after := by
  induction course with
  | refl => exact .refl before
  | tail _ move ih => exact ih.trans (advances_of_move move)

/-- A request keeps index and ticks in agreement. -/
theorem advances_perform (sound : state.engine.Sound held) (request : Request Row) :
    state.Advances (state.perform request).state :=
  advances_of_course (course_perform sound request)

end Hosted

end TableCache
