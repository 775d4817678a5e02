import TableCache.Proofs.Memory.Listing
import TableCache.Proofs.Store.Orphans
import TableCache.Proofs.Watchers

/-!
# A store with another registry and other inboxes

What a store does depends neither on the registry of its cells nor on what waits in the inboxes of
its host, but for the purge. A purge only looks at the notices of keys that have an entry
(`removeOrphans_filter`), so notices of other keys may wait or not.

Main statements:

1. `invalidate_withRegistry`, `read_withRegistry`, ...: what a store does with another registry;
2. `put_withRegistry`: so does a put, and the registries list the same cells after it;
3. `expunge_withRegistry`: so does a purge, if the same keys with entries wait in the inbox.
-/

namespace TableCache

universe u

variable {Row : Type u}

/-- A host whose inboxes hold something else. -/
def Host.withInboxes (host : Host) (inboxes : Numbered (List Nat)) : Host :=
  { host with keys := { host.keys with inboxes := inboxes } }

namespace Store

/-- A store with another registry of its cells. -/
def withRegistry (store : Store Row) (registry : Registry) : Store Row :=
  { store with memory := store.memory.withRegistry registry }

/-! ## Purges -/

/-- Notices of keys without an entry do not matter. -/
theorem removeOrphans_filter (keys : Keys) {keep : Nat → Bool} (posted : List Nat)
    (store : Store Row) (covers : ∀ keyId, store.has keyId = true → keep keyId = true) :
    removeOrphans keys (posted.filter keep) store = removeOrphans keys posted store := by
  induction posted generalizing store with
  | nil => rfl
  | cons first rest ih =>
      rw [List.filter_cons, removeOrphans]
      split
      next kept =>
        have fewer : ∀ keyId, (store.invalidate first).2.has keyId = true → keep keyId = true := by
          intro keyId there
          rw [has_invalidate] at there
          split at there
          next => cases there
          next => exact covers keyId there
        rw [removeOrphans, ih store covers, ih _ fewer]
      next dropped =>
        have absent : (store.entryOf? first).isSome = false :=
          Bool.eq_false_iff.2 fun there => dropped (covers first there)
        rw [absent, Bool.false_and, ih store covers]
        rfl

section

variable (store : Store Row) (registry : Registry)

/-! ## What needs no host -/

theorem entryOf?_withRegistry (keyId : Nat) :
    (store.withRegistry registry).entryOf? keyId = store.entryOf? keyId := rfl

@[simp]
theorem clearForReclaim_withRegistry (keyId : Nat) :
    (store.withRegistry registry).clearForReclaim keyId =
      ((store.clearForReclaim keyId).1, (store.clearForReclaim keyId).2.withRegistry registry) := by
  unfold clearForReclaim
  rw [entryOf?_withRegistry]
  cases (store.entryOf? keyId).bind Entry.strong <;> rfl

@[simp]
theorem invalidate_withRegistry (keyId : Nat) :
    (store.withRegistry registry).invalidate keyId =
      ((store.invalidate keyId).1, (store.invalidate keyId).2.withRegistry registry) := by
  unfold invalidate
  rw [entryOf?_withRegistry]
  cases store.entryOf? keyId with
  | none => rfl
  | some entry => simp only [withRegistry, Memory.discard_withRegistry]

@[simp]
theorem dropRecent_withRegistry (keyId : Nat) :
    (store.withRegistry registry).dropRecent keyId =
      ((store.dropRecent keyId).1, (store.dropRecent keyId).2.withRegistry registry) := by
  unfold dropRecent
  rw [entryOf?_withRegistry]
  cases (store.entryOf? keyId).bind Entry.recent with
  | none => rfl
  | some cell => simp only [withRegistry, Memory.closeRecent_withRegistry]

@[simp]
theorem read_withRegistry (keyId : Nat) :
    (store.withRegistry registry).read keyId =
      ((store.read keyId).1, (store.read keyId).2.withRegistry registry) := by
  unfold read
  rw [entryOf?_withRegistry]
  cases store.entryOf? keyId with
  | none => rfl
  | some entry => simp only [withRegistry, Memory.read_withRegistry]

theorem removeOrphans_withRegistry {keys other : Keys} (same : other.owned = keys.owned)
    (posted : List Nat) :
    removeOrphans other posted (store.withRegistry registry) =
      ((removeOrphans keys posted store).1,
        (removeOrphans keys posted store).2.withRegistry registry) := by
  have owned : other.isOwned = keys.isOwned := by
    unfold Keys.isOwned
    rw [same]
  induction posted generalizing store with
  | nil => rfl
  | cons first rest ih =>
      rw [removeOrphans, removeOrphans, owned, invalidate_withRegistry]
      show (if (store.entryOf? first).isSome && !keys.isOwned first then _ else _) = _
      split
      next => simp only [ih]
      next => exact ih store

/-! ## What needs the host -/

variable (host : Host) (inboxes : Numbered (List Nat))

theorem attachRecent_withRegistry (keyId : Nat) :
    (store.withRegistry registry).attachRecent (host.withInboxes inboxes) keyId =
      ((store.attachRecent host keyId).1.withRegistry registry,
        (store.attachRecent host keyId).2.withInboxes inboxes) := by
  unfold attachRecent
  rw [entryOf?_withRegistry]
  cases store.entryOf? keyId with
  | none => rfl
  | some entry => cases recent : entry.recent <;> simp only [recent] <;> rfl

/-- A put registers its cell in the other registry. -/
theorem put_withRegistry (keyId : Nat) (rows : List Row) :
    ∃ next, (store.withRegistry registry).put (host.withInboxes inboxes) keyId rows =
        ((store.put host keyId rows).1, (store.put host keyId rows).2.1.withRegistry next,
          (store.put host keyId rows).2.2.withInboxes inboxes) ∧
      (store.memory.Lists registry → store.memory.Registered →
        (store.put host keyId rows).2.1.memory.Lists next) := by
  let lodged := store.memory.lodge keyId rows host.clock (host.clock + 1)
  have relodged : (store.memory.withRegistry registry).lodge keyId rows host.clock
      (host.clock + 1) = lodged.withRegistry _ :=
    store.memory.lodge_withRegistry registry keyId rows host.clock (host.clock + 1)
  refine ⟨registry.register lodged.isPresent store.memory.cells.next, ?_,
    fun lists registered => ?_⟩
  · rw [put_eq, put_eq]
    refine Prod.ext rfl (Prod.ext ?_ rfl)
    refine congrArg (Store.mk · (store.entries.insert keyId store.memory.lodged) store.inbox) ?_
    rw [entryOf?_withRegistry]
    cases store.entryOf? keyId with
    | none => exact relodged
    | some replaced => exact (congrArg replaced.discard relodged).trans (by simp; rfl)
  · have listed := lists.lodge registered keyId rows host.clock (host.clock + 1)
    rw [put_eq]
    cases store.entryOf? keyId with
    | none => exact listed
    | some replaced => exact listed.shrinks (Memory.shrinks_discard replaced _)

/-- A purge is the same if the same keys with entries wait in the inbox. -/
theorem expunge_withRegistry
    (same : ((host.withInboxes inboxes).keys.posted store.inbox).filter store.has =
      (host.keys.posted store.inbox).filter store.has) :
    (store.withRegistry registry).expunge (host.withInboxes inboxes) =
      ((store.expunge host).1, (store.expunge host).2.1.withRegistry registry,
        (store.expunge host).2.2.withInboxes (inboxes.adjust store.inbox fun _ => [])) := by
  let keys := (host.keys.collect store.inbox).2
  have removed : removeOrphans keys ((host.withInboxes inboxes).keys.posted store.inbox) store =
      removeOrphans keys (host.keys.posted store.inbox) store := by
    rw [← removeOrphans_filter keys _ store fun _ there => there, same,
      removeOrphans_filter keys _ store fun _ there => there]
  have whole : removeOrphans ((host.withInboxes inboxes).keys.collect store.inbox).2
      ((host.withInboxes inboxes).keys.posted store.inbox) (store.withRegistry registry) =
        ((removeOrphans keys (host.keys.posted store.inbox) store).1,
          (removeOrphans keys (host.keys.posted store.inbox) store).2.withRegistry registry) := by
    have owned : ((host.withInboxes inboxes).keys.collect store.inbox).2.owned = keys.owned := rfl
    rw [← removed]
    exact removeOrphans_withRegistry store registry owned _
  have numbers := congrArg Prod.fst whole
  have left := congrArg Prod.snd whole
  exact Prod.ext numbers (Prod.ext left rfl)

end

end Store

end TableCache
