import TableCache.Key.Ownership
import TableCache.Proofs.Numbered

/-!
# Who watches a key, and what was posted

The inboxes that watch a key hear of its end once, if they are open then. What is in an inbox is
there until it is collected, whatever happens to other inboxes and other keys.

Main statements:

1. `watches_create`, `watches_share`, `watches_watch`, `watches_release`: who watches a key;
2. `posted_release`: what the end of a key adds to an inbox;
3. `posted_collect`, `posted_openInbox`, `posted_closeInbox`: what else changes an inbox.
-/

namespace TableCache.Keys

variable {keys : Keys} {keyId inbox other : Nat}

/-- What was posted to an inbox and is not collected yet, oldest first. -/
def posted (keys : Keys) (inbox : Nat) : List Nat := (keys.inboxes.find? inbox).getD []

/-- Whether an inbox is open. -/
def isOpen (keys : Keys) (inbox : Nat) : Bool := keys.inboxes.contains inbox

/-- Whether a key has an owner and an inbox watches it. -/
def watches (keys : Keys) (keyId inbox : Nat) : Bool :=
  (keys.owned.find? keyId).any fun identity => inbox ∈ identity.watchers

/-- No inbox watches a key twice. -/
def Distinct (keys : Keys) : Prop :=
  ∀ keyId identity, keys.owned.find? keyId = some identity → identity.watchers.Nodup

/-! ## Owners -/

theorem isOwned_create (keys : Keys) (label : String) (keyId : Nat) :
    (keys.create label).2.isOwned keyId =
      if keyId = keys.owned.next then true else keys.isOwned keyId := by
  simp only [isOwned, create, Numbered.contains, Numbered.find?_add]
  split <;> rfl

theorem isOwned_watch (keys : Keys) (keyId inbox other : Nat) :
    (keys.watch keyId inbox).isOwned other = keys.isOwned other := by
  simp only [isOwned, watch, Numbered.contains, Numbered.find?_adjust]
  split
  next => rw [Option.isSome_map]
  next => rfl

/-- Only the key that is given up can be without an owner after that. -/
theorem isOwned_release_of_ne (different : other ≠ keyId) :
    (keys.release keyId).isOwned other = keys.isOwned other := by
  unfold release
  split
  next => rfl
  next identity _ =>
    split <;>
      simp [isOwned, Numbered.contains, Numbered.find?_erase, Numbered.find?_adjust, different]

/-- The last owner of a key takes the key along. -/
theorem release_of_last {identity : Identity} (found : keys.owned.find? keyId = some identity)
    (last : (keys.release keyId).isOwned keyId = false) :
    keys.release keyId =
      { keys with
        owned := keys.owned.erase keyId
        inboxes := identity.watchers.foldl (fun inboxes inbox => post inboxes keyId inbox)
          keys.inboxes } := by
  unfold release at last ⊢
  rw [found] at last ⊢
  simp only at last ⊢
  split at last
  next few => rw [if_pos few]
  next => simp [isOwned, Numbered.contains, Numbered.find?_adjust, found] at last

/-- Another owner of a key keeps everything but the number of owners. -/
theorem release_of_shared (still : (keys.release keyId).isOwned keyId = true) :
    keys.release keyId =
      { keys with
        owned := keys.owned.adjust keyId fun identity =>
          { identity with owners := identity.owners - 1 } } := by
  unfold release at still ⊢
  split at still
  next absent => simp [isOwned, Numbered.contains, absent] at still
  next identity _ =>
    split at still
    next => simp [isOwned, Numbered.contains] at still
    next many => rw [if_neg many]

/-! ## Watchers -/

/-- What leaves the watchers of keys as they are. -/
theorem watches_adjust (keys : Keys) (keyId other inbox : Nat) {change : Identity → Identity}
    (same : ∀ identity, (change identity).watchers = identity.watchers) :
    ({ keys with owned := keys.owned.adjust keyId change } : Keys).watches other inbox =
      keys.watches other inbox := by
  simp only [watches, Numbered.find?_adjust]
  split
  next => rw [Option.any_map]; simp only [same]
  next => rfl

theorem watches_share (keys : Keys) (keyId other inbox : Nat) :
    (keys.share keyId).watches other inbox = keys.watches other inbox :=
  watches_adjust keys keyId other inbox fun _ => rfl

theorem watches_create (keys : Keys) (label : String) (keyId inbox : Nat) :
    (keys.create label).2.watches keyId inbox = keys.watches keyId inbox := by
  simp only [watches, create, Numbered.find?_add]
  split
  next same =>
    subst same
    rw [Numbered.find?_eq_none_of_next_le (Nat.le_refl _)]
    simp
  next => rfl

theorem watches_watch (keys : Keys) (keyId inbox other watcher : Nat) :
    (keys.watch keyId inbox).watches other watcher =
      (keys.watches other watcher ||
        (decide (other = keyId ∧ watcher = inbox) && keys.isOwned keyId)) := by
  simp only [watches, watch, isOwned, Numbered.contains, Numbered.find?_adjust]
  by_cases same : other = keyId
  · subst same
    cases keys.owned.find? other with
    | none => simp
    | some identity =>
        by_cases already : inbox ∈ identity.watchers <;> by_cases self : watcher = inbox <;>
          simp_all
  · simp [same]

theorem watches_release_of_ne (different : other ≠ keyId) :
    (keys.release keyId).watches other inbox = keys.watches other inbox := by
  unfold release
  split
  next => rfl
  next identity _ =>
    split <;> simp [watches, Numbered.find?_erase, Numbered.find?_adjust, different]

/-! ## Inboxes -/

@[simp]
theorem posted_watch (keys : Keys) (keyId inbox other : Nat) :
    (keys.watch keyId inbox).posted other = keys.posted other := rfl

theorem posted_collect (keys : Keys) (inbox other : Nat) :
    (keys.collect inbox).2.posted other = if other = inbox then [] else keys.posted other := by
  simp only [posted, collect, Numbered.find?_adjust]
  split
  next => cases keys.inboxes.find? other <;> rfl
  next => rfl

theorem isOpen_collect (keys : Keys) (inbox other : Nat) :
    (keys.collect inbox).2.isOpen other = keys.isOpen other := by
  simp only [isOpen, collect, Numbered.contains, Numbered.find?_adjust]
  split
  next => rw [Option.isSome_map]
  next => rfl

theorem lt_next_of_isOpen (isOpen : keys.isOpen inbox = true) : inbox < keys.inboxes.next := by
  obtain ⟨posted, found⟩ := Option.isSome_iff_exists.1 isOpen
  exact Numbered.lt_next_of_find? found

theorem find?_openInbox (keys : Keys) (inbox : Nat) :
    keys.openInbox.2.inboxes.find? inbox =
      if inbox = keys.inboxes.next then some [] else keys.inboxes.find? inbox :=
  Numbered.find?_add _ _ _

theorem find?_closeInbox_of_ne (different : other ≠ inbox) :
    (keys.closeInbox inbox).inboxes.find? other = keys.inboxes.find? other := by
  rw [closeInbox, Numbered.find?_erase, if_neg different]

theorem posted_openInbox (keys : Keys) (inbox : Nat) :
    keys.openInbox.2.posted inbox =
      if inbox = keys.inboxes.next then [] else keys.posted inbox := by
  rw [posted, find?_openInbox]
  split <;> rfl

theorem posted_closeInbox_of_ne (different : other ≠ inbox) :
    (keys.closeInbox inbox).posted other = keys.posted other :=
  congrArg (Option.getD · []) (find?_closeInbox_of_ne different)

/-- What is posted to some inboxes, each of them once. -/
theorem find?_foldl_post {watchers : List Nat} (distinct : watchers.Nodup) (keyId inbox : Nat)
    (inboxes : Numbered (List Nat)) :
    (watchers.foldl (fun inboxes inbox => post inboxes keyId inbox) inboxes).find? inbox =
      if inbox ∈ watchers then (inboxes.find? inbox).map (· ++ [keyId])
      else inboxes.find? inbox := by
  induction watchers generalizing inboxes with
  | nil => simp
  | cons first rest ih =>
      rw [List.nodup_cons] at distinct
      rw [List.foldl_cons, ih distinct.2, post, Numbered.find?_adjust]
      by_cases same : inbox = first
      · subst same
        simp [distinct.1]
      · simp [same]

theorem next_foldl_post (watchers : List Nat) (keyId : Nat) (inboxes : Numbered (List Nat)) :
    (watchers.foldl (fun inboxes inbox => post inboxes keyId inbox) inboxes).next =
      inboxes.next := by
  induction watchers generalizing inboxes with
  | nil => rfl
  | cons first rest ih => rw [List.foldl_cons, ih, post, Numbered.next_adjust]

/-- The end of a key is posted to every open inbox that watches it, once. -/
theorem posted_release_of_last (distinct : keys.Distinct) (owned : keys.isOwned keyId = true)
    (last : (keys.release keyId).isOwned keyId = false) (isOpen : keys.isOpen inbox = true) :
    (keys.release keyId).posted inbox =
      if keys.watches keyId inbox then keys.posted inbox ++ [keyId] else keys.posted inbox := by
  obtain ⟨identity, found⟩ := Option.isSome_iff_exists.1 owned
  obtain ⟨posted, there⟩ := Option.isSome_iff_exists.1 isOpen
  have told := find?_foldl_post (distinct keyId identity found) keyId inbox keys.inboxes
  rw [Keys.posted, Keys.posted, release_of_last found last, told, there, watches, found]
  by_cases watching : inbox ∈ identity.watchers <;> simp [watching]

theorem next_release (keys : Keys) (keyId : Nat) :
    (keys.release keyId).inboxes.next = keys.inboxes.next := by
  unfold release
  split
  next => rfl
  next identity _ =>
    split
    next => exact next_foldl_post _ _ _
    next => rfl

theorem isOpen_release (distinct : keys.Distinct) (keyId inbox : Nat) :
    (keys.release keyId).isOpen inbox = keys.isOpen inbox := by
  unfold release
  split
  next => rfl
  next identity found =>
    split
    next =>
      simp only [isOpen, Numbered.contains, find?_foldl_post (distinct keyId identity found)]
      split
      next => rw [Option.isSome_map]
      next => rfl
    next => rfl

/-! ## Distinct watchers -/

theorem Distinct.adjust (distinct : keys.Distinct) {change : Identity → Identity}
    (same : ∀ identity : Identity, identity.watchers.Nodup → (change identity).watchers.Nodup) :
    ({ keys with owned := keys.owned.adjust keyId change } : Keys).Distinct := by
  intro other identity found
  simp only [Numbered.find?_adjust] at found
  split at found
  next =>
    obtain ⟨earlier, there, rfl⟩ := Option.map_eq_some_iff.1 found
    exact same earlier (distinct other earlier there)
  next => exact distinct other identity found

theorem Distinct.create (distinct : keys.Distinct) (label : String) :
    (keys.create label).2.Distinct := by
  intro other identity found
  simp only [Keys.create, Numbered.find?_add] at found
  split at found
  next =>
    cases found
    exact List.nodup_nil
  next => exact distinct other identity found

theorem Distinct.share (distinct : keys.Distinct) (keyId : Nat) : (keys.share keyId).Distinct :=
  distinct.adjust fun _ same => same

theorem Distinct.watch (distinct : keys.Distinct) (keyId inbox : Nat) :
    (keys.watch keyId inbox).Distinct := by
  refine distinct.adjust fun identity once => ?_
  split
  next => exact once
  next absent => exact once.append (List.nodup_singleton _) (by simpa using absent)

theorem Distinct.release (distinct : keys.Distinct) (keyId : Nat) :
    (keys.release keyId).Distinct := by
  unfold Keys.release
  split
  next => exact distinct
  next identity _ =>
    split
    next =>
      intro other identity found
      simp only [Numbered.find?_erase] at found
      split at found
      next => cases found
      next => exact distinct other identity found
    next => exact distinct.adjust fun _ same => same

end TableCache.Keys
