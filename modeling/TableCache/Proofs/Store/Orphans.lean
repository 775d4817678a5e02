import TableCache.Proofs.Store.View

/-!
# Which keys have entries, and whose entries a purge removes

A key has an entry from its first put on until the entry is invalidated, whether or not the table in
it was reclaimed in between. A purge goes through notices: it removes the entries of the keys
without owner that have one, each once and in the order of the notices, and leaves all other entries
as they are.

Main statements:

1. `has_put`, `has_invalidate`, `has_attachRecent`, ...: which keys have entries after an operation;
2. `size_invalidate`, `size_attachRecent`, ...: and how many do;
3. `removed_eq`, `nodup_removed`: whose entries a purge removes;
4. `entryOf?_removeOrphans`: what it leaves.
-/

namespace TableCache.Store

universe u

variable {Row : Type u} {store : Store Row} {keyId : Nat}

/-- Whether a key has an entry, reclaimed or not. -/
def has (store : Store Row) (keyId : Nat) : Bool := (store.entryOf? keyId).isSome

theorem has_put (store : Store Row) (host : Host) (keyId other : Nat) (rows : List Row) :
    (store.put host keyId rows).2.1.has other =
      if other = keyId then true else store.has other := by
  rw [has, entryOf?_put]
  split <;> rfl

theorem has_invalidate (store : Store Row) (keyId other : Nat) :
    (store.invalidate keyId).2.has other = if other = keyId then false else store.has other := by
  rw [has, entryOf?_invalidate]
  split <;> rfl

/-- A change of one entry adds and removes none. -/
theorem has_adjust (store : Store Row) (keyId other : Nat) (change : Entry → Entry) :
    ((store.entries.adjust keyId change).find? other).isSome = store.has other := by
  rw [entryOf?_adjust]
  split
  next => exact Option.isSome_map
  next => rfl

theorem has_clearForReclaim (store : Store Row) (keyId other : Nat) :
    (store.clearForReclaim keyId).2.has other = store.has other := by
  unfold Store.clearForReclaim
  split
  next => rfl
  next => exact has_adjust store keyId other _

theorem has_dropRecent (store : Store Row) (keyId other : Nat) :
    (store.dropRecent keyId).2.has other = store.has other := by
  unfold Store.dropRecent
  split
  next => rfl
  next => exact has_adjust store keyId other _

theorem has_attachRecent (store : Store Row) (host : Host) (keyId other : Nat) :
    (store.attachRecent host keyId).1.has other = store.has other := by
  unfold Store.attachRecent
  split
  next => rfl
  next entry _ =>
    cases entry.recent with
    | none => exact has_adjust store keyId other _
    | some cell => rfl

theorem has_read (store : Store Row) (keyId other : Nat) :
    (store.read keyId).2.has other = store.has other := by
  rw [has, entryOf?, entries_read]
  rfl

/-! ## How many entries there are -/

theorem size_invalidate (store : Store Row) (keyId : Nat) :
    (store.invalidate keyId).2.size + (if store.has keyId then 1 else 0) = store.size := by
  unfold invalidate
  cases found : store.entryOf? keyId with
  | none => simp [has, found]
  | some entry =>
      rw [has, found, if_pos Option.isSome_some]
      exact Numbered.size_erase found

theorem size_dropRecent (store : Store Row) (keyId : Nat) :
    (store.dropRecent keyId).2.size = store.size := by
  unfold dropRecent
  split
  next => rfl
  next => exact Numbered.size_adjust _ _ _

theorem size_attachRecent (store : Store Row) (host : Host) (keyId : Nat) :
    (store.attachRecent host keyId).1.size = store.size := by
  unfold attachRecent
  split
  next => rfl
  next entry _ =>
    cases entry.recent with
    | none => exact Numbered.size_adjust _ _ _
    | some cell => rfl

theorem size_read (store : Store Row) (keyId : Nat) : (store.read keyId).2.size = store.size := by
  rw [size, entries_read]
  rfl

/-! ## Purges -/

theorem entryOf?_removeOrphans (keys : Keys) (posted : List Nat) (store : Store Row) (keyId : Nat) :
    (removeOrphans keys posted store).2.entryOf? keyId =
      if keyId ∈ (removeOrphans keys posted store).1 then none else store.entryOf? keyId := by
  induction posted generalizing store with
  | nil => rfl
  | cons first rest ih =>
      rw [removeOrphans]
      split
      next =>
        rw [ih, entryOf?_invalidate]
        by_cases same : keyId = first <;> simp [same]
      next => exact ih store

/-- An entry that was removed is not removed once more. -/
theorem notMem_removed_invalidate (keys : Keys) (posted : List Nat) (store : Store Row)
    (keyId : Nat) : keyId ∉ (removeOrphans keys posted (store.invalidate keyId).2).1 := by
  intro again
  have present := (removed_removeOrphans keys posted _ keyId again).2.2
  rw [entryOf?_invalidate, if_pos rfl] at present
  cases present

/-- A purge removes every entry once, however often its key was posted. -/
theorem nodup_removed (keys : Keys) (posted : List Nat) (store : Store Row) :
    (removeOrphans keys posted store).1.Nodup := by
  induction posted generalizing store with
  | nil => exact List.nodup_nil
  | cons first rest ih =>
      rw [removeOrphans]
      split
      next => exact List.nodup_cons.2 ⟨notMem_removed_invalidate keys rest store first, ih _⟩
      next => exact ih store

/-- A purge removes the entries of the posted keys that have one and no owner, in the order in which
they were posted. -/
theorem removed_eq (keys : Keys) {posted : List Nat} (distinct : posted.Nodup)
    (store : Store Row) :
    (removeOrphans keys posted store).1 =
      posted.filter fun keyId => store.has keyId && !keys.isOwned keyId := by
  induction posted generalizing store with
  | nil => rfl
  | cons first rest ih =>
      obtain ⟨once, others⟩ := List.nodup_cons.1 distinct
      rw [removeOrphans, List.filter_cons]
      by_cases orphan : (store.has first && !keys.isOwned first) = true
      · rw [if_pos orphan]
        unfold has at orphan
        rw [if_pos orphan]
        refine congrArg (first :: ·)
          ((ih others _).trans (List.filter_congr fun keyId member => ?_))
        rw [has_invalidate, if_neg]
        rintro rfl
        exact once member
      · rw [if_neg orphan]
        unfold has at orphan
        rw [if_neg orphan]
        exact ih others store

end TableCache.Store
