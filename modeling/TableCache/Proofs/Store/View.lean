import TableCache.Proofs.Store.Clearing

/-!
# What a key shows

Of the entry of a key the rest of a cache sees three things: the table in its cell, whether that
table is pinned by a strong handle, and whether the entry has a recent handle. `Store.shown?` and
`Store.isRecent` are that view of a store; an entry whose table was reclaimed shows nothing, as if
it were not there. Every operation of a store keeps the counts of the memory right (`Store.Sound`),
and what it does is said here as a change of the view. Handles and cells are not looked at any more
after this module.

Main statements:

1. `contains_eq`, `tier_eq`, `read_eq`: what is asked of a store is read off the view;
2. `shown?_put`, `shown?_clearForReclaim`, `shown?_invalidate`, `shown?_reclaimed`: the view after
   each operation;
3. `Sound.put` and the like: the counts stay right;
4. `Sound.pinned_notMem`: a reclaim pass spares a pinned table.
-/

namespace TableCache

universe u

variable {Row : Type u}

/-- A table that was not reclaimed, and whether a strong handle pins it. -/
structure Shown where
  table : Nat
  pinned : Bool
  deriving DecidableEq, Repr

/-- A table without its strong handle. -/
def Shown.unpin (shown : Shown) : Shown := { shown with pinned := false }

/-- How strongly a table is kept that has a recent handle or not. -/
def Shown.tier (isRecent : Bool) (shown : Shown) : Tier :=
  if shown.pinned then .strong else if isRecent then .recent else .weak

namespace Store

open Memory

/-- The table that the entry of a key has, unless it was reclaimed. -/
def shown? (store : Store Row) (keyId : Nat) : Option Shown :=
  (store.entryOf? keyId).bind fun entry =>
    (store.memory.slot? entry.cell).map fun table => ⟨table, entry.strong.isSome⟩

/-- Whether a key has an entry with a recent handle, reclaimed or not. -/
def isRecent (store : Store Row) (keyId : Nat) : Bool :=
  ((store.entryOf? keyId).bind Entry.recent).isSome

/-- The memory of a store counts the handles of its entries and the tables that readers hold. -/
def Sound (store : Store Row) (held : Multiset Nat) : Prop :=
  store.memory.Backs store.entries.pairs held

variable {store after : Store Row} {held : Multiset Nat} {keyId other table : Nat} {entry : Entry}

/-! ## Reading the view -/

theorem contains_eq (store : Store Row) (keyId : Nat) :
    store.contains keyId = (store.shown? keyId).isSome := by
  unfold contains shown?
  cases store.entryOf? keyId with
  | none => rfl
  | some entry => simp [isAlive]

theorem tier_eq (store : Store Row) (keyId : Nat) :
    store.tier keyId =
      ((store.shown? keyId).map (Shown.tier (store.isRecent keyId))).getD .absent := by
  unfold tier shown? isRecent
  cases store.entryOf? keyId with
  | none => rfl
  | some entry =>
      rcases Option.eq_none_or_eq_some (store.memory.slot? entry.cell) with gone | ⟨table, filled⟩
      · simp [Entry.tier, isAlive, gone]
      · simp [Entry.tier, isAlive, filled, Shown.tier]

theorem read_eq (store : Store Row) (keyId : Nat) :
    (store.read keyId).1 = (store.shown? keyId).map Shown.table := by
  unfold read shown?
  cases store.entryOf? keyId with
  | none => rfl
  | some entry =>
      simp only [Memory.read, Option.bind_some]
      split
      next none => rw [none]; rfl
      next table filled => rw [filled]; rfl

/-- The view under a key depends on the entry of the key and on what its cell has. -/
theorem shown?_congr (sameEntry : after.entryOf? keyId = store.entryOf? keyId)
    (sameSlot : ∀ entry, store.entryOf? keyId = some entry →
      after.memory.slot? entry.cell = store.memory.slot? entry.cell) :
    after.shown? keyId = store.shown? keyId := by
  unfold shown?
  rw [sameEntry]
  cases found : store.entryOf? keyId with
  | none => rfl
  | some entry => rw [Option.bind_some, Option.bind_some, sameSlot entry found]

theorem isRecent_congr (sameEntry : after.entryOf? keyId = store.entryOf? keyId) :
    after.isRecent keyId = store.isRecent keyId := by
  rw [isRecent, isRecent, sameEntry]

/-! ## One entry among all -/

theorem mem_pairs (found : store.entryOf? keyId = some entry) :
    (keyId, entry) ∈ store.entries.pairs :=
  Numbered.mem_pairs.2 found

theorem Sound.backs_entry (sound : store.Sound held) (found : store.entryOf? keyId = some entry) :
    store.memory.Backs ((keyId, entry) ::ₘ (store.entries.erase keyId).pairs) held := by
  rw [← Numbered.pairs_eq_cons_erase found]
  exact sound

theorem Sound.linked (sound : store.Sound held) (found : store.entryOf? keyId = some entry) :
    entry.Linked store.memory keyId :=
  Backs.linked sound keyId entry (mem_pairs found)

/-- Entries of two keys have two cells. -/
theorem Sound.cell_ne (sound : store.Sound held) {second : Entry} (different : other ≠ keyId)
    (found : store.entryOf? keyId = some entry) (there : store.entryOf? other = some second) :
    second.cell ≠ entry.cell :=
  fun same => different (Backs.cell_inj sound (mem_pairs there) (mem_pairs found) same)

/-- The cells of entries were given out before. -/
theorem Sound.cell_lt_next (sound : store.Sound held) (found : store.entryOf? keyId = some entry) :
    entry.cell < store.memory.cells.next := by
  obtain ⟨cell, present⟩ := Backs.find?_cell sound (mem_pairs found)
  exact Numbered.lt_next_of_find? present

/-- A change of one entry and of its cell is not seen under another key. -/
theorem Sound.shown?_other (sound : store.Sound held) (different : other ≠ keyId)
    (found : store.entryOf? keyId = some entry)
    (sameEntry : after.entryOf? other = store.entryOf? other)
    (sameCells : ∀ cell, cell ≠ entry.cell →
      after.memory.cells.find? cell = store.memory.cells.find? cell) :
    after.shown? other = store.shown? other := by
  refine shown?_congr sameEntry fun second there => ?_
  rw [slot?, slot?, sameCells _ (sound.cell_ne different found there)]

theorem entryOf?_adjust (store : Store Row) (keyId other : Nat) (change : Entry → Entry) :
    (store.entries.adjust keyId change).find? other =
      if other = keyId then (store.entryOf? other).map change else store.entryOf? other :=
  Numbered.find?_adjust _ _ _ _

theorem mem_slots_of_shown {shown : Shown} (there : store.shown? keyId = some shown) :
    shown.table ∈ slots store.memory.cells := by
  obtain ⟨entry, -, filled⟩ := Option.bind_eq_some_iff.1 there
  obtain ⟨table, slot, rfl⟩ := Option.map_eq_some_iff.1 filled
  exact mem_slots_of_slot? slot

/-- A table that is shown is held by its cell. -/
theorem Sound.holders_pos (sound : store.Sound held) {shown : Shown}
    (there : store.shown? keyId = some shown) : 0 < store.memory.holders shown.table :=
  sound.holding.pos_of_mem (Multiset.mem_add.2 (.inl (mem_slots_of_shown there)))

theorem Sound.lt_next_of_shown (sound : store.Sound held) {shown : Shown}
    (there : store.shown? keyId = some shown) : shown.table < store.memory.tables.next :=
  sound.holding.lt_next_of_mem (Multiset.mem_add.2 (.inl (mem_slots_of_shown there)))

/-- A table in a cell is shown, because every cell belongs to an entry. -/
theorem Sound.shown_of_mem_slots (sound : store.Sound held)
    (present : table ∈ slots store.memory.cells) :
    ∃ keyId shown, store.shown? keyId = some shown ∧ shown.table = table := by
  obtain ⟨number, cell, found, filled⟩ := mem_slots.1 present
  have known : store.memory.isPresent number = true := by
    rw [isPresent, Numbered.contains, found]
    rfl
  obtain ⟨keyId, entry, member, rfl⟩ := Backs.entry_of_cell sound known
  have entered : store.entryOf? keyId = some entry := Numbered.mem_pairs.1 member
  have slot : store.memory.slot? entry.cell = some table := by
    rw [slot?, found]
    exact filled
  refine ⟨keyId, ⟨table, entry.strong.isSome⟩, ?_, rfl⟩
  rw [shown?, entered, Option.bind_some, slot]
  rfl

/-- The recent handle of an entry with a table is alive, if there is one. -/
theorem Sound.recentAlive_eq (sound : store.Sound held)
    (found : store.entryOf? keyId = some entry)
    (filled : store.memory.slot? entry.cell = some table) :
    entry.recentAlive store.memory = store.isRecent keyId := by
  rw [isRecent, found, Option.bind_some, Entry.recentAlive]
  cases recent : entry.recent with
  | none => rfl
  | some cell =>
      have same := (sound.linked found).recent cell recent
      subst same
      simp [isAlive, filled]

/-! ## Putting -/

theorem put_eq (store : Store Row) (host : Host) (keyId : Nat) (rows : List Row) :
    store.put host keyId rows =
      (store.memory.tables.next,
        { store with
          memory :=
            match store.entryOf? keyId with
            | none => store.memory.lodge keyId rows host.clock (host.clock + 1)
            | some replaced =>
                replaced.discard (store.memory.lodge keyId rows host.clock (host.clock + 1))
          entries := store.entries.insert keyId store.memory.lodged },
        ((host.tick.2.watch keyId store.inbox).tick).2) := rfl

/-- A put keeps a store sound: the new table is lodged first, and the entry that it replaces is
discarded after that. -/
theorem Sound.put (sound : store.Sound held) (host : Host) (keyId : Nat) (rows : List Row) :
    (store.put host keyId rows).2.1.Sound (store.memory.tables.next ::ₘ held) := by
  have lodged := Backs.lodge sound keyId rows host.clock (host.clock + 1)
  rw [put_eq, Sound]
  simp only [Numbered.pairs_insert]
  cases found : store.entryOf? keyId with
  | none =>
      simp only
      rw [Numbered.pairs_erase_of_absent found]
      exact lodged
  | some replaced =>
      simp only
      rw [Numbered.pairs_eq_cons_erase found, Multiset.cons_swap] at lodged
      exact lodged.discard

theorem later_put_newTable (store : Store Row) (host : Host) (keyId : Nat) (rows : List Row) :
    (store.memory.newTable rows).2.Later (store.put host keyId rows).2.1.memory := by
  have lodged := later_lodge_newTable store.memory keyId rows host.clock (host.clock + 1)
  rw [put_eq]
  cases store.entryOf? keyId with
  | none => exact lodged
  | some replaced => exact lodged.trans (later_discard replaced _)

theorem later_put (store : Store Row) (host : Host) (keyId : Nat) (rows : List Row) :
    store.memory.Later (store.put host keyId rows).2.1.memory :=
  (later_newTable _ rows).trans (later_put_newTable store host keyId rows)

/-- A new table has the rows that were put. -/
theorem Sound.rows_put (sound : store.Sound held) (host : Host) (keyId : Nat) (rows : List Row) :
    (store.put host keyId rows).2.1.memory.rows store.memory.tables.next = rows := by
  have holding := (sound.put host keyId rows).holding
  rw [(later_put_newTable store host keyId rows).rows_eq]
  · simp [Memory.rows, newTable, Numbered.find?_add]
  · simp [newTable]
  · exact holding.pos_of_mem (by simp)

theorem entryOf?_put (store : Store Row) (host : Host) (keyId other : Nat) (rows : List Row) :
    (store.put host keyId rows).2.1.entryOf? other =
      if other = keyId then some store.memory.lodged else store.entryOf? other :=
  Numbered.find?_insert _ _ _ _

/-- A put leaves every cell alone but its own new one and the one it replaces. -/
theorem Sound.find?_put (sound : store.Sound held) (host : Host) (keyId : Nat) (rows : List Row)
    {cell : Nat}
    (kept : ∀ replaced, store.entryOf? keyId = some replaced → cell ≠ replaced.cell) :
    (store.put host keyId rows).2.1.memory.cells.find? cell =
      if cell = store.memory.cells.next then
        some ⟨keyId, some store.memory.tables.next, 1, host.clock + 1, 2⟩
      else store.memory.cells.find? cell := by
  rw [put_eq]
  cases found : store.entryOf? keyId with
  | none => exact find?_lodge _ _ _ _ _ _
  | some replaced =>
      simp only
      rw [find?_discard (sound.linked found).recent _ (kept replaced found), find?_lodge]

theorem Sound.shown?_put (sound : store.Sound held) (host : Host) (keyId other : Nat)
    (rows : List Row) :
    (store.put host keyId rows).2.1.shown? other =
      if other = keyId then some ⟨store.memory.tables.next, true⟩ else store.shown? other := by
  by_cases same : other = keyId
  · have fresh : ∀ replaced, store.entryOf? keyId = some replaced →
        store.memory.cells.next ≠ replaced.cell :=
      fun replaced found => (Nat.ne_of_lt (sound.cell_lt_next found)).symm
    rw [if_pos same, shown?, entryOf?_put, if_pos same, Option.bind_some, slot?]
    simp only [lodged]
    rw [sound.find?_put host keyId rows fresh, if_pos rfl]
    rfl
  · rw [if_neg same]
    have sameEntry := entryOf?_put store host keyId other rows
    rw [if_neg same] at sameEntry
    refine shown?_congr sameEntry fun second there => ?_
    have older := Nat.ne_of_lt (sound.cell_lt_next there)
    rw [slot?, slot?, sound.find?_put host keyId rows fun replaced found =>
      sound.cell_ne same found there, if_neg older]

theorem isRecent_put (store : Store Row) (host : Host) (keyId other : Nat) (rows : List Row) :
    (store.put host keyId rows).2.1.isRecent other =
      if other = keyId then true else store.isRecent other := by
  rw [isRecent, entryOf?_put]
  split <;> rfl

/-! ## Giving up a strong handle -/

/-- Giving up a strong handle that is not there does nothing. -/
theorem clearForReclaim_of_unpinned (unpinned : (store.entryOf? keyId).bind Entry.strong = none) :
    store.clearForReclaim keyId = (false, store) := by
  rw [clearForReclaim, unpinned]

theorem clearForReclaim_of_pinned (pinned : (store.entryOf? keyId).bind Entry.strong = some table) :
    store.clearForReclaim keyId =
      (true,
        { store with
          memory := store.memory.release table
          entries := store.entries.adjust keyId fun entry => { entry with strong := none } }) := by
  rw [clearForReclaim, pinned]

theorem Sound.clearForReclaim (sound : store.Sound held) (keyId : Nat) :
    (store.clearForReclaim keyId).2.Sound held := by
  rcases Option.eq_none_or_eq_some ((store.entryOf? keyId).bind Entry.strong) with
    unpinned | ⟨table, pinned⟩
  · rw [clearForReclaim_of_unpinned unpinned]
    exact sound
  · rw [clearForReclaim_of_pinned pinned, Sound]
    obtain ⟨entry, found, strong⟩ := Option.bind_eq_some_iff.1 pinned
    simp only
    rw [Numbered.pairs_adjust found]
    exact (sound.backs_entry found).unpin strong

theorem later_clearForReclaim (store : Store Row) (keyId : Nat) :
    store.memory.Later (store.clearForReclaim keyId).2.memory := by
  rcases Option.eq_none_or_eq_some ((store.entryOf? keyId).bind Entry.strong) with
    unpinned | ⟨table, pinned⟩
  · rw [clearForReclaim_of_unpinned unpinned]
    exact .refl _
  · rw [clearForReclaim_of_pinned pinned]
    exact later_release _ _

theorem shown?_clearForReclaim (store : Store Row) (keyId other : Nat) :
    (store.clearForReclaim keyId).2.shown? other =
      if other = keyId then (store.shown? keyId).map Shown.unpin else store.shown? other := by
  rcases Option.eq_none_or_eq_some ((store.entryOf? keyId).bind Entry.strong) with
    unpinned | ⟨table, pinned⟩
  · rw [clearForReclaim_of_unpinned unpinned]
    split
    next same =>
      rw [same, shown?]
      cases found : store.entryOf? keyId with
      | none => rfl
      | some entry =>
          rw [found, Option.bind_some] at unpinned
          rw [Option.bind_some, unpinned, Option.map_map]
          rfl
    next => rfl
  · rw [clearForReclaim_of_pinned pinned, shown?, entryOf?]
    simp only
    rw [entryOf?_adjust]
    split
    next same =>
      rw [same, shown?, Option.bind_map, Option.map_bind]
      refine Option.bind_congr fun entry _ => ?_
      simp only [Function.comp_apply, Option.map_map]
      rfl
    next => rfl

theorem isRecent_clearForReclaim (store : Store Row) (keyId other : Nat) :
    (store.clearForReclaim keyId).2.isRecent other = store.isRecent other := by
  rcases Option.eq_none_or_eq_some ((store.entryOf? keyId).bind Entry.strong) with
    unpinned | ⟨table, pinned⟩
  · rw [clearForReclaim_of_unpinned unpinned]
  · rw [clearForReclaim_of_pinned pinned]
    exact congrArg Option.isSome (Numbered.bind_find?_adjust _ _ _ _ fun _ => rfl)

/-! ## Removing an entry -/

theorem Sound.invalidate (sound : store.Sound held) (keyId : Nat) :
    (store.invalidate keyId).2.Sound held := by
  unfold Store.invalidate
  split
  next => exact sound
  next entry found => exact (sound.backs_entry found).discard

theorem later_invalidate (store : Store Row) (keyId : Nat) :
    store.memory.Later (store.invalidate keyId).2.memory := by
  unfold invalidate
  split
  next => exact .refl _
  next entry _ => exact later_discard entry _

theorem entryOf?_invalidate (store : Store Row) (keyId other : Nat) :
    (store.invalidate keyId).2.entryOf? other =
      if other = keyId then none else store.entryOf? other := by
  unfold invalidate
  split
  next absent =>
    split
    next same => rw [same, absent]
    next => rfl
  next entry _ => exact Numbered.find?_erase _ _ _

theorem isRecent_invalidate (store : Store Row) (keyId other : Nat) :
    (store.invalidate keyId).2.isRecent other =
      if other = keyId then false else store.isRecent other := by
  rw [isRecent, entryOf?_invalidate]
  split <;> rfl

theorem Sound.shown?_invalidate (sound : store.Sound held) (keyId other : Nat) :
    (store.invalidate keyId).2.shown? other =
      if other = keyId then none else store.shown? other := by
  have sameEntry := entryOf?_invalidate store keyId other
  by_cases same : other = keyId
  · rw [if_pos same] at sameEntry ⊢
    rw [shown?, sameEntry, Option.bind_none]
  · rw [if_neg same] at sameEntry ⊢
    unfold Store.invalidate at sameEntry ⊢
    split at sameEntry
    next => rfl
    next entry found =>
      refine sound.shown?_other same found sameEntry fun cell apart => ?_
      exact find?_discard (sound.linked found).recent _ apart

/-! ## Recent handles -/

/-- Dropping a recent handle that is not there does nothing. -/
theorem dropRecent_of_not_isRecent (idle : (store.entryOf? keyId).bind Entry.recent = none) :
    store.dropRecent keyId = (false, store) := by
  rw [dropRecent, idle]

theorem dropRecent_of_isRecent {cell : Nat}
    (used : (store.entryOf? keyId).bind Entry.recent = some cell) :
    store.dropRecent keyId =
      (true,
        { store with
          memory := store.memory.closeRecent cell
          entries := store.entries.adjust keyId fun entry => { entry with recent := none } }) := by
  rw [dropRecent, used]

theorem Sound.dropRecent (sound : store.Sound held) (keyId : Nat) :
    (store.dropRecent keyId).2.Sound held := by
  rcases Option.eq_none_or_eq_some ((store.entryOf? keyId).bind Entry.recent) with
    idle | ⟨cell, used⟩
  · rw [dropRecent_of_not_isRecent idle]
    exact sound
  · rw [dropRecent_of_isRecent used, Sound]
    obtain ⟨entry, found, recent⟩ := Option.bind_eq_some_iff.1 used
    obtain rfl := (sound.linked found).recent cell recent
    simp only
    rw [Numbered.pairs_adjust found]
    exact (sound.backs_entry found).closeRecent recent

theorem later_dropRecent (store : Store Row) (keyId : Nat) :
    store.memory.Later (store.dropRecent keyId).2.memory := by
  unfold dropRecent
  split
  next => exact .refl _
  next cell _ => exact later_closeRecent _ cell

theorem isRecent_dropRecent (store : Store Row) (keyId other : Nat) :
    (store.dropRecent keyId).2.isRecent other =
      if other = keyId then false else store.isRecent other := by
  rcases Option.eq_none_or_eq_some ((store.entryOf? keyId).bind Entry.recent) with
    idle | ⟨cell, used⟩
  · rw [dropRecent_of_not_isRecent idle]
    split
    next same => rw [same, isRecent, idle]; rfl
    next => rfl
  · rw [dropRecent_of_isRecent used, isRecent, entryOf?]
    simp only
    rw [entryOf?_adjust]
    split
    next => cases store.entryOf? other <;> rfl
    next => rfl

/-- The table of an entry outlives the recent handle, because the weak handle keeps the cell. -/
theorem Sound.shown?_dropRecent (sound : store.Sound held) (keyId other : Nat) :
    (store.dropRecent keyId).2.shown? other = store.shown? other := by
  rcases Option.eq_none_or_eq_some ((store.entryOf? keyId).bind Entry.recent) with
    idle | ⟨cell, used⟩
  · rw [dropRecent_of_not_isRecent idle]
  · rw [dropRecent_of_isRecent used]
    obtain ⟨entry, found, recent⟩ := Option.bind_eq_some_iff.1 used
    obtain rfl := (sound.linked found).recent cell recent
    have adjusted := entryOf?_adjust store keyId other fun entry => { entry with recent := none }
    split at adjusted
    next same =>
      subst same
      obtain ⟨cell, known, left⟩ := Backs.find?_closeRecent sound (mem_pairs found) recent
      rw [found] at adjusted
      rw [shown?, shown?, found, entryOf?, adjusted, Option.map_some, Option.bind_some,
        Option.bind_some, slot?, slot?, left, known]
      rfl
    next different =>
      refine sound.shown?_other different found adjusted fun cell apart => ?_
      exact (Memory.find?_closeRecent _ _ _).trans (if_neg apart)

/-- A recent handle that is there already is used, and no other comes of it. -/
theorem attachRecent_of_isRecent {cell : Nat} (found : store.entryOf? keyId = some entry)
    (used : entry.recent = some cell) (host : Host) :
    store.attachRecent host keyId =
      ({ store with memory := store.memory.touchRecent cell host.clock }, host.tick.2) := by
  rw [attachRecent, found]
  simp only [used]
  rfl

theorem attachRecent_of_not_isRecent (found : store.entryOf? keyId = some entry)
    (idle : entry.recent = none) (host : Host) :
    store.attachRecent host keyId =
      ({ store with
          memory := store.memory.openRecent entry.cell host.clock
          entries :=
            store.entries.adjust keyId fun entry => { entry with recent := some entry.cell } },
        host.tick.2) := by
  rw [attachRecent, found]
  simp only [idle]
  rfl

theorem attachRecent_of_absent (absent : store.entryOf? keyId = none) (host : Host) :
    store.attachRecent host keyId = (store, host) := by
  rw [attachRecent, absent]

theorem Sound.attachRecent (sound : store.Sound held) (host : Host) (keyId : Nat) :
    (store.attachRecent host keyId).1.Sound held := by
  cases found : store.entryOf? keyId with
  | none =>
      rw [attachRecent_of_absent found]
      exact sound
  | some entry =>
      cases recent : entry.recent with
      | none =>
          rw [attachRecent_of_not_isRecent found recent, Sound]
          simp only
          rw [Numbered.pairs_adjust found]
          exact (sound.backs_entry found).openRecent recent host.clock
      | some cell =>
          rw [attachRecent_of_isRecent found recent]
          exact Backs.touchRecent sound cell host.clock

theorem later_attachRecent (store : Store Row) (host : Host) (keyId : Nat) :
    store.memory.Later (store.attachRecent host keyId).1.memory := by
  cases found : store.entryOf? keyId with
  | none =>
      rw [attachRecent_of_absent found]
      exact .refl _
  | some entry =>
      cases recent : entry.recent with
      | none =>
          rw [attachRecent_of_not_isRecent found recent]
          exact .of_tables rfl
      | some cell =>
          rw [attachRecent_of_isRecent found recent]
          exact .of_tables rfl

theorem isRecent_attachRecent (store : Store Row) (host : Host) (keyId other : Nat) :
    (store.attachRecent host keyId).1.isRecent other =
      if other = keyId then (store.entryOf? keyId).isSome else store.isRecent other := by
  cases found : store.entryOf? keyId with
  | none =>
      rw [attachRecent_of_absent found]
      split
      next same => rw [same, isRecent, found]; rfl
      next => rfl
  | some entry =>
      cases recent : entry.recent with
      | none =>
          rw [attachRecent_of_not_isRecent found recent, isRecent, entryOf?]
          simp only
          rw [entryOf?_adjust]
          split
          next same => rw [same, found]; rfl
          next => rfl
      | some cell =>
          rw [attachRecent_of_isRecent found recent]
          split
          next same =>
            rw [same]
            show ((store.entryOf? keyId).bind Entry.recent).isSome = true
            rw [found, Option.bind_some, recent, Option.isSome_some]
          next => rfl

theorem shown?_attachRecent (store : Store Row) (host : Host) (keyId other : Nat) :
    (store.attachRecent host keyId).1.shown? other = store.shown? other := by
  cases found : store.entryOf? keyId with
  | none => rw [attachRecent_of_absent found]
  | some entry =>
      cases recent : entry.recent with
      | none =>
          rw [attachRecent_of_not_isRecent found recent, shown?, shown?]
          simp only [slot?_openRecent]
          exact Numbered.bind_find?_adjust _ _ _ _ fun _ => rfl
      | some cell =>
          rw [attachRecent_of_isRecent found recent]
          exact shown?_congr rfl fun entry _ => slot?_touchRecent _ _ _ _

theorem keys_attachRecent (store : Store Row) (host : Host) (keyId : Nat) :
    (store.attachRecent host keyId).2.keys = host.keys := by
  unfold attachRecent
  split
  next => rfl
  next entry _ => cases entry.recent <;> rfl

/-! ## Reading a table -/

theorem Sound.read (sound : store.Sound held) (keyId : Nat) :
    (store.read keyId).2.Sound ((store.read keyId).1.toList + held) := by
  unfold Store.read
  split
  next => simpa using sound
  next entry found =>
    rcases Option.eq_none_or_eq_some (store.memory.slot? entry.cell) with gone | ⟨table, filled⟩
    · simpa [Memory.read, gone] using sound
    · have shared := Backs.share sound (Multiset.mem_add.2 (.inl (mem_slots_of_slot? filled)))
      simp only [Memory.read, filled, Option.toList_some, Multiset.coe_singleton]
      rw [Multiset.singleton_add]
      exact shared

theorem later_read (store : Store Row) (keyId : Nat) :
    store.memory.Later (store.read keyId).2.memory := by
  unfold read
  split
  next => exact .refl _
  next entry _ =>
    simp only [Memory.read]
    split
    next => exact .refl _
    next table _ => exact later_share _ table

theorem cells_read (store : Store Row) (keyId : Nat) :
    (store.read keyId).2.memory.cells = store.memory.cells := by
  unfold read
  split
  next => rfl
  next entry _ =>
    simp only [Memory.read]
    split <;> rfl

theorem entries_read (store : Store Row) (keyId : Nat) :
    (store.read keyId).2.entries = store.entries := by
  unfold read
  split <;> rfl

theorem shown?_read (store : Store Row) (keyId other : Nat) :
    (store.read keyId).2.shown? other = store.shown? other := by
  refine shown?_congr (congrArg (Numbered.find? · other) (entries_read store keyId)) ?_
  intro entry _
  rw [slot?, slot?, cells_read]

theorem isRecent_read (store : Store Row) (keyId other : Nat) :
    (store.read keyId).2.isRecent other = store.isRecent other :=
  isRecent_congr (congrArg (Numbered.find? · other) (entries_read store keyId))

/-! ## Keys without owners -/

/-- Whose entries were removed, and that all of them had one and no owner. -/
theorem removed_removeOrphans (keys : Keys) (posted : List Nat) (store : Store Row) :
    ∀ keyId ∈ (removeOrphans keys posted store).1,
      keyId ∈ posted ∧ keys.isOwned keyId = false ∧ (store.entryOf? keyId).isSome := by
  induction posted generalizing store with
  | nil => exact fun _ member => absurd member List.not_mem_nil
  | cons first rest ih =>
      rw [removeOrphans]
      split
      next orphan =>
        rw [Bool.and_eq_true, Bool.not_eq_true'] at orphan
        intro keyId member
        rcases List.mem_cons.1 member with same | member
        · subst same
          exact ⟨List.mem_cons_self, orphan.2, orphan.1⟩
        · obtain ⟨later, unowned, present⟩ := ih _ keyId member
          refine ⟨List.mem_cons_of_mem _ later, unowned, ?_⟩
          rw [entryOf?_invalidate] at present
          split at present
          next => cases present
          next => exact present
      next =>
        intro keyId member
        obtain ⟨later, rest⟩ := ih store keyId member
        exact ⟨List.mem_cons_of_mem _ later, rest⟩

theorem Sound.removeOrphans (sound : store.Sound held) (keys : Keys) (posted : List Nat) :
    (removeOrphans keys posted store).2.Sound held := by
  induction posted generalizing store with
  | nil => exact sound
  | cons first rest ih =>
      rw [Store.removeOrphans]
      split
      next => exact ih (sound.invalidate first)
      next => exact ih sound

theorem later_removeOrphans (keys : Keys) (posted : List Nat) (store : Store Row) :
    store.memory.Later (removeOrphans keys posted store).2.memory := by
  induction posted generalizing store with
  | nil => exact .refl _
  | cons first rest ih =>
      rw [removeOrphans]
      split
      next => exact (later_invalidate store first).trans (ih _)
      next => exact ih store

theorem Sound.shown?_removeOrphans (sound : store.Sound held) (keys : Keys) (posted : List Nat)
    (keyId : Nat) :
    (Store.removeOrphans keys posted store).2.shown? keyId =
      if keyId ∈ (Store.removeOrphans keys posted store).1 then none else store.shown? keyId := by
  induction posted generalizing store with
  | nil => rfl
  | cons first rest ih =>
      rw [Store.removeOrphans]
      split
      next =>
        rw [ih (sound.invalidate first), sound.shown?_invalidate]
        by_cases same : keyId = first <;> simp [same]
      next => exact ih sound

theorem isRecent_removeOrphans (keys : Keys) (posted : List Nat) (store : Store Row) (keyId : Nat) :
    (removeOrphans keys posted store).2.isRecent keyId =
      if keyId ∈ (removeOrphans keys posted store).1 then false else store.isRecent keyId := by
  induction posted generalizing store with
  | nil => rfl
  | cons first rest ih =>
      rw [removeOrphans]
      split
      next =>
        rw [ih, isRecent_invalidate]
        by_cases same : keyId = first <;> simp [same]
      next => exact ih store

/-! ## Reclaim passes -/

/-- A store after a pass over its memory. -/
def reclaimed (store : Store Row) (pressure : Pressure) : Store Row :=
  { store with memory := (store.memory.reclaim pressure).memory }

/-- The tables that a pass over the memory of a store clears. -/
def cleared (store : Store Row) (pressure : Pressure) : List Nat :=
  store.memory.cleared (store.memory.reclaim pressure).memory

theorem Sound.reclaimed (sound : store.Sound held) (pressure : Pressure) :
    (store.reclaimed pressure).Sound held :=
  Backs.reclaim sound pressure

/-- What a pass clears is not shown any more, and everything else is. -/
theorem Sound.shown?_reclaimed (sound : store.Sound held) (pressure : Pressure) (keyId : Nat) :
    (store.reclaimed pressure).shown? keyId =
      (store.shown? keyId).filter fun shown => shown.table ∉ store.cleared pressure := by
  show ((store.entryOf? keyId).bind fun entry =>
      ((store.memory.reclaim pressure).memory.slot? entry.cell).map fun table =>
        (⟨table, entry.strong.isSome⟩ : Shown)) = _
  rw [shown?]
  cases store.entryOf? keyId with
  | none => rfl
  | some entry =>
      rw [Option.bind_some, Option.bind_some]
      have kept := fun table => Backs.slot?_reclaim sound pressure entry.cell table
      rcases Option.eq_none_or_eq_some (store.memory.slot? entry.cell) with gone | ⟨table, filled⟩
      · have empty : (store.memory.reclaim pressure).memory.slot? entry.cell = none := by
          refine Option.eq_none_iff_forall_ne_some.2 fun table left => ?_
          rw [kept, gone] at left
          cases left.1
        rw [empty, gone]
        rfl
      · rw [filled, Option.map_some, Option.filter_some]
        by_cases lost : table ∈ store.cleared pressure
        · have empty : (store.memory.reclaim pressure).memory.slot? entry.cell = none := by
            refine Option.eq_none_iff_forall_ne_some.2 fun other left => ?_
            obtain ⟨there, spared⟩ := (kept other).1 left
            rw [filled] at there
            exact spared (Option.some.inj there ▸ lost)
          rw [empty]
          simp [lost]
        · rw [(kept table).2 ⟨filled, lost⟩]
          simp [lost]

/-- A pass clears tables that are shown, and each of them once. -/
theorem Sound.shown_of_cleared (sound : store.Sound held) {pressure : Pressure}
    (gone : table ∈ store.cleared pressure) :
    ∃ keyId shown, store.shown? keyId = some shown ∧ shown.table = table :=
  sound.shown_of_mem_slots (mem_stored.1 (List.mem_filter.1 gone).1)

theorem Sound.nodup_cleared (sound : store.Sound held) (pressure : Pressure) :
    (store.cleared pressure).Nodup := by
  have single := sound.single
  rw [← coe_stored, Multiset.coe_nodup] at single
  exact single.filter _

/-- A pass spares a table that a reader holds. -/
theorem Sound.held_notMem (sound : store.Sound held) (pressure : Pressure) (holds : table ∈ held) :
    table ∉ store.cleared pressure :=
  Backs.notMem_cleared sound pressure (Multiset.mem_add.2 (.inr holds))

/-- A pass spares a pinned table. -/
theorem Sound.pinned_notMem (sound : store.Sound held) (pressure : Pressure) {shown : Shown}
    (there : store.shown? keyId = some shown) (pinned : shown.pinned = true) :
    shown.table ∉ store.cleared pressure := by
  obtain ⟨entry, found, filled⟩ := Option.bind_eq_some_iff.1 there
  obtain ⟨table, slot, rfl⟩ := Option.map_eq_some_iff.1 filled
  obtain ⟨other, strong⟩ := Option.isSome_iff_exists.1 pinned
  have same := ((sound.linked found).strong other strong).symm.trans slot
  cases same
  refine Backs.notMem_cleared sound pressure (Multiset.mem_add.2 (.inl ?_))
  exact (Multiset.mem_filterMap _ _).2 ⟨_, mem_pairs found, strong⟩

end Store

end TableCache
