import TableCache.Proofs.Store.Uses

/-!
# What there is of a key

Of a key with an entry there are its handles, the cell they point to, and the rows in the cell:
the presence of its table and the table itself, how strongly it is kept, and when it was used last.
What is done to one key leaves all of that as it is for every other key, because entries of two keys
have two cells. A key that is pushed out of the recency index loses its recent handle, and nothing
else.

Main statements:

1. `Sound.spared_put`, `Sound.spared_invalidate`, ...: every operation spares all other keys;
2. `Sound.demoted_dropRecent`: a key that is pushed out only loses its recent handle;
3. `Spared.standing?`, `Demoted.standing?`: what there is of such keys afterwards.
-/

namespace TableCache

universe u

variable {Row : Type u}

/-- What there is of a key: its handles, the cell they point to, and the rows of the table there. -/
structure Standing (Row : Type u) where
  entry : Entry
  cell : Option Cell
  rows : Option (List Row)
  deriving DecidableEq, Repr

/-- What is left without the recent handle. -/
def Standing.demoted (standing : Standing Row) : Standing Row where
  entry := { standing.entry with recent := none }
  cell := standing.cell.map fun cell =>
    { cell with owners := cell.owners - 1, recentHolds := cell.recentHolds - 1 }
  rows := standing.rows

namespace Store

open Memory

/-- What there is of a key that has an entry. -/
def standing? (store : Store Row) (keyId : Nat) : Option (Standing Row) :=
  (store.entryOf? keyId).map fun entry =>
    ⟨entry, store.memory.cells.find? entry.cell,
      (store.memory.slot? entry.cell).map store.memory.rows⟩

/-- The handles of a key and its cell are what they were. -/
structure Spared (before after : Store Row) (keyId : Nat) : Prop where
  entry : after.entryOf? keyId = before.entryOf? keyId
  cell : ∀ entry, before.entryOf? keyId = some entry →
    after.memory.cells.find? entry.cell = before.memory.cells.find? entry.cell

variable {store after : Store Row} {held : Multiset Nat} {keyId other : Nat} {entry : Entry}

theorem Spared.refl (store : Store Row) (keyId : Nat) : store.Spared store keyId :=
  ⟨rfl, fun _ _ => rfl⟩

theorem Spared.trans {first second third : Store Row} (one : first.Spared second keyId)
    (two : second.Spared third keyId) : first.Spared third keyId where
  entry := two.entry.trans one.entry
  cell := fun entry found =>
    (two.cell entry (one.entry.trans found)).trans (one.cell entry found)

/-- A change of one entry and of its cell spares every other key. -/
theorem Sound.spared_other (sound : store.Sound held) (different : other ≠ keyId)
    (found : store.entryOf? keyId = some entry)
    (sameEntry : after.entryOf? other = store.entryOf? other)
    (sameCells : ∀ cell, cell ≠ entry.cell →
      after.memory.cells.find? cell = store.memory.cells.find? cell) :
    store.Spared after other :=
  ⟨sameEntry, fun _ there => sameCells _ (sound.cell_ne different found there)⟩

/-! ## Operations on one key -/

theorem Sound.spared_put (sound : store.Sound held) (different : other ≠ keyId) (host : Host)
    (rows : List Row) : store.Spared (store.put host keyId rows).2.1 other where
  entry := (entryOf?_put store host keyId other rows).trans (if_neg different)
  cell := by
    intro entry found
    have old := Nat.ne_of_lt (sound.cell_lt_next found)
    have apart : ∀ replaced, store.entryOf? keyId = some replaced → entry.cell ≠ replaced.cell :=
      fun replaced there => sound.cell_ne different there found
    rw [sound.find?_put host keyId rows apart, if_neg old]

theorem Sound.spared_invalidate (sound : store.Sound held) (different : other ≠ keyId) :
    store.Spared (store.invalidate keyId).2 other := by
  have sameEntry := entryOf?_invalidate store keyId other
  rw [if_neg different] at sameEntry
  unfold Store.invalidate at sameEntry ⊢
  split at sameEntry
  next => exact .refl store other
  next entry found =>
    refine sound.spared_other different found sameEntry fun cell apart => ?_
    exact find?_discard (sound.linked found).recent _ apart

theorem spared_clearForReclaim (store : Store Row) (different : other ≠ keyId) :
    store.Spared (store.clearForReclaim keyId).2 other := by
  unfold Store.clearForReclaim
  split
  next => exact .refl store other
  next table _ =>
    refine ⟨?_, fun _ _ => rfl⟩
    exact (entryOf?_adjust store keyId other _).trans (if_neg different)

theorem spared_read (store : Store Row) (keyId other : Nat) :
    store.Spared (store.read keyId).2 other where
  entry := congrArg (Numbered.find? · other) (entries_read store keyId)
  cell := fun _ _ => by rw [cells_read]

theorem Sound.spared_dropRecent (sound : store.Sound held) (different : other ≠ keyId) :
    store.Spared (store.dropRecent keyId).2 other := by
  rcases Option.eq_none_or_eq_some ((store.entryOf? keyId).bind Entry.recent) with
    idle | ⟨cell, used⟩
  · rw [dropRecent_of_not_isRecent idle]
    exact .refl store other
  · rw [dropRecent_of_isRecent used]
    obtain ⟨entry, found, recent⟩ := Option.bind_eq_some_iff.1 used
    obtain rfl := (sound.linked found).recent cell recent
    refine sound.spared_other different found ?_ fun cell apart => ?_
    · exact (entryOf?_adjust store keyId other _).trans (if_neg different)
    · exact (find?_closeRecent _ _ _).trans (if_neg apart)

theorem Sound.spared_attachRecent (sound : store.Sound held) (different : other ≠ keyId)
    (host : Host) : store.Spared (store.attachRecent host keyId).1 other := by
  cases found : store.entryOf? keyId with
  | none =>
      rw [attachRecent_of_absent found]
      exact .refl store other
  | some entry =>
      cases recent : entry.recent with
      | none =>
          rw [attachRecent_of_not_isRecent found recent]
          refine sound.spared_other different found ?_ fun cell apart => ?_
          · exact (entryOf?_adjust store keyId other _).trans (if_neg different)
          · exact (Numbered.find?_adjust _ _ _ _).trans (if_neg apart)
      | some cell =>
          obtain rfl := (sound.linked found).recent cell recent
          rw [attachRecent_of_isRecent found recent]
          refine sound.spared_other different found rfl fun cell apart => ?_
          exact (Numbered.find?_adjust _ _ _ _).trans (if_neg apart)

/-! ## The key that loses its recent handle -/

/-- A key lost its recent handle, and kept its strong handle, its cell, and what is in the cell. -/
structure Demoted (before after : Store Row) (keyId : Nat) (entry : Entry) : Prop where
  found : before.entryOf? keyId = some entry
  recent : entry.recent.isSome = true
  stripped : after.entryOf? keyId = some { entry with recent := none }
  cell : after.memory.cells.find? entry.cell =
    (before.memory.cells.find? entry.cell).map fun cell =>
      { cell with owners := cell.owners - 1, recentHolds := cell.recentHolds - 1 }

theorem Spared.demoted {first second third : Store Row} (spared : first.Spared second keyId)
    (demoted : second.Demoted third keyId entry) : first.Demoted third keyId entry := by
  have found := spared.entry.symm.trans demoted.found
  refine ⟨found, demoted.recent, demoted.stripped, ?_⟩
  rw [demoted.cell, spared.cell entry found]

theorem Demoted.spared {first second third : Store Row} (demoted : first.Demoted second keyId entry)
    (spared : second.Spared third keyId) : first.Demoted third keyId entry where
  found := demoted.found
  recent := demoted.recent
  stripped := spared.entry.trans demoted.stripped
  cell := (spared.cell _ demoted.stripped).trans demoted.cell

theorem Sound.demoted_dropRecent (sound : store.Sound held)
    (found : store.entryOf? keyId = some entry) (recent : entry.recent.isSome = true) :
    store.Demoted (store.dropRecent keyId).2 keyId entry := by
  obtain ⟨cell, handle⟩ := Option.isSome_iff_exists.1 recent
  obtain rfl := (sound.linked found).recent cell handle
  have used : (store.entryOf? keyId).bind Entry.recent = some entry.cell := by
    rw [found, Option.bind_some, handle]
  rw [dropRecent_of_isRecent used]
  refine ⟨found, recent, ?_, ?_⟩
  · refine (entryOf?_adjust store keyId keyId _).trans ?_
    rw [if_pos rfl, found, Option.map_some]
  · obtain ⟨cell, known, left⟩ := Backs.find?_closeRecent sound (mem_pairs found) handle
    rw [known]
    exact left

/-! ## What there is afterwards -/

/-- Tables in the cells of a key keep their rows. -/
def KeepsRows (before after : Store Row) (keyId : Nat) : Prop :=
  ∀ entry table, before.entryOf? keyId = some entry →
    before.memory.slot? entry.cell = some table → after.memory.slot? entry.cell = some table →
    after.memory.rows table = before.memory.rows table

theorem KeepsRows.map_rows (keeps : store.KeepsRows after keyId)
    (found : store.entryOf? keyId = some entry)
    (slot : after.memory.slot? entry.cell = store.memory.slot? entry.cell) :
    (store.memory.slot? entry.cell).map after.memory.rows =
      (store.memory.slot? entry.cell).map store.memory.rows := by
  refine Option.map_congr fun table filled => ?_
  exact keeps entry table found filled (slot.trans filled)

theorem Spared.standing? (spared : store.Spared after keyId) (keeps : store.KeepsRows after keyId) :
    after.standing? keyId = store.standing? keyId := by
  rw [Store.standing?, Store.standing?, spared.entry]
  cases found : store.entryOf? keyId with
  | none => rfl
  | some entry =>
      have cell := spared.cell entry found
      have slot : after.memory.slot? entry.cell = store.memory.slot? entry.cell := by
        rw [slot?, slot?, cell]
      rw [Option.map_some, Option.map_some, cell, slot, keeps.map_rows found slot]

theorem Demoted.standing? (demoted : store.Demoted after keyId entry)
    (keeps : store.KeepsRows after keyId) :
    ∃ standing, store.standing? keyId = some standing ∧ standing.entry = entry ∧
      after.standing? keyId = some standing.demoted := by
  have slot : after.memory.slot? entry.cell = store.memory.slot? entry.cell := by
    rw [slot?, slot?, demoted.cell]
    cases store.memory.cells.find? entry.cell <;> rfl
  refine ⟨_, by rw [Store.standing?, demoted.found, Option.map_some], rfl, ?_⟩
  rw [Store.standing?, demoted.stripped, Option.map_some, demoted.cell, slot,
    keeps.map_rows demoted.found slot]
  rfl

end Store

end TableCache
