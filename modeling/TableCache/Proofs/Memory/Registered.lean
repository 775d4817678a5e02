import Mathlib.Data.List.Sort
import TableCache.Proofs.Store.View

/-!
# Which cells are registered

A reclaim pass visits the registered cells, so a cell that was not registered would be kept from it,
and one that was registered twice would be visited twice. Neither happens: every cell that is there
is registered once. The registry may also have cells that are gone. Most operations only let cells
go (`Memory.Shrinks`).

Main statements:

1. `Shrinks.registered`: cells that go do no harm;
2. `Registered.enroll`: a new cell is registered;
3. `Registered.live_eq`: a listing shows the cells that are there, in order;
4. `Registered.lodge`, `Registered.reclaim`: the operations that change the registry.
-/

namespace TableCache

universe u

variable {Row : Type u}

/-- A registered cell comes last. Of the cells before it only those that are gone are dropped. -/
theorem Registry.cells_push (registry : Registry) (compact : Bool) (isAlive : Nat → Bool)
    (cell : Nat) :
    ∃ kept, (registry.push compact isAlive cell).cells = kept ++ [cell] ∧
      kept.Sublist registry.cells ∧
      ∀ other ∈ registry.cells, isAlive other = true → other ∈ kept := by
  unfold push
  cases compact with
  | false => exact ⟨registry.cells, rfl, .refl _, fun other member _ => member⟩
  | true =>
      refine ⟨registry.cells.filter isAlive, rfl, List.filter_sublist, fun other member alive => ?_⟩
      exact List.mem_filter.2 ⟨member, alive⟩

theorem Registry.cells_register (registry : Registry) (isAlive : Nat → Bool) (cell : Nat) :
    ∃ kept, (registry.register isAlive cell).cells = kept ++ [cell] ∧
      kept.Sublist registry.cells ∧
      ∀ other ∈ registry.cells, isAlive other = true → other ∈ kept :=
  registry.cells_push registry.isFull isAlive cell

namespace Memory

variable {memory before after : Memory Row}

/-- Every cell that is there is registered, and cells are registered in the order of their numbers,
so that none is registered twice. -/
structure Registered (memory : Memory Row) : Prop where
  ascending : memory.registry.cells.Pairwise (· < ·)
  known : ∀ cell ∈ memory.registry.cells, cell < memory.cells.next
  present : ∀ cell, memory.isPresent cell = true → cell ∈ memory.registry.cells

theorem Registered.distinct (registered : memory.Registered) : memory.registry.cells.Nodup :=
  registered.ascending.imp Nat.ne_of_lt

theorem registered_empty : (empty : Memory Row).Registered where
  ascending := .nil
  known := fun cell member => absurd member List.not_mem_nil
  present := fun cell there => by simp [empty, isPresent, Numbered.contains] at there

/-! ## Cells that go -/

/-- Some cells went, and nothing was registered. -/
structure Shrinks (before after : Memory Row) : Prop where
  registry : after.registry = before.registry
  next : after.cells.next = before.cells.next
  present : ∀ cell, after.isPresent cell = true → before.isPresent cell = true

theorem Shrinks.trans {first second third : Memory Row} (one : first.Shrinks second)
    (other : second.Shrinks third) : first.Shrinks third where
  registry := other.registry.trans one.registry
  next := other.next.trans one.next
  present := fun cell there => one.present cell (other.present cell there)

theorem Shrinks.registered (shrinks : before.Shrinks after) (registered : before.Registered) :
    after.Registered := by
  obtain ⟨registry, next, present⟩ := shrinks
  refine ⟨?_, ?_, fun cell there => ?_⟩
  · rw [registry]
    exact registered.ascending
  · rw [registry, next]
    exact registered.known
  · rw [registry]
    exact registered.present cell (present cell there)

theorem Shrinks.of_cells (cells : after.cells = before.cells)
    (registry : after.registry = before.registry) : before.Shrinks after where
  registry := registry
  next := by rw [cells]
  present := fun cell there => by rwa [isPresent, cells] at there

theorem shrinks_share (memory : Memory Row) (table : Nat) :
    memory.Shrinks (memory.share table) :=
  .of_cells rfl rfl

theorem shrinks_release (memory : Memory Row) (table : Nat) :
    memory.Shrinks (memory.release table) :=
  .of_cells rfl rfl

theorem shrinks_adjust (memory : Memory Row) (cell : Nat) (change : Cell → Cell) :
    memory.Shrinks { memory with cells := memory.cells.adjust cell change } where
  registry := rfl
  next := Numbered.next_adjust _ _ _
  present := fun other there => (isPresent_adjust memory cell other change).symm.trans there

theorem shrinks_erase (memory : Memory Row) (cell : Nat) :
    memory.Shrinks { memory with cells := memory.cells.erase cell } where
  registry := rfl
  next := Numbered.next_erase _ _
  present := by
    intro other there
    simp only [isPresent, Numbered.contains, Numbered.find?_erase] at there ⊢
    split at there
    next => cases there
    next => exact there

theorem shrinks_disown (memory : Memory Row) (cell : Nat) :
    memory.Shrinks (memory.disown cell) := by
  have erased := shrinks_erase memory cell
  unfold disown
  split
  next => exact .of_cells rfl rfl
  next found _ =>
    split
    next =>
      cases found.slot with
      | none => exact erased
      | some table => exact erased.trans (shrinks_release _ table)
    next => exact shrinks_adjust memory cell _

theorem shrinks_closeRecent (memory : Memory Row) (cell : Nat) :
    memory.Shrinks (memory.closeRecent cell) :=
  (shrinks_adjust memory cell _).trans (shrinks_disown _ cell)

theorem shrinks_discard (entry : Entry) (memory : Memory Row) :
    memory.Shrinks (entry.discard memory) := by
  obtain ⟨strong, recent, cell⟩ := entry
  refine Shrinks.trans ?_ (shrinks_disown _ cell)
  cases strong with
  | none =>
      cases recent with
      | none => exact .of_cells rfl rfl
      | some other => exact shrinks_closeRecent memory other
  | some table =>
      have unpinned := shrinks_release memory table
      cases recent with
      | none => exact unpinned
      | some other => exact unpinned.trans (shrinks_closeRecent _ other)

theorem shrinks_vacate (memory : Memory Row) (cell table : Nat) :
    memory.Shrinks (memory.vacate cell table) :=
  (shrinks_adjust memory cell _).trans (shrinks_release _ table)

theorem Clears.shrinks {tables : List Nat} {clearances : List Clearance}
    (clears : Clears memory tables clearances after) : memory.Shrinks after := by
  induction clears with
  | nothing => exact .of_cells rfl rfl
  | more _ _ _ ih => exact (shrinks_vacate _ _ _).trans ih

/-! ## New cells and listings -/

theorem isPresent_newCell (memory : Memory Row) (keyId table tick other : Nat) :
    (memory.newCell keyId table tick).2.isPresent other = true ↔
      other = memory.cells.next ∨ memory.isPresent other = true := by
  simp only [newCell, isPresent, Numbered.contains, Numbered.find?_add]
  split <;> simp_all

/-- A new cell that is registered, dropping the cells that are gone first if `compact` says so. -/
def enlist (memory : Memory Row) (compact : Bool) (keyId table tick : Nat) : Memory Row :=
  let made := (memory.newCell keyId table tick).2
  { made with registry := memory.registry.push compact made.isPresent memory.cells.next }

/-- A new cell is registered, whether others are dropped before or not. -/
theorem Registered.enlist (registered : memory.Registered) (compact : Bool)
    (keyId table tick : Nat) : (memory.enlist compact keyId table tick).Registered := by
  obtain ⟨kept, cells, fewer, all⟩ := Registry.cells_push memory.registry compact
    (memory.newCell keyId table tick).2.isPresent memory.cells.next
  have listed : (memory.enlist compact keyId table tick).registry.cells =
      kept ++ [memory.cells.next] := cells
  have next : (memory.enlist compact keyId table tick).cells.next = memory.cells.next + 1 :=
    Numbered.next_add _ _
  have known := registered.known
  refine ⟨?_, fun cell member => ?_, fun cell there => ?_⟩
  · rw [listed, List.pairwise_append]
    refine ⟨registered.ascending.sublist fewer, List.pairwise_singleton _ _,
      fun old member new last => ?_⟩
    rw [List.mem_singleton.1 last]
    exact known old (fewer.subset member)
  · rw [next]
    rw [listed, List.mem_append, List.mem_singleton] at member
    rcases member with old | rfl
    · exact (known cell (fewer.subset old)).trans (Nat.lt_succ_self _)
    · exact Nat.lt_succ_self _
  · rw [listed, List.mem_append, List.mem_singleton]
    rcases (isPresent_newCell memory keyId table tick cell).1 there with same | old
    · exact .inr same
    · exact .inl (all cell (registered.present cell old) there)

theorem Registered.enroll (registered : memory.Registered) (keyId table tick : Nat) :
    ((memory.newCell keyId table tick).2.register memory.cells.next).Registered :=
  registered.enlist memory.registry.isFull keyId table tick

theorem Registered.lodge (registered : memory.Registered) (keyId : Nat) (rows : List Row)
    (birth use : Nat) : (memory.lodge keyId rows birth use).Registered := by
  have added : memory.Shrinks (memory.newTable rows).2 := .of_cells rfl rfl
  have shared := added.trans (shrinks_share _ memory.tables.next)
  have enrolled := (shared.registered registered).enroll keyId memory.tables.next birth
  exact (shrinks_adjust _ _ _).registered ((shrinks_share _ _).registered enrolled)

/-- A listing drops only cells that are gone. -/
theorem Registered.live (registered : memory.Registered) : memory.live.2.Registered where
  ascending := registered.ascending.filter _
  known := fun cell member => registered.known cell (List.mem_filter.1 member).1
  present := fun cell there => List.mem_filter.2 ⟨registered.present cell there, there⟩

/-- The listed cells are those that are there. -/
theorem Registered.mem_live (registered : memory.Registered) {cell : Nat} :
    cell ∈ memory.live.1 ↔ memory.isPresent cell = true := by
  refine List.mem_filter.trans (and_iff_right_of_imp fun there => ?_)
  exact registered.present cell there

/-- A listing shows the cells that are there, in the order in which they were registered. -/
theorem Registered.live_eq (registered : memory.Registered) :
    memory.live.1 = (List.range memory.cells.next).filter memory.isPresent := by
  have ascending : memory.live.1.Pairwise (· < ·) := registered.ascending.filter _
  refine ascending.eq_of_mem_iff (List.pairwise_lt_range.filter _) fun cell => ?_
  rw [registered.mem_live, List.mem_filter, List.mem_range]
  refine (and_iff_right_of_imp fun there => ?_).symm
  exact registered.known cell (registered.present cell there)

theorem Registered.reclaim (registered : memory.Registered) (pressure : Pressure) :
    (memory.reclaim pressure).memory.Registered := by
  obtain ⟨tables, clears⟩ := clears_reclaim memory pressure
  exact clears.shrinks.registered registered.live

end Memory

/-! ## Stores -/

namespace Store

open Memory

theorem registered_put {store : Store Row} (registered : store.memory.Registered) (host : Host)
    (keyId : Nat) (rows : List Row) : (store.put host keyId rows).2.1.memory.Registered := by
  have lodged := registered.lodge keyId rows host.clock (host.clock + 1)
  rw [put_eq]
  cases store.entryOf? keyId with
  | none => exact lodged
  | some replaced => exact (shrinks_discard replaced _).registered lodged

theorem shrinks_clearForReclaim (store : Store Row) (keyId : Nat) :
    store.memory.Shrinks (store.clearForReclaim keyId).2.memory := by
  unfold clearForReclaim
  split <;> exact .of_cells rfl rfl

theorem shrinks_invalidate (store : Store Row) (keyId : Nat) :
    store.memory.Shrinks (store.invalidate keyId).2.memory := by
  unfold invalidate
  split
  next => exact .of_cells rfl rfl
  next entry _ => exact shrinks_discard entry _

theorem shrinks_attachRecent (store : Store Row) (host : Host) (keyId : Nat) :
    store.memory.Shrinks (store.attachRecent host keyId).1.memory := by
  unfold attachRecent
  split
  next => exact .of_cells rfl rfl
  next entry _ => cases entry.recent <;> exact shrinks_adjust _ _ _

theorem shrinks_dropRecent (store : Store Row) (keyId : Nat) :
    store.memory.Shrinks (store.dropRecent keyId).2.memory := by
  unfold dropRecent
  split
  next => exact .of_cells rfl rfl
  next cell _ => exact shrinks_closeRecent _ cell

theorem shrinks_read (store : Store Row) (keyId : Nat) :
    store.memory.Shrinks (store.read keyId).2.memory := by
  unfold read
  split
  next => exact .of_cells rfl rfl
  next entry _ =>
    simp only [Memory.read]
    split <;> exact .of_cells rfl rfl

theorem shrinks_removeOrphans (keys : Keys) (posted : List Nat) (store : Store Row) :
    store.memory.Shrinks (removeOrphans keys posted store).2.memory := by
  induction posted generalizing store with
  | nil => exact .of_cells rfl rfl
  | cons first rest ih =>
      rw [removeOrphans]
      split
      next => exact (shrinks_invalidate store first).trans (ih _)
      next => exact ih store

end Store

end TableCache
