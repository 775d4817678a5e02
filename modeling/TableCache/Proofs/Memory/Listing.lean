import TableCache.Proofs.Memory.Registered

/-!
# Registries that list the same cells

A registry may also have cells that are gone, and how many of those it has depends on when it was
listed last and on the room it had. Nothing else does: with another registry that lists the same
cells (`Memory.Lists`), everything that is done to a memory is done as before, and a reclaim pass
clears the same cells.

Main statements:

1. `discard_withRegistry`, `lodge_withRegistry`, ...: operations and other registries go together;
2. `Lists.shrinks`, `Lists.enroll`, `Lists.live`: the registries list the same cells afterwards;
3. `Lists.reclaim`: a reclaim pass.
-/

namespace TableCache

universe u

variable {Row : Type u}

namespace Memory

/-- A memory with another registry. -/
def withRegistry (memory : Memory Row) (registry : Registry) : Memory Row :=
  { memory with registry := registry }

/-- A registry that lists the cells of a memory that are listed anyway, in the same order. -/
structure Lists (memory : Memory Row) (registry : Registry) : Prop where
  known : ∀ cell ∈ registry.cells, cell < memory.cells.next
  same : registry.cells.filter memory.isPresent = memory.live.1

section

variable (memory : Memory Row) (registry : Registry)

/-! ## Operations -/

theorem slot?_withRegistry (cell : Nat) :
    (memory.withRegistry registry).slot? cell = memory.slot? cell := rfl

@[simp]
theorem release_withRegistry (table : Nat) :
    (memory.withRegistry registry).release table =
      (memory.release table).withRegistry registry := rfl

@[simp]
theorem disown_withRegistry (cell : Nat) :
    (memory.withRegistry registry).disown cell = (memory.disown cell).withRegistry registry := by
  unfold disown withRegistry
  dsimp only
  cases memory.cells.find? cell with
  | none => rfl
  | some found =>
      simp only
      split
      next => cases found.slot <;> rfl
      next => rfl

@[simp]
theorem closeRecent_withRegistry (cell : Nat) :
    (memory.withRegistry registry).closeRecent cell =
      (memory.closeRecent cell).withRegistry registry := by
  rw [closeRecent, closeRecent, ← disown_withRegistry]
  rfl

@[simp]
theorem discard_withRegistry (entry : Entry) :
    entry.discard (memory.withRegistry registry) =
      (entry.discard memory).withRegistry registry := by
  obtain ⟨strong, recent, cell⟩ := entry
  cases strong <;> cases recent <;> simp [Entry.discard]

@[simp]
theorem read_withRegistry (cell : Nat) :
    (memory.withRegistry registry).read cell =
      ((memory.read cell).1, (memory.read cell).2.withRegistry registry) := by
  unfold read
  rw [slot?_withRegistry]
  cases memory.slot? cell <;> rfl

theorem tryClear_withRegistry (cell : Nat) :
    (memory.withRegistry registry).tryClear cell =
      (memory.tryClear cell).map fun cleared => (cleared.1, cleared.2.withRegistry registry) := by
  unfold tryClear
  rw [slot?_withRegistry]
  cases memory.slot? cell with
  | none => rfl
  | some table =>
      show (if memory.holders table = 1 then _ else none) = _
      simp only
      split <;> rfl

end

theorem clearEach_withRegistry (cells : List Nat) (budget : Option Nat) (memory : Memory Row)
    (registry : Registry) :
    clearEach cells budget (memory.withRegistry registry) =
      ((clearEach cells budget memory).1.withRegistry registry,
        (clearEach cells budget memory).2) := by
  induction cells generalizing budget memory with
  | nil => rfl
  | cons cell rest ih =>
      rw [clearEach, clearEach, tryClear_withRegistry]
      split
      next => rfl
      next =>
        cases memory.tryClear cell with
        | none => exact ih budget memory
        | some cleared => simp only [Option.map_some, ih]

theorem sortByUse_withRegistry (memory : Memory Row) (registry : Registry) (cells : List Nat) :
    (memory.withRegistry registry).sortByUse cells = memory.sortByUse cells := by
  have inserted (cell : Nat) (rest : List Nat) :
      (memory.withRegistry registry).insertByUse cell rest = memory.insertByUse cell rest := by
    induction rest with
    | nil => rfl
    | cons head tail ih =>
        rw [insertByUse, insertByUse, ih]
        rfl
  induction cells with
  | nil => rfl
  | cons head tail ih => rw [sortByUse, sortByUse, ih, inserted]

/-- A new cell is there once it is lodged. -/
theorem isPresent_lodge (memory : Memory Row) (keyId : Nat) (rows : List Row) (birth use : Nat) :
    (memory.lodge keyId rows birth use).isPresent =
      (memory.newCell keyId memory.tables.next birth).2.isPresent :=
  funext fun cell => isPresent_adjust _ memory.cells.next cell _

/-- A new table is lodged as before, and its cell is registered in the other registry. -/
theorem lodge_withRegistry (memory : Memory Row) (registry : Registry) (keyId : Nat)
    (rows : List Row) (birth use : Nat) :
    (memory.withRegistry registry).lodge keyId rows birth use =
      (memory.lodge keyId rows birth use).withRegistry
        (registry.register (memory.lodge keyId rows birth use).isPresent memory.cells.next) := by
  rw [isPresent_lodge]
  rfl

theorem live_withRegistry (memory : Memory Row) (registry : Registry) :
    (memory.withRegistry registry).live.2 =
      memory.live.2.withRegistry (registry.prune memory.isPresent) := rfl

/-! ## Listings -/

variable {memory before after : Memory Row} {registry : Registry}

theorem Lists.live_eq (lists : memory.Lists registry) :
    (memory.withRegistry registry).live.1 = memory.live.1 := lists.same

theorem Registered.lists (registered : memory.Registered) : memory.Lists memory.registry :=
  ⟨registered.known, rfl⟩

/-- Cells that go are gone from either listing. -/
theorem Lists.shrinks (lists : before.Lists registry) (shrinks : before.Shrinks after) :
    after.Lists registry := by
  refine ⟨by rw [shrinks.next]; exact lists.known, ?_⟩
  have fewer : ∀ cells : List Nat,
      cells.filter after.isPresent = (cells.filter before.isPresent).filter after.isPresent := by
    intro cells
    rw [List.filter_filter]
    refine List.filter_congr fun cell _ => ?_
    cases there : after.isPresent cell with
    | false => rfl
    | true => rw [shrinks.present cell there]; rfl
  show registry.cells.filter after.isPresent = after.registry.cells.filter after.isPresent
  rw [fewer, lists.same, fewer after.registry.cells, shrinks.registry]
  rfl

/-- A listing only drops cells that are gone. -/
theorem Lists.live (lists : memory.Lists registry) :
    memory.live.2.Lists (registry.prune memory.isPresent) := by
  have again : ∀ cells : List Nat, (cells.filter memory.isPresent).filter memory.isPresent =
      cells.filter memory.isPresent := fun cells => by simp
  refine ⟨fun cell member => lists.known cell (List.mem_filter.1 member).1, ?_⟩
  exact (again _).trans (lists.same.trans (again _).symm)

/-- A cell that is registered comes last in the listing. -/
theorem filter_register (registry : Registry) (isAlive : Nat → Bool) {cell : Nat}
    (alive : isAlive cell = true) :
    (registry.register isAlive cell).cells.filter isAlive =
      registry.cells.filter isAlive ++ [cell] := by
  unfold Registry.register Registry.push
  cases registry.isFull with
  | false => simp [alive]
  | true => simp [Registry.prune, alive]

/-- A new cell comes last in either listing. -/
theorem Lists.lodge (lists : memory.Lists registry) (registered : memory.Registered) (keyId : Nat)
    (rows : List Row) (birth use : Nat) :
    (memory.lodge keyId rows birth use).Lists
      (registry.register (memory.lodge keyId rows birth use).isPresent memory.cells.next) := by
  have next : (memory.lodge keyId rows birth use).cells.next = memory.cells.next + 1 :=
    (Numbered.next_adjust _ _ _).trans (Numbered.next_add _ _)
  have own : (memory.lodge keyId rows birth use).registry =
      memory.registry.register (memory.lodge keyId rows birth use).isPresent memory.cells.next :=
    congrArg Memory.registry (lodge_withRegistry memory memory.registry keyId rows birth use)
  have there (cell : Nat) : (memory.lodge keyId rows birth use).isPresent cell = true ↔
      cell = memory.cells.next ∨ memory.isPresent cell = true := by
    rw [isPresent_lodge]
    exact isPresent_newCell memory keyId memory.tables.next birth cell
  generalize memory.lodge keyId rows birth use = lodged at next own there
  have old {cells : List Nat} (known : ∀ cell ∈ cells, cell < memory.cells.next) :
      cells.filter lodged.isPresent = cells.filter memory.isPresent := by
    refine List.filter_congr fun cell member => Bool.eq_iff_iff.2 ((there cell).trans ?_)
    exact or_iff_right (Nat.ne_of_lt (known cell member))
  have added := (there memory.cells.next).2 (.inl rfl)
  obtain ⟨kept, cells, fewer, -⟩ := Registry.cells_register registry lodged.isPresent
    memory.cells.next
  refine ⟨fun cell member => ?_, ?_⟩
  · rw [cells, List.mem_append, List.mem_singleton] at member
    rw [next]
    rcases member with earlier | rfl
    · exact Nat.lt_succ_of_lt (lists.known cell (fewer.subset earlier))
    · exact Nat.lt_succ_self _
  · show _ = lodged.registry.cells.filter lodged.isPresent
    rw [own, filter_register _ _ added, filter_register _ _ added, old lists.known,
      old registered.known, lists.same]
    rfl

/-- A pass clears the same cells. -/
theorem Lists.reclaim (lists : memory.Lists registry) (pressure : Pressure) :
    (memory.withRegistry registry).reclaim pressure =
        { memory.reclaim pressure with
          memory := (memory.reclaim pressure).memory.withRegistry
            (registry.prune memory.isPresent) } ∧
      (memory.reclaim pressure).memory.Lists (registry.prune memory.isPresent) := by
  have candidates : (memory.withRegistry registry).candidates = memory.candidates :=
    congrArg (List.filter memory.isReclaimable) lists.same
  have weak : (memory.withRegistry registry).weakCandidates = memory.weakCandidates :=
    congrArg (List.filter fun cell => !memory.isRecentlyHeld cell) candidates
  have recent : (memory.withRegistry registry).recentCandidates = memory.recentCandidates := by
    rw [recentCandidates, sortByUse_withRegistry, candidates]
    rfl
  obtain ⟨tables, clears⟩ := clears_reclaim memory pressure
  refine ⟨?_, lists.live.shrinks clears.shrinks⟩
  unfold Memory.reclaim
  rw [weak, recent, live_withRegistry]
  simp only [clearEach_withRegistry]
  split <;> rfl

end Memory

end TableCache
