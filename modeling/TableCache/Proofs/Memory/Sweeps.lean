import TableCache.Proofs.Store.Passes

/-!
# What a pass does to a memory

A pass is told here as a whole: which cells it clears, what it reports and gives notice of, and what
it leaves as it was. All that is needed of the memory is that no two cells have the same table and
that every cell is registered once. The number of handles on a cell and who holds which table do not
matter, so this goes for any use of cells, not only for the one that a store makes of them.

Main definitions:

1. `Memory.Due`: the cells that could be cleared, without and with a recent handle, in order;
2. `Pressure.portion`: the cells that a pressure asks for;
3. `Memory.Swept`: some cells gave up their tables, and all else is as it was.

Main statements:

1. `Due.unique`: no other lists of cells are due;
2. `Apart.clearEach_swept`: clearing a list of cells clears it from its front;
3. `Apart.reclaim_eq`: a pass clears the portion that its pressure asks for.
-/

namespace TableCache

universe u

/-- Of cells without and with a recent handle, those that a pressure asks for. -/
def Pressure.portion (weak recent : List Nat) : Pressure → List Nat
  | .weakOnly => weak
  | .full => weak ++ recent
  | .bounded count => (weak ++ recent).take count

namespace Memory

variable {Row : Type u} {memory before middle after : Memory Row} {cells : List Nat} {cell : Nat}

/-- The live cells that could be cleared now: those without a recent handle in the order of
registration, and those with one in the order of their last uses. -/
structure Due (memory : Memory Row) (weak recent : List Nat) : Prop where
  weak_eq : weak = memory.live.1.filter fun cell =>
    memory.isReclaimable cell && !memory.isRecentlyHeld cell
  recent_perm : recent.Perm (memory.live.1.filter fun cell =>
    memory.isReclaimable cell && memory.isRecentlyHeld cell)
  order : recent.Pairwise fun first second => memory.lastUsed first < memory.lastUsed second

/-- The number of rows of the table in a cell. -/
def rowCount (memory : Memory Row) (cell : Nat) : Nat :=
  ((memory.slot? cell).map fun table => (memory.rows table).length).getD 0

/-- The notice of a cell that is cleared now. -/
def noticeOf (memory : Memory Row) (cell : Nat) : Clearance :=
  ⟨memory.keyId cell, memory.rowCount cell, memory.isRecentlyHeld cell⟩

/-- Some cells gave up their tables, which are gone. Nothing else happened to any cell, to any
other table, or to what is registered and still there. -/
structure Swept (before after : Memory Row) (chosen : List Nat) : Prop where
  cells : ∀ cell, after.cells.find? cell = (before.cells.find? cell).map fun found =>
    if cell ∈ chosen then { found with slot := none } else found
  tables : ∀ table, after.tables.find? table =
    if ∃ cell ∈ chosen, before.slot? cell = some table then none else before.tables.find? table
  live : after.live.1 = before.live.1

/-- No two cells have the same table. -/
def Apart (memory : Memory Row) : Prop :=
  ∀ first second table, memory.slot? first = some table → memory.slot? second = some table →
    first = second

/-! ## What a sweep leaves -/

theorem noticeOf_eq {table : Nat} (filled : memory.slot? cell = some table) :
    memory.noticeOf cell = memory.notice cell table := by
  rw [noticeOf, rowCount, filled]
  rfl

namespace Swept

theorem refl (memory : Memory Row) : memory.Swept memory [] where
  cells := fun cell => by simp
  tables := fun table => by simp
  live := rfl

theorem slot? (swept : before.Swept after cells) (cell : Nat) :
    after.slot? cell = if cell ∈ cells then none else before.slot? cell := by
  rw [Memory.slot?, Memory.slot?, swept.cells, Option.bind_map]
  split
  next => cases before.cells.find? cell <;> rfl
  next => rfl

theorem trans {first rest : List Nat} (one : before.Swept middle first)
    (other : middle.Swept after rest) : before.Swept after (first ++ rest) where
  cells := fun cell => by
    rw [other.cells, one.cells, Option.map_map]
    refine congrArg (Option.map · _) (funext fun found => ?_)
    by_cases early : cell ∈ first <;> by_cases late : cell ∈ rest <;> simp [early, late]
  tables := fun table => by
    have split : (∃ cell ∈ first ++ rest, before.slot? cell = some table) ↔
        (∃ cell ∈ rest, middle.slot? cell = some table) ∨
          ∃ cell ∈ first, before.slot? cell = some table := by
      simp only [one.slot?, List.mem_append]
      grind
    rw [other.tables, one.tables, ← ite_or]
    simp only [split]
  live := other.live.trans one.live

/-- What a view of a cell shows that does not look at its table. -/
theorem map_find? {α : Type} {view : Cell → α}
    (blind : ∀ found : Cell, view { found with slot := none } = view found)
    (swept : before.Swept after cells) (cell : Nat) :
    (after.cells.find? cell).map view = (before.cells.find? cell).map view := by
  rw [swept.cells, Option.map_map]
  refine congrArg (Option.map · _) (funext fun found => ?_)
  by_cases chosen : cell ∈ cells <;> simp [chosen, blind]

theorem keyId (swept : before.Swept after cells) (cell : Nat) :
    after.keyId cell = before.keyId cell := by
  rw [Memory.keyId, Memory.keyId, swept.map_find? fun _ => rfl]

theorem isRecentlyHeld (swept : before.Swept after cells) (cell : Nat) :
    after.isRecentlyHeld cell = before.isRecentlyHeld cell := by
  rw [Memory.isRecentlyHeld, Memory.isRecentlyHeld, recentHolds, recentHolds,
    swept.map_find? fun _ => rfl]

theorem lastUsed_eq (swept : before.Swept after cells) (cell : Nat) :
    after.lastUsed cell = before.lastUsed cell := by
  rw [lastUsed, lastUsed, swept.map_find? fun _ => rfl]

theorem isPresent_eq (swept : before.Swept after cells) (cell : Nat) :
    after.isPresent cell = before.isPresent cell := by
  rw [isPresent, isPresent, Numbered.contains, Numbered.contains, swept.cells, Option.isSome_map]

theorem apart (swept : before.Swept after cells) (apart : before.Apart) : after.Apart := by
  intro first second table one other
  rw [swept.slot?] at one other
  split at one
  next => cases one
  next =>
    split at other
    next => cases other
    next => exact apart first second table one other

/-- The table of a cell that was not chosen is still there. -/
theorem find?_of_notMem (swept : before.Swept after cells) (apart : before.Apart)
    (spared : cell ∉ cells) {table : Nat} (filled : before.slot? cell = some table) :
    after.tables.find? table = before.tables.find? table := by
  refine (swept.tables table).trans (if_neg ?_)
  rintro ⟨chosen, member, same⟩
  exact spared (apart chosen cell table same filled ▸ member)

theorem isReclaimable (swept : before.Swept after cells) (apart : before.Apart)
    (spared : cell ∉ cells) : after.isReclaimable cell = before.isReclaimable cell := by
  rw [Memory.isReclaimable, Memory.isReclaimable, swept.slot?, if_neg spared]
  cases filled : before.slot? cell with
  | none => rfl
  | some table =>
      have same := swept.find?_of_notMem apart spared filled
      simp only [holders, same]
      rfl

theorem noticeOf (swept : before.Swept after cells) (apart : before.Apart)
    (spared : cell ∉ cells) : after.noticeOf cell = before.noticeOf cell := by
  rw [Memory.noticeOf, Memory.noticeOf, swept.keyId, swept.isRecentlyHeld, rowCount, rowCount,
    swept.slot?, if_neg spared]
  cases filled : before.slot? cell with
  | none => rfl
  | some table =>
      have same := swept.find?_of_notMem apart spared filled
      simp only [Option.map_some, rows, same]

end Swept

/-! ## Clearing cells -/

theorem mem_of_mem_within {budget : Option Nat} (member : cell ∈ within budget cells) :
    cell ∈ cells := by
  cases budget with
  | none => exact member
  | some count => exact List.mem_of_mem_take member

theorem swept_live (memory : Memory Row) : memory.Swept memory.live.2 [] where
  cells := fun cell => by simp [live]
  tables := fun table => by simp [live]
  live := by
    show List.filter _ (List.filter _ _) = List.filter _ _
    rw [List.filter_filter]
    exact List.filter_congr fun cell _ => Bool.and_self _

theorem swept_vacate {table : Nat} (filled : memory.slot? cell = some table)
    (alone : memory.holders table = 1) : memory.Swept (memory.vacate cell table) [cell] where
  cells := fun other => by
    rw [vacate, cells_release]
    simp only [Numbered.find?_adjust, List.mem_singleton]
    split
    next => rfl
    next => rw [Option.map_id']
  tables := fun other => by
    have gone : (memory.vacate cell table).tables = memory.tables.erase table :=
      if_pos (Nat.le_of_eq alone)
    simp only [gone, Numbered.find?_erase, List.mem_singleton, exists_eq_left, filled,
      Option.some.injEq, eq_comm (a := other)]
  live := by
    have shrinks := shrinks_vacate memory cell table
    have present : (memory.vacate cell table).isPresent = memory.isPresent := by
      funext other
      rw [isPresent, vacate, cells_release]
      exact isPresent_adjust memory cell other _
    show List.filter _ _ = List.filter _ _
    rw [present, shrinks.registry]

namespace Apart

/-- Of cells that can all be cleared the first ones are, as many as the budget allows. -/
theorem clearEach_swept (apart : memory.Apart) (distinct : cells.Nodup)
    (clearable : ∀ cell ∈ cells, memory.isReclaimable cell = true) (budget : Option Nat) :
    memory.Swept (clearEach cells budget memory).1 (within budget cells) ∧
      (clearEach cells budget memory).2.1 = budget.map (· - cells.length) ∧
      (clearEach cells budget memory).2.2 = (within budget cells).map memory.noticeOf := by
  induction cells generalizing memory budget with
  | nil =>
      have none : within budget [] = [] := by cases budget <;> simp [within]
      rw [none]
      exact ⟨.refl memory, by simp [clearEach], rfl⟩
  | cons cell rest ih =>
      obtain ⟨fresh, others⟩ := List.nodup_cons.1 distinct
      obtain ⟨first, later⟩ := List.forall_mem_cons.1 clearable
      rw [clearEach]
      split
      next spent =>
        subst spent
        exact ⟨.refl memory, by simp, rfl⟩
      next left =>
        obtain ⟨table, filled, alone, cleared⟩ := tryClear_of_isReclaimable first
        have vacated := swept_vacate filled alone
        have still : ∀ other ∈ rest, other ∉ [cell] := fun other member same =>
          fresh (List.mem_singleton.1 same ▸ member)
        obtain ⟨swept, remains, notices⟩ := ih (vacated.apart apart) others
          (fun other member => (vacated.isReclaimable apart (still other member)).trans
            (later other member)) (budget.map (· - 1))
        rw [cleared, within_cons left]
        refine ⟨vacated.trans swept, ?_, ?_⟩
        · rw [remains, Option.map_map, List.length_cons]
          exact congrArg (Option.map · budget) (funext fun count => by simp; omega)
        · simp only [notices, List.map_cons, noticeOf_eq filled]
          refine congrArg _ (List.map_congr_left fun other member => ?_)
          exact vacated.noticeOf apart (still other (mem_of_mem_within member))

end Apart

/-! ## Whole passes -/

/-- Only one list of cells without a recent handle is due, and only one of cells with one. -/
theorem Due.unique {weak recent weak' recent' : List Nat} (due : memory.Due weak recent)
    (other : memory.Due weak' recent') : weak = weak' ∧ recent = recent' := by
  refine ⟨due.weak_eq.trans other.weak_eq.symm, ?_⟩
  have same : recent.Perm recent' := due.recent_perm.trans other.recent_perm.symm
  exact same.eq_of_pairwise (fun _ _ _ _ less more => absurd less (Nat.lt_asymm more))
    due.order other.order

/-- What a pass may clear is due. -/
theorem due_candidates (apart : ∀ first second, memory.isPresent first = true →
      memory.isPresent second = true → memory.lastUsed first = memory.lastUsed second →
      first = second) (registered : memory.Registered) :
    memory.Due memory.weakCandidates memory.recentCandidates where
  weak_eq := by
    rw [weakCandidates, candidates, List.filter_filter]
    exact List.filter_congr fun cell _ => Bool.and_comm _ _
  recent_perm := by
    refine (perm_sortByUse memory _).trans (.of_eq ?_)
    rw [candidates, List.filter_filter]
    exact List.filter_congr fun cell _ => Bool.and_comm _ _
  order := by
    have order := (pairwise_sortByUse memory (memory.candidates.filter memory.isRecentlyHeld)).and
      registered.nodup_recentCandidates
    refine order.imp_of_mem fun {first second} here there least => ?_
    refine Nat.lt_of_le_of_ne least.1 fun same => least.2 ?_
    exact apart first second
      (isPresent_of_isReclaimable (registered.mem_recentCandidates.1 here).1)
      (isPresent_of_isReclaimable (registered.mem_recentCandidates.1 there).1) same

theorem mem_of_mem_portion {pressure : Pressure} {weak recent : List Nat}
    (member : cell ∈ pressure.portion weak recent) : cell ∈ weak ++ recent := by
  cases pressure with
  | weakOnly => exact List.mem_append_left recent member
  | bounded count => exact List.mem_of_mem_take member
  | full => exact member

theorem portion_eq_within (pressure : Pressure) (weak recent : List Nat) :
    pressure.portion weak recent =
      within pressure.budget weak ++
        if pressure = .weakOnly then []
        else within (pressure.budget.map (· - weak.length)) recent := by
  cases pressure with
  | weakOnly => simp [Pressure.portion, Pressure.budget, within]
  | bounded count => simp [Pressure.portion, Pressure.budget, within, List.take_append]
  | full => simp [Pressure.portion, Pressure.budget, within]

/-- What a pass does first: it clears cells without a recent handle. -/
theorem Apart.weakPass_swept (apart : memory.Apart) (registered : memory.Registered)
    (pressure : Pressure) :
    memory.Swept (memory.weakPass pressure).1 (within pressure.budget memory.weakCandidates) ∧
      (memory.weakPass pressure).2.1 = pressure.budget.map (· - memory.weakCandidates.length) ∧
      (memory.weakPass pressure).2.2 =
        (within pressure.budget memory.weakCandidates).map memory.noticeOf := by
  have listed := swept_live memory
  obtain ⟨swept, remains, notices⟩ := (listed.apart apart).clearEach_swept
    registered.nodup_weakCandidates
    (fun cell member => (registered.mem_weakCandidates.1 member).1) pressure.budget
  exact ⟨listed.trans swept, remains, notices⟩

theorem Registered.notMem_within (registered : memory.Registered)
    (recent : cell ∈ memory.recentCandidates) (budget : Option Nat) :
    cell ∉ within budget memory.weakCandidates := by
  intro early
  have held := (registered.mem_recentCandidates.1 recent).2
  rw [(registered.mem_weakCandidates.1 (mem_of_mem_within early)).2] at held
  cases held

/-- The cells with a recent handle can still be cleared then. -/
theorem Apart.recent_clearable (apart : memory.Apart) (registered : memory.Registered)
    (pressure : Pressure) :
    ∀ cell ∈ memory.recentCandidates, (memory.weakPass pressure).1.isReclaimable cell = true := by
  intro cell member
  obtain ⟨first, -⟩ := apart.weakPass_swept registered pressure
  exact (first.isReclaimable apart (registered.notMem_within member pressure.budget)).trans
    (registered.mem_recentCandidates.1 member).1

/-- What it does then: it leaves the cells with a recent handle as they were until it comes to
them. -/
theorem Apart.recentPass_swept (apart : memory.Apart) (registered : memory.Registered)
    (pressure : Pressure) :
    let recent := within (pressure.budget.map (· - memory.weakCandidates.length))
      memory.recentCandidates
    memory.Swept (memory.recentPass pressure).1
        (within pressure.budget memory.weakCandidates ++ recent) ∧
      (memory.recentPass pressure).2.2 = recent.map memory.noticeOf := by
  obtain ⟨first, remains, -⟩ := apart.weakPass_swept registered pressure
  obtain ⟨second, -, notices⟩ := (first.apart apart).clearEach_swept
    registered.nodup_recentCandidates (apart.recent_clearable registered pressure)
    (memory.weakPass pressure).2.1
  rw [remains] at second notices
  rw [recentPass, remains]
  refine ⟨first.trans second, notices.trans (List.map_congr_left fun cell member => ?_)⟩
  exact first.noticeOf apart (registered.notMem_within (mem_of_mem_within member) pressure.budget)

theorem Registered.countP_weak (registered : memory.Registered) (budget : Option Nat) :
    (within budget memory.weakCandidates).countP (fun cell => !memory.isRecentlyHeld cell) =
        (within budget memory.weakCandidates).length ∧
      (within budget memory.weakCandidates).countP memory.isRecentlyHeld = 0 := by
  have free : ∀ cell ∈ within budget memory.weakCandidates, memory.isRecentlyHeld cell = false :=
    fun cell member => (registered.mem_weakCandidates.1 (mem_of_mem_within member)).2
  exact ⟨List.countP_eq_length.2 fun cell member => by simp [free cell member],
    List.countP_eq_zero.2 fun cell member => by simp [free cell member]⟩

theorem Registered.countP_recent (registered : memory.Registered) (budget : Option Nat) :
    (within budget memory.recentCandidates).countP (fun cell => !memory.isRecentlyHeld cell) = 0 ∧
      (within budget memory.recentCandidates).countP memory.isRecentlyHeld =
        (within budget memory.recentCandidates).length := by
  have held : ∀ cell ∈ within budget memory.recentCandidates, memory.isRecentlyHeld cell = true :=
    fun cell member => (registered.mem_recentCandidates.1 (mem_of_mem_within member)).2
  exact ⟨List.countP_eq_zero.2 fun cell member => by simp [held cell member],
    List.countP_eq_length.2 held⟩

/-- A pass clears the portion that its pressure asks for. It reports how many cells without and with
a recent handle that were, and gives notice of each. -/
theorem Apart.reclaim_eq (apart : memory.Apart) (registered : memory.Registered)
    (pressure : Pressure) :
    let chosen := pressure.portion memory.weakCandidates memory.recentCandidates
    memory.Swept (memory.reclaim pressure).memory chosen ∧
      (memory.reclaim pressure).clearances = chosen.map memory.noticeOf ∧
      (memory.reclaim pressure).report =
        ⟨chosen.countP fun cell => !memory.isRecentlyHeld cell,
          chosen.countP memory.isRecentlyHeld⟩ := by
  intro chosen
  have portion : chosen = _ :=
    portion_eq_within pressure memory.weakCandidates memory.recentCandidates
  obtain ⟨weak, -, notices⟩ := apart.weakPass_swept registered pressure
  obtain ⟨both, others⟩ := apart.recentPass_swept registered pressure
  obtain ⟨counted, none⟩ := registered.countP_weak pressure.budget
  by_cases lenient : pressure = .weakOnly
  · rw [if_pos lenient, List.append_nil] at portion
    have pass : memory.reclaim pressure =
        ⟨(memory.weakPass pressure).1, ⟨(memory.weakPass pressure).2.2.length, 0⟩,
          (memory.weakPass pressure).2.2 ++ [], (memory.reclaim pressure).events⟩ := by
      simp only [reclaim, if_pos lenient]
      rfl
    rw [pass, portion, counted, none, List.append_nil, notices, List.length_map]
    exact ⟨weak, rfl, rfl⟩
  · rw [if_neg lenient] at portion
    obtain ⟨zero, all⟩ := registered.countP_recent
      (pressure.budget.map (· - memory.weakCandidates.length))
    have pass : memory.reclaim pressure =
        ⟨(memory.recentPass pressure).1,
          ⟨(memory.weakPass pressure).2.2.length, (memory.recentPass pressure).2.2.length⟩,
          (memory.weakPass pressure).2.2 ++ (memory.recentPass pressure).2.2,
          (memory.reclaim pressure).events⟩ := by
      simp only [reclaim, if_neg lenient]
      rfl
    rw [pass, portion, List.countP_append, List.countP_append, counted, none, zero, all, notices,
      others, List.length_map, List.length_map, List.map_append, Nat.add_zero, Nat.zero_add]
    exact ⟨both, rfl, rfl⟩

end Memory

end TableCache
