import TableCache.Proofs.Eviction
import TableCache.Proofs.Fates

/-!
# Nothing is lost from the registry, and nothing is left in it

Cells are registered in the order of their numbers. The registry drops those that are gone now and
then, and when it does so depends on the room that it has; a listing shows none of that. It shows
the cells that still have an owner, each of them once, in order.

In an engine every entry owns a cell, and every cell is owned by an entry. So there are as many
tracked cells as there are entries, and a cell could be cleared if its entry does not pin its table
and nobody else holds it. An engine that was closed has no cell left.

Main definitions:

1. `Roster`: cells, the registry, and the handles that own cells;
2. `Roster.step`: handles come and go, and the registry is compacted at any time.

Main statements:

1. `Roster.live_after`: a listing shows the cells that have a handle, in order;
2. `Store.Sound.perm_live`: cells and entries are in one-to-one correspondence;
3. `Store.Sound.isReclaimable_cell`: when the table of an entry could be reclaimed;
4. `registry_is_exact`: all of this, of every run.
-/

namespace TableCache

universe u

variable {Row : Type u}

/-! ## Listings -/

namespace Memory

variable {memory : Memory Row}

/-- Where no cell is listed, a pass has nothing to report. -/
theorem report_of_nothing (nothing : memory.live.1 = []) (pressure : Pressure) :
    (memory.reclaim pressure).report = .zero := by
  have weak : memory.weakCandidates = [] := by
    rw [weakCandidates, candidates, nothing]
    rfl
  have recent : memory.recentCandidates = [] := by
    rw [recentCandidates, candidates, nothing]
    rfl
  unfold reclaim
  rw [weak, recent]
  simp only [clearEach]
  split <;> rfl

theorem Owned.isPresent_iff {weak recent : Multiset Nat} (owned : memory.Owned weak recent)
    (cell : Nat) : memory.isPresent cell = true ↔ cell ∈ weak ∨ cell ∈ recent := by
  constructor
  · intro there
    have positive := owned.kept cell there
    rw [owned.owners] at positive
    exact (Nat.add_pos_iff_pos_or_pos.1 positive).imp Multiset.count_pos.1 Multiset.count_pos.1
  · intro handled
    obtain ⟨found, there⟩ := owned.present handled
    rw [isPresent, Numbered.contains, there]
    rfl

end Memory

/-! ## Cells and the handles on them -/

/-- A memory, and the weak and the recent handles that own its cells. -/
structure Roster (Row : Type u) where
  memory : Memory Row
  weak : Multiset Nat
  recent : Multiset Nat

/-- What can happen to cells. -/
inductive RosterStep where
  /-- A cell is made and registered. Its maker has a weak handle on it. The registry drops the cells
  that are gone first, or does not, as `compact` has it; to register a cell is to do so when there
  is no room left. -/
  | enlist (compact : Registry → Bool) (keyId table tick : Nat)
  /-- Who has a weak handle opens a recent one. -/
  | openRecent (cell tick : Nat)
  | dropWeak (cell : Nat)
  | dropRecent (cell : Nat)
  | list

namespace Roster

/-- No cell and no handle. -/
def empty : Roster Row := ⟨.empty, 0, 0⟩

/-- One step. A handle that nobody has cannot be used or given up. -/
def step (roster : Roster Row) : RosterStep → Roster Row
  | .enlist compact keyId table tick =>
      { roster with
        memory := roster.memory.enlist (compact roster.memory.registry) keyId table tick
        weak := roster.memory.cells.next ::ₘ roster.weak }
  | .openRecent cell tick =>
      if cell ∈ roster.weak then
        { roster with
          memory := roster.memory.openRecent cell tick
          recent := cell ::ₘ roster.recent }
      else roster
  | .dropWeak cell =>
      if cell ∈ roster.weak then
        { roster with memory := roster.memory.disown cell, weak := roster.weak.erase cell }
      else roster
  | .dropRecent cell =>
      if cell ∈ roster.recent then
        { roster with
          memory := roster.memory.closeRecent cell
          recent := roster.recent.erase cell }
      else roster
  | .list => { roster with memory := roster.memory.live.2 }

/-- The handles are those that the memory counts, and every cell is registered. -/
structure Sound (roster : Roster Row) : Prop where
  owned : roster.memory.Owned roster.weak roster.recent
  registered : roster.memory.Registered

theorem sound_empty : (empty : Roster Row).Sound :=
  ⟨Memory.backs_empty.owned, Memory.registered_empty⟩

theorem Sound.step {roster : Roster Row} (sound : roster.Sound) (step : RosterStep) :
    (roster.step step).Sound := by
  cases step with
  | enlist compact keyId table tick =>
      exact ⟨(sound.owned.newCell keyId table tick).of_cells rfl,
        sound.registered.enlist _ keyId table tick⟩
  | openRecent cell tick =>
      rw [Roster.step]
      split
      next handled =>
        exact ⟨sound.owned.openRecent handled tick,
          (Memory.shrinks_adjust _ cell _).registered sound.registered⟩
      next => exact sound
  | dropWeak cell =>
      rw [Roster.step]
      split
      next handled =>
        have owned := sound.owned
        rw [← Multiset.cons_erase handled] at owned
        exact ⟨owned.disown, (Memory.shrinks_disown _ cell).registered sound.registered⟩
      next => exact sound
  | dropRecent cell =>
      rw [Roster.step]
      split
      next handled =>
        have owned := sound.owned
        rw [← Multiset.cons_erase handled] at owned
        exact ⟨owned.closeRecent, (Memory.shrinks_closeRecent _ cell).registered sound.registered⟩
      next => exact sound
  | list => exact ⟨sound.owned.of_cells rfl, sound.registered.live⟩

theorem sound_after (steps : List RosterStep) : (steps.foldl step (empty : Roster Row)).Sound := by
  induction steps using List.reverseRecOn with
  | nil => exact sound_empty
  | append_singleton steps last ih =>
      rw [List.foldl_append]
      exact ih.step last

/-- The listed cells are those that have a handle, in order. -/
theorem live_after (steps : List RosterStep) :
    let roster := steps.foldl step (empty : Roster Row)
    roster.memory.live.1 = (List.range roster.memory.cells.next).filter fun cell =>
      cell ∈ roster.weak ∨ cell ∈ roster.recent := by
  intro roster
  have sound : roster.Sound := sound_after steps
  rw [sound.registered.live_eq]
  refine List.filter_congr fun cell _ => ?_
  rw [Bool.eq_iff_iff, decide_eq_true_iff]
  exact sound.owned.isPresent_iff cell

end Roster

/-! ## Entries -/

namespace Store

variable {store : Store Row} {held : Multiset Nat} {keyId table : Nat} {entry : Entry}

/-- Every cell is the cell of one entry, and every entry has one. -/
theorem Sound.perm_live (sound : store.Sound held) (registered : store.memory.Registered) :
    store.memory.live.1.Perm (store.entries.values.map Entry.cell) := by
  have cells : Entry.weakHandles store.entries.pairs =
      (store.entries.values.map Entry.cell : List Nat) := by
    rw [Numbered.values_eq_map_toList, List.map_map]
    rfl
  have distinct : (store.entries.values.map Entry.cell).Nodup := by
    rw [← Multiset.coe_nodup, ← cells]
    exact Memory.Backs.apart sound
  have listed : store.memory.live.1.Nodup := registered.live.distinct
  refine (List.perm_ext_iff_of_nodup listed distinct).2 fun cell => ?_
  rw [registered.mem_live, (Memory.Backs.owned sound).isPresent_iff, ← Multiset.mem_coe, ← cells]
  refine or_iff_left_of_imp fun recent => ?_
  obtain ⟨⟨keyId, entry⟩, member, handle⟩ := (Multiset.mem_filterMap _ _).1 recent
  rw [(Memory.Backs.linked sound keyId entry member).recent cell handle]
  exact Multiset.mem_map_of_mem _ member

/-- Of the entries only the one with a table in its cell can pin it. -/
theorem Sound.mem_strongHandles (sound : store.Sound held)
    (found : store.entryOf? keyId = some entry)
    (filled : store.memory.slot? entry.cell = some table) :
    table ∈ Entry.strongHandles store.entries.pairs ↔ entry.strong.isSome = true := by
  have member : (keyId, entry) ∈ store.entries.pairs := Numbered.mem_pairs.2 found
  constructor
  · intro pinned
    obtain ⟨⟨other, second⟩, there, strong⟩ := (Multiset.mem_filterMap _ _).1 pinned
    have slot := (Memory.Backs.linked sound other second there).strong table strong
    have same := Memory.Backs.cell_inj sound there member
      (Memory.Backs.slot_inj sound slot filled)
    subst same
    have entries := Numbered.mem_pairs.1 there
    rw [show store.entries.find? other = some entry from found] at entries
    cases entries
    exact Option.isSome_iff_exists.2 ⟨table, strong⟩
  · intro pinned
    obtain ⟨other, strong⟩ := Option.isSome_iff_exists.1 pinned
    have slot := (Memory.Backs.linked sound keyId entry member).strong other strong
    rw [filled] at slot
    cases slot
    exact (Multiset.mem_filterMap _ _).2 ⟨(keyId, entry), member, strong⟩

/-- The table of an entry could be reclaimed if it was not reclaimed already, the entry does not pin
it, and no reader holds it. -/
theorem Sound.isReclaimable_cell (sound : store.Sound held)
    (found : store.entryOf? keyId = some entry) :
    store.memory.isReclaimable entry.cell =
      (entry.strong.isNone && (store.memory.slot? entry.cell).any fun table => table ∉ held) := by
  rw [Memory.isReclaimable]
  cases filled : store.memory.slot? entry.cell with
  | none => simp
  | some table =>
      have stored : (Memory.slots store.memory.cells).count table = 1 :=
        Multiset.count_eq_one_of_mem (Memory.Backs.single sound) (Memory.mem_slots_of_slot? filled)
      have holders := Memory.Backs.holding sound table
      rw [Multiset.count_add, Multiset.count_add, stored] at holders
      have pinned := (sound.mem_strongHandles found filled).not
      rw [← Multiset.count_eq_zero, Bool.not_eq_true, Option.isSome_eq_false_iff] at pinned
      have unheld := Multiset.count_eq_zero (a := table) (s := held)
      rw [Bool.eq_iff_iff, decide_eq_true_iff, Bool.and_eq_true, ← pinned, Option.any_some,
        decide_eq_true_iff, ← unheld, holders]
      omega

theorem Sound.countP_isReclaimable (sound : store.Sound held)
    (registered : store.memory.Registered) :
    store.memory.live.1.countP store.memory.isReclaimable =
      store.entries.values.countP fun entry =>
        entry.strong.isNone && (store.memory.slot? entry.cell).any fun table => table ∉ held := by
  rw [(sound.perm_live registered).countP_eq, List.countP_map]
  refine List.countP_congr fun entry member => ?_
  obtain ⟨keyId, found⟩ := Numbered.mem_values_iff.1 member
  rw [Function.comp_apply, sound.isReclaimable_cell found]

end Store

/-! ## Runs -/

namespace System

variable {acts : List (Act Row)} {number : Nat} {state : Hosted Row}

theorem result_tracked {system : System Row} {cache : Cache Row}
    (there : system.caches[number]? = some cache) :
    (system.step (.tracked number)).result = .ok (.number cache.memory.live.1.length) := by
  show (manage _ _ _).result = _
  unfold manage
  rw [there]
  rfl

theorem result_reclaimable {system : System Row} {cache : Cache Row}
    (there : system.caches[number]? = some cache) :
    (system.step (.reclaimable number)).result =
      .ok (.number (cache.memory.live.1.countP cache.memory.isReclaimable)) := by
  show (manage _ _ _).result = _
  unfold manage
  rw [there]
  rfl

theorem mem_heldFrom_iff {system : System Row} {table : Nat} :
    table ∈ system.heldFrom number ↔ ⟨number, table⟩ ∈ system.holds := by
  rw [heldFrom, Multiset.mem_coe, List.mem_map]
  constructor
  · rintro ⟨⟨engine, held⟩, member, rfl⟩
    obtain ⟨there, same⟩ := List.mem_filter.1 member
    obtain rfl := of_decide_eq_true same
    exact there
  · intro held
    exact ⟨⟨number, table⟩, List.mem_filter.2 ⟨held, decide_eq_true rfl⟩, rfl⟩

/-- An engine that was closed is not opened again. -/
theorem closed_after {memory : Memory Row}
    (closed : (after acts).caches[number]? = some (.closed memory)) (rest : List (Act Row)) :
    ∃ later, (after (acts ++ rest)).caches[number]? = some (.closed later) := by
  induction rest using List.reverseRecOn with
  | nil => exact ⟨memory, by rw [List.append_nil, closed]⟩
  | append_singleton rest last ih =>
      obtain ⟨earlier, before⟩ := ih
      rw [← List.append_assoc, after_concat]
      obtain ⟨next, there, turn⟩ := turn_of_step before last
      cases next with
      | running engine =>
          obtain ⟨_, same⟩ := turn.was_running rfl
          cases same
      | closed later => exact ⟨later, there⟩

/-- What is left of a closed engine lists no cell. -/
theorem live_of_closed {memory : Memory Row}
    (closed : (after acts).caches[number]? = some (.closed memory)) : memory.live.1 = [] := by
  refine List.eq_nil_iff_forall_not_mem.2 fun cell member => ?_
  obtain ⟨engine, same⟩ := running_of_present (sound_after acts) closed
    (List.mem_filter.1 member).2
  cases same

theorem closed_of_close (serving : (after acts).serving? number = some state) :
    (after (acts ++ [.close number])).caches[number]? = some (.closed state.close.1) := by
  obtain ⟨running, -⟩ := serving?_eq_some_iff.1 serving
  rw [after_concat, step, serving]
  exact (getElem?_setCache _ running _ number).trans (if_pos rfl)

/-- The registry neither loses a cell nor lists it twice, and it keeps none that is gone. Whenever
it drops cells that are gone, a listing shows the cells that have a handle, in the order in which
they were registered.

In an engine that is running the listed cells are those of the entries. So the memory manager tracks
as many cells as there are entries, those of reclaimed tables and of keys without owners included,
and of these it could clear the cells of tables that are still there, are not pinned, and are held
by nobody outside. After an engine was closed it tracks no cell, could clear none, and clears none
in any pass. -/
theorem registry_is_exact :
    (∀ steps : List RosterStep,
      let roster := steps.foldl Roster.step (Roster.empty : Roster Row)
      roster.memory.live.1 = (List.range roster.memory.cells.next).filter fun cell =>
        cell ∈ roster.weak ∨ cell ∈ roster.recent) ∧
    (∀ (acts : List (Act Row)) number state, (after acts).serving? number = some state →
      let store := state.engine.store
      store.memory.live.1 = (List.range store.memory.cells.next).filter store.memory.isPresent ∧
      store.memory.live.1.Perm (store.entries.values.map Entry.cell) ∧
      (∀ keyId entry, store.entryOf? keyId = some entry → store.memory.keyId entry.cell = keyId) ∧
      ((after acts).step (.tracked number)).result = .ok (.number store.entries.size) ∧
      ((after acts).step (.reclaimable number)).result =
        .ok (.number (store.entries.values.countP fun entry =>
          entry.strong.isNone && (store.memory.slot? entry.cell).any fun table =>
            ⟨number, table⟩ ∉ (after acts).holds))) ∧
    ∀ (acts : List (Act Row)) number state, (after acts).serving? number = some state →
      ∀ rest, let later := after (acts ++ [.close number] ++ rest)
        (later.step (.tracked number)).result = .ok (.number 0) ∧
        (later.step (.reclaimable number)).result = .ok (.number 0) ∧
        ∀ pressure, (later.step (.reclaim number pressure)).result = .ok (.report .zero) := by
  refine ⟨Roster.live_after, fun acts number state serving => ?_,
    fun acts number state serving rest => ?_⟩
  · obtain ⟨running, -⟩ := serving?_eq_some_iff.1 serving
    have sound := (engine_sound_after running).store
    have registered := registered_after running
    have listed := sound.perm_live registered
    refine ⟨registered.live_eq, listed, fun keyId entry found => (sound.linked found).keyId,
      ?_, ?_⟩
    · rw [result_tracked running]
      exact congrArg (Except.ok ∘ Response.number) (listed.length_eq.trans (List.length_map _))
    · have counted := sound.countP_isReclaimable registered
      simp only [mem_heldFrom_iff] at counted
      rw [result_reclaimable running]
      exact congrArg (Except.ok ∘ Response.number) counted
  · intro later
    obtain ⟨left, there⟩ := closed_after (closed_of_close serving) rest
    have empty := live_of_closed there
    refine ⟨?_, ?_, fun pressure => ?_⟩
    · rw [result_tracked there]
      exact congrArg (fun cells => Except.ok (Response.number (List.length cells))) empty
    · rw [result_reclaimable there]
      exact congrArg (fun cells => Except.ok (Response.number (List.countP _ cells))) empty
    · show (manage _ _ _).result = _
      unfold manage
      rw [there]
      exact congrArg (Except.ok ∘ Response.report) (Memory.report_of_nothing empty pressure)

/-- Of three cells the first one is gone when the third one is registered. The registry had kept it
until then, and drops it now. -/
def relisted : List RosterStep :=
  [.enlist Registry.isFull 1 0 1, .enlist Registry.isFull 2 1 2, .openRecent 1 3, .dropWeak 0,
    .dropWeak 1, .enlist (fun _ => true) 3 2 4]

/-- Two keys in an engine. The first one was put twice, and a reader still holds its first table. -/
def reheld : List (Act Nat) :=
  [.createKey "a", .createKey "b", .build ⟨1, 300⟩, .ask 0 (.put 1 [7, 8]), .ask 0 (.put 1 [5]),
    .ask 0 (.put 2 [9]), .ask 0 (.clear 1 true), .dropHold ⟨0, 1⟩]

/-- The second cell is owned by its recent handle alone, and listed before the third one. The engine
tracks two cells. The second table of the first key could be reclaimed, because the reader holds
another one. Nothing is left of that when the engine is closed. -/
theorem registry_is_exact_reheld :
    (relisted.foldl Roster.step (Roster.empty : Roster Nat)).memory.live.1 = [1, 2] ∧
    ((after reheld).step (.tracked 0)).result = .ok (.number 2) ∧
    ((after reheld).step (.reclaimable 0)).result = .ok (.number 1) ∧
    ((after (reheld ++ [.close 0] ++ [.dropHold ⟨0, 0⟩])).step (.tracked 0)).result =
      .ok (.number 0) := by
  obtain ⟨cells, engines, closed⟩ := @registry_is_exact Nat
  have serving : (after reheld).serving? 0 = some _ := rfl
  obtain ⟨-, -, -, tracked, reclaimable⟩ := engines reheld 0 _ serving
  exact ⟨(cells relisted).trans (by decide), tracked, reclaimable, (closed reheld 0 _ serving _).1⟩

end System

end TableCache
