import Mathlib.Algebra.Order.Group.Multiset
import Mathlib.Data.Multiset.Filter
import Mathlib.Data.Multiset.Range
import TableCache.Proofs.Store.Orphans

/-!
# The tables in a store

The tables that the keys of a store show, as a bag. An operation that changes what one key shows
takes the table that the key showed out of the bag and puts the one that it shows now into it; a
reclaim pass takes the tables out that it clears.

Main statements:

1. `entries_occupancy`, `strong_occupancy`, `recent_occupancy_le`: what an occupancy counts of the
   tables in the bag;
2. `tables_exchange`: a change of what one key shows;
3. `Sound.tables_removeOrphans`, `Sound.tables_reclaimed`: the bag after a purge and after a pass.
-/

namespace TableCache

universe u

namespace Store

variable {Row : Type u} {store after : Store Row} {held : Multiset Nat} {keyId : Nat}

/-- The table that a key shows. -/
def table? (store : Store Row) (keyId : Nat) : Option Nat := (store.shown? keyId).map Shown.table

/-- The tables of all entries, without those that were reclaimed. -/
def tables (store : Store Row) : List Nat :=
  store.entries.values.filterMap fun entry => store.memory.slot? entry.cell

theorem table?_eq (store : Store Row) (keyId : Nat) :
    store.table? keyId =
      (store.entries.find? keyId).bind fun entry => store.memory.slot? entry.cell := by
  rw [table?, shown?, Option.map_bind]
  refine Option.bind_congr fun entry _ => ?_
  rw [Function.comp_apply, Option.map_map]
  exact Option.map_id'

theorem table?_congr {keyId other : Nat} (same : after.shown? keyId = store.shown? other) :
    after.table? keyId = store.table? other := by
  rw [table?, table?, same]

/-! ## The tables as a bag -/

/-- Numbers that no entry has add nothing. -/
theorem coe_tables {bound : Nat} (room : store.entries.next ≤ bound) :
    (store.tables : Multiset Nat) = (Multiset.range bound).filterMap store.table? := by
  induction bound, room using Nat.le_induction with
  | base =>
      rw [tables, Numbered.filterMap_values, funext store.table?_eq]
      rfl
  | succ bound room ih =>
      have absent : store.table? bound = none := by
        rw [table?_eq, Numbered.find?_eq_none_of_next_le room, Option.bind_none]
      rw [Multiset.range_succ, Multiset.filterMap_cons_none _ _ absent]
      exact ih

theorem mem_tables {table : Nat} :
    table ∈ store.tables ↔ ∃ keyId, store.table? keyId = some table := by
  rw [tables, List.mem_filterMap]
  constructor
  · rintro ⟨entry, member, filled⟩
    obtain ⟨keyId, found⟩ := Numbered.mem_values_iff.1 member
    exact ⟨keyId, by rw [table?_eq, found, Option.bind_some, filled]⟩
  · rintro ⟨keyId, shows⟩
    rw [table?_eq] at shows
    obtain ⟨entry, found, filled⟩ := Option.bind_eq_some_iff.1 shows
    exact ⟨entry, Numbered.mem_values_iff.2 ⟨keyId, found⟩, filled⟩

theorem coe_filterMap_cons (view : Nat → Option Nat) (keyId : Nat) (rest : Multiset Nat) :
    (keyId ::ₘ rest).filterMap view =
      ((view keyId).toList : Multiset Nat) + rest.filterMap view := by
  rw [Multiset.filterMap_cons]
  cases view keyId <;> rfl

/-- If two stores show the same under all keys but one, each has the tables of the other, apart from
what the two show under that key. Both bags go through the numbers below a bound that neither store
reaches. -/
theorem tables_exchange (same : ∀ other, other ≠ keyId → after.table? other = store.table? other) :
    ((after.table? keyId).toList : Multiset Nat) + store.tables =
      ((store.table? keyId).toList : Multiset Nat) + after.tables := by
  obtain ⟨bound, here, one, other⟩ : ∃ bound, keyId < bound ∧ store.entries.next ≤ bound ∧
      after.entries.next ≤ bound :=
    ⟨keyId + 1 + store.entries.next + after.entries.next, by omega, by omega, by omega⟩
  obtain ⟨rest, split⟩ := Multiset.exists_cons_of_mem (Multiset.mem_range.2 here)
  have distinct := Multiset.nodup_range bound
  rw [split, Multiset.nodup_cons] at distinct
  have others : rest.filterMap after.table? = rest.filterMap store.table? := by
    induction rest using Quotient.inductionOn with
    | h rest =>
        refine congrArg _ (List.filterMap_congr fun other member => same other ?_)
        rintro rfl
        exact distinct.1 member
  rw [coe_tables one, coe_tables other, split, coe_filterMap_cons, coe_filterMap_cons, others]
  exact add_left_comm _ _ _

/-- A store that shows the same has the same tables. -/
theorem tables_of_same (same : ∀ keyId, after.table? keyId = store.table? keyId) :
    (after.tables : Multiset Nat) = store.tables := by
  have exchanged := tables_exchange fun (other : Nat) (_ : other ≠ 0) => same other
  rw [same 0, add_right_inj] at exchanged
  exact exchanged.symm

/-- A table is shown under one key only. -/
theorem Sound.table?_inj (sound : store.Sound held) {first second table : Nat}
    (one : store.table? first = some table) (other : store.table? second = some table) :
    first = second := by
  rw [table?_eq] at one other
  obtain ⟨entry, found, filled⟩ := Option.bind_eq_some_iff.1 one
  obtain ⟨entry', found', filled'⟩ := Option.bind_eq_some_iff.1 other
  exact Memory.Backs.cell_inj sound (mem_pairs found) (mem_pairs found')
    (Memory.Backs.slot_inj sound filled filled')

theorem Sound.nodup_tables (sound : store.Sound held) : store.tables.Nodup := by
  rw [← Multiset.coe_nodup, coe_tables (Nat.le_refl _)]
  exact (Multiset.nodup_range _).filterMap _ fun first second table one other =>
    sound.table?_inj one other

/-! ## Occupancies -/

theorem entries_foldl (memory : Memory Row) (entries : List Entry) (occupancy : Occupancy) :
    (entries.foldl
      (fun occupancy entry => occupancy.add (entry.tier memory) entry.recent.isSome)
      occupancy).entries =
      occupancy.entries + (entries.filterMap fun entry => memory.slot? entry.cell).length := by
  induction entries generalizing occupancy with
  | nil => rfl
  | cons entry rest ih =>
      rw [List.foldl_cons, ih, List.filterMap_cons, Occupancy.add]
      cases filled : memory.slot? entry.cell with
      | none =>
          have absent : entry.tier memory = .absent := by simp [Entry.tier, Memory.isAlive, filled]
          rw [if_pos absent]
      | some table =>
          have present : entry.tier memory ≠ .absent := by
            simp only [Entry.tier, Memory.isAlive, filled]
            cases entry.strong <;> cases entry.recent <;> simp
          rw [if_neg present, List.length_cons]
          simp only
          omega

/-- An occupancy counts the entries that have a table. -/
theorem entries_occupancy (store : Store Row) :
    store.occupancy.entries = store.tables.length := by
  rw [occupancy, entries_foldl, tables]
  exact Nat.zero_add _

theorem strong_foldl {memory : Memory Row} {entries : List Entry}
    (unpinned : ∀ entry ∈ entries, entry.tier memory ≠ .strong) (occupancy : Occupancy) :
    (entries.foldl
      (fun occupancy entry => occupancy.add (entry.tier memory) entry.recent.isSome)
      occupancy).strong = occupancy.strong := by
  induction entries generalizing occupancy with
  | nil => rfl
  | cons entry rest ih =>
      obtain ⟨here, later⟩ := List.forall_mem_cons.1 unpinned
      rw [List.foldl_cons, ih later, Occupancy.add, if_neg here]
      split <;> rfl

/-- Where no key shows a pinned table an occupancy counts none. -/
theorem strong_occupancy
    (unpinned : ∀ keyId shown, store.shown? keyId = some shown → shown.pinned = false) :
    store.occupancy.strong = 0 := by
  refine strong_foldl (fun entry member strong => ?_) .zero
  obtain ⟨keyId, found⟩ := Numbered.mem_values_iff.1 member
  cases filled : store.memory.slot? entry.cell with
  | none => simp [Entry.tier, Memory.isAlive, filled] at strong
  | some table =>
      have there : store.shown? keyId = some ⟨table, entry.strong.isSome⟩ := by
        rw [shown?, entryOf?, found, Option.bind_some, filled]
        rfl
      have loose : entry.strong.isSome = false := unpinned keyId _ there
      simp only [Entry.tier, Memory.isAlive, filled, loose] at strong
      cases recent : entry.recent.isSome <;> simp [recent] at strong

theorem recent_foldl_le (memory : Memory Row) (entries : List Entry) (occupancy : Occupancy) :
    (entries.foldl
      (fun occupancy entry => occupancy.add (entry.tier memory) entry.recent.isSome)
      occupancy).recent ≤
      occupancy.recent + entries.countP fun entry => entry.recent.isSome := by
  induction entries generalizing occupancy with
  | nil => exact Nat.le_refl _
  | cons entry rest ih =>
      rw [List.foldl_cons, List.countP_cons]
      have one : (occupancy.add (entry.tier memory) entry.recent.isSome).recent ≤
          occupancy.recent + if entry.recent.isSome then 1 else 0 := by
        unfold Occupancy.add
        split
        next => exact Nat.le_add_right _ _
        next => exact Nat.le_refl _
      have rest := ih (occupancy.add (entry.tier memory) entry.recent.isSome)
      omega

/-- An occupancy counts no more recent handles than there are. -/
theorem recent_occupancy_le (store : Store Row) :
    store.occupancy.recent ≤ store.recentHandles :=
  (recent_foldl_le store.memory store.entries.values .zero).trans (Nat.zero_add _).le

/-! ## Operations -/

/-- An invalidation takes the table out that the key showed. -/
theorem Sound.tables_invalidate (sound : store.Sound held) (keyId : Nat) :
    (store.tables : Multiset Nat) =
      ((store.table? keyId).toList : Multiset Nat) + (store.invalidate keyId).2.tables := by
  have shown := sound.shown?_invalidate keyId
  have nothing : (store.invalidate keyId).2.table? keyId = none := by
    rw [table?, shown, if_pos rfl]
    rfl
  have exchanged :
      (((store.invalidate keyId).2.table? keyId).toList : Multiset Nat) + store.tables =
        ((store.table? keyId).toList : Multiset Nat) + (store.invalidate keyId).2.tables :=
    tables_exchange fun other different => table?_congr ((shown other).trans (if_neg different))
  rw [← exchanged, nothing]
  exact (zero_add _).symm

/-- Removing the entries of some keys takes the tables out that they showed. No key is removed
twice, so the others show what they showed before the first one went. -/
theorem Sound.tables_removeOrphans (sound : store.Sound held) (keys : Keys) (posted : List Nat) :
    (store.tables : Multiset Nat) =
      (((Store.removeOrphans keys posted store).1.filterMap store.table? : List Nat) :
          Multiset Nat) +
        (Store.removeOrphans keys posted store).2.tables := by
  induction posted generalizing store with
  | nil => exact (zero_add _).symm
  | cons first rest ih =>
      rw [Store.removeOrphans]
      split
      next =>
        have once := notMem_removed_invalidate keys rest store first
        have others : (Store.removeOrphans keys rest (store.invalidate first).2).1.filterMap
              (store.invalidate first).2.table? =
            (Store.removeOrphans keys rest (store.invalidate first).2).1.filterMap
              store.table? := by
          refine List.filterMap_congr fun keyId member => table?_congr ?_
          rw [sound.shown?_invalidate, if_neg]
          rintro rfl
          exact once member
        rw [sound.tables_invalidate first, ih (sound.invalidate first), others, List.filterMap_cons]
        cases store.table? first with
        | none => exact zero_add _
        | some table => rw [← add_assoc]; rfl
      next => exact ih sound

/-- A pass takes the tables out that it clears. -/
theorem Sound.tables_reclaimed (sound : store.Sound held) (pressure : Pressure) :
    (store.tables : Multiset Nat) =
      (store.cleared pressure : Multiset Nat) + (store.reclaimed pressure).tables := by
  have left : ∀ keyId, (store.reclaimed pressure).table? keyId =
      (store.table? keyId).filter fun table => table ∉ store.cleared pressure := by
    intro keyId
    rw [table?, sound.shown?_reclaimed, table?]
    cases store.shown? keyId with
    | none => rfl
    | some shown =>
        by_cases lost : shown.table ∈ store.cleared pressure <;> simp [Option.filter, lost]
  have distinct := (sound.reclaimed pressure).nodup_tables
  refine Multiset.coe_eq_coe.2 ((List.perm_ext_iff_of_nodup sound.nodup_tables
    ((sound.nodup_cleared pressure).append distinct fun table gone there => ?_)).2 fun table => ?_)
  · obtain ⟨keyId, shows⟩ := mem_tables.1 there
    rw [left] at shows
    exact of_decide_eq_true (Option.filter_eq_some_iff.1 shows).2 gone
  · rw [List.mem_append, mem_tables, mem_tables]
    constructor
    · rintro ⟨keyId, shows⟩
      by_cases lost : table ∈ store.cleared pressure
      · exact .inl lost
      · exact .inr ⟨keyId, by rw [left, shows, Option.filter_some, if_pos (decide_eq_true lost)]⟩
    · rintro (gone | ⟨keyId, shows⟩)
      · obtain ⟨keyId, shown, there, rfl⟩ := sound.shown_of_cleared gone
        exact ⟨keyId, by rw [table?, there, Option.map_some]⟩
      · rw [left] at shows
        exact ⟨keyId, (Option.filter_eq_some_iff.1 shows).1⟩

end Store

end TableCache
