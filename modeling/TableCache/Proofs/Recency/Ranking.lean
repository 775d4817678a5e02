import Mathlib.Data.List.Nodup
import TableCache.History.Recency
import TableCache.Proofs.Recency.Members

/-!
# A recency index behaves as a list

A ranking is a list of distinct keys, oldest first. A use of one of them moves it to the end. A new
key is put at the end, and when the list has become too long its head goes. This is all that a
history of an index shows: `History.step` and `Ranked.step` answer alike, step after step, also when
they go back to a copy.

Main statements:

1. `Shows.touch`, `Shows.remove`: an index that shows a ranking, after a use and after a removal;
2. `History.Follows.step`: one step of a history and of a ranking;
3. `index_is_a_ranking`: whole histories, and what holds of every index in them.
-/

namespace TableCache.Recency

/-! ## Rankings -/

/-- Distinct keys in the order of their last uses, oldest first. -/
structure Ranking where
  capacity : Nat
  keys : List Nat
  nodup : keys.Nodup

namespace Ranking

/-- The ranking without keys. -/
def ofCapacity (capacity : Nat) : Ranking := ⟨capacity, [], .nil⟩

/-- The ranking without one key; the others keep their order. -/
def without (ranking : Ranking) (key : Nat) : Ranking where
  capacity := ranking.capacity
  keys := ranking.keys.filter fun other => other ≠ key
  nodup := ranking.nodup.filter _

/-- A key that is not in the ranking put at its end. -/
def push (ranking : Ranking) (key : Nat) (absent : key ∉ ranking.keys) : Ranking where
  capacity := ranking.capacity
  keys := ranking.keys ++ [key]
  nodup := List.nodup_append.2 ⟨ranking.nodup, List.nodup_singleton key, fun _ member _ last same =>
    absent (List.mem_singleton.1 last ▸ same ▸ member)⟩

/-- The ranking without its head. -/
def rest (ranking : Ranking) : Ranking where
  capacity := ranking.capacity
  keys := ranking.keys.tail
  nodup := ranking.nodup.sublist (List.tail_sublist _)

theorem keys_push (ranking : Ranking) {key : Nat} (absent : key ∉ ranking.keys) :
    (ranking.push key absent).keys = ranking.keys ++ [key] := rfl

theorem not_mem_without (ranking : Ranking) (key : Nat) : key ∉ (ranking.without key).keys :=
  fun member => of_decide_eq_true (List.mem_filter.1 member).2 rfl

/-- A key of the ranking moves to the end. A new key comes to the end, and the head of a list that
is then too long goes. -/
def touch (ranking : Ranking) (key : Nat) : Option Nat × Ranking :=
  if present : key ∈ ranking.keys then
    (none, (ranking.without key).push key (ranking.not_mem_without key))
  else
    let grown := ranking.push key present
    if ranking.capacity < grown.keys.length then (grown.keys.head?, grown.rest) else (none, grown)

end Ranking

/-- A ranking, and the copy kept last. -/
structure Ranked where
  ranking : Ranking
  saved : Option Ranking

/-- The start of a history of rankings. -/
def Ranked.create (capacity : Nat) : Ranked := ⟨.ofCapacity capacity, none⟩

/-- One step. -/
def Ranked.step (ranked : Ranked) : Step → Reply Ranked Answer
  | .touch key =>
      let (evicted, ranking) := ranked.ranking.touch key
      .ok { ranked with ranking := ranking } (.evicted evicted)
  | .remove key =>
      .ok { ranked with ranking := ranked.ranking.without key }
        (.flag (decide (key ∈ ranked.ranking.keys)))
  | .contains key => .ok ranked (.flag (decide (key ∈ ranked.ranking.keys)))
  | .size => .ok ranked (.number ranked.ranking.keys.length)
  | .isEmpty => .ok ranked (.flag ranked.ranking.keys.isEmpty)
  | .capacity => .ok ranked (.number ranked.ranking.capacity)
  | .save => .ok { ranked with saved := some ranked.ranking } .nothing
  | .restore =>
      match ranked.saved with
      | none => .ok ranked (.flag false)
      | some saved => .ok { ranked with ranking := saved } (.flag true)

/-! ## An index that shows a ranking -/

/-- A sound index whose keys are those of a ranking, in the same order. -/
structure Shows (index : Recency) (ranking : Ranking) : Prop where
  ordered : index.Ordered
  capacity : index.capacity = ranking.capacity
  members : index.members = ranking.keys

section Shows

variable {index : Recency} {ranking : Ranking}

theorem shows_ofCapacity {capacity : Nat} (positive : 0 < capacity) :
    (ofCapacity capacity).Shows (.ofCapacity capacity) :=
  ⟨ordered_ofCapacity positive, rfl, rfl⟩

theorem Shows.contains_eq (shows : index.Shows ranking) (key : Nat) :
    index.contains key = decide (key ∈ ranking.keys) := by
  rw [← shows.members, Bool.eq_iff_iff, decide_eq_true_iff, mem_members shows.ordered.toPaired]

theorem Shows.size_eq (shows : index.Shows ranking) : index.size = ranking.keys.length := by
  rw [← shows.members, shows.ordered.length_members]

theorem Shows.isEmpty_eq (shows : index.Shows ranking) : index.isEmpty = ranking.keys.isEmpty := by
  rw [isEmpty, shows.size_eq, Bool.eq_iff_iff, decide_eq_true_iff, List.isEmpty_iff,
    List.length_eq_zero_iff]

theorem Shows.touch (shows : index.Shows ranking) (key : Nat) :
    (index.touch key).1 = (ranking.touch key).1 ∧
      (index.touch key).2.Shows (ranking.touch key).2 := by
  have touched := shows.ordered.touch key
  have capacity : (index.touch key).2.capacity = ranking.capacity :=
    (capacity_touch index key).trans shows.capacity
  have members := shows.ordered.members_touch key
  rw [shows.members] at members
  rw [Ranking.touch]
  by_cases present : key ∈ ranking.keys
  · rw [dif_pos present]
    rcases members with ⟨nothing, members⟩ | ⟨evicted, rest, -, absent, -⟩
    · exact ⟨nothing, touched, capacity, members⟩
    · exact absurd present absent
  · rw [dif_neg present]
    have whole := filter_ne_of_notMem present
    have length : (ranking.push key present).keys.length = ranking.keys.length + 1 := by
      rw [Ranking.keys_push, List.length_append, List.length_singleton]
    rcases members with ⟨nothing, members⟩ | ⟨evicted, rest, pushed, -, full, first, members⟩
    · rw [whole] at members
      have room : ranking.keys.length + 1 ≤ ranking.capacity := by
        have small := touched.size_le
        rwa [← touched.length_members, members, List.length_append, List.length_singleton,
          capacity] at small
      rw [if_neg (by omega)]
      exact ⟨nothing, touched, capacity, members⟩
    · have many : ranking.capacity < (ranking.push key present).keys.length := by
        rw [length, ← shows.size_eq, full, shows.capacity]
        exact Nat.lt_succ_self _
      have grown : (ranking.push key present).keys = evicted :: (rest ++ [key]) := by
        rw [Ranking.keys_push, first, List.cons_append]
      rw [if_pos many]
      refine ⟨by rw [pushed, grown, List.head?_cons], touched, capacity, ?_⟩
      show (index.touch key).2.members = (ranking.push key present).keys.tail
      rw [members, grown, List.tail_cons]

theorem Shows.remove (shows : index.Shows ranking) (key : Nat) :
    (index.remove key).1 = decide (key ∈ ranking.keys) ∧
      (index.remove key).2.Shows (ranking.without key) := by
  refine ⟨?_, shows.ordered.remove key, (capacity_remove index key).trans shows.capacity, ?_⟩
  · rw [← shows.contains_eq, Recency.remove, contains, Assoc.contains]
    cases index.ticks.find? key <;> rfl
  · rw [members_remove shows.ordered.toPaired, shows.members]
    rfl

theorem map_members_of_rel {saved : Option Recency} {copy : Option Ranking}
    (related : Option.Rel Shows saved copy) : saved.map members = copy.map Ranking.keys := by
  cases related with
  | none => rfl
  | some shows => exact congrArg some shows.members

end Shows

/-! ## Histories -/

/-- A history whose index and copy show those of a history of rankings. -/
structure History.Follows (history : History) (ranked : Ranked) : Prop where
  index : history.index.Shows ranked.ranking
  saved : Option.Rel Shows history.saved ranked.saved

/-- One step answers alike, and leads to an index and a copy that show those of the rankings. -/
theorem History.Follows.step {history : History} {ranked : Ranked}
    (follows : history.Follows ranked) (step : Step) :
    (history.step step).result = (ranked.step step).result ∧
      (history.step step).state.Follows (ranked.step step).state := by
  obtain ⟨index, saved⟩ := follows
  cases step with
  | touch key =>
      obtain ⟨same, shows⟩ := index.touch key
      exact ⟨congrArg (fun evicted => Except.ok (Answer.evicted evicted)) same, shows, saved⟩
  | remove key =>
      obtain ⟨same, shows⟩ := index.remove key
      exact ⟨congrArg (fun present => Except.ok (Answer.flag present)) same, shows, saved⟩
  | contains key =>
      have same := index.contains_eq key
      exact ⟨congrArg (fun present => Except.ok (Answer.flag present)) same, index, saved⟩
  | size =>
      exact ⟨congrArg (fun size => Except.ok (Answer.number size)) index.size_eq, index, saved⟩
  | isEmpty =>
      have same := index.isEmpty_eq
      exact ⟨congrArg (fun empty => Except.ok (Answer.flag empty)) same, index, saved⟩
  | capacity =>
      have same := index.capacity
      exact ⟨congrArg (fun capacity => Except.ok (Answer.number capacity)) same, index, saved⟩
  | save => exact ⟨rfl, index, .some index⟩
  | restore =>
      obtain ⟨current, kept⟩ := history
      obtain ⟨ranking, copy⟩ := ranked
      cases saved with
      | none => exact ⟨rfl, index, .none⟩
      | some shows => exact ⟨rfl, shows, .some shows⟩

theorem History.Follows.replies {history : History} {ranked : Ranked}
    (follows : history.Follows ranked) (steps : List Step) :
    (replies History.step history steps).map Reply.result =
        (replies Ranked.step ranked steps).map Reply.result ∧
      (finalState History.step history steps).Follows (finalState Ranked.step ranked steps) := by
  induction steps generalizing history ranked with
  | nil => exact ⟨rfl, follows⟩
  | cons first rest ih =>
      obtain ⟨same, next⟩ := follows.step first
      obtain ⟨answers, last⟩ := ih next
      refine ⟨?_, last⟩
      rw [TableCache.replies, TableCache.replies, List.map_cons, List.map_cons, same, answers]

/-! ## The indices of a history -/

/-- The indices that a history can go on from. -/
def History.indices (history : History) : List Recency := history.index :: history.saved.toList

/-- A step brings at most one new index: the present one after a use or a removal. -/
theorem History.indices_step {history : History} {step : Step} {index : Recency}
    (member : index ∈ (history.step step).state.indices) :
    index ∈ history.indices ∨
      (∃ key, step = .touch key ∧ index = (history.index.touch key).2) ∨
      ∃ key, step = .remove key ∧ index = (history.index.remove key).2 := by
  obtain ⟨current, saved⟩ := history
  cases step with
  | touch key =>
      rcases List.mem_cons.1 member with new | old
      · exact .inr (.inl ⟨key, rfl, new⟩)
      · exact .inl (List.mem_cons_of_mem _ old)
  | remove key =>
      rcases List.mem_cons.1 member with new | old
      · exact .inr (.inr ⟨key, rfl, new⟩)
      · exact .inl (List.mem_cons_of_mem _ old)
  | contains | size | isEmpty | capacity => exact .inl member
  | save =>
      refine .inl ?_
      rcases List.mem_cons.1 member with current | copy
      · exact current ▸ List.mem_cons_self
      · exact List.mem_singleton.1 copy ▸ List.mem_cons_self
  | restore =>
      refine .inl ?_
      cases saved with
      | none => exact member
      | some copy =>
          rcases List.mem_cons.1 member with current | kept
          · exact current ▸ List.mem_cons_of_mem _ List.mem_cons_self
          · exact List.mem_cons_of_mem _ kept

/-- How many of some steps are uses. -/
def touches (steps : List Step) : Nat :=
  steps.countP fun
    | .touch _ => true
    | _ => false

/-- An ordered index of a capacity whose clock has not gone beyond a bound. -/
structure Within (capacity bound : Nat) (index : Recency) : Prop extends Ordered index where
  capacity_eq : index.capacity = capacity
  clock_le : index.clock ≤ bound

theorem clock_touch (index : Recency) (key : Nat) :
    (index.touch key).2.clock = index.clock + 1 := by
  unfold touch
  split
  next => rfl
  next =>
    simp only
    split
    next => split <;> rfl
    next => rfl

theorem clock_remove (index : Recency) (key : Nat) :
    (index.remove key).2.clock = index.clock := by
  unfold remove
  split <;> rfl

theorem History.within_step {history : History} {capacity bound : Nat}
    (within : ∀ index ∈ history.indices, index.Within capacity bound) (step : Step) :
    ∀ index ∈ (history.step step).state.indices,
      index.Within capacity (bound + touches [step]) := by
  have current := within history.index List.mem_cons_self
  intro index member
  rcases History.indices_step member with old | ⟨key, rfl, rfl⟩ | ⟨key, rfl, rfl⟩
  · obtain ⟨ordered, capacity_eq, clock_le⟩ := within index old
    exact ⟨ordered, capacity_eq, Nat.le_add_right_of_le clock_le⟩
  · refine ⟨current.toOrdered.touch key, (capacity_touch _ key).trans current.capacity_eq, ?_⟩
    rw [clock_touch]
    exact Nat.succ_le_succ current.clock_le
  · refine ⟨current.toOrdered.remove key, (capacity_remove _ key).trans current.capacity_eq, ?_⟩
    rw [clock_remove]
    exact current.clock_le

theorem History.within_finalState {history : History} {capacity bound : Nat}
    (within : ∀ index ∈ history.indices, index.Within capacity bound) (steps : List Step) :
    ∀ index ∈ (finalState History.step history steps).indices,
      index.Within capacity (bound + touches steps) := by
  induction steps generalizing history bound with
  | nil => exact within
  | cons first rest ih =>
      have counted : touches (first :: rest) = touches [first] + touches rest := by
        rw [touches, touches, touches, ← List.countP_append, List.singleton_append]
      rw [counted, ← Nat.add_assoc]
      exact ih (History.within_step within first)

/-! ## Whole histories -/

/-- A map into which something was just put has a least key. -/
theorem popMin?_insert_ne_none (order : Assoc Nat Nat) (tick key : Nat) :
    (order.insert tick key).popMin? ≠ none := by
  intro taken
  have there := Assoc.mem_pairs_iff.2 (Assoc.find?_insert_self order tick key)
  rw [Assoc.popMin?_eq_none_iff.1 taken] at there
  exact List.not_mem_nil there

/-- A history of an index that can hold a key answers at every step as a list of distinct keys,
oldest first, does, and holds the keys of that list at its end, as does its copy. In every index of
the history ticks and order are inverse to each other, no tick is ahead of the clock, and there are
no more keys than the capacity. The clock does not outrun the uses, so it stays a word when they do.
A use never pushes out its own key, and always finds a least tick when it has to push one out. -/
theorem index_is_a_ranking {capacity : Nat} (positive : 0 < capacity) (steps : List Step) :
    ∃ start, History.create capacity = .ok start ∧
      (replies History.step start steps).map Reply.result =
        (replies Ranked.step (.create capacity) steps).map Reply.result ∧
      (finalState History.step start steps).index.members =
        (finalState Ranked.step (.create capacity) steps).ranking.keys ∧
      (finalState History.step start steps).saved.map members =
        (finalState Ranked.step (.create capacity) steps).saved.map Ranking.keys ∧
      ∀ index ∈ (finalState History.step start steps).indices,
        (∀ key tick, index.ticks.find? key = some tick ↔ index.order.find? tick = some key) ∧
        (∀ key tick, index.ticks.find? key = some tick → tick ≤ index.clock) ∧
        index.clock ≤ touches steps ∧
        index.size ≤ capacity ∧
        ∀ key, (index.touch key).1 ≠ some key ∧
          (index.order.insert (index.clock + 1) key).popMin? ≠ none := by
  have started : History.create capacity = .ok ⟨.ofCapacity capacity, none⟩ :=
    if_neg (Nat.ne_of_gt positive)
  have shows := shows_ofCapacity positive
  have follows : History.Follows ⟨.ofCapacity capacity, none⟩ (.create capacity) := ⟨shows, .none⟩
  obtain ⟨answers, last⟩ := follows.replies steps
  have first : ∀ index ∈ (⟨.ofCapacity capacity, none⟩ : History).indices,
      index.Within capacity 0 := by
    intro index member
    rw [List.mem_singleton.1 member]
    exact ⟨shows.ordered, rfl, Nat.le_refl 0⟩
  refine ⟨_, started, answers, last.index.members, map_members_of_rel last.saved,
    fun index member => ?_⟩
  have within := History.within_finalState first steps index member
  have bound := within.clock_le
  rw [Nat.zero_add] at bound
  exact ⟨within.inverse, within.bounded, bound, within.capacity_eq ▸ within.size_le, fun key =>
    ⟨evicted_ne within.toSound key, popMin?_insert_ne_none _ _ key⟩⟩

/-- Going back to a copy brings its order back: after it the key used longest ago goes first. -/
theorem index_is_a_ranking_restored :
    (0 : Nat) < 2 ∧ ∃ start, History.create 2 = .ok start ∧
      (replies History.step start
        [.touch 1, .touch 2, .touch 1, .save, .touch 3, .remove 1, .touch 4, .restore, .touch 5,
          .size]).map Reply.result =
        [.ok (.evicted none), .ok (.evicted none), .ok (.evicted none), .ok .nothing,
          .ok (.evicted (some 2)), .ok (.flag true), .ok (.evicted none), .ok (.flag true),
          .ok (.evicted (some 2)), .ok (.number 2)] := by
  obtain ⟨start, created, answers, -⟩ := index_is_a_ranking (by decide : 0 < 2)
    [.touch 1, .touch 2, .touch 1, .save, .touch 3, .remove 1, .touch 4, .restore, .touch 5, .size]
  refine ⟨by decide, start, created, answers.trans ?_⟩
  rfl

end TableCache.Recency
