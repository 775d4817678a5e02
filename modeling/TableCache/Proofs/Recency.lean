import TableCache.Recency

/-!
# The recency index keeps its two maps in step

`Recency.Sound` says that ticks and order are inverse to each other, that no tick is ahead of the
clock, and that the index is within its capacity. Uses and removals keep it so. What they do is said
of membership alone: who is in the index after a use, and who was pushed out by it.

Main statements:

1. `Sound.touch`, `Sound.remove`: uses and removals keep an index sound;
2. `contains_touch`, `contains_remove`: who is in the index afterwards;
3. `evicted_ne`, `contains_of_evicted`: the key pushed out was there, and is not the key used.
-/

namespace TableCache

universe u v

/-! ## Sizes and least keys of maps -/

namespace Assoc

variable {κ : Type u} {α : Type v} [DecidableEq κ]

theorem size_insert_of_contains {map : Assoc κ α} {key : κ} (known : map.contains key = true)
    (value : α) : (map.insert key value).size = map.size := by
  rw [size_eq_length_keys, keys_insert_of_contains known, size_eq_length_keys]

theorem size_insert_of_not_contains {map : Assoc κ α} {key : κ} (unknown : map.contains key = false)
    (value : α) : (map.insert key value).size = map.size + 1 := by
  rw [size_eq_length_keys, keys_insert_of_not_contains unknown, List.length_append,
    size_eq_length_keys]
  rfl

theorem size_erase_of_contains {map : Assoc κ α} {key : κ} (known : map.contains key = true) :
    (map.erase key).size + 1 = map.size := by
  have member := contains_iff_mem_keys.1 known
  have erased : (map.erase key).keys = map.keys.erase key := by
    have distinct : map.keys.Nodup := map.nodup
    rw [keys_erase, distinct.erase_eq_filter]
    exact List.filter_congr fun other _ => Bool.eq_iff_iff.2 (by simp)
  rw [size_eq_length_keys, erased, List.length_erase_of_mem member, size_eq_length_keys]
  have := List.length_pos_of_mem member
  omega

theorem exists_of_size_pos {map : Assoc κ α} (positive : 0 < map.size) :
    ∃ key value, map.find? key = some value := by
  obtain ⟨⟨key, value⟩, member⟩ := List.exists_mem_of_length_pos positive
  exact ⟨key, value, mem_pairs_iff.1 member⟩

theorem least_spec {pairs : List (Nat × α)} {pair : Nat × α} (first : least pairs = some pair) :
    pair ∈ pairs ∧ ∀ other ∈ pairs, pair.1 ≤ other.1 := by
  induction pairs generalizing pair with
  | nil => cases first
  | cons head tail ih =>
      rw [least] at first
      cases found : least tail with
      | none =>
          obtain rfl := Option.some.inj (found ▸ first)
          rw [least_eq_none_iff] at found
          simp [found]
      | some lower =>
          obtain ⟨member, bound⟩ := ih found
          rw [found] at first
          simp only at first
          split at first
          next lower =>
            obtain rfl := Option.some.inj first
            refine ⟨List.mem_cons_of_mem _ member, List.forall_mem_cons.2 ?_⟩
            exact ⟨Nat.le_of_lt lower, bound⟩
          next higher =>
            obtain rfl := Option.some.inj first
            refine ⟨List.mem_cons_self, List.forall_mem_cons.2 ⟨Nat.le_refl _, ?_⟩⟩
            intro other inTail
            exact Nat.le_trans (Nat.le_of_not_lt higher) (bound other inTail)

/-- The pair that is taken out is in the map and has the least key there. -/
theorem popMin?_spec {map remaining : Assoc Nat α} {key : Nat} {value : α}
    (taken : map.popMin? = some (key, value, remaining)) :
    map.find? key = some value ∧ remaining = map.erase key ∧
      ∀ other found, map.find? other = some found → key ≤ other := by
  obtain ⟨pair, first, same⟩ := Option.map_eq_some_iff.1 taken
  obtain ⟨rfl, rfl, rfl⟩ : pair.1 = key ∧ pair.2 = value ∧ map.erase pair.1 = remaining := by
    simpa using same
  obtain ⟨member, bound⟩ := least_spec first
  exact ⟨mem_pairs_iff.1 member, rfl, fun other found known =>
    bound (other, found) (mem_pairs_iff.2 known)⟩

end Assoc

/-! ## Sound indices -/

namespace Recency

/-- Ticks and order are inverse to each other, and no tick is ahead of the clock. -/
structure Paired (index : Recency) : Prop where
  inverse : ∀ key tick,
    index.ticks.find? key = some tick ↔ index.order.find? tick = some key
  bounded : ∀ key tick, index.ticks.find? key = some tick → tick ≤ index.clock

/-- An index that can hold a key and holds no more than it can. -/
structure Sound (index : Recency) : Prop extends Paired index where
  positive : 0 < index.capacity
  size_le : index.size ≤ index.capacity

theorem sound_ofCapacity {capacity : Nat} (positive : 0 < capacity) :
    (ofCapacity capacity).Sound where
  inverse := fun key tick => by simp [ofCapacity]
  bounded := fun key tick known => by simp [ofCapacity] at known
  positive := positive
  size_le := Nat.zero_le _

/-- An index after a use of a key, before any key is pushed out. -/
def advance (index : Recency) (key : Nat) : Recency :=
  { index with
    clock := index.clock + 1
    ticks := index.ticks.insert key (index.clock + 1)
    order :=
      (((index.ticks.find? key).map index.order.erase).getD index.order).insert (index.clock + 1)
        key }

/-- An index without a key and its tick. -/
def drop (index : Recency) (key tick : Nat) : Recency :=
  { index with ticks := index.ticks.erase key, order := index.order.erase tick }

variable {index : Recency} {key other : Nat}

theorem Paired.advance (paired : index.Paired) (key : Nat) : (index.advance key).Paired := by
  obtain ⟨inverse, bounded⟩ := paired
  have ahead : ∀ other, index.ticks.find? other ≠ some (index.clock + 1) := fun other known =>
    absurd (bounded other _ known) (Nat.not_succ_le_self _)
  refine ⟨fun other tick => ?_, fun other tick known => ?_⟩
  · simp only [Recency.advance, Assoc.find?_insert]
    cases known : index.ticks.find? key with
    | none =>
        simp only [Option.map_none, Option.getD_none]
        grind
    | some previous =>
        simp only [Option.map_some, Option.getD_some, Assoc.find?_erase]
        grind
  · simp only [Recency.advance, Assoc.find?_insert] at known ⊢
    split at known
    next => exact Nat.le_of_eq (Option.some.inj known).symm
    next => exact Nat.le_succ_of_le (bounded other tick known)

theorem Paired.drop (paired : index.Paired) {tick : Nat}
    (known : index.ticks.find? key = some tick) : (index.drop key tick).Paired := by
  obtain ⟨inverse, bounded⟩ := paired
  refine ⟨fun other last => ?_, fun other last found => ?_⟩
  · simp only [Recency.drop, Assoc.find?_erase]
    grind
  · simp only [Recency.drop, Assoc.find?_erase] at found ⊢
    split at found
    next => cases found
    next => exact bounded other last found

/-! ## Uses -/

theorem contains_iff : index.contains key = true ↔ ∃ tick, index.ticks.find? key = some tick :=
  Option.isSome_iff_exists

theorem contains_advance :
    (index.advance key).contains other = true ↔ other = key ∨ index.contains other = true := by
  simp only [contains, Assoc.contains, Recency.advance, Assoc.find?_insert]
  split <;> simp_all

theorem contains_drop {tick : Nat} :
    (index.drop key tick).contains other = true ↔ other ≠ key ∧ index.contains other = true := by
  simp only [contains, Assoc.contains, Recency.drop, Assoc.find?_erase]
  split <;> simp_all

theorem popMin?_advance_ne_none (index : Recency) (key : Nat) :
    (index.advance key).order.popMin? ≠ none := by
  intro taken
  have empty := Assoc.popMin?_eq_none_iff.1 taken
  have last : (index.advance key).order.find? (index.clock + 1) = some key := by
    rw [Recency.advance, Assoc.find?_insert_self]
  rw [← Assoc.mem_pairs_iff, empty] at last
  exact List.not_mem_nil last

/-- After a first use of a key, the pair with the least tick belongs to the other key whose last use
is longest ago. There is an older key, so the key used is not the one with the least tick. -/
theorem oldest_of_advance (sound : index.Sound) (unknown : index.ticks.find? key = none)
    (populated : 0 < index.ticks.size) {tick evicted : Nat} {remaining : Assoc Nat Nat}
    (taken : (index.advance key).order.popMin? = some (tick, evicted, remaining)) :
    remaining = (index.advance key).order.erase tick ∧ evicted ≠ key ∧
      index.ticks.find? evicted = some tick ∧
      ∀ other last, index.ticks.find? other = some last → tick ≤ last := by
  have advanced := sound.toPaired.advance key
  obtain ⟨first, rest, bound⟩ := Assoc.popMin?_spec taken
  have oldest : ∀ other last, index.ticks.find? other = some last → tick ≤ last := by
    intro other last found
    refine bound last other ((advanced.inverse other last).1 ?_)
    have different : other ≠ key := by
      rintro rfl
      rw [unknown] at found
      cases found
    rw [Recency.advance, Assoc.find?_insert, if_neg different]
    exact found
  have found := (advanced.inverse evicted tick).2 first
  have different : evicted ≠ key := by
    rintro rfl
    rw [Recency.advance, Assoc.find?_insert_self] at found
    obtain ⟨older, last, there⟩ := Assoc.exists_of_size_pos populated
    have early := sound.bounded older last there
    have late := oldest older last there
    obtain rfl := Option.some.inj found
    omega
  rw [Recency.advance, Assoc.find?_insert, if_neg different] at found
  exact ⟨rest, different, found, oldest⟩

/-- A use of a key only renews the key, or lets it in, or lets it in and pushes out the key whose
last use is longest ago. -/
theorem touch_cases (sound : index.Sound) (key : Nat) :
    index.touch key = (none, index.advance key) ∧
        (index.contains key = true ∨ index.size < index.capacity) ∨
      ∃ evicted tick,
        index.touch key = (some evicted, (index.advance key).drop evicted tick) ∧
        index.contains key = false ∧ index.size = index.capacity ∧ evicted ≠ key ∧
        index.ticks.find? evicted = some tick ∧
        ∀ other last, index.ticks.find? other = some last → tick ≤ last := by
  have positive := sound.positive
  have size_le := sound.size_le
  unfold size at size_le
  unfold touch
  cases known : index.ticks.find? key with
  | some previous =>
      refine .inl ⟨?_, .inl (contains_iff.2 ⟨previous, known⟩)⟩
      simp [Recency.advance, known]
  | none =>
      have unknown : index.ticks.contains key = false := Assoc.contains_eq_false_iff.2 known
      have grown := Assoc.size_insert_of_not_contains unknown (index.clock + 1)
      have order : (index.advance key).order = index.order.insert (index.clock + 1) key := by
        simp [Recency.advance, known]
      simp only [← order]
      by_cases full : index.capacity < (index.ticks.insert key (index.clock + 1)).size
      · rw [if_pos full]
        cases taken : (index.advance key).order.popMin? with
        | none => exact absurd taken (popMin?_advance_ne_none index key)
        | some result =>
            obtain ⟨tick, evicted, remaining⟩ := result
            obtain ⟨rfl, different, found, oldest⟩ :=
              oldest_of_advance sound known (by omega) taken
            refine .inr ⟨evicted, tick, rfl, unknown, ?_, different, found, oldest⟩
            unfold size
            omega
      · rw [if_neg full]
        refine .inl ⟨rfl, .inr ?_⟩
        unfold size
        omega

theorem size_advance_of_contains (known : index.contains key = true) :
    (index.advance key).size = index.size :=
  Assoc.size_insert_of_contains known _

theorem size_advance_of_not_contains (unknown : index.contains key = false) :
    (index.advance key).size = index.size + 1 :=
  Assoc.size_insert_of_not_contains unknown _

theorem size_drop {tick : Nat} (known : index.contains key = true) :
    (index.drop key tick).size + 1 = index.size :=
  Assoc.size_erase_of_contains known

theorem capacity_touch (index : Recency) (key : Nat) :
    (index.touch key).2.capacity = index.capacity := by
  unfold touch
  split
  next => rfl
  next =>
    simp only
    split
    next => split <;> rfl
    next => rfl

theorem Sound.touch (sound : index.Sound) (key : Nat) : (index.touch key).2.Sound := by
  have positive := sound.positive
  have size_le := sound.size_le
  have advanced := sound.toPaired.advance key
  rcases touch_cases sound key with ⟨used, room⟩ | ⟨evicted, tick, used, unknown, full, different,
      found, -⟩
  · rw [used]
    refine ⟨advanced, positive, ?_⟩
    cases known : index.contains key with
    | true => exact Nat.le_trans (Nat.le_of_eq (size_advance_of_contains known)) size_le
    | false =>
        rw [size_advance_of_not_contains known]
        rcases room with present | room
        · rw [known] at present
          cases present
        · exact room
  · rw [used]
    have there : (index.advance key).ticks.find? evicted = some tick := by
      rw [Recency.advance, Assoc.find?_insert, if_neg different]
      exact found
    refine ⟨advanced.drop there, positive, ?_⟩
    have dropped : ((index.advance key).drop evicted tick).size + 1 = (index.advance key).size :=
      size_drop (contains_iff.2 ⟨tick, there⟩)
    rw [size_advance_of_not_contains unknown] at dropped
    show ((index.advance key).drop evicted tick).size ≤ index.capacity
    omega

/-- After a use the index has the key used and those it had, but for the one pushed out. -/
theorem contains_touch (sound : index.Sound) (key other : Nat) :
    (index.touch key).2.contains other = true ↔
      (index.touch key).1 ≠ some other ∧ (other = key ∨ index.contains other = true) := by
  rcases touch_cases sound key with ⟨used, -⟩ | ⟨evicted, tick, used, -⟩
  · rw [used, contains_advance]
    simp
  · rw [used, contains_drop, contains_advance, ne_comm]
    simp

theorem evicted_ne (sound : index.Sound) (key : Nat) : (index.touch key).1 ≠ some key := by
  rcases touch_cases sound key with ⟨used, -⟩ | ⟨evicted, tick, used, -, -, different, -⟩
  · simp [used]
  · simpa [used] using different

theorem contains_of_evicted (sound : index.Sound) {evicted : Nat}
    (pushed : (index.touch key).1 = some evicted) : index.contains evicted = true := by
  rcases touch_cases sound key with ⟨used, -⟩ | ⟨other, tick, used, -, -, -, found, -⟩
  · rw [used] at pushed
    cases pushed
  · rw [used] at pushed
    obtain rfl := Option.some.inj pushed
    exact contains_iff.2 ⟨tick, found⟩

/-! ## Removals -/

theorem capacity_remove (index : Recency) (key : Nat) :
    (index.remove key).2.capacity = index.capacity := by
  unfold remove
  split <;> rfl

theorem Sound.remove (sound : index.Sound) (key : Nat) : (index.remove key).2.Sound := by
  unfold Recency.remove
  split
  next tick known =>
    refine ⟨sound.toPaired.drop known, sound.positive, ?_⟩
    have dropped : (index.drop key tick).size + 1 = index.size :=
      size_drop (contains_iff.2 ⟨tick, known⟩)
    have size_le := sound.size_le
    show (index.drop key tick).size ≤ index.capacity
    omega
  next => exact sound

theorem contains_remove (index : Recency) (key other : Nat) :
    (index.remove key).2.contains other = true ↔ other ≠ key ∧ index.contains other = true := by
  unfold remove
  split
  next tick _ => exact contains_drop
  next unknown =>
    refine ⟨fun known => ⟨?_, known⟩, And.right⟩
    rintro rfl
    rw [contains, Assoc.contains, unknown] at known
    cases known

theorem size_remove (index : Recency) (key : Nat) :
    (index.remove key).2.size + (if index.contains key then 1 else 0) = index.size := by
  unfold remove
  split
  next tick known =>
    have there : index.contains key = true := contains_iff.2 ⟨tick, known⟩
    rw [if_pos there]
    exact size_drop there
  next unknown =>
    have absent : index.contains key = false := Assoc.contains_eq_false_iff.2 unknown
    rw [absent]
    rfl

end Recency

end TableCache
