import Mathlib.Data.List.Induction
import Mathlib.Data.Multiset.Count
import Mathlib.Data.Multiset.Filter
import TableCache.Numbered

/-!
# Numbered values as a bag of pairs

What is counted over all values of a `Numbered` does not depend on their order. So the values are
taken here as a bag of pairs of a number and its value, and every update is said as one pair put
into the bag or taken out of it.

Main statements:

1. `mem_pairs`: a pair is in the bag exactly when the look-up finds it;
2. `pairs_add`, `pairs_insert`, `pairs_adjust`, `pairs_eq_cons_erase`: one pair in, one pair out;
3. `values_eq_map_toList`: the values are the second parts of the pairs;
4. `size_adjust`, `size_erase`: how many there are after an update;
5. `filterMap_values`: going through the values is looking up every number that was given;
6. `find?_map`, `map_add`, `map_adjust`, `map_erase`: values that are all changed in one way.
-/

namespace TableCache.Numbered

universe u v w

variable {α : Type u}

/-- The values with their numbers, in the order of the numbers. -/
def toList (numbered : Numbered α) : List (Nat × α) :=
  numbered.places.toList.zipIdx.filterMap fun place => place.1.map fun value => (place.2, value)

/-- The values with their numbers, in no order. -/
def pairs (numbered : Numbered α) : Multiset (Nat × α) := numbered.toList

/-! ## Membership -/

theorem mem_toList {numbered : Numbered α} {number : Nat} {value : α} :
    (number, value) ∈ numbered.toList ↔ numbered.find? number = some value := by
  simp only [toList, List.mem_filterMap, Option.map_eq_some_iff, Prod.mk.injEq, Prod.exists,
    List.mem_zipIdx_iff_getElem?, Array.getElem?_toList, find?, Option.join_eq_some_iff]
  constructor
  · rintro ⟨place, index, found, _, rfl, rfl, rfl⟩
    exact found
  · intro found
    exact ⟨some value, number, found, value, rfl, rfl, rfl⟩

@[simp]
theorem mem_pairs {numbered : Numbered α} {number : Nat} {value : α} :
    (number, value) ∈ numbered.pairs ↔ numbered.find? number = some value :=
  mem_toList

theorem nodup_toList (numbered : Numbered α) : (numbered.toList.map Prod.fst).Nodup := by
  have numbers : numbered.toList.map Prod.fst =
      (numbered.places.toList.zipIdx.filter fun place => place.1.isSome).map Prod.snd := by
    unfold toList
    induction numbered.places.toList.zipIdx with
    | nil => rfl
    | cons head tail ih =>
        obtain ⟨place, index⟩ := head
        cases place with
        | none => simpa using ih
        | some value => simpa using ih
  rw [numbers]
  have distinct : (numbered.places.toList.zipIdx.map Prod.snd).Nodup := by
    rw [List.zipIdx_map_snd]
    exact List.nodup_range'
  exact distinct.sublist (List.filter_sublist.map _)

theorem nodup_pairs (numbered : Numbered α) : numbered.pairs.Nodup :=
  Multiset.coe_nodup.2 (List.Nodup.of_map _ numbered.nodup_toList)

theorem values_eq_map_toList (numbered : Numbered α) :
    numbered.values = numbered.toList.map Prod.snd := by
  unfold values toList
  rw [List.map_filterMap]
  conv_lhs => rw [← List.zipIdx_map_fst 0 numbered.places.toList]
  rw [List.filterMap_map]
  refine List.filterMap_congr ?_
  rintro ⟨place, index⟩ _
  cases place <;> rfl

/-! ## Updates -/

/-- What a change leaves as it is reads the same afterwards. -/
theorem map_find?_adjust {β : Type v} (numbered : Numbered α) (number other : Nat)
    (change : α → α) {view : α → β} (same : ∀ value, view (change value) = view value) :
    ((numbered.adjust number change).find? other).map view = (numbered.find? other).map view := by
  rw [find?_adjust]
  split
  next => rw [Option.map_map, show view ∘ change = view from funext same]
  next => rfl

theorem bind_find?_adjust {β : Type v} (numbered : Numbered α) (number other : Nat)
    (change : α → α) {view : α → Option β} (same : ∀ value, view (change value) = view value) :
    ((numbered.adjust number change).find? other).bind view =
      (numbered.find? other).bind view := by
  rw [find?_adjust]
  split
  next => rw [Option.bind_map, show view ∘ change = view from funext same]
  next => rfl

/-- Two bags of pairs are the same if they have the same pairs, because no pair is twice in one. -/
theorem pairs_eq_cons {numbered other : Numbered α} {number : Nat} {value : α}
    (absent : other.find? number = none)
    (same : ∀ place, numbered.find? place =
      if place = number then some value else other.find? place) :
    numbered.pairs = (number, value) ::ₘ other.pairs := by
  have fresh : (number, value) ∉ other.pairs := by simp [absent]
  refine (numbered.nodup_pairs.ext (Multiset.nodup_cons.2 ⟨fresh, other.nodup_pairs⟩)).2 ?_
  rintro ⟨place, found⟩
  rw [mem_pairs, same, Multiset.mem_cons, mem_pairs, Prod.mk.injEq]
  by_cases here : place = number
  · subst here
    simp [absent, eq_comm]
  · simp [here]

@[simp]
theorem pairs_empty : (empty : Numbered α).pairs = 0 := rfl

theorem pairs_add (numbered : Numbered α) (value : α) :
    (numbered.add value).pairs = (numbered.next, value) ::ₘ numbered.pairs :=
  pairs_eq_cons (find?_eq_none_of_next_le (Nat.le_refl _)) (find?_add numbered value)

theorem pairs_eq_cons_erase {numbered : Numbered α} {number : Nat} {value : α}
    (found : numbered.find? number = some value) :
    numbered.pairs = (number, value) ::ₘ (numbered.erase number).pairs := by
  refine pairs_eq_cons (find?_erase_self numbered number) fun place => ?_
  rw [find?_erase]
  by_cases here : place = number
  · simp [here, found]
  · simp [here]

theorem pairs_erase_of_absent {numbered : Numbered α} {number : Nat}
    (absent : numbered.find? number = none) :
    (numbered.erase number).pairs = numbered.pairs := by
  refine ((numbered.erase number).nodup_pairs.ext numbered.nodup_pairs).2 ?_
  rintro ⟨place, value⟩
  rw [mem_pairs, mem_pairs, find?_erase]
  by_cases here : place = number
  · simp [here, absent]
  · simp [here]

theorem pairs_insert (numbered : Numbered α) (number : Nat) (value : α) :
    (numbered.insert number value).pairs = (number, value) ::ₘ (numbered.erase number).pairs := by
  refine pairs_eq_cons (find?_erase_self numbered number) fun place => ?_
  rw [find?_insert, find?_erase]
  by_cases here : place = number <;> simp [here]

theorem pairs_adjust {numbered : Numbered α} {number : Nat} {value : α}
    (found : numbered.find? number = some value) (change : α → α) :
    (numbered.adjust number change).pairs =
      (number, change value) ::ₘ (numbered.erase number).pairs := by
  refine pairs_eq_cons (find?_erase_self numbered number) fun place => ?_
  rw [find?_adjust, find?_erase]
  by_cases here : place = number
  · simp [here, found]
  · simp [here]

theorem pairs_adjust_of_absent {numbered : Numbered α} {number : Nat}
    (absent : numbered.find? number = none) (change : α → α) :
    (numbered.adjust number change).pairs = numbered.pairs := by
  refine ((numbered.adjust number change).nodup_pairs.ext numbered.nodup_pairs).2 ?_
  rintro ⟨place, value⟩
  rw [mem_pairs, mem_pairs, find?_adjust]
  by_cases here : place = number
  · simp [here, absent]
  · simp [here]

/-! ## How many there are -/

theorem card_pairs (numbered : Numbered α) : numbered.pairs.card = numbered.size := by
  rw [size, values_eq_map_toList, List.length_map]
  rfl

theorem size_adjust (numbered : Numbered α) (number : Nat) (change : α → α) :
    (numbered.adjust number change).size = numbered.size := by
  rw [← card_pairs, ← card_pairs]
  cases found : numbered.find? number with
  | none => rw [pairs_adjust_of_absent found]
  | some value =>
      rw [pairs_adjust found, pairs_eq_cons_erase found, Multiset.card_cons, Multiset.card_cons]

theorem size_erase {numbered : Numbered α} {number : Nat} {value : α}
    (found : numbered.find? number = some value) :
    (numbered.erase number).size + 1 = numbered.size := by
  rw [← card_pairs, ← card_pairs, pairs_eq_cons_erase found, Multiset.card_cons]

/-! ## Look-ups of all numbers -/

theorem filterMap_range_getElem? {β : Type v} (places : List α) (view : α → Option β) :
    (List.range places.length).filterMap (fun number => places[number]?.bind view) =
      places.filterMap view := by
  induction places using List.reverseRecOn with
  | nil => rfl
  | append_singleton places last ih =>
      rw [List.length_append, List.length_singleton, List.range_succ, List.filterMap_append,
        List.filterMap_append, ← ih]
      refine congrArg₂ (· ++ ·) (List.filterMap_congr fun number member => ?_) ?_
      · rw [List.getElem?_append_left (List.mem_range.1 member)]
      · rw [List.filterMap_cons, List.filterMap_cons, List.getElem?_concat_length, Option.bind_some]
        cases view last <;> rfl

/-- Going through the values is looking up every number that was given. -/
theorem filterMap_values {β : Type v} (numbered : Numbered α) (view : α → Option β) :
    numbered.values.filterMap view =
      (List.range numbered.next).filterMap fun number => (numbered.find? number).bind view := by
  have places := filterMap_range_getElem? numbered.places.toList fun place => place.bind view
  rw [values, List.filterMap_filterMap]
  refine places.symm.trans (List.filterMap_congr fun number _ => ?_)
  rw [find?, Array.getElem?_toList]
  cases numbered.places[number]? <;> rfl

/-! ## Places -/

@[simp]
theorem next_add (numbered : Numbered α) (value : α) :
    (numbered.add value).next = numbered.next + 1 := by
  simp [add, next]

@[simp]
theorem next_adjust (numbered : Numbered α) (number : Nat) (change : α → α) :
    (numbered.adjust number change).next = numbered.next := by
  simp [adjust, next]

@[simp]
theorem next_erase (numbered : Numbered α) (number : Nat) :
    (numbered.erase number).next = numbered.next := by
  simp [erase, next]

theorem lt_next_of_find? {numbered : Numbered α} {number : Nat} {value : α}
    (found : numbered.find? number = some value) : number < numbered.next := by
  by_contra beyond
  rw [find?_eq_none_of_next_le (Nat.le_of_not_lt beyond)] at found
  cases found

/-! ## All values changed in one way -/

/-- Two collections with equally many places and the same look-ups are the same. -/
theorem eq_of_find? {first second : Numbered α} (next : first.next = second.next)
    (same : ∀ number, first.find? number = second.find? number) : first = second := by
  obtain ⟨one⟩ := first
  obtain ⟨other⟩ := second
  refine congrArg _ (Array.ext next fun number here there => ?_)
  have found := same number
  simp only [find?, Array.getElem?_eq_getElem here, Array.getElem?_eq_getElem there] at found
  simpa using found

/-- Every value changed in one way. -/
def map {β : Type v} (change : α → β) (numbered : Numbered α) : Numbered β :=
  ⟨numbered.places.map (Option.map change)⟩

variable {β : Type v}

@[simp]
theorem next_map (change : α → β) (numbered : Numbered α) :
    (numbered.map change).next = numbered.next := by
  simp [map, next]

@[simp]
theorem find?_map (change : α → β) (numbered : Numbered α) (number : Nat) :
    (numbered.map change).find? number = (numbered.find? number).map change := by
  simp only [map, find?, Array.getElem?_map]
  cases numbered.places[number]? <;> rfl

@[simp]
theorem contains_map (change : α → β) (numbered : Numbered α) (number : Nat) :
    (numbered.map change).contains number = numbered.contains number := by
  simp [contains]

theorem map_congr {change other : α → β} {numbered : Numbered α}
    (same : ∀ number value, numbered.find? number = some value → change value = other value) :
    numbered.map change = numbered.map other := by
  refine eq_of_find? (by simp) fun number => ?_
  rw [find?_map, find?_map]
  cases found : numbered.find? number with
  | none => rfl
  | some value => exact congrArg some (same number value found)

theorem map_empty (change : α → β) : (empty : Numbered α).map change = empty := by
  simp [map, empty, startingAt]

theorem map_map {γ : Type w} (change : α → β) (other : β → γ) (numbered : Numbered α) :
    (numbered.map change).map other = numbered.map (other ∘ change) :=
  eq_of_find? (by simp) fun number => by simp

@[simp]
theorem map_add (change : α → β) (numbered : Numbered α) (value : α) :
    (numbered.add value).map change = (numbered.map change).add (change value) := by
  refine eq_of_find? (by simp) fun number => ?_
  rw [find?_map, find?_add, find?_add, next_map, find?_map]
  split <;> rfl

theorem map_adjust {view : α → β} {change : α → α} {change' : β → β}
    (same : ∀ value, view (change value) = change' (view value)) (numbered : Numbered α)
    (number : Nat) :
    (numbered.adjust number change).map view = (numbered.map view).adjust number change' := by
  refine eq_of_find? (by simp) fun other => ?_
  rw [find?_map, find?_adjust, find?_adjust, find?_map]
  split
  next =>
    rw [Option.map_map, Option.map_map]
    exact congrArg (Option.map · _) (funext same)
  next => rfl

/-- What is done to one value may be lost on the way. -/
theorem map_adjust_of_same {view : α → β} {change : α → α}
    (same : ∀ value, view (change value) = view value) (numbered : Numbered α) (number : Nat) :
    (numbered.adjust number change).map view = numbered.map view :=
  eq_of_find? (by simp) fun other => by
    rw [find?_map, find?_map, map_find?_adjust numbered number other change same]

@[simp]
theorem map_erase (change : α → β) (numbered : Numbered α) (number : Nat) :
    (numbered.erase number).map change = (numbered.map change).erase number := by
  refine eq_of_find? (by simp) fun other => ?_
  rw [find?_map, find?_erase, find?_erase, find?_map]
  split <;> rfl

/-- What is done to one place and what empties another do not depend on their order. -/
theorem adjust_erase_of_ne {numbered : Numbered α} {number other : Nat} (different : number ≠ other)
    (change : α → α) :
    (numbered.adjust number change).erase other = (numbered.erase other).adjust number change := by
  refine eq_of_find? (by simp) fun place => ?_
  simp only [find?_adjust, find?_erase]
  grind

theorem adjust_erase_self (numbered : Numbered α) (number : Nat) (change : α → α) :
    (numbered.adjust number change).erase number = numbered.erase number := by
  refine eq_of_find? (by simp) fun place => ?_
  simp only [find?_adjust, find?_erase]
  grind

theorem erase_self (numbered : Numbered α) (number : Nat) :
    (numbered.erase number).erase number = numbered.erase number := by
  refine eq_of_find? (by simp) fun place => ?_
  simp only [find?_erase]
  grind

theorem erase_erase (numbered : Numbered α) (number other : Nat) :
    (numbered.erase number).erase other = (numbered.erase other).erase number := by
  refine eq_of_find? (by simp) fun place => ?_
  simp only [find?_erase]
  grind

end TableCache.Numbered
