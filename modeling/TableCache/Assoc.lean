/-!
# Finite maps as association lists

`Assoc κ α` holds pairs of a key and a value, each key at most once, in the order in which the keys
first arrived. What goes by a name, and what is ordered by ticks, is kept in such a map.

Main statements:

1. `find?_insert`, `find?_erase`, `find?_adjust`: what each update does to a look-up;
2. `keys_insert_of_contains`, `keys_insert_of_not_contains`, `keys_erase`, `keys_adjust`: what it
   does to the keys and their order;
3. `mem_pairs_iff`: a pair is in the list exactly when the look-up finds it;
4. `popMin?_eq_none_iff`: a map with a pair in it has a least key.
-/

namespace TableCache

universe u v

/-- A finite map from `κ` to `α`: its pairs in order of arrival, with no key twice. -/
structure Assoc (κ : Type u) (α : Type v) where
  pairs : List (κ × α)
  nodup : (pairs.map Prod.fst).Nodup

namespace Assoc

variable {κ : Type u} {α : Type v}

@[ext]
theorem ext {first second : Assoc κ α} (same : first.pairs = second.pairs) : first = second := by
  cases first
  cases second
  simp_all

instance [DecidableEq κ] [DecidableEq α] : DecidableEq (Assoc κ α) := fun first second =>
  decidable_of_iff (first.pairs = second.pairs) ⟨ext, fun same => same ▸ rfl⟩

instance [Repr κ] [Repr α] : Repr (Assoc κ α) := ⟨fun map _ => repr map.pairs⟩

/-- The map without pairs. -/
def empty : Assoc κ α := ⟨[], List.nodup_nil⟩

instance : Inhabited (Assoc κ α) := ⟨empty⟩

/-- The keys, in order of arrival. -/
def keys (map : Assoc κ α) : List κ := map.pairs.map Prod.fst

/-- The values, in the order of their keys. -/
def values (map : Assoc κ α) : List α := map.pairs.map Prod.snd

/-- How many keys the map has. -/
def size (map : Assoc κ α) : Nat := map.pairs.length

theorem size_eq_length_keys (map : Assoc κ α) : map.size = map.keys.length := by
  simp [size, keys]

variable [DecidableEq κ]

/-- The value under a key. -/
def find? (map : Assoc κ α) (key : κ) : Option α :=
  (map.pairs.find? fun pair => decide (pair.1 = key)).map Prod.snd

/-- Whether the key has a value. -/
def contains (map : Assoc κ α) (key : κ) : Bool := (map.find? key).isSome

/-- Applies `change` to the value under a key, if there is one. -/
def adjust (map : Assoc κ α) (key : κ) (change : α → α) : Assoc κ α where
  pairs := map.pairs.map fun pair => if pair.1 = key then (pair.1, change pair.2) else pair
  nodup := by
    have same : (Prod.fst ∘ fun pair : κ × α =>
        if pair.1 = key then (pair.1, change pair.2) else pair) = Prod.fst := by
      funext pair
      simp only [Function.comp]
      split <;> rfl
    rw [List.map_map, same]
    exact map.nodup

/-- Removes a key with its value. -/
def erase (map : Assoc κ α) (key : κ) : Assoc κ α where
  pairs := map.pairs.filter fun pair => decide (pair.1 ≠ key)
  nodup := List.Nodup.sublist (List.Sublist.map _ List.filter_sublist) map.nodup

theorem contains_iff_mem_keys {map : Assoc κ α} {key : κ} :
    map.contains key = true ↔ key ∈ map.keys := by
  simp [contains, find?, keys]

/-- Puts a value under a key: a known key keeps its place, a new one comes last. -/
def insert (map : Assoc κ α) (key : κ) (value : α) : Assoc κ α :=
  if known : map.contains key = true then map.adjust key fun _ => value
  else
    { pairs := map.pairs ++ [(key, value)]
      nodup := by
        rw [List.map_append, List.nodup_append]
        refine ⟨map.nodup, by simp, ?_⟩
        intro other present last equal
        simp only [List.map_cons, List.map_nil, List.mem_singleton] at equal
        subst equal
        intro equal
        subst equal
        exact known (contains_iff_mem_keys.2 present) }

/-! ## Look-ups -/

@[simp]
theorem find?_empty (key : κ) : (empty : Assoc κ α).find? key = none := rfl

theorem find?_adjust (map : Assoc κ α) (key other : κ) (change : α → α) :
    (map.adjust key change).find? other =
      if other = key then (map.find? other).map change else map.find? other := by
  obtain ⟨pairs, nodup⟩ := map
  simp only [find?, adjust]
  clear nodup
  induction pairs with
  | nil => simp
  | cons head tail ih =>
      rw [List.map_cons]
      by_cases here : head.1 = other
      · subst here
        by_cases same : head.1 = key <;> simp [same]
      · have passed : (if head.1 = key then (head.1, change head.2) else head).1 ≠ other := by
          split <;> exact here
        rw [List.find?_cons_of_neg (by simp [passed]), List.find?_cons_of_neg (by simp [here])]
        exact ih

theorem find?_erase (map : Assoc κ α) (key other : κ) :
    (map.erase key).find? other = if other = key then none else map.find? other := by
  obtain ⟨pairs, nodup⟩ := map
  simp only [find?, erase]
  clear nodup
  induction pairs with
  | nil => simp
  | cons head tail ih =>
      by_cases removed : head.1 = key
      · rw [List.filter_cons_of_neg (by simp [removed]), ih]
        split
        next => rfl
        next different =>
          rw [List.find?_cons_of_neg]
          simpa [removed] using Ne.symm different
      · rw [List.filter_cons_of_pos (by simp [removed])]
        by_cases here : head.1 = other
        · subst here
          simp [removed]
        · rw [List.find?_cons_of_neg (by simp [here]), List.find?_cons_of_neg (by simp [here])]
          exact ih

theorem find?_insert (map : Assoc κ α) (key other : κ) (value : α) :
    (map.insert key value).find? other = if other = key then some value else map.find? other := by
  unfold insert
  split
  next known =>
    rw [find?_adjust]
    split
    next same =>
      subst same
      obtain ⟨found, equal⟩ := Option.isSome_iff_exists.1 known
      simp [equal]
    next => rfl
  next unknown =>
    have absent : map.find? key = none := by simpa [contains] using unknown
    rw [find?] at absent ⊢
    rw [List.find?_append]
    split
    next same =>
      subst same
      rw [Option.map_eq_none_iff.1 absent]
      simp
    next different =>
      rw [List.find?_cons_of_neg (by simpa using Ne.symm different)]
      simp [find?]

@[simp]
theorem find?_insert_self (map : Assoc κ α) (key : κ) (value : α) :
    (map.insert key value).find? key = some value := by
  simp [find?_insert]

@[simp]
theorem find?_erase_self (map : Assoc κ α) (key : κ) : (map.erase key).find? key = none := by
  simp [find?_erase]

theorem mem_pairs_iff {map : Assoc κ α} {key : κ} {value : α} :
    (key, value) ∈ map.pairs ↔ map.find? key = some value := by
  obtain ⟨pairs, nodup⟩ := map
  simp only [find?]
  induction pairs with
  | nil => simp
  | cons head tail ih =>
      obtain ⟨first, second⟩ := head
      simp only [List.map_cons, List.nodup_cons] at nodup
      simp only [List.mem_cons, Prod.mk.injEq, List.find?_cons]
      by_cases same : first = key
      · subst same
        have absent : (first, value) ∉ tail := fun present =>
          nodup.1 (List.mem_map.2 ⟨_, present, rfl⟩)
        simp [absent, eq_comm]
      · have ih := ih nodup.2
        simp [same, ih, Ne.symm same]

theorem contains_eq_false_iff {map : Assoc κ α} {key : κ} :
    map.contains key = false ↔ map.find? key = none := by
  simp [contains]

/-! ## Keys -/

@[simp]
theorem keys_adjust (map : Assoc κ α) (key : κ) (change : α → α) :
    (map.adjust key change).keys = map.keys := by
  simp only [keys, adjust, List.map_map]
  refine List.map_congr_left fun pair _ => ?_
  simp only [Function.comp]
  split <;> rfl

theorem keys_insert_of_contains {map : Assoc κ α} {key : κ} {value : α}
    (known : map.contains key = true) : (map.insert key value).keys = map.keys := by
  simp [insert, known]

theorem keys_insert_of_not_contains {map : Assoc κ α} {key : κ} {value : α}
    (unknown : map.contains key = false) : (map.insert key value).keys = map.keys ++ [key] := by
  simp [insert, unknown, keys]

theorem keys_erase (map : Assoc κ α) (key : κ) :
    (map.erase key).keys = map.keys.filter fun other => decide (other ≠ key) := by
  simp only [keys, erase, List.filter_map]
  rfl

/-! ## Least key -/

/-- The pair with the least key among some pairs. -/
def least : List (Nat × α) → Option (Nat × α)
  | [] => none
  | head :: tail =>
      match least tail with
      | none => some head
      | some other => if other.1 < head.1 then some other else some head

/-- Takes out the pair with the least key. -/
def popMin? (map : Assoc Nat α) : Option (Nat × α × Assoc Nat α) :=
  (least map.pairs).map fun pair => (pair.1, pair.2, map.erase pair.1)

theorem least_eq_none_iff {pairs : List (Nat × α)} : least pairs = none ↔ pairs = [] := by
  cases pairs with
  | nil => simp [least]
  | cons head tail =>
      simp only [least]
      grind

theorem popMin?_eq_none_iff {map : Assoc Nat α} : map.popMin? = none ↔ map.pairs = [] := by
  simp [popMin?, least_eq_none_iff]

end Assoc

end TableCache
