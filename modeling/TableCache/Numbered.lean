/-!
# Numbered values

`Numbered α` holds values under numbers. There is a place for every number below `next`, and a place
is empty until a value is put there and after that value was erased. A number that was given once is
not given again by `add`. A look-up takes one step whatever the number of values.

Main statements:

1. `find?_add`, `find?_insert`, `find?_adjust`, `find?_erase`: what each update does to a look-up;
2. `find?_eq_none_of_next_le`: nothing is found from `next` on;
3. `mem_values_iff`: the values are those that a look-up finds.
-/

namespace TableCache

universe u

/-- Values by number: the place of a number holds its value, or nothing. -/
structure Numbered (α : Type u) where
  places : Array (Option α)
  deriving DecidableEq, Repr

namespace Numbered

variable {α : Type u}

/-- No value; the first number to be given is `first`. -/
def startingAt (first : Nat) : Numbered α := ⟨Array.replicate first none⟩

/-- No value; the first number to be given is zero. -/
def empty : Numbered α := startingAt 0

instance : Inhabited (Numbered α) := ⟨empty⟩

/-- The first number that has no place yet. -/
def next (numbered : Numbered α) : Nat := numbered.places.size

/-- The value under a number. -/
def find? (numbered : Numbered α) (number : Nat) : Option α := numbered.places[number]?.join

/-- Whether there is a value under a number. -/
def contains (numbered : Numbered α) (number : Nat) : Bool := (numbered.find? number).isSome

/-- The values, in the order of their numbers. -/
def values (numbered : Numbered α) : List α := numbered.places.toList.filterMap id

/-- How many values there are. -/
def size (numbered : Numbered α) : Nat := numbered.values.length

/-- Puts a value under the first number that has no place yet. -/
def add (numbered : Numbered α) (value : α) : Numbered α := ⟨numbered.places.push (some value)⟩

/-- Some more empty places. -/
def extend (numbered : Numbered α) : Nat → Numbered α
  | 0 => numbered
  | count + 1 => (⟨numbered.places.push none⟩ : Numbered α).extend count

/-- Puts a value under a number, in place of any earlier one. -/
def insert (numbered : Numbered α) (number : Nat) (value : α) : Numbered α :=
  ⟨(numbered.extend (number + 1 - numbered.next)).places.setIfInBounds number (some value)⟩

/-- Applies `change` to the value under a number, if there is one. -/
def adjust (numbered : Numbered α) (number : Nat) (change : α → α) : Numbered α :=
  ⟨numbered.places.modify number (Option.map change)⟩

/-- Removes the value under a number. -/
def erase (numbered : Numbered α) (number : Nat) : Numbered α :=
  ⟨numbered.places.setIfInBounds number none⟩

/-! ## Look-ups -/

@[simp]
theorem find?_startingAt (first number : Nat) :
    (startingAt first : Numbered α).find? number = none := by
  simp only [find?, startingAt, Array.getElem?_replicate]
  split <;> rfl

@[simp]
theorem find?_empty (number : Nat) : (empty : Numbered α).find? number = none :=
  find?_startingAt 0 number

theorem find?_eq_none_of_next_le {numbered : Numbered α} {number : Nat}
    (beyond : numbered.next ≤ number) : numbered.find? number = none := by
  simp [find?, Array.getElem?_eq_none beyond]

theorem find?_add (numbered : Numbered α) (value : α) (number : Nat) :
    (numbered.add value).find? number =
      if number = numbered.next then some value else numbered.find? number := by
  simp only [find?, add, next, Array.getElem?_push]
  by_cases last : number = numbered.places.size <;> simp [last]

@[simp]
theorem next_extend (numbered : Numbered α) (count : Nat) :
    (numbered.extend count).next = numbered.next + count := by
  induction count generalizing numbered with
  | zero => rfl
  | succ count ih =>
      rw [extend, ih]
      simp only [next, Array.size_push]
      omega

@[simp]
theorem find?_extend (numbered : Numbered α) (count number : Nat) :
    (numbered.extend count).find? number = numbered.find? number := by
  induction count generalizing numbered with
  | zero => rfl
  | succ count ih =>
      rw [extend, ih]
      simp only [find?, Array.getElem?_push]
      split
      next last => simp [last]
      next => rfl

theorem find?_insert (numbered : Numbered α) (number other : Nat) (value : α) :
    (numbered.insert number value).find? other =
      if other = number then some value else numbered.find? other := by
  have room : number < (numbered.extend (number + 1 - numbered.next)).places.size := by
    have size := next_extend numbered (number + 1 - numbered.next)
    rw [next] at size
    omega
  rw [← find?_extend numbered (number + 1 - numbered.next) other]
  by_cases same : other = number
  · subst same
    simp [find?, insert, room]
  · simp [find?, insert, Ne.symm same, same]

@[simp]
theorem find?_insert_self (numbered : Numbered α) (number : Nat) (value : α) :
    (numbered.insert number value).find? number = some value := by
  simp [find?_insert]

theorem find?_adjust (numbered : Numbered α) (number other : Nat) (change : α → α) :
    (numbered.adjust number change).find? other =
      if other = number then (numbered.find? other).map change else numbered.find? other := by
  simp only [find?, adjust, Array.getElem?_modify, eq_comm (a := number)]
  split
  next => cases numbered.places[other]? <;> rfl
  next => rfl

theorem find?_erase (numbered : Numbered α) (number other : Nat) :
    (numbered.erase number).find? other =
      if other = number then none else numbered.find? other := by
  simp only [find?, erase, Array.getElem?_setIfInBounds, eq_comm (a := number)]
  split
  next => split <;> rfl
  next => rfl

@[simp]
theorem find?_erase_self (numbered : Numbered α) (number : Nat) :
    (numbered.erase number).find? number = none := by
  simp [find?_erase]

/-! ## Values -/

theorem mem_values_iff {numbered : Numbered α} {value : α} :
    value ∈ numbered.values ↔ ∃ number, numbered.find? number = some value := by
  simp only [Numbered.values, find?, List.mem_filterMap, id_eq, exists_eq_right,
    Array.mem_toList_iff, Array.mem_iff_getElem?, Option.join_eq_some_iff]

end Numbered

end TableCache
