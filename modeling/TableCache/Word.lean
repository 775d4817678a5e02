/-!
# Words of sixty-four bits

Counters, sizes and times are words: natural numbers below `Word.limit`. Three ways of adding occur.
Statistics refuse a sum that leaves the range, exported counters drop what is above it, and gauges
read a word as a signed number. Subtraction that stops at zero is the one of `Nat`.
-/

namespace TableCache.Word

/-- The number of words; every word is below it. -/
def limit : Nat := Nat.pow 2 64

/-- The greatest word. -/
def max : Nat := limit - 1

/-- The sum, if it is a word. -/
def add? (first second : Nat) : Option Nat :=
  if first + second < limit then some (first + second) else none

/-- The sum with everything above sixty-four bits dropped. -/
def wrapAdd (first second : Nat) : Nat := (first + second) % limit

/-- The word read as a signed number: the upper half stands for the negative ones. -/
def toSigned (word : Nat) : Int :=
  if word < Nat.pow 2 63 then (word : Int) else (word : Int) - (limit : Int)

theorem add?_eq_some_iff {first second sum : Nat} :
    add? first second = some sum ↔ first + second = sum ∧ sum < limit := by
  unfold add?
  split <;> simp <;> omega

theorem add?_eq_none_iff {first second : Nat} :
    add? first second = none ↔ limit ≤ first + second := by
  simp [add?]

theorem wrapAdd_lt (first second : Nat) : wrapAdd first second < limit :=
  Nat.mod_lt _ (by decide)

end TableCache.Word
