/-!
# Classes of characters as runs

A class of characters is written as the lengths of alternating runs over all code points from zero
on: first a run of characters in the class, then a run of characters outside, and so on.
-/

namespace TableCache.Text

/-- Whether a code point is in a class, when the runs start at `start` and the first of them is in
the class exactly if `inside`. -/
def inRun (point : Nat) : List Nat → Nat → Bool → Bool
  | [], _, inside => inside
  | length :: rest, start, inside =>
      if point < start + length then inside else inRun point rest (start + length) (!inside)

/-- Whether a character is in the class with some runs. -/
def inClass (runs : List Nat) (char : Char) : Bool := inRun char.toNat runs 0 true

end TableCache.Text
