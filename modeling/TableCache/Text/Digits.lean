import TableCache.Word

/-!
# Digits

Natural numbers are read from digits of a base up to sixteen; letters of both cases are digits.
Numbers have at least one digit, and may have zeros in front.
-/

namespace TableCache.Text

/-- The value of a digit of base sixteen. -/
def digit? (char : Char) : Option Nat :=
  if '0' ≤ char ∧ char ≤ '9' then some (char.toNat - '0'.toNat)
  else if 'a' ≤ char ∧ char ≤ 'f' then some (char.toNat - 'a'.toNat + 10)
  else if 'A' ≤ char ∧ char ≤ 'F' then some (char.toNat - 'A'.toNat + 10)
  else none

/-- Takes one more digit of a base behind a number. -/
def shift? (base number : Nat) (char : Char) : Option Nat :=
  ((digit? char).filter (· < base)).map (number * base + ·)

/-- The number that digits of a base stand for, if there is at least one and nothing else. -/
def number? (base : Nat) (digits : List Char) : Option Nat :=
  if digits.isEmpty then none else digits.foldlM (shift? base) 0

/-- Drops a plus sign in front. -/
def dropPlus : List Char → List Char
  | '+' :: rest => rest
  | chars => chars

/-- The word that decimal digits stand for, with a plus sign in front or without. -/
def word? (text : String) : Option Nat :=
  (number? 10 (dropPlus text.toList)).filter (· < Word.limit)

example : number? 16 "1fF".toList = some 0x1ff := by decide

example : word? "+007" = some 7 ∧ word? "-1" = none ∧ word? "" = none := by decide

end TableCache.Text
