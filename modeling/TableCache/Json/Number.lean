import TableCache.Binary64
import TableCache.Json.Reader

/-!
# Numbers as they are kept

An integer is kept as it is if it fits sixty-four bits, with a sign or without. Any other number is
kept as one of the binary64 format: as many leading digits as fit a word are taken, and the power of
ten that is left over is applied to them.

Main definitions:

1. `Digits`, `Digits.real`: digits with a power of ten, and the number of the binary64 format;
2. `settleNumber`, `settle`: a number, and a value with all of its numbers, as they are kept.
-/

namespace TableCache.Json

/-- A number without its sign: a word, and a power of ten. -/
structure Digits where
  word : Nat
  power : Int
  deriving DecidableEq, Repr

namespace Digits

/-- Takes digits behind a word as long as it stays a word, and counts those that are left. -/
def take (word : Nat) : List Char → Nat × Nat
  | [] => (word, 0)
  | digit :: rest =>
      let longer := word * 10 + (digit.toNat - '0'.toNat)
      if longer < Word.limit then take longer rest else (word, (digit :: rest).length)

/-- The digits before the point. Each one that is left over counts as a power of ten. -/
def ofInteger (digits : List Char) : Digits :=
  let (word, left) := take 0 digits
  ⟨word, left⟩

/-- Adds digits behind the point. Those that are left over do not count. -/
def addFraction (number : Digits) (digits : List Char) : Digits :=
  let (word, left) := take number.word digits
  ⟨word, number.power - (digits.length - left : Nat)⟩

/-- Divides by powers of ten, the greatest of which is the greatest one of the format. Three of them
leave nothing of a word. -/
def divide (number : Binary64) : Nat → Nat → Binary64
  | 0, _ => .ofNat 0
  | steps + 1, power =>
      if power ≤ 308 then number.div (.ofNat (Nat.pow 10 power))
      else divide (number.div (.ofNat (Nat.pow 10 308))) steps (power - 308)

/-- The number of the binary64 format. -/
def real (number : Digits) : Binary64 :=
  let word := Binary64.ofNat number.word
  if 0 ≤ number.power then word.mul (.ofNat (Nat.pow 10 (Nat.min number.power.toNat 308)))
  else divide word 4 (-number.power).toNat

end Digits

/-- The exponent that is written, if there is one. -/
def exponentOf : List Char → Int
  | _ :: '-' :: digits => -((Text.number? 10 digits).getD 0 : Nat)
  | _ :: digits => ((Text.number? 10 (Text.dropPlus digits)).getD 0 : Nat)
  | [] => 0

/-- A number without its sign, as it is kept; the sign says which integers fit. -/
def settleDigits (isNegative : Bool) (chars : List Char) : Option String := do
  let (integer, rest) ← readInteger chars
  let (fraction, exponent) ← readFraction rest
  let digits := Digits.ofInteger integer
  if rest.isEmpty ∧ digits.power = 0 ∧
      (!isNegative ∨ (0 < digits.word ∧ digits.word ≤ Nat.pow 2 63)) then
    return toString digits.word
  else
    let digits := digits.addFraction fraction.tail
    return { digits with power := digits.power + exponentOf exponent }.real.decimal

/-- A number as it is kept. -/
def settleNumber (written : String) : String :=
  match written.toList with
  | '-' :: chars => ((settleDigits true chars).map ("-" ++ ·)).getD written
  | chars => (settleDigits false chars).getD written

mutual
/-- A value with all of its numbers as they are kept. -/
def settle : Json → Json
  | .number written => .number (settleNumber written)
  | .array elements => .array (settleElements elements)
  | .object members => .object (settleMembers members)
  | value => value

/-- Elements, each with its numbers as they are kept. -/
def settleElements : List Json → List Json
  | [] => []
  | first :: rest => settle first :: settleElements rest

/-- Members, each with its numbers as they are kept. -/
def settleMembers : List (String × Json) → List (String × Json)
  | [] => []
  | (name, value) :: rest => (name, settle value) :: settleMembers rest
end

example : settleNumber "-0" = "-0.0" ∧ settleNumber "-7" = "-7" := by decide +kernel

example : settleNumber "18446744073709551616" = "18446744073709551616.0" := by decide +kernel

end TableCache.Json
