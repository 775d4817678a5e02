/-!
# Numbers of the binary64 format

Ratios are reported, exposed metrics are written, and records keep numbers as binary64 numbers. Only
numbers that are not negative and not above the greatest finite one occur here.

Main definitions:

1. `Binary64.round`: the number nearest to a quotient, a tie going to the even significand;
2. `Binary64.bits`, `Binary64.decimal`: its sixty-four bits, and its decimal digits;
3. `Binary64.shortest`: the shortest decimal integer that reads back as the number nearest to an
   integer.
-/

namespace TableCache

/-- The number `significand * 2 ^ exponent`. Zero has significand zero; every other number has a
significand of exactly fifty-three bits, or of fewer at the least exponent. -/
structure Binary64 where
  significand : Nat
  exponent : Int
  deriving DecidableEq, Repr, Inhabited

namespace Binary64

/-- Numerator and denominator of `numerator / denominator / 2 ^ exponent`. -/
def scale (numerator denominator : Nat) (exponent : Int) : Nat × Nat :=
  if 0 ≤ exponent then (numerator, denominator * Nat.pow 2 exponent.toNat)
  else (numerator * Nat.pow 2 (-exponent).toNat, denominator)

/-- The integer nearest to a quotient; a tie goes to the even one. -/
def nearestEven (numerator denominator : Nat) : Nat :=
  let below := numerator / denominator
  let twice := 2 * (numerator % denominator)
  if twice < denominator then below
  else if denominator < twice then below + 1
  else if below % 2 = 0 then below else below + 1

/-- The exponent at which a positive quotient has a significand of fifty-three bits. -/
def exponentOf (numerator denominator : Nat) : Int :=
  let guess : Int := (numerator.log2 : Int) - (denominator.log2 : Int) - 52
  let scaled := scale numerator denominator guess
  if scaled.1 / scaled.2 < Nat.pow 2 52 then guess - 1 else guess

/-- The exponent of the numbers next to zero. -/
def leastExponent : Int := -1074

/-- The number nearest to `numerator / denominator`; a tie goes to the even significand. -/
def round (numerator denominator : Nat) : Binary64 :=
  if numerator = 0 then ⟨0, 0⟩
  else
    let exponent := max (exponentOf numerator denominator) leastExponent
    let scaled := scale numerator denominator exponent
    let significand := nearestEven scaled.1 scaled.2
    if significand = 0 then ⟨0, 0⟩
    else if significand = Nat.pow 2 53 then ⟨Nat.pow 2 52, exponent + 1⟩
    else ⟨significand, exponent⟩

/-- The number nearest to an integer. -/
def ofNat (number : Nat) : Binary64 := round number 1

/-- The number nearest to the quotient of two numbers. -/
def div (dividend divisor : Binary64) : Binary64 :=
  let scaled := scale dividend.significand divisor.significand
    (divisor.exponent - dividend.exponent)
  round scaled.1 scaled.2

/-- The number nearest to the product of two numbers. -/
def mul (first second : Binary64) : Binary64 :=
  let exponent := first.exponent + second.exponent
  let product := first.significand * second.significand
  if 0 ≤ exponent then round (product * Nat.pow 2 exponent.toNat) 1
  else round product (Nat.pow 2 (-exponent).toNat)

/-- The sixty-four bits: sign, biased exponent, and the significand without its leading bit. The
leading bit of the significand adds one to the biased exponent. -/
def bits (number : Binary64) : Nat :=
  if number.significand = 0 then 0
  else (number.exponent - leastExponent).toNat * Nat.pow 2 52 + number.significand

/-- The bits as sixteen hexadecimal digits in lower case. -/
def hex (number : Binary64) : String :=
  let digits := Nat.toDigits 16 number.bits
  String.ofList (List.replicate (16 - digits.length) '0' ++ digits)

/-- All decimal digits of a number. -/
def decimal (number : Binary64) : String :=
  if 0 ≤ number.exponent then
    toString (number.significand * Nat.pow 2 number.exponent.toNat) ++ ".0"
  else
    let places := (-number.exponent).toNat
    toString (number.significand * Nat.pow 5 places) ++ "e-" ++ toString places

/-- The integer that a number with an exponent of at least zero stands for. -/
def toNat (number : Binary64) : Nat :=
  if 0 ≤ number.exponent then number.significand * Nat.pow 2 number.exponent.toNat
  else number.significand / Nat.pow 2 (-number.exponent).toNat

/-- Whether an integer reads back as `number`: it lies between the points halfway to the neighbours
of `number`, a halfway point included when the significand is even. All is measured in quarters, as
the neighbour below a power of two is half as far away as the one above. -/
def readsBack (number : Binary64) (integer : Nat) : Bool :=
  let step := if 0 ≤ number.exponent then Nat.pow 2 number.exponent.toNat else 0
  let low := 4 * number.toNat - (if number.significand = Nat.pow 2 52 then step else 2 * step)
  let high := 4 * number.toNat + 2 * step
  if number.significand % 2 = 0 then low ≤ 4 * integer && 4 * integer ≤ high
  else low < 4 * integer && 4 * integer < high || integer = number.toNat

/-- The multiple of `unit` that reads back as `number`, the nearer one if two do. -/
def multiple? (number : Binary64) (unit : Nat) : Option Nat :=
  let below := number.toNat / unit * unit
  let above := below + unit
  match number.readsBack below, number.readsBack above with
  | true, true => some (if number.toNat - below ≤ above - number.toNat then below else above)
  | true, false => some below
  | false, true => some above
  | false, false => none

/-- The first multiple that reads back, trying the units `10 ^ places`, …, `10`, `1`. -/
def coarsest (number : Binary64) : Nat → Nat
  | 0 => number.toNat
  | places + 1 => (number.multiple? (Nat.pow 10 (places + 1))).getD (number.coarsest places)

/-- The integer with the fewest digits before its closing zeros that reads back as the number
nearest to `integer`. -/
def shortest (integer : Nat) : Nat := (ofNat integer).coarsest 20

/-- Below two to the fifty-third every integer is a number of its own. -/
example : shortest 9007199254740991 = 9007199254740991 := by decide +kernel

/-- The greatest word is written with seventeen digits. -/
example : shortest 18446744073709551615 = 18446744073709552000 := by decide +kernel

/-- A ratio of four fifths. -/
example : ((ofNat 4).div (ofNat 5)).hex = "3fe999999999999a" := by decide +kernel

end Binary64

end TableCache
