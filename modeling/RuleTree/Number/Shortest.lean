import RuleTree.Number.Binary

/-!
The shortest decimal text of a binary floating-point number: the fewest significant digits
that round to the number again, and of those the ones nearest to it. Where two are equally near, a
rule for ties decides.
-/

set_option autoImplicit false

namespace RuleTree.Number

/-- Which of two equally near multiples is taken. -/
inductive Tie where
  /-- The even one. -/
  | even
  /-- The one farther from zero. -/
  | away
  deriving DecidableEq, Repr

/-- A positive decimal number in scientific form: the digits `d₁ d₂ …`, without a trailing
zero, stand for `d₁.d₂… · 10 ^ exponent`. -/
structure Scientific where
  digits : List Char
  exponent : Int
  deriving DecidableEq, Repr

/-- Searches for the number of places `j` at most `fuel` with `den ≤ num · 10 ^ j`. -/
def leadingPlaces (num den : Nat) : Nat → Nat → Nat
  | 0, j => j
  | fuel + 1, j => if den ≤ num then j else leadingPlaces (num * 10) den fuel (j + 1)

/-- The greatest `k` with `10 ^ k ≤ num / den`, for a positive fraction. -/
def floorLogTen (num den : Nat) : Int :=
  if den ≤ num then ((Nat.toDigits 10 (num / den)).length : Int) - 1
  else -(leadingPlaces num den den.log2.succ 0 : Int)

/-- The interval of numbers that round to one floating-point number, on an integer scale: its
ends, the number itself, and whether the ends belong to it. -/
structure RoundingInterval where
  low : Nat
  middle : Nat
  high : Nat
  closed : Bool

namespace RoundingInterval

/-- A point of the scale that rounds to the number. -/
def contains (interval : RoundingInterval) (point : Nat) : Bool :=
  if interval.closed then interval.low ≤ point && point ≤ interval.high
  else interval.low < point && point < interval.high

/-- The multiple of `step` in the interval that is nearest to the number, if there is one. -/
def nearestMultiple? (interval : RoundingInterval) (tie : Tie) (step : Nat) : Option Nat :=
  let below := interval.middle / step
  let above := below + 1
  match interval.contains (below * step), interval.contains (above * step) with
  | true, true =>
    let down := interval.middle - below * step
    let up := above * step - interval.middle
    if down < up then some below
    else if up < down then some above
    else match tie with
      | .even => if below % 2 = 0 then some below else some above
      | .away => some above
  | true, false => some below
  | false, true => some above
  | false, false => none

end RoundingInterval

/-- The interval of `mantissa · 2 ^ exponent` on a scale on which `10 ^ place` is an integer,
together with that integer. Below a power of two the neighbours are twice as near. -/
def roundingInterval (format : BinaryFormat) (mantissa : Nat) (exponent place : Int) :
    RoundingInterval × Nat :=
  let quarter := exponent - 2
  let scale := Nat.pow 2 quarter.toNat * Nat.pow 10 (-place).toNat
  let step := Nat.pow 10 place.toNat * Nat.pow 2 (-quarter).toNat
  let narrow := mantissa == Nat.pow 2 (format.precision - 1) && format.minExponent < exponent
  let lower := if narrow then 1 else 2
  (⟨(4 * mantissa - lower) * scale, 4 * mantissa * scale, (4 * mantissa + 2) * scale,
      mantissa % 2 == 0⟩, step)

/-- Digits without the zeros at their end. -/
def dropTrailingZeros (digits : List Char) : List Char :=
  (digits.reverse.dropWhile (· == '0')).reverse

/-- The scientific form of `coefficient · 10 ^ place`. -/
def Scientific.ofCoefficient (coefficient : Nat) (place : Int) : Scientific :=
  let digits := Nat.toDigits 10 coefficient
  ⟨dropTrailingZeros digits, place + (digits.length : Int) - 1⟩

/-- Tries finer and finer decimal places, at most `fuel` of them, for one that holds a point of
the interval. -/
def searchShortest (format : BinaryFormat) (tie : Tie) (mantissa : Nat) (exponent : Int) :
    Nat → Int → Scientific
  | 0, place =>
    let (interval, step) := roundingInterval format mantissa exponent place
    .ofCoefficient (interval.middle / step) place
  | fuel + 1, place =>
    let (interval, step) := roundingInterval format mantissa exponent place
    match interval.nearestMultiple? tie step with
    | some coefficient => .ofCoefficient coefficient place
    | none => searchShortest format tie mantissa exponent fuel (place - 1)

/-- The shortest decimal of the positive number `mantissa · 2 ^ exponent`. Seventeen digits
always suffice for the formats in use. -/
def shortest (format : BinaryFormat) (tie : Tie) (mantissa : Nat) (exponent : Int) : Scientific :=
  let fraction := scaleTwo mantissa 1 exponent
  searchShortest format tie mantissa exponent 17 (floorLogTen fraction.1 fraction.2)

end RuleTree.Number
