/-!
Binary floating-point numbers, held as exact values: a sign, a mantissa and a power of two.
All arithmetic on them is exact arithmetic on natural numbers followed by one rounding to the
nearest value of a format, a tie going to the even mantissa.
-/

set_option autoImplicit false

namespace RuleTree.Number

/-- A binary format: the number of bits of a mantissa, and the least and greatest power of two
that the last bit of a mantissa can stand for. -/
structure BinaryFormat where
  precision : Nat
  minExponent : Int
  maxExponent : Int
  deriving DecidableEq, Repr

/-- The format of 64 bits. -/
def BinaryFormat.double : BinaryFormat := ⟨53, -1074, 971⟩

/-- The format of 32 bits. -/
def BinaryFormat.single : BinaryFormat := ⟨24, -149, 104⟩

/-- A floating-point number. A finite one is `± mantissa · 2 ^ exponent`; zero keeps its sign. -/
inductive Binary where
  | finite (negative : Bool) (mantissa : Nat) (exponent : Int)
  | infinite (negative : Bool)
  | nan
  deriving DecidableEq, Repr

instance : Inhabited Binary := ⟨.nan⟩

/-- The natural number nearest to `num / den`, a tie going to the even one. -/
def roundHalfEven (num den : Nat) : Nat :=
  let quotient := num / den
  let rest := 2 * (num % den)
  if rest < den then quotient
  else if den < rest then quotient + 1
  else if quotient % 2 = 0 then quotient
  else quotient + 1

/-- The fraction `num / den · 2 ^ exponent`, as numerator and denominator. -/
def scaleTwo (num den : Nat) (exponent : Int) : Nat × Nat :=
  (num * Nat.pow 2 exponent.toNat, den * Nat.pow 2 (-exponent).toNat)

/-- The greatest `k` with `2 ^ k ≤ num / den`, for a positive fraction. -/
def floorLogTwo (num den : Nat) : Int :=
  let guess : Int := (num.log2 : Int) - (den.log2 : Int)
  let power := scaleTwo den 1 guess
  if power.1 ≤ num * power.2 then guess else guess - 1

namespace BinaryFormat

/-- Zero, with a sign. -/
def zero (format : BinaryFormat) (negative : Bool) : Binary :=
  .finite negative 0 format.minExponent

/-- The value of the format nearest to `± num / den`. Past the greatest finite value the result
is infinite. -/
def round (format : BinaryFormat) (negative : Bool) (num den : Nat) : Binary :=
  if num = 0 then format.zero negative
  else
    let exponent := max format.minExponent
      (floorLogTwo num den - ((format.precision : Int) - 1))
    let scaled := scaleTwo num den (-exponent)
    let mantissa := roundHalfEven scaled.1 scaled.2
    let carried := mantissa == Nat.pow 2 format.precision
    let mantissa := if carried then Nat.pow 2 (format.precision - 1) else mantissa
    let exponent := if carried then exponent + 1 else exponent
    if mantissa = 0 then format.zero negative
    else if format.maxExponent < exponent then .infinite negative
    else .finite negative mantissa exponent

/-- The value of the format nearest to an integer. -/
def ofInt (format : BinaryFormat) (n : Int) : Binary :=
  format.round (decide (n < 0)) n.natAbs 1

/-- The value of the format nearest to `± coefficient · 10 ^ exponent`. A number whose size is
far outside the format is not computed. -/
def ofDecimal (format : BinaryFormat) (negative : Bool) (coefficient : Nat) (exponent : Int) :
    Binary :=
  let size : Int := ((Nat.toDigits 10 coefficient).length : Int) + exponent
  if coefficient = 0 then format.zero negative
  else if 400 < size then .infinite negative
  else if size < -400 then format.zero negative
  else format.round negative (coefficient * Nat.pow 10 exponent.toNat)
    (Nat.pow 10 (-exponent).toNat)

def convert (format : BinaryFormat) : Binary → Binary
  | .finite negative mantissa exponent =>
    let fraction := scaleTwo mantissa 1 exponent
    format.round negative fraction.1 fraction.2
  | .infinite negative => .infinite negative
  | .nan => .nan

/-- The rounded product of two finite numbers; other operands give `nan`. -/
def mul (format : BinaryFormat) : Binary → Binary → Binary
  | .finite s m e, .finite t n f =>
    let fraction := scaleTwo (m * n) 1 (e + f)
    format.round (s != t) fraction.1 fraction.2
  | _, _ => .nan

/-- The rounded quotient of two finite numbers, the second not zero; other operands give
`nan`. -/
def div (format : BinaryFormat) : Binary → Binary → Binary
  | .finite s m e, .finite t n f =>
    if n = 0 then .nan
    else
      let fraction := scaleTwo m n (e - f)
      format.round (s != t) fraction.1 fraction.2
  | _, _ => .nan

end BinaryFormat

namespace Binary

/-- The number as an integer multiple of `2 ^ unit`, for a finite number whose exponent is at
least `unit`. -/
def inUnits (negative : Bool) (mantissa : Nat) (exponent unit : Int) : Int :=
  let size : Int := (mantissa * Nat.pow 2 (exponent - unit).toNat : Nat)
  if negative then -size else size

/-- The order of numbers; `none` when one of them is `nan`. The two zeros are equal. -/
def compare? : Binary → Binary → Option Ordering
  | .nan, _ => none
  | _, .nan => none
  | .infinite s, .infinite t =>
    some (if s = t then .eq else if s then .lt else .gt)
  | .infinite s, .finite .. => some (if s then .lt else .gt)
  | .finite .., .infinite t => some (if t then .gt else .lt)
  | .finite s m e, .finite t n f =>
    let unit := min e f
    some (compare (inUnits s m e unit) (inUnits t n f unit))

/-- The first number is at most the second. Nothing is comparable with `nan`. -/
def le (x y : Binary) : Bool :=
  match x.compare? y with
  | some .lt | some .eq => true
  | _ => false

/-- The first number is smaller than the second. -/
def lt (x y : Binary) : Bool :=
  match x.compare? y with
  | some .lt => true
  | _ => false

/-- The numbers are equal as numbers: the two zeros are, and `nan` equals nothing. -/
def sameNumber (x y : Binary) : Bool :=
  match x.compare? y with
  | some .eq => true
  | _ => false

def isFinite : Binary → Bool
  | .finite .. => true
  | _ => false

end Binary

end RuleTree.Number
