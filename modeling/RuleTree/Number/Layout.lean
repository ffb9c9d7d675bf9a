import RuleTree.Number.Shortest

/-!
Written numbers. A layout says which numbers are written out in places and which with an
exponent; the digits are the shortest ones in every layout, up to ties.
-/

set_option autoImplicit false

namespace RuleTree.Number

/-- How a floating-point number is written. -/
structure Layout where
  /-- Scientific exponents from `low` to `high` are written out in places; `none` means all. -/
  placed : Option (Int × Int)
  /-- A whole number that is written out in places ends in `.0`. -/
  wholeMark : Bool
  /-- A positive exponent has a plus sign. -/
  plusSign : Bool
  /-- Which of two equally near shortest texts is taken. -/
  tie : Tie

namespace Layout

/-- The layout of recorded values: places for sizes from `10 ^ -4` to below `10 ^ 16`. -/
def recorded : Layout := ⟨some (-4, 15), true, false, .away⟩

/-- The layout of bounds in messages: always places, and whole numbers without a point. -/
def plain : Layout := ⟨none, false, false, .away⟩

/-- The layout of numbers in documents: places for sizes from `10 ^ -5` to below `10 ^ 16`. -/
def document : Layout := ⟨some (-5, 15), true, true, .even⟩

/-- A number with this scientific exponent is written out in places. -/
def isPlaced (layout : Layout) (exponent : Int) : Bool :=
  match layout.placed with
  | some (low, high) => low ≤ exponent && exponent ≤ high
  | none => true

def ending (layout : Layout) : List Char := if layout.wholeMark then ['.', '0'] else []

def inPlaces (layout : Layout) (number : Scientific) : List Char :=
  let before := (number.exponent + 1).toNat
  if number.exponent < 0 then
    '0' :: '.' :: List.replicate (-number.exponent - 1).toNat '0' ++ number.digits
  else if number.digits.length ≤ before then
    number.digits ++ List.replicate (before - number.digits.length) '0' ++ layout.ending
  else number.digits.take before ++ '.' :: number.digits.drop before

def withExponent (layout : Layout) (number : Scientific) : List Char :=
  let point := match number.digits with
    | first :: [] => [first]
    | first :: rest => first :: '.' :: rest
    | [] => []
  let sign := if layout.plusSign && 0 ≤ number.exponent then ['+'] else []
  point ++ 'e' :: sign ++ (toString number.exponent).toList

def write (layout : Layout) (format : BinaryFormat) : Binary → String
  | .nan => "NaN"
  | .infinite negative => if negative then "-inf" else "inf"
  | .finite negative mantissa exponent =>
    let size :=
      if mantissa = 0 then '0' :: layout.ending
      else
        let number := shortest format layout.tie mantissa exponent
        if layout.isPlaced number.exponent then layout.inPlaces number
        else layout.withExponent number
    String.ofList (if negative then '-' :: size else size)

end Layout

end RuleTree.Number
