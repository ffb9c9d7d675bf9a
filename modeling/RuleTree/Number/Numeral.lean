import RuleTree.Number.Binary

/-!
Reading numbers from texts: integers, and decimal numerals with an optional point and an
optional exponent. A whole text is a numeral or it is not; nothing around it is skipped.
-/

set_option autoImplicit false

namespace RuleTree.Number

def digitsValue (digits : List Char) : Nat :=
  digits.foldl (fun value c => value * 10 + (c.toNat - '0'.toNat)) 0

/-- A sign, if the text starts with one, and the rest: `true` stands for minus. -/
def takeSign : List Char → Bool × List Char
  | '-' :: rest => (true, rest)
  | '+' :: rest => (false, rest)
  | rest => (false, rest)

/-- The integer that a text spells: decimal digits after an optional sign. -/
def readInt? (text : String) : Option Int :=
  let (negative, digits) := takeSign text.toList
  if digits.isEmpty || !digits.all Char.isDigit then none
  else
    let size : Int := digitsValue digits
    some (if negative then -size else size)

/-- An exponent part: nothing, or `e` and an integer. -/
def readExponent? : List Char → Option Int
  | [] => some 0
  | c :: rest =>
    if c = 'e' || c = 'E' then
      let (negative, digits) := takeSign rest
      if digits.isEmpty || !digits.all Char.isDigit then none
      else
        let size : Int := digitsValue digits
        some (if negative then -size else size)
    else none

/-- The number that a text spells, rounded to the format. Besides decimal numerals, which need a
digit before or after the point, `inf`, `infinity` and `nan` are numbers in any case of letters,
with an optional sign. -/
def readBinary? (format : BinaryFormat) (text : String) : Option Binary :=
  let (negative, body) := takeSign text.toList
  let word := String.ofList (body.map Char.toLower)
  if word = "inf" || word = "infinity" then some (.infinite negative)
  else if word = "nan" then some .nan
  else
    let whole := body.takeWhile Char.isDigit
    let rest := body.dropWhile Char.isDigit
    let (fraction, rest) := match rest with
      | '.' :: tail => (tail.takeWhile Char.isDigit, tail.dropWhile Char.isDigit)
      | _ => ([], rest)
    if whole.isEmpty && fraction.isEmpty then none
    else (readExponent? rest).map fun exponent =>
      format.ofDecimal negative (digitsValue (whole ++ fraction))
        (exponent - (fraction.length : Int))

end RuleTree.Number
