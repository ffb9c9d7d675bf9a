import RuleTree.Text.CodeRanges

/-!
Sets of characters as sequences of bytes. In UTF-8 a range of code points is a union of sequences of
byte ranges: a leading byte and up to three that continue it, each anywhere in its range.
-/

set_option autoImplicit false

namespace RuleTree.Text

/-- Ranges of bytes, one for each byte of a character. -/
abbrev ByteSequence := List (Nat × Nat)

namespace ByteSequence

/-- The digits of a range of numbers that have `count` digits to the base 64 behind the first one. A
first digit all of whose numbers are in the range goes together with its neighbours. -/
def ofDigits : Nat → Nat → Nat → List (List (Nat × Nat))
  | 0, low, high => [[(low, high)]]
  | count + 1, low, high =>
    let unit := 64 ^ (count + 1)
    let first := low / unit
    let last := high / unit
    let under (digit : Nat) (rest : List (List (Nat × Nat))) : List (List (Nat × Nat)) :=
      rest.map fun digits => (digit, digit) :: digits
    if first = last then under first (ofDigits count (low % unit) (high % unit))
    else
      let (before, first) := if low % unit = 0 then ([], first)
        else (under first (ofDigits count (low % unit) (unit - 1)), first + 1)
      let (after, stop) := if high % unit = unit - 1 then ([], last + 1)
        else (under last (ofDigits count 0 (high % unit)), last)
      let between := if first < stop then [(first, stop - 1) :: List.replicate (count + 1) (0, 63)]
        else []
      before ++ between ++ after

/-- The bits of the leading byte of a character, besides those of the code point, by the number of
bytes that continue it. -/
def leadBits : Nat → Nat
  | 0 => 0
  | 1 => 0xC0
  | 2 => 0xE0
  | _ => 0xF0

/-- A byte that continues a character carries this bit besides those of the code point. -/
def continuationBit : Nat := 0x80

def raise (bits : Nat) (range : Nat × Nat) : Nat × Nat := (bits + range.1, bits + range.2)

def ofDigitRanges (count : Nat) : List (Nat × Nat) → ByteSequence
  | first :: rest => raise (leadBits count) first :: rest.map (raise continuationBit)
  | [] => []

/-- The sequences of the part of a range of code points that lies between two bounds, where all
characters have as many bytes. -/
def ofBlock (range : Nat × Nat) (block : Nat × Nat × Nat) : List ByteSequence :=
  let (least, greatest, count) := block
  let low := max range.1 least
  let high := min range.2 greatest
  if low ≤ high then (ofDigits count low high).map (ofDigitRanges count) else []

/-- The blocks of code points whose characters have as many bytes, with the number of bytes behind
the leading one. The surrogates are no characters. -/
def blocks : List (Nat × Nat × Nat) :=
  [(0, 0x7F, 0), (0x80, 0x7FF, 1), (0x800, 0xD7FF, 2), (0xE000, 0xFFFF, 2),
   (0x10000, 0x10FFFF, 3)]

/-- The sequences of a set of code points, in increasing order. -/
def ofRanges (ranges : CodeRanges) : List ByteSequence :=
  ranges.bounds.flatMap fun range => blocks.flatMap (ofBlock range)

end ByteSequence

end RuleTree.Text
