/-!
Sets of Unicode scalar values, given by inclusive ranges of code points.
-/

set_option autoImplicit false

namespace RuleTree.Text

/-- A set of code points as a list of inclusive ranges in increasing order. -/
structure CodeRanges where
  bounds : List (Nat × Nat)
  deriving DecidableEq, Repr

namespace CodeRanges

def holds (ranges : CodeRanges) (code : Nat) : Bool :=
  ranges.bounds.any fun range => range.1 ≤ code && code ≤ range.2

def contains (ranges : CodeRanges) (c : Char) : Bool := ranges.holds c.toNat

/-- The set of nothing. -/
def empty : CodeRanges := ⟨[]⟩

/-- Puts a range into a list of ranges, where it takes in those that it meets. -/
def insertBounds (low high : Nat) : List (Nat × Nat) → List (Nat × Nat)
  | [] => [(low, high)]
  | (first, last) :: rest =>
    if high + 1 < first then (low, high) :: (first, last) :: rest
    else if last + 1 < low then (first, last) :: insertBounds low high rest
    else insertBounds (min low first) (max high last) rest

def insert (ranges : CodeRanges) (low high : Nat) : CodeRanges :=
  ⟨insertBounds low high ranges.bounds⟩

def single (code : Nat) : CodeRanges := ⟨[(code, code)]⟩

def ofCodes (codes : List Nat) : CodeRanges :=
  codes.foldl (fun ranges code => ranges.insert code code) empty

def union (left right : CodeRanges) : CodeRanges :=
  right.bounds.foldl (fun ranges range => ranges.insert range.1 range.2) left

def greatest : Nat := 0x10FFFF

/-- The code point of the character after another one. The surrogates are no characters. -/
def next (code : Nat) : Nat := if code = 0xD7FF then 0xE000 else code + 1

/-- The code point of the character before another one. -/
def previous (code : Nat) : Nat := if code = 0xE000 then 0xD7FF else code - 1

/-- The range between two ranges, from the end of one to the beginning of the other. Between ranges
with the surrogates alone between them it consists of the characters on both sides of these. -/
def gap (last first : Nat) : Nat × Nat :=
  (min (next last) (previous first), max (next last) (previous first))

/-- The ranges between the given ones, behind one that ends at `last`. -/
def gapsBehind (last : Nat) : List (Nat × Nat) → List (Nat × Nat)
  | [] => if last < greatest then [(next last, greatest)] else []
  | range :: rest => gap last range.1 :: gapsBehind range.2 rest

/-- The ranges around and between the given ones. -/
def gaps : List (Nat × Nat) → List (Nat × Nat)
  | [] => [(0, greatest)]
  | range :: rest =>
    let behind := gapsBehind range.2 rest
    if 0 < range.1 then (0, previous range.1) :: behind else behind

def complement (ranges : CodeRanges) : CodeRanges := ⟨gaps ranges.bounds⟩

/-- The only code point of the set, if it has just one. -/
def only? (ranges : CodeRanges) : Option Nat :=
  match ranges.bounds with
  | [(first, last)] => if first = last then some first else none
  | _ => none

def isAscii (ranges : CodeRanges) : Bool := ranges.bounds.all fun range => range.2 < 128

end CodeRanges

end RuleTree.Text
