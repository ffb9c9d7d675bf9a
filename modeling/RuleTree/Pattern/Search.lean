import RuleTree.Pattern.Basic

/-!
Searching a text for a pattern. The search reads the text once, from left to right, and keeps marks
on the pattern: a mark on a set says that a match can have come so far that it has just read the
character of this set. Each character moves the marks on; marks that come from the start of the
pattern are added all along the way, since a match may start anywhere.

A part without marks stays as it is until marks come to it from outside, so that a step takes no
longer than there are parts with marks.
-/

set_option autoImplicit false

namespace RuleTree

/-- A spot between the characters of a text: whether it is the start and whether it is the end. -/
structure Spot where
  atStart : Bool
  atEnd : Bool
  deriving DecidableEq, Repr

/-- Where the empty text is matched: at spots that are neither start nor end, at the start only, at
the end only, and where the start is the end. -/
structure EmptyMatch where
  within : Bool
  atStart : Bool
  atEnd : Bool
  atBoth : Bool
  deriving DecidableEq, Repr

namespace EmptyMatch

/-- The empty text is matched everywhere. -/
def always : EmptyMatch := ⟨true, true, true, true⟩

/-- The empty text is matched nowhere. -/
def never : EmptyMatch := ⟨false, false, false, false⟩

/-- The empty text is matched at the start. -/
def start : EmptyMatch := ⟨false, true, false, true⟩

/-- The empty text is matched at the end. -/
def finish : EmptyMatch := ⟨false, false, true, true⟩

/-- Both match the empty text. -/
def and (left right : EmptyMatch) : EmptyMatch :=
  ⟨left.within && right.within, left.atStart && right.atStart, left.atEnd && right.atEnd,
    left.atBoth && right.atBoth⟩

/-- One of the two matches the empty text. -/
def or (left right : EmptyMatch) : EmptyMatch :=
  ⟨left.within || right.within, left.atStart || right.atStart, left.atEnd || right.atEnd,
    left.atBoth || right.atBoth⟩

/-- The empty text is matched at a spot. -/
def holdsAt (spots : EmptyMatch) (spot : Spot) : Bool :=
  match spot.atStart, spot.atEnd with
  | false, false => spots.within
  | true, false => spots.atStart
  | false, true => spots.atEnd
  | true, true => spots.atBoth

end EmptyMatch

/-- A pattern with marks. Each inner node keeps what is known of it: where it matches the empty
text, whether there is a mark in it, and whether a match of it ends at the present spot. -/
inductive Marked where
  /-- Matches the empty text at some spots. -/
  | empty (spots : EmptyMatch)
  /-- One character of a set; the mark says that it has just been read. -/
  | one (set : Text.CodeRanges) (mark : Bool)
  | sequence (first second : Marked) (spots : EmptyMatch) (marked ends : Bool)
  | either (left right : Marked) (spots : EmptyMatch) (marked ends : Bool)
  /-- Any number of copies. -/
  | star (body : Marked) (marked ends : Bool)

namespace Marked

/-- Where the empty text is matched. -/
def spots : Marked → EmptyMatch
  | .empty spots => spots
  | .one _ _ => .never
  | .sequence _ _ spots _ _ => spots
  | .either _ _ spots _ _ => spots
  | .star _ _ _ => .always

def isMarked : Marked → Bool
  | .empty _ => false
  | .one _ mark => mark
  | .sequence _ _ _ marked _ => marked
  | .either _ _ _ marked _ => marked
  | .star _ marked _ => marked

/-- A match with at least one character ends at the present spot. -/
def ends : Marked → Bool
  | .empty _ => false
  | .one _ mark => mark
  | .sequence _ _ _ _ ends => ends
  | .either _ _ _ _ ends => ends
  | .star _ _ ends => ends

/-- Two patterns in sequence, at a spot. -/
def andThen (spot : Spot) (first second : Marked) : Marked :=
  .sequence first second (first.spots.and second.spots) (first.isMarked || second.isMarked)
    (second.ends || (first.ends && second.spots.holdsAt spot))

def orElse (left right : Marked) : Marked :=
  .either left right (left.spots.or right.spots) (left.isMarked || right.isMarked)
    (left.ends || right.ends)

def many (body : Marked) : Marked := .star body body.isMarked body.ends

/-- The spot at which there is nothing to end yet. -/
def nowhere : Spot := ⟨false, false⟩

/-! ### Patterns without marks -/

/-- A number of copies in front of a pattern. -/
def manyThen (body : Marked) : Nat → Marked → Marked
  | 0, rest => rest
  | count + 1, rest => andThen nowhere body (manyThen body count rest)

def upTo (body : Marked) : Nat → Marked
  | 0 => .empty .always
  | count + 1 => orElse (.empty .always) (andThen nowhere body (upTo body count))

def ofChars : List Char → Marked
  | [] => .empty .always
  | c :: rest => andThen nowhere (.one (.single c.toNat) false) (ofChars rest)

mutual

/-- The pattern without marks, for texts of fewer characters than `limit`. Among as many copies as
the limit there is one that matches the empty text, and it makes further copies needless. -/
def ofPattern (limit : Nat) : Pattern → Marked
  | .empty => .empty .always
  | .literal chars => ofChars chars
  | .one set => .one set false
  | .start => .empty .start
  | .finish => .empty .finish
  | .capture body => ofPattern limit body
  | .sequence parts => ofParts limit parts
  | .alternatives branches => ofBranches limit branches
  | .copies body least most _ =>
    let copy := ofPattern limit body
    manyThen copy (min least limit) (match most with
      | some most => upTo copy (min (most - least) limit)
      | none => many copy)

def ofParts (limit : Nat) : List Pattern → Marked
  | [] => .empty .always
  | part :: rest => andThen nowhere (ofPattern limit part) (ofParts limit rest)

def ofBranches (limit : Nat) : List Pattern → Marked
  | [] => .empty .never
  | branch :: rest => orElse (ofPattern limit branch) (ofBranches limit rest)

end

/-! ### Reading a text -/

/-- Reads a character between two spots. `entered` says that a match of this part can start at the
first of them. -/
def read (c : Char) (before after : Spot) : Bool → Marked → Marked
  | _, .empty spots => .empty spots
  | entered, .one set _ => .one set (entered && set.contains c)
  | entered, .sequence first second spots marked ends =>
    if entered || marked then
      andThen after (read c before after entered first)
        (read c before after ((entered && first.spots.holdsAt before) || first.ends) second)
    else .sequence first second spots marked ends
  | entered, .either left right spots marked ends =>
    if entered || marked then
      orElse (read c before after entered left) (read c before after entered right)
    else .either left right spots marked ends
  | entered, .star body marked ends =>
    if entered || marked then many (read c before after (entered || body.ends) body)
    else .star body marked ends

/-- A match is found at the present spot or further on, where `rest` is still to be read. -/
def findsIn : Bool → List Char → Marked → Bool
  | atStart, [], pattern => pattern.ends || pattern.spots.holdsAt ⟨atStart, true⟩
  | atStart, c :: rest, pattern =>
    pattern.ends || pattern.spots.holdsAt ⟨atStart, false⟩ ||
      findsIn false rest (pattern.read c ⟨atStart, false⟩ ⟨false, rest.isEmpty⟩ true)

end Marked

namespace Pattern

/-- The pattern matches somewhere in the text. -/
def occursIn (pattern : Pattern) (text : String) : Bool :=
  let chars := text.toList
  (Marked.ofPattern (chars.length + 1) pattern).findsIn true chars

end Pattern

end RuleTree
