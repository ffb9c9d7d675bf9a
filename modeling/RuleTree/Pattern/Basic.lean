import RuleTree.Text.CodeRanges

/-!
Patterns: regular expressions by what they match. A pattern says nothing of how it was written:
groups that capture nothing, brackets and flags have left no trace in it.
-/

set_option autoImplicit false

namespace RuleTree

/-- A regular expression by what it matches. -/
inductive Pattern where
  /-- Matches the empty text. -/
  | empty
  /-- Matches these characters; there is at least one. -/
  | literal (chars : List Char)
  /-- Matches one character of the set. -/
  | one (set : Text.CodeRanges)
  /-- Matches at the start of the text. -/
  | start
  /-- Matches at the end of the text. -/
  | finish
  /-- Matches what the body does, and captures it. -/
  | capture (body : Pattern)
  /-- Matches the parts one after another. -/
  | sequence (parts : List Pattern)
  /-- Matches one of the branches. -/
  | alternatives (branches : List Pattern)
  /-- Matches at least `least` and at most `most` copies; `few` prefers as few as can be. -/
  | copies (body : Pattern) (least : Nat) (most : Option Nat) (few : Bool)

namespace Pattern

/-! ### What a pattern can match -/

mutual

/-- The pattern can match the empty text, if marks of the start and the end are left aside. -/
def isNullable : Pattern → Bool
  | .empty => true
  | .literal _ => false
  | .one _ => false
  | .start => true
  | .finish => true
  | .capture body => body.isNullable
  | .sequence parts => allNullable parts
  | .alternatives branches => anyNullable branches
  | .copies body least _ _ => least == 0 || body.isNullable

/-- All of the patterns can match the empty text. -/
def allNullable : List Pattern → Bool
  | [] => true
  | pattern :: rest => pattern.isNullable && allNullable rest

/-- One of the patterns can match the empty text. -/
def anyNullable : List Pattern → Bool
  | [] => false
  | pattern :: rest => pattern.isNullable || anyNullable rest

end

mutual

/-- The pattern matches no text but the empty one. -/
def isEmptyOnly : Pattern → Bool
  | .empty => true
  | .literal _ => false
  | .one _ => false
  | .start => true
  | .finish => true
  | .capture body => body.isEmptyOnly
  | .sequence parts => allEmptyOnly parts
  | .alternatives branches => allEmptyOnly branches
  | .copies body _ _ _ => body.isEmptyOnly

/-- None of the patterns matches a text but the empty one. -/
def allEmptyOnly : List Pattern → Bool
  | [] => true
  | pattern :: rest => pattern.isEmptyOnly && allEmptyOnly rest

end

mutual

/-- Two patterns are the same. What one captures is never what another one captures. -/
def same : Pattern → Pattern → Bool
  | .empty, .empty => true
  | .literal left, .literal right => left == right
  | .one left, .one right => left == right
  | .start, .start => true
  | .finish, .finish => true
  | .sequence left, .sequence right => sameAll left right
  | .alternatives left, .alternatives right => sameAll left right
  | .copies left least most few, .copies right least' most' few' =>
    least == least' && most == most' && few == few' && left.same right
  | _, _ => false

/-- Two lists of patterns are the same, one by one. -/
def sameAll : List Pattern → List Pattern → Bool
  | [], [] => true
  | left :: lefts, right :: rights => left.same right && sameAll lefts rights
  | _, _ => false

end

end Pattern

end RuleTree
