import RuleTree.Pattern.Basic
import RuleTree.Pattern.Expression

/-!
The normal form of patterns. The functions that put patterns together keep it: no part of a
sequence is empty or a sequence itself, literals that follow each other are one, alternatives of
single characters are a set, and what all alternatives begin with stands in front of them. The
pattern of an expression is put together by these functions.
-/

set_option autoImplicit false

namespace RuleTree

namespace Pattern

/-! ### Sets -/

/-- One character of a set; the only one of a set is a literal. -/
def ofSet (set : Text.CodeRanges) : Pattern :=
  match set.only? with
  | some code => .literal [Char.ofNat code]
  | none => .one set

/-! ### Sequences -/

def consPart : Pattern → List Pattern → List Pattern
  | .empty, rest => rest
  | .literal chars, .literal more :: rest => .literal (chars ++ more) :: rest
  | part, rest => part :: rest

/-- Puts a pattern in front of the parts of a sequence: if it is a sequence, its parts. -/
def consParts : Pattern → List Pattern → List Pattern
  | .sequence parts, rest => parts.foldr consPart rest
  | part, rest => consPart part rest

def ofParts : List Pattern → Pattern
  | [] => .empty
  | [part] => part
  | parts => .sequence parts

def inSequence (patterns : List Pattern) : Pattern := ofParts (patterns.foldr consParts [])

/-! ### Alternatives -/

/-- The code point of a literal that is a single character. -/
def single? : Pattern → Option Nat
  | .literal [c] => some c.toNat
  | _ => none

/-- The set of a pattern that is one. -/
def set? : Pattern → Option Text.CodeRanges
  | .one set => some set
  | _ => none

/-- The parts of a pattern that is a sequence. -/
def parts? : Pattern → Option (List Pattern)
  | .sequence parts => some parts
  | _ => none

/-- The branches of a pattern that is a choice; others are the only branch of themselves. -/
def branches : Pattern → List Pattern
  | .alternatives branches => branches
  | pattern => [pattern]

/-- One of the branches, none of which is a choice: a set, if all are single characters or all are
sets. -/
def choice (branches : List Pattern) : Pattern :=
  match branches, branches.mapM single?, branches.mapM set? with
  | [branch], _, _ => branch
  | _, some codes, _ => ofSet (.ofCodes codes)
  | _, none, some sets => ofSet (sets.foldl Text.CodeRanges.union .empty)
  | _, none, none => .alternatives branches

def commonStart : List Pattern → List Pattern → List Pattern
  | left :: lefts, right :: rights =>
    if left.same right then left :: commonStart lefts rights else []
  | _, _ => []

def commonStarts : List (List Pattern) → List Pattern
  | [] => []
  | first :: rest => rest.foldl commonStart first

/-- One of the patterns. If the branches are sequences that begin alike, what they begin with
stands in front of a choice of what is left of them. -/
def anyOf (patterns : List Pattern) : Pattern :=
  let all := patterns.flatMap branches
  match all.mapM parts? with
  | some (first :: second :: more) =>
    let lists := first :: second :: more
    let shared := commonStarts lists
    if shared.isEmpty then choice all
    else
      let rest := lists.map fun parts => inSequence (parts.drop shared.length)
      inSequence (shared ++ [choice (rest.flatMap branches)])
  | _ => choice all

/-! ### Copies -/

/-- Copies of a pattern. More than one copy of a pattern that matches the empty text only is no
more than one; no copies at all are the empty text, and one copy is the pattern itself. -/
def repeated (body : Pattern) (least : Nat) (most : Option Nat) (few : Bool) : Pattern :=
  let least := if body.isEmptyOnly then min least 1 else least
  let most := if body.isEmptyOnly then some (min (most.getD 1) 1) else most
  if most = some 0 then .empty
  else if least = 1 && most = some 1 then body
  else .copies body least most few

end Pattern

namespace Expression

mutual

def toPattern : Expression → Pattern
  | .empty => .empty
  | .one set => .ofSet set
  | .bracket set _ => .ofSet set
  | .start => .start
  | .finish => .finish
  | .flags => .empty
  | .group true body => .capture body.toPattern
  | .group false body => body.toPattern
  | .sequence parts => .inSequence (toPatterns parts)
  | .alternatives branches => .anyOf (toPatterns branches)
  | .copies body least most few => .repeated body.toPattern least most few

def toPatterns : List Expression → List Pattern
  | [] => []
  | expression :: rest => expression.toPattern :: toPatterns rest

end

end Expression

end RuleTree
