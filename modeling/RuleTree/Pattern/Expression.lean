import RuleTree.Text.CodeRanges

/-!
Regular expressions as they are written. An expression keeps all that its text says: the groups,
the brackets, and the switches of flags, which match nothing but count as parts. How deeply it is
nested is a matter of how it is written and not of what it matches.
-/

set_option autoImplicit false

namespace RuleTree

/-- A regular expression as it is written. The case of letters is a matter of the sets already. -/
inductive Expression where
  /-- Nothing is written. -/
  | empty
  /-- A character, the dot or a named class. -/
  | one (set : Text.CodeRanges)
  /-- A class in brackets, of so many items. -/
  | bracket (set : Text.CodeRanges) (items : Nat)
  /-- The mark of the start of the text. -/
  | start
  /-- The mark of the end of the text. -/
  | finish
  /-- A switch of flags for what follows. -/
  | flags
  /-- A group in parentheses, which captures what it matches or does not. -/
  | group (captures : Bool) (body : Expression)
  /-- At least two expressions one after another. -/
  | sequence (parts : List Expression)
  /-- At least two alternatives. -/
  | alternatives (branches : List Expression)
  /-- At least `least` and at most `most` copies; `few` prefers as few as can be. -/
  | copies (body : Expression) (least : Nat) (most : Option Nat) (few : Bool)

namespace Expression

def ofParts : List Expression → Expression
  | [] => .empty
  | [part] => part
  | parts => .sequence parts

def ofBranches : List Expression → Expression
  | [] => .empty
  | [branch] => branch
  | branches => .alternatives branches

mutual

/-- How deeply an expression is nested. What stands for itself is not nested at all; the brackets
of a class count, and so does a list of items in them. -/
def depth : Expression → Nat
  | .bracket _ items => if items < 2 then 1 else 2
  | .group _ body => body.depth + 1
  | .sequence parts => depthOfAll parts + 1
  | .alternatives branches => depthOfAll branches + 1
  | .copies body _ _ _ => body.depth + 1
  | _ => 0

def depthOfAll : List Expression → Nat
  | [] => 0
  | expression :: rest => max expression.depth (depthOfAll rest)

end

end Expression

end RuleTree
