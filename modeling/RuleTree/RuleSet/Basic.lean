import RuleTree.Failure.Error
import RuleTree.Text.Blank

/-!
Rule sets: named groups of rules that are switched on by a request. A rule without a tag always
runs. A tagged one runs when the requested selector shares a name with its tag, or when either
contains the wildcard.
-/

set_option autoImplicit false

namespace RuleTree

/-- A list of rule-set names. -/
structure RuleSets where
  names : List String
  deriving DecidableEq, Repr

namespace RuleSets

/-- The name that stands for every rule set. -/
def wildcard : String := "*"

def empty : RuleSets := ⟨[]⟩

def contains (sets : RuleSets) (name : String) : Bool := sets.names.contains name

/-- Appends a name unless the list has it. -/
def push (sets : RuleSets) (name : String) : RuleSets :=
  if sets.contains name then sets else ⟨sets.names ++ [name]⟩

/-- The list of the given names, each at its first place. -/
def ofList (names : List String) : RuleSets := names.foldl push empty

def all : RuleSets := ofList [wildcard]

def isWildcard (sets : RuleSets) : Bool := sets.contains wildcard

/-- The list is empty. -/
def isEmpty (sets : RuleSets) : Bool := sets.names.isEmpty

def text (sets : RuleSets) : String := String.intercalate "," sets.names

def describe (sets : RuleSets) : String :=
  Text.wrapped "RuleSets" (Text.listOf (sets.names.map Text.quote))

def describeOptional (sets : Option RuleSets) : String :=
  Text.optional (sets.map describe)

/-- Refuses an empty list and one with a blank name. -/
def required (sets : RuleSets) : Except Error RuleSets :=
  if sets.isEmpty || sets.names.any Text.isBlank then .error (.emptyArgument "rule_sets")
  else .ok sets

/-- An empty list requests nothing. -/
def nonEmpty? (sets : Option RuleSets) : Option RuleSets :=
  sets.filter fun sets => !sets.isEmpty

/-- A node with this tag runs under this selector. -/
def isActive (tag selector : Option RuleSets) : Bool :=
  match tag with
  | none => true
  | some tag =>
    tag.isWildcard ||
      match selector with
      | none => false
      | some selector => selector.isWildcard || tag.names.any selector.contains

end RuleSets

end RuleTree
