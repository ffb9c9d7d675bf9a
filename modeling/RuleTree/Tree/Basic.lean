import RuleTree.Leaf.Basic
import RuleTree.Mode
import RuleTree.RuleSet.Scope

/-!
Trees of rules. The rules of a value stand in three segments that always run in this order: checks
of presence, general rules, and at most one nested validator. An object has properties, each with
the rules of its value, and at most one child, which is a validator of the same object.

The functions that a user supplies (tests, guards, filters, accessors) may write into the journal.
-/

set_option autoImplicit false

namespace RuleTree

abbrev Test := Value → Logged Bool

abbrev ContextTest := Value → Context → Logged Bool

/-- The rule entry that a message is meant for: the last one added. -/
inductive Slot where
  | presence (position : Nat)
  | general (position : Nat)
  | nested
  deriving DecidableEq, Repr

mutual

/-- A node of a tree of rules. -/
inductive Rule where
  | leaf (leaf : Leaf)
  | contextual (leaf : ContextualLeaf)
  /-- The value is there at all. -/
  | presence
  | predicate (test : ContextTest)
  | composite (rules : CompositeRules)
  | conditional (rules : ConditionalRules)
  | value (rules : ValueRules)
  /-- The elements of a collection. -/
  | elements (rules : ElementRules)
  /-- The object that is reached from the value. -/
  | object (reach : Reach) (rules : ObjectRules)

/-- A rule with its tag and the message that takes the place of its own. -/
structure RuleEntry where
  rule : Rule
  tag : Option RuleSets
  message : Option MessageOverride
  /-- The message was set for this entry, not as a default. -/
  isCustom : Bool

/-- A list of rules under a mode. -/
structure CompositeRules where
  children : List Rule
  mode : Mode

/-- Two branches and the condition that picks one. -/
structure ConditionalRules where
  condition : Test
  accepted : ValueRules
  rejected : Option ValueRules

/-- The rules of a value. -/
structure ValueRules where
  presence : List RuleEntry
  general : List RuleEntry
  nested : Option RuleEntry
  last : Option Slot
  mode : Mode
  guards : List Test
  skipsEmpty : Bool
  preprocess : Option (Value → Logged Value)
  stack : ScopeStack
  inherited : Option RuleSets
  resolver : Option Resolver

/-- The rules of the elements of a collection. -/
structure ElementRules where
  element : Option Rule
  filter : Option Test
  resolver : Option Resolver
  inherited : Option RuleSets

/-- A property of an object. -/
structure PropertyRules where
  name : String
  memberOverride : Option String
  display : Option String
  accessor : Value → Logged Value
  rules : ValueRules
  tag : Option RuleSets
  annotated : Bool

/-- The rules of the objects of a type. -/
structure ObjectRules where
  target : Ty
  properties : List PropertyRules
  child : Option ObjectRules
  stack : ScopeStack
  guards : List Test
  mode : Mode
  suppressAnnotations : Bool
  validateAll : Bool
  bridge : Option AnnotationBridge
  messages : Option MessageSource
  defaultRuleSets : Option RuleSets
  inherited : Option RuleSets
  resolver : Option Resolver

end

namespace RuleEntry

def isActive (entry : RuleEntry) (selector : Option RuleSets) : Bool :=
  RuleSets.isActive entry.tag selector

end RuleEntry

namespace ValueRules

def empty : ValueRules :=
  ⟨[], [], none, none, .all, [], false, none, .empty, none, none⟩

/-- All entries in the order in which they run. -/
def entries (rules : ValueRules) : List RuleEntry :=
  rules.presence ++ rules.general ++ rules.nested.toList

def size (rules : ValueRules) : Nat := rules.entries.length

end ValueRules

namespace ElementRules

def empty : ElementRules := ⟨none, none, none, none⟩

end ElementRules

namespace PropertyRules

/-- The name under which failures of the property are reported. -/
def member (property : PropertyRules) : String := property.memberOverride.getD property.name

def isActive (property : PropertyRules) (selector : Option RuleSets) : Bool :=
  RuleSets.isActive property.tag selector

end PropertyRules

namespace ObjectRules

def empty (target : Ty) : ObjectRules :=
  ⟨target, [], none, .empty, [], .all, false, true, none, none, none, none, none⟩

/-- The members of the properties in order. -/
def members (rules : ObjectRules) : List String := rules.properties.map PropertyRules.member

def isEmpty (rules : ObjectRules) : Bool := rules.properties.isEmpty && rules.child.isNone

def activeMembers (rules : ObjectRules) (selector : Option RuleSets) : List String :=
  (rules.properties.filter (·.isActive selector)).map PropertyRules.member

end ObjectRules

end RuleTree
