import RuleTree.Leaf.Input
import RuleTree.Journal
import RuleTree.Context.Basic

/-!
Leaves: rules that examine one input. A leaf reports at most one failure, with a template as its
message. A contextual leaf also reads the context.
-/

set_option autoImplicit false

namespace RuleTree

/-- A rule on inputs of one type. -/
structure Leaf where
  type : LeafType
  check : type.Carrier → Logged (Option Failure)

/-- A rule on inputs of one type that reads the context. -/
structure ContextualLeaf where
  type : LeafType
  check : type.Carrier → Context → Logged (Option Failure)

namespace Leaf

/-- A leaf that decides without a note. -/
def of (type : LeafType) (check : type.Carrier → Option Failure) : Leaf :=
  ⟨type, fun input => pure (check input)⟩

/-- Examines a value: one that has no view of the leaf's type fails by that, and an absent one is
not examined. -/
def examine (leaf : Leaf) (value : Value) : Logged (Option Failure) :=
  match value.view leaf.type with
  | .error failure => pure (some failure)
  | .ok none => pure none
  | .ok (some input) => leaf.check input

end Leaf

end RuleTree
