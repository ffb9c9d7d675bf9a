import RuleTree.Tree.Evaluate

/-!
Nodes: the places of a tree at which something is evaluated. A node is a rule, a rule with its tag
and its message, a property of an object, or the rules of an object at which a tree may start. What
holds of every node holds of every tree, wherever it is cut off from the tree around it.
-/

set_option autoImplicit false

namespace RuleTree

/-- A node of a tree of rules. The rules of a value are the rule made of them. -/
inductive Node where
  | rule (rule : Rule)
  | entry (entry : RuleEntry)
  | property (property : PropertyRules)
  | object (rules : ObjectRules)

namespace Node

def evaluate : Node → Value → Context → Step
  | .rule held, value, context => held.evaluate value context
  | .entry held, value, context => held.evaluate value context
  | .property held, value, context => held.evaluate value context
  | .object rules, value, context => rules.evaluate value context

/-- The nodes right below a node, in the order in which they run. -/
def children : Node → List Node
  | .rule (.composite rules) => rules.children.map .rule
  | .rule (.conditional rules) =>
    .rule (.value rules.accepted) :: rules.rejected.toList.map fun rejected => .rule (.value rejected)
  | .rule (.value rules) => rules.entries.map .entry
  | .rule (.elements rules) => rules.element.toList.map .rule
  | .rule (.object _ rules) => [.object rules]
  | .rule _ => []
  | .entry held => [.rule held.rule]
  | .property held => [.rule (.value held.rules)]
  | .object rules => rules.properties.map .property ++ rules.child.toList.map .object

end Node

end RuleTree
