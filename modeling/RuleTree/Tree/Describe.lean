import RuleTree.Tree.Basic

/-!
The descriptive forms of validators. They tell the numbers of rules and the settings, and leave
the rules themselves out.
-/

set_option autoImplicit false

namespace RuleTree

namespace CompositeRules

def describe (rules : CompositeRules) : String :=
  Text.record "CompositeValidator"
    [("mode", rules.mode.describe), ("children", toString rules.children.length)]

end CompositeRules

namespace ValueRules

def describe (rules : ValueRules) : String :=
  Text.partialRecord "ValueValidator"
    [("presence", toString rules.presence.length),
     ("general", toString rules.general.length),
     ("nested", Text.truth rules.nested.isSome),
     ("mode", rules.mode.describe),
     ("guards", toString rules.guards.length),
     ("inherited_rule_sets", RuleSets.describeOptional rules.inherited)]

end ValueRules

namespace ConditionalRules

def describe (rules : ConditionalRules) : String :=
  Text.partialRecord "ConditionalValidator"
    [("then", rules.accepted.describe),
     ("otherwise", Text.optional (rules.rejected.map ValueRules.describe))]

end ConditionalRules

namespace ElementRules

def describe (rules : ElementRules) : String :=
  Text.partialRecord "CollectionValidator"
    [("element", Text.truth rules.element.isSome), ("filter", Text.truth rules.filter.isSome)]

end ElementRules

namespace PropertyRules

def describe (property : PropertyRules) : String :=
  Text.partialRecord "PropertyValidator"
    [("member", Text.quote property.member),
     ("display_name", Text.optionalQuoted property.display),
     ("rule_sets", RuleSets.describeOptional property.tag),
     ("rules", property.rules.describe)]

end PropertyRules

namespace ObjectRules

def describe (rules : ObjectRules) : String :=
  Text.partialRecord "ObjectValidator"
    [("type", Text.quote rules.target.name),
     ("properties", Text.listOf (rules.members.map Text.quote)),
     ("child", Text.truth rules.child.isSome),
     ("mode", rules.mode.describe),
     ("inherited_rule_sets", RuleSets.describeOptional rules.inherited)]

end ObjectRules

end RuleTree
