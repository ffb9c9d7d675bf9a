import RuleTree.Tree.Basic

/-!
Binding a resolver to a tree of rules. The resolver reaches every validator of the tree. A
validator that holds it already is left as it is, with all that lies below it.
-/

set_option autoImplicit false

namespace RuleTree

mutual

def Rule.bind (resolver : Resolver) : Rule → Rule
  | .leaf leaf => .leaf leaf
  | .contextual leaf => .contextual leaf
  | .presence => .presence
  | .predicate test => .predicate test
  | .composite rules => .composite (rules.bind resolver)
  | .conditional rules => .conditional (rules.bind resolver)
  | .value rules => .value (rules.bind resolver)
  | .elements rules => .elements (rules.bind resolver)
  | .object reach rules => .object reach (rules.bind resolver)

def Rule.bindAll (resolver : Resolver) : List Rule → List Rule
  | [] => []
  | rule :: rest => rule.bind resolver :: Rule.bindAll resolver rest

def Rule.bindOption (resolver : Resolver) : Option Rule → Option Rule
  | none => none
  | some rule => some (rule.bind resolver)

def RuleEntry.bind (resolver : Resolver) : RuleEntry → RuleEntry
  | { rule, tag, message, isCustom } => { rule := rule.bind resolver, tag, message, isCustom }

def RuleEntry.bindAll (resolver : Resolver) : List RuleEntry → List RuleEntry
  | [] => []
  | entry :: rest => entry.bind resolver :: RuleEntry.bindAll resolver rest

def RuleEntry.bindOption (resolver : Resolver) : Option RuleEntry → Option RuleEntry
  | none => none
  | some entry => some (entry.bind resolver)

def CompositeRules.bind (resolver : Resolver) : CompositeRules → CompositeRules
  | { children, mode } => { children := Rule.bindAll resolver children, mode }

def ConditionalRules.bind (resolver : Resolver) : ConditionalRules → ConditionalRules
  | { condition, accepted, rejected } =>
    { condition
      accepted := accepted.bind resolver
      rejected := ValueRules.bindOption resolver rejected }

def ValueRules.bind (resolver : Resolver) : ValueRules → ValueRules
  | { presence, general, nested, last, mode, guards, skipsEmpty, preprocess, stack, inherited,
      resolver := bound } =>
    if resolver.isBoundIn bound then
      { presence, general, nested, last, mode, guards, skipsEmpty, preprocess, stack, inherited
        resolver := bound }
    else
      { presence := RuleEntry.bindAll resolver presence
        general := RuleEntry.bindAll resolver general
        nested := RuleEntry.bindOption resolver nested
        last, mode, guards, skipsEmpty, preprocess, stack, inherited
        resolver := some resolver }

def ValueRules.bindOption (resolver : Resolver) : Option ValueRules → Option ValueRules
  | none => none
  | some rules => some (rules.bind resolver)

def ElementRules.bind (resolver : Resolver) : ElementRules → ElementRules
  | { element, filter, inherited, .. } =>
    { element := Rule.bindOption resolver element, filter, resolver := some resolver, inherited }

def PropertyRules.bind (resolver : Resolver) : PropertyRules → PropertyRules
  | { name, memberOverride, display, accessor, rules, tag, annotated } =>
    { name, memberOverride, display, accessor, rules := rules.bind resolver, tag, annotated }

def PropertyRules.bindAll (resolver : Resolver) : List PropertyRules → List PropertyRules
  | [] => []
  | property :: rest => property.bind resolver :: PropertyRules.bindAll resolver rest

def ObjectRules.bind (resolver : Resolver) : ObjectRules → ObjectRules
  | { target, properties, child, stack, guards, mode, suppressAnnotations, validateAll, bridge,
      messages, defaultRuleSets, inherited, resolver := bound } =>
    if resolver.isBoundIn bound then
      { target, properties, child, stack, guards, mode, suppressAnnotations, validateAll, bridge,
        messages, defaultRuleSets, inherited, resolver := bound }
    else
      { properties := PropertyRules.bindAll resolver properties
        child := ObjectRules.bindOption resolver child
        resolver := some resolver
        target, stack, guards, mode, suppressAnnotations, validateAll, bridge,
        messages, defaultRuleSets, inherited }

def ObjectRules.bindOption (resolver : Resolver) : Option ObjectRules → Option ObjectRules
  | none => none
  | some rules => some (rules.bind resolver)

end

end RuleTree
