import RuleTree.Tree.Basic

/-!
Inheriting a selector. A validator takes the first selector that it is given and keeps it; it
hands it on to the validator nested in it, or to its child, which does the same. A composite and a
conditional rule hand it on to all their parts.
-/

set_option autoImplicit false

namespace RuleTree

mutual

def Rule.inherit (sets : RuleSets) : Rule → Rule
  | .leaf leaf => .leaf leaf
  | .contextual leaf => .contextual leaf
  | .presence => .presence
  | .predicate test => .predicate test
  | .composite rules => .composite (rules.inherit sets)
  | .conditional rules => .conditional (rules.inherit sets)
  | .value rules => .value (rules.inherit sets)
  | .elements rules => .elements (rules.inherit sets)
  | .object reach rules => .object reach (rules.inherit sets)

def Rule.inheritAll (sets : RuleSets) : List Rule → List Rule
  | [] => []
  | rule :: rest => rule.inherit sets :: Rule.inheritAll sets rest

def Rule.inheritOption (sets : RuleSets) : Option Rule → Option Rule
  | none => none
  | some rule => some (rule.inherit sets)

def RuleEntry.inheritOption (sets : RuleSets) : Option RuleEntry → Option RuleEntry
  | none => none
  | some entry => some (entry.inherit sets)

def RuleEntry.inherit (sets : RuleSets) : RuleEntry → RuleEntry
  | { rule, tag, message, isCustom } => { rule := rule.inherit sets, tag, message, isCustom }

def CompositeRules.inherit (sets : RuleSets) : CompositeRules → CompositeRules
  | { children, mode } => { children := Rule.inheritAll sets children, mode }

def ConditionalRules.inherit (sets : RuleSets) : ConditionalRules → ConditionalRules
  | { condition, accepted, rejected } =>
    { condition
      accepted := accepted.inherit sets
      rejected := ValueRules.inheritOption sets rejected }

def ValueRules.inherit (sets : RuleSets) : ValueRules → ValueRules
  | { presence, general, nested, last, mode, guards, skipsEmpty, preprocess, stack, inherited,
      resolver } =>
    match inherited with
    | some kept =>
      { presence, general, nested, last, mode, guards, skipsEmpty, preprocess, stack
        inherited := some kept
        resolver }
    | none =>
      { nested := RuleEntry.inheritOption sets nested
        presence, general, last, mode, guards, skipsEmpty, preprocess, stack
        inherited := some sets
        resolver }

def ValueRules.inheritOption (sets : RuleSets) : Option ValueRules → Option ValueRules
  | none => none
  | some rules => some (rules.inherit sets)

def ElementRules.inherit (sets : RuleSets) : ElementRules → ElementRules
  | { element, filter, resolver, inherited } =>
    match inherited with
    | some kept => { element, filter, resolver, inherited := some kept }
    | none =>
      { element := Rule.inheritOption sets element, filter, resolver, inherited := some sets }

def ObjectRules.inherit (sets : RuleSets) : ObjectRules → ObjectRules
  | { target, properties, child, stack, guards, mode, suppressAnnotations, validateAll, bridge,
      messages, defaultRuleSets, inherited, resolver } =>
    match inherited with
    | some kept =>
      { target, properties, child, stack, guards, mode, suppressAnnotations, validateAll, bridge,
        messages, defaultRuleSets, inherited := some kept, resolver }
    | none =>
      { child := ObjectRules.inheritOption sets child
        inherited := some sets
        target, properties, stack, guards, mode, suppressAnnotations, validateAll, bridge,
        messages, defaultRuleSets, resolver }

def ObjectRules.inheritOption (sets : RuleSets) : Option ObjectRules → Option ObjectRules
  | none => none
  | some rules => some (rules.inherit sets)

end

end RuleTree
