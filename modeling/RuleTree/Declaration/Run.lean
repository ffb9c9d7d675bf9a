import RuleTree.Declaration.Basic
import RuleTree.Tree.Describe

/-!
Running declarations. A step changes a validator and may reply. An error of a nested step is a
reply and does not end the steps around it.
-/

set_option autoImplicit false

namespace RuleTree

/-- A result with the replies given on the way to it. -/
structure Built (α : Type) where
  value : α
  replies : List Reply

namespace Built

/-- A result without replies. -/
protected def pure {α : Type} (value : α) : Built α := ⟨value, []⟩

/-- Goes on from a result; the replies of what follows come later. -/
protected def bind {α β : Type} (first : Built α) (next : α → Built β) : Built β :=
  let second := next first.value
  ⟨second.value, first.replies ++ second.replies⟩

instance : Monad Built where
  pure := Built.pure
  bind := Built.bind

def reply {α : Type} (reply : Reply) (value : α) : Built α := ⟨value, [reply]⟩

/-- Goes on with the changed value, or with the old one if the change was refused. -/
def settle {α : Type} (old : α) : Except Error α → Built α
  | .ok changed => reply (.done none) changed
  | .error error => reply (.done (some error)) old

end Built

/-- The error of a scope that is ended on purpose. -/
def scopeFailure : Error := .emptyArgument "probe"

def scopeReply (fails : Bool) : Reply := .done (if fails then some scopeFailure else none)

namespace ValueRules

def info (rules : ValueRules) : Json :=
  .ofMembers
    [("len", .int rules.size), ("is_empty", .bool (rules.size == 0)),
     ("mode", .string rules.mode.name), ("has_nested", .bool rules.nested.isSome),
     ("inherited", Context.namesJson rules.inherited), ("debug", .string rules.describe)]

def enter (rules : ValueRules) (sets : RuleSets) : ValueRules :=
  { rules with stack := rules.stack.enter sets }

def leaveTo (rules : ValueRules) (depth : Nat) : ValueRules :=
  { rules with stack := rules.stack.leaveTo depth }

/-- Declares a general rule, if there is one. -/
def pushOption (rules : ValueRules) (rule : Option Rule) : ValueRules :=
  match rule with
  | some rule => rules.pushRule rule
  | none => rules

/-- Declares a check of presence, if there is one. -/
def pushPresenceOption (rules : ValueRules) (rule : Option Rule) : ValueRules :=
  match rule with
  | some rule => rules.pushPresence rule
  | none => rules

end ValueRules

namespace ObjectRules

def info (rules : ObjectRules) : Json :=
  .ofMembers
    [("len", .int rules.properties.length), ("is_empty", .bool rules.isEmpty),
     ("members", .array (rules.members.map .string)), ("mode", .string rules.mode.name),
     ("inherited", Context.namesJson rules.inherited),
     ("resolver", .bool rules.resolver.isSome), ("debug", .string rules.describe)]

def enter (rules : ObjectRules) (sets : RuleSets) : ObjectRules :=
  { rules with stack := rules.stack.enter sets }

def leaveTo (rules : ObjectRules) (depth : Nat) : ObjectRules :=
  { rules with stack := rules.stack.leaveTo depth }

end ObjectRules

namespace PropertyRules

def info (property : PropertyRules) : Json :=
  .ofMembers
    [("member", .string property.member), ("rule_sets", Context.namesJson property.tag),
     ("len", .int property.rules.size), ("debug", .string property.describe)]

end PropertyRules

namespace ElementRules

def info (rules : ElementRules) : Json :=
  .ofMembers
    [("has_element", .bool rules.element.isSome), ("debug", .string rules.describe)]

end ElementRules

namespace CompositeRules

def info (rules : CompositeRules) : Json :=
  .ofMembers
    [("len", .int rules.children.length), ("is_empty", .bool rules.children.isEmpty),
     ("mode", .string rules.mode.name), ("debug", .string rules.describe)]

end CompositeRules

namespace ConditionalRules

def info (rules : ConditionalRules) : Json :=
  .ofMembers
    [("has_otherwise", .bool rules.rejected.isSome), ("debug", .string rules.describe)]

end ConditionalRules

mutual

/-- Builds a rule; there is none if its pattern cannot be read. -/
def RuleForm.build : RuleForm → Built (Option Rule)
  | .leaf leaf => pure (some (.leaf leaf))
  | .matching source =>
    match Pattern.read? source with
    | some pattern => pure (some (.leaf (.matching source pattern)))
    | none => .reply .badPattern none
  | .predicate test => pure (some (.predicate test))
  | .composite form => form.build.bind fun rules => pure (some (.composite rules))
  | .conditional form => form.build.bind fun rules => pure (some (.conditional rules))
  | .value steps => (ValueStep.runAll steps .empty).bind fun rules => pure (some (.value rules))
  | .elements steps =>
    (ElementStep.runAll steps .empty).bind fun rules => pure (some (.elements rules))
  | .given rule => pure (some rule)

/-- Builds rules, leaving out those that there are not. -/
def RuleForm.buildAll : List RuleForm → Built (List Rule)
  | [] => pure []
  | form :: rest =>
    form.build.bind fun rule =>
      (RuleForm.buildAll rest).bind fun rules => pure (rule.toList ++ rules)

def CompositeForm.build : CompositeForm → Built CompositeRules
  | .mk mode rules laterMode info =>
    (RuleForm.buildAll rules).bind fun children =>
      let composite : CompositeRules := ⟨children, laterMode.getD mode⟩
      if info then .reply (.info composite.info) composite else pure composite

def ConditionalForm.build : ConditionalForm → Built ConditionalRules
  | .mk condition accepted rejected info =>
    (ValueStep.runEach accepted .empty).bind fun accepted =>
      (ValueStep.runOption rejected).bind fun rejected =>
        let conditional : ConditionalRules := ⟨condition, accepted, rejected⟩
        if info then .reply (.info conditional.info) conditional else pure conditional

def ValueStep.run : ValueStep → ValueRules → Built ValueRules
  | .rule form, rules => form.build.bind fun rule => pure (rules.pushOption rule)
  | .contextual leaf, rules => pure (rules.pushRule (.contextual leaf))
  | .required, rules => pure (rules.pushPresence .presence)
  | .allowEmpty, rules => pure rules.allowEmpty
  | .guard test, rules => pure (rules.addGuard test)
  | .mode mode, rules => pure (rules.setMode mode)
  | .message message, rules => pure (rules.setLastMessage message)
  | .defaultMessage message, rules => pure (rules.setDefaultMessage message)
  | .preprocess transform, rules => pure (rules.setPreprocess transform)
  | .presence form, rules => form.build.bind fun rule => pure (rules.pushPresenceOption rule)
  | .nested steps, rules =>
    (ValueStep.runAll steps .empty).bind fun nested => .settle rules (rules.setValidator nested)
  | .attach form site alternative, rules =>
    form.build.bind fun rule =>
      match rule with
      | some rule => .settle rules (rules.attachNested rule site alternative)
      | none => pure rules
  | .scope names steps fails, rules =>
    match names.required with
    | .error error => .reply (.done (some error)) rules
    | .ok sets =>
      (ValueStep.runAll steps (rules.enter sets)).bind fun changed =>
        .reply (scopeReply fails) (changed.leaveTo rules.stack.depth)
  | .inherit names, rules => .reply (.flag rules.inherited.isNone) (rules.inherit names)
  | .bind resolver, rules => pure (rules.bind resolver)
  | .replace steps, _ => ValueStep.runAll steps .empty
  | .info, rules => .reply (.info rules.info) rules

def ValueStep.runAll : List ValueStep → ValueRules → Built ValueRules
  | [], rules => pure rules
  | step :: rest, rules => (step.run rules).bind fun rules => ValueStep.runAll rest rules

def ValueStep.runEach : List (List ValueStep) → ValueRules → Built ValueRules
  | [], rules => pure rules
  | steps :: rest, rules =>
    (ValueStep.runAll steps rules).bind fun rules => ValueStep.runEach rest rules

/-- Runs optional steps on empty rules. -/
def ValueStep.runOption : Option (List ValueStep) → Built (Option ValueRules)
  | none => pure none
  | some steps => (ValueStep.runAll steps .empty).bind fun rules => pure (some rules)

def ElementForm.build : ElementForm → Built Rule
  | .value steps => (ValueStep.runAll steps .empty).bind fun rules => pure (.value rules)
  | .object target steps =>
    (ObjectStep.runAll steps (.empty target)).bind fun rules => pure (.object .itself rules)

def ElementStep.run : ElementStep → ElementRules → Built ElementRules
  | .attach form, rules => form.build.bind fun rule => .settle rules (rules.attach rule)
  | .filter test, rules => pure (rules.setFilter test)
  | .inherit names, rules => .reply (.flag rules.inherited.isNone) (rules.inherit names)
  | .bind resolver, rules => pure (rules.bind resolver)
  | .info, rules => .reply (.info rules.info) rules

def ElementStep.runAll : List ElementStep → ElementRules → Built ElementRules
  | [], rules => pure rules
  | step :: rest, rules => (step.run rules).bind fun rules => ElementStep.runAll rest rules

def PropertyStep.run : PropertyStep → PropertyRules → Built PropertyRules
  | .value step, property =>
    (step.run property.rules).bind fun rules => pure { property with rules }
  | .member name, property => pure { property with memberOverride := some name }
  | .display name, property => pure { property with display := some name }
  | .skipAnnotations, property => pure { property with annotated := false }
  | .nested reach target steps, property =>
    (ObjectStep.runAll steps (.empty target)).bind fun nested =>
      .settle property (property.setValidator reach nested)
  | .element form deferred, property =>
    match if deferred then property.openElements.map Prod.fst else .ok property with
    | .error error => .reply (.done (some error)) property
    | .ok property =>
      form.build.bind fun rule =>
        match property.attachElement rule with
        | (property, .ok ()) => .reply (.done none) property
        | (property, .error error) => .reply (.done (some error)) property
  | .filter test, property => pure (property.setFilter test)
  | .property steps, property => PropertyStep.runAll steps property
  | .tellMember, property => .reply (.text property.member) property
  | .info, property => .reply (.info property.info) property

def PropertyStep.runAll : List PropertyStep → PropertyRules → Built PropertyRules
  | [], property => pure property
  | step :: rest, property =>
    (step.run property).bind fun property => PropertyStep.runAll rest property

def BridgeForm.build : BridgeForm → Built AnnotationBridge
  | .given bridge => pure bridge
  | .proxy place target steps ruleSets =>
    (ObjectStep.runAll steps (.empty target)).bind fun rules =>
      pure (((Proxy.new rules).setRuleSets ruleSets).toBridge place)

def ObjectStep.run : ObjectStep → ObjectRules → Built ObjectRules
  | .property name accessor steps, rules =>
    (PropertyStep.runAll steps (rules.declared (.new name accessor))).bind fun property =>
      pure (rules.addProperty property)
  | .collection name accessor steps, rules =>
    (PropertyStep.runAll steps (rules.declared (.newCollection name accessor))).bind
      fun property => pure (rules.addProperty property)
  | .includeFrom steps, rules =>
    (ObjectStep.runAll steps (.empty rules.target)).bind fun other =>
      pure (rules.includeFrom other)
  | .scope names steps fails, rules =>
    match names.required with
    | .error error => .reply (.done (some error)) rules
    | .ok sets =>
      (ObjectStep.runAll steps (rules.enter sets)).bind fun changed =>
        .reply (scopeReply fails) (changed.leaveTo rules.stack.depth)
  | .child steps, rules =>
    (ObjectStep.runAll steps (.empty rules.target)).bind fun child =>
      .settle rules (rules.setValidator child)
  | .guard test, rules => pure (rules.addGuard test)
  | .mode mode, rules => pure { rules with mode }
  | .suppressAnnotations, rules => pure { rules with suppressAnnotations := true }
  | .validateAll all, rules => pure { rules with validateAll := all }
  | .bridge form, rules => form.build.bind fun bridge => pure { rules with bridge := some bridge }
  | .messages source, rules => pure { rules with messages := some source }
  | .options text fresh, rules =>
    match Options.parse? text with
    | some options =>
      let rules := if fresh then ObjectRules.empty rules.target else rules
      pure (rules.applyOptions options)
    | none => .reply .badOptions rules
  | .inherit names, rules => .reply (.flag rules.inherited.isNone) (rules.inherit names)
  | .bind resolver, rules => pure (rules.bind resolver)
  | .info, rules => .reply (.info rules.info) rules

def ObjectStep.runAll : List ObjectStep → ObjectRules → Built ObjectRules
  | [], rules => pure rules
  | step :: rest, rules => (step.run rules).bind fun rules => ObjectStep.runAll rest rules

end

end RuleTree
