import RuleTree.Tree.Basic
import RuleTree.Step.Mode
import RuleTree.Step.Reject

/-!
The evaluation of trees of rules. A rule, a value and a context make a step.

A value validator and an object validator work in a level of the context of their own, with the
selector in effect there. A property puts its name in front of the members of the failures found
below it, and an element its position.
-/

set_option autoImplicit false

namespace RuleTree

/-! ### The parts that do not descend into the tree -/

namespace ValueRules

/-- The context of the rules. If it would not differ from the given one, it is the given one. -/
def contextFor (inherited : Option RuleSets) (resolver : Option Resolver) (context : Context) :
    Context :=
  let selector := context.selectorFor inherited
  if selector = context.ruleSets && resolver.isNone then context
  else (context.scope.withRuleSets selector).withResolver resolver

end ValueRules

namespace ElementRules

/-- Runs a step for each element that passes the filter. `position` counts all elements, and the
failures of an element are put below its position. -/
def runItems (filter : Option Test) (step : Value → Step) : Nat → List Value → Step
  | _, [] => .pass
  | position, item :: rest =>
    let next := runItems filter step (position + 1) rest
    let made := ((step item).below (Path.index "" position)).andThen next
    match filter with
    | none => made
    | some keep =>
      .ask (keep item) fun kept =>
        if kept then made else Step.noted [.event (.elementSkipped position)] next

end ElementRules

namespace PropertyRules

def request (member : String) (context : Context) : AnnotationRequest where
  display := some context.messageName
  member := some member
  resolver := context.resolver
  ruleSets := context.ruleSets
  all := true
  skip := []

/-- Asks the bridge about the value of a property. In the failures it reports, the member itself
is left out: the property puts it in front of all members later. -/
def annotationStep (annotated : Bool) (member : String) (value : Value) (context : Context) :
    Step :=
  match if annotated then context.activeBridge else none with
  | none => .pass
  | some bridge =>
    .ask (bridge.annotate value (request member context)) fun
      | .ok none => .pass
      | .ok (some report) =>
        .reportAll (report.map fun failure =>
          { failure with members := failure.members.filter (· != member) })
      | .error error => .report error.toFailure

end PropertyRules

namespace ObjectRules

/-- The request about an object. The members of its own active properties are not asked for. -/
def request (validateAll : Bool) (skip : List String) (context : Context) :
    AnnotationRequest where
  display := context.display
  member := context.member
  resolver := context.resolver
  ruleSets := context.ruleSets
  all := validateAll
  skip := skip

def annotationStep (bridge : AnnotationBridge) (value : Value) (request : AnnotationRequest) :
    Step :=
  .ask (bridge.annotate value request) fun
    | .ok none => .pass
    | .ok (some report) => .reportAll (report.filter request.wants)
    | .error error => .report error.toFailure

/-- The attempt of the annotations of an object, if there is a bridge to ask. -/
def annotationAttempts (validateAll : Bool) (skip : List String) (value : Value)
    (context : Context) : List Attempt :=
  match context.activeBridge with
  | none => []
  | some bridge => [.made (annotationStep bridge value (request validateAll skip context))]

/-- The level of the context in which an object is validated. -/
def contextFor (rules : ObjectRules) (value : Value) (context : Context) : Context :=
  let selector := (context.selectorFor rules.inherited).or rules.defaultRuleSets
  ((((((context.scope.withSubject value).withRuleSets selector).withResolver rules.resolver)
    ).withBridge rules.bridge).withMessages rules.messages).withAnnotationsEnabled
      (context.annotationsEnabled && !rules.suppressAnnotations)

end ObjectRules

/-- Runs a step if all guards accept the value; otherwise an event tells that they did not. -/
def Step.guarded (guards : List Test) (value : Value) (event : Event) (step : Step) : Step :=
  .ask (Logged.all (fun guard => guard value) guards) fun accepted =>
    if accepted then step else .event event

/-! ### The descent -/

mutual

def Rule.evaluate : Rule → Value → Context → Step
  | .leaf leaf, value, context => .examine leaf.type leaf.check value context
  | .contextual leaf, value, context =>
    .examine leaf.type (fun input => leaf.check input context) value context
  | .presence, value, context => .require value.isPresent .required context
  | .predicate test, value, context =>
    .ask (test value context) fun holds => .require holds Step.predicateFailure context
  | .composite rules, value, context => rules.evaluate value context
  | .conditional rules, value, context => rules.evaluate value context
  | .value rules, value, context => rules.evaluate value context
  | .elements rules, value, context => rules.evaluate value context
  | .object reach rules, value, context =>
    match value.nested? reach with
    | some object => rules.evaluate object context
    | none => .pass

def Rule.attempts : List Rule → Value → Context → List Attempt
  | [], _, _ => []
  | rule :: rest, value, context =>
    .made (rule.evaluate value context) :: Rule.attempts rest value context

/-- The step of an entry: that of its rule, with the entry's message. -/
def RuleEntry.evaluate : RuleEntry → Value → Context → Step
  | { rule, message, .. }, value, context =>
    (rule.evaluate value context).overriding message context

def RuleEntry.attempts : List RuleEntry → Value → Context → List Attempt
  | [], _, _ => []
  | entry :: rest, value, context =>
    .select (entry.isActive context.ruleSets) (.ruleSkipped entry.tag)
      (entry.evaluate value context) :: RuleEntry.attempts rest value context

def RuleEntry.attemptsOption : Option RuleEntry → Value → Context → List Attempt
  | none, _, _ => []
  | some entry, value, context =>
    [.select (entry.isActive context.ruleSets) (.ruleSkipped entry.tag)
      (entry.evaluate value context)]

def CompositeRules.evaluate : CompositeRules → Value → Context → Step
  | { children, mode }, value, context => mode.run (Rule.attempts children value context)

/-- The step of the branch that the condition picks. A missing branch accepts. -/
def ConditionalRules.evaluate : ConditionalRules → Value → Context → Step
  | { condition, accepted, rejected }, value, context =>
    .ask (condition value) fun holds =>
      if holds then accepted.evaluate value context
      else ValueRules.evaluateOption rejected value context

def ValueRules.evaluateOption : Option ValueRules → Value → Context → Step
  | none, _, _ => .pass
  | some rules, value, context => rules.evaluate value context

def ValueRules.evaluate : ValueRules → Value → Context → Step
  | { presence, general, nested, mode, guards, skipsEmpty, preprocess, inherited, resolver, .. },
      value, context =>
    .guarded guards value .valueGuarded
      (if skipsEmpty && value.isEmptyText then .event .emptySkipped
      else
        let context := ValueRules.contextFor inherited resolver context
        let run := fun (value : Value) => mode.run
          (RuleEntry.attempts presence value context ++ RuleEntry.attempts general value context ++
            RuleEntry.attemptsOption nested value context)
        match preprocess with
        | some transform => .ask (transform value) fun made => (run made).transient
        | none => run value)

def ElementRules.evaluate : ElementRules → Value → Context → Step
  | { element, filter, .. }, value, context =>
    match element with
    | none => .pass
    | some rule =>
      let scope := context.scope
      ElementRules.runItems filter (fun item => rule.evaluate item scope) 0 value.elements

def PropertyRules.evaluate : PropertyRules → Value → Context → Step
  | { name, memberOverride, display, accessor, rules, annotated, .. }, object, context =>
    let member := memberOverride.getD name
    let scope := context.child.withMember member display
    .ask (accessor object) fun value =>
      ((PropertyRules.annotationStep annotated member value scope).andThen
        (rules.evaluate value scope)).below member

def PropertyRules.attempts : List PropertyRules → Value → Context → List Attempt
  | [], _, _ => []
  | property :: rest, object, context =>
    .select (property.isActive context.ruleSets) (.propertySkipped property.member)
      (property.evaluate object context) :: PropertyRules.attempts rest object context

/-- The step of the rules of an object: its annotations, its active properties, its child. -/
def ObjectRules.evaluate : ObjectRules → Value → Context → Step
  | ⟨target, properties, child, stack, guards, mode, suppressAnnotations, validateAll, bridge,
      messages, defaultRuleSets, inherited, resolver⟩, value, context =>
    let rules : ObjectRules :=
      ⟨target, properties, child, stack, guards, mode, suppressAnnotations, validateAll, bridge,
        messages, defaultRuleSets, inherited, resolver⟩
    let scope := rules.contextFor value context
    let skip := rules.activeMembers scope.ruleSets
    .guarded guards value (.objectGuarded target.name)
      ((mode.run
        (ObjectRules.annotationAttempts validateAll skip value scope ++
          PropertyRules.attempts properties value scope ++
          ObjectRules.attemptsOption child value scope)).counted (.objectFinished target.name))

def ObjectRules.attemptsOption : Option ObjectRules → Value → Context → List Attempt
  | none, _, _ => []
  | some rules, value, context => [.made (rules.evaluate value context)]

end

end RuleTree
