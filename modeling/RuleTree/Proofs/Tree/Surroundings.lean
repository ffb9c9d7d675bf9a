import RuleTree.Proofs.RuleSet.Selection
import RuleTree.Proofs.Tree.Report

/-!
What a context shows besides its selectors. The surroundings of a context are all that is looked up
in it, whatever level holds it, except the selector and the ambient selector. The levels themselves
are not part of them: the rules of a value open a level if their selector differs from the one
around them, so whoever counts levels reads the selector.

The laws of this module say what becomes of the surroundings and of the two selectors at each place
where an evaluation opens a level, so that no other proof has to look at levels.
-/

set_option autoImplicit false

namespace RuleTree

/-- What is looked up in a context, selectors apart. -/
structure Surroundings where
  subject : Option Value
  member : Option String
  display : Option String
  resolver : Option Resolver
  bridge : Option AnnotationBridge
  messages : Option MessageSource
  annotationsEnabled : Bool
  item? : String → Option Item

namespace Context

def surroundings (context : Context) : Surroundings where
  subject := context.subject
  member := context.member
  display := context.level.display
  resolver := context.resolver
  bridge := context.bridge
  messages := context.messages
  annotationsEnabled := context.annotationsEnabled
  item? := context.item?

variable {context other : Context}

theorem messageName_congr (alike : context.surroundings = other.surroundings) :
    context.messageName = other.messageName :=
  congrArg (fun surroundings : Surroundings =>
    (surroundings.display.or surroundings.member).getD defaultName) alike

theorem messages_congr (alike : context.surroundings = other.surroundings) :
    context.messages = other.messages :=
  congrArg Surroundings.messages alike

theorem activeBridge_congr (alike : context.surroundings = other.surroundings) :
    context.activeBridge = other.activeBridge :=
  congrArg (fun surroundings : Surroundings =>
    if surroundings.annotationsEnabled then surroundings.bridge else none) alike

theorem contains_eq (context : Context) (key : String) :
    context.contains key = (context.item? key).isSome :=
  List.isSome_findSome?.symm

theorem surroundings_scope (context : Context) :
    context.scope.surroundings = context.surroundings := rfl

theorem ruleSets_scope (context : Context) : context.scope.ruleSets = context.ruleSets := rfl

theorem defaultRuleSets_scope (context : Context) :
    context.scope.defaultRuleSets = context.defaultRuleSets := rfl

end Context

/-! ### The level of a property -/

namespace PropertyRules

theorem surroundings_scope (held : PropertyRules) (context : Context) :
    (held.scope context).surroundings =
      { context.surroundings with member := some held.member, display := held.display } := rfl

end PropertyRules

/-! ### The level of the rules of a value -/

namespace ValueRules

/-- The rules of a value open no level if it would show nothing new. -/
theorem scope_cases (rules : ValueRules) (context : Context) :
    (context.selectorFor rules.inherited = context.ruleSets ∧ rules.resolver = none ∧
        rules.scope context = context) ∨
      rules.scope context =
        (context.scope.withRuleSets (context.selectorFor rules.inherited)).withResolver
          rules.resolver := by
  unfold scope contextFor
  by_cases same : context.selectorFor rules.inherited = context.ruleSets
  · cases rules.resolver with
    | none => exact .inl ⟨same, rfl, by simp [same]⟩
    | some resolver => exact .inr (by simp)
  · exact .inr (by simp [same])

theorem surroundings_scope (rules : ValueRules) (context : Context) :
    (rules.scope context).surroundings =
      { context.surroundings with
        resolver := rules.resolver.or context.surroundings.resolver } := by
  rcases rules.scope_cases context with ⟨_, unbound, unchanged⟩ | opened
  · rw [unchanged, unbound]
    rfl
  · rw [opened]
    cases rules.resolver <;> rfl

theorem ruleSets_scope (rules : ValueRules) {context : Context}
    (nonempty : RuleSets.NotEmpty (context.selectorFor rules.inherited)) :
    (rules.scope context).ruleSets = context.selectorFor rules.inherited := by
  rcases rules.scope_cases context with ⟨same, _, unchanged⟩ | opened
  · rw [unchanged, same]
  · rw [opened]
    exact nonempty.nonEmpty?_eq

theorem defaultRuleSets_scope (rules : ValueRules) (context : Context) :
    (rules.scope context).defaultRuleSets = context.defaultRuleSets := by
  rcases rules.scope_cases context with ⟨_, _, unchanged⟩ | opened
  · rw [unchanged]
  · rw [opened]
    rfl

end ValueRules

/-! ### The level of an object -/

namespace ObjectRules

theorem surroundings_contextFor (rules : ObjectRules) (value : Value) (context : Context) :
    (rules.contextFor value context).surroundings =
      { context.surroundings with
        subject := some value
        resolver := rules.resolver.or context.surroundings.resolver
        bridge := rules.bridge.or context.surroundings.bridge
        messages := rules.messages.or context.surroundings.messages
        annotationsEnabled :=
          context.surroundings.annotationsEnabled && !rules.suppressAnnotations } := by
  unfold contextFor
  cases rules.resolver <;> cases rules.bridge <;> cases rules.messages <;> rfl

theorem ruleSets_contextFor (rules : ObjectRules) (value : Value) {context : Context}
    (nonempty : RuleSets.NotEmpty
      ((context.selectorFor rules.inherited).or rules.defaultRuleSets)) :
    (rules.contextFor value context).ruleSets =
      (context.selectorFor rules.inherited).or rules.defaultRuleSets :=
  nonempty.nonEmpty?_eq

theorem defaultRuleSets_contextFor (rules : ObjectRules) (value : Value) (context : Context) :
    (rules.contextFor value context).defaultRuleSets = context.defaultRuleSets := rfl

end ObjectRules

end RuleTree
