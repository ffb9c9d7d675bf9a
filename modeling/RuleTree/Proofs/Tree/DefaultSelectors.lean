import RuleTree.Proofs.RuleSet.Selection
import RuleTree.Proofs.Tree.Likeness

/-!
Trees that differ in their default selectors. An object takes its default selector if no other one
is in effect, and an empty one requests nothing. So two trees whose default selectors request the
same at each of their objects cannot be told apart: they take the same step, whatever selectors are
inherited, requested or ambient.
-/

set_option autoImplicit false

namespace RuleTree

theorem Context.withRuleSets_congr {first second : Option RuleSets}
    (same : RuleSets.nonEmpty? first = RuleSets.nonEmpty? second) (context : Context) :
    context.withRuleSets first = context.withRuleSets second := by
  rw [withRuleSets, same, withRuleSets]

/-- The second tree is the first one, but for default selectors that request the same. -/
inductive Node.SameDefaults : Node → Node → Prop where
  | same (node : Node) : SameDefaults node node
  | composite {rules : CompositeRules} {children : List Rule} :
      List.Forall₂ (fun part other => SameDefaults (.rule part) (.rule other)) rules.children
        children →
      SameDefaults (.rule (.composite rules)) (.rule (.composite { rules with children }))
  | conditional {rules : ConditionalRules} {accepted : ValueRules} {rejected : Option ValueRules} :
      SameDefaults (.rule (.value rules.accepted)) (.rule (.value accepted)) →
      List.Forall₂ (fun branch other => SameDefaults (.rule (.value branch)) (.rule (.value other)))
        rules.rejected.toList rejected.toList →
      SameDefaults (.rule (.conditional rules))
        (.rule (.conditional { rules with accepted, rejected }))
  | value {rules : ValueRules} {presence general : List RuleEntry} {nested : Option RuleEntry} :
      List.Forall₂ (fun held other => SameDefaults (.entry held) (.entry other)) rules.presence
        presence →
      List.Forall₂ (fun held other => SameDefaults (.entry held) (.entry other)) rules.general
        general →
      List.Forall₂ (fun held other => SameDefaults (.entry held) (.entry other))
        rules.nested.toList nested.toList →
      SameDefaults (.rule (.value rules)) (.rule (.value { rules with presence, general, nested }))
  | elements {rules : ElementRules} {element : Option Rule} :
      List.Forall₂ (fun rule other => SameDefaults (.rule rule) (.rule other))
        rules.element.toList element.toList →
      SameDefaults (.rule (.elements rules)) (.rule (.elements { rules with element }))
  | nested {reach : Reach} {rules other : ObjectRules} :
      SameDefaults (.object rules) (.object other) →
      SameDefaults (.rule (.object reach rules)) (.rule (.object reach other))
  | entry {held : RuleEntry} {rule : Rule} :
      SameDefaults (.rule held.rule) (.rule rule) →
      SameDefaults (.entry held) (.entry { held with rule })
  | property {held : PropertyRules} {rules : ValueRules} :
      SameDefaults (.rule (.value held.rules)) (.rule (.value rules)) →
      SameDefaults (.property held) (.property { held with rules })
  | object {rules : ObjectRules} {properties : List PropertyRules} {child : Option ObjectRules}
      {defaultRuleSets : Option RuleSets} :
      RuleSets.nonEmpty? defaultRuleSets = RuleSets.nonEmpty? rules.defaultRuleSets →
      List.Forall₂ (fun held other => SameDefaults (.property held) (.property other))
        rules.properties properties →
      List.Forall₂ (fun attached other => SameDefaults (.object attached) (.object other))
        rules.child.toList child.toList →
      SameDefaults (.object rules) (.object { rules with properties, child, defaultRuleSets })

namespace ObjectRules

theorem contextFor_sameDefaults {rules : ObjectRules} {defaultRuleSets : Option RuleSets}
    (defaults : RuleSets.nonEmpty? defaultRuleSets = RuleSets.nonEmpty? rules.defaultRuleSets)
    (value : Value) (context : Context) :
    { rules with defaultRuleSets }.contextFor value context = rules.contextFor value context := by
  have selector := RuleSets.nonEmpty?_or_congr defaults (context.selectorFor rules.inherited)
  have opened := Context.withRuleSets_congr selector (context.scope.withSubject value)
  exact congrArg (fun opened : Context =>
    (((opened.withResolver rules.resolver).withBridge rules.bridge).withMessages
      rules.messages).withAnnotationsEnabled
        (context.annotationsEnabled && !rules.suppressAnnotations)) opened

end ObjectRules

namespace Node.SameDefaults

theorem tag {node other : Node} (alike : SameDefaults node other) : other.tag = node.tag := by
  cases alike <;> rfl

theorem property_member {held other : PropertyRules}
    (alike : SameDefaults (.property held) (.property other)) : other.member = held.member := by
  cases alike <;> rfl

/-- Trees that are the node but for default selectors that request the same take its step. -/
def Unnoticed (node : Node) : Prop :=
  ∀ {other : Node}, node.SameDefaults other → ∀ (value : Value) (context : Context),
    other.evaluate value context = node.evaluate value context

theorem value_unnoticed {rules : ValueRules}
    (entries : ∀ held ∈ rules.entries, Unnoticed (.entry held)) :
    Unnoticed (.rule (.value rules)) := by
  intro other alike value context
  cases alike with
  | same => rfl
  | @value _ presence general nested presences generals nesteds =>
      refine value_evaluate_congr rfl (fun seen => ?_) value
      exact forall₂_imp_mem (List.rel_append (List.rel_append presences generals) nesteds)
        fun held member other pair => ⟨pair.tag, entries held member pair seen _⟩

theorem object_unnoticed {rules : ObjectRules}
    (properties : ∀ held ∈ rules.properties, Unnoticed (.property held))
    (child : ∀ attached ∈ rules.child, Unnoticed (.object attached)) :
    Unnoticed (.object rules) := by
  intro other alike value context
  cases alike with
  | same => rfl
  | @object _ declared attached defaultRuleSets defaults declares attaches =>
      have scope := ObjectRules.contextFor_sameDefaults defaults value context
      have attempts (inner : Context) :
          objectAttempts { rules with properties := declared, child := attached } value inner =
            objectAttempts rules value inner := by
        refine objectAttempts_congr rfl (fun _ => rfl)
          (forall₂_imp_mem declares fun held member other pair => ?_)
          (forall₂_imp_mem attaches fun held member other pair => ?_)
        · exact ⟨⟨pair.property_member, pair.tag⟩,
            properties held member pair value inner⟩
        · exact child held (Option.mem_toList.mp member) pair value inner
      rw [object_evaluate, object_evaluate, ← attempts, ← scope]
      rfl

/-- Trees whose default selectors request the same take the same step. -/
theorem unnoticed (node : Node) : Unnoticed node := by
  induction node with
  | leaf | contextual | presence | predicate =>
      intro other alike value context
      cases alike
      rfl
  | composite rules ih =>
      intro other alike value context
      cases alike with
      | same => rfl
      | composite parts =>
          rw [composite_evaluate, composite_evaluate]
          refine congrArg rules.mode.run
            (map_eq_of_forall₂_mem parts fun part member other pair => ?_)
          rw [ih part member pair]
  | conditional rules accepted rejected =>
      intro other alike value context
      cases alike with
      | same => rfl
      | conditional accepts rejects =>
          have refused := elim_eq_of_forall₂ rejects Step.pass fun branch member other pair =>
            rejected branch member pair value context
          rw [conditional_evaluate, conditional_evaluate]
          dsimp only
          rw [accepted accepts value context, refused]
  | value rules ih => exact value_unnoticed ih
  | elements rules ih =>
      intro other alike value context
      cases alike with
      | same => rfl
      | elements parts =>
          rw [elements_evaluate, elements_evaluate]
          refine elim_eq_of_forall₂ parts _ fun element member other pair => ?_
          exact congrArg (ElementRules.runItems rules.filter · 0 value.elements)
            (funext fun item => ih element member pair item context.scope)
  | nested reach rules ih =>
      intro other alike value context
      cases alike with
      | same => rfl
      | nested objects =>
          rw [nested_evaluate, nested_evaluate]
          cases value.nested? reach with
          | none => rfl
          | some record => exact ih objects record context
  | entry held ih =>
      intro other alike value context
      cases alike with
      | same => rfl
      | entry content =>
          rw [entry_evaluate, entry_evaluate]
          exact congrArg (Step.overriding held.message context) (ih content value context)
  | property held ih =>
      intro other alike value context
      cases alike with
      | same => rfl
      | property values =>
          rw [property_evaluate, property_evaluate]
          refine congrArg (Step.ask (held.accessor value)) (funext fun read => ?_)
          exact congrArg (fun step : Step =>
            ((PropertyRules.annotationStep held.annotated held.member read
              (held.scope context)).andThen step).below held.member)
            (ih values read (held.scope context))
  | object rules properties child => exact object_unnoticed properties child

end Node.SameDefaults

end RuleTree
