import RuleTree.Proofs.Tree.Variation

/-!
Trees that cannot be told apart. What varies between two trees and their contexts goes unnoticed if
neither the modes, nor the words of messages, nor the annotations show it, and if no function of the
user sees it. The two trees then take the same step: with the same failures, the same flow and the
same notes in the journal.
-/

set_option autoImplicit false

namespace RuleTree

/-- What the user supplied at a node does the same in contexts that are alike. -/
def Node.BlindTo (alike : Context → Context → Prop) : Node → Prop
  | .rule (.contextual held) => ∀ input first second, alike first second →
    held.check input second = held.check input first
  | .rule (.predicate test) => ∀ value first second, alike first second →
    test value second = test value first
  | _ => True

/-! ### Steps that read the words of a context only -/

/-- Contexts in which messages are the same. -/
structure Context.Speaks (first second : Context) : Prop where
  messageName : second.messageName = first.messageName
  messages : second.messages = first.messages

namespace Context.Speaks

variable {first second : Context}

theorem reject (speaks : first.Speaks second) (failure : Failure) (tried : Option String) :
    Step.reject failure tried second = Step.reject failure tried first := by
  rw [Step.reject, speaks.messageName, speaks.messages, Step.reject]

theorem require (speaks : first.Speaks second) (holds : Bool) (failure : Failure) :
    Step.require holds failure second = Step.require holds failure first := by
  rw [Step.require, speaks.reject, Step.require]

theorem examine (speaks : first.Speaks second) (type : LeafType)
    (check : type.Carrier → Logged (Option Failure)) (value : Value) :
    Step.examine type check value second = Step.examine type check value first := by
  unfold Step.examine
  simp only [speaks.reject]

theorem overriding (speaks : first.Speaks second) (override : Option MessageOverride)
    (step : Step) : Step.overriding override second step = Step.overriding override first step := by
  cases override with
  | none => rfl
  | some override =>
      have applied : override.apply second = override.apply first := by
        funext failure
        unfold MessageOverride.apply
        rw [speaks.messageName, speaks.messages]
      rw [Step.overriding, applied, Step.overriding]

end Context.Speaks

/-! ### What goes unnoticed -/

/-- A variation that no step notices in contexts in which it is quiet. -/
structure Variation.Unnoticed (variation : Variation) where
  quiet : Context → Prop
  inside (visit : Visit) : quiet visit.context → quiet visit.inside
  mode {first second : Mode} : variation.mode first second → second = first
  speaks {first second : Context} : variation.context first second → first.Speaks second
  property {first second : Context} : variation.context first second → quiet first →
    ∀ annotated member value, PropertyRules.annotationStep annotated member value second =
      PropertyRules.annotationStep annotated member value first
  object {first second : Context} : variation.context first second → quiet first →
    ∀ validateAll skip value, ObjectRules.annotationAttempts validateAll skip value second =
      ObjectRules.annotationAttempts validateAll skip value first

theorem forall₂_imp_mem {α β : Type} {alike related : α → β → Prop} {items : List α}
    {others : List β} (forall₂ : List.Forall₂ alike items others)
    (implies : ∀ item ∈ items, ∀ other, alike item other → related item other) :
    List.Forall₂ related items others := by
  have pairs := (List.forall₂_and_left _ _).mpr
    ⟨fun item (member : item ∈ items) => member, forall₂⟩
  exact pairs.imp fun item other ⟨member, alike⟩ => implies item member other alike

theorem map_eq_of_forall₂_mem {α β γ : Type} {alike : α → β → Prop} {items : List α}
    {others : List β} (forall₂ : List.Forall₂ alike items others) {shown : α → γ}
    {shownOther : β → γ}
    (same : ∀ item ∈ items, ∀ other, alike item other → shownOther other = shown item) :
    others.map shownOther = items.map shown :=
  map_eq_of_forall₂ (forall₂_imp_mem forall₂ same) fun _ _ => id

/-! ### The steps of nodes by those of the nodes right below -/

namespace Node

theorem composite_evaluate (rules : CompositeRules) (value : Value) (context : Context) :
    (rule (.composite rules)).evaluate value context =
      rules.mode.run
        (rules.children.map fun part => .made ((rule part).evaluate value context)) := by
  rw [← Rule.attempts_eq]
  cases rules
  rfl

theorem conditional_evaluate (rules : ConditionalRules) (value : Value) (context : Context) :
    (rule (.conditional rules)).evaluate value context =
      .ask (rules.condition value) fun holds =>
        if holds then (rule (.value rules.accepted)).evaluate value context
        else rules.rejected.elim .pass fun branch =>
          (rule (.value branch)).evaluate value context := by
  obtain ⟨condition, accepted, rejected⟩ := rules
  cases rejected <;> rfl

theorem elements_evaluate (rules : ElementRules) (value : Value) (context : Context) :
    (rule (.elements rules)).evaluate value context =
      rules.element.elim .pass fun element =>
        ElementRules.runItems rules.filter
          (fun item => (rule element).evaluate item context.scope) 0 value.elements := by
  obtain ⟨element, filter⟩ := rules
  cases element <;> rfl

theorem nested_evaluate (reach : Reach) (rules : ObjectRules) (value : Value)
    (context : Context) :
    (rule (.object reach rules)).evaluate value context =
      (value.nested? reach).elim .pass fun record => (object rules).evaluate record context := by
  simp only [evaluate, Rule.evaluate]
  cases value.nested? reach <;> rfl

theorem entry_evaluate (held : RuleEntry) (value : Value) (context : Context) :
    (entry held).evaluate value context =
      .overriding held.message context ((rule held.rule).evaluate value context) := by
  cases held
  rfl

theorem property_evaluate (held : PropertyRules) (value : Value) (context : Context) :
    (property held).evaluate value context =
      .ask (held.accessor value) fun read =>
        ((PropertyRules.annotationStep held.annotated held.member read (held.scope context)).andThen
          ((rule (.value held.rules)).evaluate read (held.scope context))).below held.member := by
  cases held
  rfl

/-! ### The same step from the same steps right below -/

theorem value_evaluate_congr {rules : ValueRules} {presence general : List RuleEntry}
    {nested : Option RuleEntry} {first second : Context}
    (selector : (rules.scope second).ruleSets = (rules.scope first).ruleSets)
    (pairs : ∀ seen, List.Forall₂ (fun held other : RuleEntry => other.tag = held.tag ∧
      (entry other).evaluate seen (rules.scope second) =
        (entry held).evaluate seen (rules.scope first))
      rules.entries (presence ++ general ++ nested.toList)) (value : Value) :
    (rule (.value { rules with presence, general, nested })).evaluate value second =
      (rule (.value rules)).evaluate value first := by
  have run (seen : Value) :
      ValueRules.runEntries { rules with presence, general, nested } (rules.scope second) seen =
        rules.runEntries (rules.scope first) seen := by
    refine congrArg rules.mode.run ?_
    rw [RuleEntry.attempts_eq, RuleEntry.attempts_eq]
    refine map_eq_of_forall₂ (pairs seen) fun held other ⟨tag, step⟩ => ?_
    rw [RuleEntry.isActive, RuleEntry.isActive, tag, selector, step]
  have prepared :
      ValueRules.runPrepared { rules with presence, general, nested } value (rules.scope second) =
        rules.runPrepared value (rules.scope first) := by
    unfold ValueRules.runPrepared
    cases rules.preprocess with
    | none => exact run value
    | some transform =>
        exact congrArg (Step.ask (transform value))
          (funext fun made => congrArg Step.transient (run made))
  rw [value_evaluate, value_evaluate, ← prepared]
  rfl

theorem objectAttempts_congr {rules : ObjectRules} {declared : List PropertyRules}
    {attached : Option ObjectRules} {value : Value} {first second : Context}
    (selector : second.ruleSets = first.ruleSets)
    (annotations : ∀ skip, ObjectRules.annotationAttempts rules.validateAll skip value second =
      ObjectRules.annotationAttempts rules.validateAll skip value first)
    (declares : List.Forall₂ (fun held other : PropertyRules =>
      (other.member = held.member ∧ other.tag = held.tag) ∧
        (property other).evaluate value second = (property held).evaluate value first)
      rules.properties declared)
    (attaches : List.Forall₂ (fun held other : ObjectRules =>
      (object other).evaluate value second = (object held).evaluate value first)
      rules.child.toList attached.toList) :
    objectAttempts { rules with properties := declared, child := attached } value second =
      objectAttempts rules value first := by
  have members :
      ({ rules with properties := declared } : ObjectRules).activeMembers second.ruleSets =
        rules.activeMembers first.ruleSets := by
    rw [selector]
    exact ObjectRules.activeMembers_congr (declares.imp fun _ _ pair => pair.1) _
  have annotated :
      ObjectRules.annotationAttempt { rules with properties := declared, child := attached } value
          second =
        rules.annotationAttempt value first := by
    rw [ObjectRules.annotationAttempt, ObjectRules.annotationAttempt, ← members]
    exact annotations _
  have declaring : PropertyRules.attempts declared value second =
      PropertyRules.attempts rules.properties value first := by
    rw [PropertyRules.attempts_eq, PropertyRules.attempts_eq]
    refine map_eq_of_forall₂ declares ?_
    rintro held other ⟨⟨member, tag⟩, step⟩
    rw [PropertyRules.isActive, PropertyRules.isActive, tag, member, selector, step]
  have delegating : ObjectRules.attemptsOption attached value second =
      ObjectRules.attemptsOption rules.child value first := by
    rw [ObjectRules.attemptsOption_eq, ObjectRules.attemptsOption_eq]
    exact map_eq_of_forall₂ attaches fun held other step => congrArg Attempt.made step
  rw [objectAttempts, annotated, declaring, delegating, objectAttempts]

end Node

theorem elim_eq_of_forall₂ {α β γ : Type} {alike : α → β → Prop} {item : Option α}
    {other : Option β} (forall₂ : List.Forall₂ alike item.toList other.toList) (fallback : γ)
    {shown : α → γ} {shownOther : β → γ}
    (same : ∀ held ∈ item, ∀ changed, alike held changed → shownOther changed = shown held) :
    other.elim fallback shownOther = item.elim fallback shown := by
  cases item with
  | none =>
      cases other with
      | none => rfl
      | some changed => cases forall₂
  | some held =>
      cases other with
      | none => cases forall₂
      | some changed =>
          cases forall₂ with
          | cons pair _ => exact same held rfl changed pair

namespace Variation.Unnoticed

variable {variation : Variation}

/-- In alike contexts the varied trees take the step of the tree. -/
def Same (unnoticed : variation.Unnoticed) (node : Node) : Prop :=
  ∀ {other : Node}, node.Varies variation other → ∀ (value : Value) {first second : Context},
    variation.context first second → unnoticed.quiet first →
      other.evaluate value second = node.evaluate value first

variable (unnoticed : variation.Unnoticed)

theorem value_same {rules : ValueRules}
    (entries : ∀ held ∈ rules.entries, unnoticed.Same (.entry held)) :
    unnoticed.Same (.rule (.value rules)) := by
  intro other varies value first second contexts quiet
  cases varies with
  | @value _ presence general nested mode modes presences generals nesteds =>
      obtain rfl := unnoticed.mode modes
      have inner := variation.value rules contexts
      have quietInside := unnoticed.inside ⟨.rule (.value rules), value, first⟩ quiet
      refine Node.value_evaluate_congr (variation.ruleSets inner) (fun seen => ?_) value
      refine forall₂_imp_mem (List.rel_append (List.rel_append presences generals) nesteds)
        fun held member other alike => ⟨alike.tag, ?_⟩
      exact entries held member alike seen inner quietInside

theorem conditional_same {rules : ConditionalRules}
    (accepted : unnoticed.Same (.rule (.value rules.accepted)))
    (rejected : ∀ branch ∈ rules.rejected, unnoticed.Same (.rule (.value branch))) :
    unnoticed.Same (.rule (.conditional rules)) := by
  intro other varies value first second contexts quiet
  cases varies with
  | conditional accepts rejects =>
      have refused := elim_eq_of_forall₂ rejects Step.pass fun branch member other alike =>
        rejected branch member alike value contexts quiet
      rw [Node.conditional_evaluate, Node.conditional_evaluate]
      dsimp only
      rw [accepted accepts value contexts quiet, refused]

theorem property_same {held : PropertyRules} (rules : unnoticed.Same (.rule (.value held.rules))) :
    unnoticed.Same (.property held) := by
  intro other varies value first second contexts quiet
  cases varies with
  | property values =>
      have inner := variation.property held contexts
      have quietInside := unnoticed.inside ⟨.property held, value, first⟩ quiet
      rw [Node.property_evaluate, Node.property_evaluate]
      refine congrArg (Step.ask (held.accessor value)) (funext fun read => ?_)
      have annotated := unnoticed.property inner quietInside held.annotated held.member read
      have valued := rules values read inner quietInside
      exact congrArg₂ (fun first second : Step => (first.andThen second).below held.member)
        annotated valued

/-- For an object it is enough that the contexts are quiet in which it validates. -/
theorem object_evaluate {rules : ObjectRules}
    (properties : ∀ held ∈ rules.properties, unnoticed.Same (.property held))
    (child : ∀ attached ∈ rules.child, unnoticed.Same (.object attached))
    {other : Node} (varies : (Node.object rules).Varies variation other) (value : Value)
    {first second : Context} (contexts : variation.context first second)
    (quiet : unnoticed.quiet (rules.contextFor value first)) :
    other.evaluate value second = (Node.object rules).evaluate value first := by
  cases varies with
  | @object _ declared attached mode bridge modes bridges declares attaches =>
      obtain rfl := unnoticed.mode modes
      have inner := variation.object rules value bridges contexts
      have attempts : Node.objectAttempts { rules with properties := declared, child := attached }
            value ({ rules with bridge }.contextFor value second) =
          Node.objectAttempts rules value (rules.contextFor value first) := by
        refine Node.objectAttempts_congr (variation.ruleSets inner)
          (fun skip => unnoticed.object inner quiet _ skip value)
          (forall₂_imp_mem declares fun held member other alike => ?_)
          (forall₂_imp_mem attaches fun held member other alike => ?_)
        · exact ⟨⟨alike.property_member, alike.tag⟩,
            properties held member alike value inner quiet⟩
        · exact child held (Option.mem_toList.mp member) alike value inner quiet
      rw [Node.object_evaluate, Node.object_evaluate, ← attempts]
      rfl

/-- Trees that vary unnoticed take the same step. -/
theorem same {node : Node} (blind : node.Everywhere (Node.BlindTo variation.context)) :
    unnoticed.Same node := by
  -- Over the tree, as the contexts below a node are alike by the laws of the variation. Only leaves
  -- and tests look at a context themselves.
  induction node with
  | leaf held =>
      intro other varies value first second contexts _
      cases varies
      exact (unnoticed.speaks contexts).examine held.type held.check value
  | contextual held =>
      intro other varies value first second contexts _
      cases varies
      have checked : (fun input => held.check input second) = fun input => held.check input first :=
        funext fun input => blind.here input first second contexts
      exact ((unnoticed.speaks contexts).examine held.type _ value).trans
        (congrArg (Step.examine held.type · value first) checked)
  | presence =>
      intro other varies value first second contexts _
      cases varies
      exact (unnoticed.speaks contexts).require value.isPresent .required
  | predicate test =>
      intro other varies value first second contexts _
      cases varies
      have tested : test value second = test value first := blind.here value first second contexts
      have required (holds : Bool) :=
        (unnoticed.speaks contexts).require holds Step.predicateFailure
      exact congrArg₂ Step.ask tested (funext required)
  | composite rules ih =>
      intro other varies value first second contexts quiet
      cases varies with
      | composite modes parts =>
          obtain rfl := unnoticed.mode modes
          rw [Node.composite_evaluate, Node.composite_evaluate]
          refine congrArg rules.mode.run
            (map_eq_of_forall₂_mem parts fun part member other alike => ?_)
          rw [ih part member (blind.part member) alike value contexts quiet]
  | conditional rules accepted rejected =>
      exact unnoticed.conditional_same (accepted blind.accepted)
        fun branch member => rejected branch member (blind.rejected member)
  | value rules ih =>
      exact unnoticed.value_same fun held member => ih held member (blind.entry member)
  | elements rules ih =>
      intro other varies value first second contexts quiet
      cases varies with
      | elements parts =>
          have quietInside := unnoticed.inside ⟨.rule (.elements rules), value, first⟩ quiet
          rw [Node.elements_evaluate, Node.elements_evaluate]
          refine elim_eq_of_forall₂ parts _ fun element member other alike => ?_
          have items : (fun item => (Node.rule other).evaluate item second.scope) =
              fun item => (Node.rule element).evaluate item first.scope :=
            funext fun item => ih element member (blind.element member) alike item
              (variation.scope contexts) quietInside
          rw [items]
  | nested reach rules ih =>
      intro other varies value first second contexts quiet
      cases varies with
      | nested objects =>
          rw [Node.nested_evaluate, Node.nested_evaluate]
          cases value.nested? reach with
          | none => rfl
          | some record => exact ih blind.nested objects record contexts quiet
  | entry held ih =>
      intro other varies value first second contexts quiet
      cases varies with
      | entry content =>
          rw [Node.entry_evaluate, Node.entry_evaluate]
          dsimp only
          rw [ih blind.content content value contexts quiet,
            (unnoticed.speaks contexts).overriding]
  | property held ih => exact unnoticed.property_same (ih blind.rules)
  | object rules properties child =>
      intro other varies value first second contexts quiet
      have quietInside := unnoticed.inside ⟨.object rules, value, first⟩ quiet
      exact unnoticed.object_evaluate
        (fun held member => properties held member (blind.property member))
        (fun attached member => child attached member (blind.child member)) varies value contexts
        quietInside

end Variation.Unnoticed

end RuleTree
