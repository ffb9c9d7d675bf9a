import RuleTree.Proofs.Tree.Inheriting
import RuleTree.Proofs.Tree.Pruning
import RuleTree.Proofs.Tree.Visit

/-!
One tree under two selectors. Two evaluations of a tree that differ in the selector only meet the
same candidates, and take them by the same tags. A list that a validator inherited takes the place
of both selectors, an ambient selector that of an absent one. A relation between the two reports
holds of the whole tree if its nodes keep it.
-/

set_option autoImplicit false

namespace RuleTree

/-! ### Contexts that differ in the selector -/

/-- The one asks for a selector where the other asks for a list of sets, unless both ask for the
same. -/
def RuleSets.Exchanged (selector : Option RuleSets) (sets : RuleSets)
    (first second : Option RuleSets) : Prop :=
  first = second ∨ first = selector ∧ second = some sets

/-- The same lists in front and behind leave two selectors exchanged, unless an absent one would be
filled up. -/
theorem RuleSets.Exchanged.resolved {selector first second : Option RuleSets} {sets : RuleSets}
    (exchanged : Exchanged selector sets first second) (requested : NotEmpty selector)
    (listed : sets.isEmpty = false) (inherited : Option RuleSets) {default : Option RuleSets}
    (noDefault : selector = none → nonEmpty? default = none) :
    Exchanged selector sets (nonEmpty? ((inherited.or first).or default))
      (nonEmpty? ((inherited.or second).or default)) := by
  cases inherited with
  | some kept => exact .inl rfl
  | none =>
      rcases exchanged with rfl | ⟨rfl, rfl⟩
      · exact .inl rfl
      · refine .inr ⟨?_, nonEmpty?_some listed⟩
        cases first with
        | none => exact noDefault rfl
        | some kept => exact nonEmpty?_some (requested kept rfl)

/-- The one context asks for a selector where the other asks for a list of sets. All else is the
same in both, and only bridges of a kind are asked. -/
structure Context.Exchanges (asked : AnnotationBridge → Prop) (selector : Option RuleSets)
    (sets : RuleSets) (context other : Context) : Prop where
  surroundings : context.surroundings = other.surroundings
  ambient : context.defaultRuleSets = other.defaultRuleSets
  bridge : ∀ bridge ∈ context.activeBridge, asked bridge
  requested : RuleSets.NotEmpty context.ruleSets
  listed : RuleSets.NotEmpty other.ruleSets
  ruleSets : RuleSets.Exchanged selector sets context.ruleSets other.ruleSets
  noDefault : selector = none → RuleSets.nonEmpty? context.defaultRuleSets = none

namespace Node

/-- An object has no bridge but one of a kind. -/
def AsksOnly (asked : AnnotationBridge → Prop) : Node → Prop
  | .object rules => ∀ bridge ∈ rules.bridge, asked bridge
  | _ => True

/-- The options of an object have no default selector. -/
def NoDefault : Node → Prop
  | .object rules => RuleSets.nonEmpty? rules.defaultRuleSets = none
  | _ => True

end Node

theorem PropertyRules.activeBridge_scope (held : PropertyRules) (context : Context) :
    (held.scope context).activeBridge = context.activeBridge :=
  congrArg (fun shown : Surroundings => if shown.annotationsEnabled then shown.bridge else none)
    (held.surroundings_scope context)

theorem ValueRules.activeBridge_scope (rules : ValueRules) (context : Context) :
    (rules.scope context).activeBridge = context.activeBridge :=
  congrArg (fun shown : Surroundings => if shown.annotationsEnabled then shown.bridge else none)
    (rules.surroundings_scope context)

/-- The bridge that is asked on the level of an object is its own or the one that was asked around
it. -/
theorem ObjectRules.activeBridge_contextFor {rules : ObjectRules} {value : Value}
    {context : Context} {bridge : AnnotationBridge}
    (active : bridge ∈ (rules.contextFor value context).activeBridge) :
    bridge ∈ rules.bridge ∨ bridge ∈ context.activeBridge := by
  have shown : (rules.contextFor value context).activeBridge =
      if context.annotationsEnabled && !rules.suppressAnnotations then
        rules.bridge.or context.bridge else none :=
    congrArg (fun shown : Surroundings =>
      if shown.annotationsEnabled then shown.bridge else none)
      (rules.surroundings_contextFor value context)
  rw [shown] at active
  split at active
  · next enabled =>
      rcases Option.or_eq_some_iff.mp active with own | ⟨_, around⟩
      · exact .inl own
      · refine .inr ?_
        rw [Context.activeBridge, if_pos (Bool.and_eq_true_iff.mp enabled).1]
        exact around
  · exact absurd active nofun

section

variable {asked : AnnotationBridge → Prop} {selector : Option RuleSets} {sets : RuleSets}
  {context other : Context}

namespace Context.Exchanges

theorem scope (exchanges : context.Exchanges asked selector sets other) :
    context.scope.Exchanges asked selector sets other.scope :=
  { exchanges with }

theorem property (exchanges : context.Exchanges asked selector sets other) (held : PropertyRules) :
    (held.scope context).Exchanges asked selector sets (held.scope other) :=
  { exchanges with
    surroundings := by
      rw [held.surroundings_scope, held.surroundings_scope, exchanges.surroundings] }

theorem value (exchanges : context.Exchanges asked selector sets other)
    (requested : RuleSets.NotEmpty selector) (listed : sets.isEmpty = false) (rules : ValueRules) :
    (rules.scope context).Exchanges asked selector sets (rules.scope other) where
  surroundings := by
    rw [rules.surroundings_scope, rules.surroundings_scope, exchanges.surroundings]
  ambient := by
    rw [rules.defaultRuleSets_scope, rules.defaultRuleSets_scope, exchanges.ambient]
  bridge := by
    rw [rules.activeBridge_scope]
    exact exchanges.bridge
  requested := by
    rw [rules.ruleSets_scope_of_requested exchanges.requested]
    exact RuleSets.notEmpty_nonEmpty? _
  listed := by
    rw [rules.ruleSets_scope_of_requested exchanges.listed]
    exact RuleSets.notEmpty_nonEmpty? _
  ruleSets := by
    rw [rules.ruleSets_scope_of_requested exchanges.requested,
      rules.ruleSets_scope_of_requested exchanges.listed, selectorFor, selectorFor,
      ← exchanges.ambient]
    exact exchanges.ruleSets.resolved requested listed rules.inherited exchanges.noDefault
  noDefault absent := by
    rw [rules.defaultRuleSets_scope]
    exact exchanges.noDefault absent

theorem object (exchanges : context.Exchanges asked selector sets other)
    (requested : RuleSets.NotEmpty selector) (listed : sets.isEmpty = false) {rules : ObjectRules}
    (bridge : ∀ bridge ∈ rules.bridge, asked bridge)
    (noDefault : selector = none → RuleSets.nonEmpty? rules.defaultRuleSets = none)
    (value : Value) :
    (rules.contextFor value context).Exchanges asked selector sets
      (rules.contextFor value other) where
  surroundings := by
    rw [rules.surroundings_contextFor, rules.surroundings_contextFor, exchanges.surroundings]
  ambient := exchanges.ambient
  bridge active member :=
    (ObjectRules.activeBridge_contextFor member).elim (bridge active) (exchanges.bridge active)
  requested := RuleSets.notEmpty_nonEmpty? _
  listed := RuleSets.notEmpty_nonEmpty? _
  ruleSets := by
    have resolved := exchanges.ruleSets.resolved requested listed rules.inherited fun absent =>
      RuleSets.nonEmpty?_or (exchanges.noDefault absent) (noDefault absent)
    rw [← Option.or_assoc, ← Option.or_assoc] at resolved
    change RuleSets.Exchanged selector sets
      (RuleSets.nonEmpty? ((context.selectorFor rules.inherited).or rules.defaultRuleSets))
      (RuleSets.nonEmpty? ((other.selectorFor rules.inherited).or rules.defaultRuleSets))
    rw [selectorFor, selectorFor, ← exchanges.ambient]
    exact resolved
  noDefault := exchanges.noDefault

end Context.Exchanges

/-! ### Visits in two such contexts -/

theorem Node.candidates_congr (node : Node) (value : Value)
    (alike : context.surroundings = other.surroundings) :
    node.candidates value context = node.candidates value other := by
  cases node with
  | entry held => simp only [candidates, MessageOverride.retitle_congr held.message alike]
  | property | object => rfl
  | rule held => cases held <;> rfl

theorem Visit.inside_exchanged {node : Node} (requested : RuleSets.NotEmpty selector)
    (listed : sets.isEmpty = false) (bridge : node.AsksOnly asked)
    (noDefault : selector = none → node.NoDefault)
    (exchanges : context.Exchanges asked selector sets other) (value : Value) :
    (inside ⟨node, value, context⟩).Exchanges asked selector sets
      (inside ⟨node, value, other⟩) := by
  cases node with
  | entry => exact exchanges
  | property held => exact exchanges.property held
  | object rules => exact exchanges.object requested listed bridge noDefault value
  | rule held =>
      cases held with
      | value rules => exact exchanges.value requested listed rules
      | elements => exact exchanges.scope
      | leaf | contextual | presence | predicate | composite | conditional | object =>
          exact exchanges

/-! ### Reports in two such contexts -/

/-- Bridges that do not read the selector report the same about the value of a property. -/
theorem PropertyRules.annotations_exchanged
    (reads : ∀ bridge ∈ context.activeBridge, bridge.IgnoresSelector)
    (alike : context.surroundings = other.surroundings) (held : PropertyRules) (value : Value) :
    held.annotations value context = held.annotations value other := by
  have resolver : context.resolver = other.resolver := congrArg Surroundings.resolver alike
  have request : PropertyRules.request held.member context =
      { PropertyRules.request held.member other with ruleSets := context.ruleSets } := by
    rw [PropertyRules.request, PropertyRules.request, Context.messageName_congr alike, resolver]
  unfold annotations
  rw [← Context.activeBridge_congr alike, request]
  cases held.annotated with
  | false => rfl
  | true =>
      cases active : context.activeBridge with
      | none => rfl
      | some bridge =>
          exact congrArg (AnnotationBridge.reported _) (reads bridge active value _ _)

/-- They report the same about an object if the same of its properties are active. -/
theorem ObjectRules.annotations_exchanged {rules : ObjectRules}
    (reads : ∀ bridge ∈ context.activeBridge, bridge.IgnoresSelector)
    (agrees : ∀ bridge ∈ context.activeBridge, ∀ held ∈ rules.properties,
      held.isActive context.ruleSets = held.isActive other.ruleSets)
    (alike : context.surroundings = other.surroundings) (value : Value) :
    rules.annotations value context = rules.annotations value other := by
  unfold annotations
  rw [← Context.activeBridge_congr alike]
  cases active : context.activeBridge with
  | none => rfl
  | some bridge =>
      have members : rules.activeMembers context.ruleSets = rules.activeMembers other.ruleSets :=
        congrArg (List.map PropertyRules.member) (List.filter_congr (agrees bridge active))
      have display : context.display = other.display :=
        congrArg (fun shown : Surroundings => shown.display.or shown.member) alike
      have member : context.member = other.member := congrArg Surroundings.member alike
      have resolver : context.resolver = other.resolver := congrArg Surroundings.resolver alike
      have request : rules.requestFor context =
          { rules.requestFor other with ruleSets := context.ruleSets } := by
        rw [requestFor, requestFor, ObjectRules.request, ObjectRules.request, members, display,
          member, resolver]
      have wants : (rules.requestFor context).wants = (rules.requestFor other).wants := by
        rw [request]
        rfl
      simp only [wants]
      rw [request, reads bridge active]

end

/-- A way to compare what a tree reports under one selector and under another, with the modes that
keep it, the choices between candidates that it allows, and the bridges that may be asked. -/
structure Comparison where
  fits : Report → Report → Prop
  mode : Mode → Prop
  chosen : Bool → Bool → Prop
  asked : AnnotationBridge → Prop
  unchanged (taken : Bool) : chosen taken taken
  ignores {bridge : AnnotationBridge} : asked bridge → bridge.IgnoresSelector
  agrees {bridge : AnnotationBridge} {taken takenOther : Bool} : asked bridge →
    chosen taken takenOther → taken = takenOther
  edited (edit : Failure → Failure) {first second : Report} :
    fits first second → fits (first.map edit) (second.map edit)
  merged {runs : Mode} (own : List Report) {α : Type} {items : List α} {taken takenOther : α → Bool}
    {first second : α → Report} : mode runs →
      (∀ item ∈ items, chosen (taken item) (takenOther item)) →
      (∀ item ∈ items, fits (first item) (second item)) →
      fits (runs.merge (own ++ (items.filter taken).map first))
        (runs.merge (own ++ (items.filter takenOther).map second))

variable {comparison : Comparison} {selector : Option RuleSets} {sets : RuleSets}

/-- A node of a tree that can be compared under two selectors. -/
structure Node.Compared (comparison : Comparison) (selector : Option RuleSets) (sets : RuleSets)
    (node : Node) : Prop where
  mode : comparison.mode node.mode
  chosen : comparison.chosen (RuleSets.isActive node.tag selector)
    (RuleSets.isActive node.tag (some sets))
  ignores : node.IgnoresRequest
  bridge : node.AsksOnly comparison.asked
  noDefault : selector = none → node.NoDefault

namespace Node

theorem Compared.chosen_exchanged {node : Node} (compared : node.Compared comparison selector sets)
    {context other : Context}
    (exchanges : context.Exchanges comparison.asked selector sets other) :
    comparison.chosen (RuleSets.isActive node.tag context.ruleSets)
      (RuleSets.isActive node.tag other.ruleSets) := by
  rcases exchanges.ruleSets with same | ⟨first, second⟩
  · rw [same]
    exact comparison.unchanged _
  · rw [first, second]
    exact compared.chosen

/-- What a visit reports itself does not depend on the selector, as far as it is not compared. -/
theorem Compared.own {node : Node} (compared : node.Compared comparison selector sets)
    (below : ∀ child ∈ node.children, child.Compared comparison selector sets) (value : Value)
    {context other : Context} (exchanges : context.Exchanges comparison.asked selector sets other)
    (inside : (Visit.inside ⟨node, value, context⟩).Exchanges comparison.asked selector sets
      (Visit.inside ⟨node, value, other⟩)) :
    Visit.own ⟨node, value, context⟩ = Visit.own ⟨node, value, other⟩ := by
  have alike := exchanges.surroundings
  have reads (bridge : AnnotationBridge)
      (active : bridge ∈ (Visit.inside ⟨node, value, context⟩).activeBridge) :
      bridge.IgnoresSelector := comparison.ignores (inside.bridge bridge active)
  cases node with
  | entry => rfl
  | property held =>
      have same := held.annotations_exchanged reads inside.surroundings (held.read value)
      exact congrArg (fun report => [report.map (Failure.below held.member)]) same
  | object rules =>
      have agrees (bridge : AnnotationBridge)
          (active : bridge ∈ (rules.contextFor value context).activeBridge) (held : PropertyRules)
          (declared : held ∈ rules.properties) :
          held.isActive (rules.contextFor value context).ruleSets =
            held.isActive (rules.contextFor value other).ruleSets := by
        have child := below (.property held) (by simp [children, declared])
        exact comparison.agrees (inside.bridge bridge active) (child.chosen_exchanged inside)
      have same := ObjectRules.annotations_exchanged reads agrees inside.surroundings value
      exact congrArg (fun reports => if rules.accepts value then reports else []) same
  | rule held =>
      cases held with
      | leaf held =>
          exact congrArg (fun report => [report])
            (Step.examined_congr held.type value alike fun _ => rfl)
      | contextual held =>
          exact congrArg (fun report => [report])
            (Step.examined_congr held.type value alike fun input =>
              compared.ignores input context other alike exchanges.ambient)
      | presence => simp only [Visit.own, Step.rejected_congr _ none alike]
      | predicate test =>
          simp only [Visit.own, compared.ignores value context other alike exchanges.ambient,
            Step.rejected_congr _ none alike]
      | composite | conditional | value | elements | object => rfl

/-- A comparison that every node of a tree allows holds of the reports of the tree. -/
theorem report_compared (requested : RuleSets.NotEmpty selector) (listed : sets.isEmpty = false)
    {node : Node} (compared : node.Everywhere (Compared comparison selector sets)) (value : Value)
    {context other : Context}
    (exchanges : context.Exchanges comparison.asked selector sets other) :
    comparison.fits (node.report value context) (node.report value other) := by
  induction compared generalizing value context other with
  | @intro node here below ih =>
      have inside := Visit.inside_exchanged requested listed here.bridge here.noDefault exchanges
        value
      have own := here.own (fun child member => (below child member).here) value exchanges inside
      have report (context : Context) := Visit.report_candidates ⟨node, value, context⟩
      simp only [Visit.report] at report
      rw [report context, report other, own, node.candidates_congr value exchanges.surroundings]
      refine comparison.merged _ here.mode (fun candidate member => ?_) fun candidate member => ?_
      · exact (below _ (candidate_child member)).here.chosen_exchanged inside
      · exact comparison.edited _ (ih _ (candidate_child member) candidate.value inside)

end Node

end RuleTree
