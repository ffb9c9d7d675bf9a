import RuleTree.Proofs.Tree.FirstFailure
import RuleTree.Proofs.Tree.Handing
import RuleTree.Proofs.Tree.Pruning

/-!
Inheriting a selector and being asked for it. A tree that was handed a selector reports on any
request what it would have reported on a request for that selector. The selector goes two ways to
the same end: through the tree, as far as it is handed on, and through the context from there.
-/

set_option autoImplicit false

namespace RuleTree

/-! ### Contexts that show the same -/

/-- The test gives the same answer whatever is requested. It may look up the ambient selector and
whatever the surroundings show. A test that counts the levels of the context, by its depth, its
parents, or whether the innermost level is empty, does not ignore the request: the rules of a value
open a level if their selector differs from the one around them. -/
def ContextTest.IgnoresRequest (test : ContextTest) : Prop :=
  ∀ value (context other : Context), context.surroundings = other.surroundings →
    context.defaultRuleSets = other.defaultRuleSets →
      (test value context).value = (test value other).value

/-- The leaf gives the same answer whatever is requested. As for a test, this leaves out a leaf that
counts the levels of the context. -/
def ContextualLeaf.IgnoresRequest (leaf : ContextualLeaf) : Prop :=
  ∀ input (context other : Context), context.surroundings = other.surroundings →
    context.defaultRuleSets = other.defaultRuleSets →
      (leaf.check input context).value = (leaf.check input other).value

def Node.IgnoresRequest : Node → Prop
  | .rule (.contextual leaf) => leaf.IgnoresRequest
  | .rule (.predicate test) => ContextTest.IgnoresRequest test
  | _ => True

namespace Context

/-- All that is looked up in the one context is the same in the other. -/
structure Alike (context other : Context) : Prop where
  surroundings : context.surroundings = other.surroundings
  ambient : context.defaultRuleSets = other.defaultRuleSets
  ruleSets : context.ruleSets = other.ruleSets

/-- The other context asks for a selector and is the same else. -/
structure Asks (sets : RuleSets) (context asked : Context) : Prop where
  surroundings : context.surroundings = asked.surroundings
  ambient : context.defaultRuleSets = asked.defaultRuleSets
  requested : RuleSets.NotEmpty context.ruleSets
  asked : asked.ruleSets = some sets

variable {context other : Context}

theorem Alike.scope (alike : context.Alike other) : context.scope.Alike other.scope :=
  ⟨alike.surroundings, alike.ambient, alike.ruleSets⟩

theorem Asks.scope {sets : RuleSets} (asks : context.Asks sets other) :
    context.scope.Asks sets other.scope :=
  ⟨asks.surroundings, asks.ambient, asks.requested, asks.asked⟩

theorem Asks.listed {sets : RuleSets} (asks : context.Asks sets other)
    (nonempty : sets.isEmpty = false) : RuleSets.NotEmpty other.ruleSets := by
  rw [asks.asked]
  exact RuleSets.notEmpty_some nonempty

end Context

/-- What the user supplied at a node gives the same answers in both contexts. -/
def Node.AnswersAlike (context other : Context) : Node → Prop
  | .rule (.contextual held) => ∀ input,
    (held.check input context).value = (held.check input other).value
  | .rule (.predicate test) => ∀ value, (test value context).value = (test value other).value
  | _ => True

/-- What the user supplied at a node gives the same answers wherever the same is looked up. -/
def Node.LooksUp (node : Node) : Prop :=
  ∀ context other : Context, context.Alike other → node.AnswersAlike context other

theorem Node.answersAlike_self (node : Node) (context : Context) :
    node.AnswersAlike context context := by
  cases node with
  | entry | property | object => trivial
  | rule held =>
      cases held with
      | contextual | predicate => exact fun _ => rfl
      | _ => trivial

namespace Node.IgnoresRequest

variable {node : Node} (ignores : node.IgnoresRequest)

include ignores

theorem answersAlike {context other : Context}
    (surroundings : context.surroundings = other.surroundings)
    (ambient : context.defaultRuleSets = other.defaultRuleSets) :
    node.AnswersAlike context other := by
  cases node with
  | entry | property | object => trivial
  | rule held =>
      cases held with
      | contextual | predicate =>
          exact fun input => ignores input context other surroundings ambient
      | _ => trivial

theorem looksUp : node.LooksUp :=
  fun _ _ alike => ignores.answersAlike alike.surroundings alike.ambient

end Node.IgnoresRequest

namespace Context

/-- A request for a list of sets asks for it, compared with any other request. -/
theorem asks_withRuleSets {sets : RuleSets} (nonempty : sets.isEmpty = false) (context : Context)
    (selector : Option RuleSets) :
    (context.withRuleSets selector).Asks sets (context.withRuleSets (some sets)) where
  surroundings := rfl
  ambient := rfl
  requested := RuleSets.notEmpty_nonEmpty? selector
  asked := RuleSets.nonEmpty?_some nonempty

end Context

/-- A validator works under what it inherited, or else under what is asked for. -/
theorem Context.selectorFor_of_asked {context : Context} {sets : RuleSets}
    (asked : context.ruleSets = some sets) (inherited : Option RuleSets) :
    context.selectorFor inherited = some (inherited.getD sets) := by
  rw [selectorFor, asked]
  cases inherited <;> rfl

/-! ### The levels that a tree opens -/

section

variable {context other : Context}

theorem ValueRules.ruleSets_scope_of_requested (rules : ValueRules)
    (requested : RuleSets.NotEmpty context.ruleSets) :
    (rules.scope context).ruleSets =
      RuleSets.nonEmpty? (context.selectorFor rules.inherited) := by
  rcases rules.scope_cases context with ⟨same, _, unchanged⟩ | opened
  · rw [unchanged, same, requested.nonEmpty?_eq]
  · rw [opened]
    rfl

theorem Context.Alike.value (alike : context.Alike other) (rules : ValueRules) :
    (rules.scope context).Alike (rules.scope other) where
  surroundings := by
    rw [rules.surroundings_scope, rules.surroundings_scope, alike.surroundings]
  ambient := by
    rw [rules.defaultRuleSets_scope, rules.defaultRuleSets_scope, alike.ambient]
  ruleSets := by
    have selector : context.selectorFor rules.inherited = other.selectorFor rules.inherited := by
      rw [Context.selectorFor, Context.selectorFor, alike.ambient, alike.ruleSets]
    unfold ValueRules.scope ValueRules.contextFor
    rw [selector, alike.ruleSets]
    dsimp only
    split
    · exact alike.ruleSets
    · rfl

theorem Context.Alike.property (alike : context.Alike other) (held : PropertyRules) :
    (held.scope context).Alike (held.scope other) where
  surroundings := by
    rw [held.surroundings_scope, held.surroundings_scope, alike.surroundings]
  ambient := alike.ambient
  ruleSets := alike.ruleSets

theorem Context.Alike.object (alike : context.Alike other) (rules : ObjectRules) (value : Value) :
    (rules.contextFor value context).Alike (rules.contextFor value other) where
  surroundings := by
    rw [rules.surroundings_contextFor, rules.surroundings_contextFor, alike.surroundings]
  ambient := alike.ambient
  ruleSets := by
    change RuleSets.nonEmpty? _ = RuleSets.nonEmpty? _
    rw [Context.selectorFor, Context.selectorFor, alike.ambient, alike.ruleSets]

/-- Rules of a value run under the selector that they keep, whether it was handed to them or asked
for. -/
theorem Context.Asks.value {sets : RuleSets} (asks : context.Asks sets other)
    (nonempty : sets.isEmpty = false) (rules : ValueRules) :
    ((rules.inherit sets).scope context).Alike (rules.scope other) where
  surroundings := by
    rw [ValueRules.surroundings_scope, rules.surroundings_scope, asks.surroundings,
      rules.inherit_eq]
  ambient := by
    rw [ValueRules.defaultRuleSets_scope, rules.defaultRuleSets_scope, asks.ambient]
  ruleSets := by
    rw [ValueRules.ruleSets_scope_of_requested _ asks.requested,
      rules.ruleSets_scope_of_requested (asks.listed nonempty), rules.inherited_inherit,
      Context.selectorFor_of_asked asks.asked]
    rfl

/-- What is asked for already is handed to no effect. -/
theorem ValueRules.scope_inherit_of_asked {sets : RuleSets} (rules : ValueRules)
    (asked : context.ruleSets = some sets) :
    (rules.inherit sets).scope context = rules.scope context := by
  have resolver : (rules.inherit sets).resolver = rules.resolver := by rw [rules.inherit_eq]
  simp only [ValueRules.scope, ValueRules.contextFor, Context.selectorFor_of_asked asked, resolver,
    rules.inherited_inherit, Option.getD_some]

theorem ObjectRules.contextFor_inherit_of_asked {sets : RuleSets} (rules : ObjectRules)
    (asked : context.ruleSets = some sets) (value : Value) :
    (rules.inherit sets).contextFor value context = rules.contextFor value context := by
  simp only [ObjectRules.contextFor, Context.selectorFor_of_asked asked, rules.inherited_inherit,
    Option.getD_some]
  rw [rules.inherit_eq]

theorem Context.Asks.value_selected {sets : RuleSets} (asks : context.Asks sets other)
    (nonempty : sets.isEmpty = false) {rules : ValueRules} (fresh : rules.inherited = none) :
    (rules.scope other).ruleSets = some sets := by
  rw [rules.ruleSets_scope_of_requested (asks.listed nonempty), fresh, Context.selectorFor,
    asks.asked]
  exact RuleSets.nonEmpty?_some nonempty

theorem Context.Asks.object {sets : RuleSets} (asks : context.Asks sets other)
    (rules : ObjectRules) (value : Value) :
    ((rules.inherit sets).contextFor value context).Alike (rules.contextFor value other) where
  surroundings := by
    rw [ObjectRules.surroundings_contextFor, rules.surroundings_contextFor, asks.surroundings,
      rules.inherit_eq]
  ambient := asks.ambient
  ruleSets := by
    change RuleSets.nonEmpty? _ = RuleSets.nonEmpty? _
    rw [rules.inherited_inherit, Context.selectorFor, Context.selectorFor, asks.asked]
    cases rules.inherited <;> rfl

theorem Context.Asks.object_selected {sets : RuleSets} (asks : context.Asks sets other)
    (nonempty : sets.isEmpty = false) {rules : ObjectRules} (fresh : rules.inherited = none)
    (value : Value) : (rules.contextFor value other).ruleSets = some sets := by
  change RuleSets.nonEmpty? _ = _
  rw [fresh, Context.selectorFor, asks.asked]
  exact RuleSets.nonEmpty?_some nonempty

end

/-- Contexts that are alike, with a selector, ask for it. -/
theorem Context.Alike.asks {context other : Context} (alike : context.Alike other) {sets : RuleSets}
    (nonempty : sets.isEmpty = false) (selected : other.ruleSets = some sets) :
    context.Asks sets other where
  surroundings := alike.surroundings
  ambient := alike.ambient
  requested := by
    rw [alike.ruleSets, selected]
    exact RuleSets.notEmpty_some nonempty
  asked := selected

/-! ### Reports in contexts that are alike -/

section

variable {context other : Context} (alike : context.Alike other)

include alike

theorem PropertyRules.annotations_alike (held : PropertyRules) (value : Value) :
    held.annotations value context = held.annotations value other := by
  have resolver : context.resolver = other.resolver :=
    congrArg Surroundings.resolver alike.surroundings
  unfold PropertyRules.annotations PropertyRules.request
  rw [Context.activeBridge_congr alike.surroundings, Context.messageName_congr alike.surroundings,
    resolver, alike.ruleSets]

theorem ObjectRules.annotations_alike (rules : ObjectRules) (value : Value) :
    rules.annotations value context = rules.annotations value other := by
  have resolver : context.resolver = other.resolver :=
    congrArg Surroundings.resolver alike.surroundings
  have member : context.member = other.member := congrArg Surroundings.member alike.surroundings
  have display : context.display = other.display :=
    congrArg (fun shown : Surroundings => shown.display.or shown.member) alike.surroundings
  unfold ObjectRules.annotations ObjectRules.requestFor ObjectRules.request
  rw [Context.activeBridge_congr alike.surroundings, resolver, member, display, alike.ruleSets]

end

namespace Node

/-- A report shows no more of the context than what is looked up in it. -/
theorem report_alike {node : Node} (looks : node.Everywhere LooksUp) (value : Value)
    {context other : Context} (alike : context.Alike other) :
    node.report value context = node.report value other := by
  induction node generalizing value context other with
  | leaf held =>
      rw [report_leaf, report_leaf]
      exact Step.examined_congr held.type value alike.surroundings fun _ => rfl
  | contextual held =>
      rw [report_contextual, report_contextual]
      exact Step.examined_congr held.type value alike.surroundings fun input =>
        looks.here context other alike input
  | presence =>
      rw [report_presence, report_presence, Step.rejected_congr _ none alike.surroundings]
  | predicate test =>
      have same : (test value context).value = (test value other).value :=
        looks.here context other alike value
      rw [report_predicate, report_predicate, same, Step.rejected_congr _ none alike.surroundings]
  | composite rules ih =>
      rw [report_composite, report_composite]
      congr 1
      apply List.map_congr_left
      intro part member
      exact ih part member (looks.part member) value alike
  | conditional rules accepted rejected =>
      rw [report_conditional, report_conditional]
      split
      · exact accepted looks.accepted value alike
      · cases present : rules.rejected with
        | none => rfl
        | some branch => exact rejected branch present (looks.rejected present) value alike
  | value rules ih =>
      have inner := alike.value rules
      rw [report_value, report_value, inner.ruleSets]
      congr 2
      apply List.map_congr_left
      intro held member
      have heldMember := (List.mem_filter.mp member).1
      exact ih held heldMember (looks.entry heldMember) _ inner
  | elements rules ih =>
      rw [report_elements, report_elements]
      cases present : rules.element with
      | none => rfl
      | some element =>
          have below (item : Value) :=
            ih element present (looks.element present) item alike.scope
          simp only [Option.elim_some, below]
  | nested reach rules ih =>
      rw [report_nested, report_nested]
      cases value.nested? reach with
      | none => rfl
      | some record => exact ih looks.nested record alike
  | entry held ih =>
      rw [report_entry, report_entry, MessageOverride.retitle_congr _ alike.surroundings,
        ih looks.content value alike]
  | property held ih =>
      have inner := alike.property held
      rw [report_property, report_property, held.annotations_alike inner,
        ih looks.rules _ inner]
  | object rules properties child =>
      have inner := alike.object rules value
      have declared : (rules.properties.filter
            (·.isActive (rules.contextFor value other).ruleSets)).map
              (fun held => (property held).report value (rules.contextFor value context)) =
          (rules.properties.filter (·.isActive (rules.contextFor value other).ruleSets)).map
              (fun held => (property held).report value (rules.contextFor value other)) := by
        apply List.map_congr_left
        intro held member
        have heldMember := (List.mem_filter.mp member).1
        exact properties held heldMember (looks.property heldMember) value inner
      have delegated : rules.child.toList.map
            (fun attached => (object attached).report value (rules.contextFor value context)) =
          rules.child.toList.map
            (fun attached => (object attached).report value (rules.contextFor value other)) := by
        apply List.map_congr_left
        intro attached member
        have present := Option.mem_toList.mp member
        exact child attached present (looks.child present) value inner
      rw [report_object, report_object, rules.annotations_alike inner, inner.ruleSets, declared,
        delegated]

end Node

/-! ### What has been handed on -/

/-- The rule hands on no selector that it is handed now. -/
def Rule.Settled (rule : Rule) : Prop := ∀ sets, rule.inherit sets = rule

theorem Rule.settled_inherit (rule : Rule) (sets : RuleSets) : (rule.inherit sets).Settled :=
  fun other => Node.rule.inj ((Node.rule rule).inherit_inherit sets other)

theorem Rule.Settled.bind {rule : Rule} (settled : rule.Settled) (resolver : Resolver) :
    (rule.bind resolver).Settled := by
  intro sets
  have either := Node.rule.inj ((Node.rule rule).bind_inherit sets resolver)
  rw [← either, settled sets]

/-- Rules of elements that have a selector have handed it on. -/
def Node.Handed : Node → Prop
  | .rule (.elements rules) =>
    rules.inherited.isSome = true → ∀ element ∈ rules.element, element.Settled
  | _ => True

namespace Node

theorem Handed.inherit {node : Node} (handed : node.Handed) (sets : RuleSets) :
    (node.inherit sets).Handed := by
  cases node with
  | entry | property | object => trivial
  | rule held =>
      cases held with
      | elements rules =>
          simp only [Node.inherit, Rule.inherit]
          cases holds : rules.inherited with
          | some kept =>
              rw [ElementRules.inherit_of_kept sets holds]
              exact handed
          | none =>
              rw [ElementRules.inherit_of_fresh sets holds]
              intro _ element member
              obtain ⟨old, _, rfl⟩ := Option.map_eq_some_iff.mp member
              exact old.settled_inherit sets
      | _ => trivial

theorem Handed.bind {node : Node} (handed : node.Handed) (resolver : Resolver) :
    (node.bind resolver).Handed := by
  cases node with
  | entry | property | object => trivial
  | rule held =>
      cases held with
      | elements rules =>
          simp only [Node.bind, Rule.bind, ElementRules.bind_eq]
          intro present element member
          obtain ⟨old, oldMember, rfl⟩ := Option.map_eq_some_iff.mp member
          exact (handed present old oldMember).bind resolver
      | _ => trivial

/-! ### Inheriting is being asked -/

/-- Rules of a value that differ in the nested validator and the selector report the same if the
same entries are active in their scopes and report the same there. -/
theorem report_value_of_entries {rules changed : ValueRules} {value : Value}
    {context other : Context}
    (same : changed = { rules with nested := changed.nested, inherited := changed.inherited })
    (selector : (changed.scope context).ruleSets = (rules.scope other).ruleSets)
    (early : ∀ held ∈ rules.presence ++ rules.general,
      (entry held).report (rules.prepared value) (changed.scope context) =
        (entry held).report (rules.prepared value) (rules.scope other))
    (nested : (changed.nested.toList.filter (·.isActive (rules.scope other).ruleSets)).map
        (fun held => (entry held).report (rules.prepared value) (changed.scope context)) =
      (rules.nested.toList.filter (·.isActive (rules.scope other).ruleSets)).map
        fun held => (entry held).report (rules.prepared value) (rules.scope other)) :
    (rule (.value changed)).report value context = (rule (.value rules)).report value other := by
  have mode : changed.mode = rules.mode := by rw [same]
  have examines : changed.examines value = rules.examines value := by
    rw [same]
    rfl
  have prepared : changed.prepared value = rules.prepared value := by
    rw [same]
    rfl
  have entries : changed.entries = rules.presence ++ rules.general ++ changed.nested.toList := by
    rw [same]
    rfl
  have first := List.map_congr_left fun held
      (member : held ∈ (rules.presence ++ rules.general).filter
        (·.isActive (rules.scope other).ruleSets)) => early held (List.mem_filter.mp member).1
  rw [report_value, report_value, mode, examines, prepared, selector, entries,
    ValueRules.entries, List.filter_append, List.map_append, first, nested, ← List.map_append,
    ← List.filter_append]

/-- A nested validator that is handed a selector leaves a report as it is if its entry does. -/
theorem report_nested_of_handed {nested : Option RuleEntry} {sets : RuleSets} {value : Value}
    {context other : Context} (selector : Option RuleSets)
    (same : ∀ held ∈ nested, (entry (held.inherit sets)).report value context =
      (entry held).report value other) :
    ((nested.map (·.inherit sets)).toList.filter (·.isActive selector)).map
        (fun held => (entry held).report value context) =
      (nested.toList.filter (·.isActive selector)).map
        fun held => (entry held).report value other := by
  cases nested with
  | none => rfl
  | some held =>
      have active : (held.inherit sets).isActive = held.isActive := by
        rw [RuleEntry.inherit_eq]
        rfl
      simp only [Option.map_some, Option.toList_some, List.filter_cons, active]
      split
      · exact congrArg (fun report => [report]) (same held rfl)
      · rfl

/-- Rules of an object that differ in the child and the selector report the same if their contexts
show the same properties and the parts report the same there. -/
theorem report_object_of_parts {rules changed : ObjectRules} {value : Value}
    {context other : Context}
    (same : changed = { rules with child := changed.child, inherited := changed.inherited })
    (selector : (changed.contextFor value context).ruleSets =
      (rules.contextFor value other).ruleSets)
    (annotations : rules.annotations value (changed.contextFor value context) =
      rules.annotations value (rules.contextFor value other))
    (declared : ∀ held ∈ rules.properties,
      (property held).report value (changed.contextFor value context) =
        (property held).report value (rules.contextFor value other))
    (child : changed.child.toList.map
        (fun attached => (object attached).report value (changed.contextFor value context)) =
      rules.child.toList.map
        fun attached => (object attached).report value (rules.contextFor value other)) :
    (object changed).report value context = (object rules).report value other := by
  have mode : changed.mode = rules.mode := by rw [same]
  have accepts : changed.accepts value = rules.accepts value := by
    rw [same]
    rfl
  have properties : changed.properties = rules.properties := by rw [same]
  have annotated : changed.annotations value (changed.contextFor value context) =
      rules.annotations value (rules.contextFor value other) := by
    rw [← annotations]
    unfold ObjectRules.annotations ObjectRules.requestFor ObjectRules.activeMembers
    rw [properties, same]
  have reported := List.map_congr_left fun held
      (member : held ∈ rules.properties.filter
        (·.isActive (rules.contextFor value other).ruleSets)) =>
    declared held (List.mem_filter.mp member).1
  rw [report_object, report_object, mode, accepts, annotated, properties, selector, reported, child]

end Node

/-! ### Handing over -/

/-- Pairs of contexts between which sets may be handed over: what a tree of a kind reports in the
second context, it reports in the first when it is handed the sets. A validator that keeps a
selector, these sets or one that it has inherited, leads to contexts that show the same; one that
has inherited none hands the sets on there. -/
structure Handover (sets : RuleSets) where
  fit : Node → Prop
  apart : Context → Context → Prop
  joined : Context → Context → Prop
  surroundings {context other : Context} : apart context other →
    context.surroundings = other.surroundings
  answers {node : Node} {context other : Context} : fit node → apart context other →
    node.AnswersAlike context other
  scope {context other : Context} : apart context other → apart context.scope other.scope
  value (rules : ValueRules) {context other : Context} : apart context other →
    joined ((rules.inherit sets).scope context) (rules.scope other) ∧
      (rules.inherited = none → apart ((rules.inherit sets).scope context) (rules.scope other))
  object {rules : ObjectRules} {context other : Context} (value : Value) : fit (.object rules) →
    apart context other →
      joined ((rules.inherit sets).contextFor value context) (rules.contextFor value other) ∧
        (rules.inherited = none →
          apart ((rules.inherit sets).contextFor value context) (rules.contextFor value other))
  elements {rules : ElementRules} {element : Rule} {context other : Context} :
    fit (.rule (.elements rules)) → rules.inherited.isSome = true → element ∈ rules.element →
      apart context other → element.Settled ∨ joined context other
  selector {context other : Context} : joined context other → context.ruleSets = other.ruleSets
  annotations (rules : ObjectRules) (value : Value) {context other : Context} :
    joined context other → rules.annotations value context = rules.annotations value other
  report {node : Node} (value : Value) {context other : Context} : node.Everywhere fit →
    joined context other → node.report value context = node.report value other

namespace Handover

open Node

variable {sets : RuleSets} (handover : Handover sets)

/-- What is handed the sets in the one context reports what it reports in the other without. -/
def Unnoticed (node : Node) : Prop :=
  node.Everywhere handover.fit → ∀ (value : Value) {context other : Context},
    handover.apart context other →
      (node.inherit sets).report value context = node.report value other

theorem value_unnoticed {rules : ValueRules}
    (entries : ∀ held ∈ rules.entries, handover.Unnoticed (.entry held)) :
    handover.Unnoticed (.rule (.value rules)) := by
  intro fit value context other apart
  have ⟨inner, further⟩ := handover.value rules apart
  have same (held : RuleEntry) (member : held ∈ rules.entries) :=
    handover.report (rules.prepared value) (fit.entry member) inner
  refine report_value_of_entries (rules.inherit_eq sets) (handover.selector inner)
    (fun held member => same held (List.mem_append_left _ member)) ?_
  cases holds : rules.inherited with
  | some kept =>
      -- The sets do not reach the nested validator, on neither side.
      rw [ValueRules.inherit_of_kept sets holds] at same ⊢
      exact List.map_congr_left fun held member =>
        same held (List.mem_append_right _ (List.mem_filter.mp member).1)
  | none =>
      have handedOn : (rules.inherit sets).nested = rules.nested.map (·.inherit sets) := by
        rw [ValueRules.inherit_of_fresh sets holds]
      rw [handedOn]
      refine report_nested_of_handed _ fun held present => ?_
      have member : held ∈ rules.entries :=
        List.mem_append_right _ (Option.mem_toList.mpr present)
      exact entries held member (fit.entry member) _ (further holds)

theorem elements_unnoticed {rules : ElementRules}
    (elements : ∀ element ∈ rules.element, handover.Unnoticed (.rule element)) :
    handover.Unnoticed (.rule (.elements rules)) := by
  intro fit value context other apart
  have deeper := handover.scope apart
  simp only [inherit, Rule.inherit]
  cases holds : rules.inherited with
  | some kept =>
      rw [ElementRules.inherit_of_kept sets holds, report_elements, report_elements]
      cases present : rules.element with
      | none => rfl
      | some element =>
          have below (item : Value) : (rule element).report item context.scope =
              (rule element).report item other.scope := by
            rcases handover.elements fit.here (by rw [holds]; rfl) present deeper with
              settled | joined
            · have handed := elements element present (fit.element present) item deeper
              rwa [inherit, settled sets] at handed
            · exact handover.report item (fit.element present) joined
          simp only [Option.elim_some, below]
  | none =>
      rw [ElementRules.inherit_of_fresh sets holds, report_elements, report_elements]
      cases present : rules.element with
      | none => rfl
      | some element =>
          have below (item : Value) := elements element present (fit.element present) item deeper
          simp only [inherit] at below
          simp only [Option.map_some, Option.elim_some, below]

theorem object_unnoticed {rules : ObjectRules}
    (child : ∀ attached ∈ rules.child, handover.Unnoticed (.object attached)) :
    handover.Unnoticed (.object rules) := by
  intro fit value context other apart
  have ⟨inner, further⟩ := handover.object value fit.here apart
  refine report_object_of_parts (rules.inherit_eq sets) (handover.selector inner)
    (handover.annotations rules value inner)
    (fun held member => handover.report value (fit.property member) inner) ?_
  cases holds : rules.inherited with
  | some kept =>
      -- The sets do not reach the child, on neither side.
      rw [ObjectRules.inherit_of_kept sets holds] at inner ⊢
      exact List.map_congr_left fun attached member =>
        handover.report value (fit.child (Option.mem_toList.mp member)) inner
  | none =>
      have handedOn : (rules.inherit sets).child = rules.child.map (·.inherit sets) := by
        rw [ObjectRules.inherit_of_fresh sets holds]
      rw [handedOn]
      cases present : rules.child with
      | none => rfl
      | some attached =>
          have below := child attached present (fit.child present) value (further holds)
          exact congrArg (fun report => [report]) below

/-- A property is left out, as it is handed nothing. -/
theorem unnoticed {node : Node} (validator : ∀ held, node ≠ .property held) :
    handover.Unnoticed node := by
  induction node with
  | leaf held =>
      intro fit value context other apart
      simp only [inherit, Rule.inherit, report_leaf]
      exact Step.examined_congr held.type value (handover.surroundings apart) fun _ => rfl
  | contextual held =>
      intro fit value context other apart
      simp only [inherit, Rule.inherit, report_contextual]
      exact Step.examined_congr held.type value (handover.surroundings apart)
        (handover.answers fit.here apart)
  | presence =>
      intro fit value context other apart
      simp only [inherit, Rule.inherit, report_presence,
        Step.rejected_congr _ none (handover.surroundings apart)]
  | predicate test =>
      intro fit value context other apart
      have same : (test value context).value = (test value other).value :=
        handover.answers fit.here apart value
      simp only [inherit, Rule.inherit, report_predicate, same,
        Step.rejected_congr _ none (handover.surroundings apart)]
  | composite rules ih =>
      intro fit value context other apart
      simp only [inherit, Rule.inherit, CompositeRules.inherit_eq, report_composite, List.map_map]
      congr 1
      apply List.map_congr_left
      intro part member
      exact ih part member (fun _ => Node.noConfusion) (fit.part member) value apart
  | conditional rules accepted rejected =>
      intro fit value context other apart
      simp only [inherit, Rule.inherit, ConditionalRules.inherit_eq, report_conditional]
      split
      · exact accepted (fun _ => Node.noConfusion) fit.accepted value apart
      · cases present : rules.rejected with
        | none => rfl
        | some branch =>
            exact rejected branch present (fun _ => Node.noConfusion) (fit.rejected present) value
              apart
  | value rules ih =>
      exact handover.value_unnoticed fun held member =>
        ih held member (fun _ => Node.noConfusion)
  | elements rules ih =>
      exact handover.elements_unnoticed fun element present =>
        ih element present (fun _ => Node.noConfusion)
  | nested reach rules ih =>
      intro fit value context other apart
      simp only [inherit, Rule.inherit, report_nested]
      cases value.nested? reach with
      | none => rfl
      | some record => exact ih (fun _ => Node.noConfusion) fit.nested record apart
  | entry held ih =>
      intro fit value context other apart
      simp only [inherit, RuleEntry.inherit_eq, report_entry]
      rw [MessageOverride.retitle_congr _ (handover.surroundings apart)]
      exact congrArg (List.map _) (ih (fun _ => Node.noConfusion) fit.content value apart)
  | property held => exact absurd rfl (validator held)
  | object rules properties child =>
      exact handover.object_unnoticed fun attached present =>
        child attached present (fun _ => Node.noConfusion)

/-- From a request for anything to one for the sets. -/
def request {sets : RuleSets} (nonempty : sets.isEmpty = false) : Handover sets where
  fit node := node.Handed ∧ node.IgnoresRequest
  apart := Context.Asks sets
  joined := Context.Alike
  surroundings asks := asks.surroundings
  answers fit asks := fit.2.answersAlike asks.surroundings asks.ambient
  scope asks := asks.scope
  value rules _ _ asks :=
    have inner := asks.value nonempty rules
    ⟨inner, fun fresh => inner.asks nonempty (asks.value_selected nonempty fresh)⟩
  object {rules _ _} value _ asks :=
    have inner := asks.object rules value
    ⟨inner, fun fresh => inner.asks nonempty (asks.object_selected nonempty fresh value)⟩
  elements {_ element _ _} fit inherited present _ := .inl (fit.1 inherited element present)
  selector alike := alike.ruleSets
  annotations rules value _ _ alike := rules.annotations_alike alike value
  report value _ _ fit alike := report_alike (fit.imp fun _ fit => fit.2.looksUp) value alike

/-- From a request for the sets to the same one. -/
def standing {sets : RuleSets} (nonempty : sets.isEmpty = false) : Handover sets where
  fit _ := True
  apart context other := context = other ∧ other.ruleSets = some sets
  joined := Eq
  surroundings := by
    rintro context _ ⟨rfl, _⟩
    rfl
  answers := by
    rintro node context _ - ⟨rfl, _⟩
    exact node.answersAlike_self context
  scope := by
    rintro context _ ⟨rfl, asked⟩
    exact ⟨rfl, asked⟩
  value := by
    rintro rules context _ ⟨rfl, asked⟩
    have same := rules.scope_inherit_of_asked asked
    refine ⟨same, fun fresh => ⟨same, ?_⟩⟩
    have requested : RuleSets.NotEmpty context.ruleSets := by
      rw [asked]
      exact RuleSets.notEmpty_some nonempty
    rw [rules.ruleSets_scope_of_requested requested, Context.selectorFor_of_asked asked, fresh]
    exact RuleSets.nonEmpty?_some nonempty
  object := by
    rintro rules context _ value - ⟨rfl, asked⟩
    have same := rules.contextFor_inherit_of_asked asked value
    refine ⟨same, fun fresh => ⟨same, ?_⟩⟩
    change RuleSets.nonEmpty? _ = _
    rw [Context.selectorFor_of_asked asked, fresh]
    exact RuleSets.nonEmpty?_some nonempty
  elements := by
    rintro _ _ context _ - - - ⟨rfl, _⟩
    exact .inr rfl
  selector := congrArg _
  annotations _ _ := by
    rintro context _ rfl
    rfl
  report _ := by
    rintro context _ - rfl
    rfl

end Handover

namespace Node

/-- A node that was handed a selector reports what it would have reported if asked for it. A
property is left out, as it is handed no selector. -/
theorem report_inherit {node : Node} {sets : RuleSets} (nonempty : sets.isEmpty = false)
    (validator : ∀ held, node ≠ .property held) (handed : node.Everywhere Handed)
    (ignores : node.Everywhere IgnoresRequest) (value : Value) {context other : Context}
    (asks : context.Asks sets other) :
    (node.inherit sets).report value context = node.report value other :=
  (Handover.request nonempty).unnoticed validator (handed.and ignores) value asks

/-- A node that is asked for the sets that it is handed reports the same without being handed
them. -/
theorem report_inherit_of_asked {sets : RuleSets} (nonempty : sets.isEmpty = false) (node : Node)
    (value : Value) {context : Context} (asked : context.ruleSets = some sets) :
    (node.inherit sets).report value context = node.report value context := by
  have handover (validator : ∀ held, node ≠ .property held) :=
    (Handover.standing nonempty).unnoticed validator (.of_forall (fun _ => trivial) node) value
      ⟨rfl, asked⟩
  cases node with
  | property => rfl
  | rule | entry | object => exact handover nofun

end Node

end RuleTree
