import RuleTree.Proofs.Tree.Comparison
import RuleTree.Proofs.Tree.Likeness

/-!
Lists of sets that select the same. If a list of sets lets the same nodes of a tree pass as the
selector that the tree is evaluated under, the tree reports the same whether it is handed the list or
not. It does so too if it is asked for the list itself.
-/

set_option autoImplicit false

namespace RuleTree

/-- The same is chosen and the same is reported, whatever the modes. -/
def Comparison.equality : Comparison where
  fits first second := first = second
  mode _ := True
  chosen taken takenOther := taken = takenOther
  asked := AnnotationBridge.IgnoresSelector
  unchanged _ := rfl
  ignores := id
  agrees _ := id
  edited edit _ _ same := congrArg (List.map edit) same
  merged {runs} own _ items taken takenOther first second _ chosen same := by
    have active : items.filter taken = items.filter takenOther := List.filter_congr chosen
    have reported : (items.filter taken).map first = (items.filter taken).map second :=
      List.map_congr_left fun item member => same item (List.mem_filter.mp member).1
    rw [← active, reported]

namespace Node

section

variable {comparison : Comparison} {selector : Option RuleSets} {sets : RuleSets} {node : Node}

/-- What is handed to a node does not change what is compared of it. -/
theorem Compared.inherit (compared : node.Compared comparison selector sets) (handed : RuleSets) :
    (node.inherit handed).Compared comparison selector sets := by
  obtain ⟨mode, chosen, ignores, bridge, noDefault⟩ := compared
  cases node with
  | property held => exact ⟨mode, chosen, ignores, bridge, noDefault⟩
  | entry held =>
      have tag : (held.inherit handed).tag = held.tag := by rw [RuleEntry.inherit_eq]
      exact ⟨mode, by simpa only [Node.inherit, Node.tag, tag] using chosen, trivial, trivial,
        fun _ => trivial⟩
  | object rules =>
      simp only [Node.inherit]
      rw [rules.inherit_eq]
      exact ⟨mode, chosen, ignores, bridge, noDefault⟩
  | rule held =>
      cases held with
      | value rules =>
          simp only [Node.inherit, Rule.inherit]
          rw [rules.inherit_eq]
          exact ⟨mode, chosen, ignores, bridge, noDefault⟩
      | composite rules =>
          simp only [Node.inherit, Rule.inherit, CompositeRules.inherit_eq]
          exact ⟨mode, chosen, ignores, bridge, noDefault⟩
      | _ => exact ⟨mode, chosen, ignores, bridge, noDefault⟩

theorem Compared.bind (compared : node.Compared comparison selector sets) (resolver : Resolver) :
    (node.bind resolver).Compared comparison selector sets := by
  obtain ⟨mode, chosen, ignores, bridge, noDefault⟩ := compared
  cases node with
  | property held =>
      simp only [Node.bind, PropertyRules.bind_eq]
      exact ⟨mode, chosen, ignores, bridge, noDefault⟩
  | entry held =>
      simp only [Node.bind, RuleEntry.bind_eq]
      exact ⟨mode, chosen, trivial, bridge, noDefault⟩
  | object rules =>
      simp only [Node.bind]
      rw [rules.bind_eq]
      exact ⟨mode, chosen, ignores, bridge, noDefault⟩
  | rule held =>
      cases held with
      | value rules =>
          simp only [Node.bind, Rule.bind]
          rw [rules.bind_eq]
          exact ⟨mode, chosen, ignores, bridge, noDefault⟩
      | composite rules =>
          simp only [Node.bind, Rule.bind, CompositeRules.bind_eq]
          exact ⟨mode, chosen, ignores, bridge, noDefault⟩
      | _ => exact ⟨mode, chosen, ignores, bridge, noDefault⟩

end

section

variable {selector : Option RuleSets} {sets : RuleSets}

/-- The sets let the same nodes of the tree pass as the selector, and nothing in the tree looks at the
selector itself. -/
def Indifferent (selector : Option RuleSets) (sets : RuleSets) (node : Node) : Prop :=
  node.Everywhere (Compared .equality selector sets)

theorem Indifferent.bind {node : Node} (indifferent : node.Indifferent selector sets)
    (resolver : Resolver) : (node.bind resolver).Indifferent selector sets :=
  Everywhere.bind (fun _ compared => compared.bind resolver) indifferent

variable (listed : sets.isEmpty = false)

include listed

/-- A node reports the same whether it is handed the sets or not, if they select the same in it as the
selector of the context. -/
theorem report_inherit_of_indifferent {node : Node} {context : Context}
    (indifferent : node.Indifferent context.ruleSets sets)
    (reads : ∀ bridge ∈ context.activeBridge, bridge.IgnoresSelector)
    (requested : RuleSets.NotEmpty context.ruleSets)
    (noDefault : context.ruleSets = none → RuleSets.nonEmpty? context.defaultRuleSets = none)
    (value : Value) : (node.inherit sets).report value context = node.report value context := by
  let asking := context.withRuleSets (some sets)
  have asked : asking.ruleSets = some sets := RuleSets.nonEmpty?_some listed
  have exchanges : context.Exchanges AnnotationBridge.IgnoresSelector context.ruleSets sets asking :=
    { surroundings := rfl
      ambient := rfl
      bridge := reads
      requested
      listed := RuleSets.notEmpty_nonEmpty? (some sets)
      ruleSets := .inr ⟨rfl, asked⟩
      noDefault }
  have handed : (node.inherit sets).Indifferent context.ruleSets sets :=
    Everywhere.inherit (fun _ compared => compared.inherit sets) indifferent
  -- Asked for the sets, the node does not notice that it is handed them.
  calc (node.inherit sets).report value context
    _ = (node.inherit sets).report value asking :=
        report_compared requested listed handed value exchanges
    _ = node.report value asking := node.report_inherit_of_asked listed value asked
    _ = node.report value context :=
        (report_compared requested listed indifferent value exchanges).symm

end

end Node

/-! ### A nested validator that is handed a list -/

/-- The rules with a nested validator that is handed a selector, which they do not inherit
themselves. -/
def ValueRules.handNested (sets : RuleSets) (rules : ValueRules) : ValueRules :=
  { rules with nested := rules.nested.map (·.inherit sets) }

/-- The rules of a property with a nested validator that is handed a selector. -/
def PropertyRules.handNested (sets : RuleSets) (held : PropertyRules) : PropertyRules :=
  { held with rules := held.rules.handNested sets }

/-- The selector that the rules of a property work under in a context, if they inherited none. -/
def Context.selectorBelow (context : Context) : Option RuleSets :=
  RuleSets.nonEmpty? (context.selectorFor none)

/-- It makes no difference in a context whether the nested validator of a property is handed a list of
sets: it works under this list anyway, or the list selects the same. -/
def PropertyRules.UnmovedBy (sets : RuleSets) (context : Context) (held : PropertyRules) : Prop :=
  context.selectorBelow = some sets ∨
    (∀ entry ∈ held.rules.nested, (Node.entry entry).Indifferent context.selectorBelow sets) ∧
      ∀ bridge ∈ context.activeBridge, bridge.IgnoresSelector

namespace PropertyRules

variable {sets : RuleSets} {held : PropertyRules} {context : Context}

theorem report_handNested (listed : sets.isEmpty = false) (fresh : held.rules.inherited = none)
    (requested : RuleSets.NotEmpty context.ruleSets) (unmoved : held.UnmovedBy sets context)
    (value : Value) :
    (Node.property (held.handNested sets)).report value context =
      (Node.property held).report value context := by
  have requestedBelow : RuleSets.NotEmpty (held.scope context).ruleSets := requested
  have selector : (held.rules.scope (held.scope context)).ruleSets = context.selectorBelow := by
    rw [held.rules.ruleSets_scope_of_requested requestedBelow, fresh]
    rfl
  have nested (entry : RuleEntry) (present : entry ∈ held.rules.nested) (seen : Value) :
      (Node.entry (entry.inherit sets)).report seen (held.rules.scope (held.scope context)) =
        (Node.entry entry).report seen (held.rules.scope (held.scope context)) := by
    rcases unmoved with same | ⟨indifferent, reads⟩
    · exact (Node.entry entry).report_inherit_of_asked listed seen (selector.trans same)
    · have within := indifferent entry present
      rw [← selector] at within
      refine Node.report_inherit_of_indifferent listed within ?_ ?_ (fun absent => ?_) seen
      · rw [ValueRules.activeBridge_scope, PropertyRules.activeBridge_scope]
        exact reads
      · rw [selector]
        exact RuleSets.notEmpty_nonEmpty? _
      · rw [held.rules.defaultRuleSets_scope]
        exact requested.nonEmpty?_of_or (selector.symm.trans absent)
  have rules : (Node.rule (.value (held.rules.handNested sets))).report (held.read value)
      (held.scope context) =
        (Node.rule (.value held.rules)).report (held.read value) (held.scope context) :=
    Node.report_value_of_entries rfl rfl (fun _ _ => rfl)
      (Node.report_nested_of_handed _ fun entry present => nested entry present _)
  rw [Node.report_property, Node.report_property]
  exact congrArg (fun below => ((held.annotations (held.read value) (held.scope context)) ++
    below).map (Failure.below held.member)) rules

end PropertyRules

/-- Objects report the same if their properties have the same names and tags, and the active ones report
the same. -/
theorem Node.report_object_of_properties {rules : ObjectRules} {declared : List PropertyRules}
    {value : Value} {context : Context}
    (pairs : List.Forall₂ (fun held other : PropertyRules =>
      other.member = held.member ∧ other.tag = held.tag ∧
        (held.isActive (rules.contextFor value context).ruleSets = true →
          (property other).report value (rules.contextFor value context) =
            (property held).report value (rules.contextFor value context)))
      rules.properties declared) :
    (object { rules with properties := declared }).report value context =
      (object rules).report value context := by
  let scope := rules.contextFor value context
  have active := forall₂_filter (·.isActive scope.ruleSets) (·.isActive scope.ruleSets) pairs
    fun held other alike => by rw [PropertyRules.isActive, PropertyRules.isActive, alike.2.1]
  have members := ObjectRules.activeMembers_congr
    (pairs.imp fun held other alike => ⟨alike.1, alike.2.1⟩) scope.ruleSets
  have annotations :
      ({ rules with properties := declared } : ObjectRules).annotations value scope =
        rules.annotations value scope := by
    unfold ObjectRules.annotations ObjectRules.requestFor
    rw [members]
  have reports := map_eq_of_forall₂_mem active fun held member other alike =>
    alike.2.2 (List.mem_filter.mp member).2
  rw [report_object, report_object]
  exact congrArg₂ (fun first later => if rules.accepts value then rules.mode.merge (first ++ later ++
    rules.child.toList.map fun attached => (object attached).report value scope) else [])
    annotations reports

end RuleTree
