import RuleTree.Proofs.Tree.FirstFailure
import RuleTree.Proofs.Tree.Pruned
import RuleTree.Proofs.Tree.Surroundings

/-!
Selection is pruning. Evaluating a tree under selectors gives the report of the pruned tree in a
context that has no selectors at all, provided that nothing a user supplies reads them. Both
evaluations run side by side: the one context shows the same surroundings as the other, and the
tree on the one side is pruned with the selector in effect on the other.
-/

set_option autoImplicit false

namespace RuleTree

/-! ### What does not read the selectors -/

/-- The test gives the same answer under all selectors. It may look up whatever the surroundings
show. A test that counts the levels of the context, by its depth, its parents, or whether the
innermost level is empty, does not ignore the selector: the rules of a value open a level if their
selector differs from the one around them. -/
def ContextTest.IgnoresSelector (test : ContextTest) : Prop :=
  ∀ value (context other : Context), context.surroundings = other.surroundings →
    (test value context).value = (test value other).value

/-- The leaf gives the same answer under all selectors. As for a test, this leaves out a leaf that
counts the levels of the context. -/
def ContextualLeaf.IgnoresSelector (leaf : ContextualLeaf) : Prop :=
  ∀ input (context other : Context), context.surroundings = other.surroundings →
    (leaf.check input context).value = (leaf.check input other).value

/-- The bridge gives the same answer to a request whatever selector is passed on in it. -/
def AnnotationBridge.IgnoresSelector (bridge : AnnotationBridge) : Prop :=
  ∀ value (request : AnnotationRequest) (sets : Option RuleSets),
    (bridge.annotate value { request with ruleSets := sets }).value =
      (bridge.annotate value request).value

/-- At this node nothing reads the selectors, and no list that a selector is made of is empty. -/
def Node.Prunable : Node → Prop
  | .rule (.contextual leaf) => leaf.IgnoresSelector
  | .rule (.predicate test) => ContextTest.IgnoresSelector test
  | .rule (.value rules) => RuleSets.NotEmpty rules.inherited
  | .object rules =>
    RuleSets.NotEmpty rules.inherited ∧ RuleSets.NotEmpty rules.defaultRuleSets ∧
      ∀ bridge ∈ rules.bridge, bridge.IgnoresSelector
  | _ => True

namespace Context

structure Prunable (context : Context) : Prop where
  requested : RuleSets.NotEmpty context.ruleSets
  ambient : RuleSets.NotEmpty context.defaultRuleSets
  bridge : ∀ bridge ∈ context.bridge, bridge.IgnoresSelector

theorem Prunable.selectorFor {context : Context} (prunable : context.Prunable)
    {inherited : Option RuleSets} (nonempty : RuleSets.NotEmpty inherited) :
    RuleSets.NotEmpty (context.selectorFor inherited) :=
  (nonempty.or prunable.requested).or prunable.ambient

/-- The other context has the surroundings of the first and no selectors. -/
structure Strips (context stripped : Context) : Prop where
  prunable : context.Prunable
  alike : stripped.surroundings = context.surroundings
  requestless : stripped.ruleSets = none
  ambientless : stripped.defaultRuleSets = none

end Context

/-! ### Contexts without selectors -/

def ContextLevel.withoutSelectors (level : ContextLevel) : ContextLevel :=
  { level with ruleSets := none, defaultRuleSets := none }

namespace Context

def withoutSelectors (context : Context) : Context where
  level := context.level.withoutSelectors
  outer := context.outer.map ContextLevel.withoutSelectors

theorem findSome?_withoutSelectors {α : Type} (context : Context)
    {lookup : ContextLevel → Option α}
    (blind : ∀ level, lookup level.withoutSelectors = lookup level) :
    context.withoutSelectors.levels.findSome? lookup = context.levels.findSome? lookup := by
  have mapped : context.withoutSelectors.levels =
      context.levels.map ContextLevel.withoutSelectors := rfl
  rw [mapped, List.findSome?_map]
  congr 1
  exact funext blind

theorem surroundings_withoutSelectors (context : Context) :
    context.withoutSelectors.surroundings = context.surroundings := by
  have lookup {α : Type} (found : ContextLevel → Option α)
      (blind : ∀ level, found level.withoutSelectors = found level) :=
    context.findSome?_withoutSelectors blind
  unfold surroundings
  congr 1
  · exact lookup ContextLevel.resolver fun _ => rfl
  · exact lookup ContextLevel.bridge fun _ => rfl
  · exact lookup ContextLevel.messages fun _ => rfl
  · funext key
    exact lookup (·.item? key) fun _ => rfl

theorem defaultRuleSets_withoutSelectors (context : Context) :
    context.withoutSelectors.defaultRuleSets = none := by
  simp [defaultRuleSets, levels, withoutSelectors, ContextLevel.withoutSelectors]

theorem Prunable.strips {context : Context} (prunable : context.Prunable) :
    context.Strips context.withoutSelectors :=
  ⟨prunable, context.surroundings_withoutSelectors, rfl, context.defaultRuleSets_withoutSelectors⟩

end Context

/-! ### Side by side -/

namespace Context.Strips

variable {context stripped : Context}

theorem selectorFor_none (strips : context.Strips stripped) :
    stripped.selectorFor none = none := by
  rw [selectorFor, strips.requestless, strips.ambientless]
  rfl

theorem scope (strips : context.Strips stripped) : context.scope.Strips stripped.scope where
  prunable := ⟨strips.prunable.requested, strips.prunable.ambient, strips.prunable.bridge⟩
  alike := strips.alike
  requestless := strips.requestless
  ambientless := strips.ambientless

theorem property (strips : context.Strips stripped) (held : PropertyRules)
    (ambient selector : Option RuleSets) :
    (held.scope context).Strips ((held.pruned ambient selector).scope stripped) where
  prunable := ⟨strips.prunable.requested, strips.prunable.ambient, strips.prunable.bridge⟩
  alike := by
    rw [PropertyRules.surroundings_scope, PropertyRules.surroundings_scope, strips.alike,
      PropertyRules.pruned_eq]
    rfl
  requestless := strips.requestless
  ambientless := strips.ambientless

theorem value (strips : context.Strips stripped) {rules : ValueRules}
    (nonempty : RuleSets.NotEmpty rules.inherited) (ambient selector : Option RuleSets) :
    (rules.scope context).Strips ((rules.pruned ambient selector).scope stripped) where
  prunable := by
    have selected := strips.prunable.selectorFor nonempty
    refine ⟨?_, ?_, ?_⟩
    · rwa [rules.ruleSets_scope selected]
    · rw [rules.defaultRuleSets_scope]
      exact strips.prunable.ambient
    · have same : (rules.scope context).bridge = context.bridge :=
        congrArg Surroundings.bridge (rules.surroundings_scope context)
      rw [same]
      exact strips.prunable.bridge
  alike := by
    rw [ValueRules.surroundings_scope, ValueRules.surroundings_scope, strips.alike,
      ValueRules.pruned_eq]
  requestless := by
    have unselected : stripped.selectorFor (rules.pruned ambient selector).inherited = none := by
      rw [ValueRules.pruned_eq]
      exact strips.selectorFor_none
    rw [ValueRules.ruleSets_scope _ (unselected ▸ RuleSets.notEmpty_none), unselected]
  ambientless := by
    rw [ValueRules.defaultRuleSets_scope, strips.ambientless]

theorem object (strips : context.Strips stripped) {rules : ObjectRules}
    (prunable : (Node.object rules).Prunable) (ambient selector : Option RuleSets) (value : Value) :
    (rules.contextFor value context).Strips
      ((rules.pruned ambient selector).contextFor value stripped) where
  prunable := by
    obtain ⟨inherited, otherwise, bridge⟩ := prunable
    have selected := (strips.prunable.selectorFor inherited).or otherwise
    refine ⟨?_, strips.prunable.ambient, ?_⟩
    · rwa [rules.ruleSets_contextFor value selected]
    · have own : (rules.contextFor value context).bridge = rules.bridge.or context.bridge :=
        congrArg Surroundings.bridge (rules.surroundings_contextFor value context)
      rw [own]
      intro asked member
      rcases Option.or_eq_some_iff.mp member with held | outer
      · exact bridge asked held
      · exact strips.prunable.bridge asked outer.2
  alike := by
    rw [ObjectRules.surroundings_contextFor, ObjectRules.surroundings_contextFor, strips.alike,
      ObjectRules.pruned_eq]
  requestless := by
    have unselected : (stripped.selectorFor (rules.pruned ambient selector).inherited).or
        (rules.pruned ambient selector).defaultRuleSets = none := by
      rw [ObjectRules.pruned_eq]
      exact (Option.or_none).trans strips.selectorFor_none
    rw [ObjectRules.ruleSets_contextFor _ value (unselected ▸ RuleSets.notEmpty_none), unselected]
  ambientless := strips.ambientless

end Context.Strips

namespace Step

variable {context other : Context}

theorem rejected_congr (failure : Failure) (tried : Option String)
    (alike : context.surroundings = other.surroundings) :
    rejected failure tried context = rejected failure tried other := by
  rw [rejected, rejected, Context.messageName_congr alike, Context.messages_congr alike]

theorem examined_congr (type : LeafType) {check checkOther : type.Carrier → Option Failure}
    (value : Value) (alike : context.surroundings = other.surroundings)
    (same : ∀ input, check input = checkOther input) :
    examined type check value context = examined type checkOther value other := by
  rw [funext same]
  unfold examined
  simp only [fun failure tried => rejected_congr failure tried alike]

end Step

theorem MessageOverride.retitle_congr (override : Option MessageOverride)
    {context other : Context} (alike : context.surroundings = other.surroundings) :
    retitle override context = retitle override other := by
  funext failure
  rcases override with _ | (template | key)
  · rfl
  · simp only [retitle, apply, Context.messageName_congr alike]
  · simp only [retitle, apply, Context.messageName_congr alike, Context.messages_congr alike]

/-! ### What pruning keeps -/

section

variable (ambient selector : Option RuleSets)

theorem ValueRules.examines_pruned (rules : ValueRules) (value : Value) :
    (rules.pruned ambient selector).examines value = rules.examines value := by
  rw [ValueRules.pruned_eq]
  rfl

theorem ValueRules.prepared_pruned (rules : ValueRules) (value : Value) :
    (rules.pruned ambient selector).prepared value = rules.prepared value := by
  rw [ValueRules.pruned_eq]
  rfl

theorem ValueRules.mode_pruned (rules : ValueRules) :
    (rules.pruned ambient selector).mode = rules.mode := by
  rw [ValueRules.pruned_eq]

theorem PropertyRules.member_pruned (held : PropertyRules) :
    (held.pruned ambient selector).member = held.member := by
  rw [PropertyRules.pruned_eq]
  rfl

theorem PropertyRules.rules_pruned (held : PropertyRules) :
    (held.pruned ambient selector).rules = held.rules.pruned ambient selector := by
  rw [PropertyRules.pruned_eq]

theorem PropertyRules.read_pruned (held : PropertyRules) (object : Value) :
    (held.pruned ambient selector).read object = held.read object := by
  rw [PropertyRules.pruned_eq]
  rfl

theorem ObjectRules.accepts_pruned (rules : ObjectRules) (value : Value) :
    (rules.pruned ambient selector).accepts value = rules.accepts value := by
  rw [ObjectRules.pruned_eq]
  rfl

theorem ObjectRules.mode_pruned (rules : ObjectRules) :
    (rules.pruned ambient selector).mode = rules.mode := by
  rw [ObjectRules.pruned_eq]

theorem ObjectRules.properties_pruned (rules : ObjectRules) :
    (rules.pruned ambient selector).properties =
      PropertyRules.prunedAll ambient
        (((rules.inherited.or selector).or ambient).or rules.defaultRuleSets)
        rules.properties := by
  rw [ObjectRules.pruned_eq]

theorem ObjectRules.child_pruned (rules : ObjectRules) :
    (rules.pruned ambient selector).child =
      rules.child.map (·.pruned ambient
        (((rules.inherited.or selector).or ambient).or rules.defaultRuleSets)) := by
  rw [ObjectRules.pruned_eq]

end

/-! ### Annotations -/

section

variable {context stripped : Context} (strips : context.Strips stripped)
  (ambient selector : Option RuleSets)

include strips

theorem Context.Strips.request (member : String) :
    PropertyRules.request member stripped =
      { PropertyRules.request member context with ruleSets := none } := by
  have resolver : stripped.resolver = context.resolver :=
    congrArg Surroundings.resolver strips.alike
  rw [PropertyRules.request, PropertyRules.request, Context.messageName_congr strips.alike,
    resolver, strips.requestless]

theorem Context.Strips.bridge_ignores (bridge : AnnotationBridge)
    (active : context.activeBridge = some bridge) : bridge.IgnoresSelector := by
  unfold Context.activeBridge at active
  split at active
  · exact strips.prunable.bridge bridge active
  · exact absurd active nofun

theorem PropertyRules.annotations_pruned (held : PropertyRules) (value : Value) :
    (held.pruned ambient selector).annotations value stripped = held.annotations value context := by
  rw [PropertyRules.pruned_eq]
  unfold PropertyRules.annotations
  rw [Context.activeBridge_congr strips.alike]
  cases held.annotated with
  | false => rfl
  | true =>
      cases active : context.activeBridge with
      | none => rfl
      | some bridge =>
          have ignores := strips.bridge_ignores bridge active
          simp only [↓reduceIte]
          rw [strips.request]
          exact congrArg (AnnotationBridge.reported _) (ignores value _ none)

theorem ObjectRules.annotations_pruned (rules : ObjectRules) (value : Value)
    (selected : context.ruleSets =
      ((rules.inherited.or selector).or ambient).or rules.defaultRuleSets) :
    (rules.pruned ambient selector).annotations value stripped =
      rules.annotations value context := by
  have asked : (rules.pruned ambient selector).requestFor stripped =
      { rules.requestFor context with ruleSets := none } := by
    have display : stripped.display = context.display :=
      congrArg (fun shown : Surroundings => shown.display.or shown.member) strips.alike
    have member : stripped.member = context.member :=
      congrArg Surroundings.member strips.alike
    have resolver : stripped.resolver = context.resolver :=
      congrArg Surroundings.resolver strips.alike
    unfold ObjectRules.requestFor ObjectRules.request
    rw [ObjectRules.activeMembers_pruned, ← selected, display, member, resolver,
      strips.requestless, ObjectRules.pruned_eq]
  unfold ObjectRules.annotations
  rw [Context.activeBridge_congr strips.alike, asked]
  cases active : context.activeBridge with
  | none => rfl
  | some bridge =>
      have ignores := strips.bridge_ignores bridge active
      exact congrArg (fun answer => [AnnotationBridge.reported _ answer]) (ignores value _ none)

end

namespace Node

/-- Under its selectors a tree reports what the tree pruned with them reports without any. -/
theorem report_pruned {node : Node} (prunable : node.Everywhere Prunable) (value : Value)
    {context stripped : Context} (strips : context.Strips stripped) :
    (node.pruned context.defaultRuleSets context.ruleSets).report value stripped =
      node.report value context := by
  induction node generalizing value context stripped with
  | leaf held =>
      simp only [pruned, Rule.pruned, report_leaf]
      exact Step.examined_congr held.type value strips.alike fun _ => rfl
  | contextual held =>
      simp only [pruned, Rule.pruned, report_contextual]
      exact Step.examined_congr held.type value strips.alike fun input =>
        prunable.here input stripped context strips.alike
  | presence =>
      simp only [pruned, Rule.pruned, report_presence, Step.rejected_congr _ none strips.alike]
  | predicate test =>
      have same := prunable.here value stripped context strips.alike
      simp only [pruned, Rule.pruned, report_predicate, same,
        Step.rejected_congr _ none strips.alike]
  | composite rules ih =>
      simp only [pruned, Rule.pruned, report_composite, CompositeRules.pruned_eq, List.map_map]
      congr 1
      apply List.map_congr_left
      intro part member
      exact ih part member (prunable.part member) value strips
  | conditional rules accepted rejected =>
      simp only [pruned, Rule.pruned, report_conditional, ConditionalRules.pruned_eq]
      split
      · exact accepted prunable.accepted value strips
      · cases present : rules.rejected with
        | none => rfl
        | some branch => exact rejected branch present (prunable.rejected present) value strips
  | value rules ih =>
      have selected := strips.prunable.selectorFor prunable.here
      have inner := strips.value prunable.here context.defaultRuleSets context.ruleSets
      have below (held : RuleEntry) (member : held ∈ rules.entries) :=
        ih held member (prunable.entry member) (rules.prepared value) inner
      rw [rules.ruleSets_scope selected, rules.defaultRuleSets_scope] at below
      simp only [pruned, Rule.pruned, report_value, ValueRules.examines_pruned,
        ValueRules.prepared_pruned, ValueRules.mode_pruned, ValueRules.entries_pruned]
      rw [RuleEntry.filter_pruned, RuleEntry.prunedAll_eq, List.map_map,
        rules.ruleSets_scope selected]
      congr 2
      apply List.map_congr_left
      intro held member
      exact below held (List.mem_filter.mp member).1
  | elements rules ih =>
      simp only [pruned, Rule.pruned, report_elements, ElementRules.pruned_eq]
      cases present : rules.element with
      | none => rfl
      | some element =>
          have below (item : Value) :=
            ih element present (prunable.element present) item strips.scope
          simp only [Option.map_some, Option.elim_some]
          congr 2
          exact funext below
  | nested reach rules ih =>
      simp only [pruned, Rule.pruned, report_nested]
      cases value.nested? reach with
      | none => rfl
      | some record => exact ih prunable.nested record strips
  | entry held ih =>
      simp only [pruned, report_entry, RuleEntry.pruned_eq]
      rw [MessageOverride.retitle_congr held.message strips.alike]
      exact congrArg (List.map _) (ih prunable.content value strips)
  | property held ih =>
      have inner := strips.property held context.defaultRuleSets context.ruleSets
      have below := ih prunable.rules (held.read value) inner
      have annotated := PropertyRules.annotations_pruned inner context.defaultRuleSets
        context.ruleSets held (held.read value)
      simp only [pruned, report_property, PropertyRules.member_pruned, PropertyRules.rules_pruned,
        PropertyRules.read_pruned, annotated]
      congr 2
  | object rules properties child =>
      have ⟨inherited, otherwise, _⟩ := prunable.here
      have selected := rules.ruleSets_contextFor value
        ((strips.prunable.selectorFor inherited).or otherwise)
      have inner := strips.object prunable.here context.defaultRuleSets context.ruleSets value
      have annotated := ObjectRules.annotations_pruned inner context.defaultRuleSets
        context.ruleSets rules value selected
      have declared (held : PropertyRules) (member : held ∈ rules.properties) :=
        properties held member (prunable.property member) value inner
      have delegated (attached : ObjectRules) (member : attached ∈ rules.child) :=
        child attached member (prunable.child member) value inner
      rw [selected, rules.defaultRuleSets_contextFor] at declared delegated
      simp only [pruned]
      rw [report_object, report_object, ObjectRules.accepts_pruned, ObjectRules.mode_pruned,
        ObjectRules.properties_pruned, ObjectRules.child_pruned, annotated,
        PropertyRules.filter_pruned, PropertyRules.prunedAll_eq, List.map_map, selected]
      congr 3
      · congr 1
        apply List.map_congr_left
        intro held member
        exact declared held (List.mem_filter.mp member).1
      · cases present : rules.child with
        | none => rfl
        | some attached => exact congrArg (fun report => [report]) (delegated attached present)

/-- Selection by rule sets is pruning: all failures of a value under the selectors of a context are
those that the pruned tree finds where no selector is. -/
theorem failures_eq_failures_pruned {node : Node} (prunable : node.Everywhere Prunable)
    {context : Context} (selectors : context.Prunable) (value : Value) :
    (node.failures? value context).value =
      ((node.pruned context.defaultRuleSets context.ruleSets).failures? value
        context.withoutSelectors).value := by
  rw [failures?_value, failures?_value, report_pruned prunable value selectors.strips]

/-- Rules that demand a value in the set "strict", and an item of the context in the set "plain". -/
def strictOrPlain : ValueRules :=
  let item : ContextTest := fun _ context => pure (context.item? "item").isSome
  { ValueRules.empty with
    presence := [⟨.presence, some ⟨["strict"]⟩, none, false⟩]
    general := [⟨.predicate item, some ⟨["plain"]⟩, none, false⟩] }

/-- An object with such a property. The set "plain" is its default. -/
def plainByDefault : Node :=
  .object { ObjectRules.empty .string with
    properties := [⟨"Name", none, none, pure, strictOrPlain, none, true⟩]
    defaultRuleSets := some ⟨["plain"]⟩ }

theorem strictOrPlain_prunable : (rule (.value strictOrPlain)).Everywhere Prunable := by
  refine .intro RuleSets.notEmpty_none fun child member => ?_
  rcases List.mem_cons.mp member with rfl | later
  · refine .intro trivial fun content contentMember => ?_
    rw [List.mem_singleton.mp contentMember]
    exact .intro trivial nofun
  · rw [List.mem_singleton.mp later]
    refine .intro trivial fun content contentMember => ?_
    rw [List.mem_singleton.mp contentMember]
    refine .intro (fun value context other alike => ?_) nofun
    exact congrArg (fun shown : Surroundings => (shown.item? "item").isSome) alike

theorem plainByDefault_prunable : plainByDefault.Everywhere Prunable := by
  have listed : RuleSets.NotEmpty (some ⟨["plain"]⟩) := by simp [RuleSets.NotEmpty, RuleSets.isEmpty]
  have named : (property ⟨"Name", none, none, pure, strictOrPlain, none, true⟩).Everywhere
      Prunable :=
    strictOrPlain_prunable.single rfl trivial
  exact named.single rfl ⟨RuleSets.notEmpty_none, listed, nofun⟩

theorem forRuleSets_strict_prunable : (Context.forRuleSets ⟨["strict"]⟩).Prunable where
  requested := by
    have requested : (Context.forRuleSets ⟨["strict"]⟩).ruleSets = some ⟨["strict"]⟩ := by decide
    simp [requested, RuleSets.NotEmpty, RuleSets.isEmpty]
  ambient := RuleSets.notEmpty_none
  bridge := nofun

/-- On request the default set is not in effect, and the pruned tree keeps the demand only. -/
theorem failures_plainByDefault_strict :
    (plainByDefault.failures? (.string "") (.forRuleSets ⟨["strict"]⟩)).value =
      ((plainByDefault.pruned none (some ⟨["strict"]⟩)).failures? (.string "") .empty).value :=
  failures_eq_failures_pruned plainByDefault_prunable forRuleSets_strict_prunable (.string "")

end Node

end RuleTree
