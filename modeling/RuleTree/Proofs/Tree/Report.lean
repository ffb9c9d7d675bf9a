import RuleTree.Proofs.Tree.Induction
import RuleTree.Proofs.Tree.Parts

/-!
Reports of nodes. Every node of a tree is a lawful step, so what it does to a sink is known by its
report, and the report of a node is put together from the reports of the nodes right below it. The
equations of this module say how; further properties of reports follow from them by induction over
the tree, without a look at sinks.
-/

set_option autoImplicit false

namespace RuleTree

namespace ValueRules

/-- The guards accept the value, and it is not passed over as an empty text. -/
def examines (rules : ValueRules) (value : Value) : Bool :=
  (rules.guards.all fun guard => (guard value).value) &&
    !(rules.skipsEmpty && value.isEmptyText)

def prepared (rules : ValueRules) (value : Value) : Value :=
  match rules.preprocess with
  | some transform => (transform value).value
  | none => value

def scope (rules : ValueRules) (context : Context) : Context :=
  contextFor rules.inherited rules.resolver context

/-- The step of the entries on the value that they see, in the context in which they run. -/
def runEntries (rules : ValueRules) (context : Context) (value : Value) : Step :=
  rules.mode.run (RuleEntry.attempts rules.entries value context)

def runPrepared (rules : ValueRules) (value : Value) (context : Context) : Step :=
  match rules.preprocess with
  | some transform => .ask (transform value) fun made => (rules.runEntries context made).transient
  | none => rules.runEntries context value

/-- The step of the rules in a level of the context that has been opened for them. -/
def evaluateIn (rules : ValueRules) (value : Value) (context : Context) : Step :=
  .guarded rules.guards value .valueGuarded
    (if rules.skipsEmpty && value.isEmptyText then .event .emptySkipped
    else rules.runPrepared value context)

end ValueRules

namespace ObjectRules

def accepts (rules : ObjectRules) (value : Value) : Bool :=
  rules.guards.all fun guard => (guard value).value

end ObjectRules

namespace Node

/-- What a node reports of a value to a sink that collects all failures. -/
def report (node : Node) (value : Value) (context : Context) : Report :=
  (node.evaluate value context).added

/-- The node is a lawful step, whatever the value and the context. -/
def Lawful (node : Node) : Prop :=
  ∀ value context, (node.evaluate value context).Adds (node.report value context)

theorem Lawful.step {node : Node} (lawful : node.Lawful) (value : Value) (context : Context) :
    (node.evaluate value context).Lawful :=
  lawful value context

/-! ### The reports of nodes whose children are lawful -/

theorem composite_adds {rules : CompositeRules}
    (lawful : ∀ part ∈ rules.children, (rule part).Lawful) (value : Value) (context : Context) :
    ((rule (.composite rules)).evaluate value context).Adds
      (rules.mode.merge (rules.children.map fun part => (rule part).report value context)) := by
  obtain ⟨parts, mode⟩ := rules
  have reports : Attempt.reports (Rule.attempts parts value context) =
      parts.map fun part => (rule part).report value context := by
    rw [Rule.attempts_eq]
    clear lawful
    induction parts with
    | nil => rfl
    | cons part rest ih => simp [ih, report]
  change (mode.run (Rule.attempts parts value context)).Adds _
  rw [← reports]
  apply mode.run_adds
  intro attempt member
  rw [Rule.attempts_eq] at member
  obtain ⟨part, partMember, rfl⟩ := List.mem_map.mp member
  exact (lawful part partMember).step value context

theorem conditional_adds {rules : ConditionalRules} (accepted : (rule (.value rules.accepted)).Lawful)
    (rejected : ∀ branch ∈ rules.rejected, (rule (.value branch)).Lawful) (value : Value)
    (context : Context) :
    ((rule (.conditional rules)).evaluate value context).Adds
      (if (rules.condition value).value then (rule (.value rules.accepted)).report value context
        else rules.rejected.elim [] fun branch => (rule (.value branch)).report value context) := by
  obtain ⟨condition, positive, negative⟩ := rules
  simp only [evaluate, Rule.evaluate, ConditionalRules.evaluate]
  apply Step.Adds.ask
  cases (condition value).value with
  | true => exact accepted value context
  | false =>
      cases negative with
      | none => exact Step.adds_pass
      | some branch => exact rejected branch rfl value context

theorem value_evaluate (rules : ValueRules) (value : Value) (context : Context) :
    (rule (.value rules)).evaluate value context =
      .guarded rules.guards value .valueGuarded
        (if rules.skipsEmpty && value.isEmptyText then .event .emptySkipped
        else rules.runPrepared value (rules.scope context)) := by
  obtain ⟨presence, general, nested, last, mode, guards, skipsEmpty, preprocess⟩ := rules
  cases preprocess <;>
    simp only [evaluate, Rule.evaluate, ValueRules.evaluate, ValueRules.runPrepared,
      ValueRules.runEntries, ValueRules.entries, ValueRules.scope, RuleEntry.attemptsOption_eq,
      RuleEntry.attempts_eq, List.map_append]

theorem runEntries_adds {rules : ValueRules} (lawful : ∀ held ∈ rules.entries, (entry held).Lawful)
    (context : Context) (value : Value) :
    (rules.runEntries context value).Adds
      (rules.mode.merge ((rules.entries.filter (·.isActive context.ruleSets)).map
        fun held => (entry held).report value context)) := by
  have shape := Attempt.reports_select (fun held : RuleEntry => held.isActive context.ruleSets)
    (fun held => .ruleSkipped held.tag) (fun held => (entry held).evaluate value context)
    rules.entries
  unfold ValueRules.runEntries
  rw [RuleEntry.attempts_eq]
  unfold report
  rw [← shape]
  apply rules.mode.run_adds
  intro attempt member
  obtain ⟨held, heldMember, rfl⟩ := List.mem_map.mp member
  exact Attempt.lawful_select ((lawful held heldMember).step value context)

theorem runPrepared_adds {rules : ValueRules}
    (lawful : ∀ held ∈ rules.entries, (entry held).Lawful) (value : Value) (context : Context) :
    (rules.runPrepared value context).Adds
      (rules.mode.merge ((rules.entries.filter (·.isActive context.ruleSets)).map
        fun held => (entry held).report (rules.prepared value) context)) := by
  unfold ValueRules.runPrepared ValueRules.prepared
  cases rules.preprocess with
  | some transform =>
      exact Step.Adds.noted (runEntries_adds lawful _ (transform value).value).transient _
  | none => exact runEntries_adds lawful _ value

theorem evaluateIn_adds {rules : ValueRules}
    (lawful : ∀ held ∈ rules.entries, (entry held).Lawful) (value : Value) (context : Context) :
    (rules.evaluateIn value context).Adds
      (if rules.examines value then
        rules.mode.merge ((rules.entries.filter (·.isActive context.ruleSets)).map
          fun held => (entry held).report (rules.prepared value) context)
        else []) := by
  have guarded {step : Step} {made : Report} (adds : step.Adds made) :=
    adds.guarded rules.guards value .valueGuarded
  unfold ValueRules.evaluateIn ValueRules.examines
  cases (rules.skipsEmpty && value.isEmptyText) with
  | true => simpa using guarded (Step.adds_event .emptySkipped)
  | false => simpa using guarded (runPrepared_adds lawful value context)

theorem value_adds {rules : ValueRules} (lawful : ∀ held ∈ rules.entries, (entry held).Lawful)
    (value : Value) (context : Context) :
    ((rule (.value rules)).evaluate value context).Adds
      (if rules.examines value then
        rules.mode.merge ((rules.entries.filter (·.isActive (rules.scope context).ruleSets)).map
          fun held => (entry held).report (rules.prepared value) (rules.scope context))
        else []) := by
  rw [value_evaluate]
  exact evaluateIn_adds lawful value (rules.scope context)

theorem elements_adds {rules : ElementRules}
    (lawful : ∀ element ∈ rules.element, (rule element).Lawful) (value : Value)
    (context : Context) :
    ((rule (.elements rules)).evaluate value context).Adds
      (rules.element.elim [] fun element => value.elements.zipIdx.flatMap
        (ElementRules.placed rules.filter fun item =>
          (rule element).report item context.scope)) := by
  obtain ⟨_ | element, filter⟩ := rules
  · simp only [evaluate, Rule.evaluate, ElementRules.evaluate]
    exact Step.adds_pass
  · simp only [evaluate, Rule.evaluate, ElementRules.evaluate]
    exact ElementRules.runItems_adds filter
      (fun item => lawful element rfl item context.scope) 0 value.elements

theorem nested_adds {reach : Reach} {rules : ObjectRules} (lawful : (object rules).Lawful)
    (value : Value) (context : Context) :
    ((rule (.object reach rules)).evaluate value context).Adds
      ((value.nested? reach).elim [] fun record => (object rules).report record context) := by
  simp only [evaluate, Rule.evaluate]
  cases value.nested? reach with
  | none => exact Step.adds_pass
  | some record => exact lawful record context

theorem entry_adds {held : RuleEntry} (lawful : (rule held.rule).Lawful) (value : Value)
    (context : Context) :
    ((entry held).evaluate value context).Adds
      (((rule held.rule).report value context).map
        (MessageOverride.retitle held.message context)) := by
  obtain ⟨content, tag, message⟩ := held
  simp only [evaluate, RuleEntry.evaluate]
  exact (lawful value context).overriding message context

theorem property_adds {held : PropertyRules} (lawful : (rule (.value held.rules)).Lawful)
    (value : Value) (context : Context) :
    ((property held).evaluate value context).Adds
      ((held.annotations (held.read value) (held.scope context) ++
        (rule (.value held.rules)).report (held.read value) (held.scope context)).map
          (Failure.below held.member)) := by
  have annotated := held.annotationStep_adds (held.read value) (held.scope context)
  have stages := annotated.andThen (lawful (held.read value) (held.scope context))
  obtain ⟨name, memberOverride, display, accessor, rules, tag, annotated⟩ := held
  simp only [evaluate, PropertyRules.evaluate]
  exact Step.Adds.ask (stages.below _)

/-- The attempts of an object: its annotations, its active properties, its child. -/
def objectAttempts (rules : ObjectRules) (value : Value) (context : Context) : List Attempt :=
  rules.annotationAttempt value context ++
    PropertyRules.attempts rules.properties value context ++
    ObjectRules.attemptsOption rules.child value context

theorem object_evaluate (rules : ObjectRules) (value : Value) (context : Context) :
    (object rules).evaluate value context =
      .guarded rules.guards value (.objectGuarded rules.target.name)
        ((rules.mode.run (objectAttempts rules value (rules.contextFor value context))).counted
          (.objectFinished rules.target.name)) := by
  obtain ⟨target, properties, child⟩ := rules
  simp only [evaluate, ObjectRules.evaluate, objectAttempts, ObjectRules.annotationAttempt]

/-- A condition on the attempts of an object is one on its annotations, its properties and its
child. -/
theorem forall_objectAttempts {condition : Attempt → Prop} {rules : ObjectRules} {value : Value}
    {context : Context}
    (annotations : ∀ attempt ∈ rules.annotationAttempt value context, condition attempt)
    (properties : ∀ held ∈ rules.properties, condition
      (.select (held.isActive context.ruleSets) (.propertySkipped held.member)
        ((property held).evaluate value context)))
    (child : ∀ attached ∈ rules.child,
      condition (.made ((object attached).evaluate value context))) :
    ∀ attempt ∈ objectAttempts rules value context, condition attempt := by
  intro attempt member
  unfold objectAttempts at member
  rw [PropertyRules.attempts_eq, ObjectRules.attemptsOption_eq] at member
  rcases List.mem_append.mp member with early | attachedMember
  · rcases List.mem_append.mp early with annotated | propertyMember
    · exact annotations attempt annotated
    · obtain ⟨held, heldMember, rfl⟩ := List.mem_map.mp propertyMember
      exact properties held heldMember
  · obtain ⟨attached, present, rfl⟩ := List.mem_map.mp attachedMember
    exact child attached (Option.mem_toList.mp present)

theorem objectAttempts_lawful {rules : ObjectRules}
    (properties : ∀ held ∈ rules.properties, (property held).Lawful)
    (child : ∀ attached ∈ rules.child, (object attached).Lawful) (value : Value)
    (context : Context) : ∀ attempt ∈ objectAttempts rules value context, attempt.Lawful :=
  forall_objectAttempts (rules.annotationAttempt_lawful value context)
    (fun held member => Attempt.lawful_select ((properties held member).step value context))
    (fun attached present => (child attached present).step value context)

theorem reports_objectAttempts (rules : ObjectRules) (value : Value) (context : Context) :
    Attempt.reports (objectAttempts rules value context) =
      rules.annotations value context ++
        (rules.properties.filter (·.isActive context.ruleSets)).map
          (fun held => (property held).report value context) ++
        rules.child.toList.map fun attached => (object attached).report value context := by
  unfold objectAttempts
  rw [Attempt.reports_append, Attempt.reports_append, rules.reports_annotationAttempt,
    PropertyRules.attempts_eq, Attempt.reports_select, ObjectRules.attemptsOption_eq]
  cases rules.child <;> rfl

theorem object_adds {rules : ObjectRules}
    (properties : ∀ held ∈ rules.properties, (property held).Lawful)
    (child : ∀ attached ∈ rules.child, (object attached).Lawful) (value : Value)
    (context : Context) :
    ((object rules).evaluate value context).Adds
      (if rules.accepts value then
        rules.mode.merge (rules.annotations value (rules.contextFor value context) ++
          (rules.properties.filter
            (·.isActive (rules.contextFor value context).ruleSets)).map
              (fun held => (property held).report value (rules.contextFor value context)) ++
          rules.child.toList.map
            fun attached => (object attached).report value (rules.contextFor value context))
        else []) := by
  have run := rules.mode.run_adds
    (objectAttempts_lawful properties child value (rules.contextFor value context))
  rw [reports_objectAttempts] at run
  rw [object_evaluate]
  exact (run.counted _).guarded _ _ _

/-! ### Every node is lawful -/

theorem leaf_adds (leaf : Leaf) (value : Value) (context : Context) :
    ((rule (.leaf leaf)).evaluate value context).Adds
      (Step.examined leaf.type (fun input => (leaf.check input).value) value context) :=
  Step.adds_examine leaf.type leaf.check value context

theorem contextual_adds (leaf : ContextualLeaf) (value : Value) (context : Context) :
    ((rule (.contextual leaf)).evaluate value context).Adds
      (Step.examined leaf.type (fun input => (leaf.check input context).value) value context) :=
  Step.adds_examine leaf.type (fun input => leaf.check input context) value context

theorem presence_adds (value : Value) (context : Context) :
    ((rule .presence).evaluate value context).Adds
      (if value.isPresent then [] else [Step.rejected .required none context]) :=
  Step.adds_require value.isPresent .required context

theorem predicate_adds (test : ContextTest) (value : Value) (context : Context) :
    ((rule (.predicate test)).evaluate value context).Adds
      (if (test value context).value then []
        else [Step.rejected Step.predicateFailure none context]) := by
  have required := Step.adds_require (test value context).value Step.predicateFailure context
  exact required.noted _

/-- Every node adds its report to every sink. -/
theorem lawful (node : Node) : node.Lawful := by
  intro value context
  induction node generalizing value context with
  | leaf held => exact (leaf_adds held value context).lawful
  | contextual held => exact (contextual_adds held value context).lawful
  | presence => exact (presence_adds value context).lawful
  | predicate test => exact (predicate_adds test value context).lawful
  | composite rules ih => exact (composite_adds ih value context).lawful
  | conditional rules accepted rejected =>
      exact (conditional_adds accepted rejected value context).lawful
  | value rules ih => exact (value_adds ih value context).lawful
  | elements rules ih => exact (elements_adds ih value context).lawful
  | nested reach rules ih => exact (nested_adds ih value context).lawful
  | entry held ih => exact (entry_adds ih value context).lawful
  | property held ih => exact (property_adds ih value context).lawful
  | object rules properties child => exact (object_adds properties child value context).lawful

/-- An evaluation adds to a sink what the sink wants of the report. -/
theorem evaluate_failures (node : Node) (value : Value) (context : Context) (sink : Sink) :
    (node.evaluate value context sink).sink.failures =
      sink.failures ++ sink.wanted (node.report value context) := by
  rw [(node.lawful value context).sink, Sink.taking_failures]

/-! ### The equations of reports -/

theorem report_leaf (leaf : Leaf) (value : Value) (context : Context) :
    (rule (.leaf leaf)).report value context =
      Step.examined leaf.type (fun input => (leaf.check input).value) value context :=
  (leaf_adds leaf value context).added_eq

theorem report_contextual (leaf : ContextualLeaf) (value : Value) (context : Context) :
    (rule (.contextual leaf)).report value context =
      Step.examined leaf.type (fun input => (leaf.check input context).value) value context :=
  (contextual_adds leaf value context).added_eq

theorem report_presence (value : Value) (context : Context) :
    (rule .presence).report value context =
      if value.isPresent then [] else [Step.rejected .required none context] :=
  (presence_adds value context).added_eq

theorem report_predicate (test : ContextTest) (value : Value) (context : Context) :
    (rule (.predicate test)).report value context =
      if (test value context).value then []
        else [Step.rejected Step.predicateFailure none context] :=
  (predicate_adds test value context).added_eq

theorem report_composite (rules : CompositeRules) (value : Value) (context : Context) :
    (rule (.composite rules)).report value context =
      rules.mode.merge (rules.children.map fun part => (rule part).report value context) :=
  (composite_adds (fun part _ => lawful (rule part)) value context).added_eq

theorem report_conditional (rules : ConditionalRules) (value : Value) (context : Context) :
    (rule (.conditional rules)).report value context =
      if (rules.condition value).value then (rule (.value rules.accepted)).report value context
        else rules.rejected.elim [] fun branch => (rule (.value branch)).report value context :=
  (conditional_adds (lawful _) (fun branch _ => lawful (rule (.value branch))) value
    context).added_eq

theorem report_value (rules : ValueRules) (value : Value) (context : Context) :
    (rule (.value rules)).report value context =
      if rules.examines value then
        rules.mode.merge ((rules.entries.filter (·.isActive (rules.scope context).ruleSets)).map
          fun held => (entry held).report (rules.prepared value) (rules.scope context))
        else [] :=
  (value_adds (fun held _ => lawful (entry held)) value context).added_eq

theorem report_elements (rules : ElementRules) (value : Value) (context : Context) :
    (rule (.elements rules)).report value context =
      rules.element.elim [] fun element => value.elements.zipIdx.flatMap
        (ElementRules.placed rules.filter fun item =>
          (rule element).report item context.scope) :=
  (elements_adds (fun element _ => lawful (rule element)) value context).added_eq

theorem report_nested (reach : Reach) (rules : ObjectRules) (value : Value) (context : Context) :
    (rule (.object reach rules)).report value context =
      (value.nested? reach).elim [] fun record => (object rules).report record context :=
  (nested_adds (lawful (object rules)) value context).added_eq

theorem report_entry (held : RuleEntry) (value : Value) (context : Context) :
    (entry held).report value context =
      ((rule held.rule).report value context).map
        (MessageOverride.retitle held.message context) :=
  (entry_adds (lawful (rule held.rule)) value context).added_eq

theorem report_property (held : PropertyRules) (value : Value) (context : Context) :
    (property held).report value context =
      (held.annotations (held.read value) (held.scope context) ++
        (rule (.value held.rules)).report (held.read value) (held.scope context)).map
          (Failure.below held.member) :=
  (property_adds (lawful (rule (.value held.rules))) value context).added_eq

theorem report_object (rules : ObjectRules) (value : Value) (context : Context) :
    (object rules).report value context =
      if rules.accepts value then
        rules.mode.merge (rules.annotations value (rules.contextFor value context) ++
          (rules.properties.filter
            (·.isActive (rules.contextFor value context).ruleSets)).map
              (fun held => (property held).report value (rules.contextFor value context)) ++
          rules.child.toList.map
            fun attached => (object attached).report value (rules.contextFor value context))
        else [] :=
  (object_adds (fun held _ => lawful (property held)) (fun child _ => lawful (object child)) value
    context).added_eq

end Node

end RuleTree
