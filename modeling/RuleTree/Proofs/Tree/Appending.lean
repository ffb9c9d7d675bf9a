import RuleTree.Leaf.Library
import RuleTree.Proofs.Step.Appends
import RuleTree.Proofs.Tree.Report
import RuleTree.Tree.Build
import RuleTree.Value.Reader

/-!
Evaluation only appends. Whatever a sink holds before a node is evaluated stands in front of it
afterwards. Nodes note the size of the sink before they run a part, and edit, count or cut off what
stands behind that size when the part is done; as parts only append, there is always such a place.
-/

set_option autoImplicit false

namespace RuleTree

namespace Step.Adds

variable {step : Step} {report : Report}

theorem begins (adds : step.Adds report) (sink : Sink) :
    sink.failures <+: (step sink).sink.failures := by
  rw [adds.sink]
  exact List.prefix_append _ _

theorem size_eq (adds : step.Adds report) (sink : Sink) :
    (step sink).sink.size = sink.size + (sink.wanted report).length := by
  rw [adds.sink, Sink.size, Sink.taking_failures, List.length_append, Sink.size]

theorem grows (adds : step.Adds report) (sink : Sink) : sink.size ≤ (step sink).sink.size := by
  rw [adds.size_eq]
  exact Nat.le_add_right _ _

theorem firstOnly_eq (adds : step.Adds report) (sink : Sink) :
    (step sink).sink.firstOnly = sink.firstOnly := by
  rw [adds.sink]
  rfl

/-- The number that is told is the number of failures that are new. -/
theorem counted_notes (adds : step.Adds report) (shown : Nat → Event) (sink : Sink) :
    (step.counted shown sink).notes =
      (step sink).notes ++ [.event (shown (sink.wanted report).length)] := by
  rw [Step.counted, adds.size_eq, Nat.add_sub_cancel_left]

end Step.Adds

theorem Step.guarded_notes {guards : List Test} {value : Value}
    (accepted : (guards.all fun guard => (guard value).value) = true) (shown : Event) (step : Step)
    (sink : Sink) :
    (Step.guarded guards value shown step sink).notes =
      (Logged.all (fun guard : Test => guard value) guards).notes ++ (step sink).notes := by
  rw [← Logged.all_value (fun guard : Test => guard value)] at accepted
  simp only [Step.guarded, Step.ask, accepted, ↓reduceIte, Step.noted, Outcome.after]

namespace Node

/-- The steps around which a node looks at the size of the sink. The failures of the rule of an
entry get its message, those of a property and of an element are put below it, those of an object
are counted; and what a container runs is cut off behind its first failure if it is to fail fast. -/
inductive Measures : Node → Value → Context → Step → Prop where
  | rule {held : RuleEntry} {value : Value} {context : Context} :
    Measures (.entry held) value context ((Node.rule held.rule).evaluate value context)
  | property {held : PropertyRules} {value : Value} {context : Context} :
    Measures (.property held) value context
      ((PropertyRules.annotationStep held.annotated held.member (held.read value)
        (held.scope context)).andThen
          ((Node.rule (.value held.rules)).evaluate (held.read value) (held.scope context)))
  | element {rules : ElementRules} {element : Rule} {value item : Value} {context : Context} :
    rules.element = some element → item ∈ value.elements →
      Measures (.rule (.elements rules)) value context
        ((Node.rule element).evaluate item context.scope)
  | object {rules : ObjectRules} {value : Value} {context : Context} :
    Measures (.object rules) value context
      (rules.mode.run (objectAttempts rules value (rules.contextFor value context)))
  | attempt {rules : ObjectRules} {value : Value} {context : Context} {step : Step} :
    step ∈ Attempt.steps (objectAttempts rules value (rules.contextFor value context)) →
      Measures (.object rules) value context step
  | entry {rules : ValueRules} {held : RuleEntry} {value : Value} {context : Context} :
    held ∈ rules.entries →
      Measures (.rule (.value rules)) value context
        ((Node.entry held).evaluate (rules.prepared value) (rules.scope context))
  | part {rules : CompositeRules} {part : Rule} {value : Value} {context : Context} :
    part ∈ rules.children →
      Measures (.rule (.composite rules)) value context
        ((Node.rule part).evaluate value context)

theorem attempts_lawful (rules : ObjectRules) (value : Value) (context : Context) :
    ∀ attempt ∈ objectAttempts rules value context, attempt.Lawful :=
  objectAttempts_lawful (fun held _ => lawful (property held))
    (fun child _ => lawful (object child)) value context

theorem Measures.lawful {node : Node} {value : Value} {context : Context} {step : Step}
    (measures : node.Measures value context step) : step.Lawful := by
  cases measures with
  | @rule held => exact Node.lawful (.rule held.rule) value context
  | @property held =>
      have annotated := held.annotationStep_adds (held.read value) (held.scope context)
      exact (annotated.andThen (Node.lawful _ _ _)).lawful
  | @element _ element _ item => exact Node.lawful (.rule element) item context.scope
  | @object rules =>
      exact (rules.mode.run_adds (attempts_lawful rules value _)).lawful
  | @attempt rules _ _ _ member =>
      exact Attempt.lawful_of_mem_steps (attempts_lawful rules value _) step member
  | @entry rules held => exact Node.lawful (.entry held) _ _
  | @part rules part => exact Node.lawful (.rule part) value context

/-- The last note about an accepted object tells how many failures it has added. -/
theorem object_counts (rules : ObjectRules) {value : Value} (accepted : rules.accepts value = true)
    (context : Context) (sink : Sink) :
    ∃ (earlier : List Note) (count : Nat),
      ((object rules).evaluate value context sink).notes =
          earlier ++ [.event (.objectFinished rules.target.name count)] ∧
        ((object rules).evaluate value context sink).sink.size = sink.size + count := by
  unfold ObjectRules.accepts at accepted
  have run := rules.mode.run_adds (attempts_lawful rules value (rules.contextFor value context))
  have guarded := (run.counted (.objectFinished rules.target.name)).guarded rules.guards value
    (.objectGuarded rules.target.name)
  rw [object_evaluate, guarded.size_eq, Step.guarded_notes accepted, run.counted_notes,
    ← List.append_assoc, if_pos accepted]
  exact ⟨_, _, rfl, rfl⟩

/-- Evaluation only appends, whatever the sink holds, and in a sink that collects all failures it
always appends the same. So there is a place in the sink for every edit and cut of an evaluation,
and the number of failures that is told of an object is the number of those it has added. -/
theorem evaluate_only_appends :
    (∀ (node : Node) (value : Value) (context : Context) (sink : Sink),
        sink.failures <+: (node.evaluate value context sink).sink.failures ∧
          sink.size ≤ (node.evaluate value context sink).sink.size ∧
          (node.evaluate value context sink).sink.firstOnly = sink.firstOnly) ∧
      (∀ (node : Node) (value : Value) (context : Context), ∃ appended : Report,
        ∀ prior : Report,
          (node.evaluate value context ⟨prior, false⟩).sink = ⟨prior ++ appended, false⟩) ∧
      (∀ (node : Node) (value : Value) (context : Context) (step : Step),
        node.Measures value context step → ∀ sink : Sink,
          sink.failures <+: (step sink).sink.failures ∧ sink.size ≤ (step sink).sink.size) ∧
      ∀ (rules : ObjectRules) (value : Value) (context : Context) (sink : Sink),
        rules.accepts value = true →
          ∃ (earlier : List Note) (count : Nat),
            ((object rules).evaluate value context sink).notes =
                earlier ++ [.event (.objectFinished rules.target.name count)] ∧
              ((object rules).evaluate value context sink).sink.size = sink.size + count := by
  refine ⟨?_, ?_, ?_, ?_⟩
  · intro node value context sink
    have adds := node.lawful value context
    exact ⟨adds.begins sink, adds.grows sink, adds.firstOnly_eq sink⟩
  · intro node value context
    exact ⟨node.report value context, (node.lawful value context).appends.sink⟩
  · intro node value context step measures sink
    have adds : step.Adds step.added := measures.lawful
    exact ⟨adds.begins sink, adds.grows sink⟩
  · intro rules value context sink accepted
    exact object_counts rules accepted context sink

/-- The code of a line is too short for one rule and too long for the other; the line fails fast. -/
def lineRules : ObjectRules :=
  { ObjectRules.empty (.record "Line") with
    mode := .failFast
    properties := [(PropertyRules.new "Code" (fun line => pure (line.member .string "code"))
      ).modifyRules fun rules =>
        ((rules.pushRule (.leaf (.minLength 3))).setLastMessage (.literal "too short")).pushRule
          (.leaf (.maxLength 1))] }

theorem line_is_appended :
    let line : Value := .record "Line" (.given 0) (.ofMembers [("code", .string "ab")])
    let prior : Sink := ⟨[.new "date" "The date is missing."], false⟩
    let run := lineRules.mode.run (objectAttempts lineRules line (lineRules.contextFor line .empty))
    (prior.failures <+: (run prior).sink.failures ∧ prior.size ≤ (run prior).sink.size) ∧
      lineRules.accepts line = true ∧
      (∃ (earlier : List Note) (count : Nat),
        ((object lineRules).evaluate line .empty prior).notes =
            earlier ++ [.event (.objectFinished "Line" count)] ∧
          ((object lineRules).evaluate line .empty prior).sink.size = prior.size + count) ∧
      ((object lineRules).evaluate line .empty prior).sink.failures.map Failure.message =
        ["The date is missing.", "too short"] := by
  intro line prior run
  have ⟨_, _, measured, counted⟩ := evaluate_only_appends
  have accepted : lineRules.accepts line = true := by decide
  exact ⟨measured (.object lineRules) line .empty run .object prior, accepted,
    counted lineRules line .empty prior accepted, by decide⟩

end Node

end RuleTree
