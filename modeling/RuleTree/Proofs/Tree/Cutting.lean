import RuleTree.Proofs.Step.Cutting
import RuleTree.Proofs.Tree.FirstFailure

/-!
Runs that are cut short. An evaluation that wants the first failure only, and one whose root stops
at its first failing step, call the functions that a user supplied in the same order as the whole
evaluation does, up to the point where they stop. Nothing is called besides, and nothing earlier.
-/

set_option autoImplicit false

namespace RuleTree

/-! ### Parts that do not descend into the tree -/

namespace Step

variable {step : Step}

theorem reject_orderly (failure : Failure) (tried : Option String) (context : Context) :
    (reject failure tried context).Orderly :=
  (writes_report _).orderly

theorem require_orderly (holds : Bool) (failure : Failure) (context : Context) :
    (require holds failure context).Orderly := by
  cases holds with
  | true => exact writes_pass.orderly
  | false => exact reject_orderly failure none context

theorem Orderly.noted (orderly : step.Orderly) (early : List Note) :
    (Step.noted early step).Orderly := by
  obtain ⟨notes, writes⟩ := orderly
  exact (writes.noted early).orderly

theorem Orderly.ask {α : Type} {question : Logged α} {next : α → Step}
    (orderly : (next question.value).Orderly) : (Step.ask question next).Orderly :=
  orderly.noted question.notes

theorem Orderly.andThen {first second : Step} (orderly : first.Orderly)
    (follows : second.Orderly) : (first.andThen second).Orderly := by
  obtain ⟨notes, writes⟩ := orderly
  obtain ⟨more, later⟩ := follows
  exact (writes.andThen later).orderly

theorem Orderly.editing (orderly : step.Orderly) {edit : Failure → Logged Failure}
    (quiet : ∀ failure, Note.Quiet (edit failure).notes) : (step.editing edit).Orderly := by
  obtain ⟨notes, writes⟩ := orderly
  exact (writes.editing quiet).orderly

theorem Orderly.below (orderly : step.Orderly) (path : String) : (step.below path).Orderly :=
  orderly.editing fun _ => Note.quiet_nil

theorem examine_orderly (type : LeafType) (check : type.Carrier → Logged (Option Failure))
    (value : Value) (context : Context) : (examine type check value context).Orderly := by
  unfold examine
  cases value.view type with
  | error failure => exact reject_orderly failure none context
  | ok view =>
      cases view with
      | none => exact writes_pass.orderly
      | some input =>
          apply Orderly.ask
          cases (check input).value with
          | none => exact writes_pass.orderly
          | some failure => exact reject_orderly failure _ context

theorem Orderly.guarded (orderly : step.Orderly) (guards : List Test) (value : Value)
    (shown : Event) : (guarded guards value shown step).Orderly := by
  apply Orderly.ask
  split
  · exact orderly
  · exact (writes_event shown).orderly

end Step

/-- Replacing a message leaves no remark. -/
theorem MessageOverride.apply_quiet (override : MessageOverride) (context : Context)
    (failure : Failure) : Note.Quiet (override.apply context failure).notes := by
  cases override with
  | literal template => exact Note.quiet_nil
  | resource key =>
      unfold apply
      dsimp only
      split
      · exact Note.quiet_nil
      · exact Note.quiet_event _

theorem Step.Orderly.overriding {step : Step} (orderly : step.Orderly)
    (override : Option MessageOverride) (context : Context) :
    (step.overriding override context).Orderly := by
  cases override with
  | none => exact orderly
  | some override => exact orderly.editing (override.apply_quiet context)

theorem ElementRules.runItems_orderly (filter : Option Test) {step : Value → Step}
    (orderly : ∀ item, (step item).Orderly) (position : Nat) (items : List Value) :
    (runItems filter step position items).Orderly := by
  induction items generalizing position with
  | nil => exact Step.writes_pass.orderly
  | cons item rest ih =>
      have made := ((orderly item).below (Path.index "" position)).andThen (ih (position + 1))
      cases filter with
      | none => exact made
      | some keep =>
          rw [runItems]
          apply Step.Orderly.ask
          cases (keep item).value with
          | true => exact made
          | false => exact (ih (position + 1)).noted _

theorem PropertyRules.annotationStep_orderly (annotated : Bool) (member : String) (value : Value)
    (context : Context) : (annotationStep annotated member value context).Orderly := by
  unfold annotationStep
  cases (if annotated then context.activeBridge else none) with
  | none => exact Step.writes_pass.orderly
  | some bridge =>
      apply Step.Orderly.ask
      rcases (bridge.annotate value (request member context)).value with error | (_ | report)
      · exact (Step.writes_report _).orderly
      · exact Step.writes_pass.orderly
      · exact (Step.writes_reportAll _).orderly

theorem ObjectRules.annotationAttempt_orderly (rules : ObjectRules) (value : Value)
    (context : Context) : ∀ attempt ∈ rules.annotationAttempt value context, attempt.Orderly := by
  unfold annotationAttempt annotationAttempts
  cases context.activeBridge with
  | none => simp
  | some bridge =>
      intro attempt member
      rw [List.mem_singleton.mp member]
      apply Step.Orderly.ask
      rcases (bridge.annotate value _).value with error | (_ | report)
      · exact (Step.writes_report _).orderly
      · exact Step.writes_pass.orderly
      · exact (Step.writes_reportAll _).orderly

theorem Attempt.orderly_select {selected : Bool} {shown : Event} {step : Step}
    (orderly : step.Orderly) : (select selected shown step).Orderly := by
  cases selected with
  | true => exact orderly
  | false => trivial

/-! ### Every node is orderly -/

namespace Node

def Orderly (node : Node) : Prop := ∀ value context, (node.evaluate value context).Orderly

theorem composite_orderly {rules : CompositeRules}
    (orderly : ∀ part ∈ rules.children, (rule part).Orderly) :
    (rule (.composite rules)).Orderly := by
  intro value context
  obtain ⟨parts, mode⟩ := rules
  change (mode.run (Rule.attempts parts value context)).Orderly
  apply mode.run_orderly
  intro attempt member
  rw [Rule.attempts_eq] at member
  obtain ⟨part, partMember, rfl⟩ := List.mem_map.mp member
  exact orderly part partMember value context

theorem conditional_orderly {rules : ConditionalRules}
    (accepted : (rule (.value rules.accepted)).Orderly)
    (rejected : ∀ branch ∈ rules.rejected, (rule (.value branch)).Orderly) :
    (rule (.conditional rules)).Orderly := by
  intro value context
  obtain ⟨condition, positive, negative⟩ := rules
  simp only [evaluate, Rule.evaluate, ConditionalRules.evaluate]
  apply Step.Orderly.ask
  cases (condition value).value with
  | true => exact accepted value context
  | false =>
      cases negative with
      | none => exact Step.writes_pass.orderly
      | some branch => exact rejected branch rfl value context

theorem runEntries_orderly {rules : ValueRules}
    (orderly : ∀ held ∈ rules.entries, (entry held).Orderly) (context : Context) (value : Value) :
    (rules.runEntries context value).Orderly := by
  apply rules.mode.run_orderly
  intro attempt member
  rw [RuleEntry.attempts_eq] at member
  obtain ⟨held, heldMember, rfl⟩ := List.mem_map.mp member
  exact Attempt.orderly_select (orderly held heldMember value context)

theorem value_orderly {rules : ValueRules}
    (orderly : ∀ held ∈ rules.entries, (entry held).Orderly) : (rule (.value rules)).Orderly := by
  intro value context
  rw [value_evaluate]
  apply Step.Orderly.guarded
  split
  · exact (Step.writes_event .emptySkipped).orderly
  · unfold ValueRules.runPrepared
    cases rules.preprocess with
    | none => exact runEntries_orderly orderly _ value
    | some transform =>
        apply Step.Orderly.ask
        obtain ⟨notes, writes⟩ :=
          runEntries_orderly orderly (rules.scope context) (transform value).value
        exact writes.transient.orderly

theorem elements_orderly {rules : ElementRules}
    (orderly : ∀ element ∈ rules.element, (rule element).Orderly) :
    (rule (.elements rules)).Orderly := by
  intro value context
  obtain ⟨_ | element, filter⟩ := rules
  · simp only [evaluate, Rule.evaluate, ElementRules.evaluate]
    exact Step.writes_pass.orderly
  · simp only [evaluate, Rule.evaluate, ElementRules.evaluate]
    exact ElementRules.runItems_orderly filter
      (fun item => orderly element rfl item context.scope) 0 value.elements

theorem nested_orderly {reach : Reach} {rules : ObjectRules} (orderly : (object rules).Orderly) :
    (rule (.object reach rules)).Orderly := by
  intro value context
  simp only [evaluate, Rule.evaluate]
  cases value.nested? reach with
  | none => exact Step.writes_pass.orderly
  | some record => exact orderly record context

theorem entry_orderly {held : RuleEntry} (orderly : (rule held.rule).Orderly) :
    (entry held).Orderly := by
  intro value context
  obtain ⟨content, tag, message⟩ := held
  simp only [evaluate, RuleEntry.evaluate]
  exact (orderly value context).overriding message context

theorem property_orderly {held : PropertyRules} (orderly : (rule (.value held.rules)).Orderly) :
    (property held).Orderly := by
  intro value context
  have annotated := PropertyRules.annotationStep_orderly held.annotated held.member
    (held.read value) (held.scope context)
  have stages := annotated.andThen (orderly (held.read value) (held.scope context))
  obtain ⟨name, memberOverride, display, accessor, rules, tag, annotated⟩ := held
  simp only [evaluate, PropertyRules.evaluate]
  exact Step.Orderly.ask (stages.below _)

theorem object_orderly {rules : ObjectRules}
    (properties : ∀ held ∈ rules.properties, (property held).Orderly)
    (child : ∀ attached ∈ rules.child, (object attached).Orderly) : (object rules).Orderly := by
  intro value context
  have run : (rules.mode.run
      (objectAttempts rules value (rules.contextFor value context))).Orderly :=
    rules.mode.run_orderly (forall_objectAttempts (rules.annotationAttempt_orderly value _)
      (fun held member => Attempt.orderly_select (properties held member value _))
      (fun attached present => child attached present value _))
  obtain ⟨notes, writes⟩ := run
  rw [object_evaluate]
  exact (writes.counted _).orderly.guarded _ _ _

/-- Every node is cut short only where it halts the evaluation. -/
theorem orderly (node : Node) : node.Orderly := by
  induction node with
  | leaf held => exact fun value context => Step.examine_orderly held.type held.check value context
  | contextual held =>
      exact fun value context =>
        Step.examine_orderly held.type (fun input => held.check input context) value context
  | presence => exact fun value context => Step.require_orderly value.isPresent .required context
  | predicate test =>
      intro value context
      have required := Step.require_orderly (test value context).value Step.predicateFailure context
      exact required.noted (test value context).notes
  | composite rules ih => exact composite_orderly ih
  | conditional rules accepted rejected => exact conditional_orderly accepted rejected
  | value rules ih => exact value_orderly ih
  | elements rules ih => exact elements_orderly ih
  | nested reach rules ih => exact nested_orderly ih
  | entry held ih => exact entry_orderly ih
  | property held ih => exact property_orderly ih
  | object rules properties child => exact object_orderly properties child

end Node

/-! ### Stopping at the root -/

namespace Step

/-- Whatever the sink is, the one step remarks what the remarks of the other one begin with. -/
def Begins (short full : Step) : Prop :=
  ∀ sink, Note.Begins (short sink).notes (full sink).notes

namespace Begins

variable {short full : Step}

theorem refl (step : Step) : step.Begins step := fun sink => .refl (step sink).notes

theorem noted (begins : short.Begins full) (notes : List Note) :
    (Step.noted notes short).Begins (Step.noted notes full) :=
  fun sink => (begins sink).behind notes

theorem guarded (begins : short.Begins full) (guards : List Test) (value : Value) (shown : Event) :
    (Step.guarded guards value shown short).Begins (Step.guarded guards value shown full) := by
  apply Begins.noted
  cases (Logged.all (fun guard => guard value) guards).value with
  | true => exact begins
  | false => exact .refl _

theorem transient (begins : short.Begins full) : short.transient.Begins full.transient :=
  fun sink => (begins sink).transient

theorem counted (begins : short.Begins full) (shown : Nat → Event) :
    (short.counted shown).Begins (full.counted shown) :=
  fun sink => ((begins sink).quietly (Note.quiet_event _)).before _

theorem editing (begins : short.Begins full) {edit : Failure → Logged Failure}
    (quiet : ∀ failure, Note.Quiet (edit failure).notes) :
    (short.editing edit).Begins (full.editing edit) :=
  fun sink => ((begins sink).quietly (editAll_quiet quiet _)).before _

theorem andThen (begins : short.Begins full) (first : Step) :
    (first.andThen short).Begins (first.andThen full) := by
  intro sink
  unfold Step.andThen
  dsimp only
  cases (first sink).flow with
  | halt => exact .refl _
  | proceed => exact (begins (first sink).sink).behind (first sink).notes

end Begins

end Step

namespace Mode

/-- Fail-fast in place of all. -/
def failingFast : Mode → Mode
  | .all => .failFast
  | mode => mode

/-- Both run the same attempts in the same order; fail-fast stops where a failure was added. -/
theorem runFailFast_begins (attempts : List Attempt) :
    (runFailFast attempts).Begins (runAll attempts) := by
  intro sink
  induction attempts generalizing sink with
  | nil => exact .refl _
  | cons attempt rest ih =>
      cases attempt with
      | skipped shown => exact (ih sink).behind [.event shown]
      | made step =>
          unfold runFailFast runAll Step.andThen
          dsimp only
          cases (step sink).flow with
          | halt => exact .refl _
          | proceed =>
              dsimp only
              split
              · exact (Note.Begins.refl (step sink).notes).before _
              · exact (ih (step sink).sink).behind (step sink).notes

theorem run_failingFast_begins (mode : Mode) (attempts : List Attempt) :
    (mode.failingFast.run attempts).Begins (mode.run attempts) := by
  cases mode with
  | all => exact runFailFast_begins attempts
  | failFast => exact .refl _
  | any => exact .refl _

end Mode

def ValueRules.failingFast (rules : ValueRules) : ValueRules :=
  { rules with mode := rules.mode.failingFast }

def ObjectRules.failingFast (rules : ObjectRules) : ObjectRules :=
  { rules with mode := rules.mode.failingFast }

/-- A rule whose root, if it is a container, is fail-fast where it was all. Nothing else changes. -/
def Rule.failingFast : Rule → Rule
  | .composite rules => .composite { rules with mode := rules.mode.failingFast }
  | .value rules => .value rules.failingFast
  | .object reach rules => .object reach rules.failingFast
  | rule => rule

namespace Node

/-- A node whose root is fail-fast where it was all. -/
def failingFast : Node → Node
  | .rule held => .rule held.failingFast
  | .entry held => .entry { held with rule := held.rule.failingFast }
  | .property held => .property { held with rules := held.rules.failingFast }
  | .object rules => .object rules.failingFast

theorem runPrepared_failingFast_begins (rules : ValueRules) (value : Value) (context : Context) :
    (rules.failingFast.runPrepared value context).Begins (rules.runPrepared value context) := by
  have run (seen : Value) :
      (rules.failingFast.runEntries context seen).Begins (rules.runEntries context seen) :=
    rules.mode.run_failingFast_begins _
  have same : rules.failingFast.preprocess = rules.preprocess := rfl
  unfold ValueRules.runPrepared
  rw [same]
  cases rules.preprocess with
  | none => exact run value
  | some transform => exact (run (transform value).value).transient.noted (transform value).notes

theorem value_failingFast_begins (rules : ValueRules) (value : Value) (context : Context) :
    ((rule (.value rules.failingFast)).evaluate value context).Begins
      ((rule (.value rules)).evaluate value context) := by
  have examined : Step.Begins
      (if rules.skipsEmpty && value.isEmptyText then .event .emptySkipped
        else rules.failingFast.runPrepared value (rules.scope context))
      (if rules.skipsEmpty && value.isEmptyText then .event .emptySkipped
        else rules.runPrepared value (rules.scope context)) := by
    split
    · exact .refl _
    · exact runPrepared_failingFast_begins rules value (rules.scope context)
  rw [value_evaluate, value_evaluate]
  exact examined.guarded rules.guards value .valueGuarded

theorem object_failingFast_begins (rules : ObjectRules) (value : Value) (context : Context) :
    ((object rules.failingFast).evaluate value context).Begins
      ((object rules).evaluate value context) := by
  have run := rules.mode.run_failingFast_begins
    (objectAttempts rules value (rules.contextFor value context))
  rw [object_evaluate, object_evaluate]
  exact (run.counted (.objectFinished rules.target.name)).guarded rules.guards value
    (.objectGuarded rules.target.name)

theorem rule_failingFast_begins (held : Rule) (value : Value) (context : Context) :
    ((rule held.failingFast).evaluate value context).Begins
      ((rule held).evaluate value context) := by
  cases held with
  | composite rules =>
      obtain ⟨parts, mode⟩ := rules
      exact mode.run_failingFast_begins (Rule.attempts parts value context)
  | value rules => exact value_failingFast_begins rules value context
  | object reach rules =>
      simp only [Rule.failingFast, evaluate, Rule.evaluate]
      cases value.nested? reach with
      | none => exact .refl _
      | some record => exact object_failingFast_begins rules record context
  | leaf | contextual | presence | predicate | conditional | elements => exact .refl _

theorem failingFast_begins (node : Node) (value : Value) (context : Context) :
    (node.failingFast.evaluate value context).Begins (node.evaluate value context) := by
  cases node with
  | rule held => exact rule_failingFast_begins held value context
  | object rules => exact object_failingFast_begins rules value context
  | entry held =>
      have begins := rule_failingFast_begins held.rule value context
      obtain ⟨content, tag, _ | override, isCustom⟩ := held
      · exact begins
      · exact begins.editing (override.apply_quiet context)
  | property held =>
      have begins := rule_failingFast_begins (.value held.rules) (held.read value)
        (held.scope context)
      obtain ⟨name, memberOverride, display, accessor, rules, tag, annotated⟩ := held
      simp only [failingFast, evaluate, PropertyRules.evaluate]
      exact ((begins.andThen _).editing fun _ => Note.quiet_nil).noted _

/-! ### Verdicts -/

theorem failures?_notes (node : Node) (value : Value) (context : Context) :
    (node.failures? value context).notes = (node.evaluate value context .collectAll).notes :=
  List.append_nil _

theorem accepts_notes (node : Node) (value : Value) (context : Context) :
    (node.accepts value context).notes = (node.evaluate value context .first).notes :=
  List.append_nil _

theorem require_notes (node : Node) (value : Value) (context : Context) :
    (node.require value context).notes = (node.evaluate value context .first).notes := by
  simp only [require, Step.demand, Step.runWith, Logged.bind]
  cases (node.evaluate value context .first).sink.first? with
  | none => exact List.append_nil _
  | some failure => exact List.append_nil _

/-- An evaluation that stops at the first failure makes the calls of the whole evaluation up to that
point, and so does one whose root is fail-fast where it was all: what the functions that a user
supplied remark is what they remark first in the whole evaluation. -/
theorem stopping_cuts_short (node : Node) (value : Value) (context : Context) (memory : Memory) :
    Note.remarks (node.require value context).notes memory <+:
        Note.remarks (node.failures? value context).notes memory ∧
      Note.remarks (node.accepts value context).notes memory <+:
        Note.remarks (node.failures? value context).notes memory ∧
      Note.remarks (node.failingFast.failures? value context).notes memory <+:
        Note.remarks (node.failures? value context).notes memory ∧
      Note.remarks (node.failingFast.require value context).notes memory <+:
        Note.remarks (node.require value context).notes memory ∧
      Note.remarks (node.failingFast.accepts value context).notes memory <+:
        Note.remarks (node.accepts value context).notes memory := by
  obtain ⟨notes, writes⟩ := node.orderly value context
  have whole : (node.evaluate value context .collectAll).notes = notes :=
    writes.whole .collectAll rfl
  have begins := node.failingFast_begins value context
  simp only [failures?_notes, require_notes, accepts_notes]
  rw [whole]
  exact ⟨writes.cut .first memory, writes.cut .first memory, whole ▸ begins .collectAll memory,
    begins .first memory, begins .first memory⟩

/-- Two tests that do not hold and remark each call. -/
def remarkedTwice : Node :=
  let test (name : String) : ContextTest := fun _ _ => ⟨false, [.remark (.string name)]⟩
  .rule (.composite ⟨[.predicate (test "first"), .predicate (test "second")], .all⟩)

example :
    Note.remarks (remarkedTwice.failures? (.bool true) .empty).notes .empty =
        [.string "first", .string "second"] ∧
      Note.remarks (remarkedTwice.require (.bool true) .empty).notes .empty = [.string "first"] ∧
      Note.remarks (remarkedTwice.failingFast.failures? (.bool true) .empty).notes .empty =
        [.string "first"] :=
  ⟨rfl, rfl, rfl⟩

end Node

end RuleTree
