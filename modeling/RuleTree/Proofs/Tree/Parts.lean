import RuleTree.Proofs.Step.Adds
import RuleTree.Tree.Node

/-!
The parts of an evaluation that do not descend into the tree: what rejections, examinations,
guards, overrides, filters and annotations add to a sink, and which attempts a list of rules,
entries or properties makes.
-/

set_option autoImplicit false

namespace RuleTree

theorem Logged.all_value {α : Type} (test : α → Logged Bool) (items : List α) :
    (Logged.all test items).value = items.all fun item => (test item).value := by
  induction items with
  | nil => rfl
  | cons item rest ih =>
      simp only [Logged.all, Logged.bind, List.all_cons]
      cases (test item).value with
      | true => simpa using ih
      | false => rfl

/-! ### Steps that do not descend into the tree -/

namespace Step

/-- A rejected failure as it is reported. -/
def rejected (failure : Failure) (tried : Option String) (context : Context) : Failure :=
  { failure with attempted := failure.attempted.or tried }.localize
    context.messageName context.messages

theorem adds_reject (failure : Failure) (tried : Option String) (context : Context) :
    (reject failure tried context).Adds [rejected failure tried context] :=
  adds_report _

theorem adds_require (holds : Bool) (failure : Failure) (context : Context) :
    (require holds failure context).Adds
      (if holds then [] else [rejected failure none context]) := by
  cases holds with
  | true => exact adds_pass
  | false => exact adds_reject failure none context

/-- What the examination of a view reports. -/
def examined (type : LeafType) (check : type.Carrier → Option Failure) (value : Value)
    (context : Context) : Report :=
  match value.view type with
  | .error failure => [rejected failure none context]
  | .ok none => []
  | .ok (some input) =>
    match check input with
    | some failure => [rejected failure (some (type.describe input)) context]
    | none => []

theorem adds_examine (type : LeafType) (check : type.Carrier → Logged (Option Failure))
    (value : Value) (context : Context) :
    (examine type check value context).Adds
      (examined type (fun input => (check input).value) value context) := by
  unfold examine examined
  cases viewed : value.view type with
  | error failure => exact adds_reject failure none context
  | ok view =>
      cases view with
      | none => exact adds_pass
      | some input =>
          refine Adds.ask ?_
          cases found : (check input).value with
          | some failure => simpa only [found] using adds_reject failure _ context
          | none => simpa only [found] using adds_pass

theorem Adds.guarded {step : Step} {report : Report} (adds : step.Adds report)
    (guards : List Test) (value : Value) (shown : Event) :
    (guarded guards value shown step).Adds
      (if guards.all fun guard => (guard value).value then report else []) := by
  refine Adds.ask ?_
  rw [Logged.all_value]
  split
  · exact adds
  · exact adds_event shown

end Step

namespace MessageOverride

/-- A failure with the message of an override, if there is one that has a template. -/
def retitle (override : Option MessageOverride) (context : Context) (failure : Failure) :
    Failure :=
  match override with
  | some override => (override.apply context failure).value
  | none => failure

end MessageOverride

theorem Step.Adds.overriding {step : Step} {report : Report} (adds : step.Adds report)
    (override : Option MessageOverride) (context : Context) :
    (step.overriding override context).Adds
      (report.map (MessageOverride.retitle override context)) := by
  cases override with
  | some override => exact adds.editing _
  | none =>
      have unchanged : report.map (MessageOverride.retitle none context) = report :=
        List.map_id'' (fun _ => rfl) report
      rw [unchanged]
      exact adds

namespace ElementRules

/-- The filter lets an element pass. -/
def keeps (filter : Option Test) (item : Value) : Bool :=
  match filter with
  | some keep => (keep item).value
  | none => true

/-- The report of an element, put below its position, unless the filter leaves it out. -/
def placed (filter : Option Test) (report : Value → Report) (numbered : Value × Nat) : Report :=
  if keeps filter numbered.1 then
    (report numbered.1).map (Failure.below (Path.index "" numbered.2))
  else []

theorem runItems_adds (filter : Option Test) {step : Value → Step} {report : Value → Report}
    (adds : ∀ item, (step item).Adds (report item)) (position : Nat) (items : List Value) :
    (runItems filter step position items).Adds
      ((items.zipIdx position).flatMap (placed filter report)) := by
  induction items generalizing position with
  | nil => exact Step.adds_pass
  | cons item rest ih =>
      have made := ((adds item).below (Path.index "" position)).andThen (ih (position + 1))
      rw [List.zipIdx_cons, List.flatMap_cons]
      cases filter with
      | none => exact made
      | some keep =>
          rw [runItems]
          refine Step.Adds.ask ?_
          cases kept : (keep item).value with
          | true => simpa [placed, keeps, kept] using made
          | false => simpa [placed, keeps, kept] using (ih (position + 1)).noted _

end ElementRules

namespace AnnotationBridge

/-- What the answer of a bridge adds, if this is kept of a report. -/
def reported (keep : Report → Report) : AnnotationAnswer → Report
  | .ok none => []
  | .ok (some report) => keep report
  | .error error => [error.toFailure]

end AnnotationBridge

namespace PropertyRules

/-- The level of the context in which the value of a property is validated. -/
def scope (held : PropertyRules) (context : Context) : Context :=
  context.child.withMember held.member held.display

/-- The value of a property. -/
def read (held : PropertyRules) (object : Value) : Value := (held.accessor object).value

/-- A failure without a member. -/
def without (member : String) (failure : Failure) : Failure :=
  { failure with members := failure.members.filter (· != member) }

/-- What the annotations of a property report about its value. -/
def annotations (held : PropertyRules) (value : Value) (context : Context) : Report :=
  match if held.annotated then context.activeBridge else none with
  | none => []
  | some bridge =>
    AnnotationBridge.reported (fun report => report.map (without held.member))
      (bridge.annotate value (request held.member context)).value

theorem annotationStep_adds (held : PropertyRules) (value : Value) (context : Context) :
    (annotationStep held.annotated held.member value context).Adds
      (held.annotations value context) := by
  unfold annotationStep annotations
  cases (if held.annotated then context.activeBridge else none) with
  | none => exact Step.adds_pass
  | some bridge =>
      refine Step.Adds.ask ?_
      dsimp only
      rcases (bridge.annotate value (request held.member context)).value with
        error | (_ | report)
      · exact Step.adds_report _
      · exact Step.adds_pass
      · exact Step.adds_reportAll _

end PropertyRules

namespace ObjectRules

/-- The request about an object. -/
def requestFor (rules : ObjectRules) (context : Context) : AnnotationRequest :=
  request rules.validateAll (rules.activeMembers context.ruleSets) context

/-- What the annotations of an object report about it, if there is a bridge to ask. -/
def annotations (rules : ObjectRules) (value : Value) (context : Context) : List Report :=
  match context.activeBridge with
  | none => []
  | some bridge =>
    [AnnotationBridge.reported (List.filter (rules.requestFor context).wants)
      (bridge.annotate value (rules.requestFor context)).value]

theorem annotationStep_adds (bridge : AnnotationBridge) (value : Value)
    (request : AnnotationRequest) :
    (annotationStep bridge value request).Adds
      (AnnotationBridge.reported (List.filter request.wants)
        (bridge.annotate value request).value) := by
  refine Step.Adds.ask ?_
  rcases (bridge.annotate value request).value with error | (_ | report)
  · exact Step.adds_report _
  · exact Step.adds_pass
  · exact Step.adds_reportAll _

/-- The attempt of the annotations, if there is a bridge to ask. -/
def annotationAttempt (rules : ObjectRules) (value : Value) (context : Context) : List Attempt :=
  annotationAttempts rules.validateAll (rules.activeMembers context.ruleSets) value context

theorem reports_annotationAttempt (rules : ObjectRules) (value : Value) (context : Context) :
    Attempt.reports (rules.annotationAttempt value context) = rules.annotations value context := by
  unfold annotationAttempt annotationAttempts annotations
  cases context.activeBridge with
  | none => rfl
  | some bridge =>
      have added := (annotationStep_adds bridge value (rules.requestFor context)).added_eq
      exact congrArg (fun report => [report]) added

theorem annotationAttempt_lawful (rules : ObjectRules) (value : Value) (context : Context) :
    ∀ attempt ∈ rules.annotationAttempt value context, attempt.Lawful := by
  unfold annotationAttempt annotationAttempts
  cases context.activeBridge with
  | none => simp
  | some bridge =>
      intro attempt member
      rw [List.mem_singleton.mp member]
      exact (annotationStep_adds bridge value _).lawful

end ObjectRules

/-! ### Attempts -/

namespace Attempt

/-- Of selected steps, those are made whose condition holds. -/
theorem reports_select {α : Type} (selected : α → Bool) (shown : α → Event) (step : α → Step)
    (items : List α) :
    reports (items.map fun item => select (selected item) (shown item) (step item)) =
      (items.filter selected).map fun item => (step item).added := by
  induction items with
  | nil => rfl
  | cons item rest ih =>
      rw [List.map_cons, List.filter_cons]
      cases selected item with
      | true => simp [ih]
      | false => simp [ih]

theorem lawful_select {selected : Bool} {shown : Event} {step : Step} (lawful : step.Lawful) :
    (select selected shown step).Lawful := by
  cases selected with
  | true => exact lawful
  | false => trivial

end Attempt

theorem Rule.attempts_eq (rules : List Rule) (value : Value) (context : Context) :
    Rule.attempts rules value context =
      rules.map fun rule => .made ((Node.rule rule).evaluate value context) := by
  induction rules with
  | nil => rfl
  | cons rule rest ih => simp [Rule.attempts, ih, Node.evaluate]

theorem RuleEntry.attempts_eq (entries : List RuleEntry) (value : Value) (context : Context) :
    RuleEntry.attempts entries value context = entries.map fun entry =>
      .select (entry.isActive context.ruleSets) (.ruleSkipped entry.tag)
        ((Node.entry entry).evaluate value context) := by
  induction entries with
  | nil => rfl
  | cons entry rest ih => simp [RuleEntry.attempts, ih, Node.evaluate]

theorem RuleEntry.attemptsOption_eq (entry : Option RuleEntry) (value : Value)
    (context : Context) :
    RuleEntry.attemptsOption entry value context =
      RuleEntry.attempts entry.toList value context := by
  cases entry <;> rfl

theorem PropertyRules.attempts_eq (properties : List PropertyRules) (value : Value)
    (context : Context) :
    PropertyRules.attempts properties value context = properties.map fun held =>
      .select (held.isActive context.ruleSets) (.propertySkipped held.member)
        ((Node.property held).evaluate value context) := by
  induction properties with
  | nil => rfl
  | cons held rest ih => simp [PropertyRules.attempts, ih, Node.evaluate]

theorem ObjectRules.attemptsOption_eq (child : Option ObjectRules) (value : Value)
    (context : Context) :
    ObjectRules.attemptsOption child value context =
      child.toList.map fun rules => .made ((Node.object rules).evaluate value context) := by
  cases child <;> rfl

end RuleTree
