import RuleTree.Proofs.Annotation.Inquiry
import RuleTree.Proofs.Tree.FirstFailure

/-!
Annotation failures that the rules of an object supersede. An object leaves out the annotation
failures that are first of all about a member of an active property, since it checks that member
itself. All other annotation failures head its report.

A property is active by its rule sets alone. If its guards do not accept the value, or if the value is
an empty text that it allows, it is active but checks nothing, and the annotation failures about its
member are left out all the same.
-/

set_option autoImplicit false

namespace RuleTree

namespace PropertyRules

/-- The rules of the property are evaluated on the object. -/
def examines (held : PropertyRules) (object : Value) : Bool := held.rules.examines (held.read object)

end PropertyRules

namespace ObjectRules

/-- An active property of the object has the first member of the failure. -/
def Supersedes (rules : ObjectRules) (selector : Option RuleSets) (failure : Failure)
    (held : PropertyRules) : Prop :=
  held ∈ rules.properties ∧ held.isActive selector ∧ failure.member? = some held.member

theorem wants_iff_not_supersedes (rules : ObjectRules) (context : Context) (failure : Failure) :
    (rules.requestFor context).wants failure = true ↔
      ∀ held, ¬ rules.Supersedes context.ruleSets failure held := by
  rw [AnnotationRequest.wants_iff]
  change (∀ member ∈ rules.activeMembers context.ruleSets, failure.member? ≠ some member) ↔ _
  simp only [activeMembers, List.mem_map, List.mem_filter, Supersedes]
  constructor
  · rintro unclaimed held ⟨declared, active, first⟩
    exact unclaimed held.member ⟨held, ⟨declared, active⟩, rfl⟩ first
  · rintro free _ ⟨held, ⟨declared, active⟩, rfl⟩ first
    exact free held ⟨declared, active, first⟩

/-- The report of an object without a child that collects all failures: what it keeps of the answer
of the bridge, and the reports of its active properties. -/
theorem report_of_answer {rules : ObjectRules} (childless : rules.child = none)
    (all : rules.mode = .all) {value : Value} {context : Context}
    (accepted : rules.accepts value = true) {bridge : AnnotationBridge}
    (active : (rules.contextFor value context).activeBridge = some bridge) :
    let scope := rules.contextFor value context
    (Node.object rules).report value context =
      AnnotationBridge.reported (List.filter (rules.requestFor scope).wants)
          (bridge.annotate value (rules.requestFor scope)).value ++
        (rules.properties.filter (·.isActive scope.ruleSets)).flatMap fun held =>
          (Node.property held).report value scope := by
  dsimp only
  rw [Node.report_object, if_pos accepted, all, childless, annotations, active]
  simp [Mode.merge, List.flatMap_def]

end ObjectRules

/-- The rules of a property that is not examined report nothing. -/
theorem PropertyRules.report_of_unexamined {held : PropertyRules} {object : Value}
    (unexamined : held.examines object = false) (context : Context) :
    (Node.rule (.value held.rules)).report (held.read object) context = [] := by
  rw [Node.report_value]
  unfold examines at unexamined
  simp [unexamined]

/-- In a report of all failures of an object without a child, what the bridge reports comes first, in
its order and without the failures that an active property supersedes. If all active properties
examine the object, nothing is left out that they do not examine. A property that does not examine it
supersedes failures too, and reports nothing in their place. -/
theorem annotations_superseded_by_active {rules : ObjectRules} (childless : rules.child = none)
    (all : rules.mode = .all) {value : Value} {context : Context}
    (accepted : rules.accepts value = true) {bridge : AnnotationBridge}
    (active : (rules.contextFor value context).activeBridge = some bridge) :
    let scope := rules.contextFor value context
    let request := rules.requestFor scope
    ((Node.object rules).failures? value context).value.getD [] =
        AnnotationBridge.reported (List.filter request.wants)
            (bridge.annotate value request).value ++
          (rules.properties.filter (·.isActive scope.ruleSets)).flatMap
            (fun held => (Node.property held).report value scope) ∧
      (∀ failure, request.wants failure = false ↔
        ∃ held, rules.Supersedes scope.ruleSets failure held) ∧
      ((∀ held ∈ rules.properties, held.isActive scope.ruleSets → held.examines value) →
        ∀ failure, request.wants failure = false →
          ∃ held, rules.Supersedes scope.ruleSets failure held ∧ held.examines value) ∧
      ∀ held : PropertyRules, held.examines value = false →
        (Node.rule (.value held.rules)).report (held.read value) (held.scope scope) = [] := by
  intro scope request
  have superseded (failure : Failure) : request.wants failure = false ↔
      ∃ held, rules.Supersedes scope.ruleSets failure held := by
    have wanted := rules.wants_iff_not_supersedes scope failure
    rw [← Bool.not_eq_true, wanted, Classical.not_forall_not]
  refine ⟨?_, superseded, fun examined failure dropped => ?_, fun held unexamined =>
    PropertyRules.report_of_unexamined unexamined (held.scope scope)⟩
  · rw [Node.failures?_getD]
    exact ObjectRules.report_of_answer childless all accepted active
  · obtain ⟨held, supersedes⟩ := (superseded failure).mp dropped
    exact ⟨held, supersedes, examined held supersedes.1 supersedes.2.1⟩

/-- The failure of a missing member. -/
def Failure.missing (member : String) : Failure := required.withMember member

/-- A bridge that finds two members missing, whatever it is asked. -/
def missingBridge : AnnotationBridge where
  annotate _ _ := pure (.ok (some [.missing "Email", .missing "Name"]))

/-- A property whose value is required where the guard accepts it. -/
def emailProperty (guard : Test) : PropertyRules :=
  let required : ValueRules :=
    { ValueRules.empty with presence := [⟨.presence, none, none, false⟩], guards := [guard] }
  ⟨"Email", none, none, pure, required, none, false⟩

/-- Rules of an object with the bridge and the property. -/
def emailRules (guard : Test) : ObjectRules :=
  { ObjectRules.empty .string with
    properties := [emailProperty guard]
    bridge := some missingBridge }

/-- Of the failures about two members the one about the property is left out, which is examined. -/
theorem emailRules_superseded :
    ((Node.object (emailRules fun _ => pure true)).failures? (.string "ada") .empty).value.getD [] =
        [.missing "Name"] ∧
      ∃ held, (emailRules fun _ => pure true).Supersedes none (.missing "Email") held ∧
        held.examines (.string "ada") := by
  have accepted : (emailRules fun _ => pure true).accepts (.string "ada") = true := rfl
  have active : ((emailRules fun _ => pure true).contextFor (.string "ada") .empty).activeBridge =
      some missingBridge := rfl
  have ⟨report, _, examined, _⟩ := annotations_superseded_by_active rfl rfl accepted active
  have all : ∀ held ∈ (emailRules fun _ => pure true).properties,
      held.isActive none → held.examines (.string "ada") := by
    intro held member _
    rw [List.mem_singleton.mp member]
    rfl
  exact ⟨report.trans (by decide), examined all (.missing "Email") (by decide)⟩

/-- With a guard that does not accept the value it is left out all the same, though the property is
not examined. -/
theorem emailRules_lost :
    (∀ value request, (missingBridge.annotate value request).value =
        .ok (some [.missing "Email", .missing "Name"])) ∧
      (∀ held ∈ (emailRules fun _ => pure false).properties,
        held.examines (.string "") = false) ∧
      ((Node.object (emailRules fun _ => pure false)).failures? (.string "") .empty).value =
        some [.missing "Name"] := by
  refine ⟨fun _ _ => rfl, fun held member => ?_, by decide⟩
  rw [List.mem_singleton.mp member]
  rfl

end RuleTree
