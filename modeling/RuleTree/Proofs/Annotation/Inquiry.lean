import RuleTree.Proofs.Tree.Visit

/-!
Inquiries. Two kinds of visits ask a bridge for annotation failures: that of a property asks about
the value of the property, that of an object about the object. What an inquiry is answered is all
that a bridge has to do with a report.
-/

set_option autoImplicit false

namespace RuleTree

/-- A question to a bridge. -/
structure Inquiry where
  bridge : AnnotationBridge
  subject : Value
  request : AnnotationRequest

def Inquiry.answer (inquiry : Inquiry) : AnnotationAnswer :=
  (inquiry.bridge.annotate inquiry.subject inquiry.request).value

namespace PropertyRules

/-- What a property asks in the context of its value, if its annotations are wanted. -/
def inquiry? (held : PropertyRules) (value : Value) (context : Context) : Option Inquiry :=
  (if held.annotated then context.activeBridge else none).map fun bridge =>
    ⟨bridge, value, request held.member context⟩

theorem annotations_eq (held : PropertyRules) (value : Value) (context : Context) :
    held.annotations value context = (held.inquiry? value context).elim [] fun inquiry =>
      AnnotationBridge.reported (fun report => report.map (without held.member))
        inquiry.answer := by
  unfold annotations inquiry?
  cases (if held.annotated then context.activeBridge else none) <;> rfl

end PropertyRules

namespace ObjectRules

/-- What an object asks in its own context. -/
def inquiry? (rules : ObjectRules) (value : Value) (context : Context) : Option Inquiry :=
  context.activeBridge.map fun bridge => ⟨bridge, value, rules.requestFor context⟩

theorem annotations_eq (rules : ObjectRules) (value : Value) (context : Context) :
    rules.annotations value context = (rules.inquiry? value context).toList.map fun inquiry =>
      AnnotationBridge.reported (List.filter inquiry.request.wants) inquiry.answer := by
  unfold annotations inquiry?
  cases context.activeBridge <;> rfl

end ObjectRules

/-- What a visit asks. -/
def Visit.inquiry? : Visit → Option Inquiry
  | ⟨.property held, value, context⟩ => held.inquiry? (held.read value) (held.scope context)
  | ⟨.object rules, value, context⟩ =>
    if rules.accepts value then rules.inquiry? value (rules.contextFor value context) else none
  | _ => none

theorem Context.bridge_of_active {context : Context} {bridge : AnnotationBridge}
    (active : context.activeBridge = some bridge) : context.bridge = some bridge := by
  unfold activeBridge at active
  split at active
  · exact active
  · cases active

/-- A visit asks the bridge that the visits below it find. -/
theorem Visit.bridge_of_inquiry {visit : Visit} {inquiry : Inquiry}
    (asked : visit.inquiry? = some inquiry) : visit.inside.bridge = some inquiry.bridge := by
  obtain ⟨node, value, context⟩ := visit
  cases node with
  | rule | entry => cases asked
  | property held =>
      obtain ⟨bridge, active, rfl⟩ := Option.map_eq_some_iff.mp asked
      split at active
      · exact Context.bridge_of_active active
      · cases active
  | object rules =>
      simp only [inquiry?] at asked
      split at asked
      · obtain ⟨bridge, active, rfl⟩ := Option.map_eq_some_iff.mp asked
        exact Context.bridge_of_active active
      · cases asked

theorem AnnotationRequest.wants_iff (request : AnnotationRequest) (failure : Failure) :
    request.wants failure = true ↔ ∀ member ∈ request.skip, failure.member? ≠ some member := by
  unfold wants
  cases failure.member? with
  | none => simp
  | some first =>
      simp only [isSkipped, Bool.not_eq_eq_eq_not, Bool.not_true, List.contains_eq_mem,
        decide_eq_false_iff_not, ne_eq, Option.some.injEq]
      exact ⟨fun absent member present same => absent (same ▸ present), fun other present =>
        other first present rfl⟩

namespace AnnotationRegistry

/-- What the check for the type of a value returns; without one, nothing. -/
def returned (registry : AnnotationRegistry) (value : Value) (request : AnnotationRequest) :
    Report :=
  (registry.check? value.type).elim [] fun check => (check value request).value

/-- What a registry keeps of a report: what the request wants, or the first of it. -/
def kept (request : AnnotationRequest) (report : Report) : Report :=
  if request.all then report.filter request.wants else (report.filter request.wants).take 1

theorem kept_sublist (request : AnnotationRequest) (report : Report) :
    (kept request report).Sublist (report.filter request.wants) := by
  unfold kept
  split
  · exact .refl _
  · exact List.take_sublist 1 _

theorem filter_kept (request : AnnotationRequest) (report : Report) :
    (kept request report).filter request.wants = kept request report :=
  List.filter_eq_self.mpr fun _ member =>
    (List.mem_filter.mp ((kept_sublist request report).subset member)).2

theorem reported_toBridge {keep : Report → Report} (nothing : keep [] = [])
    (registry : AnnotationRegistry) (value : Value) (request : AnnotationRequest) :
    AnnotationBridge.reported keep (registry.toBridge.annotate value request).value =
      keep (kept request (registry.returned value request)) := by
  have selected (report : Report) :
      AnnotationBridge.reported keep (.ok (select request report)) = keep (kept request report) := by
    change AnnotationBridge.reported keep
      (.ok (if (kept request report).isEmpty then none else some (kept request report))) = _
    cases found : kept request report with
    | nil => exact nothing.symm
    | cons => rfl
  rw [← selected]
  change AnnotationBridge.reported keep (registry.annotate value request).value = _
  unfold annotate returned
  cases registry.check? value.type with
  | some check => rfl
  | none =>
      have none : select request [] = none := by simp [select]
      rw [Option.elim_none, none]
      rfl

end AnnotationRegistry

end RuleTree
