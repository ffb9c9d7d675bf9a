import RuleTree.Proofs.Annotation.Supersession

/-!
What the settings of a property cover. Guards, the mode and the allowance of empty texts are
settings of the rules of a property, and the annotations of the property stand before its rules. So
where the rules are not examined, or stop at their first failure, the annotations are still asked
for and still reported in full. This is so for collection properties too, as their elements are
rules as well.
-/

set_option autoImplicit false

namespace RuleTree

/-- How many failures the answer to an inquiry tells of. -/
def Inquiry.count (inquiry : Inquiry) : Nat :=
  match inquiry.answer with
  | .error _ => 1
  | .ok none => 0
  | .ok (some report) => report.length

theorem Mode.length_merge_failFast {α : Type} (reports : List (List α)) :
    (Mode.failFast.merge reports).length ≤ 1 := by
  rw [merge, List.length_take]
  omega

namespace PropertyRules

variable (held : PropertyRules)

theorem length_annotations (value : Value) (context : Context) :
    (held.annotations value context).length =
      (held.inquiry? value context).elim 0 Inquiry.count := by
  rw [annotations_eq]
  cases held.inquiry? value context with
  | none => rfl
  | some inquiry =>
      simp only [Option.elim_some, Inquiry.count]
      cases inquiry.answer with
      | error error => rfl
      | ok answer =>
          cases answer with
          | none => rfl
          | some report => exact List.length_map _

theorem length_report (object : Value) (context : Context) :
    ((Node.property held).report object context).length =
      (held.inquiry? (held.read object) (held.scope context)).elim 0 Inquiry.count +
        ((Node.rule (.value held.rules)).report
          (held.read object) (held.scope context)).length := by
  rw [Node.report_property, List.length_map, List.length_append, length_annotations]

end PropertyRules

/-- A property reports what it is told by the bridge, and then what its rules report. The settings
govern the rules alone: those that are not examined report nothing, and those that stop at the first
failure report no more than one. What the bridge tells comes in addition, whatever the settings are,
so that a property which is not examined reports nothing only if the bridge tells nothing, and one
that stops at the first failure reports at most one only if both together are no more. -/
theorem settings_govern_rules_only (held : PropertyRules) (object : Value) (context : Context) :
    let value := held.read object
    let scope := held.scope context
    let report := (Node.property held).report object context
    let ruled := (Node.rule (.value held.rules)).report value scope
    let told := (held.inquiry? value scope).elim 0 Inquiry.count
    (∀ sink : Sink, ((Node.property held).evaluate object context sink).sink.failures =
        sink.failures ++ sink.wanted report) ∧
      report = (held.annotations value scope ++ ruled).map (Failure.below held.member) ∧
      (∀ rules, ({ held with rules } : PropertyRules).annotations value scope =
        held.annotations value scope) ∧
      (held.annotations value scope).length = told ∧
      (held.examines object = false → ruled = [] ∧ (report = [] ↔ told = 0)) ∧
      (held.rules.mode = .failFast →
        ruled.length ≤ 1 ∧ (report.length ≤ 1 ↔ told + ruled.length ≤ 1)) := by
  intro value scope report ruled told
  have lengths : report.length = told + ruled.length := held.length_report object context
  refine ⟨fun sink => ?_, Node.report_property held object context, fun rules => rfl,
    held.length_annotations value scope, fun unexamined => ?_, fun failFast => ?_⟩
  · exact Node.evaluate_failures (.property held) object context sink
  · have silent : ruled = [] := held.report_of_unexamined unexamined scope
    rw [silent] at lengths
    refine ⟨silent, ?_⟩
    rw [← List.length_eq_zero_iff, lengths, List.length_nil, Nat.add_zero]
  · have single : ruled.length ≤ 1 := by
      change ((Node.rule (.value held.rules)).report value scope).length ≤ 1
      rw [Node.report_value, failFast]
      split
      · exact Mode.length_merge_failFast _
      · exact Nat.zero_le 1
    exact ⟨single, by rw [lengths]⟩

/-- A property whose value must be present, with a guard and a mode. -/
def guardedProperty (guard : Test) (mode : Mode) : PropertyRules :=
  ⟨"Contact", none, none, pure,
    { ValueRules.empty with
      presence := [⟨.presence, none, none, false⟩], guards := [guard], mode }, none, true⟩

def missingContext : Context := Context.empty.withBridge (some missingBridge)

theorem guardedProperty_told :
    let refusing := guardedProperty (fun _ => pure false) .all
    let failingFast := guardedProperty (fun _ => pure true) .failFast
    (refusing.examines (.absent .string) = false ∧
        (Node.property refusing).report (.absent .string) missingContext ≠ []) ∧
      failingFast.rules.mode = .failFast ∧
        ¬ ((Node.property failingFast).report (.absent .string) missingContext).length ≤ 1 := by
  intro refusing failingFast
  have ⟨_, _, _, _, refused, _⟩ :=
    settings_govern_rules_only refusing (.absent .string) missingContext
  have ⟨_, _, _, _, _, failed⟩ :=
    settings_govern_rules_only failingFast (.absent .string) missingContext
  refine ⟨⟨rfl, fun silent => ?_⟩, rfl, fun single => ?_⟩
  · have none : 2 = 0 := (refused rfl).2.mp silent
    cases none
  · have atMost := (failed rfl).2.mp single
    change 2 + _ ≤ 1 at atMost
    omega

/-- A guard that does not accept the value holds back none of the two failures, and where the first
failure is enough there are three. -/
theorem guardedProperty_reports :
    ((Node.property (guardedProperty (fun _ => pure false) .all)).failures? (.absent .string)
        missingContext).value.map List.length = some 2 ∧
      ((Node.property (guardedProperty (fun _ => pure true) .failFast)).failures? (.absent .string)
        missingContext).value.map List.length = some 3 := by
  decide

end RuleTree
