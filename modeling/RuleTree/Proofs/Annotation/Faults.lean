import RuleTree.Proofs.Failure.Rendering
import RuleTree.Proofs.Tree.FirstFailure
import RuleTree.Proofs.Tree.Wording

/-!
Faults of a bridge. A bridge may answer with an error. The failure that is made of it takes another
way into the report than the failure of a rule: nobody puts it into words, so its message is the
template as it stands, with its placeholders in it. Its code and its parameters are those that the
failure of a rule has.
-/

set_option autoImplicit false

namespace RuleTree

theorem Template.render_of_bare {template : String} (bare : '{' ∉ template.toList)
    (name : String) (params : List (String × String)) : render template name params = template := by
  rw [render, renderRest_of_bare bare, String.ofList_toList]

theorem Failure.render_typeMismatch (name expected : String) :
    Template.render (typeMismatch expected).message name (typeMismatch expected).params =
      "The " ++ name ++ " field must be a " ++ expected ++ "." := by
  apply String.toList_injective
  simp [Template.render, Template.renderRest, Template.substitute, typeMismatch, withParam, new]

namespace Visit

def place : Visit → String
  | ⟨.property held, _, _⟩ => held.member
  | _ => ""

theorem own_of_fault {pass : Visit} {inquiry : Inquiry} (asked : pass.inquiry? = some inquiry)
    {error : Error} (fault : inquiry.answer = .error error) :
    pass.own.flatten = [error.toFailure.below pass.place] := by
  have silent : pass.complaint? = none := by
    cases complains : pass.complaint? with
    | none => rfl
    | some complaint =>
        rw [inquiry_of_complaint complains] at asked
        cases asked
  have told : pass.told inquiry = [error.toFailure.below pass.place] := by
    obtain ⟨node, value, context⟩ := pass
    cases node with
    | property held => simp only [Visit.told, fault]; rfl
    | rule | entry | object =>
        simp only [Visit.told, fault, place, Failure.below_empty]
        rfl
  rw [own_flatten, silent, asked]
  simpa using told

/-- The rule sees the name and the messages that are seen right below the visit. -/
def Beside (pass rule : Visit) : Prop :=
  rule.context.messageName = pass.inside.messageName ∧ rule.context.messages = pass.inside.messages

theorem beside_of_rules (held : PropertyRules) (object : Value) (context : Context) (node : Node)
    (value : Value) :
    Beside ⟨.property held, object, context⟩
      ⟨node, value, held.rules.scope (held.scope context)⟩ := by
  have around := held.rules.surroundings_scope (held.scope context)
  constructor
  · exact congrArg (fun around : Surroundings =>
      (around.display.or around.member).getD Context.defaultName) around
  · exact congrArg Surroundings.messages around

/-- A fault of a bridge is recorded with the code and the parameters that the same failure of a rule
has beside it. If no message around them resolves, the rule shows its own template, or the one that
the source has for the code, with the name and the parameters put in. The fault shows the bare
template. Only a template without placeholders that the source does not replace looks the same. What
is recorded is what an evaluation adds to a sink. -/
theorem fault_shown_bare {root pass : Visit} {trail : List Nat}
    (leads : root.follow? trail = some pass) {inquiry : Inquiry}
    (asked : pass.inquiry? = some inquiry) {error : Error}
    (fault : inquiry.answer = .error error) :
    let failure := error.toFailure
    let name := pass.inside.messageName
    let template? := pass.inside.messages.bind fun source => source.lookup failure.code
    (∀ (tree : Visit) (sink : Sink),
        (tree.node.evaluate tree.value tree.context sink).sink.failures =
          sink.failures ++ sink.wanted (tree.records.map Recorded.shown)) ∧
      (∀ record ∈ root.records, record.trail = trail →
        record.shown.code = failure.code ∧ record.shown.params = failure.params ∧
          record.shown.message = ((root.passed trail).findSome? wording?).elim failure.message
            (·.render failure.params)) ∧
      ((∀ visit ∈ root.passed trail ++ [pass], visit.node.mode = .all) →
        ∃ record ∈ root.records, record.trail = trail) ∧
      (∀ (tree rule : Visit) (complaint : Failure), pass.Beside rule →
        rule.complaint? = some complaint → complaint.code = failure.code →
        complaint.params = failure.params → complaint.message = failure.message →
        ∀ record ∈ tree.records, tree.follow? record.trail = some rule →
          record.shown.code = failure.code ∧ record.shown.params = failure.params ∧
            record.shown.message = ((tree.passed record.trail).findSome? wording?).elim
              (Template.render (template?.getD failure.message) name failure.params)
              (·.render failure.params)) ∧
      (∀ expected, error = .typeMismatch expected →
        failure.message = "The {name} field must be a {expected}." ∧
          Template.render failure.message name failure.params =
            "The " ++ name ++ " field must be a " ++ expected ++ ".") ∧
      ('{' ∉ failure.message.toList →
        Template.render failure.message name failure.params = failure.message) := by
  intro failure name template?
  have own := own_of_fault asked fault
  refine ⟨evaluate_records, fun record member ends => ?_, fun all => ?_, ?_, ?_, fun bare =>
    Template.render_of_bare bare name failure.params⟩
  · obtain ⟨reached, path, leadsTo, made, shown⟩ := shown_worded member
    rw [ends] at leadsTo shown
    cases leads.symm.trans leadsTo
    rw [own] at made
    rw [List.mem_singleton.mp made] at shown
    rw [shown, Failure.code_below, Failure.params_below, Failure.message_below,
      Failure.code_worded, Failure.params_worded, Failure.message_worded, Failure.code_below,
      Failure.params_below, Failure.message_below]
    exact ⟨rfl, rfl, rfl⟩
  · have made : failure.below pass.place ∈ pass.own.flatten := by
      rw [own]
      exact List.mem_singleton_self _
    obtain ⟨record, member, ends, _⟩ := record_of_follow leads all made
    exact ⟨record, member, ends⟩
  · intro tree rule complaint beside complains code params message record member leadsTo
    obtain ⟨shownCode, shownParams, shownMessage⟩ := shown_of_complaint member leadsTo complains
    refine ⟨shownCode.trans code, shownParams.trans params, shownMessage.trans ?_⟩
    have plain : rule.plain complaint = ⟨template?.getD failure.message, name⟩ := by
      rw [Visit.plain, Failure.plain, beside.1, beside.2, code, message]
    rw [plain, params]
    cases (tree.passed record.trail).findSome? wording? <;> rfl
  · intro expected mismatch
    have same : failure = .typeMismatch expected := by rw [← Error.toFailure, ← mismatch]
    rw [same]
    exact ⟨rfl, Failure.render_typeMismatch name expected⟩

/-! ### A fault and a rule on one member -/

/-- A bridge that takes any value for one that should be a text. -/
def mistakenBridge : AnnotationBridge := ⟨fun _ _ => pure (.error (.typeMismatch "string"))⟩

def ownerProperty : PropertyRules :=
  ⟨"Owner", none, none, pure,
    { ValueRules.empty with
      general := [⟨.leaf (.of .text fun _ => none), none, none, false⟩] }, none, true⟩

def ownerVisit : Visit :=
  ⟨.property ownerProperty, .bool true, Context.empty.withBridge (some mistakenBridge)⟩

theorem ownerVisit_shown :
    (∃ record ∈ ownerVisit.records, record.trail = [] ∧ record.shown.code = "type_mismatch" ∧
        record.shown.params = [("expected", "string")] ∧
          record.shown.message = "The {name} field must be a {expected}.") ∧
      ∃ record ∈ ownerVisit.records, record.trail = [0, 0, 0] ∧
        record.shown.code = "type_mismatch" ∧ record.shown.params = [("expected", "string")] ∧
          record.shown.message = "The Owner field must be a string." := by
  let rule : Visit := ⟨.rule (.leaf (.of .text fun _ => none)), .bool true, ownerVisit.inside⟩
  have asked : ownerVisit.inquiry? = some ⟨mistakenBridge, .bool true,
      PropertyRules.request "Owner" ownerVisit.inside⟩ := rfl
  have leads : ownerVisit.follow? [] = some ownerVisit := rfl
  have ⟨_, faults, entered, rules, worded, _⟩ := fault_shown_bare leads asked rfl
  have beside : ownerVisit.Beside rule := beside_of_rules ownerProperty (.bool true) _ _ _
  constructor
  · obtain ⟨record, member, ends⟩ := entered (by decide)
    obtain ⟨code, params, message⟩ := faults record member ends
    exact ⟨record, member, ends, code, params, message⟩
  · have reached : ownerVisit.follow? [0, 0, 0] = some rule := rfl
    obtain ⟨record, member, trail, -⟩ :=
      record_of_follow reached (by decide) List.mem_cons_self
    have ⟨code, params, message⟩ := rules ownerVisit rule (.typeMismatch "string") beside rfl rfl
      rfl rfl record member (trail ▸ reached)
    refine ⟨record, member, trail, code, params, message.trans ?_⟩
    rw [trail]
    exact (worded "string" rfl).2

/-- Of an object that the bridge mistakes, of its member, and of the rule on this member. -/
theorem ownerRules_faults_bare :
    ((Node.object { ObjectRules.empty (.record "Account") with
        properties := [ownerProperty], bridge := some mistakenBridge }).failures? (.bool true)
          .empty).value.map (List.map fun failure => (failure.members, failure.message)) =
      some [([], "The {name} field must be a {expected}."),
        (["Owner"], "The {name} field must be a {expected}."),
        (["Owner"], "The Owner field must be a string.")] := by
  decide

end Visit

end RuleTree
