import RuleTree.Proofs.Annotation.Inquiry
import RuleTree.Proofs.Failure.Path
import RuleTree.Proofs.Tree.Passage
import RuleTree.Proofs.Tree.Records

/-!
The words of failures. A rule puts its failure into words where it stands, and on the way to the
root each entry with a message of its own may put it into other words. What is put in last is read,
so the entry farthest out decides, among those whose message resolves where they stand; and it names
the value as the nearest property around it is called.
-/

set_option autoImplicit false

namespace RuleTree

/-- A template and the name that is put into it. -/
structure Wording where
  template : String
  name : String

def Wording.render (wording : Wording) (params : List (String × String)) : String :=
  Template.render wording.template wording.name params

namespace Failure

def worded (failure : Failure) (wording : Option Wording) : Failure :=
  wording.elim failure fun wording => failure.withMessage (wording.render failure.params)

variable (failure : Failure)

theorem code_worded (wording : Option Wording) : (failure.worded wording).code = failure.code := by
  cases wording <;> rfl

theorem params_worded (wording : Option Wording) :
    (failure.worded wording).params = failure.params := by
  cases wording <;> rfl

theorem message_worded (wording : Option Wording) :
    (failure.worded wording).message =
      wording.elim failure.message (·.render failure.params) := by
  cases wording <;> rfl

/-- Of two wordings the later one is read. -/
theorem worded_worded (first later : Option Wording) :
    (failure.worded first).worded later = failure.worded (later.or first) := by
  cases later with
  | none => rfl
  | some later => cases first <;> rfl

theorem below_worded (wording : Option Wording) (path : String) :
    (failure.worded wording).below path = (failure.below path).worded wording := by
  rw [below_eq, below_eq]
  cases wording <;> rfl

theorem code_below (path : String) : (failure.below path).code = failure.code := by
  rw [below_eq]

theorem params_below (path : String) : (failure.below path).params = failure.params := by
  rw [below_eq]

theorem message_below (path : String) : (failure.below path).message = failure.message := by
  rw [below_eq]

/-- The words of a rule: the template that the source has for the code, or the rule's own. -/
def plain (name : String) (source : Option MessageSource) : Wording :=
  ⟨(source.bind fun source => source.lookup failure.code).getD failure.message, name⟩

theorem localize_eq (name : String) (source : Option MessageSource) :
    failure.localize name source = failure.worded (some (failure.plain name source)) := by
  unfold localize plain
  cases source.bind fun source => source.lookup failure.code <;> rfl

end Failure

namespace MessageOverride

def template? (context : Context) : MessageOverride → Option String
  | .literal template => some template
  | .resource key => context.messages.bind fun source => source.lookup key

def wording? (override : Option MessageOverride) (context : Context) : Option Wording :=
  (override.bind (template? context)).map fun template => ⟨template, context.messageName⟩

theorem retitle_eq (override : Option MessageOverride) (context : Context) (failure : Failure) :
    retitle override context failure = failure.worded (wording? override context) := by
  rcases override with _ | (template | key)
  · rfl
  · rfl
  · simp only [retitle, apply, wording?, template?, Option.bind_some]
    cases context.messages.bind fun source => source.lookup key <;> rfl

end MessageOverride

namespace Visit

/-- The words that a visit puts in place of others. Only entries do so. -/
def wording? : Visit → Option Wording
  | ⟨.entry held, _, context⟩ => MessageOverride.wording? held.message context
  | _ => none

/-- What becomes of failures at a node on their way up: they may be put into words there, and they
may be put below a path. -/
theorem edit_of_candidate {node : Node} {value : Value} {context : Context} {candidate : Candidate}
    (member : candidate ∈ node.candidates value context) :
    ∃ path, ∀ failure,
      candidate.edit failure = (failure.worded (wording? ⟨node, value, context⟩)).below path := by
  have unedited (failure : Failure) : id failure = (failure.worded none).below "" := by
    rw [Failure.below_empty]
    rfl
  cases node with
  | entry held =>
      rw [List.mem_singleton.mp member]
      refine ⟨"", fun failure => ?_⟩
      rw [Failure.below_empty]
      exact MessageOverride.retitle_eq held.message context failure
  | property held =>
      rw [List.mem_singleton.mp member]
      exact ⟨held.member, fun _ => rfl⟩
  | object rules =>
      simp only [Node.candidates] at member
      split at member
      · rcases List.mem_append.mp member with declared | attached
        · obtain ⟨_, _, rfl⟩ := List.mem_map.mp declared
          exact ⟨"", unedited⟩
        · obtain ⟨_, _, rfl⟩ := List.mem_map.mp attached
          exact ⟨"", unedited⟩
      · exact absurd member List.not_mem_nil
  | rule held =>
      cases held with
      | leaf | contextual | presence | predicate => exact absurd member List.not_mem_nil
      | composite rules =>
          obtain ⟨_, _, rfl⟩ := List.mem_map.mp member
          exact ⟨"", unedited⟩
      | conditional rules =>
          simp only [Node.candidates] at member
          split at member
          · rw [List.mem_singleton.mp member]
            exact ⟨"", unedited⟩
          · obtain ⟨_, _, rfl⟩ := List.mem_map.mp member
            exact ⟨"", unedited⟩
      | value rules =>
          simp only [Node.candidates] at member
          split at member
          · obtain ⟨_, _, rfl⟩ := List.mem_map.mp member
            exact ⟨"", unedited⟩
          · exact absurd member List.not_mem_nil
      | elements rules =>
          obtain ⟨_, _, placed⟩ := List.mem_flatMap.mp member
          obtain ⟨numbered, _, rfl⟩ := List.mem_map.mp placed
          exact ⟨Path.index "" numbered.2, fun _ => rfl⟩
      | object reach rules =>
          obtain ⟨_, _, rfl⟩ := List.mem_map.mp member
          exact ⟨"", unedited⟩

theorem edit_of_mem_branches {visit : Visit} {branch : Branch} (member : branch ∈ visit.branches) :
    ∃ path, ∀ failure, branch.edit failure = (failure.worded visit.wording?).below path := by
  obtain ⟨candidate, taken, rfl⟩ := List.mem_map.mp member
  exact edit_of_candidate (List.mem_filter.mp taken).1

/-! ### The visits on a trail -/

/-- The visits that a trail leads through before its end, from the outermost on. -/
def passed : Visit → List Nat → List Visit
  | _, [] => []
  | visit, position :: rest =>
    visit :: visit.branches[position]?.elim [] fun branch => branch.visit.passed rest

theorem passage_of_follow {root reached : Visit} {trail : List Nat}
    (leads : root.follow? trail = some reached) :
    Passage root (root.passed trail).reverse reached := by
  induction trail generalizing root with
  | nil =>
      cases leads
      exact .root
  | cons position rest ih =>
      obtain ⟨branch, found, further⟩ := Option.bind_eq_some_iff.mp leads
      rw [passed, found, Option.elim_some, List.reverse_cons]
      exact (ih further).before (List.mem_of_getElem? found)

/-- Where all failures are collected on the way, what the visit at the end of a trail finds is
recorded. -/
theorem record_of_follow {root reached : Visit} {trail : List Nat}
    (leads : root.follow? trail = some reached)
    (all : ∀ visit ∈ root.passed trail ++ [reached], visit.node.mode = .all) {failure : Failure}
    (made : failure ∈ reached.own.flatten) :
    ∃ record ∈ root.records, record.trail = trail ∧ record.found = failure := by
  induction trail generalizing root with
  | nil =>
      cases leads
      exact ⟨.own failure, own_mem_records (all _ List.mem_cons_self) made, rfl, rfl⟩
  | cons position rest ih =>
      obtain ⟨branch, found, further⟩ := Option.bind_eq_some_iff.mp leads
      rw [passed, found, Option.elim_some, List.cons_append] at all
      have ⟨here, later⟩ := List.forall_mem_cons.mp all
      obtain ⟨record, member, trail, same⟩ := ih further later
      refine ⟨_, arrive_mem_records here found member, ?_, same⟩
      exact congrArg (position :: ·) trail

/-- A failure is found by the visit at the end of its trail. In the report it has the words of the
first visit on the trail that puts it into words. -/
theorem shown_worded {root : Visit} {record : Recorded} (member : record ∈ root.records) :
    ∃ reached path, root.follow? record.trail = some reached ∧
      record.found ∈ reached.own.flatten ∧
      record.shown =
        (record.found.worded ((root.passed record.trail).findSome? wording?)).below path := by
  induction root using Visit.induction generalizing record with
  | step root ih =>
      rw [records_eq] at member
      obtain ⟨report, entered, member⟩ :=
        List.mem_flatten.mp ((Mode.merge_sublist _ _).subset member)
      rcases List.mem_append.mp entered with own | arriving
      · obtain ⟨made, madeMember, rfl⟩ := List.mem_map.mp own
        obtain ⟨failure, failureMember, rfl⟩ := List.mem_map.mp member
        refine ⟨root, "", rfl, List.mem_flatten.mpr ⟨made, madeMember, failureMember⟩, ?_⟩
        rw [Failure.below_empty]
        rfl
      · obtain ⟨⟨branch, position⟩, placed, rfl⟩ := List.mem_map.mp arriving
        obtain ⟨inner, innerMember, rfl⟩ := List.mem_map.mp member
        have found := List.mk_mem_zipIdx_iff_getElem?.mp placed
        have branchMember := List.mem_of_getElem? found
        obtain ⟨reached, path, leads, made, shown⟩ := ih branch branchMember innerMember
        obtain ⟨segment, edits⟩ := edit_of_mem_branches branchMember
        refine ⟨reached, Path.compose segment path, ?_, made, ?_⟩
        · change (root.branches[position]?.bind fun branch =>
            branch.visit.follow? inner.trail) = some reached
          rw [found]
          exact leads
        · have words : (root.passed (position :: inner.trail)).findSome? wording? =
              root.wording?.or ((branch.visit.passed inner.trail).findSome? wording?) := by
            rw [passed, found, Option.elim_some, List.findSome?_cons]
            cases root.wording? <;> rfl
          change branch.edit inner.shown = (inner.found.worded
            ((root.passed (position :: inner.trail)).findSome? wording?)).below _
          rw [edits, shown, words, ← Failure.worded_worded, ← Failure.below_below,
            Failure.below_worded (inner.found.worded _)]

end Visit

/-! ### Complaints -/

/-- What is found in a view of a value, before it is put into words. -/
def Step.objection? (type : LeafType) (check : type.Carrier → Option Failure) (value : Value) :
    Option Failure :=
  match value.view type with
  | .error failure => some failure
  | .ok view => view.bind fun input => (check input).map fun failure =>
    { failure with attempted := failure.attempted.or (some (type.describe input)) }

theorem Step.examined_eq (type : LeafType) (check : type.Carrier → Option Failure) (value : Value)
    (context : Context) :
    examined type check value context = (objection? type check value).toList.map
      (·.localize context.messageName context.messages) := by
  unfold examined objection?
  cases value.view type with
  | error failure => simp [rejected]
  | ok view =>
      cases view with
      | none => rfl
      | some input => cases found : check input <;> simp [found, rejected]

namespace Visit

/-- The failure of a rule that does not accept its value, before it is put into words. -/
def complaint? : Visit → Option Failure
  | ⟨.rule (.leaf held), value, _⟩ =>
    Step.objection? held.type (fun input => (held.check input).value) value
  | ⟨.rule (.contextual held), value, context⟩ =>
    Step.objection? held.type (fun input => (held.check input context).value) value
  | ⟨.rule .presence, value, _⟩ => if value.isPresent then none else some .required
  | ⟨.rule (.predicate test), value, context⟩ =>
    if (test value context).value then none else some Step.predicateFailure
  | _ => none

def plain (visit : Visit) (complaint : Failure) : Wording :=
  complaint.plain visit.context.messageName visit.context.messages

/-- What a visit that asks a bridge reports of the answer. -/
def told : Visit → Inquiry → Report
  | ⟨.property held, _, _⟩, inquiry =>
    (AnnotationBridge.reported (fun report => report.map (PropertyRules.without held.member))
      inquiry.answer).map (Failure.below held.member)
  | _, inquiry => AnnotationBridge.reported (List.filter inquiry.request.wants) inquiry.answer

/-- A visit makes the failure that it complains of, or those that it is told. -/
theorem own_flatten (visit : Visit) :
    visit.own.flatten =
      visit.complaint?.toList.map (fun failure => failure.worded (some (visit.plain failure))) ++
        visit.inquiry?.toList.flatMap visit.told := by
  have words (failure : Failure) : failure.worded (some (visit.plain failure)) =
      failure.localize visit.context.messageName visit.context.messages :=
    (failure.localize_eq _ _).symm
  simp only [words]
  obtain ⟨node, value, context⟩ := visit
  cases node with
  | entry held => rfl
  | property held =>
      simp only [own, PropertyRules.annotations_eq, complaint?, inquiry?]
      cases held.inquiry? (held.read value) (held.scope context) with
      | none => rfl
      | some inquiry => simp [told]
  | object rules =>
      simp only [own, ObjectRules.annotations_eq, complaint?, inquiry?]
      split
      · cases rules.inquiry? value (rules.contextFor value context) with
        | none => rfl
        | some inquiry => simp [told]
      · rfl
  | rule held =>
      cases held with
      | leaf | contextual =>
          simp only [own, Step.examined_eq, complaint?, inquiry?]
          simp
      | presence =>
          simp only [own, complaint?, inquiry?]
          cases value.isPresent <;> rfl
      | predicate test =>
          simp only [own, complaint?, inquiry?]
          cases (test value context).value <;> rfl
      | composite | conditional | value | elements | object => rfl

theorem inquiry_of_complaint {visit : Visit} {complaint : Failure}
    (complains : visit.complaint? = some complaint) : visit.inquiry? = none := by
  obtain ⟨node, value, context⟩ := visit
  cases node with
  | rule | entry => rfl
  | property | object => cases complains

theorem own_of_complaint {visit : Visit} {complaint : Failure}
    (complains : visit.complaint? = some complaint) :
    visit.own.flatten = [complaint.worded (some (visit.plain complaint))] := by
  rw [own_flatten, complains, inquiry_of_complaint complains]
  rfl

/-- The failure that a rule complains of keeps its code and its parameters, and is shown in the
words of the outermost message around the rule that resolves, or in those of the rule. -/
theorem shown_of_complaint {root visit : Visit} {record : Recorded} (member : record ∈ root.records)
    (leads : root.follow? record.trail = some visit) {complaint : Failure}
    (complains : visit.complaint? = some complaint) :
    record.shown.code = complaint.code ∧ record.shown.params = complaint.params ∧
      record.shown.message =
        (((root.passed record.trail).findSome? wording?).getD
          (visit.plain complaint)).render complaint.params := by
  obtain ⟨reached, path, leadsTo, made, shown⟩ := shown_worded member
  cases leads.symm.trans leadsTo
  rw [own_of_complaint complains] at made
  rw [List.mem_singleton.mp made, Failure.worded_worded] at shown
  rw [shown, Failure.code_below, Failure.params_below, Failure.message_below,
    Failure.code_worded, Failure.params_worded, Failure.message_worded]
  refine ⟨rfl, rfl, ?_⟩
  cases (root.passed record.trail).findSome? wording? <;> rfl

/-- A failure of a rule is reported with the code and the parameters that the rule gave it, in the
words of the outermost entry around the rule whose message resolves where it stands, or else in the
words of the rule. An entry, like a rule, names the value after the nearest property around it. -/
theorem outermost_message_wins (root : Visit) :
    (∀ sink : Sink, (root.node.evaluate root.value root.context sink).sink.failures =
        sink.failures ++ sink.wanted (root.records.map Recorded.shown)) ∧
      (∀ record ∈ root.records, ∃ visit, root.follow? record.trail = some visit ∧
        (visit.complaint? = none → visit.inquiry?.isSome = true) ∧
        ∀ complaint, visit.complaint? = some complaint →
          record.shown.code = complaint.code ∧ record.shown.params = complaint.params ∧
            record.shown.message =
              (((root.passed record.trail).findSome? wording?).getD
                (visit.plain complaint)).render complaint.params) ∧
      ∀ trail visit, root.follow? trail = some visit →
        visit.context.messageName =
          ((root.passed trail).reverse.findSome? name?).getD root.context.messageName := by
  refine ⟨root.evaluate_records, fun record member => ?_, fun trail visit leads => ?_⟩
  · obtain ⟨visit, _, leads, made, _⟩ := shown_worded member
    refine ⟨visit, leads, fun silent => ?_, fun complaint complains =>
      shown_of_complaint member leads complains⟩
    cases asked : visit.inquiry? with
    | some inquiry => rfl
    | none =>
        rw [own_flatten, silent, asked] at made
        exact absurd made List.not_mem_nil
  · have display := (passage_of_follow leads).nearest Context.display name? display_enter
    rw [Context.messageName, display, Context.messageName]
    cases (root.passed trail).reverse.findSome? name? <;> rfl

/-! ### Three messages around a rule -/

def valuesOf (rule : Rule) (message : MessageOverride) : ValueRules :=
  { ValueRules.empty with general := [⟨rule, none, some message, true⟩] }

/-- A property that asks for a value, and goes by another name. Of the messages around this rule the
outermost one has no template. -/
def homeProperty : PropertyRules :=
  let inner := valuesOf .presence (.literal "Unread.")
  let middle := valuesOf (.value inner) (.literal "{name}?")
  ⟨"Address", none, some "Home", pure, valuesOf (.value middle) (.resource "absent"), none, false⟩

def missingHome : Visit := ⟨.property homeProperty, .absent .string, .empty⟩

theorem missingHome_worded : ∃ record ∈ missingHome.records, ∃ visit,
    missingHome.follow? record.trail = some visit ∧ visit.complaint? = some .required ∧
      record.shown.code = "required" ∧ record.shown.params = [] ∧
        record.shown.message = "Home?" := by
  -- The trail leads through the rules of the property and through the three entries.
  have leads : missingHome.follow? [0, 0, 0, 0, 0, 0, 0] =
      some ⟨.rule .presence, .absent .string, homeProperty.scope .empty⟩ := rfl
  have all : ∀ visit ∈ missingHome.passed [0, 0, 0, 0, 0, 0, 0] ++
      [⟨.rule .presence, .absent .string, homeProperty.scope .empty⟩],
      visit.node.mode = .all := by decide
  obtain ⟨record, member, trail, -⟩ := record_of_follow leads all List.mem_cons_self
  obtain ⟨visit, reached, _, worded⟩ := (outermost_message_wins missingHome).2.1 record member
  rw [trail, leads] at reached
  cases reached
  obtain ⟨code, params, message⟩ := worded .required rfl
  refine ⟨record, member, _, trail ▸ leads, rfl, code, params, message.trans ?_⟩
  rw [trail]
  decide

end Visit

end RuleTree
