import RuleTree.Proofs.Tree.Report

/-!
Visits. An evaluation visits nodes: each one on a value, in a context. A visit makes reports of its
own, goes on to the visits right below it, edits what is reported there, and puts all of it together
in the mode of its node. This one equation, `Visit.report_eq`, holds of every kind of node, so that
what passes from the visits right below to a visit is proved without a look at the kinds.

The visits below a visit are those of an evaluation that no mode cuts short. What a node may go on
to does not depend on the context: the context decides which of these candidates are taken, by their
tags, and where they are evaluated. Where the kinds of nodes differ is said once, of the candidates.
-/

set_option autoImplicit false

namespace RuleTree

/-- A node with the value and the context that it is evaluated in. -/
structure Visit where
  node : Node
  value : Value
  context : Context

/-- A visit right below another one, and what that one makes of the failures reported there. -/
structure Branch where
  visit : Visit
  edit : Failure → Failure

/-- The mode in which a node puts reports together. -/
def Node.mode : Node → Mode
  | .rule (.composite rules) => rules.mode
  | .rule (.value rules) => rules.mode
  | .object rules => rules.mode
  | _ => .all

/-! ### Candidates -/

/-- The tag that decides whether a node is evaluated. -/
def Node.tag : Node → Option RuleSets
  | .entry held => held.tag
  | .property held => held.tag
  | _ => none

/-- A visit that a node may make: the node and the value it is made to, and what is made there of
the failures that are reported. -/
structure Candidate where
  node : Node
  value : Value
  edit : Failure → Failure

namespace Candidate

def isActive (candidate : Candidate) (selector : Option RuleSets) : Bool :=
  RuleSets.isActive candidate.node.tag selector

/-- The branch that a candidate becomes when it is taken. -/
def branch (inside : Context) (candidate : Candidate) : Branch :=
  ⟨⟨candidate.node, candidate.value, inside⟩, candidate.edit⟩

/-- The report of a candidate that is taken, in the context of the branches. -/
def report (inside : Context) (candidate : Candidate) : Report :=
  (candidate.node.report candidate.value inside).map candidate.edit

theorem report_unedited (inside : Context) (node : Node) (value : Value) :
    report inside ⟨node, value, id⟩ = node.report value inside :=
  List.map_id _

/-- The reports of the candidates that the selector lets pass. -/
def reports (inside : Context) (candidates : List Candidate) : List Report :=
  (candidates.filter (·.isActive inside.ruleSets)).map (report inside)

theorem reports_append (inside : Context) (candidates rest : List Candidate) :
    reports inside (candidates ++ rest) = reports inside candidates ++ reports inside rest := by
  rw [reports, List.filter_append, List.map_append]
  rfl

section

variable {α : Type} (inside : Context) (items : List α)

theorem reports_tagged (tag : α → Option RuleSets) {candidate : α → Candidate}
    (tagged : ∀ item, (candidate item).node.tag = tag item) :
    reports inside (items.map candidate) =
      (items.filter fun item => RuleSets.isActive (tag item) inside.ruleSets).map fun item =>
        report inside (candidate item) := by
  simp only [reports, List.filter_map, List.map_map, Function.comp_def, isActive, tagged]

theorem reports_untagged {candidate : α → Candidate}
    (untagged : ∀ item, (candidate item).node.tag = none) :
    reports inside (items.map candidate) =
      items.map fun item => report inside (candidate item) := by
  rw [reports_tagged inside items (fun _ => none) untagged]
  exact congrArg _ (List.filter_eq_self.mpr fun _ _ => rfl)

end

end Candidate

namespace Node

/-- All that a node may go on to, whatever the selector. The context only gives the words of
messages. -/
def candidates : Node → Value → Context → List Candidate
  | .rule (.composite rules), value, _ =>
    rules.children.map fun part => ⟨.rule part, value, id⟩
  | .rule (.conditional rules), value, _ =>
    if (rules.condition value).value then [⟨.rule (.value rules.accepted), value, id⟩]
    else rules.rejected.toList.map fun branch => ⟨.rule (.value branch), value, id⟩
  | .rule (.value rules), value, _ =>
    if rules.examines value then
      rules.entries.map fun held => ⟨.entry held, rules.prepared value, id⟩
    else []
  | .rule (.elements rules), value, _ =>
    rules.element.toList.flatMap fun element =>
      (value.elements.zipIdx.filter fun numbered => ElementRules.keeps rules.filter numbered.1).map
        fun numbered =>
          ⟨.rule element, numbered.1, Failure.below (Path.index "" numbered.2)⟩
  | .rule (.object reach rules), value, _ =>
    (value.nested? reach).toList.map fun target => ⟨.object rules, target, id⟩
  | .entry held, value, context =>
    [⟨.rule held.rule, value, MessageOverride.retitle held.message context⟩]
  | .property held, value, _ =>
    [⟨.rule (.value held.rules), held.read value, Failure.below held.member⟩]
  | .object rules, value, _ =>
    if rules.accepts value then
      rules.properties.map (fun held => ⟨.property held, value, id⟩) ++
        rules.child.toList.map fun attached => ⟨.object attached, value, id⟩
    else []
  | _, _, _ => []

/-- A node goes on to nodes right below it. -/
theorem candidate_child {node : Node} {value : Value} {context : Context} {candidate : Candidate}
    (member : candidate ∈ node.candidates value context) : candidate.node ∈ node.children := by
  cases node with
  | entry | property =>
      rw [List.mem_singleton.mp member]
      exact List.mem_singleton_self _
  | object rules =>
      simp only [candidates] at member
      split at member
      · rcases List.mem_append.mp member with declared | attached
        · obtain ⟨held, heldMember, rfl⟩ := List.mem_map.mp declared
          exact List.mem_append_left _ (List.mem_map.mpr ⟨held, heldMember, rfl⟩)
        · obtain ⟨child, present, rfl⟩ := List.mem_map.mp attached
          exact List.mem_append_right _ (List.mem_map.mpr ⟨child, present, rfl⟩)
      · exact absurd member List.not_mem_nil
  | rule held =>
      cases held with
      | leaf | contextual | presence | predicate => exact absurd member List.not_mem_nil
      | composite rules =>
          obtain ⟨part, partMember, rfl⟩ := List.mem_map.mp member
          exact List.mem_map.mpr ⟨part, partMember, rfl⟩
      | conditional rules =>
          simp only [candidates] at member
          split at member
          · rw [List.mem_singleton.mp member]
            exact List.mem_cons_self
          · obtain ⟨branch, present, rfl⟩ := List.mem_map.mp member
            exact List.mem_cons_of_mem _ (List.mem_map.mpr ⟨branch, present, rfl⟩)
      | value rules =>
          simp only [candidates] at member
          split at member
          · obtain ⟨held, heldMember, rfl⟩ := List.mem_map.mp member
            exact List.mem_map.mpr ⟨held, heldMember, rfl⟩
          · exact absurd member List.not_mem_nil
      | elements rules =>
          obtain ⟨element, present, kept⟩ := List.mem_flatMap.mp member
          obtain ⟨numbered, _, rfl⟩ := List.mem_map.mp kept
          exact List.mem_map.mpr ⟨element, present, rfl⟩
      | object reach rules =>
          obtain ⟨target, _, rfl⟩ := List.mem_map.mp member
          exact List.mem_singleton_self _

end Node

namespace Visit

def report (visit : Visit) : Report := visit.node.report visit.value visit.context

/-- The reports that a visit makes itself: that of a leaf, and those of annotations. -/
def own : Visit → List Report
  | ⟨.rule (.leaf held), value, context⟩ =>
    [Step.examined held.type (fun input => (held.check input).value) value context]
  | ⟨.rule (.contextual held), value, context⟩ =>
    [Step.examined held.type (fun input => (held.check input context).value) value context]
  | ⟨.rule .presence, value, context⟩ =>
    [if value.isPresent then [] else [Step.rejected .required none context]]
  | ⟨.rule (.predicate test), value, context⟩ =>
    [if (test value context).value then []
      else [Step.rejected Step.predicateFailure none context]]
  | ⟨.property held, value, context⟩ =>
    [(held.annotations (held.read value) (held.scope context)).map (Failure.below held.member)]
  | ⟨.object rules, value, context⟩ =>
    if rules.accepts value then rules.annotations value (rules.contextFor value context) else []
  | _ => []

/-- The context in which a visit makes the visits right below it. -/
def inside : Visit → Context
  | ⟨.rule (.value rules), _, context⟩ => rules.scope context
  | ⟨.rule (.elements _), _, context⟩ => context.scope
  | ⟨.property held, _, context⟩ => held.scope context
  | ⟨.object rules, value, context⟩ => rules.contextFor value context
  | ⟨_, _, context⟩ => context

/-- The visits right below a visit, in order: the candidates of its node that the selector lets
pass. -/
def branches (visit : Visit) : List Branch :=
  ((visit.node.candidates visit.value visit.context).filter
    (·.isActive visit.inside.ruleSets)).map (Candidate.branch visit.inside)

/-- The reports of the visits right below a visit, as they arrive there. -/
def arriving (visit : Visit) : List Report :=
  visit.branches.map fun branch => branch.visit.report.map branch.edit

theorem arriving_eq (visit : Visit) :
    visit.arriving =
      Candidate.reports visit.inside (visit.node.candidates visit.value visit.context) := by
  rw [arriving, branches, List.map_map]
  rfl

/-- A visit goes on to nodes right below its own, all in one context. -/
theorem of_mem_branches {visit : Visit} {branch : Branch} (member : branch ∈ visit.branches) :
    branch.visit.node ∈ visit.node.children ∧ branch.visit.context = visit.inside := by
  obtain ⟨candidate, taken, rfl⟩ := List.mem_map.mp member
  exact ⟨Node.candidate_child (List.mem_filter.mp taken).1, rfl⟩

theorem induction {motive : Visit → Prop}
    (step : ∀ visit : Visit, (∀ branch ∈ visit.branches, motive branch.visit) → motive visit)
    (visit : Visit) : motive visit :=
  step visit fun branch _ => induction step branch.visit
termination_by visit.node
decreasing_by exact Node.sizeOf_child_lt (of_mem_branches ‹_›).1

/-- What arrives from the elements of a collection is reported below their positions. -/
theorem arriving_elements (rules : ElementRules) (element : Rule) (value : Value)
    (context : Context) :
    (((value.elements.zipIdx.filter fun numbered =>
        ElementRules.keeps rules.filter numbered.1).map fun numbered =>
          Candidate.report context.scope ⟨.rule element, numbered.1,
            Failure.below (Path.index "" numbered.2)⟩)).flatten =
      value.elements.zipIdx.flatMap
        (ElementRules.placed rules.filter fun item =>
          (Node.rule element).report item context.scope) := by
  -- Over the elements with their positions, as the filter shifts no position.
  induction value.elements.zipIdx with
  | nil => rfl
  | cons numbered rest ih =>
      rw [List.filter_cons, List.flatMap_cons, ← ih]
      cases kept : ElementRules.keeps rules.filter numbered.1 with
      | true => simp [ElementRules.placed, kept, Candidate.report]
      | false => simp [ElementRules.placed, kept]

/-- The report of a visit: its own reports and those that arrive from below, in the mode of its
node. -/
theorem report_eq (visit : Visit) :
    visit.report = visit.node.mode.merge (visit.own ++ visit.arriving) := by
  obtain ⟨node, value, context⟩ := visit
  change node.report value context = _
  rw [arriving_eq]
  cases node with
  | entry held =>
      rw [Node.report_entry]
      exact (List.append_nil _).symm
  | property held =>
      rw [Node.report_property, List.map_append]
      exact congrArg _ (List.append_nil _).symm
  | object rules =>
      rw [Node.report_object]
      simp only [Node.mode, own, Node.candidates]
      split
      · rw [Candidate.reports_append,
          Candidate.reports_tagged _ _ PropertyRules.tag (fun _ => rfl),
          Candidate.reports_untagged _ _ (fun _ => rfl), List.append_assoc]
        simp only [Candidate.report_unedited]
        rfl
      · cases rules.mode <;> rfl
  | rule held =>
      cases held with
      | leaf held =>
          rw [Node.report_leaf]
          exact (List.append_nil _).symm
      | contextual held =>
          rw [Node.report_contextual]
          exact (List.append_nil _).symm
      | presence =>
          rw [Node.report_presence]
          exact (List.append_nil _).symm
      | predicate test =>
          rw [Node.report_predicate]
          exact (List.append_nil _).symm
      | composite rules =>
          rw [Node.report_composite]
          simp only [Node.mode, own, Node.candidates]
          rw [Candidate.reports_untagged _ _ (fun _ => rfl)]
          simp only [Candidate.report_unedited]
          rfl
      | conditional rules =>
          rw [Node.report_conditional]
          simp only [Node.mode, own, Node.candidates]
          split
          · exact ((List.append_nil _).trans (Candidate.report_unedited _ _ _)).symm
          · rw [Candidate.reports_untagged _ _ (fun _ => rfl)]
            cases rules.rejected <;> simp [Mode.merge, inside, Candidate.report_unedited]
      | value rules =>
          rw [Node.report_value]
          simp only [Node.mode, own, Node.candidates]
          split
          · rw [Candidate.reports_tagged _ _ RuleEntry.tag (fun _ => rfl)]
            simp only [Candidate.report_unedited]
            rfl
          · cases rules.mode <;> rfl
      | elements rules =>
          rw [Node.report_elements]
          simp only [Node.mode, own, Node.candidates]
          cases rules.element with
          | none => rfl
          | some element =>
              simp only [Option.toList_some, List.flatMap_cons, List.flatMap_nil, List.append_nil]
              rw [Candidate.reports_untagged _ _ (fun _ => rfl)]
              exact (arriving_elements rules element value context).symm
      | object reach rules =>
          rw [Node.report_nested]
          simp only [Node.mode, own, Node.candidates]
          rw [Candidate.reports_untagged _ _ (fun _ => rfl)]
          cases value.nested? reach <;> simp [Mode.merge, inside, Candidate.report_unedited]

/-- An evaluation adds to a sink what the sink wants of the reports of the visit itself and of those
that arrive from below. -/
theorem evaluate_arriving (visit : Visit) (sink : Sink) :
    (visit.node.evaluate visit.value visit.context sink).sink.failures =
      sink.failures ++ sink.wanted (visit.node.mode.merge (visit.own ++ visit.arriving)) := by
  rw [← visit.report_eq]
  exact visit.node.evaluate_failures visit.value visit.context sink

/-- The report of a visit, by the candidates of its node. -/
theorem report_candidates (visit : Visit) :
    visit.report = visit.node.mode.merge (visit.own ++
      Candidate.reports visit.inside (visit.node.candidates visit.value visit.context)) := by
  rw [report_eq, arriving_eq]

/-! ### Trails -/

/-- The visit that a trail leads to. Each number of the trail is the position of a branch. -/
def follow? : Visit → List Nat → Option Visit
  | visit, [] => some visit
  | visit, position :: rest =>
    visit.branches[position]?.bind fun branch => branch.visit.follow? rest

/-- The other visit is the visit itself or lies below it. -/
def Reaches (visit other : Visit) : Prop := ∃ trail, visit.follow? trail = some other

theorem reaches_refl (visit : Visit) : visit.Reaches visit := ⟨[], rfl⟩

theorem Reaches.of_branch {visit other : Visit} {branch : Branch}
    (member : branch ∈ visit.branches) (reaches : branch.visit.Reaches other) :
    visit.Reaches other := by
  obtain ⟨trail, leads⟩ := reaches
  obtain ⟨position, found⟩ := List.mem_iff_getElem?.mp member
  refine ⟨position :: trail, ?_⟩
  rw [follow?, found]
  exact leads

theorem Reaches.eq_or_branch {visit other : Visit} (reaches : visit.Reaches other) :
    other = visit ∨ ∃ branch ∈ visit.branches, branch.visit.Reaches other := by
  obtain ⟨_ | ⟨position, rest⟩, leads⟩ := reaches
  · exact .inl (Option.some.inj leads).symm
  · obtain ⟨branch, found, leads⟩ := Option.bind_eq_some_iff.mp leads
    exact .inr ⟨branch, List.mem_of_getElem? found, rest, leads⟩

/-- What passes from a visit to the visits right below it holds of all visits that are reached. -/
theorem Reaches.preserves (invariant : Visit → Prop)
    (step : ∀ visit, invariant visit → ∀ branch ∈ visit.branches, invariant branch.visit)
    {visit other : Visit} (reaches : visit.Reaches other) (start : invariant visit) :
    invariant other := by
  induction visit using Visit.induction with
  | step visit ih =>
      rcases reaches.eq_or_branch with rfl | ⟨branch, member, reaches⟩
      · exact start
      · exact ih branch member reaches (step visit start branch member)

theorem Reaches.everywhere {condition : Node → Prop} {visit other : Visit}
    (reaches : visit.Reaches other) (everywhere : visit.node.Everywhere condition) :
    other.node.Everywhere condition :=
  reaches.preserves (fun visit => visit.node.Everywhere condition)
    (fun _ inside _ member => inside.descend (of_mem_branches member).1) everywhere

end Visit

end RuleTree
