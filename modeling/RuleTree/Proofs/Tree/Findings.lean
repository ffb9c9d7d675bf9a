import RuleTree.Proofs.Failure.Path
import RuleTree.Proofs.Tree.Report

/-!
Findings. An evaluation builds the members of failures from the inside out: every property and
every element edits what was reported below it. Findings take the other way. The segments of a path
are handed down from the root, and a failure is put below the whole path at the place where it is
found. Both ways lead to the same report.
-/

set_option autoImplicit false

namespace RuleTree

/-- A failure as it is found, and the segments that lead to the place, from the root down. -/
structure Finding where
  path : List String
  failure : Failure

/-- An override looks at no member and changes none. -/
theorem MessageOverride.retitle_below (override : Option MessageOverride) (context : Context)
    (path : String) (failure : Failure) :
    (retitle override context failure).below path =
      retitle override context (failure.below path) := by
  rw [Failure.below_eq, Failure.below_eq]
  rcases override with _ | (template | key)
  · rfl
  · rfl
  · simp only [retitle, apply]
    cases context.messages.bind fun source => source.lookup key <;> rfl

namespace Finding

def foundAt (path : List String) (report : Report) : List Finding := report.map (Finding.mk path)

/-- A finding as it is reported: its members stand below the path. -/
def located (finding : Finding) : Failure :=
  { finding.failure with
    members := Path.place (Path.join finding.path) finding.failure.members }

def retitle (override : Option MessageOverride) (context : Context) (finding : Finding) :
    Finding :=
  { finding with failure := MessageOverride.retitle override context finding.failure }

theorem located_eq (finding : Finding) :
    finding.located = finding.failure.below (Path.join finding.path) :=
  (finding.failure.below_eq _).symm

theorem located_foundAt (path : List String) (report : Report) :
    (foundAt path report).map located = report.map (Failure.below (Path.join path)) := by
  simp [foundAt, located_eq, Function.comp_def]

theorem located_retitle (override : Option MessageOverride) (context : Context)
    (finding : Finding) :
    (finding.retitle override context).located =
      MessageOverride.retitle override context finding.located := by
  rw [located_eq, located_eq, ← MessageOverride.retitle_below]
  rfl

end Finding

namespace Node

/-- What a node finds below a path. -/
def findings : Node → List String → Value → Context → List Finding
  | .rule (.leaf leaf), path, value, context =>
    Finding.foundAt path (Step.examined leaf.type (fun input => (leaf.check input).value) value context)
  | .rule (.contextual leaf), path, value, context =>
    Finding.foundAt path
      (Step.examined leaf.type (fun input => (leaf.check input context).value) value context)
  | .rule .presence, path, value, context =>
    Finding.foundAt path (if value.isPresent then [] else [Step.rejected .required none context])
  | .rule (.predicate test), path, value, context =>
    Finding.foundAt path (if (test value context).value then []
      else [Step.rejected Step.predicateFailure none context])
  | .rule (.composite rules), path, value, context =>
    rules.mode.merge (rules.children.map fun part => (rule part).findings path value context)
  | .rule (.conditional rules), path, value, context =>
    if (rules.condition value).value then (rule (.value rules.accepted)).findings path value context
    else
      match _ : rules.rejected with
      | none => []
      | some branch => (rule (.value branch)).findings path value context
  | .rule (.value rules), path, value, context =>
    if rules.examines value then
      let active := rules.entries.attach.filter (·.1.isActive (rules.scope context).ruleSets)
      rules.mode.merge (active.map fun ⟨held, _⟩ =>
        (entry held).findings path (rules.prepared value) (rules.scope context))
    else []
  | .rule (.elements rules), path, value, context =>
    match _ : rules.element with
    | none => []
    | some element => value.elements.zipIdx.flatMap fun (item, position) =>
      if ElementRules.keeps rules.filter item then
        (rule element).findings (path ++ ["[" ++ toString position ++ "]"]) item context.scope
      else []
  | .rule (.object reach rules), path, value, context =>
    match value.nested? reach with
    | none => []
    | some record => (object rules).findings path record context
  | .entry held, path, value, context =>
    ((rule held.rule).findings path value context).map (Finding.retitle held.message context)
  | .property held, path, value, context =>
    let path := path ++ [held.member]
    let value := held.read value
    let context := held.scope context
    Finding.foundAt path (held.annotations value context) ++
      (rule (.value held.rules)).findings path value context
  | .object rules, path, value, context =>
    let context := rules.contextFor value context
    if rules.accepts value then
      let annotated := (rules.annotations value context).map (Finding.foundAt path)
      let declared := (rules.properties.filter (·.isActive context.ruleSets)).map fun held =>
        (property held).findings path value context
      match _ : rules.child with
      | none => rules.mode.merge (annotated ++ declared)
      | some attached =>
        let delegated := (object attached).findings path value context
        rules.mode.merge (annotated ++ declared ++ [delegated])
    else []
termination_by node => node
decreasing_by all_goals exact sizeOf_child_lt (by simp_all [children])

/-! ### The equations of findings -/

theorem findings_conditional (rules : ConditionalRules) (path : List String) (value : Value)
    (context : Context) :
    (rule (.conditional rules)).findings path value context =
      if (rules.condition value).value then
        (rule (.value rules.accepted)).findings path value context
      else rules.rejected.elim [] fun branch => (rule (.value branch)).findings path value context := by
  rw [findings]
  congr 1
  split
  · next absent => rw [absent]; rfl
  · next branch present => rw [present]; rfl

theorem findings_value (rules : ValueRules) (path : List String) (value : Value)
    (context : Context) :
    (rule (.value rules)).findings path value context =
      if rules.examines value then
        rules.mode.merge ((rules.entries.filter (·.isActive (rules.scope context).ruleSets)).map
          fun held => (entry held).findings path (rules.prepared value) (rules.scope context))
      else [] := by
  have unattached (active : RuleEntry → Bool) :
      rules.entries.filter active =
        (rules.entries.attach.filter fun held => active held.1).map (·.1) := by
    calc
      rules.entries.filter active
        = (rules.entries.attach.map (·.1)).filter active := by
          rw [List.attach_map_subtype_val]
      _ = (rules.entries.attach.filter fun held => active held.1).map (·.1) := List.filter_map
  rw [findings, unattached, List.map_map]
  rfl

theorem findings_elements (rules : ElementRules) (path : List String) (value : Value)
    (context : Context) :
    (rule (.elements rules)).findings path value context =
      rules.element.elim [] fun element => value.elements.zipIdx.flatMap fun numbered =>
        if ElementRules.keeps rules.filter numbered.1 then
          (rule element).findings (path ++ ["[" ++ toString numbered.2 ++ "]"]) numbered.1
            context.scope
        else [] := by
  rw [findings]
  split
  · next absent => rw [absent]; rfl
  · next element present => rw [present]; rfl

theorem findings_object (rules : ObjectRules) (path : List String) (value : Value)
    (context : Context) :
    (object rules).findings path value context =
      if rules.accepts value then
        rules.mode.merge
          ((rules.annotations value (rules.contextFor value context)).map
              (Finding.foundAt path) ++
            (rules.properties.filter
              (·.isActive (rules.contextFor value context).ruleSets)).map
                (fun held =>
                  (property held).findings path value (rules.contextFor value context)) ++
            rules.child.toList.map fun attached =>
              (object attached).findings path value (rules.contextFor value context))
      else [] := by
  rw [findings]
  congr 1
  split
  · next absent => rw [absent]; simp
  · next attached present => rw [present]; rfl

/-- What is found below a path is what is reported, put below the path. -/
theorem located_findings (node : Node) (path : List String) (value : Value) (context : Context) :
    (node.findings path value context).map Finding.located =
      (node.report value context).map (Failure.below (Path.join path)) := by
  induction node generalizing path value context with
  | leaf held => rw [findings, report_leaf, Finding.located_foundAt]
  | contextual held => rw [findings, report_contextual, Finding.located_foundAt]
  | presence => rw [findings, report_presence, Finding.located_foundAt]
  | predicate test => rw [findings, report_predicate, Finding.located_foundAt]
  | composite rules ih =>
      rw [findings, report_composite, ← Mode.merge_map, ← Mode.merge_map, List.map_map, List.map_map]
      congr 1
      exact List.map_congr_left fun part member => ih part member path value context
  | conditional rules accepted rejected =>
      rw [findings_conditional, report_conditional]
      split
      · exact accepted path value context
      · cases present : rules.rejected with
        | none => rfl
        | some branch => exact rejected branch present path value context
  | value rules ih =>
      rw [findings_value, report_value]
      split
      · rw [← Mode.merge_map, ← Mode.merge_map, List.map_map, List.map_map]
        congr 1
        apply List.map_congr_left
        intro held member
        exact ih held (List.mem_filter.mp member).1 path _ _
      · rfl
  | elements rules ih =>
      rw [findings_elements, report_elements]
      cases present : rules.element with
      | none => rfl
      | some element =>
          simp only [Option.elim_some, List.map_flatMap]
          congr 1
          funext numbered
          unfold ElementRules.placed
          split
          · rw [ih element present, Failure.map_below_below, Path.index_empty,
              Path.join_append_singleton]
          · rfl
  | nested reach rules ih =>
      rw [findings, report_nested]
      cases value.nested? reach with
      | none => rfl
      | some record => exact ih path record context
  | entry held ih =>
      rw [findings, report_entry, List.map_map, List.map_map]
      calc
        ((rule held.rule).findings path value context).map
            (Finding.located ∘ Finding.retitle held.message context)
          = (((rule held.rule).findings path value context).map Finding.located).map
              (MessageOverride.retitle held.message context) := by
            rw [List.map_map]
            congr 1
            funext finding
            exact finding.located_retitle held.message context
        _ = (((rule held.rule).report value context).map (Failure.below (Path.join path))).map
              (MessageOverride.retitle held.message context) := by
            rw [ih]
        _ = ((rule held.rule).report value context).map
              (Failure.below (Path.join path) ∘ MessageOverride.retitle held.message context) := by
            rw [List.map_map]
            congr 1
            funext failure
            exact (MessageOverride.retitle_below ..).symm
  | property held ih =>
      have below := ih (path ++ [held.member]) (held.read value) (held.scope context)
      rw [findings, report_property]
      rw [List.map_append, Finding.located_foundAt, below, ← List.map_append,
        Failure.map_below_below, Path.join_append_singleton]
  | object rules properties child =>
      rw [findings_object, report_object]
      split
      · rw [← Mode.merge_map, ← Mode.merge_map]
        congr 1
        simp only [List.map_append, List.map_map]
        congr 1
        · congr 1
          · apply List.map_congr_left
            intro annotated _
            exact Finding.located_foundAt path annotated
          · apply List.map_congr_left
            intro held member
            exact properties held (List.mem_filter.mp member).1 path _ _
        · apply List.map_congr_left
          intro attached member
          exact child attached (Option.mem_toList.mp member) path _ _
      · rfl

theorem report_eq_located (node : Node) (value : Value) (context : Context) :
    node.report value context = (node.findings [] value context).map Finding.located := by
  rw [located_findings, Path.join_nil, Failure.below_empty, List.map_id]

/-- An evaluation keeps what a sink holds and adds what is found from the root down, each failure
with its members below the whole path that leads to it. -/
theorem evaluate_adds_located_findings (node : Node) (value : Value) (context : Context)
    (sink : Sink) :
    (node.evaluate value context sink).sink.failures =
      sink.failures ++ sink.wanted ((node.findings [] value context).map Finding.located) := by
  rw [evaluate_failures, report_eq_located]

end Node

end RuleTree
