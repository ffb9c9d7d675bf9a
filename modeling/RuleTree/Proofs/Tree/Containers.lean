import RuleTree.Proofs.Step.Appends
import RuleTree.Proofs.Tree.FirstFailure

/-!
Containers and their steps. A composite, the rules of a value and the rules of an object run steps
in a mode: their children; the entries that are active; the annotations, the properties that are
active and the child. What they leave in a sink is what the mode makes of the reports of the steps,
and their verdict is what the mode makes of the verdicts of the steps.
-/

set_option autoImplicit false

namespace RuleTree

namespace Step

theorem Lawful.accepts_value {step : Step} (lawful : step.Lawful) :
    step.accepts.value = step.added.isEmpty :=
  Adds.accepts_value lawful

end Step

theorem Attempt.verdicts_eq {attempts : List Attempt}
    (lawful : ∀ attempt ∈ attempts, attempt.Lawful) :
    (steps attempts).map (fun step => step.accepts.value) =
      (reports attempts).map List.isEmpty := by
  rw [reports_eq_steps, List.map_map]
  exact List.map_congr_left fun step member =>
    (lawful_of_mem_steps lawful step member).accepts_value

namespace Node

theorem accepts_value (node : Node) (value : Value) (context : Context) :
    (node.accepts value context).value = (node.report value context).isEmpty :=
  (node.lawful value context).accepts_value

theorem accepts_composite (rules : CompositeRules) (value : Value) (context : Context) :
    ((rule (.composite rules)).accepts value context).value =
      rules.mode.admits
        (rules.children.map fun part => ((rule part).accepts value context).value) := by
  simp only [accepts_value, report_composite, Mode.merge_isEmpty, List.map_map, Function.comp_def]

theorem accepts_value_rules (rules : ValueRules) (value : Value) (context : Context) :
    ((rule (.value rules)).accepts value context).value =
      (!rules.examines value || rules.mode.admits
        ((rules.entries.filter (·.isActive (rules.scope context).ruleSets)).map fun held =>
          ((entry held).accepts (rules.prepared value) (rules.scope context)).value)) := by
  rw [accepts_value, report_value]
  cases rules.examines value with
  | false => rfl
  | true =>
      simp only [↓reduceIte, accepts_value, Mode.merge_isEmpty, List.map_map, Function.comp_def,
        Bool.not_true, Bool.false_or]

theorem accepts_object (rules : ObjectRules) (value : Value) (context : Context) :
    ((object rules).accepts value context).value =
      (!rules.accepts value || rules.mode.admits
        ((Attempt.steps (rules.annotationAttempt value (rules.contextFor value context))).map
            (fun step => step.accepts.value) ++
          (rules.properties.filter
            (·.isActive (rules.contextFor value context).ruleSets)).map
              (fun held =>
                ((property held).accepts value (rules.contextFor value context)).value) ++
          rules.child.toList.map fun attached =>
            ((object attached).accepts value (rules.contextFor value context)).value)) := by
  rw [accepts_value, report_object,
    Attempt.verdicts_eq (rules.annotationAttempt_lawful value (rules.contextFor value context)),
    rules.reports_annotationAttempt]
  cases rules.accepts value with
  | false => rfl
  | true =>
      simp only [↓reduceIte, accepts_value, Mode.merge_isEmpty, List.map_append, List.map_map,
        Function.comp_def, Bool.not_true, Bool.false_or]

end Node

/-- Running steps in a mode leaves, in a sink that collects all failures, its prior content and what
the mode makes of the reports of the steps; behind the first step that fails, fail-fast runs none.
The verdict of a container is what its mode makes of the verdicts of its steps. -/
theorem run_leaves :
    (∀ (mode : Mode) (attempts : List Attempt) (reports : List Report) (prior : Report),
      List.Forall₂ Step.Appends (Attempt.steps attempts) reports →
        (mode.run attempts ⟨prior, false⟩).sink = ⟨mode.leaves prior reports, false⟩ ∧
          (mode.run attempts ⟨prior, false⟩).flow = .proceed) ∧
      (∀ (before after : List Attempt) (failing : Step) (failure : Failure) (more prior : Report),
        (∀ step ∈ Attempt.steps before, step.Appends []) →
          failing.Appends (failure :: more) →
            Mode.failFast.run (before ++ .made failing :: after) ⟨prior, false⟩ =
              Mode.failFast.run (before ++ [.made failing]) ⟨prior, false⟩) ∧
      (∀ (rules : CompositeRules) (value : Value) (context : Context),
        ((Node.rule (.composite rules)).accepts value context).value =
          rules.mode.admits
            (rules.children.map fun part => ((Node.rule part).accepts value context).value)) ∧
      (∀ (rules : ValueRules) (value : Value) (context : Context),
        ((Node.rule (.value rules)).accepts value context).value =
          (!rules.examines value || rules.mode.admits
            ((rules.entries.filter (·.isActive (rules.scope context).ruleSets)).map fun held =>
              ((Node.entry held).accepts (rules.prepared value) (rules.scope context)).value))) ∧
      ∀ (rules : ObjectRules) (value : Value) (context : Context),
        ((Node.object rules).accepts value context).value =
          (!rules.accepts value || rules.mode.admits
            ((Attempt.steps (rules.annotationAttempt value (rules.contextFor value context))).map
                (fun step => step.accepts.value) ++
              (rules.properties.filter
                (·.isActive (rules.contextFor value context).ruleSets)).map
                  (fun held =>
                    ((Node.property held).accepts value (rules.contextFor value context)).value) ++
              rules.child.toList.map fun attached =>
                ((Node.object attached).accepts value
                  (rules.contextFor value context)).value)) := by
  refine ⟨?_, ?_, Node.accepts_composite, Node.accepts_value_rules, Node.accepts_object⟩
  · intro mode attempts reports prior appends
    have run := mode.run_appends appends
    rw [mode.leaves_eq]
    exact ⟨run.sink prior, run.flow prior⟩
  · intro before after failing failure more prior silent appends
    exact Mode.runFailFast_stops silent appends prior after []

/-- Three steps, of which the second fails twice and the third once, behind a failure. -/
theorem leaves_behind_prior :
    let failure (code : String) : Failure := .new code "no"
    let attempts : List Attempt :=
      [.made .pass, .skipped .emptySkipped, .made (.reportAll [failure "b", failure "c"]),
        .made (.report (failure "d"))]
    (Mode.all.run attempts ⟨[failure "a"], false⟩).sink =
        ⟨[failure "a", failure "b", failure "c", failure "d"], false⟩ ∧
      (Mode.failFast.run attempts ⟨[failure "a"], false⟩).sink =
        ⟨[failure "a", failure "b"], false⟩ ∧
      (Mode.any.run attempts ⟨[failure "a"], false⟩).sink = ⟨[failure "a"], false⟩ ∧
      (Mode.any.run (attempts.drop 2) ⟨[failure "a"], false⟩).sink =
        ⟨[failure "a", failure "b", failure "c", failure "d"], false⟩ := by
  intro failure attempts
  have several : Step.Appends (.reportAll [failure "b", failure "c"]) [failure "b", failure "c"] :=
    (Step.adds_reportAll _).appends
  have single : Step.Appends (.report (failure "d")) [failure "d"] := (Step.adds_report _).appends
  have late : List.Forall₂ Step.Appends (Attempt.steps (attempts.drop 2))
      [[failure "b", failure "c"], [failure "d"]] :=
    .cons several (.cons single .nil)
  have appends : List.Forall₂ Step.Appends (Attempt.steps attempts)
      [[], [failure "b", failure "c"], [failure "d"]] :=
    .cons Step.adds_pass.appends late
  have ⟨leaves, _⟩ := run_leaves
  exact ⟨(leaves .all attempts _ _ appends).1, (leaves .failFast attempts _ _ appends).1,
    (leaves .any attempts _ _ appends).1, (leaves .any (attempts.drop 2) _ _ late).1⟩

end RuleTree
