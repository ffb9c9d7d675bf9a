import RuleTree.Proofs.Tree.Report
import RuleTree.Tree.Verdict

/-!
Stopping at the first failure. An evaluation that wants the first failure only and an evaluation
that collects all failures agree: the former finds the head of what the latter reports, halts if
and only if it finds it, and the verdicts of both come out alike.
-/

set_option autoImplicit false

namespace RuleTree

namespace Step.Adds

variable {step : Step} {report : Report}

theorem first_failures (adds : step.Adds report) :
    (step .first).sink.failures = report.take 1 := by
  rw [adds.sink]
  rfl

theorem first_halts_iff (adds : step.Adds report) :
    (step .first).flow = .halt ↔ (step .first).sink.failures ≠ [] := by
  rw [adds.flow, adds.first_failures, Sink.flowOf_eq_halt_iff]
  cases report <;> simp [Sink.first]

theorem collectAll_failures (adds : step.Adds report) :
    (step .collectAll).sink.failures = report :=
  adds.added_eq

theorem collecting_proceeds (adds : step.Adds report) (failures : Report) :
    (step ⟨failures, false⟩).flow = .proceed := by
  rw [adds.flow]
  rfl

theorem failures?_value (adds : step.Adds report) :
    step.failures?.value = if report.isEmpty then none else some report := by
  have collected := adds.collectAll_failures
  simp only [failures?, runWith, Logged.bind, Sink.report?, Sink.isEmpty, pure, Logged.pure,
    collected]

theorem accepts_value (adds : step.Adds report) : step.accepts.value = report.isEmpty := by
  have found := adds.first_failures
  simp only [accepts, runWith, Logged.bind, Sink.isEmpty, pure, Logged.pure, found]
  cases report <;> rfl

theorem demand_value (adds : step.Adds report) :
    step.demand.value =
      report.head?.elim (.ok ()) fun failure => .error (.rejected failure) := by
  have found := adds.first_failures
  simp only [demand, runWith, Logged.bind, Sink.first?, found]
  cases report <;> rfl

end Step.Adds

namespace Node

theorem failures?_value (node : Node) (value : Value) (context : Context) :
    (node.failures? value context).value =
      if (node.report value context).isEmpty then none else some (node.report value context) :=
  (node.lawful value context).failures?_value

theorem failures?_getD (node : Node) (value : Value) (context : Context) :
    (node.failures? value context).value.getD [] = node.report value context := by
  rw [failures?_value]
  cases node.report value context <;> rfl

theorem failures?_eq_none_iff (node : Node) (value : Value) (context : Context) :
    (node.failures? value context).value = none ↔ node.report value context = [] := by
  rw [failures?_value]
  cases node.report value context <;> simp

theorem failures?_head? (node : Node) (value : Value) (context : Context) :
    (node.failures? value context).value.bind List.head? = (node.report value context).head? := by
  rw [failures?_value]
  cases node.report value context <;> rfl

/-- The first failure is an error if and only if it is the first of all failures. -/
theorem require_value (node : Node) (value : Value) (context : Context) :
    (node.require value context).value =
      ((node.failures? value context).value.bind List.head?).elim (.ok ())
        fun failure => .error (.rejected failure) := by
  rw [failures?_value, require, (node.lawful value context).demand_value]
  cases node.report value context <;> rfl

theorem accepts_iff (node : Node) (value : Value) (context : Context) :
    (node.accepts value context).value = true ↔ (node.failures? value context).value = none := by
  rw [failures?_value, accepts, (node.lawful value context).accepts_value]
  cases node.report value context <;> simp

/-- An evaluation for the first failure finds the first of all failures, and it halts if and only
if there is one; an evaluation for all failures never halts; the verdicts agree. -/
theorem first_failure_refines_report (node : Node) (value : Value) (context : Context) :
    (node.evaluate value context .first).sink.failures =
        (node.evaluate value context .collectAll).sink.failures.take 1 ∧
      ((node.evaluate value context .first).flow = .halt ↔
        (node.evaluate value context .first).sink.failures ≠ []) ∧
      (∀ failures, (node.evaluate value context ⟨failures, false⟩).flow = .proceed) ∧
      (node.require value context).value =
        ((node.failures? value context).value.bind List.head?).elim (.ok ())
          (fun failure => .error (.rejected failure)) ∧
      ((node.accepts value context).value = true ↔
        (node.failures? value context).value = none) := by
  have adds := node.lawful value context
  refine ⟨?_, adds.first_halts_iff, adds.collecting_proceeds, node.require_value value context,
    node.accepts_iff value context⟩
  rw [adds.collectAll_failures]
  exact adds.first_failures

end Node

end RuleTree
