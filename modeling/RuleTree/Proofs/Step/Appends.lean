import Mathlib.Data.List.Forall2
import RuleTree.Proofs.Step.Adds

/-!
What the modes make of steps that append reports. Only sinks that collect all failures are looked at
here: a step that appends a report to them, whatever they hold, is all that a mode needs to run it.
-/

set_option autoImplicit false

namespace RuleTree

namespace Step

/-- The step appends the report to every sink that collects all failures, and the evaluation goes
on, as it does after each failure that such a sink is given. -/
structure Appends (step : Step) (report : Report) : Prop where
  sink : ∀ prior : Report, (step ⟨prior, false⟩).sink = ⟨prior ++ report, false⟩
  flow : ∀ prior : Report, (step ⟨prior, false⟩).flow = .proceed

theorem Adds.appends {step : Step} {report : Report} (adds : step.Adds report) :
    step.Appends report where
  sink prior := adds.sink ⟨prior, false⟩
  flow prior := adds.flow ⟨prior, false⟩

theorem Appends.after {step : Step} {report : Report} (appends : step.Appends report)
    (notes : Sink → List Note) : Appends (fun sink => (step sink).after (notes sink)) report where
  sink := appends.sink
  flow := appends.flow

theorem Appends.noted {step : Step} {report : Report} (appends : step.Appends report)
    (notes : List Note) : (noted notes step).Appends report :=
  appends.after fun _ => notes

theorem Appends.andThen {first second : Step} {early late : Report}
    (appends : first.Appends early) (follows : second.Appends late) :
    (first.andThen second).Appends (early ++ late) where
  sink prior := by
    simp only [Step.andThen, appends.flow, appends.sink, Outcome.after, follows.sink,
      List.append_assoc]
  flow prior := by
    simp only [Step.andThen, appends.flow, appends.sink, Outcome.after, follows.flow]

end Step

namespace Attempt

/-- The steps that are made. -/
def steps : List Attempt → List Step
  | [] => []
  | .skipped _ :: rest => steps rest
  | .made step :: rest => step :: steps rest

theorem reports_eq_steps (attempts : List Attempt) :
    reports attempts = (steps attempts).map Step.added := by
  induction attempts with
  | nil => rfl
  | cons attempt rest ih =>
      cases attempt with
      | skipped shown => exact ih
      | made step => exact congrArg (step.added :: ·) ih

theorem lawful_of_mem_steps {attempts : List Attempt}
    (lawful : ∀ attempt ∈ attempts, attempt.Lawful) : ∀ step ∈ steps attempts, step.Lawful := by
  induction attempts with
  | nil => simp [steps]
  | cons attempt rest ih =>
      have ⟨first, later⟩ := List.forall_mem_cons.mp lawful
      cases attempt with
      | skipped shown => exact ih later
      | made step => exact List.forall_mem_cons.mpr ⟨first, ih later⟩

end Attempt

namespace Mode

variable {attempts : List Attempt} {reports : List Report}

theorem runAll_appends
    (appends : List.Forall₂ Step.Appends (Attempt.steps attempts) reports) :
    (runAll attempts).Appends reports.flatten := by
  induction attempts generalizing reports with
  | nil =>
      cases appends
      exact Step.adds_pass.appends
  | cons attempt rest ih =>
      cases attempt with
      | skipped shown => exact (ih appends).noted _
      | made step =>
          obtain ⟨report, others, first, later, rfl⟩ := List.forall₂_cons_left_iff.mp appends
          exact first.andThen (ih later)

/-- After the first step that adds a failure no step is run. -/
theorem runFailFast_failing {failing : Step} {failure : Failure} {more : Report}
    (appends : failing.Appends (failure :: more)) (prior : Report) (rest : List Attempt) :
    runFailFast (.made failing :: rest) ⟨prior, false⟩ =
      ⟨.proceed, ⟨prior ++ [failure], false⟩, (failing ⟨prior, false⟩).notes⟩ := by
  have grows : prior.length < (prior ++ failure :: more).length := by simp
  have kept : (prior ++ failure :: more).take (prior.length + 1) = prior ++ [failure] := by
    simp [List.take_append, List.take_of_length_le]
  simp only [runFailFast, appends.flow, appends.sink, Sink.size, grows, ↓reduceIte, Sink.truncate,
    kept]

/-- A step that adds nothing makes way for the next one. -/
theorem runFailFast_silent {silent : Step} (appends : silent.Appends []) (prior : Report)
    (rest : List Attempt) :
    runFailFast (.made silent :: rest) ⟨prior, false⟩ =
      (runFailFast rest ⟨prior, false⟩).after (silent ⟨prior, false⟩).notes := by
  simp only [runFailFast, appends.flow, appends.sink, Sink.size, List.append_nil,
    Nat.lt_irrefl, ↓reduceIte]

theorem runFailFast_appends
    (appends : List.Forall₂ Step.Appends (Attempt.steps attempts) reports) :
    (runFailFast attempts).Appends (reports.flatten.take 1) := by
  induction attempts generalizing reports with
  | nil =>
      cases appends
      exact Step.adds_pass.appends
  | cons attempt rest ih =>
      cases attempt with
      | skipped shown => exact (ih appends).noted _
      | made step =>
          obtain ⟨report, others, first, later, rfl⟩ := List.forall₂_cons_left_iff.mp appends
          cases report with
          | nil =>
              have next := (ih later).after fun sink => (step sink).notes
              exact ⟨fun prior => by rw [runFailFast_silent first]; exact next.sink prior,
                fun prior => by rw [runFailFast_silent first]; exact next.flow prior⟩
          | cons failure more =>
              exact ⟨fun prior => by rw [runFailFast_failing first]; rfl,
                fun prior => by rw [runFailFast_failing first]⟩

/-- If no step before it adds a failure, nothing after a failing step has a part in the outcome. -/
theorem runFailFast_stops {before : List Attempt}
    (silent : ∀ step ∈ Attempt.steps before, step.Appends []) {failing : Step} {failure : Failure}
    {more : Report} (appends : failing.Appends (failure :: more)) (prior : Report)
    (after other : List Attempt) :
    runFailFast (before ++ .made failing :: after) ⟨prior, false⟩ =
      runFailFast (before ++ .made failing :: other) ⟨prior, false⟩ := by
  induction before with
  | nil =>
      rw [List.nil_append, List.nil_append, runFailFast_failing appends,
        runFailFast_failing appends]
  | cons attempt rest ih =>
      cases attempt with
      | skipped shown => exact congrArg (Outcome.after · _) (ih silent)
      | made step =>
          have ⟨first, later⟩ := List.forall_mem_cons.mp silent
          rw [List.cons_append, List.cons_append, runFailFast_silent first,
            runFailFast_silent first, ih later]

theorem runAny_appends
    (appends : List.Forall₂ Step.Appends (Attempt.steps attempts) reports) (rejected : Report) :
    (runAny attempts rejected).Appends
      (if [] ∈ reports then [] else rejected ++ reports.flatten) := by
  induction attempts generalizing reports rejected with
  | nil =>
      cases appends
      simpa [runAny] using (Step.adds_reportAll rejected).appends
  | cons attempt rest ih =>
      cases attempt with
      | skipped shown => exact (ih appends rejected).noted _
      | made step =>
          obtain ⟨report, others, first, later, rfl⟩ := List.forall₂_cons_left_iff.mp appends
          -- The sink that the step gets to itself is an empty one that collects all failures.
          have collected : (step .collectAll).sink = ⟨report, false⟩ := first.sink []
          cases report with
          | nil =>
              have accepting : runAny (.made step :: rest) rejected =
                  fun sink => (Step.pass sink).after (step .collectAll).notes := by
                funext sink
                simp [runAny, collected, Sink.isEmpty, Outcome.after, Step.pass]
              rw [accepting, if_pos List.mem_cons_self]
              exact Step.adds_pass.appends.after _
          | cons failure more =>
              have rejecting : runAny (.made step :: rest) rejected = fun sink =>
                  (runAny rest (rejected ++ failure :: more) sink).after
                    (step .collectAll).notes := by
                funext sink
                simp [runAny, collected, Sink.isEmpty]
              rw [rejecting]
              simpa using (ih later (rejected ++ failure :: more)).after _

theorem run_appends (mode : Mode)
    (appends : List.Forall₂ Step.Appends (Attempt.steps attempts) reports) :
    (mode.run attempts).Appends (mode.merge reports) := by
  cases mode with
  | all => exact runAll_appends appends
  | failFast => exact runFailFast_appends appends
  | any => simpa [merge, run] using runAny_appends appends []

/-- What a mode leaves in a sink that collects all failures and has prior ones. -/
def leaves (mode : Mode) (prior : Report) (reports : List Report) : Report :=
  match mode with
  | .all => prior ++ reports.flatten
  | .failFast => prior ++ ((reports.find? fun report => !report.isEmpty).bind List.head?).toList
  | .any => if reports = [] ∨ [] ∈ reports then prior else prior ++ reports.flatten

theorem take_one_flatten (reports : List Report) :
    reports.flatten.take 1 =
      ((reports.find? fun report => !report.isEmpty).bind List.head?).toList := by
  induction reports with
  | nil => rfl
  | cons report rest ih =>
      cases report with
      | nil => exact ih
      | cons failure more => rfl

theorem leaves_eq (mode : Mode) (prior : Report) (reports : List Report) :
    mode.leaves prior reports = prior ++ mode.merge reports := by
  cases mode with
  | all => rfl
  | failFast => rw [leaves, merge, take_one_flatten]
  | any =>
      cases reports with
      | nil => simp [leaves, merge]
      | cons report rest =>
          simp only [leaves, merge, reduceCtorEq, false_or, List.any_eq_true, List.isEmpty_iff,
            exists_eq_right]
          split <;> simp

/-- What a mode makes of the verdicts of steps. -/
def admits (mode : Mode) (verdicts : List Bool) : Bool :=
  match mode with
  | .all | .failFast => verdicts.all id
  | .any => verdicts.isEmpty || verdicts.any id

theorem merge_isEmpty (mode : Mode) (reports : List Report) :
    (mode.merge reports).isEmpty = mode.admits (reports.map List.isEmpty) := by
  have flattened : reports.flatten.isEmpty = (reports.map List.isEmpty).all id := by
    rw [Bool.eq_iff_iff]
    simp [List.flatten_eq_nil_iff]
  cases mode with
  | all => exact flattened
  | failFast => rw [merge, admits, ← flattened, List.take_one]; cases reports.flatten <;> rfl
  | any =>
      have some_empty : (reports.map List.isEmpty).any id = reports.any List.isEmpty := by
        rw [List.any_map, Function.id_comp]
      simp only [merge, admits, some_empty]
      cases accepted : reports.any List.isEmpty with
      | true => simp
      | false =>
          cases reports with
          | nil => rfl
          | cons report rest =>
              rw [List.any_cons, Bool.or_eq_false_iff] at accepted
              simp [List.isEmpty_eq_false_iff.mp accepted.1]

end Mode

end RuleTree
