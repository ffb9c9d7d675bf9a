import RuleTree.Step.Mode

/-!
What steps add to sinks. A step adds a report if every sink keeps what it holds and gets, behind
that, what it wants of the report: all of it, or its first failure, which halts the evaluation.
Such a step is known by its report: the sink's content before the step has no part in it, and what
a sink that wants the first failure gets can be read off what one that collects all gets.
-/

set_option autoImplicit false

namespace RuleTree

namespace Sink

/-- What a sink wants of a report. -/
def wanted (sink : Sink) (report : Report) : Report :=
  if sink.firstOnly then report.take 1 else report

/-- A sink after a report. -/
def taking (sink : Sink) (report : Report) : Sink :=
  { sink with failures := sink.failures ++ sink.wanted report }

/-- The flow after a report. -/
def flowOf (sink : Sink) (report : Report) : Flow :=
  if sink.firstOnly && !report.isEmpty then .halt else .proceed

@[simp] theorem wanted_nil (sink : Sink) : sink.wanted [] = [] := by simp [wanted]

@[simp] theorem taking_nil (sink : Sink) : sink.taking [] = sink := by simp [taking]

@[simp] theorem flowOf_nil (sink : Sink) : sink.flowOf [] = .proceed := by simp [flowOf]

@[simp] theorem taking_failures (sink : Sink) (report : Report) :
    (sink.taking report).failures = sink.failures ++ sink.wanted report := rfl

theorem flowOf_eq_halt_iff {sink : Sink} {report : Report} :
    sink.flowOf report = .halt ↔ sink.firstOnly = true ∧ report ≠ [] := by
  cases report <;> simp [flowOf]

theorem wanted_map (sink : Sink) (report : Report) (edit : Failure → Failure) :
    sink.wanted (report.map edit) = (sink.wanted report).map edit := by
  simp only [wanted]
  split
  · rw [List.map_take]
  · rfl

/-- A sink that halts after a report wants no more than the first failure. -/
theorem wanted_append_of_halt {sink : Sink} {first second : Report}
    (halts : sink.flowOf first = .halt) : sink.wanted (first ++ second) = sink.wanted first := by
  obtain ⟨firstOnly, nonempty⟩ := flowOf_eq_halt_iff.mp halts
  cases first with
  | nil => exact absurd rfl nonempty
  | cons failure rest => simp [wanted, firstOnly]

/-- Cutting off all but one new failure leaves the first of a report. -/
theorem truncate_taking (sink : Sink) (failure : Failure) (rest : Report) :
    (sink.taking (failure :: rest)).truncate (sink.size + 1) = sink.taking [failure] := by
  cases firstOnly : sink.firstOnly <;>
    simp [taking, truncate, size, wanted, firstOnly, List.take_append, List.take_of_length_le]

end Sink

namespace Step

/-- The step adds the report to every sink. -/
structure Adds (step : Step) (report : Report) : Prop where
  sink : ∀ sink : Sink, (step sink).sink = sink.taking report
  flow : ∀ sink : Sink, (step sink).flow = sink.flowOf report

/-- What a step adds to an empty sink that collects all failures. -/
def added (step : Step) : Report := (step .collectAll).sink.failures

theorem Adds.added_eq {step : Step} {report : Report} (adds : step.Adds report) :
    step.added = report := by
  simp [added, adds.sink, Sink.collectAll, Sink.wanted]

/-- The step adds what it adds to an empty sink to every sink. -/
def Lawful (step : Step) : Prop := step.Adds step.added

theorem Adds.lawful {step : Step} {report : Report} (adds : step.Adds report) : step.Lawful := by
  rw [Lawful, adds.added_eq]
  exact adds

/-! ### Single steps -/

theorem adds_pass : pass.Adds [] where
  sink sink := (sink.taking_nil).symm
  flow sink := (sink.flowOf_nil).symm

theorem adds_report (failure : Failure) : (report failure).Adds [failure] where
  sink sink := by simp [report, Sink.add, Sink.taking, Sink.wanted]
  flow sink := by simp [report, Sink.flowAfter, Sink.flowOf]

theorem Adds.after {step : Step} {report : Report} (adds : step.Adds report)
    (notes : Sink → List Note) : Adds (fun sink => (step sink).after (notes sink)) report where
  sink := adds.sink
  flow := adds.flow

theorem Adds.noted {step : Step} {report : Report} (adds : step.Adds report) (notes : List Note) :
    (noted notes step).Adds report :=
  adds.after fun _ => notes

theorem adds_event (shown : Event) : (event shown).Adds [] := adds_pass.noted _

theorem Adds.ask {α : Type} {question : Logged α} {next : α → Step} {report : Report}
    (adds : (next question.value).Adds report) : (ask question next).Adds report :=
  adds.noted _

theorem Adds.counted {step : Step} {report : Report} (adds : step.Adds report)
    (shown : Nat → Event) : (step.counted shown).Adds report where
  sink := adds.sink
  flow := adds.flow

theorem Adds.transient {step : Step} {report : Report} (adds : step.Adds report) :
    step.transient.Adds report where
  sink := adds.sink
  flow := adds.flow

/-! ### Steps one after another -/

theorem Adds.andThen {first second : Step} {early late : Report} (adds : first.Adds early)
    (follows : second.Adds late) : (first.andThen second).Adds (early ++ late) := by
  have outcome (sink : Sink) : (first.andThen second sink).sink = sink.taking (early ++ late) ∧
      (first.andThen second sink).flow = sink.flowOf (early ++ late) := by
    simp only [Step.andThen, adds.flow]
    cases flow : sink.flowOf early with
    | halt =>
        obtain ⟨firstOnly, nonempty⟩ := Sink.flowOf_eq_halt_iff.mp flow
        have halts : sink.flowOf (early ++ late) = .halt :=
          Sink.flowOf_eq_halt_iff.mpr ⟨firstOnly, by simp [nonempty]⟩
        rw [halts, adds.sink, Sink.taking, Sink.taking, Sink.wanted_append_of_halt flow]
        exact ⟨rfl, (adds.flow sink).trans flow⟩
    | proceed =>
        simp only [Outcome.after, follows.sink, follows.flow, adds.sink]
        cases early with
        | nil => simp
        | cons failure rest =>
            have collecting : sink.firstOnly = false := by simpa [Sink.flowOf] using flow
            simp [Sink.taking, Sink.flowOf, Sink.wanted, collecting]
  exact ⟨fun sink => (outcome sink).1, fun sink => (outcome sink).2⟩

theorem adds_reportAll (failures : Report) : (reportAll failures).Adds failures := by
  induction failures with
  | nil => exact adds_pass
  | cons failure rest ih => exact (adds_report failure).andThen ih

/-! ### Edited steps -/

theorem editAll_value (edit : Failure → Logged Failure) (failures : Report) :
    (editAll edit failures).value = failures.map fun failure => (edit failure).value := by
  induction failures with
  | nil => rfl
  | cons failure rest ih => simp [editAll, Logged.bind, ih, pure, Logged.pure]

theorem Adds.editing {step : Step} {report : Report} (adds : step.Adds report)
    (edit : Failure → Logged Failure) :
    (step.editing edit).Adds (report.map fun failure => (edit failure).value) where
  sink sink := by
    simp [Step.editing, adds.sink, editAll_value, Sink.taking, Sink.size, Sink.wanted_map]
  flow sink := by
    simp [Step.editing, adds.flow, Sink.flowOf]

theorem Adds.below {step : Step} {report : Report} (adds : step.Adds report) (path : String) :
    (step.below path).Adds (report.map (Failure.below path)) :=
  adds.editing _

end Step

/-! ### Modes -/

namespace Attempt

/-- The report of a step that is made. -/
def report? : Attempt → Option Report
  | .skipped _ => none
  | .made step => some step.added

/-- If a step is made, it is a lawful one. -/
def Lawful : Attempt → Prop
  | .skipped _ => True
  | .made step => step.Lawful

/-- The reports of the steps that are made. -/
def reports (attempts : List Attempt) : List Report := attempts.filterMap report?

@[simp] theorem reports_made (step : Step) (rest : List Attempt) :
    reports (.made step :: rest) = step.added :: reports rest := rfl

@[simp] theorem reports_skipped (shown : Event) (rest : List Attempt) :
    reports (.skipped shown :: rest) = reports rest := rfl

@[simp] theorem reports_append (first second : List Attempt) :
    reports (first ++ second) = reports first ++ reports second :=
  List.filterMap_append

@[simp] theorem select_true (shown : Event) (step : Step) : select true shown step = .made step :=
  rfl

@[simp] theorem select_false (shown : Event) (step : Step) :
    select false shown step = .skipped shown := rfl

end Attempt

namespace Mode

/-- What a mode makes of the reports of steps: all failures; or the first failure; or all, unless
some report is empty, which accepts. -/
def merge {α : Type} : Mode → List (List α) → List α
  | .all, reports => reports.flatten
  | .failFast, reports => reports.flatten.take 1
  | .any, reports => if reports.any List.isEmpty then [] else reports.flatten

theorem merge_map {α β : Type} (mode : Mode) (edit : α → β) (reports : List (List α)) :
    mode.merge (reports.map (List.map edit)) = (mode.merge reports).map edit := by
  cases mode with
  | all => exact List.map_flatten.symm
  | failFast => simp only [merge, ← List.map_flatten, List.map_take]
  | any =>
      have empty : (reports.map (List.map edit)).any List.isEmpty =
          reports.any List.isEmpty := by
        simp [List.any_map, Function.comp_def]
      simp only [merge, empty, ← List.map_flatten]
      split <;> rfl

theorem runAll_adds {attempts : List Attempt} (lawful : ∀ attempt ∈ attempts, attempt.Lawful) :
    (runAll attempts).Adds (Attempt.reports attempts).flatten := by
  induction attempts with
  | nil => exact Step.adds_pass
  | cons attempt rest ih =>
      have others := ih fun other member => lawful other (List.mem_cons_of_mem _ member)
      cases attempt with
      | skipped shown => exact others.noted _
      | made step => exact (lawful _ List.mem_cons_self).andThen others

/-- A step that adds nothing makes way for the next one, whatever the sink is. -/
theorem runFailFast_passing {step : Step} (adds : step.Adds []) (rest : List Attempt)
    (sink : Sink) :
    runFailFast (.made step :: rest) sink =
      (runFailFast rest sink).after (step sink).notes := by
  simp [runFailFast, adds.sink, adds.flow]

theorem runFailFast_adds {attempts : List Attempt}
    (lawful : ∀ attempt ∈ attempts, attempt.Lawful) :
    (runFailFast attempts).Adds ((Attempt.reports attempts).flatten.take 1) := by
  induction attempts with
  | nil => exact Step.adds_pass
  | cons attempt rest ih =>
      have others := ih fun other member => lawful other (List.mem_cons_of_mem _ member)
      cases attempt with
      | skipped shown => exact others.noted _
      | made step =>
          have adds : step.Adds step.added := lawful _ List.mem_cons_self
          rw [Attempt.reports_made, List.flatten_cons]
          cases added : step.added with
          | nil =>
              rw [added] at adds
              have silent : runFailFast (.made step :: rest) =
                  fun sink => (runFailFast rest sink).after (step sink).notes :=
                funext (runFailFast_passing adds rest)
              rw [silent]
              exact others.after _
          | cons failure more =>
              rw [added] at adds
              have first : (failure :: more ++ (Attempt.reports rest).flatten).take 1 =
                  [failure] := rfl
              rw [first]
              have outcome (sink : Sink) :
                  (runFailFast (.made step :: rest) sink).sink = sink.taking [failure] ∧
                    (runFailFast (.made step :: rest) sink).flow = sink.flowOf [failure] := by
                cases firstOnly : sink.firstOnly with
                | true =>
                    simp [runFailFast, adds.sink, adds.flow, Sink.flowOf, Sink.taking,
                      Sink.wanted, firstOnly]
                | false =>
                    have grows : sink.size < (sink.taking (failure :: more)).size := by
                      simp [Sink.size, Sink.wanted, firstOnly]
                    simp only [runFailFast, adds.sink, adds.flow, Sink.flowOf, firstOnly,
                      Bool.false_and, Bool.false_eq_true, ↓reduceIte, grows, Sink.truncate_taking]
                    exact ⟨trivial, trivial⟩
              exact ⟨fun sink => (outcome sink).1, fun sink => (outcome sink).2⟩

theorem runAny_adds {attempts : List Attempt} (lawful : ∀ attempt ∈ attempts, attempt.Lawful)
    (rejected : Report) :
    (runAny attempts rejected).Adds
      (if (Attempt.reports attempts).any List.isEmpty then []
        else rejected ++ (Attempt.reports attempts).flatten) := by
  induction attempts generalizing rejected with
  | nil => simpa [Attempt.reports, runAny] using Step.adds_reportAll rejected
  | cons attempt rest ih =>
      have others := ih fun other member => lawful other (List.mem_cons_of_mem _ member)
      cases attempt with
      | skipped shown => exact (others rejected).noted _
      | made step =>
          rw [Attempt.reports_made, List.any_cons, List.flatten_cons]
          have collected : (step .collectAll).sink.failures = step.added := rfl
          cases added : step.added with
          | nil =>
              rw [added] at collected
              have accepting : runAny (.made step :: rest) rejected =
                  fun sink => (Step.pass sink).after (step .collectAll).notes := by
                funext sink
                simp [runAny, Sink.isEmpty, collected, Outcome.after, Step.pass]
              rw [accepting]
              exact Step.adds_pass.after _
          | cons failure more =>
              rw [added] at collected
              have rejecting : runAny (.made step :: rest) rejected = fun sink =>
                  (runAny rest (rejected ++ failure :: more) sink).after (step .collectAll).notes := by
                funext sink
                simp [runAny, Sink.isEmpty, collected]
              rw [rejecting]
              simpa using (others (rejected ++ failure :: more)).after _

/-- Running lawful steps adds what the mode makes of their reports. -/
theorem run_adds (mode : Mode) {attempts : List Attempt}
    (lawful : ∀ attempt ∈ attempts, attempt.Lawful) :
    (mode.run attempts).Adds (mode.merge (Attempt.reports attempts)) := by
  cases mode with
  | all => exact runAll_adds lawful
  | failFast => exact runFailFast_adds lawful
  | any => simpa [merge, run] using runAny_adds lawful []

end Mode

end RuleTree
