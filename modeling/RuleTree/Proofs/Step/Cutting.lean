import RuleTree.Proofs.Journal.Remarks
import RuleTree.Proofs.Step.Adds

/-!
How steps are cut short. A step that does not halt the evaluation writes the same notes whatever
the sink is; if it halts it, the remarks are those that the notes begin with. Modes keep that up:
what they leave out, they leave out at the end.
-/

set_option autoImplicit false

namespace RuleTree

namespace Sink

theorem flowOf_eq_proceed_iff {sink : Sink} {report : Report} :
    sink.flowOf report = .proceed ↔ sink.firstOnly = false ∨ report = [] := by
  cases report <;> simp [flowOf]

theorem wanted_of_proceed {sink : Sink} {report : Report}
    (proceeds : sink.flowOf report = .proceed) : sink.wanted report = report := by
  rcases flowOf_eq_proceed_iff.mp proceeds with collecting | rfl
  · simp [wanted, collecting]
  · exact sink.wanted_nil

theorem proceed_append {sink : Sink} {early late : Report} :
    sink.flowOf (early ++ late) = .proceed ↔
      sink.flowOf early = .proceed ∧ sink.flowOf late = .proceed := by
  simp only [flowOf_eq_proceed_iff, List.append_eq_nil_iff]
  cases sink.firstOnly <;> simp

end Sink

namespace Step

/-- The step adds the report and writes the notes; where it halts the evaluation, it remarks what
the notes begin with. -/
structure Writes (step : Step) (report : Report) (notes : List Note) : Prop where
  adds : step.Adds report
  whole : ∀ sink : Sink, sink.flowOf report = .proceed → (step sink).notes = notes
  cut : ∀ sink : Sink, Note.Begins (step sink).notes notes

/-- The notes of the step depend on the sink only where it halts the evaluation, which cuts them
short. -/
def Orderly (step : Step) : Prop := ∃ notes, step.Writes step.added notes

variable {step first second : Step} {report early late : Report} {notes more : List Note}

theorem Writes.orderly (writes : step.Writes report notes) : step.Orderly :=
  ⟨notes, writes.adds.added_eq.symm ▸ writes⟩

theorem Orderly.lawful (orderly : step.Orderly) : step.Lawful := by
  obtain ⟨notes, writes⟩ := orderly
  exact writes.adds

/-- A step that writes the same notes into every sink is not cut short. -/
theorem Adds.writes (adds : step.Adds report) (same : ∀ sink, (step sink).notes = notes) :
    step.Writes report notes where
  adds := adds
  whole sink _ := same sink
  cut sink := by
    rw [same sink]
    exact .refl notes

theorem writes_pass : pass.Writes [] [] := adds_pass.writes fun _ => rfl

theorem writes_report (failure : Failure) : (Step.report failure).Writes [failure] [] :=
  (adds_report failure).writes fun _ => rfl

theorem Writes.noted (writes : step.Writes report notes) (early : List Note) :
    (noted early step).Writes report (early ++ notes) where
  adds := writes.adds.noted early
  whole sink proceeds := congrArg (early ++ ·) (writes.whole sink proceeds)
  cut sink := (writes.cut sink).behind early

theorem writes_event (shown : Event) : (event shown).Writes [] [.event shown] :=
  writes_pass.noted _

theorem Writes.andThen (writes : first.Writes early notes) (follows : second.Writes late more) :
    (first.andThen second).Writes (early ++ late) (notes ++ more) where
  adds := writes.adds.andThen follows.adds
  whole sink proceeds := by
    obtain ⟨passes, goesOn⟩ := Sink.proceed_append.mp proceeds
    simp only [Step.andThen, writes.adds.flow, passes, Outcome.after, writes.whole sink passes,
      writes.adds.sink, follows.whole (sink.taking early) goesOn]
  cut sink := by
    simp only [Step.andThen, writes.adds.flow]
    cases flow : sink.flowOf early with
    | halt => exact (writes.cut sink).before more
    | proceed =>
        have cut := (follows.cut (first sink).sink).behind notes
        simpa only [Outcome.after, writes.whole sink flow] using cut

theorem reportAll_notes (failures : Report) (sink : Sink) :
    (reportAll failures sink).notes = [] := by
  induction failures generalizing sink with
  | nil => rfl
  | cons failure rest ih =>
      simp only [reportAll, Step.andThen, Step.report]
      cases sink.flowAfter with
      | halt => rfl
      | proceed => exact ih (sink.add failure)

theorem writes_reportAll (failures : Report) : (reportAll failures).Writes failures [] :=
  (adds_reportAll failures).writes (reportAll_notes failures)

theorem editAll_quiet {edit : Failure → Logged Failure}
    (quiet : ∀ failure, Note.Quiet (edit failure).notes) (failures : Report) :
    Note.Quiet (editAll edit failures).notes := by
  induction failures with
  | nil => exact Note.quiet_nil
  | cons failure rest ih =>
      exact (quiet failure).append (ih.append Note.quiet_nil)

theorem Writes.editing (writes : step.Writes report notes) {edit : Failure → Logged Failure}
    (quiet : ∀ failure, Note.Quiet (edit failure).notes) :
    (step.editing edit).Writes (report.map fun failure => (edit failure).value)
      (notes ++ (editAll edit report).notes) where
  adds := writes.adds.editing edit
  whole sink proceeds := by
    have proceeds : sink.flowOf report = .proceed := by
      simpa only [Sink.flowOf, List.isEmpty_map] using proceeds
    simp only [Step.editing, writes.whole sink proceeds, writes.adds.sink, Sink.taking_failures,
      Sink.size, List.drop_left, Sink.wanted_of_proceed proceeds]
  cut sink := ((writes.cut sink).quietly (editAll_quiet quiet _)).before _

theorem Writes.counted (writes : step.Writes report notes) (shown : Nat → Event) :
    (step.counted shown).Writes report (notes ++ [.event (shown report.length)]) where
  adds := writes.adds.counted shown
  whole sink proceeds := by
    have grown : (step sink).sink.size - sink.size = report.length := by
      simp [writes.adds.sink, Sink.size, Sink.wanted_of_proceed proceeds]
    simp only [Step.counted, writes.whole sink proceeds, grown]
  cut sink := ((writes.cut sink).quietly (Note.quiet_event _)).before _

theorem Writes.transient (writes : step.Writes report notes) :
    step.transient.Writes report [.transient notes] where
  adds := writes.adds.transient
  whole sink proceeds := by simp only [Step.transient, writes.whole sink proceeds]
  cut sink := (writes.cut sink).transient

end Step

/-! ### Modes -/

/-- If a step is made, it is an orderly one. -/
def Attempt.Orderly : Attempt → Prop
  | .skipped _ => True
  | .made step => step.Orderly

theorem Attempt.Orderly.lawful {attempt : Attempt} (orderly : attempt.Orderly) :
    attempt.Lawful := by
  cases attempt with
  | skipped shown => trivial
  | made step => exact Step.Orderly.lawful orderly

namespace Mode

variable {attempts : List Attempt}

theorem runAll_orderly (orderly : ∀ attempt ∈ attempts, attempt.Orderly) :
    (runAll attempts).Orderly := by
  induction attempts with
  | nil => exact Step.writes_pass.orderly
  | cons attempt rest ih =>
      obtain ⟨first, later⟩ := List.forall_mem_cons.mp orderly
      obtain ⟨more, follows⟩ := ih later
      cases attempt with
      | skipped shown => exact (follows.noted _).orderly
      | made step =>
          obtain ⟨notes, writes⟩ := first
          exact (writes.andThen follows).orderly

/-- Whether it halts the evaluation or not, a step that adds a failure is the last one. -/
theorem runFailFast_failing_notes {step : Step} {failure : Failure} {others : Report}
    (adds : step.Adds (failure :: others)) (rest : List Attempt) (sink : Sink) :
    (runFailFast (.made step :: rest) sink).notes = (step sink).notes := by
  unfold runFailFast
  dsimp only
  rw [adds.flow]
  cases flow : sink.flowOf (failure :: others) with
  | halt => rfl
  | proceed =>
      have grows : sink.size < (step sink).sink.size := by
        simp [adds.sink, Sink.size, Sink.wanted_of_proceed flow]
      simp only [grows, ↓reduceIte]

theorem runFailFast_orderly (orderly : ∀ attempt ∈ attempts, attempt.Orderly) :
    (runFailFast attempts).Orderly := by
  induction attempts with
  | nil => exact Step.writes_pass.orderly
  | cons attempt rest ih =>
      have adds := runFailFast_adds fun attempt member => (orderly attempt member).lawful
      obtain ⟨first, later⟩ := List.forall_mem_cons.mp orderly
      obtain ⟨more, follows⟩ := ih later
      cases attempt with
      | skipped shown => exact (follows.noted _).orderly
      | made step =>
          obtain ⟨notes, writes⟩ := first
          -- Where a step passes, the rest decides whether notes are cut off; else the step does.
          cases added : step.added with
          | nil =>
              rw [added] at writes
              have passes : runFailFast (.made step :: rest) =
                  Step.noted notes (runFailFast rest) := by
                funext sink
                rw [runFailFast_passing writes.adds, writes.whole sink sink.flowOf_nil]
                rfl
              rw [passes]
              exact (follows.noted notes).orderly
          | cons failure others =>
              rw [added] at writes
              rw [Attempt.reports_made, added] at adds
              have ends := runFailFast_failing_notes writes.adds rest
              have run : (runFailFast (.made step :: rest)).Writes _ notes :=
                ⟨adds, fun sink proceeds => (ends sink).trans (writes.whole sink proceeds),
                  fun sink => (ends sink).symm ▸ writes.cut sink⟩
              exact run.orderly

/-- Where each step has a sink of its own, the notes do not depend on the outer sink. -/
theorem runAny_notes (attempts : List Attempt) (rejected : Report) (sink : Sink) :
    (runAny attempts rejected sink).notes = (runAny attempts rejected .collectAll).notes := by
  induction attempts generalizing rejected with
  | nil =>
      exact (Step.reportAll_notes rejected sink).trans
        (Step.reportAll_notes rejected .collectAll).symm
  | cons attempt rest ih =>
      cases attempt with
      | skipped shown => exact congrArg (_ ++ ·) (ih rejected)
      | made step =>
          simp only [runAny]
          split
          · rfl
          · exact congrArg (_ ++ ·) (ih _)

theorem runAny_orderly (orderly : ∀ attempt ∈ attempts, attempt.Orderly) :
    (runAny attempts []).Orderly := by
  have adds := runAny_adds (fun attempt member => (orderly attempt member).lawful) []
  exact (adds.writes (runAny_notes attempts [])).orderly

theorem run_orderly (mode : Mode) (orderly : ∀ attempt ∈ attempts, attempt.Orderly) :
    (mode.run attempts).Orderly := by
  cases mode with
  | all => exact runAll_orderly orderly
  | failFast => exact runFailFast_orderly orderly
  | any => exact runAny_orderly orderly

end Mode

end RuleTree
