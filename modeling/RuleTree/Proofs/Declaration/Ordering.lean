import RuleTree.Proofs.Declaration.Segments
import RuleTree.Proofs.Tree.FirstFailure

/-!
The order of declarations. The entries of a validator run segment by segment, so of the order in
which they were declared only the one within each segment shows; guards may be declared in any
order. In mode `all` the report consists of what the active entries report one by one.
-/

set_option autoImplicit false

namespace RuleTree

/-- Contributions that make the same of the rules, as far as values get to see it: the order and the
number of the guards do not count, nor does a nested validator for which there is no place. -/
structure Segments.SameFor (start : ValueRules) (made other : Segments) : Prop where
  presence : made.presence = other.presence
  general : made.general = other.general
  nested : start.nested = none → made.nested = other.nested
  guards : ∀ test, test ∈ made.guards ↔ test ∈ other.guards
  mode : made.mode.getD start.mode = other.mode.getD start.mode
  skipsEmpty : (start.skipsEmpty || made.skipsEmpty) = (start.skipsEmpty || other.skipsEmpty)
  preprocess : made.preprocess.or start.preprocess = other.preprocess.or start.preprocess

namespace ValueRules

variable {start declared redeclared : ValueRules} {made other : Segments}

/-- Presence first, then the general rules, then what is nested. -/
theorem Declares.entries (declares : start.Declares made declared) :
    declared.entries =
      (start.presence ++ made.presence.map start.entryOf) ++
        (start.general ++ made.general.map start.entryOf) ++
          (start.nested.or (made.nested.map start.nestedEntryOf)).toList := by
  obtain ⟨_, rfl⟩ := declares
  rfl

/-- The entry that came last has no part in an evaluation. -/
theorem Declares.evaluate (declares : start.Declares made declared) (value : Value)
    (context : Context) :
    (Node.rule (.value declared)).evaluate value context =
      (Node.rule (.value (start.declaring made))).evaluate value context := by
  obtain ⟨_, rfl⟩ := declares
  rw [Node.value_evaluate, Node.value_evaluate]
  rfl

theorem evaluate_entries (rules : ValueRules) (value : Value) (context : Context) :
    let scope := rules.scope context
    let run (seen : Value) : Step := rules.mode.run (rules.entries.map fun held =>
      .select (held.isActive scope.ruleSets) (.ruleSkipped held.tag)
        ((Node.entry held).evaluate seen scope))
    (Node.rule (.value rules)).evaluate value context =
      .guarded rules.guards value .valueGuarded
        (if rules.skipsEmpty && value.isEmptyText then .event .emptySkipped
        else rules.preprocess.elim (run value) fun transform =>
          .ask (transform value) fun made => (run made).transient) := by
  intro scope run
  have entries (seen : Value) : rules.runEntries scope seen = run seen := by
    rw [runEntries, RuleEntry.attempts_eq]
  rw [Node.value_evaluate, runPrepared]
  cases rules.preprocess with
  | none => simp only [← entries]; rfl
  | some transform => simp only [← entries]; rfl

/-- Entries without messages report what their rules report. -/
theorem report_of_all {rules : ValueRules} (all : rules.mode = .all)
    (unworded : ∀ held ∈ rules.entries, held.message = none) {value : Value}
    (examines : rules.examines value = true) (context : Context) :
    (Node.rule (.value rules)).report value context =
      (rules.entries.filter (·.isActive (rules.scope context).ruleSets)).flatMap fun held =>
        (Node.rule held.rule).report (rules.prepared value) (rules.scope context) := by
  rw [Node.report_value, if_pos examines, all, Mode.merge, List.flatMap_def]
  refine congrArg List.flatten (List.map_congr_left fun held member => ?_)
  rw [Node.report_entry, unworded held (List.mem_filter.mp member).1]
  exact List.map_id'' (fun _ => rfl) _

/-- Rules are declared without messages. -/
theorem Declares.unworded (declares : start.Declares made declared)
    (unworded : ∀ held ∈ start.entries, held.message = none) :
    ∀ held ∈ declared.entries, held.message = none := by
  intro held member
  have before {entries : List RuleEntry} (within : ∀ entry ∈ entries, entry ∈ start.entries)
      {calls : List TaggedRule} (member : held ∈ entries ++ calls.map start.entryOf) :
      held.message = none := by
    rcases List.mem_append.mp member with early | late
    · exact unworded held (within held early)
    · obtain ⟨call, _, rfl⟩ := List.mem_map.mp late
      rfl
  rw [declares.entries] at member
  rcases List.mem_append.mp member with segments | nested
  · rcases List.mem_append.mp segments with presence | general
    · exact before (fun entry member => by simp [ValueRules.entries, member]) presence
    · exact before (fun entry member => by simp [ValueRules.entries, member]) general
  · cases taken : start.nested with
    | some kept =>
        rw [taken, Option.some_or, Option.toList_some, List.mem_singleton] at nested
        exact unworded held (by simp [ValueRules.entries, taken, nested])
    | none =>
        rw [taken, Option.none_or, Option.mem_toList, Option.map_eq_some_iff] at nested
        obtain ⟨call, _, rfl⟩ := nested
        rfl

/-- Guards count as long as they accept the same values. -/
theorem report_of_guards (rules : ValueRules) {guards : List Test} {value : Value}
    (accept : (rules.guards.all fun guard => (guard value).value) =
      guards.all fun guard => (guard value).value) (last : Option Slot) (context : Context) :
    (Node.rule (.value { rules with guards, last })).report value context =
      (Node.rule (.value rules)).report value context := by
  have examines : ({ rules with guards, last } : ValueRules).examines value =
      rules.examines value := by
    simp only [ValueRules.examines, accept]
  rw [Node.report_value, Node.report_value, examines]
  rfl

/-- What the same contributions make of the same rules reports the same. -/
theorem Declares.report_congr (declares : start.Declares made declared)
    (redeclares : start.Declares other redeclared) (same : made.SameFor start other)
    (value : Value) (context : Context) :
    (Node.rule (.value redeclared)).report value context =
      (Node.rule (.value declared)).report value context := by
  have nested : start.nested.or (other.nested.map start.nestedEntryOf) =
      start.nested.or (made.nested.map start.nestedEntryOf) := by
    cases free : start.nested with
    | none => rw [same.nested free]
    | some held => rfl
  have accept : (start.guards ++ made.guards).all (fun guard => (guard value).value) =
      (start.guards ++ other.guards).all fun guard => (guard value).value := by
    rw [Bool.eq_iff_iff]
    simp only [List.all_eq_true, List.mem_append, same.guards]
  obtain ⟨_, rfl⟩ := declares
  obtain ⟨last, rfl⟩ := redeclares
  have shape : ({ start.declaring other with last } : ValueRules) =
      { start.declaring made with guards := start.guards ++ other.guards, last } := by
    simp only [declaring, ← same.presence, ← same.general, nested, ← same.mode, ← same.skipsEmpty,
      ← same.preprocess]
  rw [shape]
  exact report_of_guards { start.declaring made with last := _ } accept last context

/-- The second rules are the first ones with contributions of steps, which run in the order of the
segments. -/
structure InOrder (start : ValueRules) (made : Segments) (declared : ValueRules) : Prop where
  entries : declared.entries =
    (start.presence ++ made.presence.map start.entryOf) ++
      (start.general ++ made.general.map start.entryOf) ++
        (start.nested.or (made.nested.map start.nestedEntryOf)).toList
  /-- In every mode, the active entries run one after another on the value that is prepared. -/
  run (value : Value) (context : Context) :
    let scope := declared.scope context
    let run (seen : Value) : Step := declared.mode.run (declared.entries.map fun held =>
      .select (held.isActive scope.ruleSets) (.ruleSkipped held.tag)
        ((Node.entry held).evaluate seen scope))
    (Node.rule (.value declared)).evaluate value context =
      .guarded declared.guards value .valueGuarded
        (if declared.skipsEmpty && value.isEmptyText then .event .emptySkipped
        else declared.preprocess.elim (run value) fun transform =>
          .ask (transform value) fun made => (run made).transient)
  /-- Nothing but the contributions counts, neither for the outcome nor for the journal. -/
  evaluate (value : Value) (context : Context) :
    (Node.rule (.value declared)).evaluate value context =
      (Node.rule (.value (start.declaring made))).evaluate value context
  /-- In mode `all`, every active entry reports what its rule reports alone. -/
  all (value : Value) (context : Context) : declared.mode = .all →
    (∀ held ∈ start.entries, held.message = none) → declared.examines value = true →
      (Node.rule (.value declared)).report value context =
        (declared.entries.filter (·.isActive (declared.scope context).ruleSets)).flatMap fun held =>
          (Node.rule held.rule).report (declared.prepared value) (declared.scope context)

theorem Declares.inOrder (declares : start.Declares made declared) :
    start.InOrder made declared where
  entries := declares.entries
  run := declared.evaluate_entries
  evaluate := declares.evaluate
  all _ context all unworded examines :=
    report_of_all all (declares.unworded unworded) examines context

end ValueRules

theorem PropertyRules.Declares.report_congr {held declared redeclared : PropertyRules}
    {made other : Segments} (declares : held.Declares made declared)
    (redeclares : held.Declares other redeclared) (same : made.SameFor held.rules other)
    (value : Value) (context : Context) :
    (Node.property redeclared).report value context =
      (Node.property declared).report value context := by
  obtain ⟨rules, first, rfl⟩ := declares
  obtain ⟨others, second, rfl⟩ := redeclares
  have reports := first.report_congr second same (held.read value) (held.scope context)
  rw [Node.report_property, Node.report_property]
  exact congrArg (fun report => (held.annotations (held.read value) (held.scope context) ++
    report).map (Failure.below held.member)) reports

/-- Whatever the order of steps on the rules of a value, on a property or on a collection property,
their entries run segment by segment, and steps that contribute the same report the same. -/
theorem segments_run_in_order :
    (∀ (rules : ValueRules) (steps : List ValueStep),
      Level.EachOf ValueStep.Declares (ValueStep.levels steps) →
        rules.InOrder (rules.contributed steps) (ValueStep.runAll steps rules).value) ∧
      (∀ (rules : ValueRules) (steps others : List ValueStep),
        Level.EachOf ValueStep.Declares (ValueStep.levels steps) →
          Level.EachOf ValueStep.Declares (ValueStep.levels others) →
            (rules.contributed steps).SameFor rules (rules.contributed others) →
              ∀ (value : Value) (context : Context),
                ((Node.rule (.value (ValueStep.runAll others rules).value)).failures? value
                    context).value =
                  ((Node.rule (.value (ValueStep.runAll steps rules).value)).failures? value
                    context).value) ∧
      (∀ (held : PropertyRules) (steps : List PropertyStep),
        (∀ step ∈ PropertyStep.ownAll steps, step.Suits held) →
          (held.furnished steps).rules.InOrder (held.contributed steps)
            (PropertyStep.runAll steps held).value.rules) ∧
      ∀ (held : PropertyRules) (steps others : List PropertyStep),
        (∀ step ∈ PropertyStep.ownAll steps, step.Suits held) →
          (∀ step ∈ PropertyStep.ownAll others, step.Suits held) →
            held.furnished steps = held.furnished others →
              (held.contributed steps).SameFor held.rules (held.contributed others) →
                ∀ (value : Value) (context : Context),
                  ((Node.property (PropertyStep.runAll others held).value).failures? value
                      context).value =
                    ((Node.property (PropertyStep.runAll steps held).value).failures? value
                      context).value := by
  refine ⟨?_, ?_, ?_, ?_⟩
  · intro rules steps each
    exact (rules.declares_runAll each).inOrder
  · intro rules steps others each eachOther same value context
    have declares := rules.declares_runAll each
    have redeclares := rules.declares_runAll eachOther
    rw [Node.failures?_value, Node.failures?_value,
      declares.report_congr redeclares same value context]
  · intro held steps each
    obtain ⟨rules, declares, run⟩ := PropertyRules.declares_runAll each
    rw [run]
    exact declares.inOrder
  · intro held steps others each eachOther furnished same value context
    have declares := PropertyRules.declares_runAll each
    have redeclares := PropertyRules.declares_runAll eachOther
    rw [← furnished] at redeclares
    obtain ⟨nested, rules, free⟩ := held.rules_filled
      ((PropertyStep.ownAll steps).findSome? PropertyStep.element?)
      (PropertyStep.lastFilter (PropertyStep.ownAll steps))
    have alike : (held.contributed steps).SameFor (held.furnished steps).rules
        (held.contributed others) := by
      rw [PropertyRules.furnished, rules]
      exact { same with nested := fun none => same.nested (free.mp none) }
    rw [Node.failures?_value, Node.failures?_value,
      declares.report_congr redeclares alike value context]

/-- Tags that have to be there, at least five of them; whatever is nested asks for three. -/
def sizeSteps (first second : Test) : List ValueStep :=
  [.required, .rule (.leaf (.minSize 5)), .nested [.rule (.leaf (.minSize 3))], .guard first,
    .guard second, .mode .all]

/-- The same in another order, with a mode that is replaced and a second attachment. -/
def shuffledSizeSteps (first second : Test) : List ValueStep :=
  [.guard second, .rule (.leaf (.minSize 5)), .mode .failFast,
    .nested [.rule (.leaf (.minSize 3))], .required, .guard first, .nested [.required], .mode .all]

/-- Tags on a property, the rule for its elements first or last. -/
def tagsProperty (steps : List PropertyStep) : PropertyRules :=
  (PropertyStep.runAll steps (.newCollection "Tags" pure)).value

theorem shuffled_sizes_report_alike :
    let tags : Value := .collection .list .string [.string ""]
    let anything : Test := fun _ => pure true
    let present : Test := fun value => pure value.isPresent
    let element : PropertyStep := .element (.value [.required]) false
    let size : PropertyStep := .value (.rule (.leaf (.minSize 5)))
    let report (steps : List ValueStep) : Option Report :=
      ((Node.rule (.value (ValueStep.runAll steps .empty).value)).failures? tags .empty).value
    report (shuffledSizeSteps anything present) = report (sizeSteps anything present) ∧
      (report (sizeSteps anything present)).map List.length = some 2 ∧
      ((Node.property (tagsProperty [element, size])).failures? tags .empty).value =
        ((Node.property (tagsProperty [size, element])).failures? tags .empty).value ∧
      (((Node.property (tagsProperty [size, element])).failures? tags .empty).value).map
        List.length = some 2 := by
  intro tags anything present element size report
  have ⟨_, values, _, properties⟩ := segments_run_in_order
  refine ⟨?_, by decide, ?_, by decide⟩
  · refine values .empty (sizeSteps anything present) (shuffledSizeSteps anything present) ?_ ?_ ?_
      tags .empty
    · exact ⟨trivial, trivial, trivial, trivial, trivial, trivial, trivial⟩
    · exact ⟨trivial, trivial, trivial, trivial, trivial, trivial, trivial, trivial, trivial⟩
    · refine ⟨rfl, rfl, fun _ => rfl, fun test => ?_, rfl, rfl, rfl⟩
      have ordered : (ValueRules.empty.contributed (sizeSteps anything present)).guards =
          [anything, present] := rfl
      have shuffled : (ValueRules.empty.contributed (shuffledSizeSteps anything present)).guards =
          [present, anything] := rfl
      rw [ordered, shuffled]
      exact (List.Perm.swap present anything []).mem_iff
  · have declaring : size.Suits (.newCollection "Tags" pure) := .inl trivial
    have filling : element.Suits (.newCollection "Tags" pure) := .inr ⟨rfl, trivial⟩
    refine properties (.newCollection "Tags" pure) [size, element] [element, size] ?_ ?_ rfl ?_ tags
      .empty
    · exact List.forall_mem_cons.mpr ⟨declaring, List.forall_mem_cons.mpr ⟨filling, nofun⟩⟩
    · exact List.forall_mem_cons.mpr ⟨filling, List.forall_mem_cons.mpr ⟨declaring, nofun⟩⟩
    · exact ⟨rfl, rfl, fun _ => rfl, fun _ => Iff.rfl, rfl, rfl, rfl⟩

end RuleTree
