import RuleTree.Proofs.Declaration.Slots
import RuleTree.Proofs.Tree.FirstFailure
import RuleTree.Proofs.Tree.Indifference

/-!
Collection properties without a rule for their elements. A collection property has a container for
that rule from the start. As long as none is attached the container runs, under no tag, and reports
nothing. Steps that attach nothing make the same of a collection property and of a plain one, but
for this container, so the two report the same, unless the container is taken for a rule that
accepts: in the mode that asks for one such rule.
-/

set_option autoImplicit false

namespace RuleTree

/-! ### Idle containers -/

/-- The entry is a container without a rule for elements, under no tag. -/
structure RuleEntry.Idle (held : RuleEntry) : Prop where
  untagged : held.tag = none
  container : ∃ elements, held.rule = .elements elements ∧ elements.element = none

namespace RuleEntry.Idle

variable {held : RuleEntry}

theorem report (idle : held.Idle) (value : Value) (context : Context) :
    (Node.entry held).report value context = [] := by
  obtain ⟨_, elements, same, absent⟩ := idle
  rw [Node.report_entry, same, Node.report_elements, absent]
  rfl

theorem edit (idle : held.Idle) (step : ValueStep) (rules : ValueRules) :
    (step.edit rules held).Idle where
  untagged := (step.tag_edit rules held).trans idle.untagged
  container := by
    obtain ⟨_, elements, same, absent⟩ := idle
    rcases step.rule_edit rules held with kept | ⟨sets, inherited⟩ | ⟨resolver, _, bound⟩
    · exact ⟨elements, kept.trans same, absent⟩
    · refine ⟨elements.inherit sets, by rw [inherited, same, Rule.inherit], ?_⟩
      rw [← Option.isNone_iff_eq_none, ← Option.not_isSome, elements.isSome_element_inherit, absent]
      rfl
    · refine ⟨elements.bind resolver, by rw [bound, same, Rule.bind], ?_⟩
      rw [ElementRules.bind_eq, absent]
      rfl

end RuleEntry.Idle

/-- A step that accepts, besides all others, makes no difference but in mode `any`. -/
theorem Mode.merge_concat_nil {α : Type} (mode : Mode) (reports : List (List α)) :
    mode.merge (reports ++ [[]]) = if mode = .any then [] else mode.merge reports := by
  cases mode <;> simp [merge]

/-! ### Rules of a value with an idle container -/

/-- The second rules are the first ones with an idle container, where those have nothing nested. -/
def ValueRules.Idles (rules collected : ValueRules) : Prop :=
  rules.nested = none ∧ ∃ held : RuleEntry, held.Idle ∧ collected = { rules with nested := some held }

/-- The step goes on with the validator and attaches nothing to it. -/
def ValueStep.Unattaching (step : ValueStep) : Prop := step.Continues ∧ ¬ step.Attaches

namespace ValueRules.Idles

variable {rules collected : ValueRules}

theorem run (idles : rules.Idles collected) {step : ValueStep} (unattaching : step.Unattaching) :
    (step.run rules).value.Idles (step.run collected).value := by
  obtain ⟨free, held, idle, rfl⟩ := idles
  have edited (nested : Option RuleEntry) : (step.run { rules with nested }).value =
      { (step.run rules).value with nested := nested.map (step.edit rules) } :=
    ValueStep.run_nested unattaching.1 fun attaches => absurd attaches unattaching.2
  have bare : { rules with nested := none } = rules := by
    rw [← free]
    cases rules
    rfl
  refine ⟨?_, step.edit rules held, idle.edit step rules, edited (some held)⟩
  rw [← bare, edited none]
  rfl

theorem runAll (idles : rules.Idles collected) {levels : List (Level ValueStep)}
    (unattaching : Level.EachOf ValueStep.Unattaching levels) :
    (Level.runAll ValueStep.machine levels rules).Idles
      (Level.runAll ValueStep.machine levels collected) := by
  refine Level.runAll_relates ValueStep.Unattaching Idles (fun allowed idles => idles.run allowed)
    (fun sets idles => ?_) (fun before after => ?_) unattaching idles
  · obtain ⟨free, held, idle, rfl⟩ := idles
    exact ⟨free, held, idle, rfl⟩
  · obtain ⟨_, _, _, rfl⟩ := before
    obtain ⟨free, held, idle, rfl⟩ := after
    exact ⟨free, held, idle, rfl⟩

theorem report (idles : rules.Idles collected) (value : Value) (context : Context) :
    (Node.rule (.value collected)).report value context =
      if rules.mode = .any then [] else (Node.rule (.value rules)).report value context := by
  obtain ⟨free, held, idle, rfl⟩ := idles
  have runs (selector : Option RuleSets) : held.isActive selector = true := by
    rw [RuleEntry.isActive, idle.untagged]
    rfl
  have entries : ({ rules with nested := some held } : ValueRules).entries =
      rules.entries ++ [held] := by
    rw [ValueRules.entries, ValueRules.entries, free, Option.toList_none, List.append_nil]
    rfl
  rw [Node.report_value, entries, List.filter_append, List.map_append, List.filter_singleton, runs,
    cond_true, List.map_singleton, idle.report, Mode.merge_concat_nil, Node.report_value]
  by_cases any : rules.mode = .any
  · simp only [any, ↓reduceIte, ite_self]
  · simp only [any, ↓reduceIte]
    rfl

end ValueRules.Idles

/-! ### Properties with an idle container -/

/-- The second property is the first one with an idle container in its rules. -/
def PropertyRules.Idles (held collected : PropertyRules) : Prop :=
  ∃ rules, held.rules.Idles rules ∧ collected = { held with rules }

/-- The step attaches nothing to the property, neither to its rules nor to its elements. -/
def PropertyStep.Unattaching : PropertyStep → Prop
  | .value step => step.level.Each ValueStep.Unattaching
  | .nested .. | .element .. => False
  | _ => True

namespace PropertyRules.Idles

variable {held collected : PropertyRules}

theorem value_run (idles : held.Idles collected) {step : ValueStep}
    (unattaching : step.level.Each ValueStep.Unattaching) :
    (PropertyStep.run (.value step) held).value.Idles
      (PropertyStep.run (.value step) collected).value := by
  obtain ⟨rules, idle, rfl⟩ := idles
  refine ⟨(step.run rules).value, ?_, rfl⟩
  change (step.run held.rules).value.Idles (step.run rules).value
  rw [ValueStep.run_level, ValueStep.run_level]
  exact idle.runAll ⟨unattaching, trivial⟩

theorem bind (idles : held.Idles collected) (resolver : Resolver) :
    (held.bind resolver).Idles (collected.bind resolver) := by
  have bound (held : PropertyRules) :
      (PropertyStep.run (.value (.bind resolver)) held).value = held.bind resolver := by
    rw [held.bind_eq]
    rfl
  rw [← bound, ← bound]
  exact idles.value_run ⟨trivial, nofun⟩

/-- A filter of the elements that are not there stays in the container. -/
theorem setFilter (idles : held.Idles collected) (test : Test) :
    held.Idles (collected.setFilter test) := by
  obtain ⟨_, ⟨free, entry, idle, rfl⟩, rfl⟩ := idles
  obtain ⟨elements, container, absent⟩ := idle.container
  have found : PropertyRules.elements?
      { held with rules := { held.rules with nested := some entry } } = some elements :=
    PropertyRules.elements?_iff.mpr ⟨entry, rfl, container⟩
  have still := elements.isSome_element_handed held.tag
  rw [absent] at still
  rw [PropertyRules.setFilter_of_some found]
  let filtered : RuleEntry :=
    { entry with rule := .elements ((elements.handed held.tag).setFilter test) }
  have kept : filtered.Idle :=
    ⟨idle.untagged, _, rfl, Option.not_isSome_iff_eq_none.mp (Bool.eq_false_iff.mp still)⟩
  exact ⟨{ held.rules with nested := some filtered }, ⟨free, filtered, kept, rfl⟩, rfl⟩

theorem run (idles : held.Idles collected) {step : PropertyStep}
    (plain : ∀ steps, step ≠ .property steps) (unattaching : step.Unattaching) :
    (step.run held).value.Idles (step.run collected).value := by
  cases step with
  | value step => exact idles.value_run unattaching
  | member | display | skipAnnotations =>
      obtain ⟨rules, idle, rfl⟩ := idles
      exact ⟨rules, idle, rfl⟩
  | filter test =>
      have ⟨_, ⟨free, _⟩, _⟩ := idles
      have missing : held.elements? = none := by rw [PropertyRules.elements?, free]
      have kept : (PropertyStep.run (.filter test) held).value = held := by
        rw [PropertyStep.run, PropertyRules.setFilter, PropertyRules.openElements_of_none missing]
        rfl
      rw [kept]
      exact idles.setFilter test
  | nested reach target steps => exact unattaching.elim
  | element form deferred => exact unattaching.elim
  | property steps => exact absurd rfl (plain steps)
  | tellMember => exact idles
  | info => exact idles

theorem runAll (idles : held.Idles collected) {steps : List PropertyStep}
    (unattaching : ∀ step ∈ PropertyStep.ownAll steps, step.Unattaching) :
    (PropertyStep.runAll steps held).value.Idles (PropertyStep.runAll steps collected).value :=
  PropertyStep.runAll_relates PropertyStep.Unattaching PropertyRules.Idles
    (fun plain unattaching idles => idles.run plain unattaching) unattaching held collected idles

/-- A collection property is declared with an idle container. -/
theorem declared (rules : ObjectRules) (name : String) (accessor : Value → Logged Value) :
    (rules.declared (.new name accessor)).Idles (rules.declared (.newCollection name accessor)) := by
  have idles (tag : Option RuleSets) : PropertyRules.Idles
      { PropertyRules.new name accessor with tag }
      { PropertyRules.newCollection name accessor with tag } :=
    ⟨_, ⟨rfl, _, ⟨rfl, .empty, rfl, rfl⟩, rfl⟩, rfl⟩
  unfold ObjectRules.declared ObjectRules.bindOwn
  cases rules.resolver with
  | none => exact idles _
  | some resolver => exact (idles _).bind resolver

theorem report (idles : held.Idles collected) (value : Value) (context : Context) :
    (Node.property collected).report value context =
      (held.annotations (held.read value) (held.scope context) ++
        if held.rules.mode = .any then [] else
          (Node.rule (.value held.rules)).report (held.read value) (held.scope context)).map
            (Failure.below held.member) := by
  obtain ⟨rules, idle, rfl⟩ := idles
  rw [Node.report_property]
  change (held.annotations (held.read value) (held.scope context) ++
    (Node.rule (.value rules)).report (held.read value) (held.scope context)).map _ = _
  rw [idle.report]
  rfl

/-- The idle container is noticed if nothing but it accepts in mode `any`. -/
theorem report_eq_iff (idles : held.Idles collected) (value : Value) (context : Context) :
    (Node.property collected).report value context = (Node.property held).report value context ↔
      (held.rules.mode = .any →
        (Node.rule (.value held.rules)).report (held.read value) (held.scope context) = []) := by
  rw [idles.report, Node.report_property]
  by_cases any : held.rules.mode = .any
  · rw [if_pos any]
    constructor
    · intro same _
      have lengths := congrArg List.length same
      simp only [List.append_nil, List.length_map, List.length_append] at lengths
      exact List.eq_nil_of_length_eq_zero (by omega)
    · intro accepts
      rw [accepts any]
  · rw [if_neg any]
    exact iff_of_true rfl fun same => absurd same any

theorem report_object (idles : held.Idles collected) (stricter : held.rules.mode ≠ .any)
    (rules : ObjectRules) (before after : List PropertyRules) (value : Value) (context : Context) :
    (Node.object { rules with properties := before ++ collected :: after }).report value context =
      (Node.object { rules with properties := before ++ held :: after }).report value context := by
  have reports (value : Value) (context : Context) :=
    (idles.report_eq_iff value context).mpr fun any => absurd any stricter
  obtain ⟨_, _, rfl⟩ := idles
  refine @Node.report_object_of_properties { rules with properties := before ++ held :: after } _
    value context ?_
  refine List.rel_append ?_ (.cons ⟨rfl, rfl, fun _ => reports _ _⟩ ?_)
  · exact List.forall₂_same.mpr fun _ _ => ⟨rfl, rfl, fun _ => rfl⟩
  · exact List.forall₂_same.mpr fun _ _ => ⟨rfl, rfl, fun _ => rfl⟩

end PropertyRules.Idles

/-- A collection property to which no rule for its elements has been attached reports what a plain
property reports after the same steps, unless its mode is `any` and none of its rules accepts. In any
other mode an object may have the one in place of the other. -/
theorem collection_reports_as_plain (rules : ObjectRules) (name : String)
    (accessor : Value → Logged Value) {steps : List PropertyStep}
    (unattaching : ∀ step ∈ PropertyStep.ownAll steps, step.Unattaching) :
    let plain := (PropertyStep.runAll steps (rules.declared (.new name accessor))).value
    let collected := (PropertyStep.runAll steps (rules.declared (.newCollection name accessor))).value
    (∀ (value : Value) (context : Context),
      ((Node.property collected).failures? value context).value =
          ((Node.property plain).failures? value context).value ↔
        (plain.rules.mode = .any → (Node.rule (.value plain.rules)).report (plain.read value)
          (plain.scope context) = [])) ∧
    (plain.rules.mode ≠ .any →
      ∀ (before after : List PropertyRules) (value : Value) (context : Context),
        ((Node.object { rules with properties := before ++ collected :: after }).failures? value
            context).value =
          ((Node.object { rules with properties := before ++ plain :: after }).failures? value
            context).value) := by
  have idles := (PropertyRules.Idles.declared rules name accessor).runAll unattaching
  refine ⟨fun value context => ?_, fun stricter before after value context => ?_⟩
  · rw [← idles.report_eq_iff value context, ← Node.failures?_getD, ← Node.failures?_getD]
    refine ⟨fun same => by rw [same], fun same => ?_⟩
    rw [Node.failures?_getD, Node.failures?_getD] at same
    rw [Node.failures?_value, Node.failures?_value, same]
  · rw [Node.failures?_value, Node.failures?_value,
      idles.report_object stricter rules before after value context]

/-- At least five tags, and at least three, under a mode. -/
def tagSteps (mode : Mode) : List PropertyStep :=
  [.value (.rule (.leaf (.minSize 5))), .value (.rule (.leaf (.minSize 3))), .value (.mode mode)]

theorem tagSteps_unattaching (mode : Mode) :
    ∀ step ∈ PropertyStep.ownAll (tagSteps mode), step.Unattaching := by
  intro step member
  simp only [tagSteps, PropertyStep.ownAll, PropertyStep.own, List.cons_append, List.nil_append,
    List.mem_cons, List.not_mem_nil, or_false] at member
  rcases member with rfl | rfl | rfl <;> exact ⟨trivial, nofun⟩

/-- What a property that is declared by these steps reports of a single tag. -/
def reportOfTags (mode : Mode) (new : String → (Value → Logged Value) → PropertyRules) :
    Option Report :=
  let declared := (ObjectRules.empty (.record "Order")).declared (new "Tags" pure)
  ((Node.property (PropertyStep.runAll (tagSteps mode) declared).value).failures?
    (.collection .list .string [.string "new"]) .empty).value

/-- With both rules, or the first of them, the container goes unnoticed. -/
theorem tags_report_as_plain :
    reportOfTags .all .newCollection = reportOfTags .all .new ∧
      reportOfTags .failFast .newCollection = reportOfTags .failFast .new ∧
      (reportOfTags .all .new).map List.length = some 2 ∧
      (reportOfTags .failFast .new).map List.length = some 1 := by
  have reports (mode : Mode) := (collection_reports_as_plain (.empty (.record "Order")) "Tags" pure
    (tagSteps_unattaching mode)).1 (.collection .list .string [.string "new"]) .empty
  exact ⟨(reports .all).mpr nofun, (reports .failFast).mpr nofun, by decide, by decide⟩

/-- If one rule is enough, the container is the one that accepts. -/
theorem tags_accepted_by_container :
    (∀ step ∈ PropertyStep.ownAll (tagSteps .any), step.Unattaching) ∧
      reportOfTags .any .newCollection = none ∧
      (reportOfTags .any .new).map List.length = some 2 :=
  ⟨tagSteps_unattaching .any, by decide, by decide⟩

end RuleTree
