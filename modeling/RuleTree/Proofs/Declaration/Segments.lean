import RuleTree.Proofs.Declaration.Program
import RuleTree.Proofs.Declaration.Slots

/-!
What steps contribute to the segments of a validator. Each segment gets its rules in the order of
the steps that declare them, whatever stands between these; of the nested validators the first one
counts, of the modes and of the transforms the last one.
-/

set_option autoImplicit false

namespace RuleTree

/-- A rule with the rule sets of the scope in which it is declared. -/
structure TaggedRule where
  rule : Rule
  tag : Option RuleSets

/-- The contributions of steps, segment by segment and setting by setting. -/
structure Segments where
  presence : List TaggedRule
  general : List TaggedRule
  nested : Option TaggedRule
  guards : List Test
  mode : Option Mode
  skipsEmpty : Bool
  preprocess : Option (Value → Logged Value)

namespace Segments

def empty : Segments := ⟨[], [], none, [], none, false, none⟩

/-- The contributions of steps and of later ones. -/
def append (early late : Segments) : Segments where
  presence := early.presence ++ late.presence
  general := early.general ++ late.general
  nested := early.nested.or late.nested
  guards := early.guards ++ late.guards
  mode := late.mode.or early.mode
  skipsEmpty := early.skipsEmpty || late.skipsEmpty
  preprocess := late.preprocess.or early.preprocess

theorem append_empty (made : Segments) : made.append .empty = made := by
  simp [append, empty]

end Segments

namespace ValueRules

/-- The entry of a rule that is declared under a tag. -/
def entryOf (rules : ValueRules) (declared : TaggedRule) : RuleEntry :=
  { rules.entry declared.rule with tag := declared.tag }

/-- The entry of a validator that is nested under a tag: it is handed the tag, or else what the
rules inherited. -/
def nestedEntryOf (rules : ValueRules) (declared : TaggedRule) : RuleEntry :=
  rules.entryOf { declared with
    rule := handOn (declared.tag.or rules.inherited) declared.rule }

/-- The rules with what steps contribute to them. -/
def declaring (rules : ValueRules) (made : Segments) : ValueRules :=
  { rules with
    presence := rules.presence ++ made.presence.map rules.entryOf
    general := rules.general ++ made.general.map rules.entryOf
    nested := rules.nested.or (made.nested.map rules.nestedEntryOf)
    guards := rules.guards ++ made.guards
    mode := made.mode.getD rules.mode
    skipsEmpty := rules.skipsEmpty || made.skipsEmpty
    preprocess := made.preprocess.or rules.preprocess }

/-- The second rules are the first ones with what steps contribute, whichever entry came last. -/
def Declares (rules : ValueRules) (made : Segments) (declared : ValueRules) : Prop :=
  ∃ last, declared = { rules.declaring made with last }

theorem declares_empty (rules : ValueRules) : rules.Declares .empty rules := by
  refine ⟨rules.last, ?_⟩
  simp only [declaring, Segments.empty, List.map_nil, List.append_nil, Option.map_none,
    Option.or_none, Option.getD_none, Bool.or_false, Option.none_or]
  cases rules
  rfl

theorem Declares.append {rules middle after : ValueRules} {early late : Segments}
    (first : rules.Declares early middle) (second : middle.Declares late after) :
    rules.Declares (early.append late) after := by
  obtain ⟨_, rfl⟩ := first
  obtain ⟨last, rfl⟩ := second
  refine ⟨last, ?_⟩
  simp only [declaring, Segments.append, List.map_append, ← List.append_assoc, Option.map_or,
    Option.or_assoc, Bool.or_assoc, Option.getD_or]
  rfl

theorem Declares.current {rules declared : ValueRules} {made : Segments}
    (declares : rules.Declares made declared) :
    declared.stack.current = rules.stack.current := by
  obtain ⟨_, rfl⟩ := declares
  rfl

end ValueRules

/-! ### Steps on the rules of a value -/

namespace ValueStep

/-- The step declares a rule, attaches one or changes a setting, and sets no message; or it only
asks for something. -/
def Declares : ValueStep → Prop
  | .message _ | .defaultMessage _ | .inherit _ | .bind _ | .scope .. | .replace _ => False
  | _ => True

/-- What a step contributes in a scope of the rule sets. -/
def segments (tag : Option RuleSets) : ValueStep → Segments
  | .rule form =>
    { Segments.empty with general := form.build.value.toList.map fun rule => ⟨rule, tag⟩ }
  | .contextual leaf => { Segments.empty with general := [⟨.contextual leaf, tag⟩] }
  | .required => { Segments.empty with presence := [⟨.presence, tag⟩] }
  | .presence form =>
    { Segments.empty with presence := form.build.value.toList.map fun rule => ⟨rule, tag⟩ }
  | .nested steps =>
    { Segments.empty with nested := some ⟨.value (runAll steps .empty).value, tag⟩ }
  | .attach form _ _ =>
    { Segments.empty with nested := form.build.value.map fun rule => ⟨rule, tag⟩ }
  | .guard test => { Segments.empty with guards := [test] }
  | .mode given => { Segments.empty with mode := some given }
  | .allowEmpty => { Segments.empty with skipsEmpty := true }
  | .preprocess transform => { Segments.empty with preprocess := some transform }
  | _ => .empty

mutual

/-- What a level contributes; a scope whose names are refused contributes nothing. -/
def segmentsOf (tag : Option RuleSets) : Level ValueStep → Segments
  | .act step => step.segments tag
  | .scope names body _ =>
    match names.required with
    | .ok sets => segmentsOfAll (some sets) body
    | .error _ => .empty

def segmentsOfAll (tag : Option RuleSets) : List (Level ValueStep) → Segments
  | [] => .empty
  | level :: rest => (segmentsOf tag level).append (segmentsOfAll tag rest)

end

end ValueStep

namespace ValueRules

variable (rules : ValueRules)

theorem declares_pushRule (rule : Rule) :
    rules.Declares { Segments.empty with general := [⟨rule, rules.stack.current⟩] }
      (rules.pushRule rule) :=
  ⟨_, by simp [declaring, Segments.empty, pushRule, entryOf, entry]; rfl⟩

theorem declares_pushPresence (rule : Rule) :
    rules.Declares { Segments.empty with presence := [⟨rule, rules.stack.current⟩] }
      (rules.pushPresence rule) :=
  ⟨_, by simp [declaring, Segments.empty, pushPresence, entryOf, entry]; rfl⟩

theorem declares_addGuard (test : Test) :
    rules.Declares { Segments.empty with guards := [test] } (rules.addGuard test) :=
  ⟨rules.last, by simp [declaring, Segments.empty, addGuard]⟩

theorem declares_setMode (mode : Mode) :
    rules.Declares { Segments.empty with mode := some mode } (rules.setMode mode) :=
  ⟨rules.last, by simp [declaring, Segments.empty, setMode]⟩

theorem declares_allowEmpty :
    rules.Declares { Segments.empty with skipsEmpty := true } rules.allowEmpty :=
  ⟨rules.last, by simp [declaring, Segments.empty, allowEmpty]⟩

theorem declares_setPreprocess (transform : Value → Logged Value) :
    rules.Declares { Segments.empty with preprocess := some transform }
      (rules.setPreprocess transform) :=
  ⟨rules.last, by simp [declaring, Segments.empty, setPreprocess]⟩

/-- What is attached takes a free slot; a taken one stays as it is. -/
theorem declares_attachNested (rule : Rule) (site alternative : String) :
    rules.Declares { Segments.empty with nested := some ⟨rule, rules.stack.current⟩ }
      (Built.settle rules (rules.attachNested rule site alternative)).value := by
  cases taken : rules.nested.isSome with
  | true =>
      obtain ⟨held, nested⟩ := Option.isSome_iff_exists.mp taken
      rw [attachNested_of_taken taken]
      refine ⟨rules.last, ?_⟩
      cases rules
      simp only at nested
      simp [declaring, Segments.empty, nested, Built.settle, Built.reply]
  | false =>
      rw [attachNested_of_free taken]
      have free : rules.nested = none :=
        Option.isNone_iff_eq_none.mp (Option.isSome_eq_false_iff.mp taken)
      refine ⟨some .nested, ?_⟩
      simp [declaring, Segments.empty, nesting, free, Built.settle, Built.reply, nestedEntryOf,
        entryOf, entry, selectorForNested]

end ValueRules

namespace ValueStep

theorem run_declares {step : ValueStep} (declares : step.Declares) (rules : ValueRules) :
    rules.Declares (step.segments rules.stack.current) (step.run rules).value := by
  cases step with
  | rule form =>
      simp only [run, Built.bind, segments]
      cases form.build.value with
      | none => exact rules.declares_empty
      | some rule => exact rules.declares_pushRule rule
  | contextual leaf => exact rules.declares_pushRule (.contextual leaf)
  | required => exact rules.declares_pushPresence .presence
  | presence form =>
      simp only [run, Built.bind, segments]
      cases form.build.value with
      | none => exact rules.declares_empty
      | some rule => exact rules.declares_pushPresence rule
  | nested steps => exact rules.declares_attachNested _ _ _
  | attach form site alternative =>
      simp only [run, Built.bind, segments]
      cases form.build.value with
      | none => exact rules.declares_empty
      | some rule => exact rules.declares_attachNested rule site alternative
  | guard test => exact rules.declares_addGuard test
  | mode mode => exact rules.declares_setMode mode
  | allowEmpty => exact rules.declares_allowEmpty
  | preprocess transform => exact rules.declares_setPreprocess transform
  | info => exact rules.declares_empty
  | message | defaultMessage | inherit | bind | scope | replace => exact declares.elim

/-- A scope is left as it was entered. -/
theorem leave_declares {rules inside : ValueRules} {sets : RuleSets} {made : Segments}
    (declares : (rules.enter sets).Declares made inside) :
    rules.Declares made (machine.leave rules inside) := by
  obtain ⟨last, rfl⟩ := declares
  refine ⟨last, ?_⟩
  simp only [machine, ValueRules.leaveTo, ValueRules.enter, ValueRules.declaring,
    ScopeStack.leaveTo_enter]
  rfl

theorem levels_declare {levels : List (Level ValueStep)} (each : Level.EachOf Declares levels)
    (rules : ValueRules) :
    rules.Declares (segmentsOfAll rules.stack.current levels)
      (Level.runAll machine levels rules) := by
  induction levels using Level.induction generalizing rules with
  | nil => exact rules.declares_empty
  | act step rest ih =>
      -- No step changes the scope, so what comes later is declared under the same tag.
      have first := run_declares each.1 rules
      have later := ih each.2 (step.run rules).value
      rw [first.current] at later
      exact first.append later
  | scope names body fails rest bodyIH restIH =>
      simp only [Level.runAll, Level.run, segmentsOfAll, segmentsOf]
      cases names.required with
      | error error => exact rules.declares_empty.append (restIH each.2 rules)
      | ok sets =>
          have first := leave_declares (bodyIH each.1 (rules.enter sets))
          have later := restIH each.2
            (machine.leave rules (Level.runAll machine body (rules.enter sets)))
          rw [first.current] at later
          exact first.append later

end ValueStep

namespace ValueRules

/-- What steps contribute to the rules. -/
def contributed (rules : ValueRules) (steps : List ValueStep) : Segments :=
  ValueStep.segmentsOfAll rules.stack.current (ValueStep.levels steps)

theorem declares_runAll (rules : ValueRules) {steps : List ValueStep}
    (each : Level.EachOf ValueStep.Declares (ValueStep.levels steps)) :
    rules.Declares (rules.contributed steps) (ValueStep.runAll steps rules).value := by
  rw [ValueStep.reading.runAll_levels]
  exact ValueStep.levels_declare each rules

end ValueRules

/-! ### Steps on a property -/

namespace PropertyStep

/-- The step declares something of the value of the property; what the property is called stays. -/
def Declares : PropertyStep → Prop
  | .value step => step.level.Each ValueStep.Declares
  | .nested .. | .tellMember | .info => True
  | _ => False

/-- What a step contributes to the rules of a property of the tag, in a scope of the rule sets. -/
def segments (tag scope : Option RuleSets) : PropertyStep → Segments
  | .value step => ValueStep.segmentsOf scope step.level
  | .nested reach target steps =>
    { Segments.empty with
      nested :=
        some ⟨ValueRules.handOn tag (.object reach (ObjectStep.runAll steps (.empty target)).value),
          scope⟩ }
  | _ => .empty

def segmentsOfAll (tag scope : Option RuleSets) (steps : List PropertyStep) : Segments :=
  steps.foldr (fun step => (step.segments tag scope).append) .empty

end PropertyStep

/-- The second property is the first one with what steps contribute to its rules. -/
def PropertyRules.Declares (held : PropertyRules) (made : Segments) (declared : PropertyRules) :
    Prop :=
  ∃ rules, held.rules.Declares made rules ∧ declared = { held with rules }

theorem PropertyRules.declares_empty (held : PropertyRules) : held.Declares .empty held := by
  refine ⟨held.rules, held.rules.declares_empty, ?_⟩
  cases held
  rfl

theorem PropertyRules.Declares.append {held middle after : PropertyRules} {early late : Segments}
    (first : held.Declares early middle) (second : middle.Declares late after) :
    held.Declares (early.append late) after := by
  obtain ⟨_, begun, rfl⟩ := first
  obtain ⟨rules, ended, rfl⟩ := second
  exact ⟨rules, begun.append ended, rfl⟩

theorem PropertyRules.Declares.around {held declared : PropertyRules} {made : Segments}
    (declares : held.Declares made declared) :
    declared.tag = held.tag ∧ declared.rules.stack.current = held.rules.stack.current := by
  obtain ⟨rules, begun, rfl⟩ := declares
  exact ⟨rfl, begun.current⟩

namespace PropertyStep

theorem value_declares {step : ValueStep} (declares : step.level.Each ValueStep.Declares)
    (held : PropertyRules) :
    held.Declares (ValueStep.segmentsOf held.rules.stack.current step.level)
      (run (.value step) held).value := by
  have each : Level.EachOf ValueStep.Declares [step.level] := ⟨declares, trivial⟩
  have whole := ValueStep.levels_declare each held.rules
  rw [← ValueStep.run_level, ValueStep.segmentsOfAll, ValueStep.segmentsOfAll,
    Segments.append_empty] at whole
  exact ⟨_, whole, rfl⟩

theorem nested_declares (reach : Reach) (target : Ty) (steps : List ObjectStep)
    (held : PropertyRules) :
    held.Declares (segments held.tag held.rules.stack.current (.nested reach target steps))
      (run (.nested reach target steps) held).value := by
  refine ⟨_, held.rules.declares_attachNested _ held.site "child_rules", ?_⟩
  simp only [run, Built.bind, PropertyRules.setValidator]
  cases held.rules.attachNested _ held.site "child_rules" with
  | ok rules => rfl
  | error error =>
      cases held
      rfl

theorem run_declares {step : PropertyStep} (declares : step.Declares) (held : PropertyRules) :
    held.Declares (step.segments held.tag held.rules.stack.current) (step.run held).value := by
  cases step with
  | value step => exact value_declares declares held
  | nested reach target steps => exact nested_declares reach target steps held
  | tellMember => exact held.declares_empty
  | info => exact held.declares_empty
  | member | display | skipAnnotations | element | filter | property => exact declares.elim

theorem runAll_declares {steps : List PropertyStep} (each : ∀ step ∈ steps, step.Declares)
    (held : PropertyRules) :
    held.Declares (segmentsOfAll held.tag held.rules.stack.current steps)
      (runAll steps held).value := by
  induction steps generalizing held with
  | nil => exact held.declares_empty
  | cons step rest ih =>
      have ⟨declares, others⟩ := List.forall_mem_cons.mp each
      have first := run_declares declares held
      have later := ih others (step.run held).value
      rw [first.around.1, first.around.2] at later
      exact first.append later

end PropertyStep

/-! ### Steps on a collection property -/

namespace ElementRules

/-- A rule as it is attached to a container. -/
def fitted (rules : ElementRules) (element : Rule) : Rule :=
  match rules.resolver with
  | some resolver => (ValueRules.handOn rules.inherited element).bind resolver
  | none => ValueRules.handOn rules.inherited element

/-- A container that is opened under a tag for a rule for the elements or a filter, or both. A rule
that it has stays, while its filter is replaced. -/
def filled (tag : Option RuleSets) (rules : ElementRules) (element : Option Rule)
    (filter : Option Test) : ElementRules :=
  if element.isNone && filter.isNone then rules
  else
    { rules.handed tag with
      element := (rules.handed tag).element.or (element.map (rules.handed tag).fitted)
      filter := filter.or (rules.handed tag).filter }

variable (tag : Option RuleSets) (rules : ElementRules)

theorem filled_none : rules.filled tag none none = rules := rfl

theorem filled_of_touched {element : Option Rule} {filter : Option Test}
    (touched : ¬ (element.isNone && filter.isNone) = true) :
    rules.filled tag element filter =
      { rules.handed tag with
        element := (rules.handed tag).element.or (element.map (rules.handed tag).fitted)
        filter := filter.or (rules.handed tag).filter } := by
  rw [filled, if_neg touched]

theorem filled_of_taken (taken : rules.element.isSome = true) (element : Rule) :
    rules.filled tag (some element) none = rules.handed tag := by
  have still := (rules.isSome_element_handed tag).trans taken
  obtain ⟨there, same⟩ := Option.isSome_iff_exists.mp still
  rw [filled_of_touched tag rules (by simp), same, Option.some_or, Option.none_or, ← same]
  cases rules.handed tag
  rfl

theorem filled_of_free (free : rules.element.isSome = false) (element : Rule) :
    rules.filled tag (some element) none = (rules.handed tag).attaching element := by
  have still := (rules.isSome_element_handed tag).trans free
  rw [Option.isSome_eq_false_iff, Option.isNone_iff_eq_none] at still
  rw [filled_of_touched tag rules (by simp), still, Option.none_or, Option.none_or]
  rfl

theorem filled_filter (test : Test) :
    rules.filled tag none (some test) = (rules.handed tag).setFilter test := by
  rw [filled_of_touched tag rules (by simp), Option.map_none, Option.or_none, Option.some_or]
  rfl

theorem handed_of_handed (element : Option Rule) (filter : Option Test) :
    ({ rules.handed tag with element, filter } : ElementRules).handed tag =
      { rules.handed tag with element, filter } := by
  cases tag with
  | none => rfl
  | some sets => exact inherit_of_kept sets (rules.inherited_inherit sets)

/-- Of the rules for the elements the first one counts, of the filters the last one. -/
theorem filled_filled (first second : Option Rule) (filter later : Option Test) :
    (rules.filled tag first filter).filled tag second later =
      rules.filled tag (first.or second) (later.or filter) := by
  -- Filling with nothing does not even hand on the tag, so the general equation needs both to bring
  -- something.
  by_cases untouched : (first.isNone && filter.isNone) = true
  · obtain ⟨noRule, noFilter⟩ := Bool.and_eq_true_iff.mp untouched
    rw [Option.isNone_iff_eq_none] at noRule noFilter
    rw [noRule, noFilter, filled_none, Option.none_or, Option.or_none]
  by_cases idle : (second.isNone && later.isNone) = true
  · obtain ⟨noRule, noFilter⟩ := Bool.and_eq_true_iff.mp idle
    rw [Option.isNone_iff_eq_none] at noRule noFilter
    rw [noRule, noFilter, filled_none, Option.or_none, Option.none_or]
  have touched : ¬ ((first.or second).isNone && (later.or filter).isNone) = true := by
    cases first <;> cases filter <;> simp_all
  rw [filled_of_touched tag _ idle, filled_of_touched tag rules untouched,
    filled_of_touched tag rules touched, handed_of_handed, Option.map_or, Option.or_assoc,
    Option.or_assoc]
  rfl

end ElementRules

namespace PropertyStep

/-- The step declares something of the value, or of the elements of a collection. -/
def Fills : PropertyStep → Prop
  | .element .. | .filter _ => True
  | step => step.Declares

/-- The rule for the elements that a step brings. -/
def element? : PropertyStep → Option Rule
  | .element form _ => some form.build.value
  | _ => none

def filter? : PropertyStep → Option Test
  | .filter test => some test
  | _ => none

/-- The last filter that steps set. -/
def lastFilter : List PropertyStep → Option Test
  | [] => none
  | step :: rest => (lastFilter rest).or step.filter?

end PropertyStep

namespace PropertyRules

variable {held : PropertyRules} {elements : ElementRules}

theorem Declares.elements? {declared : PropertyRules} {made : Segments}
    (declares : held.Declares made declared) (found : held.elements? = some elements) :
    declared.elements? = some elements := by
  obtain ⟨entry, nested, same⟩ := elements?_iff.mp found
  obtain ⟨_, ⟨last, rfl⟩, rfl⟩ := declares
  refine elements?_iff.mpr ⟨entry, ?_, same⟩
  simp only [ValueRules.declaring, nested, Option.some_or]

/-- What steps contribute gets in the way of no exchange of the container. -/
theorem Declares.putElements {declared : PropertyRules} {made : Segments}
    (declares : held.Declares made declared) (found : held.elements? = some elements)
    (changed : ElementRules) :
    (held.putElements changed).Declares made (declared.putElements changed) := by
  obtain ⟨entry, nested, _⟩ := elements?_iff.mp found
  obtain ⟨_, ⟨last, rfl⟩, rfl⟩ := declares
  refine ⟨_, ⟨last, rfl⟩, ?_⟩
  simp only [PropertyRules.putElements, modifyRules, ValueRules.declaring, nested, Option.some_or,
    Option.map_some]
  rfl

end PropertyRules

namespace PropertyStep

variable {held : PropertyRules} {elements : ElementRules}

theorem run_fills {step : PropertyStep} (fills : step.Fills)
    (found : held.elements? = some elements) :
    (held.putElements (elements.filled held.tag step.element? step.filter?)).Declares
      (step.segments held.tag held.rules.stack.current) (step.run held).value := by
  have declaring (declares : step.Declares) (noRule : step.element? = none)
      (noFilter : step.filter? = none) :
      (held.putElements (elements.filled held.tag step.element? step.filter?)).Declares
        (step.segments held.tag held.rules.stack.current) (step.run held).value := by
    rw [noRule, noFilter, ElementRules.filled_none, PropertyRules.putElements_self found]
    exact run_declares declares held
  cases step with
  | element form deferred =>
      have filled : (run (.element form deferred) held).value =
          held.putElements (elements.filled held.tag (some form.build.value) none) := by
        cases taken : elements.element.isSome with
        | true =>
            rw [element_of_taken found taken, elements.filled_of_taken held.tag taken]
            rfl
        | false =>
            rw [element_of_free found taken, elements.filled_of_free held.tag taken]
            rfl
      rw [filled]
      exact PropertyRules.declares_empty _
  | filter test =>
      have filled : (run (.filter test) held).value =
          held.putElements (elements.filled held.tag none (some test)) := by
        rw [elements.filled_filter]
        exact PropertyRules.setFilter_of_some found test
      rw [filled]
      exact PropertyRules.declares_empty _
  | value | nested | tellMember | info => exact declaring fills rfl rfl
  | member | display | skipAnnotations | property => exact fills.elim

/-- Steps on a collection property make of it what they make of it once its container is filled. -/
theorem runAll_fills {steps : List PropertyStep} (each : ∀ step ∈ steps, step.Fills)
    (found : held.elements? = some elements) :
    (held.putElements (elements.filled held.tag (steps.findSome? element?)
      (lastFilter steps))).Declares
        (segmentsOfAll held.tag held.rules.stack.current steps) (runAll steps held).value := by
  induction steps generalizing held elements with
  | nil =>
      rw [List.findSome?_nil, lastFilter, ElementRules.filled_none,
        PropertyRules.putElements_self found]
      exact held.declares_empty
  | cons step rest ih =>
      have ⟨fills, others⟩ := List.forall_mem_cons.mp each
      have first := run_fills fills found
      -- What the first step contributes does not touch the container, so what the rest fills in can
      -- be filled in before it.
      have there := PropertyRules.elements?_putElements found
        (elements.filled held.tag step.element? step.filter?)
      have opened := first.putElements there
        ((elements.filled held.tag step.element? step.filter?).filled held.tag
          (rest.findSome? element?) (lastFilter rest))
      have around : (step.run held).value.tag = held.tag ∧
          (step.run held).value.rules.stack.current = held.rules.stack.current := first.around
      have later := ih others (first.elements? there)
      rw [around.1, around.2, ElementRules.filled_filled] at later
      rw [PropertyRules.putElements_putElements, ElementRules.filled_filled] at opened
      have earliest : (step :: rest).findSome? element? =
          step.element?.or (rest.findSome? element?) := by
        rw [List.findSome?_cons]
        cases step.element? <;> rfl
      rw [earliest]
      exact opened.append later

end PropertyStep

/-! ### Steps on any property -/

namespace PropertyStep

/-- The step declares something of the value, or of the elements if the property has a container. -/
def Suits (held : PropertyRules) (step : PropertyStep) : Prop :=
  step.Declares ∨ held.elements?.isSome = true ∧ step.Fills

theorem Declares.fills {step : PropertyStep} (declares : step.Declares) : step.Fills := by
  cases step with
  | element | filter => trivial
  | _ => exact declares

end PropertyStep

namespace PropertyRules

/-- The property with its container filled, if it has one. -/
def filled (held : PropertyRules) (element : Option Rule) (filter : Option Test) :
    PropertyRules :=
  match held.elements? with
  | some elements => held.putElements (elements.filled held.tag element filter)
  | none => held

/-- Filling the container changes no more than what is nested, and it nests nothing. -/
theorem rules_filled (held : PropertyRules) (element : Option Rule) (filter : Option Test) :
    ∃ nested, (held.filled element filter).rules = { held.rules with nested } ∧
      (nested = none ↔ held.rules.nested = none) := by
  unfold filled
  split
  · exact ⟨_, rfl, Option.map_eq_none_iff⟩
  · refine ⟨held.rules.nested, ?_, Iff.rfl⟩
    cases held.rules
    rfl

/-- What steps contribute to the rules of the property. -/
def contributed (held : PropertyRules) (steps : List PropertyStep) : Segments :=
  PropertyStep.segmentsOfAll held.tag held.rules.stack.current (PropertyStep.ownAll steps)

/-- The property with its container as steps fill it: with the first rule for the elements and the
last filter. -/
def furnished (held : PropertyRules) (steps : List PropertyStep) : PropertyRules :=
  held.filled ((PropertyStep.ownAll steps).findSome? PropertyStep.element?)
    (PropertyStep.lastFilter (PropertyStep.ownAll steps))

/-- Steps on a property contribute to its rules, whose container, if they have one, they fill. -/
theorem declares_runAll {steps : List PropertyStep} {held : PropertyRules}
    (each : ∀ step ∈ PropertyStep.ownAll steps, step.Suits held) :
    (held.furnished steps).Declares (held.contributed steps)
      (PropertyStep.runAll steps held).value := by
  rw [← PropertyStep.runAll_ownAll]
  unfold furnished filled
  cases found : held.elements? with
  | some elements =>
      refine PropertyStep.runAll_fills (fun step member => ?_) found
      rcases each step member with declares | ⟨_, fills⟩
      · exact declares.fills
      · exact fills
  | none =>
      refine PropertyStep.runAll_declares (fun step member => ?_) held
      rcases each step member with declares | ⟨there, _⟩
      · exact declares
      · rw [found] at there
        cases there

end PropertyRules

end RuleTree
