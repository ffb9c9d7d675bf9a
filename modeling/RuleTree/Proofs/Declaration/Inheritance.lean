import RuleTree.Proofs.Declaration.Building
import RuleTree.Proofs.Declaration.Slots
import RuleTree.Proofs.Tree.Inheriting

/-!
Inheriting a selector, among the declarations of a validator. The selector that a validator inherits
first may be handed to it before, between or after its declarations and attachments: the tree is
the same. Together with what such a tree reports this says that a validator which inherits a
selector is a validator that is asked for it.
-/

set_option autoImplicit false

namespace RuleTree

/-! ### What is built has handed its selectors on -/

/-- A rule that was made elsewhere has handed its selectors on. -/
def Part.Handed : Part → Prop
  | .rule (.given made) => (Node.rule made).Everywhere Node.Handed
  | _ => True

namespace TreeInvariant

/-- Selectors have been handed on, down to the elements of every collection. -/
def handed : TreeInvariant where
  fits _ rule := (Node.rule rule).Everywhere Node.Handed
  settled := Rule.Settled
  admits _ := True
  alone everywhere := everywhere
  leaf _ := .intro trivial nofun
  contextual _ := .intro trivial nofun
  presence := .intro trivial nofun
  predicate _ := .intro trivial nofun
  composite parts := Node.everywhere_composite.mpr ⟨trivial, parts⟩
  conditional accepted rejected := Node.everywhere_conditional.mpr ⟨trivial, accepted, rejected⟩
  value := by
    intro rules
    simp only [Node.everywhere_value, Node.everywhere_entry, Node.Handed, true_and]
  elements := by
    intro rules
    rw [Node.everywhere_elements]
    constructor
    · rintro ⟨handed, below⟩ element member
      exact ⟨below element member, fun present => handed present element member⟩
    · intro each
      exact ⟨fun present element member => (each element member).2 present,
        fun element member => (each element member).1⟩
  object := by
    intro reach rules
    rw [Node.everywhere_nested, Node.everywhere_object]
    simp only [Node.everywhere_property, Node.everywhere_nested, Node.Handed, true_and]
  bind resolver everywhere := everywhere.bind fun _ handed => handed.bind resolver
  inherit sets everywhere := everywhere.inherit fun _ handed => handed.inherit sets
  settles rule sets := rule.settled_inherit sets
  settled_bind resolver settled := settled.bind resolver
  value_within _ _ whole := whole
  elements_within _ _ whole := whole
  admitted _ _ whole := whole

theorem handed_admits {part : Part} (given : part.Everywhere Part.Handed) :
    part.Everywhere handed.Admits := by
  induction given with
  | @intro part here _ ih =>
      refine .intro ?_ ih
      cases part with
      | rule form =>
          cases form with
          | given rule => exact here
          | _ => trivial
      | property step => cases step <;> trivial
      | value | element | object => trivial

end TreeInvariant

/-! ### The rules of a value -/

namespace ValueRules

theorem entry_inherit (rules : ValueRules) (rule : Rule) (sets : RuleSets) :
    (rules.entry rule).inherit sets = rules.entry (rule.inherit sets) := by
  rw [RuleEntry.inherit_eq]
  unfold entry
  cases rules.resolver with
  | none => rfl
  | some resolver =>
      have either := Node.rule.inj ((Node.rule rule).bind_inherit sets resolver)
      simp only [either]

/-- A change that does not look at the nested validator and the inherited selector, but for an edit
of the nested entry that inherits alike, may be made before or after a selector is inherited. -/
theorem inherit_comm (change : ValueRules → ValueRules) (edit : RuleEntry → RuleEntry)
    {rules : ValueRules} {sets : RuleSets}
    (frame : ∀ nested inherited, change { rules with nested, inherited } =
      { change rules with nested := nested.map edit, inherited })
    (edits : ∀ held, (edit held).inherit sets = edit (held.inherit sets)) :
    change (rules.inherit sets) = (change rules).inherit sets := by
  have whole : change rules =
      { change rules with nested := rules.nested.map edit, inherited := rules.inherited } := by
    rw [← frame]
    cases rules
    rfl
  have inherited : (change rules).inherited = rules.inherited := by rw [whole]
  cases holds : rules.inherited with
  | some kept =>
      rw [inherit_of_kept sets holds, inherit_of_kept sets (inherited.trans holds)]
  | none =>
      have nested : (change rules).nested = rules.nested.map edit := by rw [whole]
      have edited : (rules.nested.map (·.inherit sets)).map edit =
          (rules.nested.map edit).map (·.inherit sets) := by
        rw [Option.map_map, Option.map_map]
        congr 1
        funext held
        exact (edits held).symm
      rw [inherit_of_fresh sets holds, inherit_of_fresh sets (inherited.trans holds), frame, nested,
        edited]

theorem inherit_comm_plain (change : ValueRules → ValueRules) {rules : ValueRules}
    {sets : RuleSets} (frame : ∀ nested inherited, change { rules with nested, inherited } =
      { change rules with nested, inherited }) :
    change (rules.inherit sets) = (change rules).inherit sets :=
  inherit_comm change id (fun nested inherited => by rw [frame, Option.map_id_fun, id]) fun _ => rfl

theorem setLastMessage_inherit (rules : ValueRules) (message : MessageOverride)
    (sets : RuleSets) :
    (rules.inherit sets).setLastMessage message = (rules.setLastMessage message).inherit sets := by
  have edits (held : RuleEntry) :
      (held.setMessage message).inherit sets = (held.inherit sets).setMessage message := by
    rw [RuleEntry.inherit_eq, RuleEntry.inherit_eq]
    rfl
  rcases last : rules.last with _ | (position | position | _)
  · apply inherit_comm_plain (·.setLastMessage message)
    intro nested inherited
    simp only [setLastMessage, modifyLast, last]
  · apply inherit_comm_plain (·.setLastMessage message)
    intro nested inherited
    simp only [setLastMessage, modifyLast, last]
  · apply inherit_comm_plain (·.setLastMessage message)
    intro nested inherited
    simp only [setLastMessage, modifyLast, last]
  · refine inherit_comm (·.setLastMessage message) (·.setMessage message) ?_ edits
    intro nested inherited
    simp only [setLastMessage, modifyLast, last]

theorem setDefaultMessage_inherit (rules : ValueRules) (message : MessageOverride)
    (sets : RuleSets) :
    (rules.inherit sets).setDefaultMessage message =
      (rules.setDefaultMessage message).inherit sets := by
  refine inherit_comm (·.setDefaultMessage message) (·.setDefaultMessage message)
    (fun nested inherited => rfl) fun held => ?_
  rw [RuleEntry.inherit_eq, RuleEntry.inherit_eq]
  unfold RuleEntry.setDefaultMessage
  split <;> rfl

theorem isSome_nested_inherit (rules : ValueRules) (sets : RuleSets) :
    (rules.inherit sets).nested.isSome = rules.nested.isSome := by
  cases holds : rules.inherited with
  | some kept => rw [inherit_of_kept sets holds]
  | none => rw [inherit_of_fresh sets holds, Option.isSome_map]

/-- A nested validator that is attached after a selector was inherited is handed it then, and one
that was attached before is handed it later, unless the scope has handed it another one. -/
theorem nesting_inherit (rules : ValueRules) (rule : Rule) (sets : RuleSets) :
    (rules.inherit sets).nesting rule = (rules.nesting rule).inherit sets := by
  cases holds : rules.inherited with
  | some kept =>
      have still : (rules.nesting rule).inherited = some kept := holds
      rw [inherit_of_kept sets holds, inherit_of_kept sets still]
  | none =>
      have still : (rules.nesting rule).inherited = none := holds
      -- What the scope hands on is not handed on again.
      have handed : handOn (rules.stack.current.or (some sets)) rule =
          (handOn rules.selectorForNested rule).inherit sets := by
        unfold selectorForNested
        rw [holds, Option.or_none]
        cases rules.stack.current with
        | none => rfl
        | some current => exact (Node.rule.inj ((Node.rule rule).inherit_inherit current sets)).symm
      have placed : rules.entry (handOn (rules.stack.current.or (some sets)) rule) =
          (rules.entry (handOn rules.selectorForNested rule)).inherit sets := by
        rw [handed, entry_inherit]
      rw [inherit_of_fresh sets holds, inherit_of_fresh sets still]
      exact congrArg (fun held => { rules with
        nested := some held, last := some .nested, inherited := some sets }) placed

theorem settle_attachNested_inherit (rules : ValueRules) (rule : Rule) (site alternative : String)
    (sets : RuleSets) :
    (Built.settle (rules.inherit sets)
        ((rules.inherit sets).attachNested rule site alternative)).value =
      (Built.settle rules (rules.attachNested rule site alternative)).value.inherit sets := by
  have same := rules.isSome_nested_inherit sets
  cases taken : rules.nested.isSome with
  | true =>
      rw [attachNested_of_taken taken, attachNested_of_taken (same.trans taken)]
      rfl
  | false =>
      rw [attachNested_of_free taken, attachNested_of_free (same.trans taken)]
      exact rules.nesting_inherit rule sets

end ValueRules

namespace ValueStep

/-- The selector that a step hands to the validator itself. -/
def handed? : ValueStep → Option RuleSets
  | .inherit names => some names
  | _ => none

/-- A step that goes on with a validator and hands it no selector may be taken before or after a
selector is inherited. -/
theorem run_inherit {step : ValueStep} (plain : step.handed? = none) (continues : step.Continues)
    (rules : ValueRules) (sets : RuleSets) :
    (step.run (rules.inherit sets)).value = (step.run rules).value.inherit sets := by
  cases step with
  | rule form =>
      simp only [run, Built.bind]
      cases form.build.value with
      | none => rfl
      | some rule => exact ValueRules.inherit_comm_plain (·.pushRule rule) fun _ _ => rfl
  | contextual leaf =>
      exact ValueRules.inherit_comm_plain (·.pushRule (.contextual leaf)) fun _ _ => rfl
  | required => exact ValueRules.inherit_comm_plain (·.pushPresence .presence) fun _ _ => rfl
  | allowEmpty => exact ValueRules.inherit_comm_plain (·.allowEmpty) fun _ _ => rfl
  | guard test => exact ValueRules.inherit_comm_plain (·.addGuard test) fun _ _ => rfl
  | mode mode => exact ValueRules.inherit_comm_plain (·.setMode mode) fun _ _ => rfl
  | message message => exact rules.setLastMessage_inherit message sets
  | defaultMessage message => exact rules.setDefaultMessage_inherit message sets
  | preprocess transform =>
      exact ValueRules.inherit_comm_plain (·.setPreprocess transform) fun _ _ => rfl
  | presence form =>
      simp only [run, Built.bind]
      cases form.build.value with
      | none => rfl
      | some rule => exact ValueRules.inherit_comm_plain (·.pushPresence rule) fun _ _ => rfl
  | nested steps => exact rules.settle_attachNested_inherit _ _ _ sets
  | attach form site alternative =>
      simp only [run, Built.bind]
      cases form.build.value with
      | none => rfl
      | some rule => exact rules.settle_attachNested_inherit rule site alternative sets
  | scope names steps fails => exact continues.elim
  | inherit names => exact absurd plain (Option.some_ne_none names)
  | bind resolver =>
      exact Rule.value.inj (Node.rule.inj ((Node.rule (.value rules)).bind_inherit sets resolver))
  | replace steps => exact continues.elim
  | info => rfl

/-- Inheriting a selector may be put off until all else is declared. -/
def inheriting : Level.Deferral machine RuleSets where
  pick := handed?
  op sets rules := rules.inherit sets
  allows := Continues
  ready _ := True
  picked := by
    intro step sets rules picked
    cases step with
    | inherit names =>
        cases picked
        rfl
    | _ => exact absurd picked nofun
  absorbs first second rules :=
    ValueRules.inherit_of_kept second (rules.inherited_inherit first)
  commutes sets plain continues _ := run_inherit plain continues _ sets
  enter made sets rules := ValueRules.inherit_comm_plain (·.enter sets) fun _ _ => rfl
  leave made before after :=
    ValueRules.inherit_comm_plain (·.leaveTo before.stack.depth) fun _ _ => rfl
  leave_op made before after := by
    have depth : (before.inherit made).stack = before.stack := by rw [before.inherit_eq]
    simp only [machine, depth]
  ready_run _ _ _ := trivial
  ready_op _ _ := trivial
  ready_enter _ _ := trivial
  ready_leave _ _ _ := trivial

end ValueStep

/-! ### The rules of elements -/

namespace ElementRules

theorem attaching_inherit (rules : ElementRules) (element : Rule) (sets : RuleSets) :
    (rules.inherit sets).attaching element = (rules.attaching element).inherit sets := by
  cases holds : rules.inherited with
  | some kept =>
      have still : (rules.attaching element).inherited = some kept := holds
      rw [inherit_of_kept sets holds, inherit_of_kept sets still]
  | none =>
      have still : (rules.attaching element).inherited = none := holds
      rw [inherit_of_fresh sets holds, inherit_of_fresh sets still]
      unfold attaching
      rw [holds]
      cases rules.resolver with
      | none => rfl
      | some resolver =>
          have either := Node.rule.inj ((Node.rule element).bind_inherit sets resolver)
          exact congrArg (fun placed => { rules with
            element := some placed, resolver := some resolver, inherited := some sets }) either

theorem settle_attach_inherit (rules : ElementRules) (element : Rule) (sets : RuleSets) :
    (Built.settle (rules.inherit sets) ((rules.inherit sets).attach element)).value =
      (Built.settle rules (rules.attach element)).value.inherit sets := by
  have same := rules.isSome_element_inherit sets
  cases taken : rules.element.isSome with
  | true =>
      rw [attach_of_taken taken, attach_of_taken (same.trans taken)]
      rfl
  | false =>
      rw [attach_of_free taken, attach_of_free (same.trans taken)]
      exact rules.attaching_inherit element sets

end ElementRules

namespace ElementStep

def handed? : ElementStep → Option RuleSets
  | .inherit names => some names
  | _ => none

theorem run_inherit {step : ElementStep} (plain : step.handed? = none) (rules : ElementRules)
    (sets : RuleSets) :
    (step.run (rules.inherit sets)).value = (step.run rules).value.inherit sets := by
  cases step with
  | attach form => exact rules.settle_attach_inherit form.build.value sets
  | filter test =>
      cases holds : rules.inherited with
      | some kept =>
          have still : (rules.setFilter test).inherited = some kept := holds
          rw [ElementRules.inherit_of_kept sets holds]
          exact (ElementRules.inherit_of_kept sets still).symm
      | none =>
          have still : (rules.setFilter test).inherited = none := holds
          rw [ElementRules.inherit_of_fresh sets holds]
          exact (ElementRules.inherit_of_fresh sets still).symm
  | inherit names => exact absurd plain (Option.some_ne_none names)
  | bind resolver =>
      exact Rule.elements.inj (Node.rule.inj ((Node.rule (.elements rules)).bind_inherit sets resolver))
  | info => rfl

/-- The steps on rules of elements are a level without scopes. -/
def machine : Level.Machine ElementStep ElementRules where
  run step rules := (step.run rules).value
  enter _ rules := rules
  leave _ after := after

theorem runAll_levels (steps : List ElementStep) (rules : ElementRules) :
    (runAll steps rules).value = Level.runAll machine (steps.map .act) rules := by
  induction steps generalizing rules with
  | nil => rfl
  | cons step rest ih => exact ih (step.run rules).value

def inheriting : Level.Deferral machine RuleSets where
  pick := handed?
  op sets rules := rules.inherit sets
  allows _ := True
  ready _ := True
  picked := by
    intro step sets rules picked
    cases step with
    | inherit names =>
        cases picked
        rfl
    | _ => exact absurd picked nofun
  absorbs first second rules :=
    ElementRules.inherit_of_kept second (rules.inherited_inherit first)
  commutes sets plain _ _ := run_inherit plain _ sets
  enter _ _ _ := rfl
  leave _ _ _ := rfl
  leave_op _ _ _ := rfl
  ready_run _ _ _ := trivial
  ready_op _ _ := trivial
  ready_enter _ _ := trivial
  ready_leave _ _ _ := trivial

end ElementStep

/-! ### The rules of an object -/

namespace ObjectRules

/-- A change that does not look at the child and the inherited selector may be made before or after a
selector is inherited. -/
theorem inherit_comm (change : ObjectRules → ObjectRules) {rules : ObjectRules} {sets : RuleSets}
    (frame : ∀ child inherited, change { rules with child, inherited } =
      { change rules with child, inherited }) :
    change (rules.inherit sets) = (change rules).inherit sets := by
  have whole : change rules =
      { change rules with child := rules.child, inherited := rules.inherited } := by
    rw [← frame]
    cases rules
    rfl
  have inherited : (change rules).inherited = rules.inherited := by rw [whole]
  cases holds : rules.inherited with
  | some kept =>
      rw [inherit_of_kept sets holds, inherit_of_kept sets (inherited.trans holds)]
  | none =>
      have child : (change rules).child = rules.child := by rw [whole]
      rw [inherit_of_fresh sets holds, inherit_of_fresh sets (inherited.trans holds), frame, child]

theorem isSome_child_inherit (rules : ObjectRules) (sets : RuleSets) :
    (rules.inherit sets).child.isSome = rules.child.isSome := by
  cases holds : rules.inherited with
  | some kept => rw [inherit_of_kept sets holds]
  | none => rw [inherit_of_fresh sets holds, Option.isSome_map]

theorem delegating_inherit (rules child : ObjectRules) (sets : RuleSets) :
    (rules.inherit sets).delegating child = (rules.delegating child).inherit sets := by
  cases holds : rules.inherited with
  | some kept =>
      have still : (rules.delegating child).inherited = some kept := holds
      rw [inherit_of_kept sets holds, inherit_of_kept sets still]
  | none =>
      have still : (rules.delegating child).inherited = none := holds
      rw [inherit_of_fresh sets holds, inherit_of_fresh sets still]
      unfold delegating
      rw [holds, Option.or_none]
      -- What the scope hands on is not handed on again.
      have handed : handOn (rules.stack.current.or (some sets)) child =
          (handOn rules.stack.current child).inherit sets := by
        cases rules.stack.current with
        | none => rfl
        | some current =>
            exact (Node.object.inj ((Node.object child).inherit_inherit current sets)).symm
      rw [handed]
      cases rules.resolver with
      | none => rfl
      | some resolver =>
          have either (attached : ObjectRules) :=
            Node.object.inj ((Node.object attached).bind_inherit sets resolver)
          exact congrArg (fun placed => { rules with
            child := some placed, resolver := some resolver, inherited := some sets }) (either _)

theorem settle_setValidator_inherit (rules child : ObjectRules) (sets : RuleSets) :
    (Built.settle (rules.inherit sets) ((rules.inherit sets).setValidator child)).value =
      (Built.settle rules (rules.setValidator child)).value.inherit sets := by
  have same := rules.isSome_child_inherit sets
  cases taken : rules.child.isSome with
  | true =>
      rw [setValidator_of_taken taken, setValidator_of_taken (same.trans taken)]
      rfl
  | false =>
      rw [setValidator_of_free taken, setValidator_of_free (same.trans taken)]
      exact rules.delegating_inherit child sets

end ObjectRules

namespace ObjectStep

def handed? : ObjectStep → Option RuleSets
  | .inherit names => some names
  | _ => none

theorem run_inherit {step : ObjectStep} (plain : step.handed? = none) (continues : step.Continues)
    (rules : ObjectRules) (sets : RuleSets) :
    (step.run (rules.inherit sets)).value = (step.run rules).value.inherit sets := by
  cases step with
  | property name accessor steps =>
      exact ObjectRules.inherit_comm
        (fun rules => (ObjectStep.run (.property name accessor steps) rules).value) fun _ _ => rfl
  | collection name accessor steps =>
      exact ObjectRules.inherit_comm
        (fun rules => (ObjectStep.run (.collection name accessor steps) rules).value) fun _ _ => rfl
  | includeFrom steps =>
      exact ObjectRules.inherit_comm
        (fun rules => (ObjectStep.run (.includeFrom steps) rules).value) fun _ _ => rfl
  | scope names steps fails => exact continues.elim
  | child steps =>
      have target : (rules.inherit sets).target = rules.target := by rw [rules.inherit_eq]
      simp only [run, Built.bind, target]
      exact rules.settle_setValidator_inherit _ sets
  | guard test => exact ObjectRules.inherit_comm (·.addGuard test) fun _ _ => rfl
  | mode mode => exact ObjectRules.inherit_comm (fun rules => { rules with mode }) fun _ _ => rfl
  | suppressAnnotations =>
      exact ObjectRules.inherit_comm
        (fun rules => { rules with suppressAnnotations := true }) fun _ _ => rfl
  | validateAll all =>
      exact ObjectRules.inherit_comm (fun rules => { rules with validateAll := all }) fun _ _ => rfl
  | bridge form =>
      exact ObjectRules.inherit_comm
        (fun rules => { rules with bridge := some form.build.value }) fun _ _ => rfl
  | messages source =>
      exact ObjectRules.inherit_comm
        (fun rules => { rules with messages := some source }) fun _ _ => rfl
  | options text fresh =>
      simp only [run]
      cases Options.parse? text with
      | none => rfl
      | some options =>
          cases fresh with
          | false => exact ObjectRules.inherit_comm (·.applyOptions options) fun _ _ => rfl
          | true => exact continues.elim
  | inherit names => exact absurd plain (Option.some_ne_none names)
  | bind resolver => exact Node.object.inj ((Node.object rules).bind_inherit sets resolver)
  | info => rfl

def inheriting : Level.Deferral machine RuleSets where
  pick := handed?
  op sets rules := rules.inherit sets
  allows := Continues
  ready _ := True
  picked := by
    intro step sets rules picked
    cases step with
    | inherit names =>
        cases picked
        rfl
    | _ => exact absurd picked nofun
  absorbs first second rules :=
    ObjectRules.inherit_of_kept second (rules.inherited_inherit first)
  commutes sets plain continues _ := run_inherit plain continues _ sets
  enter made sets rules := ObjectRules.inherit_comm (·.enter sets) fun _ _ => rfl
  leave made before after :=
    ObjectRules.inherit_comm (·.leaveTo before.stack.depth) fun _ _ => rfl
  leave_op made before after := by
    have depth : (before.inherit made).stack = before.stack := by rw [before.inherit_eq]
    simp only [machine, depth]
  ready_run _ _ _ := trivial
  ready_op _ _ := trivial
  ready_enter _ _ := trivial
  ready_leave _ _ _ := trivial

end ObjectStep

/-! ### Inheriting is being asked -/

/-- A validator that inherits a selector is a validator that is asked for it. Whatever a caller
requests, what has inherited the selector reports as what has not, on a request for the selector; and
the first selector that a validator inherits may be inherited anywhere among its declarations, with
others after it or none. -/
theorem inherit_acts_as_request {sets : RuleSets} (nonempty : sets.isEmpty = false) :
    (∀ (value : Value) (context : Context) (selector : Option RuleSets),
      (∀ form : RuleForm, (Part.rule form).Everywhere Part.Handed →
        ∀ rule ∈ form.build.value, (Node.rule rule).Everywhere Node.IgnoresRequest →
          ((rule.inherit sets).failures? value (context.withRuleSets selector)).value =
            (rule.failures? value (context.withRuleSets (some sets))).value) ∧
        ∀ (target : Ty) (steps : List ObjectStep),
          (∀ step ∈ steps, (Part.object step).Everywhere Part.Handed) →
          let rules := (ObjectStep.runAll steps (.empty target)).value
          (Node.object rules).Everywhere Node.IgnoresRequest →
            ((Node.object (rules.inherit sets)).failures? value
                (context.withRuleSets selector)).value =
              ((Node.object rules).failures? value (context.withRuleSets (some sets))).value) ∧
      (∀ steps : List ValueStep, Level.EachOf ValueStep.Continues (ValueStep.levels steps) →
        Level.firstOf ValueStep.handed? (ValueStep.levels steps) = some sets →
          (ValueStep.runAll steps .empty).value =
            (ValueStep.runAll (ValueStep.reading.without ValueStep.handed? steps)
              .empty).value.inherit sets) ∧
      (∀ (target : Ty) (steps : List ObjectStep),
        Level.EachOf ObjectStep.Continues (ObjectStep.levels steps) →
        Level.firstOf ObjectStep.handed? (ObjectStep.levels steps) = some sets →
          (ObjectStep.runAll steps (.empty target)).value =
            (ObjectStep.runAll (ObjectStep.reading.without ObjectStep.handed? steps)
              (.empty target)).value.inherit sets) ∧
      ∀ steps : List ElementStep, steps.findSome? ElementStep.handed? = some sets →
        (ElementStep.runAll steps .empty).value =
          (ElementStep.runAll (steps.filter (·.handed?.isNone)) .empty).value.inherit sets := by
  refine ⟨fun value context selector => ⟨?_, ?_⟩, ?_, ?_, ?_⟩
  · intro form given rule made ignores
    have handed := form.build_fits .handed (TreeInvariant.handed_admits given) rule made
    have validator : ∀ held, Node.rule rule ≠ .property held := nofun
    have asks := context.asks_withRuleSets nonempty selector
    have same := Node.report_inherit nonempty validator handed ignores value asks
    rw [Rule.failures?, Rule.failures?, Node.failures?_value, Node.failures?_value, ← same]
    rfl
  · intro target steps given rules ignores
    have handed := ObjectStep.runAll_fits .handed steps
      (fun step member => TreeInvariant.handed_admits (given step member))
      (TreeInvariant.handed.fits_emptyObject target)
    have validator : ∀ held, Node.object rules ≠ .property held := nofun
    have asks := context.asks_withRuleSets nonempty selector
    have same := Node.report_inherit nonempty validator handed.nested ignores value asks
    rw [Node.failures?_value, Node.failures?_value, ← same]
    rfl
  · intro steps continues first
    rw [ValueStep.reading.runAll_levels, ValueStep.reading.runAll_without,
      ValueStep.inheriting.runAll_eq _ continues trivial]
    exact congrArg (ValueStep.inheriting.apply · _) first
  · intro target steps continues first
    rw [ObjectStep.reading.runAll_levels, ObjectStep.reading.runAll_without,
      ObjectStep.inheriting.runAll_eq _ continues trivial]
    exact congrArg (ObjectStep.inheriting.apply · _) first
  · intro steps first
    rw [ElementStep.runAll_levels, ElementStep.runAll_levels,
      ElementStep.inheriting.runAll_eq _ (Level.eachOf_acts.mpr fun _ _ => trivial) trivial,
      Level.sparingAll_acts]
    exact congrArg (ElementStep.inheriting.apply · _) ((Level.firstOf_acts _ steps).trans first)

/-- A step that declares a demand in the set "strict". -/
def ValueStep.strictDemand : ValueStep := .scope ⟨["strict"]⟩ [.required] false

/-- The demand is made of a validator that has inherited its set, as it is on a request for the set.
The set may as well be inherited first, and another one after it. -/
theorem strictDemand_acts_as_requested :
    (((Rule.value (ValueStep.runAll [.strictDemand] .empty).value).inherit ⟨["strict"]⟩).failures?
        (.string "") (Context.empty.withRuleSets none)).value =
      ((Rule.value (ValueStep.runAll [.strictDemand] .empty).value).failures?
        (.string "") (Context.empty.withRuleSets (some ⟨["strict"]⟩))).value ∧
      (ValueStep.runAll [.inherit ⟨["strict"]⟩, .strictDemand, .inherit ⟨["loose"]⟩] .empty).value =
        (ValueStep.runAll [.strictDemand] .empty).value.inherit ⟨["strict"]⟩ := by
  have acts := inherit_acts_as_request
    (show RuleSets.isEmpty ⟨["strict"]⟩ = false by decide)
  have plain (below : Part) (member : below ∈ [Part.value .required]) :
      below.Everywhere Part.Handed := by
    rw [List.mem_singleton.mp member]
    exact .intro trivial nofun
  have given : (Part.rule (.value [.strictDemand])).Everywhere Part.Handed := by
    refine .intro trivial fun below member => ?_
    rw [List.mem_singleton.mp member]
    exact .intro trivial plain
  have ignores : (Node.rule (.value (ValueStep.runAll [.strictDemand] .empty).value)).Everywhere
      Node.IgnoresRequest := by
    refine .intro trivial fun child member => ?_
    rw [List.mem_singleton.mp member]
    refine .intro trivial fun content contentMember => ?_
    rw [List.mem_singleton.mp contentMember]
    exact .intro trivial nofun
  constructor
  · exact (acts.1 (.string "") .empty none).1 (.value [.strictDemand]) given _ rfl ignores
  · exact acts.2.1 _ ⟨trivial, ⟨trivial, trivial⟩, trivial, trivial⟩ rfl

end RuleTree
