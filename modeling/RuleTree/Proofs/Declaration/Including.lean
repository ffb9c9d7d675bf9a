import RuleTree.Proofs.Declaration.Binding
import RuleTree.Proofs.Declaration.Inheritance
import RuleTree.Proofs.Declaration.Program
import RuleTree.Proofs.Tree.Indifference

/-!
Including and declaring. Properties that are included from another validator come with the nested
validators that were attached there, while those that are declared in a scope hand the sets of the
scope to what is attached to them. Out of scopes there is no difference, and in a scope there is no
other one.
-/

set_option autoImplicit false

namespace RuleTree

/-! ### Where the declarations on the rules of a value stand -/

namespace ValueRules

/-- What is handed to the validator that is nested next: the open scopes and the selector. -/
def bearings (rules : ValueRules) : ScopeStack × Option RuleSets := (rules.stack, rules.inherited)

end ValueRules

namespace ValueStep

/-- A step of its own that goes on with the same validator and hands or binds nothing to it. -/
def Plain (step : ValueStep) : Prop := step.KeepsBinding ∧ step.handed? = none

theorem bearings_run {step : ValueStep} (plain : step.Plain) (rules : ValueRules) :
    (step.run rules).value.bearings = rules.bearings := by
  refine part_run (·.bearings) (fun _ _ _ _ _ _ _ _ _ => rfl) plain.1.continues rules ?_ ?_
  · rintro names rfl
    exact absurd plain.2 nofun
  · rintro resolver rfl
    exact plain.1.elim

theorem bearings_run_of_each {step : ValueStep} (plain : step.level.Each Plain)
    (rules : ValueRules) : (step.run rules).value.bearings = rules.bearings := by
  have each : Level.EachOf Plain [step.level] := ⟨plain, trivial⟩
  rw [run_level]
  refine Level.runAll_restores Plain ValueRules.bearings (fun plain => bearings_run plain _) ?_
    each rules
  intro sets before after same
  have stack : after.stack = before.stack.enter sets := congrArg Prod.fst same
  have inherited : after.inherited = before.inherited := congrArg Prod.snd same
  simp only [machine, ValueRules.leaveTo, ValueRules.bearings, stack, inherited,
    ScopeStack.leaveTo_enter]

/-- A nested validator that is handed a selector before a step is as if it were handed it after. -/
theorem edit_inherit {step : ValueStep} (plain : step.Plain) (rules : ValueRules)
    (held : RuleEntry) (sets : RuleSets) :
    step.edit rules (held.inherit sets) = (step.edit rules held).inherit sets := by
  cases step with
  | message message =>
      simp only [edit]
      split
      · rw [RuleEntry.inherit_eq, RuleEntry.inherit_eq]
        rfl
      · rfl
  | defaultMessage message =>
      simp only [edit]
      rw [RuleEntry.inherit_eq, RuleEntry.inherit_eq]
      unfold RuleEntry.setDefaultMessage
      split <;> rfl
  | inherit names => exact absurd plain.2 (Option.some_ne_none names)
  | scope | bind | replace => exact plain.1.elim
  | _ => rfl

end ValueStep

namespace ValueRules

/-- The nested validator is handed a selector, or nothing is. -/
def MayHand (sets : RuleSets) (rules other : ValueRules) : Prop :=
  other = rules ∨ other = rules.handNested sets

theorem handNested_of_none {rules : ValueRules} (free : rules.nested = none) (sets : RuleSets) :
    rules.handNested sets = rules := by
  unfold handNested
  rw [free]
  cases rules
  cases free
  rfl

/-- Out of scopes and without a selector, nothing but what is handed on separately reaches a nested
validator. -/
theorem nesting_inherit_of_bearings {rules : ValueRules} (bearings : rules.bearings = (.empty, none))
    (rule : Rule) (sets : RuleSets) :
    rules.nesting (rule.inherit sets) = (rules.nesting rule).handNested sets := by
  have stack : rules.stack = .empty := congrArg Prod.fst bearings
  have inherited : rules.inherited = none := congrArg Prod.snd bearings
  have selector : rules.selectorForNested = none := by
    rw [selectorForNested, stack, inherited]
    rfl
  simp only [nesting, handNested, selector, handOn, Option.map_some, entry_inherit]

theorem MayHand.run {step : ValueStep} (plain : step.Plain) {sets : RuleSets}
    {rules other : ValueRules} (hands : MayHand sets rules other) :
    MayHand sets (step.run rules).value (step.run other).value := by
  rcases hands with rfl | rfl
  · exact .inl rfl
  · cases nested : rules.nested with
    | none =>
        rw [handNested_of_none nested]
        exact .inl rfl
    | some held =>
        -- A step does not look into what is nested, but for attaching nothing in its place.
        have taken : rules.nested.isSome = true := Option.isSome_iff_exists.mpr ⟨held, nested⟩
        have here := ValueStep.nested_run_of_taken plain.1.continues taken
        have there : (step.run (rules.handNested sets)).value =
            { (step.run rules).value with
              nested := (rules.nested.map (·.inherit sets)).map (step.edit rules) } :=
          ValueStep.run_nested plain.1.continues fun _ => ⟨taken, (Option.isSome_map ..).trans taken⟩
        have edited : (rules.nested.map (·.inherit sets)).map (step.edit rules) =
            (rules.nested.map (step.edit rules)).map (·.inherit sets) := by
          rw [Option.map_map, Option.map_map]
          exact Option.map_congr fun entry _ => ValueStep.edit_inherit plain rules entry sets
        refine .inr ?_
        rw [there, edited, handNested, here]

theorem MayHand.run_of_each {step : ValueStep} (plain : step.level.Each ValueStep.Plain)
    {sets : RuleSets} {rules other : ValueRules} (hands : MayHand sets rules other) :
    MayHand sets (step.run rules).value (step.run other).value := by
  have each : Level.EachOf ValueStep.Plain [step.level] := ⟨plain, trivial⟩
  rw [ValueStep.run_level, ValueStep.run_level]
  refine Level.runAll_relates ValueStep.Plain (MayHand sets) (fun plain hands => hands.run plain)
    (fun entered hands => ?_) (fun before after => ?_) each hands
  · rcases hands with rfl | rfl
    · exact .inl rfl
    · exact .inr rfl
  · have depth {rules other : ValueRules} (hands : MayHand sets rules other) :
        other.stack.depth = rules.stack.depth := by
      rcases hands with rfl | rfl <;> rfl
    simp only [ValueStep.machine, depth before]
    rcases after with rfl | rfl
    · exact .inl rfl
    · exact .inr rfl

end ValueRules

/-! ### A property, in a scope and out of scopes -/

/-- The property as it is declared in a scope, beside the same property out of scopes. -/
def PropertyRules.ScopedAs (sets : RuleSets) (plain inside : PropertyRules) : Prop :=
  plain.tag = none ∧ plain.rules.bearings = (.empty, none) ∧
    ∃ rules, ValueRules.MayHand sets plain.rules rules ∧
      inside = { plain with tag := some sets, rules }

namespace PropertyRules

variable {sets : RuleSets} {plain : PropertyRules} {rules : ValueRules}

theorem elements?_scoped (hands : ValueRules.MayHand sets plain.rules rules) :
    ({ plain with tag := some sets, rules } : PropertyRules).elements? = plain.elements? ∨
      ({ plain with tag := some sets, rules } : PropertyRules).elements? =
        plain.elements?.map (·.inherit sets) := by
  rcases hands with rfl | rfl
  · exact .inl rfl
  · refine .inr ?_
    unfold elements? ValueRules.handNested
    cases plain.rules.nested with
    | none => rfl
    | some entry =>
        obtain ⟨rule, tag, message, isCustom⟩ := entry
        cases rule <;> rfl

theorem elements?_scoped_of_none (absent : plain.elements? = none)
    (hands : ValueRules.MayHand sets plain.rules rules) :
    ({ plain with tag := some sets, rules } : PropertyRules).elements? = none := by
  rcases elements?_scoped hands with same | handed
  · exact same.trans absent
  · rw [handed, absent]
    rfl

/-- In a scope the container of a collection property has been handed the sets as soon as it is
opened. -/
theorem handed_of_scoped {elements : ElementRules} (found : plain.elements? = some elements)
    (hands : ValueRules.MayHand sets plain.rules rules) :
    ∃ held, ({ plain with tag := some sets, rules } : PropertyRules).elements? = some held ∧
      held.handed (some sets) = elements.inherit sets ∧
        held.element.isSome = elements.element.isSome := by
  rcases elements?_scoped hands with same | handed
  · exact ⟨elements, same.trans found, rfl, rfl⟩
  · rw [found] at handed
    exact ⟨_, handed, ElementRules.inherit_of_kept sets (elements.inherited_inherit sets),
      elements.isSome_element_inherit sets⟩

theorem putElements_scoped (hands : ValueRules.MayHand sets plain.rules rules)
    (changed : ElementRules) :
    ({ plain with tag := some sets, rules } : PropertyRules).putElements (changed.inherit sets) =
      { plain.putElements changed with
        tag := some sets, rules := (plain.putElements changed).rules.handNested sets } := by
  rcases hands with rfl | rfl
  · simp only [putElements, modifyRules, ValueRules.handNested, Option.map_map, Function.comp_def,
      RuleEntry.inherit_eq, Rule.inherit]
  · simp only [putElements, modifyRules, ValueRules.handNested, Option.map_map, Function.comp_def,
      RuleEntry.inherit_eq, Rule.inherit]

theorem scopedAs_putElements (untagged : plain.tag = none)
    (bearings : plain.rules.bearings = (.empty, none))
    (hands : ValueRules.MayHand sets plain.rules rules) (changed : ElementRules) :
    (plain.putElements changed).ScopedAs sets
      (({ plain with tag := some sets, rules } : PropertyRules).putElements
        (changed.inherit sets)) :=
  ⟨untagged, bearings, _, .inr rfl, putElements_scoped hands changed⟩

end PropertyRules

namespace PropertyStep

/-- A step that hands and binds nothing to the rules of the property. -/
def Plain : PropertyStep → Prop
  | .value step => step.level.Each ValueStep.Plain
  | _ => True

theorem run_scopedAs {step : PropertyStep} (plain : step.Plain)
    (own : ∀ steps, step ≠ .property steps) {sets : RuleSets} {held inside : PropertyRules}
    (alike : held.ScopedAs sets inside) :
    (step.run held).value.ScopedAs sets (step.run inside).value := by
  obtain ⟨untagged, bearings, rules, hands, rfl⟩ := alike
  cases step with
  | value step =>
      exact ⟨untagged, (ValueStep.bearings_run_of_each plain _).trans bearings, _,
        hands.run_of_each plain, rfl⟩
  | member name => exact ⟨untagged, bearings, rules, hands, rfl⟩
  | display name => exact ⟨untagged, bearings, rules, hands, rfl⟩
  | skipAnnotations => exact ⟨untagged, bearings, rules, hands, rfl⟩
  | nested reach target steps =>
      simp only [run, Built.bind, PropertyRules.setValidator, untagged, ValueRules.handOn]
      cases taken : held.rules.nested with
      | some entry =>
          have here : held.rules.nested.isSome = true := Option.isSome_iff_exists.mpr ⟨_, taken⟩
          have there : rules.nested.isSome = true := by
            rcases hands with rfl | rfl
            · exact here
            · exact (Option.isSome_map ..).trans here
          rw [ValueRules.attachNested_of_taken here, ValueRules.attachNested_of_taken there]
          exact ⟨untagged, bearings, rules, hands, rfl⟩
      | none =>
          have free : held.rules.nested.isSome = false := by rw [taken]; rfl
          have same : rules = held.rules := by
            rcases hands with rfl | rfl
            · rfl
            · exact ValueRules.handNested_of_none taken sets
          subst same
          rw [ValueRules.attachNested_of_free free, ValueRules.attachNested_of_free free]
          exact ⟨rfl, bearings, _, .inr (held.rules.nesting_inherit_of_bearings bearings _ sets), rfl⟩
  | element form deferred =>
      cases found : held.elements? with
      | none =>
          have absent := PropertyRules.elements?_scoped_of_none found hands
          rw [(element_of_none found form deferred).2, (element_of_none absent form deferred).2]
          exact ⟨untagged, bearings, rules, hands, rfl⟩
      | some elements =>
          obtain ⟨container, foundInside, handed, sameElement⟩ :=
            PropertyRules.handed_of_scoped found hands
          cases taken : elements.element.isSome with
          | true =>
              rw [element_of_taken found taken, untagged,
                element_of_taken foundInside (sameElement.trans taken)]
              dsimp only [Built.bind, Built.reply]
              rw [handed]
              exact PropertyRules.scopedAs_putElements untagged bearings hands _
          | false =>
              rw [element_of_free found taken, untagged,
                element_of_free foundInside (sameElement.trans taken)]
              dsimp only [Built.bind, Built.reply]
              rw [handed, ElementRules.attaching_inherit]
              exact PropertyRules.scopedAs_putElements untagged bearings hands _
  | filter test =>
      simp only [run]
      cases found : held.elements? with
      | none =>
          have absent := PropertyRules.elements?_scoped_of_none found hands
          rw [PropertyRules.setFilter, PropertyRules.openElements_of_none found,
            PropertyRules.setFilter, PropertyRules.openElements_of_none absent]
          exact ⟨untagged, bearings, rules, hands, rfl⟩
      | some elements =>
          obtain ⟨container, foundInside, handed, _⟩ := PropertyRules.handed_of_scoped found hands
          have plain : (ElementStep.filter test).handed? = none := rfl
          have filtered : (elements.inherit sets).setFilter test =
              (elements.setFilter test).inherit sets := ElementStep.run_inherit plain elements sets
          rw [PropertyRules.setFilter_of_some found, untagged,
            PropertyRules.setFilter_of_some foundInside]
          dsimp only
          rw [handed, filtered]
          exact PropertyRules.scopedAs_putElements untagged bearings hands _
  | property steps => exact absurd rfl (own steps)
  | tellMember => exact ⟨untagged, bearings, rules, hands, rfl⟩
  | info => exact ⟨untagged, bearings, rules, hands, rfl⟩

end PropertyStep

/-! ### Declarations of properties -/

namespace PropertyStep

theorem Plain.keepsBinding {step : PropertyStep} (plain : step.Plain) : step.KeepsBinding := by
  cases step with
  | value step =>
      have each : Level.EachOf ValueStep.Plain [step.level] := ⟨plain, trivial⟩
      exact (each.imp fun _ plain => plain.1).1
  | _ => trivial

theorem runAll_bindOwn (rules : ObjectRules) {steps : List PropertyStep} {opens : Prop}
    (keeps : ∀ step ∈ ownAll steps, step.KeepsBinding ∧ (step.OpensElements → opens))
    {held : PropertyRules} (free : held.rules.resolver = none)
    (contains : opens → held.Contains fun elements => elements.resolver = none) :
    (runAll steps (rules.bindOwn held)).value = rules.bindOwn (runAll steps held).value := by
  unfold ObjectRules.bindOwn
  cases rules.resolver with
  | none => rfl
  | some resolver => exact runAll_bind keeps free contains

end PropertyStep

namespace ObjectStep

/-- A declaration of a property that hands and binds nothing to its rules. Elements are declared for
collection properties only. -/
def Declares : ObjectStep → Prop
  | .property _ _ steps => ∀ step ∈ PropertyStep.ownAll steps, step.Plain ∧ ¬ step.OpensElements
  | .collection _ _ steps => ∀ step ∈ PropertyStep.ownAll steps, step.Plain
  | _ => False

/-- The property that a step declares under a tag. -/
def declared? (tag : Option RuleSets) : ObjectStep → Option PropertyRules
  | .property name accessor steps =>
    some (PropertyStep.runAll steps { PropertyRules.new name accessor with tag }).value
  | .collection name accessor steps =>
    some (PropertyStep.runAll steps { PropertyRules.newCollection name accessor with tag }).value
  | _ => none

theorem run_declares {step : ObjectStep} (declares : step.Declares) (rules : ObjectRules) :
    ∃ held, step.declared? rules.stack.current = some held ∧
      (step.run rules).value = rules.addProperty (rules.bindOwn held) := by
  cases step with
  | property name accessor steps =>
      refine ⟨_, rfl, congrArg rules.addProperty ?_⟩
      exact PropertyStep.runAll_bindOwn rules
        (fun step member => ⟨(declares step member).1.keepsBinding, (declares step member).2⟩) rfl
        False.elim
  | collection name accessor steps =>
      refine ⟨_, rfl, congrArg rules.addProperty ?_⟩
      exact PropertyStep.runAll_bindOwn rules
        (fun step member => ⟨(declares step member).keepsBinding, fun _ => True.intro⟩) rfl
        fun _ => ⟨.empty, rfl, rfl⟩
  | _ => exact declares.elim

/-- Declarations add their properties, bound and tagged as the object is. -/
theorem runAll_declares {declarations : List ObjectStep}
    (declares : ∀ step ∈ declarations, step.Declares) (rules : ObjectRules) :
    (runAll declarations rules).value =
      { rules with
        properties := rules.properties ++
          (declarations.filterMap (·.declared? rules.stack.current)).map rules.bindOwn } := by
  induction declarations generalizing rules with
  | nil =>
      simp only [runAll, List.filterMap_nil, List.map_nil, List.append_nil]
      cases rules
      rfl
  | cons step rest ih =>
      obtain ⟨first, later⟩ := List.forall_mem_cons.mp declares
      obtain ⟨held, declared, run⟩ := run_declares first rules
      have whole : (runAll (step :: rest) rules).value = (runAll rest (step.run rules).value).value :=
        rfl
      rw [whole, ih later, run]
      simp only [List.filterMap_cons, declared, List.map_cons, ObjectRules.addProperty,
        List.append_assoc, List.singleton_append]
      rfl

/-- Each declaration makes a property in a scope and the same one out of scopes. -/
theorem forall₂_declared {declarations : List ObjectStep}
    (declares : ∀ step ∈ declarations, step.Declares) (sets : RuleSets) :
    List.Forall₂ (PropertyRules.ScopedAs sets) (declarations.filterMap (·.declared? none))
      (declarations.filterMap (·.declared? (some sets))) := by
  induction declarations with
  | nil => exact .nil
  | cons step rest ih =>
      have ⟨first, later⟩ := List.forall_mem_cons.mp declares
      have rest := ih later
      have related (held : PropertyRules) (fresh : held.rules.bearings = (.empty, none))
          {steps : List PropertyStep} (plain : ∀ step ∈ PropertyStep.ownAll steps, step.Plain) :=
        PropertyStep.runAll_relates PropertyStep.Plain (PropertyRules.ScopedAs sets)
          (fun own plain alike => PropertyStep.run_scopedAs plain own alike) plain
          { held with tag := none } { held with tag := some sets } ⟨rfl, fresh, _, .inl rfl, rfl⟩
      cases step with
      | property name accessor steps =>
          exact .cons (related (.new name accessor) rfl fun step member => (first step member).1) rest
      | collection name accessor steps =>
          exact .cons (related (.newCollection name accessor) rfl first) rest
      | _ => exact first.elim

end ObjectStep

/-! ### Copies beside declarations -/

namespace PropertyRules

theorem handNested_bind (held : PropertyRules) (sets : RuleSets) (resolver : Resolver) :
    (held.handNested sets).bind resolver = (held.bind resolver).handNested sets := by
  rw [bind_eq, bind_eq]
  refine congrArg (fun rules => { held with rules }) ?_
  change (held.rules.handNested sets).bind resolver = (held.rules.bind resolver).handNested sets
  by_cases bound : resolver.isBoundIn held.rules.resolver = true
  · have still : resolver.isBoundIn (held.rules.handNested sets).resolver = true := bound
    rw [ValueRules.bind_of_bound resolver bound, ValueRules.bind_of_bound resolver still]
  · have still : ¬ resolver.isBoundIn (held.rules.handNested sets).resolver = true := bound
    have attached : (held.rules.nested.map (·.inherit sets)).map (·.bind resolver) =
        (held.rules.nested.map (·.bind resolver)).map (·.inherit sets) := by
      rw [Option.map_map, Option.map_map]
      exact Option.map_congr fun entry _ =>
        Node.entry.inj ((Node.entry entry).bind_inherit sets resolver)
    rw [ValueRules.bind_of_free resolver bound, ValueRules.bind_of_free resolver still]
    simp only [ValueRules.handNested, attached]

theorem bindOwn_handNested (rules : ObjectRules) (held : PropertyRules) (sets : RuleSets) :
    rules.bindOwn (held.handNested sets) = (rules.bindOwn held).handNested sets := by
  unfold ObjectRules.bindOwn
  cases rules.resolver with
  | none => rfl
  | some resolver => exact held.handNested_bind sets resolver

theorem UnmovedBy.bindOwn {held : PropertyRules} {sets : RuleSets} {context : Context}
    (unmoved : held.UnmovedBy sets context) (rules : ObjectRules) :
    (rules.bindOwn held).UnmovedBy sets context := by
  refine unmoved.imp_right fun ⟨indifferent, reads⟩ => ⟨fun entry present => ?_, reads⟩
  unfold ObjectRules.bindOwn at present
  cases bound : rules.resolver with
  | none =>
      rw [bound] at present
      exact indifferent entry present
  | some resolver =>
      rw [bound] at present
      simp only [bind_eq] at present
      by_cases already : resolver.isBoundIn held.rules.resolver = true
      · rw [ValueRules.bind_of_bound resolver already] at present
        exact indifferent entry present
      · rw [ValueRules.bind_of_free resolver already] at present
        obtain ⟨old, oldPresent, rfl⟩ := Option.map_eq_some_iff.mp present
        exact (indifferent old oldPresent).bind resolver

theorem inherited_bindOwn (rules : ObjectRules) (held : PropertyRules) :
    (rules.bindOwn held).rules.inherited = held.rules.inherited := by
  unfold ObjectRules.bindOwn
  cases rules.resolver with
  | none => rfl
  | some resolver =>
      simp only [bind_eq]
      rw [held.rules.bind_eq]

end PropertyRules

namespace ObjectStep

variable {declarations : List ObjectStep} (declares : ∀ step ∈ declarations, step.Declares)
  (rules : ObjectRules)

include declares

/-- The validator that is included has the properties as they are declared out of scopes. -/
theorem properties_included : (runAll declarations (.empty rules.target)).value.properties =
    declarations.filterMap (·.declared? none) := by
  rw [runAll_declares declares]
  exact List.map_id _

theorem run_include (tag : Option RuleSets) (current : rules.stack.current = tag) :
    ((includeFrom declarations).run rules).value =
      { rules with
        properties := rules.properties ++ (declarations.filterMap (·.declared? none)).map fun held =>
          rules.bindOwn (match tag with
            | some sets => { held with tag := some sets }
            | none => held) } := by
  have copies := properties_included declares rules
  simp only [run, Built.bind, pure, Built.pure, ObjectRules.includeFrom, copies]
  subst current
  rfl

variable {names : RuleSets} (required : names.required = .ok names) (fails : Bool)

include required

theorem scope_declares : ((scope names declarations fails).run rules).value =
    { rules with
      properties := rules.properties ++
        (declarations.filterMap (·.declared? (some names))).map rules.bindOwn } := by
  have inside : (rules.enter names).stack.current = some names := rfl
  have depth : (rules.enter names).stack.leaveTo rules.stack.depth = rules.stack :=
    rules.stack.leaveTo_enter names
  simp only [run, required, Built.bind, Built.reply, runAll_declares declares, inside,
    ObjectRules.leaveTo, depth]
  rfl

theorem scope_include : ((scope names [includeFrom declarations] fails).run rules).value =
    { rules with
      properties := rules.properties ++ (declarations.filterMap (·.declared? none)).map fun held =>
        rules.bindOwn { held with tag := some names } } := by
  have depth : (rules.enter names).stack.leaveTo rules.stack.depth = rules.stack :=
    rules.stack.leaveTo_enter names
  have body : (runAll [includeFrom declarations] (rules.enter names)).value =
      ((includeFrom declarations).run (rules.enter names)).value := rfl
  simp only [run, required, Built.bind, Built.reply]
  rw [body, run_include declares (rules.enter names) (some names) rfl]
  simp only [ObjectRules.leaveTo, ObjectRules.enter] at depth ⊢
  rw [depth]
  rfl

end ObjectStep

namespace PropertyRules

/-- What is declared in a scope, beside the copy of what is declared out of scopes, in an object that
binds both. -/
theorem ScopedAs.handed {sets : RuleSets} {plain inside : PropertyRules}
    (alike : plain.ScopedAs sets inside) (rules : ObjectRules) :
    rules.bindOwn inside = rules.bindOwn { plain with tag := some sets } ∨
      rules.bindOwn inside = (rules.bindOwn { plain with tag := some sets }).handNested sets := by
  obtain ⟨_, _, inner, rfl | rfl, rfl⟩ := alike
  · exact .inl rfl
  · exact .inr (bindOwn_handNested rules { plain with tag := some sets } sets)

theorem ScopedAs.report {sets : RuleSets} (listed : sets.isEmpty = false)
    {plain inside : PropertyRules} (alike : plain.ScopedAs sets inside) (rules : ObjectRules)
    {context : Context} (requested : RuleSets.NotEmpty context.ruleSets)
    (unmoved : plain.UnmovedBy sets context) (value : Value) :
    (Node.property (rules.bindOwn inside)).report value context =
      (Node.property (rules.bindOwn { plain with tag := some sets })).report value context := by
  rcases alike.handed rules with same | handed
  · rw [same]
  · have retagged : ({ plain with tag := some sets } : PropertyRules).UnmovedBy sets context := unmoved
    have fresh : (rules.bindOwn { plain with tag := some sets }).rules.inherited = none :=
      (inherited_bindOwn rules _).trans (congrArg Prod.snd alike.2.1)
    rw [handed]
    exact report_handNested listed fresh requested (retagged.bindOwn rules) value

theorem ScopedAs.label {sets : RuleSets} {plain inside : PropertyRules}
    (alike : plain.ScopedAs sets inside) (rules : ObjectRules) :
    (rules.bindOwn inside).member = (rules.bindOwn { plain with tag := some sets }).member ∧
      (rules.bindOwn inside).tag = (rules.bindOwn { plain with tag := some sets }).tag := by
  rcases alike.handed rules with same | handed
  · rw [same]
    exact ⟨rfl, rfl⟩
  · rw [handed]
    exact ⟨rfl, rfl⟩

end PropertyRules

/-- In a scope, copies and declared properties report the same if the sets of the scope leave what is
nested in them unmoved. -/
theorem ObjectStep.report_scope {declarations : List ObjectStep}
    (declares : ∀ step ∈ declarations, step.Declares) (rules : ObjectRules) {names : RuleSets}
    (required : names.required = .ok names) (fails : Bool) {value : Value} {context : Context}
    (unmoved : RuleSets.isActive (some names) (rules.contextFor value context).ruleSets = true →
      ∀ held ∈ (runAll declarations (.empty rules.target)).value.properties,
        held.UnmovedBy names (rules.contextFor value context)) :
    (Node.object ((scope names declarations fails).run rules).value).report value context =
      (Node.object ((scope names [includeFrom declarations] fails).run rules).value).report value
        context := by
  have listed : names.isEmpty = false := by
    cases empty : names.isEmpty with
    | false => rfl
    | true =>
        rw [RuleSets.required, empty, Bool.true_or, if_pos rfl] at required
        cases required
  have requested : RuleSets.NotEmpty (rules.contextFor value context).ruleSets :=
    RuleSets.notEmpty_nonEmpty? _
  rw [properties_included declares] at unmoved
  rw [scope_declares declares rules required fails, scope_include declares rules required fails]
  refine @Node.report_object_of_properties { rules with properties := _ } _ value context ?_
  refine List.rel_append (List.forall₂_same.mpr fun held _ => ⟨rfl, rfl, fun _ => rfl⟩) ?_
  rw [List.forall₂_map_left_iff, List.forall₂_map_right_iff]
  have pairs := (List.forall₂_and_left _ _).mpr
    ⟨fun held (member : held ∈ declarations.filterMap (·.declared? none)) => member,
      forall₂_declared declares names⟩
  refine pairs.imp fun plain inside ⟨member, alike⟩ => ?_
  have ⟨name, tag⟩ := alike.label rules
  refine ⟨name, tag, fun active => ?_⟩
  have tagged : (rules.bindOwn { plain with tag := some names }).tag = some names :=
    rules.tag_bindOwn _
  rw [PropertyRules.isActive, tagged] at active
  exact alike.report listed rules requested (unmoved active plain member) value

/-- Out of scopes, including a validator is declaring its properties. In a scope, the copies differ from
declared properties in one respect: what was nested in them is not handed the sets of the scope. Both
report the same wherever that makes no difference: the sets are not requested, or they are what is
requested, or they select the same in what is nested, which does not look at the selector. -/
theorem include_as_declared {declarations : List ObjectStep}
    (declares : ∀ step ∈ declarations, step.Declares) (rules : ObjectRules) :
    (rules.stack.current = none →
      ((ObjectStep.includeFrom declarations).run rules).value =
        (ObjectStep.runAll declarations rules).value) ∧
    ∀ (names : RuleSets) (fails : Bool),
      let included := ((ObjectStep.scope names [.includeFrom declarations] fails).run rules).value
      let declared := ((ObjectStep.scope names declarations fails).run rules).value
      declared = { included with properties := declared.properties } ∧
        List.Forall₂ (fun held other => other = held ∨ other = held.handNested names)
          included.properties declared.properties ∧
        ∀ (value : Value) (context : Context),
          (RuleSets.isActive (some names) (included.contextFor value context).ruleSets = true →
            ∀ held ∈ (ObjectStep.runAll declarations (.empty rules.target)).value.properties,
              held.UnmovedBy names (included.contextFor value context)) →
          ((Node.object declared).failures? value context).value =
            ((Node.object included).failures? value context).value := by
  constructor
  · intro outside
    rw [ObjectStep.run_include declares rules none outside, ObjectStep.runAll_declares declares,
      outside]
  · intro names fails
    cases required : names.required with
    | error error =>
        simp only [ObjectStep.run, required, Built.reply]
        refine ⟨?_, List.forall₂_same.mpr fun held _ => .inl rfl, fun _ _ _ => trivial⟩
        cases rules
        rfl
    | ok sets =>
        obtain rfl := RuleSets.required_eq required
        have included := ObjectStep.scope_include declares rules required fails
        have declared := ObjectStep.scope_declares declares rules required fails
        refine ⟨?_, ?_, fun value context unmoved => ?_⟩
        · rw [included, declared]
        · rw [included, declared]
          refine List.rel_append (List.forall₂_same.mpr fun held _ => .inl rfl) ?_
          rw [List.forall₂_map_left_iff, List.forall₂_map_right_iff]
          exact (ObjectStep.forall₂_declared declares sets).imp fun plain inside alike =>
            alike.handed rules
        · rw [included] at unmoved
          rw [Node.failures?_value, Node.failures?_value,
            ObjectStep.report_scope declares rules required fails unmoved]

/-- A declaration of tags, each of which is required, and required once more in the set "b". -/
def ObjectStep.declareTags : ObjectStep :=
  .collection "Tags" pure
    [.element (.value [.required, .scope ⟨["b"]⟩ [.required] false]) false]

theorem declareTags_declares : ∀ step ∈ [ObjectStep.declareTags], step.Declares := by
  intro step member
  rw [List.mem_singleton.mp member]
  intro part partMember
  rw [List.mem_singleton.mp partMember]
  trivial

/-- One blank tag. -/
def blankTag : Value := .collection .list .string [.string ""]

/-- An order whose tags are included in the set "a". -/
def includedTags : ObjectRules :=
  ((ObjectStep.scope ⟨["a"]⟩ [.includeFrom [.declareTags]] false).run
    (.empty (.record "Order"))).value

/-- An order whose tags are declared in the set "a". -/
def declaredTags : ObjectRules :=
  ((ObjectStep.scope ⟨["a"]⟩ [.declareTags] false).run (.empty (.record "Order"))).value

/-- On a request for the set "a", the one failure of a tag is reported, whether the tags are declared
or included in that set. -/
theorem include_tags_in_requested_scope :
    let context := Context.forRuleSets ⟨["a"]⟩
    ((Node.object includedTags).failures? blankTag context).value.map List.length = some 1 ∧
      ((Node.object declaredTags).failures? blankTag context).value =
        ((Node.object includedTags).failures? blankTag context).value := by
  refine ⟨by decide, ?_⟩
  have inside :=
    (include_as_declared declareTags_declares (.empty (.record "Order"))).2 ⟨["a"]⟩ false
  exact inside.2.2 blankTag (.forRuleSets ⟨["a"]⟩) fun _ _ _ => .inl rfl

/-- On a request for both sets, the tags that are included report a failure more: those that are
declared in the set "a" were handed this set, and know of no other one. -/
theorem include_tags_beyond_scope :
    (∀ step ∈ [ObjectStep.declareTags], step.Declares) ∧
      let context := Context.forRuleSets ⟨["a", "b"]⟩
      ((Node.object includedTags).failures? blankTag context).value.map List.length = some 2 ∧
        ((Node.object declaredTags).failures? blankTag context).value.map List.length = some 1 :=
  ⟨declareTags_declares, by decide⟩

end RuleTree
