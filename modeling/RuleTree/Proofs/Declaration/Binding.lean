import RuleTree.Proofs.Declaration.Building
import RuleTree.Proofs.Declaration.Slots
import RuleTree.Proofs.Tree.Binding

/-!
Binding a resolver, among the declarations of an object.
-/

set_option autoImplicit false

namespace RuleTree

/-! ### What is built is sealed -/

/-- A step of its own that goes on with the same validator and binds nothing to it. -/
def ValueStep.KeepsBinding : ValueStep → Prop
  | .scope .. | .replace _ | .bind _ => False
  | _ => True

namespace ValueStep

theorem KeepsBinding.continues {step : ValueStep} (keeps : step.KeepsBinding) :
    step.Continues := by
  cases step with
  | scope | replace => exact keeps.elim
  | _ => trivial

theorem resolver_run {step : ValueStep} (keeps : step.KeepsBinding) (rules : ValueRules) :
    (step.run rules).value.resolver = rules.resolver := by
  refine part_run (·.resolver) (fun _ _ _ _ _ _ _ _ _ => rfl) keeps.continues rules ?_ ?_
  · intro names _
    rw [rules.inherit_eq]
  · rintro resolver rfl
    exact keeps.elim

theorem resolver_run_of_each {step : ValueStep} (keeps : step.level.Each KeepsBinding)
    (rules : ValueRules) : (step.run rules).value.resolver = rules.resolver := by
  have each : Level.EachOf KeepsBinding [step.level] := ⟨keeps, trivial⟩
  rw [run_level]
  exact Level.runAll_keeps KeepsBinding (fun after : ValueRules => after.resolver = rules.resolver)
    (fun keeps same => (resolver_run keeps _).trans same) (fun _ same => same) (fun _ _ same => same)
    each rfl

end ValueStep

/-- A rule that was made elsewhere is sealed, and the rules of properties are not replaced and are
bound to nothing. -/
def Part.Binds : Part → Prop
  | .rule (.given made) => (Node.rule made).Everywhere Node.Sealed
  | .property (.value step) => step.level.Each ValueStep.KeepsBinding
  | _ => True

namespace TreeInvariant

/-- Whatever a validator holds is held below it. -/
def binding : TreeInvariant where
  fits slot rule := (Node.rule rule).SealedUnder slot
  settled _ := True
  admits step := step.level.Each ValueStep.KeepsBinding
  alone under := ⟨under.1, nofun⟩
  leaf _ := ⟨Node.everywhere_sealed_iff.mpr nofun, nofun⟩
  contextual _ := ⟨Node.everywhere_sealed_iff.mpr nofun, nofun⟩
  presence := ⟨Node.everywhere_sealed_iff.mpr nofun, nofun⟩
  predicate _ := ⟨Node.everywhere_sealed_iff.mpr nofun, nofun⟩
  composite parts := ⟨Node.everywhere_composite.mpr
    ⟨Node.sealed_of_slotless rfl, fun part member => (parts part member).1⟩, nofun⟩
  conditional accepted rejected := ⟨Node.everywhere_conditional.mpr
    ⟨Node.sealed_of_slotless rfl, accepted.1, fun branch member => (rejected branch member).1⟩,
    nofun⟩
  value := by
    intro rules
    rw [Node.sealedUnder_none_iff rfl]
    simp only [Node.children, List.forall_mem_map]
    exact forall₂_congr fun entry _ => Node.sealedUnder_of_single rfl rfl
  elements := by
    intro rules
    rw [Node.sealedUnder_none_iff rfl]
    simp only [Node.children, List.forall_mem_map, Option.mem_toList, implies_true, and_true]
    rfl
  object := by
    intro reach rules
    rw [Node.sealedUnder_of_single rfl rfl, Node.sealedUnder_none_iff rfl]
    simp only [Node.children, List.forall_mem_append, List.forall_mem_map, Option.mem_toList]
    refine and_congr (forall₂_congr fun held _ => ?_) (forall₂_congr fun child _ => ?_)
    · exact Node.sealedUnder_of_single rfl rfl
    · exact (Node.sealedUnder_of_single rfl rfl).symm
  bind resolver whole := whole.bind resolver
  inherit sets under := under.inherit sets
  settles _ _ := trivial
  settled_bind _ _ := trivial
  value_within under same whole := under.within rfl (congrArg some same) whole
  elements_within under same whole := under.within rfl (congrArg some same) whole
  admitted keeps under whole :=
    under.within rfl (congrArg some (ValueStep.resolver_run_of_each keeps _)) whole

theorem binding_admits {part : Part} (binds : part.Everywhere Part.Binds) :
    part.Everywhere binding.Admits := by
  induction binds with
  | @intro part here _ ih =>
      refine .intro ?_ ih
      cases part with
      | rule form =>
          cases form with
          | given rule => exact ⟨here, nofun⟩
          | _ => trivial
      | property step =>
          cases step with
          | value step => exact here
          | _ => trivial
      | value | element | object => trivial

end TreeInvariant

/-! ### Binding among the steps on the rules of a value -/

/-- A slot in which a resolver is put or is already. -/
def Resolver.MayFill (resolver : Resolver) (slot : Option Resolver) : Prop :=
  slot = none ∨ resolver.isBoundIn slot = true

namespace ValueRules

variable {rules : ValueRules} (resolver : Resolver)

/-- A change that goes on with the entries as binding leaves them may be made before or after a
resolver is bound. -/
theorem bind_comm (change : ValueRules → ValueRules)
    (kept : (change rules).resolver = rules.resolver)
    (frame : change { rules with
        presence := rules.presence.map (·.bind resolver)
        general := rules.general.map (·.bind resolver)
        nested := rules.nested.map (·.bind resolver)
        resolver := some resolver } =
      { change rules with
        presence := (change rules).presence.map (·.bind resolver)
        general := (change rules).general.map (·.bind resolver)
        nested := (change rules).nested.map (·.bind resolver)
        resolver := some resolver }) :
    change (rules.bind resolver) = (change rules).bind resolver := by
  by_cases bound : resolver.isBoundIn rules.resolver = true
  · have still : resolver.isBoundIn (change rules).resolver = true := by rwa [kept]
    rw [bind_of_bound resolver bound, bind_of_bound resolver still]
  · have still : ¬ resolver.isBoundIn (change rules).resolver = true := by rwa [kept]
    rw [bind_of_free resolver bound, bind_of_free resolver still, frame]

theorem pushPresence_bind (free : rules.resolver = none) (rule : Rule) :
    (rules.bind resolver).pushPresence rule = (rules.pushPresence rule).bind resolver := by
  refine bind_comm resolver (·.pushPresence rule) rfl ?_
  simp only [pushPresence, entry, free, List.map_append, List.map_cons, List.map_nil,
    List.length_map, RuleEntry.bind_eq]

theorem pushRule_bind (free : rules.resolver = none) (rule : Rule) :
    (rules.bind resolver).pushRule rule = (rules.pushRule rule).bind resolver := by
  refine bind_comm resolver (·.pushRule rule) rfl ?_
  simp only [pushRule, entry, free, List.map_append, List.map_cons, List.map_nil,
    List.length_map, RuleEntry.bind_eq]

theorem nesting_bind (free : rules.resolver = none) (rule : Rule) :
    (rules.bind resolver).nesting rule = (rules.nesting rule).bind resolver := by
  refine bind_comm resolver (·.nesting rule) rfl ?_
  simp only [nesting, entry, free, selectorForNested, Option.map_some, RuleEntry.bind_eq]

theorem setLastMessage_bind (rules : ValueRules) (message : MessageOverride) :
    (rules.bind resolver).setLastMessage message =
      (rules.setLastMessage message).bind resolver := by
  have edits (held : RuleEntry) :
      (held.setMessage message).bind resolver = (held.bind resolver).setMessage message := by
    rw [RuleEntry.bind_eq, RuleEntry.bind_eq]
    rfl
  have inList (entries : List RuleEntry) (position : Nat) :
      (entries.modify position (·.setMessage message)).map (·.bind resolver) =
        (entries.map (·.bind resolver)).modify position (·.setMessage message) :=
    map_modify edits entries position
  have kept : (rules.setLastMessage message).resolver = rules.resolver :=
    part_modifyLast (·.resolver) (fun _ _ _ _ _ => rfl) rules _
  refine bind_comm resolver (·.setLastMessage message) kept ?_
  rcases last : rules.last with _ | (position | position | _)
  · simp only [setLastMessage, modifyLast, last]
  · simp only [setLastMessage, modifyLast, last, inList]
  · simp only [setLastMessage, modifyLast, last, inList]
  · simp only [setLastMessage, modifyLast, last, Option.map_map, Function.comp_def, edits]

theorem setDefaultMessage_bind (rules : ValueRules) (message : MessageOverride) :
    (rules.bind resolver).setDefaultMessage message =
      (rules.setDefaultMessage message).bind resolver := by
  have edits (held : RuleEntry) : (held.bind resolver).setDefaultMessage message =
      (held.setDefaultMessage message).bind resolver := by
    rw [RuleEntry.bind_eq, RuleEntry.bind_eq]
    unfold RuleEntry.setDefaultMessage
    split <;> rfl
  refine bind_comm resolver (·.setDefaultMessage message) rfl ?_
  simp only [setDefaultMessage, List.map_map, Option.map_map, Function.comp_def, edits]

theorem isSome_nested_bind (rules : ValueRules) :
    (rules.bind resolver).nested.isSome = rules.nested.isSome := by
  by_cases bound : resolver.isBoundIn rules.resolver = true
  · rw [bind_of_bound resolver bound]
  · rw [bind_of_free resolver bound, Option.isSome_map]

theorem settle_attachNested_bind (free : rules.resolver = none) (rule : Rule)
    (site alternative : String) :
    (Built.settle (rules.bind resolver)
        ((rules.bind resolver).attachNested rule site alternative)).value =
      (Built.settle rules (rules.attachNested rule site alternative)).value.bind resolver := by
  have same := rules.isSome_nested_bind resolver
  cases taken : rules.nested.isSome with
  | true =>
      rw [attachNested_of_taken taken, attachNested_of_taken (same.trans taken)]
      rfl
  | false =>
      rw [attachNested_of_free taken, attachNested_of_free (same.trans taken)]
      exact nesting_bind resolver free rule

end ValueRules

namespace ValueStep

theorem run_bind {step : ValueStep} (keeps : step.KeepsBinding) {rules : ValueRules}
    {resolver : Resolver} (fills : resolver.MayFill rules.resolver) :
    (step.run (rules.bind resolver)).value = (step.run rules).value.bind resolver := by
  rcases fills with free | bound
  · cases step with
    | rule form =>
        simp only [run, Built.bind]
        cases form.build.value with
        | none => rfl
        | some rule => exact ValueRules.pushRule_bind resolver free rule
    | contextual leaf => exact ValueRules.pushRule_bind resolver free _
    | required => exact ValueRules.pushPresence_bind resolver free _
    | allowEmpty => exact ValueRules.bind_comm resolver (·.allowEmpty) rfl rfl
    | guard test => exact ValueRules.bind_comm resolver (·.addGuard test) rfl rfl
    | mode mode => exact ValueRules.bind_comm resolver (·.setMode mode) rfl rfl
    | message message => exact rules.setLastMessage_bind resolver message
    | defaultMessage message => exact rules.setDefaultMessage_bind resolver message
    | preprocess transform =>
        exact ValueRules.bind_comm resolver (·.setPreprocess transform) rfl rfl
    | presence form =>
        simp only [run, Built.bind]
        cases form.build.value with
        | none => rfl
        | some rule => exact ValueRules.pushPresence_bind resolver free rule
    | nested steps => exact ValueRules.settle_attachNested_bind resolver free _ _ _
    | attach form site alternative =>
        simp only [run, Built.bind]
        cases form.build.value with
        | none => rfl
        | some rule => exact ValueRules.settle_attachNested_bind resolver free rule site alternative
    | inherit names =>
        exact (Rule.value.inj (Node.rule.inj
          ((Node.rule (.value rules)).bind_inherit names resolver))).symm
    | info => rfl
    | scope | bind | replace => exact keeps.elim
  · have still : resolver.isBoundIn (step.run rules).value.resolver = true := by
      rwa [resolver_run keeps]
    rw [ValueRules.bind_of_bound resolver bound, ValueRules.bind_of_bound resolver still]

/-- Binding a resolver may be put off until all else is declared. -/
def binding (resolver : Resolver) : Level.Deferral machine Unit where
  pick _ := none
  op _ rules := rules.bind resolver
  allows := KeepsBinding
  ready rules := resolver.MayFill rules.resolver
  picked _ picked := absurd picked nofun
  absorbs _ _ rules := ValueRules.bind_of_bound resolver (rules.isBoundIn_bind resolver)
  commutes _ _ keeps fills := run_bind keeps fills
  enter _ sets rules := ValueRules.bind_comm resolver (·.enter sets) rfl rfl
  leave _ before after := ValueRules.bind_comm resolver (·.leaveTo before.stack.depth) rfl rfl
  leave_op _ before after := by
    have depth : (before.bind resolver).stack = before.stack := by rw [before.bind_eq]
    simp only [machine, depth]
  ready_run _ keeps fills := by
    rw [machine, resolver_run keeps]
    exact fills
  ready_op _ _ := .inr (ValueRules.isBoundIn_bind resolver _)
  ready_enter _ fills := fills
  ready_leave _ _ fills := fills

theorem run_bind_of_each {step : ValueStep} (keeps : step.level.Each KeepsBinding)
    {rules : ValueRules} (resolver : Resolver) (fills : resolver.MayFill rules.resolver) :
    (step.run (rules.bind resolver)).value = (step.run rules).value.bind resolver := by
  have each : Level.EachOf KeepsBinding [step.level] := ⟨keeps, trivial⟩
  have comm := ((binding resolver).runAll_sparing _ each fills).2 ()
  rw [Level.sparingAll_of_none (binding resolver).pick fun _ => rfl] at comm
  rw [run_level, run_level]
  exact comm

end ValueStep

/-! ### Binding among the steps on a property -/

namespace ElementRules

theorem handed_bind (rules : ElementRules) (tag : Option RuleSets) (resolver : Resolver) :
    (rules.bind resolver).handed tag = (rules.handed tag).bind resolver := by
  cases tag with
  | none => rfl
  | some sets =>
      exact (Rule.elements.inj (Node.rule.inj
        ((Node.rule (.elements rules)).bind_inherit sets resolver))).symm

theorem resolver_handed (rules : ElementRules) (tag : Option RuleSets) :
    (rules.handed tag).resolver = rules.resolver := by
  cases tag with
  | none => rfl
  | some sets =>
      rw [handed, rules.inherit_eq]

theorem attaching_bind {rules : ElementRules} (free : rules.resolver = none) (element : Rule)
    (resolver : Resolver) :
    (rules.bind resolver).attaching element = (rules.attaching element).bind resolver := by
  rw [bind_eq, bind_eq]
  simp only [attaching, free, Option.map_some]

theorem setFilter_bind (rules : ElementRules) (test : Test) (resolver : Resolver) :
    (rules.bind resolver).setFilter test = (rules.setFilter test).bind resolver := by
  rw [bind_eq, bind_eq]
  rfl

end ElementRules

/-- The container of a collection property holds nothing as long as the property does not. -/
def ContainerInvariant.unbound (tag : Option RuleSets) : ContainerInvariant tag where
  holds rules := rules.resolver = none
  allows := ValueStep.KeepsBinding
  continues keeps := keeps.continues
  inherit {rules} sets free := by rwa [rules.inherit_eq]
  bind keeps := keeps.elim
  attach {rules} _ free := (rules.resolver_handed tag).trans free
  filter {rules} _ free := (rules.resolver_handed tag).trans free

namespace PropertyRules

variable {held : PropertyRules} {elements : ElementRules} (resolver : Resolver)

theorem bind_of_bound (bound : resolver.isBoundIn held.rules.resolver = true) :
    held.bind resolver = held := by
  rw [bind_eq, ValueRules.bind_of_bound resolver bound]
  cases held
  rfl

theorem elements?_bind (free : held.rules.resolver = none)
    (found : held.elements? = some elements) :
    (held.bind resolver).elements? = some (elements.bind resolver) := by
  have unbound : ¬ resolver.isBoundIn held.rules.resolver = true := by rw [free]; nofun
  obtain ⟨entry, nested, same⟩ := elements?_iff.mp found
  refine elements?_iff.mpr ⟨entry.bind resolver, ?_, ?_⟩
  · rw [bind_eq, ValueRules.bind_of_free resolver unbound, nested, Option.map_some]
  · rw [RuleEntry.bind_eq, same, Rule.bind]

theorem putElements_bind (free : held.rules.resolver = none) (changed : ElementRules) :
    (held.bind resolver).putElements (changed.bind resolver) =
      (held.putElements changed).bind resolver := by
  have unbound : ¬ resolver.isBoundIn held.rules.resolver = true := by rw [free]; nofun
  have still : ¬ resolver.isBoundIn (held.putElements changed).rules.resolver = true := unbound
  rw [bind_eq, bind_eq, ValueRules.bind_of_free resolver unbound,
    ValueRules.bind_of_free resolver still]
  simp only [putElements, modifyRules, Option.map_map, Function.comp_def, RuleEntry.bind_eq,
    Rule.bind]

end PropertyRules

namespace PropertyStep

def KeepsBinding : PropertyStep → Prop
  | .value step => step.level.Each ValueStep.KeepsBinding
  | _ => True

/-- A step that opens the container of a collection property. -/
def OpensElements : PropertyStep → Prop
  | .element .. | .filter _ => True
  | _ => False

theorem resolver_run {step : PropertyStep} (keeps : step.KeepsBinding)
    (plain : ∀ steps, step ≠ .property steps) (held : PropertyRules) :
    (step.run held).value.rules.resolver = held.rules.resolver := by
  rcases run_cases plain held with ⟨own, rfl, run⟩ | ⟨_, _, _, _, _, run⟩
  · rw [run]
    exact ValueStep.resolver_run_of_each keeps held.rules
  · rw [run]

/-- The steps on a property that is not bound may be taken before or after it is bound. -/
theorem run_bind_of_free {step : PropertyStep} (keeps : step.KeepsBinding)
    (plain : ∀ steps, step ≠ .property steps) {held : PropertyRules} {resolver : Resolver}
    (free : held.rules.resolver = none)
    (contains : step.OpensElements → held.Contains fun elements => elements.resolver = none) :
    (step.run (held.bind resolver)).value = (step.run held).value.bind resolver := by
  have tag : (held.bind resolver).tag = held.tag := by rw [PropertyRules.bind_eq]
  cases step with
  | value step =>
      have comm := ValueStep.run_bind_of_each keeps resolver (.inl free)
      simp only [run, Built.bind, PropertyRules.bind_eq, comm]
      rfl
  | member name =>
      simp only [run, PropertyRules.bind_eq]
      rfl
  | display name =>
      simp only [run, PropertyRules.bind_eq]
      rfl
  | skipAnnotations =>
      simp only [run, PropertyRules.bind_eq]
      rfl
  | nested reach target steps =>
      have same := held.rules.isSome_nested_bind resolver
      simp only [run, Built.bind, PropertyRules.setValidator, PropertyRules.bind_eq]
      cases taken : held.rules.nested.isSome with
      | true =>
          rw [ValueRules.attachNested_of_taken taken,
            ValueRules.attachNested_of_taken (same.trans taken)]
          rfl
      | false =>
          rw [ValueRules.attachNested_of_free taken,
            ValueRules.attachNested_of_free (same.trans taken),
            ValueRules.nesting_bind resolver free]
          rfl
  | element form deferred =>
      obtain ⟨elements, found, unbound⟩ := contains trivial
      have foundBound := PropertyRules.elements?_bind resolver free found
      have same : (elements.bind resolver).element.isSome = elements.element.isSome := by
        rw [ElementRules.bind_eq, Option.isSome_map]
      cases taken : elements.element.isSome with
      | true =>
          rw [element_of_taken found taken, element_of_taken foundBound (same.trans taken), tag,
            ElementRules.handed_bind]
          exact PropertyRules.putElements_bind resolver free _
      | false =>
          -- A container with a resolver of its own would bind the new rule to it first.
          have still := (elements.resolver_handed held.tag).trans unbound
          rw [element_of_free found taken, element_of_free foundBound (same.trans taken), tag,
            ElementRules.handed_bind]
          refine Eq.trans ?_ (PropertyRules.putElements_bind resolver free _)
          rw [← ElementRules.attaching_bind still]
          rfl
  | filter test =>
      obtain ⟨elements, found, _⟩ := contains trivial
      have foundBound := PropertyRules.elements?_bind resolver free found
      change (held.bind resolver).setFilter test = (held.setFilter test).bind resolver
      rw [PropertyRules.setFilter_of_some found, PropertyRules.setFilter_of_some foundBound, tag,
        ElementRules.handed_bind, ElementRules.setFilter_bind]
      exact PropertyRules.putElements_bind resolver free _
  | property steps => exact absurd rfl (plain steps)
  | tellMember => rfl
  | info => rfl

/-- Steps on a property may be taken before or after it is bound. Those on a plain property open no
container, and the container of a collection property holds nothing before the property does. -/
theorem runAll_bind {steps : List PropertyStep} {opens : Prop}
    (keeps : ∀ step ∈ ownAll steps, step.KeepsBinding ∧ (step.OpensElements → opens))
    {held : PropertyRules} {resolver : Resolver} (free : held.rules.resolver = none)
    (contains : opens → held.Contains fun elements => elements.resolver = none) :
    (runAll steps (held.bind resolver)).value = (runAll steps held).value.bind resolver := by
  have related := runAll_relates (fun step => step.KeepsBinding ∧ (step.OpensElements → opens))
    (fun bound held => bound = held.bind resolver ∧ held.rules.resolver = none ∧
      (opens → held.Contains fun elements => elements.resolver = none))
    (fun {step bound held} plain keeps related => by
      obtain ⟨rfl, free, contains⟩ := related
      refine ⟨run_bind_of_free keeps.1 plain free fun opened => contains (keeps.2 opened),
        (resolver_run keeps.1 plain held).trans free, fun opened => ?_⟩
      have allowed : (ContainerInvariant.unbound held.tag).Allows step := by
        cases step with
        | value step => exact keeps.1
        | _ => trivial
      exact ContainerInvariant.property_run allowed plain rfl (contains opened))
    keeps (held.bind resolver) held ⟨rfl, free, contains⟩
  exact related.1

end PropertyStep

/-! ### Binding among the steps on an object -/

namespace ObjectRules

variable {rules : ObjectRules} (resolver : Resolver)

theorem bind_comm (change : ObjectRules → ObjectRules)
    (kept : (change rules).resolver = rules.resolver)
    (frame : change { rules with
        properties := rules.properties.map (·.bind resolver)
        child := rules.child.map (·.bind resolver)
        resolver := some resolver } =
      { change rules with
        properties := (change rules).properties.map (·.bind resolver)
        child := (change rules).child.map (·.bind resolver)
        resolver := some resolver }) :
    change (rules.bind resolver) = (change rules).bind resolver := by
  by_cases bound : resolver.isBoundIn rules.resolver = true
  · have still : resolver.isBoundIn (change rules).resolver = true := by rwa [kept]
    rw [bind_of_bound resolver bound, bind_of_bound resolver still]
  · have still : ¬ resolver.isBoundIn (change rules).resolver = true := by rwa [kept]
    rw [bind_of_free resolver bound, bind_of_free resolver still, frame]

variable (free : rules.resolver = none)

include free

theorem bindOwn_bind (held : PropertyRules) :
    (rules.bind resolver).bindOwn held = (rules.bindOwn held).bind resolver := by
  have unbound : ¬ resolver.isBoundIn rules.resolver = true := by rw [free]; nofun
  rw [bind_of_free resolver unbound]
  simp only [bindOwn, free]

theorem addProperty_bind (held : PropertyRules) :
    (rules.bind resolver).addProperty (held.bind resolver) =
      (rules.addProperty held).bind resolver := by
  have unbound : ¬ resolver.isBoundIn rules.resolver = true := by rw [free]; nofun
  have still : ¬ resolver.isBoundIn (rules.addProperty held).resolver = true := unbound
  rw [bind_of_free resolver unbound, bind_of_free resolver still]
  simp only [addProperty, List.map_append, List.map_cons, List.map_nil]

theorem included_bind (held : PropertyRules) :
    (rules.bind resolver).included held = (rules.included held).bind resolver := by
  have stack : (rules.bind resolver).stack = rules.stack := by rw [rules.bind_eq]
  rw [included, included, stack, bindOwn_bind resolver free]

theorem includeFrom_bind (other : ObjectRules) :
    (rules.bind resolver).includeFrom other = (rules.includeFrom other).bind resolver := by
  have unbound : ¬ resolver.isBoundIn rules.resolver = true := by rw [free]; nofun
  have copies : other.properties.map (rules.bind resolver).included =
      (other.properties.map rules.included).map (·.bind resolver) := by
    rw [List.map_map]
    exact List.map_congr_left fun held _ => included_bind resolver free held
  refine bind_comm resolver (·.includeFrom other) rfl ?_
  rw [bind_of_free resolver unbound] at copies
  simp only [includeFrom, copies, List.map_append]

theorem delegating_bind (child : ObjectRules) :
    (rules.bind resolver).delegating child = (rules.delegating child).bind resolver := by
  refine bind_comm resolver (·.delegating child) rfl ?_
  simp only [delegating, free, Option.map_some]

theorem settle_setValidator_bind (child : ObjectRules) :
    (Built.settle (rules.bind resolver) ((rules.bind resolver).setValidator child)).value =
      (Built.settle rules (rules.setValidator child)).value.bind resolver := by
  have unbound : ¬ resolver.isBoundIn rules.resolver = true := by rw [free]; nofun
  have same : (rules.bind resolver).child.isSome = rules.child.isSome := by
    rw [bind_of_free resolver unbound, Option.isSome_map]
  cases taken : rules.child.isSome with
  | true =>
      rw [setValidator_of_taken taken, setValidator_of_taken (same.trans taken)]
      rfl
  | false =>
      rw [setValidator_of_free taken, setValidator_of_free (same.trans taken)]
      exact delegating_bind resolver free child

end ObjectRules

namespace ObjectStep

/-- A step of its own that goes on with the same validator, binds nothing to it or to the rules of a
property, and opens the container of a collection property only. -/
def KeepsBinding : ObjectStep → Prop
  | .scope .. | .options _ true | .bind _ => False
  | .property _ _ steps =>
    ∀ step ∈ PropertyStep.ownAll steps, step.KeepsBinding ∧ ¬ step.OpensElements
  | .collection _ _ steps => ∀ step ∈ PropertyStep.ownAll steps, step.KeepsBinding
  | _ => True

theorem resolver_run {step : ObjectStep} (keeps : step.KeepsBinding) (rules : ObjectRules) :
    (step.run rules).value.resolver = rules.resolver := by
  cases step with
  | child steps =>
      change (Built.settle rules (rules.setValidator _)).value.resolver = rules.resolver
      unfold ObjectRules.setValidator
      split <;> rfl
  | options text fresh =>
      simp only [run]
      cases Options.parse? text with
      | none => rfl
      | some options =>
          cases fresh with
          | false => rfl
          | true => exact keeps.elim
  | inherit names =>
      change (rules.inherit names).resolver = rules.resolver
      rw [rules.inherit_eq]
  | scope | bind => exact keeps.elim
  | _ => rfl

/-- A property is declared in an object that is not bound as in one that is. -/
theorem addProperty_bind {rules : ObjectRules} (free : rules.resolver = none) (resolver : Resolver)
    {held : PropertyRules} (own : held.rules.resolver = none) {steps : List PropertyStep}
    {opens : Prop}
    (keeps : ∀ step ∈ PropertyStep.ownAll steps,
      step.KeepsBinding ∧ (step.OpensElements → opens))
    (contains : opens → held.Contains fun elements => elements.resolver = none) :
    (rules.bind resolver).addProperty
        (PropertyStep.runAll steps ((rules.bind resolver).declared held)).value =
      (rules.addProperty (PropertyStep.runAll steps (rules.declared held)).value).bind resolver := by
  have stack : (rules.bind resolver).stack = rules.stack := by rw [rules.bind_eq]
  have plain : rules.declared held = { held with tag := rules.stack.current } := by
    simp only [ObjectRules.declared, ObjectRules.bindOwn, free]
  have declared : (rules.bind resolver).declared held = (rules.declared held).bind resolver := by
    rw [ObjectRules.declared, ObjectRules.declared, stack, ObjectRules.bindOwn_bind resolver free]
  have unbound : (rules.declared held).rules.resolver = none := by
    rw [plain]
    exact own
  have within : opens →
      (rules.declared held).Contains fun elements => elements.resolver = none := by
    rw [plain]
    exact contains
  rw [declared, PropertyStep.runAll_bind keeps unbound within,
    ObjectRules.addProperty_bind resolver free]

theorem run_bind {step : ObjectStep} (keeps : step.KeepsBinding) {rules : ObjectRules}
    {resolver : Resolver} (fills : resolver.MayFill rules.resolver) :
    (step.run (rules.bind resolver)).value = (step.run rules).value.bind resolver := by
  rcases fills with free | bound
  · have target : (rules.bind resolver).target = rules.target := by rw [rules.bind_eq]
    cases step with
    | property name accessor steps =>
        exact addProperty_bind free resolver rfl keeps False.elim
    | collection name accessor steps =>
        exact addProperty_bind free resolver rfl
          (fun step member => ⟨keeps step member, fun _ => True.intro⟩)
          fun _ => ⟨.empty, rfl, rfl⟩
    | includeFrom steps =>
        simp only [run, Built.bind, target]
        exact ObjectRules.includeFrom_bind resolver free _
    | child steps =>
        simp only [run, Built.bind, target]
        exact ObjectRules.settle_setValidator_bind resolver free _
    | guard test => exact ObjectRules.bind_comm resolver (·.addGuard test) rfl rfl
    | mode mode =>
        exact ObjectRules.bind_comm resolver (fun rules => { rules with mode }) rfl rfl
    | suppressAnnotations =>
        exact ObjectRules.bind_comm resolver
          (fun rules => { rules with suppressAnnotations := true }) rfl rfl
    | validateAll all =>
        exact ObjectRules.bind_comm resolver (fun rules => { rules with validateAll := all }) rfl rfl
    | bridge form =>
        exact ObjectRules.bind_comm resolver
          (fun rules => { rules with bridge := some form.build.value }) rfl rfl
    | messages source =>
        exact ObjectRules.bind_comm resolver
          (fun rules => { rules with messages := some source }) rfl rfl
    | options text fresh =>
        simp only [run]
        cases Options.parse? text with
        | none => rfl
        | some options =>
            cases fresh with
            | false => exact ObjectRules.bind_comm resolver (·.applyOptions options) rfl rfl
            | true => exact keeps.elim
    | inherit names =>
        exact (Node.object.inj ((Node.object rules).bind_inherit names resolver)).symm
    | info => rfl
    | scope | bind => exact keeps.elim
  · have still : resolver.isBoundIn (step.run rules).value.resolver = true := by
      rwa [resolver_run keeps]
    rw [ObjectRules.bind_of_bound resolver bound, ObjectRules.bind_of_bound resolver still]

/-- The resolver that a step binds to the validator itself, if it is a given one. -/
def bound? (resolver : Resolver) :
    ObjectStep → Option { other : Resolver // other.identity = resolver.identity }
  | .bind other => if same : other.identity = resolver.identity then some ⟨other, same⟩ else none
  | _ => none

/-- Binding a resolver may be put off until all else is declared. -/
def binding (resolver : Resolver) :
    Level.Deferral machine { other : Resolver // other.identity = resolver.identity } where
  pick := bound? resolver
  op made rules := rules.bind made.1
  allows step := step.KeepsBinding ∨ (step.bound? resolver).isSome = true
  ready rules := resolver.MayFill rules.resolver
  picked := by
    intro step made rules picked
    cases step with
    | bind other =>
        simp only [bound?] at picked
        split at picked
        · cases picked
          rfl
        · exact absurd picked nofun
    | _ => exact absurd picked nofun
  absorbs first second rules := by
    refine ObjectRules.bind_of_bound second.1 ?_
    rw [Resolver.isBoundIn_congr (second.2.trans first.2.symm)]
    exact rules.isBoundIn_bind first.1
  commutes made unpicked allowed fills := by
    have keeps := allowed.resolve_right (by rw [unpicked]; nofun)
    refine run_bind keeps (fills.imp_right fun bound => ?_)
    rwa [Resolver.isBoundIn_congr made.2]
  enter _ sets _ := ObjectRules.bind_comm _ (·.enter sets) rfl rfl
  leave _ before _ := ObjectRules.bind_comm _ (·.leaveTo before.stack.depth) rfl rfl
  leave_op made before after := by
    have depth : (before.bind made.1).stack = before.stack := by rw [before.bind_eq]
    simp only [machine, depth]
  ready_run unpicked allowed fills := by
    have keeps := allowed.resolve_right (by rw [unpicked]; nofun)
    rw [machine, resolver_run keeps]
    exact fills
  ready_op made _ := by
    refine .inr ?_
    rw [← Resolver.isBoundIn_congr made.2]
    exact ObjectRules.isBoundIn_bind made.1 _
  ready_enter _ fills := fills
  ready_leave _ _ fills := fills

end ObjectStep

/-! ### Binding commutes with building -/

/-- A resolver may be bound to an object before, between and after its declarations, once or several
times: the tree is that of the other declarations, bound once at the end, and all slots of the tree
hold the resolver, whatever the validators that were attached or included held before. -/
theorem bind_commutes_with_building (resolver : Resolver) (target : Ty)
    {steps : List ObjectStep} (made : ∀ step ∈ steps, (Part.object step).Everywhere Part.Binds)
    (keeps : Level.EachOf
      (fun step => step.KeepsBinding ∨ (step.bound? resolver).isSome = true)
      (ObjectStep.levels steps))
    {first : { other : Resolver // other.identity = resolver.identity }}
    (bound : Level.firstOf (ObjectStep.bound? resolver) (ObjectStep.levels steps) = some first) :
    (ObjectStep.runAll steps (.empty target)).value =
        (ObjectStep.runAll (ObjectStep.reading.without (ObjectStep.bound? resolver) steps)
          (.empty target)).value.bind first.1 ∧
      (Node.object (ObjectStep.runAll steps (.empty target)).value).Everywhere
        (Node.BoundTo resolver) := by
  have same : (ObjectStep.runAll steps (.empty target)).value =
      (ObjectStep.runAll (ObjectStep.reading.without (ObjectStep.bound? resolver) steps)
        (.empty target)).value.bind first.1 := by
    rw [ObjectStep.reading.runAll_levels, ObjectStep.reading.runAll_without,
      (ObjectStep.binding resolver).runAll_eq _ keeps (.inl rfl)]
    exact congrArg ((ObjectStep.binding resolver).apply · _) bound
  refine ⟨same, ?_⟩
  have closed := ObjectStep.runAll_fits .binding steps
    (fun step member => TreeInvariant.binding_admits (made step member))
    (TreeInvariant.binding.fits_emptyObject target)
  have root : resolver.isBoundIn (ObjectStep.runAll steps (.empty target)).value.resolver = true := by
    rw [same, ← Resolver.isBoundIn_congr first.2]
    exact ObjectRules.isBoundIn_bind first.1 _
  have whole := closed.1.nested.bound resolver
  rw [Node.bind, ObjectRules.bind_of_bound resolver root] at whole
  exact whole

def Resolver.idle (identity : Nat) : Resolver := ⟨identity, fun _ => none⟩

/-- A step that attaches a child which holds a resolver of its own. -/
def ObjectStep.boundChild : ObjectStep :=
  .child [.bind (.idle 2), .property "Name" pure [.value .required]]

/-- A resolver that is bound twice, and in a scope, reaches the child that held another one. -/
theorem boundChild_bound :
    (ObjectStep.runAll [.boundChild, .scope ⟨["a"]⟩ [.bind (.idle 1)] false, .bind (.idle 1)]
        (.empty (.record "Order"))).value =
      (ObjectStep.runAll [.boundChild, .scope ⟨["a"]⟩ [] false]
        (.empty (.record "Order"))).value.bind (.idle 1) ∧
      (Node.object (ObjectStep.runAll
        [.boundChild, .scope ⟨["a"]⟩ [.bind (.idle 1)] false, .bind (.idle 1)]
          (.empty (.record "Order"))).value).Everywhere (Node.BoundTo (.idle 1)) := by
  have single {part : Part} (here : part.Binds) (none : part.parts = []) :
      part.Everywhere Part.Binds :=
    .intro here (by rw [none]; nofun)
  have required : (Part.property (.value .required)).Everywhere Part.Binds :=
    .intro trivial (List.forall_mem_singleton.mpr (single trivial rfl))
  have name : (Part.object (.property "Name" pure [.value .required])).Everywhere Part.Binds :=
    .intro trivial (List.forall_mem_singleton.mpr required)
  have child : (Part.object .boundChild).Everywhere Part.Binds :=
    .intro trivial (List.forall_mem_cons.mpr
      ⟨single trivial rfl, List.forall_mem_singleton.mpr name⟩)
  have scope : (Part.object (.scope ⟨["a"]⟩ [.bind (.idle 1)] false)).Everywhere Part.Binds :=
    .intro trivial (List.forall_mem_singleton.mpr (single trivial rfl))
  have made : ∀ step ∈ [.boundChild, .scope ⟨["a"]⟩ [.bind (.idle 1)] false, .bind (.idle 1)],
      (Part.object step).Everywhere Part.Binds :=
    List.forall_mem_cons.mpr ⟨child, List.forall_mem_cons.mpr
      ⟨scope, List.forall_mem_singleton.mpr (single trivial rfl)⟩⟩
  have bound : Level.firstOf (ObjectStep.bound? (.idle 1)) (ObjectStep.levels
      [.boundChild, .scope ⟨["a"]⟩ [.bind (.idle 1)] false, .bind (.idle 1)]) =
        some ⟨.idle 1, rfl⟩ := rfl
  exact bind_commutes_with_building (.idle 1) (.record "Order") made
    ⟨.inl trivial, ⟨.inr rfl, trivial⟩, .inr rfl, trivial⟩ bound

end RuleTree
