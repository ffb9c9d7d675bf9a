import RuleTree.Proofs.Declaration.Slots

/-!
What building keeps. A condition on trees holds of all that declarations build if each operation on
a validator keeps it. `TreeInvariant` says what has to be shown of a condition; the induction over
declarations is made here, once for all of them.

A condition may look at what a validator has handed to the rules below it. These rules then fit the
slot of the validator, and the rule of elements is settled as soon as their container has a
selector.
-/

set_option autoImplicit false

namespace RuleTree

/-! ### The parts of a declaration -/

inductive Part where
  | rule (form : RuleForm)
  | value (step : ValueStep)
  | element (step : ElementStep)
  | property (step : PropertyStep)
  | object (step : ObjectStep)

def ElementForm.parts : ElementForm → List Part
  | .value steps => steps.map .value
  | .object _ steps => steps.map .object

namespace Part

/-- The parts right below a part. The rules behind a bridge are no part of the tree. -/
def parts : Part → List Part
  | .rule (.composite (.mk _ rules _ _)) => rules.map .rule
  | .rule (.conditional (.mk _ accepted rejected _)) =>
    (accepted.flatten ++ rejected.getD []).map .value
  | .rule (.value steps) => steps.map .value
  | .rule (.elements steps) => steps.map .element
  | .rule _ => []
  | .value (.rule form) | .value (.presence form) | .value (.attach form _ _) => [.rule form]
  | .value (.nested steps) | .value (.scope _ steps _) | .value (.replace steps) =>
    steps.map .value
  | .value _ => []
  | .element (.attach form) => form.parts
  | .element _ => []
  | .property (.value step) => [.value step]
  | .property (.nested _ _ steps) => steps.map .object
  | .property (.element form _) => form.parts
  | .property (.property steps) => steps.map .property
  | .property _ => []
  | .object (.property _ _ steps) | .object (.collection _ _ steps) => steps.map .property
  | .object (.includeFrom steps) | .object (.scope _ steps _) | .object (.child steps) =>
    steps.map .object
  | .object _ => []

/-- A condition that holds of a part and of all parts below it. -/
inductive Everywhere (condition : Part → Prop) : Part → Prop where
  | intro {part : Part} : condition part →
      (∀ below ∈ part.parts, Everywhere condition below) → Everywhere condition part

namespace Everywhere

variable {condition : Part → Prop}

theorem here {part : Part} (everywhere : Everywhere condition part) : condition part := by
  cases everywhere with
  | intro here _ => exact here

theorem descend {part below : Part} (everywhere : Everywhere condition part)
    (member : below ∈ part.parts) : Everywhere condition below := by
  cases everywhere with
  | intro _ parts => exact parts below member

/-- What holds of all parts below holds of the steps that they are made of. -/
theorem each {α : Type} {part : Part} {steps : List α} {place : α → Part}
    (everywhere : Everywhere condition part) (same : part.parts = steps.map place) :
    ∀ step ∈ steps, Everywhere condition (place step) := by
  intro step member
  apply everywhere.descend
  rw [same]
  exact List.mem_map_of_mem member

end Everywhere

end Part

/-! ### Conditions that building keeps -/

/-- A condition on rules that the operations on validators keep. `fits slot rule` says that the
condition holds of a rule below a validator with this slot, or of a rule by itself if there is no
slot. -/
structure TreeInvariant where
  fits : Option Resolver → Rule → Prop
  /-- What the rule of elements is when their container has a selector. -/
  settled : Rule → Prop
  /-- The steps that may be taken on the rules of a property. -/
  admits : ValueStep → Prop
  alone {slot : Option Resolver} {rule : Rule} : fits slot rule → fits none rule
  leaf (held : Leaf) : fits none (.leaf held)
  contextual (held : ContextualLeaf) : fits none (.contextual held)
  presence : fits none .presence
  predicate (test : ContextTest) : fits none (.predicate test)
  composite {rules : CompositeRules} :
    (∀ part ∈ rules.children, fits none part) → fits none (.composite rules)
  conditional {rules : ConditionalRules} : fits none (.value rules.accepted) →
    (∀ branch ∈ rules.rejected, fits none (.value branch)) → fits none (.conditional rules)
  value {rules : ValueRules} :
    fits none (.value rules) ↔ ∀ entry ∈ rules.entries, fits rules.resolver entry.rule
  elements {rules : ElementRules} :
    fits none (.elements rules) ↔ ∀ element ∈ rules.element,
      fits rules.resolver element ∧ (rules.inherited.isSome = true → settled element)
  object {reach : Reach} {rules : ObjectRules} :
    fits none (.object reach rules) ↔
      (∀ held ∈ rules.properties, fits rules.resolver (.value held.rules)) ∧
        ∀ child ∈ rules.child, fits rules.resolver (.object .itself child)
  bind {rule : Rule} (resolver : Resolver) : fits none rule → fits (some resolver) (rule.bind resolver)
  inherit {slot : Option Resolver} {rule : Rule} (sets : RuleSets) :
    fits slot rule → fits slot (rule.inherit sets)
  settles (rule : Rule) (sets : RuleSets) : settled (rule.inherit sets)
  settled_bind {rule : Rule} (resolver : Resolver) : settled rule → settled (rule.bind resolver)
  value_within {slot : Option Resolver} {rules changed : ValueRules} :
    fits slot (.value rules) → changed.resolver = rules.resolver → fits none (.value changed) →
      fits slot (.value changed)
  elements_within {slot : Option Resolver} {rules changed : ElementRules} :
    fits slot (.elements rules) → changed.resolver = rules.resolver →
      fits none (.elements changed) → fits slot (.elements changed)
  admitted {slot : Option Resolver} {step : ValueStep} {rules : ValueRules} : admits step →
    fits slot (.value rules) → fits none (.value (step.run rules).value) →
      fits slot (.value (step.run rules).value)

namespace TreeInvariant

variable (law : TreeInvariant)

/-- A rule that was made elsewhere fits, and the rules of properties are changed as they may be. -/
def Admits : Part → Prop
  | .rule (.given rule) => law.fits none rule
  | .property (.value step) => law.admits step
  | _ => True

theorem fits_of_slot {rule bound : Rule} {slot : Option Resolver} (fits : law.fits none rule)
    (binds : bound = match slot with | some resolver => rule.bind resolver | none => rule) :
    law.fits slot bound := by
  subst binds
  cases slot with
  | none => exact fits
  | some resolver => exact law.bind resolver fits

theorem fits_empty : law.fits none (.value .empty) :=
  law.value.mpr nofun

theorem fits_emptyObject (target : Ty) : law.fits none (.object .itself (.empty target)) :=
  law.object.mpr ⟨nofun, nofun⟩

variable {law}

theorem handOn {rule : Rule} (fits : law.fits none rule) (sets : Option RuleSets) :
    law.fits none (ValueRules.handOn sets rule) := by
  cases sets with
  | none => exact fits
  | some sets => exact law.inherit sets fits

/-! ### The rules of a value -/

section

variable {rules : ValueRules}

theorem fits_entry {rule : Rule} (fits : law.fits none rule) :
    law.fits rules.resolver (rules.entry rule).rule :=
  law.fits_of_slot fits rfl

/-- Entries with the rules of other entries fit as these do. -/
theorem fits_of_entries {changed : ValueRules} (whole : law.fits none (.value rules))
    (slot : changed.resolver = rules.resolver)
    (entries : changed.entries.map (·.rule) = rules.entries.map (·.rule)) :
    law.fits none (.value changed) := by
  refine law.value.mpr fun entry member => ?_
  have among : entry.rule ∈ changed.entries.map (·.rule) := List.mem_map_of_mem member
  rw [entries] at among
  obtain ⟨old, oldMember, same⟩ := List.mem_map.mp among
  rw [slot, ← same]
  exact law.value.mp whole old oldMember

theorem fits_pushPresence (whole : law.fits none (.value rules)) {rule : Rule}
    (fits : law.fits none rule) : law.fits none (.value (rules.pushPresence rule)) := by
  refine law.value.mpr fun entry member => ?_
  simp only [ValueRules.pushPresence, ValueRules.entries, List.mem_append, List.mem_singleton]
    at member
  rcases member with ((old | rfl) | general) | nested
  · exact law.value.mp whole entry (by simp [ValueRules.entries, old])
  · exact fits_entry fits
  · exact law.value.mp whole entry (by simp [ValueRules.entries, general])
  · exact law.value.mp whole entry (List.mem_append_right _ nested)

theorem fits_pushRule (whole : law.fits none (.value rules)) {rule : Rule}
    (fits : law.fits none rule) : law.fits none (.value (rules.pushRule rule)) := by
  refine law.value.mpr fun entry member => ?_
  simp only [ValueRules.pushRule, ValueRules.entries, List.mem_append, List.mem_singleton]
    at member
  rcases member with (presence | old | rfl) | nested
  · exact law.value.mp whole entry (by simp [ValueRules.entries, presence])
  · exact law.value.mp whole entry (by simp [ValueRules.entries, old])
  · exact fits_entry fits
  · exact law.value.mp whole entry (List.mem_append_right _ nested)

theorem fits_installNested (whole : law.fits none (.value rules)) {rule : Rule}
    (fits : law.fits none rule) : law.fits none (.value (rules.installNested rule)) := by
  refine law.value.mpr fun entry member => ?_
  simp only [ValueRules.installNested, ValueRules.entries, List.mem_append, Option.toList_some,
    List.mem_singleton] at member
  rcases member with (presence | general) | rfl
  · exact law.value.mp whole entry (by simp [ValueRules.entries, presence])
  · exact law.value.mp whole entry (by simp [ValueRules.entries, general])
  · exact fits_entry fits

theorem fits_settle_attachNested (whole : law.fits none (.value rules)) {rule : Rule}
    (fits : law.fits none rule) (site alternative : String) :
    law.fits none
      (.value (Built.settle rules (rules.attachNested rule site alternative)).value) := by
  cases taken : rules.nested.isSome with
  | true =>
      rw [ValueRules.attachNested_of_taken taken]
      exact whole
  | false =>
      rw [ValueRules.attachNested_of_free taken]
      have installed := fits_installNested whole (handOn fits rules.selectorForNested)
      exact fits_of_entries installed rfl rfl

theorem fits_modifyLast (whole : law.fits none (.value rules)) {change : RuleEntry → RuleEntry}
    (keeps : ∀ entry, (change entry).rule = entry.rule) :
    law.fits none (.value (rules.modifyLast change)) := by
  have ⟨presence, general, nested⟩ := ValueRules.segments_modifyLast keeps rules
  refine fits_of_entries whole
    (ValueRules.part_modifyLast (·.resolver) (fun _ _ _ _ _ => rfl) rules change) ?_
  simp only [ValueRules.entries, List.map_append, ← Option.toList_map, presence, general, nested]

theorem fits_setDefaultMessage (whole : law.fits none (.value rules))
    (message : MessageOverride) : law.fits none (.value (rules.setDefaultMessage message)) := by
  have keeps (entry : RuleEntry) : (entry.setDefaultMessage message).rule = entry.rule := by
    unfold RuleEntry.setDefaultMessage
    split <;> rfl
  refine fits_of_entries whole rfl ?_
  simp only [ValueRules.setDefaultMessage, ValueRules.entries, List.map_append, List.map_map,
    ← Option.toList_map, Option.map_map, Function.comp_def, keeps]

end

/-! ### The rules of elements -/

theorem fits_attaching {element : Rule} (fits : law.fits none element) (rules : ElementRules) :
    law.fits none (.elements (rules.attaching element)) := by
  refine law.elements.mpr fun placed member => ?_
  cases Option.mem_some.mp member
  refine ⟨law.fits_of_slot (handOn fits rules.inherited) rfl, fun handed => ?_⟩
  obtain ⟨sets, present⟩ := Option.isSome_iff_exists.mp handed
  have settled : law.settled (ValueRules.handOn rules.inherited element) := by
    rw [show rules.inherited = some sets from present]
    exact law.settles element sets
  cases rules.resolver with
  | none => exact settled
  | some resolver => exact law.settled_bind resolver settled

theorem fits_handed {slot : Option Resolver} {rules : ElementRules}
    (fits : law.fits slot (.elements rules)) (tag : Option RuleSets) :
    law.fits slot (.elements (rules.handed tag)) := by
  cases tag with
  | none => exact fits
  | some sets => exact law.inherit sets fits

/-! ### The rules of a property -/

section

variable {slot : Option Resolver} {held : PropertyRules}

theorem fits_settle_setValidator (within : law.fits slot (.value held.rules))
    {nested : ObjectRules} (fits : law.fits none (.object .itself nested)) (reach : Reach) :
    law.fits slot (.value (Built.settle held (held.setValidator reach nested)).value.rules) := by
  have reached : law.fits none (.object reach nested) := law.object.mpr (law.object.mp fits)
  have whole := fits_settle_attachNested (law.alone within) (handOn reached held.tag) held.site
    "child_rules"
  simp only [PropertyRules.setValidator]
  cases taken : held.rules.nested.isSome with
  | true =>
      rw [ValueRules.attachNested_of_taken taken]
      exact within
  | false =>
      rw [ValueRules.attachNested_of_free taken] at whole ⊢
      exact law.value_within within rfl whole

theorem fits_elements {elements : ElementRules} (within : law.fits slot (.value held.rules))
    (found : held.elements? = some elements) :
    law.fits held.rules.resolver (.elements elements) := by
  obtain ⟨entry, nested, same⟩ := PropertyRules.elements?_iff.mp found
  rw [← same]
  exact law.value.mp (law.alone within) entry (List.mem_append_right _ (Option.mem_toList.mpr nested))

theorem fits_putElements {elements : ElementRules} (within : law.fits slot (.value held.rules))
    (fits : law.fits held.rules.resolver (.elements elements)) :
    law.fits slot (.value (held.putElements elements).rules) := by
  refine law.value_within within rfl (law.value.mpr fun entry member => ?_)
  simp only [PropertyRules.putElements, PropertyRules.modifyRules, ValueRules.entries,
    List.mem_append, Option.mem_toList] at member
  rcases member with early | nested
  · exact law.value.mp (law.alone within) entry
      (List.mem_append_left _ (List.mem_append.mpr early))
  · obtain ⟨old, _, rfl⟩ := Option.map_eq_some_iff.mp nested
    exact fits

/-- The container as the tag of the property is handed to it. -/
theorem fits_opened {elements : ElementRules} (within : law.fits slot (.value held.rules))
    (found : held.elements? = some elements) :
    law.fits held.rules.resolver (.elements (elements.handed held.tag)) :=
  fits_handed (fits_elements within found) held.tag

theorem fits_setFilter (within : law.fits slot (.value held.rules)) (test : Test) :
    law.fits slot (.value (held.setFilter test).rules) := by
  cases found : held.elements? with
  | none =>
      rw [PropertyRules.setFilter, PropertyRules.openElements_of_none found]
      exact within
  | some elements =>
      rw [PropertyRules.setFilter_of_some found]
      have opened := fits_opened within found
      have kept := law.elements.mp (law.alone opened)
      have whole : law.fits none (.elements ((elements.handed held.tag).setFilter test)) :=
        law.elements.mpr kept
      exact fits_putElements within (law.elements_within opened rfl whole)

/-- A rule that is attached to the elements, whatever becomes of the attachment. -/
theorem fits_element (within : law.fits slot (.value held.rules)) {form : ElementForm}
    (built : law.fits none form.build.value) (deferred : Bool) :
    law.fits slot (.value (PropertyStep.run (.element form deferred) held).value.rules) := by
  cases found : held.elements? with
  | none =>
      rw [(PropertyStep.element_of_none found form deferred).2]
      exact within
  | some elements =>
      have opened := fits_opened within found
      cases taken : elements.element.isSome with
      | true =>
          rw [PropertyStep.element_of_taken found taken]
          exact fits_putElements within opened
      | false =>
          rw [PropertyStep.element_of_free found taken]
          have whole := fits_attaching built (elements.handed held.tag)
          exact fits_putElements within (law.elements_within opened rfl whole)

end

/-! ### The rules of an object -/

section

variable {rules : ObjectRules}

theorem fits_of_parts {changed : ObjectRules} (whole : law.fits none (.object .itself rules))
    (slot : changed.resolver = rules.resolver) (properties : changed.properties = rules.properties)
    (child : changed.child = rules.child) : law.fits none (.object .itself changed) := by
  rw [law.object, slot, properties, child]
  exact law.object.mp whole

theorem fits_bindOwn {held : PropertyRules} (fits : law.fits none (.value held.rules)) :
    law.fits rules.resolver (.value (rules.bindOwn held).rules) := by
  unfold ObjectRules.bindOwn
  cases rules.resolver with
  | none => exact fits
  | some resolver =>
      dsimp only
      rw [PropertyRules.bind_eq]
      exact law.bind resolver fits

theorem fits_addProperty (whole : law.fits none (.object .itself rules)) {held : PropertyRules}
    (fits : law.fits rules.resolver (.value held.rules)) :
    law.fits none (.object .itself (rules.addProperty held)) := by
  have ⟨properties, child⟩ := law.object.mp whole
  refine law.object.mpr ⟨fun other member => ?_, child⟩
  rcases List.mem_append.mp member with old | new
  · exact properties other old
  · rw [List.mem_singleton.mp new]
    exact fits

theorem fits_includeFrom (whole : law.fits none (.object .itself rules)) {other : ObjectRules}
    (fits : law.fits none (.object .itself other)) :
    law.fits none (.object .itself (rules.includeFrom other)) := by
  have ⟨properties, child⟩ := law.object.mp whole
  refine law.object.mpr ⟨fun held member => ?_, child⟩
  rcases List.mem_append.mp member with old | new
  · exact properties held old
  · obtain ⟨copied, copiedMember, rfl⟩ := List.mem_map.mp new
    have alone := law.alone ((law.object.mp fits).1 copied copiedMember)
    unfold ObjectRules.included
    apply fits_bindOwn
    cases rules.stack.current <;> exact alone

theorem fits_delegating (whole : law.fits none (.object .itself rules)) {child : ObjectRules}
    (fits : law.fits none (.object .itself child)) :
    law.fits none (.object .itself (rules.delegating child)) := by
  refine law.object.mpr ⟨(law.object.mp whole).1, fun attached member => ?_⟩
  cases Option.mem_some.mp member
  have handed (sets : Option RuleSets) :
      law.fits none (.object .itself (ObjectRules.handOn sets child)) := by
    cases sets with
    | none => exact fits
    | some sets => exact law.inherit sets fits
  refine law.fits_of_slot (handed (rules.stack.current.or rules.inherited)) ?_
  change _ = match rules.resolver with | some resolver => _ | none => _
  cases rules.resolver <;> rfl

theorem fits_settle_setChild (whole : law.fits none (.object .itself rules)) {child : ObjectRules}
    (fits : law.fits none (.object .itself child)) :
    law.fits none (.object .itself (Built.settle rules (rules.setValidator child)).value) := by
  cases taken : rules.child.isSome with
  | true =>
      rw [ObjectRules.setValidator_of_taken taken]
      exact whole
  | false =>
      rw [ObjectRules.setValidator_of_free taken]
      exact fits_delegating whole fits

end

end TreeInvariant

/-! ### What is built fits

The induction goes along the recursion of the builders: one theorem for each of them, and one case for
each form and each step. -/

mutual

theorem RuleForm.build_fits (law : TreeInvariant) (form : RuleForm)
    (admits : Part.Everywhere law.Admits (.rule form)) :
    ∀ rule ∈ form.build.value, law.fits none rule := by
  cases form with
  | leaf held =>
      rintro rule ⟨⟩
      exact law.leaf held
  | matching source =>
      simp only [RuleForm.build]
      cases Pattern.read? source with
      | none => exact nofun
      | some pattern =>
          rintro rule ⟨⟩
          exact law.leaf _
  | predicate test =>
      rintro rule ⟨⟩
      exact law.predicate test
  | composite form =>
      rintro rule ⟨⟩
      exact form.build_fits law (fun _ member => admits.descend member)
  | conditional form =>
      rintro rule ⟨⟩
      exact form.build_fits law (fun _ member => admits.descend member)
  | value steps =>
      rintro rule ⟨⟩
      exact ValueStep.runAll_fits law steps (admits.each rfl) law.fits_empty
  | elements steps =>
      rintro rule ⟨⟩
      exact ElementStep.runAll_fits law steps (admits.each rfl) (law.elements.mpr nofun)
  | given held =>
      rintro rule ⟨⟩
      exact admits.here

theorem RuleForm.buildAll_fits (law : TreeInvariant) (forms : List RuleForm)
    (admits : ∀ form ∈ forms, Part.Everywhere law.Admits (.rule form)) :
    ∀ rule ∈ (RuleForm.buildAll forms).value, law.fits none rule := by
  cases forms with
  | nil => exact nofun
  | cons form rest =>
      intro rule member
      rcases List.mem_append.mp member with first | later
      · exact form.build_fits law (admits form List.mem_cons_self) rule
          (Option.mem_toList.mp first)
      · exact RuleForm.buildAll_fits law rest
          (fun other otherMember => admits other (List.mem_cons_of_mem _ otherMember)) rule later

theorem CompositeForm.build_fits (law : TreeInvariant) (form : CompositeForm)
    (admits : ∀ part ∈ (Part.rule (.composite form)).parts, Part.Everywhere law.Admits part) :
    law.fits none (.composite form.build.value) := by
  obtain ⟨mode, forms, laterMode, info⟩ := form
  have children := RuleForm.buildAll_fits law forms
    fun form member => admits _ (List.mem_map_of_mem member)
  cases info with
  | false => exact law.composite children
  | true => exact law.composite children

theorem ConditionalForm.build_fits (law : TreeInvariant) (form : ConditionalForm)
    (admits : ∀ part ∈ (Part.rule (.conditional form)).parts, Part.Everywhere law.Admits part) :
    law.fits none (.conditional form.build.value) := by
  obtain ⟨condition, accepted, rejected, info⟩ := form
  have positive := ValueStep.runEach_fits law accepted
    (fun steps stepsMember step member => admits _ (List.mem_map_of_mem
      (List.mem_append_left _ (List.mem_flatten.mpr ⟨steps, stepsMember, member⟩)))) law.fits_empty
  have negative := ValueStep.runOption_fits law rejected
    fun steps present step member => admits _ (List.mem_map_of_mem
      (List.mem_append_right _ (by simpa [Option.mem_def.mp present] using member)))
  cases info with
  | false => exact law.conditional positive negative
  | true => exact law.conditional positive negative

theorem ValueStep.run_fits (law : TreeInvariant) (step : ValueStep)
    (admits : Part.Everywhere law.Admits (.value step)) {rules : ValueRules}
    (whole : law.fits none (.value rules)) : law.fits none (.value (step.run rules).value) := by
  cases step with
  | rule form =>
      have built := form.build_fits law (admits.descend List.mem_cons_self)
      simp only [ValueStep.run, Built.bind]
      cases made : form.build.value with
      | none => exact whole
      | some rule => exact TreeInvariant.fits_pushRule whole (built rule made)
  | contextual leaf => exact TreeInvariant.fits_pushRule whole (law.contextual leaf)
  | required => exact TreeInvariant.fits_pushPresence whole law.presence
  | allowEmpty => exact TreeInvariant.fits_of_entries whole rfl rfl
  | guard test => exact TreeInvariant.fits_of_entries whole rfl rfl
  | mode mode => exact TreeInvariant.fits_of_entries whole rfl rfl
  | message message => exact TreeInvariant.fits_modifyLast whole fun _ => rfl
  | defaultMessage message => exact TreeInvariant.fits_setDefaultMessage whole message
  | preprocess transform =>
      exact TreeInvariant.fits_of_entries whole rfl rfl
  | presence form =>
      have built := form.build_fits law (admits.descend List.mem_cons_self)
      simp only [ValueStep.run, Built.bind]
      cases made : form.build.value with
      | none => exact whole
      | some rule => exact TreeInvariant.fits_pushPresence whole (built rule made)
  | nested steps =>
      have built := ValueStep.runAll_fits law steps (admits.each rfl) law.fits_empty
      exact TreeInvariant.fits_settle_attachNested whole built _ _
  | attach form site alternative =>
      have built := form.build_fits law (admits.descend List.mem_cons_self)
      simp only [ValueStep.run, Built.bind]
      cases made : form.build.value with
      | none => exact whole
      | some rule =>
          exact TreeInvariant.fits_settle_attachNested whole (built rule made) site alternative
  | scope names steps fails =>
      simp only [ValueStep.run]
      cases names.required with
      | error error => exact whole
      | ok sets =>
          have entered : law.fits none (.value (rules.enter sets)) :=
            TreeInvariant.fits_of_entries whole rfl rfl
          have inside := ValueStep.runAll_fits law steps (admits.each rfl) entered
          exact TreeInvariant.fits_of_entries inside rfl rfl
  | inherit names => exact law.inherit names whole
  | bind resolver => exact law.alone (law.bind resolver whole)
  | replace steps => exact ValueStep.runAll_fits law steps (admits.each rfl) law.fits_empty
  | info => exact whole

theorem ValueStep.runAll_fits (law : TreeInvariant) (steps : List ValueStep)
    (admits : ∀ step ∈ steps, Part.Everywhere law.Admits (.value step)) {rules : ValueRules}
    (whole : law.fits none (.value rules)) :
    law.fits none (.value (ValueStep.runAll steps rules).value) := by
  cases steps with
  | nil => exact whole
  | cons step rest =>
      have first := step.run_fits law (admits step List.mem_cons_self) whole
      exact ValueStep.runAll_fits law rest
        (fun other member => admits other (List.mem_cons_of_mem _ member)) first

theorem ValueStep.runEach_fits (law : TreeInvariant) (groups : List (List ValueStep))
    (admits : ∀ steps ∈ groups, ∀ step ∈ steps, Part.Everywhere law.Admits (.value step))
    {rules : ValueRules} (whole : law.fits none (.value rules)) :
    law.fits none (.value (ValueStep.runEach groups rules).value) := by
  cases groups with
  | nil => exact whole
  | cons steps rest =>
      have first := ValueStep.runAll_fits law steps (admits steps List.mem_cons_self) whole
      exact ValueStep.runEach_fits law rest
        (fun others member => admits others (List.mem_cons_of_mem _ member)) first

theorem ValueStep.runOption_fits (law : TreeInvariant) (option : Option (List ValueStep))
    (admits : ∀ steps ∈ option, ∀ step ∈ steps, Part.Everywhere law.Admits (.value step)) :
    ∀ rules ∈ (ValueStep.runOption option).value, law.fits none (.value rules) := by
  cases option with
  | none => exact nofun
  | some steps =>
      rintro rules ⟨⟩
      exact ValueStep.runAll_fits law steps (admits steps rfl) law.fits_empty

theorem ElementForm.build_fits (law : TreeInvariant) (form : ElementForm)
    (admits : ∀ part ∈ form.parts, Part.Everywhere law.Admits part) :
    law.fits none form.build.value := by
  cases form with
  | value steps =>
      exact ValueStep.runAll_fits law steps
        (fun step member => admits _ (List.mem_map_of_mem member)) law.fits_empty
  | object target steps =>
      exact ObjectStep.runAll_fits law steps
        (fun step member => admits _ (List.mem_map_of_mem member)) (law.fits_emptyObject target)

theorem ElementStep.run_fits (law : TreeInvariant) (step : ElementStep)
    (admits : Part.Everywhere law.Admits (.element step)) {rules : ElementRules}
    (whole : law.fits none (.elements rules)) :
    law.fits none (.elements (step.run rules).value) := by
  cases step with
  | attach form =>
      have built := form.build_fits law (fun _ member => admits.descend member)
      simp only [ElementStep.run, Built.bind]
      cases taken : rules.element.isSome with
      | true =>
          rw [ElementRules.attach_of_taken taken]
          exact whole
      | false =>
          rw [ElementRules.attach_of_free taken]
          exact TreeInvariant.fits_attaching built rules
  | filter test =>
      have kept := law.elements.mp whole
      exact law.elements.mpr kept
  | inherit names => exact law.inherit names whole
  | bind resolver => exact law.alone (law.bind resolver whole)
  | info => exact whole

theorem ElementStep.runAll_fits (law : TreeInvariant) (steps : List ElementStep)
    (admits : ∀ step ∈ steps, Part.Everywhere law.Admits (.element step)) {rules : ElementRules}
    (whole : law.fits none (.elements rules)) :
    law.fits none (.elements (ElementStep.runAll steps rules).value) := by
  cases steps with
  | nil => exact whole
  | cons step rest =>
      have first := step.run_fits law (admits step List.mem_cons_self) whole
      exact ElementStep.runAll_fits law rest
        (fun other member => admits other (List.mem_cons_of_mem _ member)) first

theorem PropertyStep.run_fits (law : TreeInvariant) (step : PropertyStep)
    (admits : Part.Everywhere law.Admits (.property step)) {slot : Option Resolver}
    {held : PropertyRules} (within : law.fits slot (.value held.rules)) :
    law.fits slot (.value (step.run held).value.rules) := by
  cases step with
  | value step =>
      have whole := step.run_fits law (admits.descend List.mem_cons_self) (law.alone within)
      exact law.admitted admits.here within whole
  | member name => exact within
  | display name => exact within
  | skipAnnotations => exact within
  | nested reach target steps =>
      have built := ObjectStep.runAll_fits law steps (admits.each rfl) (law.fits_emptyObject target)
      exact TreeInvariant.fits_settle_setValidator within built reach
  | element form deferred =>
      have built := form.build_fits law (fun _ member => admits.descend member)
      exact TreeInvariant.fits_element within built deferred
  | filter test => exact TreeInvariant.fits_setFilter within test
  | property steps => exact PropertyStep.runAll_fits law steps (admits.each rfl) within
  | tellMember => exact within
  | info => exact within

theorem PropertyStep.runAll_fits (law : TreeInvariant) (steps : List PropertyStep)
    (admits : ∀ step ∈ steps, Part.Everywhere law.Admits (.property step))
    {slot : Option Resolver} {held : PropertyRules} (within : law.fits slot (.value held.rules)) :
    law.fits slot (.value (PropertyStep.runAll steps held).value.rules) := by
  cases steps with
  | nil => exact within
  | cons step rest =>
      have first := step.run_fits law (admits step List.mem_cons_self) within
      exact PropertyStep.runAll_fits law rest
        (fun other member => admits other (List.mem_cons_of_mem _ member)) first

theorem ObjectStep.run_fits (law : TreeInvariant) (step : ObjectStep)
    (admits : Part.Everywhere law.Admits (.object step)) {rules : ObjectRules}
    (whole : law.fits none (.object .itself rules)) :
    law.fits none (.object .itself (step.run rules).value) := by
  cases step with
  | property name accessor steps =>
      have empty : law.fits none (.value (PropertyRules.new name accessor).rules) := law.fits_empty
      have declared : law.fits rules.resolver
          (.value (rules.declared (.new name accessor)).rules) := TreeInvariant.fits_bindOwn empty
      exact TreeInvariant.fits_addProperty whole
        (PropertyStep.runAll_fits law steps (admits.each rfl) declared)
  | collection name accessor steps =>
      have empty : law.fits none (.value (PropertyRules.newCollection name accessor).rules) :=
        TreeInvariant.fits_installNested law.fits_empty (law.elements.mpr nofun)
      have declared : law.fits rules.resolver
          (.value (rules.declared (.newCollection name accessor)).rules) :=
        TreeInvariant.fits_bindOwn empty
      exact TreeInvariant.fits_addProperty whole
        (PropertyStep.runAll_fits law steps (admits.each rfl) declared)
  | includeFrom steps =>
      have built := ObjectStep.runAll_fits law steps (admits.each rfl)
        (law.fits_emptyObject rules.target)
      exact TreeInvariant.fits_includeFrom whole built
  | scope names steps fails =>
      simp only [ObjectStep.run]
      cases names.required with
      | error error => exact whole
      | ok sets =>
          have entered : law.fits none (.object .itself (rules.enter sets)) :=
            TreeInvariant.fits_of_parts whole rfl rfl rfl
          have inside := ObjectStep.runAll_fits law steps (admits.each rfl) entered
          exact TreeInvariant.fits_of_parts inside rfl rfl rfl
  | child steps =>
      have built := ObjectStep.runAll_fits law steps (admits.each rfl)
        (law.fits_emptyObject rules.target)
      exact TreeInvariant.fits_settle_setChild whole built
  | guard test => exact TreeInvariant.fits_of_parts whole rfl rfl rfl
  | mode mode => exact TreeInvariant.fits_of_parts whole rfl rfl rfl
  | suppressAnnotations => exact TreeInvariant.fits_of_parts whole rfl rfl rfl
  | validateAll all => exact TreeInvariant.fits_of_parts whole rfl rfl rfl
  | bridge form => exact TreeInvariant.fits_of_parts whole rfl rfl rfl
  | messages source => exact TreeInvariant.fits_of_parts whole rfl rfl rfl
  | options text fresh =>
      simp only [ObjectStep.run]
      cases Options.parse? text with
      | none => exact whole
      | some options =>
          cases fresh with
          | false => exact TreeInvariant.fits_of_parts whole rfl rfl rfl
          | true =>
              exact TreeInvariant.fits_of_parts (law.fits_emptyObject rules.target) rfl rfl rfl
  | inherit names => exact law.inherit names whole
  | bind resolver => exact law.alone (law.bind resolver whole)
  | info => exact whole

theorem ObjectStep.runAll_fits (law : TreeInvariant) (steps : List ObjectStep)
    (admits : ∀ step ∈ steps, Part.Everywhere law.Admits (.object step)) {rules : ObjectRules}
    (whole : law.fits none (.object .itself rules)) :
    law.fits none (.object .itself (ObjectStep.runAll steps rules).value) := by
  cases steps with
  | nil => exact whole
  | cons step rest =>
      have first := step.run_fits law (admits step List.mem_cons_self) whole
      exact ObjectStep.runAll_fits law rest
        (fun other member => admits other (List.mem_cons_of_mem _ member)) first

end

end RuleTree
