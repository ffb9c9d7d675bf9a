import RuleTree.Proofs.Declaration.Slots

/-!
Attaching nested validators. What is attached to a slot that is taken is refused, and all is as it
was before.

A collection property hands its tag to its container before it looks whether the slot is taken. This
changes nothing where the container has been handed the tag already, as it has been if its rule was
attached through the property.
-/

set_option autoImplicit false

namespace RuleTree

/-- How an attachment to a slot ends: it fills the slot, or is refused and leaves all as it was. -/
structure Attachment {σ : Type} (taken : σ → Bool) (refusal : Error) (before : σ)
    (after : Built σ) : Prop where
  reply : after.replies.getLast? = some (.done (if taken before then some refusal else none))
  keeps : taken before = true → after.value = before
  fills : taken after.value = true

namespace Attachment

variable {α σ τ : Type} {taken : σ → Bool} {refusal : Error} {before : σ}

/-- What is made first and then attached, unless the slot is taken. -/
theorem of_attempt (made : Built α) {attempt : α → Except Error σ} (changed : α → σ)
    (refused : taken before = true → ∀ part, attempt part = .error refusal)
    (accepted : taken before = false → ∀ part, attempt part = .ok (changed part))
    (filled : ∀ part, taken (changed part) = true) :
    Attachment taken refusal before (made.bind fun part => .settle before (attempt part)) := by
  cases place : taken before with
  | true =>
      have refused := refused place made.value
      refine ⟨?_, fun _ => ?_, ?_⟩
      · simp only [Built.bind, refused, Built.settle, Built.reply, place, ↓reduceIte,
          List.getLast?_concat]
      · simp only [Built.bind, refused, Built.settle, Built.reply]
      · simp only [Built.bind, refused, Built.settle, Built.reply, place]
  | false =>
      have accepted := accepted place made.value
      refine ⟨?_, fun full => absurd (place.symm.trans full) Bool.false_ne_true, ?_⟩
      · simp only [Built.bind, accepted, Built.settle, Built.reply, place, Bool.false_eq_true,
          ↓reduceIte, List.getLast?_concat]
      · simp only [Built.bind, accepted, Built.settle, Built.reply, filled]

/-- An attachment to a part is one to the whole. -/
theorem within (part : τ → σ) (put : σ → τ) {whole : τ} {after : Built σ}
    (attachment : Attachment taken refusal (part whole) after)
    (part_put : ∀ changed, part (put changed) = changed) (put_part : put (part whole) = whole) :
    Attachment (fun held => taken (part held)) refusal whole
      (after.bind fun changed => pure (put changed)) where
  reply := by
    have same : (after.bind fun changed => (pure (put changed) : Built τ)).replies =
        after.replies := List.append_nil _
    rw [same]
    exact attachment.reply
  keeps place := (congrArg put (attachment.keeps place)).trans put_part
  fills := (congrArg taken (part_put after.value)).trans attachment.fills

end Attachment

/-! ### Attaching to a slot -/

namespace ValueStep

theorem attachment_nested (steps : List ValueStep) (rules : ValueRules) :
    Attachment (·.nested.isSome) (.alreadyAttached "value validator" "child_rules") rules
      (run (.nested steps) rules) :=
  .of_attempt _ _ (fun taken _ => ValueRules.attachNested_of_taken taken _ _ _)
    (fun free _ => ValueRules.attachNested_of_free free _ _ _) fun _ => rfl

theorem attachment_attach {form : RuleForm} (builds : form.build.value.isSome = true)
    (site alternative : String) (rules : ValueRules) :
    Attachment (·.nested.isSome) (.alreadyAttached site alternative) rules
      (run (.attach form site alternative) rules) := by
  obtain ⟨rule, built⟩ := Option.isSome_iff_exists.mp builds
  have same : run (.attach form site alternative) rules =
      form.build.bind fun _ => .settle rules (rules.attachNested rule site alternative) := by
    simp only [run, Built.bind, built]
  rw [same]
  exact .of_attempt _ _ (fun taken _ => ValueRules.attachNested_of_taken taken _ _ _)
    (fun free _ => ValueRules.attachNested_of_free free _ _ _) fun _ => rfl

end ValueStep

theorem ElementStep.attachment_attach (form : ElementForm) (rules : ElementRules) :
    Attachment (·.element.isSome)
      (.alreadyAttached "collection elements" ElementRules.alternative) rules
      (run (.attach form) rules) :=
  .of_attempt _ _ (fun taken _ => ElementRules.attach_of_taken taken _)
    (fun free _ => ElementRules.attach_of_free free _) fun _ => rfl

theorem ObjectStep.attachment_child (steps : List ObjectStep) (rules : ObjectRules) :
    Attachment (·.child.isSome)
      (.alreadyAttached ("object validator for " ++ rules.target.name) "include") rules
      (run (.child steps) rules) :=
  .of_attempt _ _ (fun taken _ => ObjectRules.setValidator_of_taken taken _)
    (fun free _ => ObjectRules.setValidator_of_free free _) fun _ => rfl

theorem PropertyStep.attachment_nested (reach : Reach) (target : Ty) (steps : List ObjectStep)
    (held : PropertyRules) :
    Attachment (·.rules.nested.isSome) (.alreadyAttached held.site "child_rules") held
      (run (.nested reach target steps) held) := by
  let changed (nested : ObjectRules) : PropertyRules :=
    { held with rules := held.rules.nesting (ValueRules.handOn held.tag (.object reach nested)) }
  refine .of_attempt _ changed (fun taken _ => ?_) (fun free nested => ?_) fun _ => rfl
  · rw [PropertyRules.setValidator, ValueRules.attachNested_of_taken taken]
    rfl
  · rw [PropertyRules.setValidator, ValueRules.attachNested_of_free free]
    rfl

/-- What is attached to the rules of a property themselves. -/
theorem PropertyStep.attachment_value {step : ValueStep} {refusal : Error} {held : PropertyRules}
    (attachment : Attachment (·.nested.isSome) refusal held.rules (step.run held.rules)) :
    Attachment (·.rules.nested.isSome) refusal held (run (.value step) held) :=
  attachment.within (·.rules) (fun rules => { held with rules }) (fun _ => rfl) (by cases held; rfl)

/-! ### Attaching to a container -/

namespace ElementRules

variable {tag : Option RuleSets} {rules : ElementRules}

/-- The rules have been handed a tag, once they have a rule for the elements. -/
def HandedOnce (tag : Option RuleSets) (rules : ElementRules) : Prop :=
  rules.element.isSome = true → tag.isSome = true → rules.inherited.isSome = true

theorem HandedOnce.handed_eq (once : rules.HandedOnce tag) (taken : rules.element.isSome = true) :
    rules.handed tag = rules := by
  cases tag with
  | none => rfl
  | some sets =>
      obtain ⟨kept, present⟩ := Option.isSome_iff_exists.mp (once taken rfl)
      exact inherit_of_kept sets present

theorem isSome_inherited_handed (tagged : tag.isSome = true) (rules : ElementRules) :
    (rules.handed tag).inherited.isSome = true := by
  obtain ⟨sets, rfl⟩ := Option.isSome_iff_exists.mp tagged
  exact Option.isSome_iff_exists.mpr ⟨_, rules.inherited_inherit sets⟩

theorem handedOnce_inherit (tag : Option RuleSets) (rules : ElementRules) (sets : RuleSets) :
    (rules.inherit sets).HandedOnce tag := by
  intro _ _
  rw [rules.inherited_inherit]
  rfl

theorem HandedOnce.bind (once : rules.HandedOnce tag) (resolver : Resolver) :
    (rules.bind resolver).HandedOnce tag := by
  intro taken tagged
  rw [rules.inherited_bind]
  refine once ?_ tagged
  rwa [bind_eq, Option.isSome_map] at taken

end ElementRules

/-- The container of a collection property gets its rule through the property, as long as the rules of
the property are not replaced. -/
def ContainerInvariant.handedOnce (tag : Option RuleSets) : ContainerInvariant tag where
  holds := ElementRules.HandedOnce tag
  allows := ValueStep.Continues
  continues continues := continues
  inherit sets _ := ElementRules.handedOnce_inherit tag _ sets
  bind _ once := once.bind _
  attach _ _ _ tagged := ElementRules.isSome_inherited_handed tagged _
  filter _ _ _ tagged := ElementRules.isSome_inherited_handed tagged _

namespace PropertyRules

/-- There is a container, and it has a rule for its elements. -/
def hasElement (held : PropertyRules) : Bool := held.elements?.any (·.element.isSome)

theorem contains_newCollection (rules : ObjectRules) (name : String)
    (accessor : Value → Logged Value) (tag : Option RuleSets) :
    (rules.declared (.newCollection name accessor)).Contains (ElementRules.HandedOnce tag) := by
  unfold ObjectRules.declared ObjectRules.bindOwn
  cases rules.resolver with
  | none => exact ⟨.empty, rfl, fun taken => absurd taken nofun⟩
  | some resolver => exact ⟨.bind resolver .empty, rfl, fun taken => absurd taken nofun⟩

end PropertyRules

def PropertyStep.KeepsRules : PropertyStep → Prop
  | .value step => step.level.Each ValueStep.Continues
  | _ => True

namespace PropertyStep

open PropertyRules

variable {held : PropertyRules} {elements : ElementRules}

/-- To a property whose container has been handed the tag, this is an attachment. -/
theorem attachment_opened (found : held.elements? = some elements) (form : ElementForm)
    (deferred : Bool) :
    Attachment hasElement (.alreadyAttached "collection elements" ElementRules.alternative)
      (held.putElements (elements.handed held.tag)) (run (.element form deferred) held) := by
  have place : (held.putElements (elements.handed held.tag)).hasElement =
      elements.element.isSome := by
    rw [hasElement, elements?_putElements found, Option.any_some,
      ElementRules.isSome_element_handed]
  cases taken : elements.element.isSome with
  | true =>
      rw [element_of_taken found taken]
      refine ⟨?_, fun _ => rfl, place.trans taken⟩
      rw [place, taken]
      exact List.getLast?_concat
  | false =>
      rw [element_of_free found taken]
      refine ⟨?_, fun full => absurd (full.symm.trans (place.trans taken)) nofun, ?_⟩
      · rw [place, taken]
        exact List.getLast?_concat
      · have placed := elements?_putElements found
          ((elements.handed held.tag).attaching form.build.value)
        simp only [hasElement, Built.bind, Built.reply, placed, Option.any_some]
        rfl

/-- To the property as it is, this is an attachment if the tag has been handed on, or the slot is
free: a refusal has nothing left to change then. -/
theorem attachment_element_iff (found : held.elements? = some elements) (form : ElementForm)
    (deferred : Bool) :
    Attachment hasElement (.alreadyAttached "collection elements" ElementRules.alternative) held
        (run (.element form deferred) held) ↔
      (elements.element.isSome = true → elements.handed held.tag = elements) := by
  have opened := attachment_opened found form deferred
  have place : held.hasElement = elements.element.isSome := by
    rw [hasElement, found, Option.any_some]
  constructor
  · intro attachment taken
    -- A refusal puts the container back as the tag was handed to it, so this must be the old one.
    have kept := attachment.keeps (place.trans taken)
    rw [element_of_taken found taken] at kept
    have placed := elements?_putElements found (elements.handed held.tag)
    have same : (held.putElements (elements.handed held.tag)).elements? = held.elements? :=
      congrArg elements? kept
    exact Option.some.inj (placed.symm.trans (same.trans found))
  · intro handed
    cases taken : elements.element.isSome with
    | true =>
        have same : held.putElements (elements.handed held.tag) = held := by
          rw [handed taken, putElements_self found]
        rwa [same] at opened
    | false =>
        have still : (held.putElements (elements.handed held.tag)).hasElement = false := by
          rw [hasElement, elements?_putElements found, Option.any_some,
            ElementRules.isSome_element_handed, taken]
        have reply := opened.reply
        rw [still] at reply
        refine ⟨?_, fun full => absurd (full.symm.trans (place.trans taken)) nofun, opened.fills⟩
        rwa [place, taken]

/-- The tag of a collection property has been handed on if its rules have not been replaced. -/
theorem handed_of_keepsRules {rules : ObjectRules} {name : String}
    {accessor : Value → Logged Value} {steps : List PropertyStep}
    (keeps : ∀ step ∈ ownAll steps, step.KeepsRules) :
    (runAll steps (rules.declared (.newCollection name accessor))).value.Contains
      (ElementRules.HandedOnce
        (runAll steps (rules.declared (.newCollection name accessor))).value.tag) := by
  have tag := part_runAll PropertyRules.tag (fun _ _ _ _ _ => rfl) steps
    (rules.declared (.newCollection name accessor))
  rw [tag]
  exact ContainerInvariant.property_runAll (.handedOnce _) keeps rfl
    (contains_newCollection rules name accessor _)

end PropertyStep

/-! ### One validator to a slot -/

/-- A slot for a nested validator is filled by what is attached to it first. What is attached to it
later is refused and leaves all as it was, and so it is with the elements of a collection property
whose rules have not been replaced. If they have, their container may not have been handed the tag
yet, and is handed it even by a refusal; if they have no container, there is no slot. -/
theorem attachments_fill_free_slots (rules : ValueRules) (held : PropertyRules)
    (elements : ElementRules) (object : ObjectRules) :
    (∀ steps : List ValueStep,
      Attachment (·.nested.isSome) (.alreadyAttached "value validator" "child_rules") rules
        (ValueStep.run (.nested steps) rules)) ∧
      (∀ (form : RuleForm) (site alternative : String), form.build.value.isSome = true →
        Attachment (·.nested.isSome) (.alreadyAttached site alternative) rules
          (ValueStep.run (.attach form site alternative) rules)) ∧
      (∀ (step : ValueStep) (refusal : Error),
        Attachment (·.nested.isSome) refusal held.rules (step.run held.rules) →
          Attachment (·.rules.nested.isSome) refusal held (PropertyStep.run (.value step) held)) ∧
      (∀ (reach : Reach) (target : Ty) (steps : List ObjectStep),
        Attachment (·.rules.nested.isSome) (.alreadyAttached held.site "child_rules") held
          (PropertyStep.run (.nested reach target steps) held)) ∧
      (∀ form : ElementForm,
        Attachment (·.element.isSome)
          (.alreadyAttached "collection elements" ElementRules.alternative) elements
          (ElementStep.run (.attach form) elements)) ∧
      (∀ steps : List ObjectStep,
        Attachment (·.child.isSome)
          (.alreadyAttached ("object validator for " ++ object.target.name) "include") object
          (ObjectStep.run (.child steps) object)) ∧
      ∀ (form : ElementForm) (deferred : Bool),
        (∀ container ∈ held.elements?,
          (Attachment PropertyRules.hasElement
              (.alreadyAttached "collection elements" ElementRules.alternative) held
              (PropertyStep.run (.element form deferred) held) ↔
            (container.element.isSome = true → container.handed held.tag = container)) ∧
          Attachment PropertyRules.hasElement
            (.alreadyAttached "collection elements" ElementRules.alternative)
            (held.putElements (container.handed held.tag))
            (PropertyStep.run (.element form deferred) held)) ∧
          (held.elements? = none →
            (PropertyStep.run (.element form deferred) held).replies.getLast? =
                some (.done (some (.alreadyAttached held.site ElementRules.alternative))) ∧
              (PropertyStep.run (.element form deferred) held).value = held) ∧
          ∀ (name : String) (accessor : Value → Logged Value) (steps : List PropertyStep),
            (∀ step ∈ PropertyStep.ownAll steps, step.KeepsRules) →
            let collection := (PropertyStep.runAll steps
              (object.declared (.newCollection name accessor))).value
            Attachment PropertyRules.hasElement
              (.alreadyAttached "collection elements" ElementRules.alternative) collection
              (PropertyStep.run (.element form deferred) collection) := by
  refine ⟨fun steps => ValueStep.attachment_nested steps rules, ?_, ?_,
    fun reach target steps => PropertyStep.attachment_nested reach target steps held,
    fun form => ElementStep.attachment_attach form elements,
    fun steps => ObjectStep.attachment_child steps object, fun form deferred => ⟨?_, ?_, ?_⟩⟩
  · intro form site alternative builds
    exact ValueStep.attachment_attach builds site alternative rules
  · intro step refusal attachment
    exact PropertyStep.attachment_value attachment
  · intro container found
    exact ⟨PropertyStep.attachment_element_iff found form deferred,
      PropertyStep.attachment_opened found form deferred⟩
  · intro absent
    exact PropertyStep.element_of_none absent form deferred
  · intro name accessor steps keeps
    obtain ⟨container, found, once⟩ := PropertyStep.handed_of_keepsRules keeps
    exact (PropertyStep.attachment_element_iff found form deferred).mpr once.handed_eq

/-- The collection property "Tags", declared in the set "a". -/
def PropertyRules.tagsInScope : PropertyRules :=
  ((ObjectRules.empty (.record "Order")).enter ⟨["a"]⟩).declared (.newCollection "Tags" pure)

/-- A second rule for the elements is refused and leaves no trace; a rule that is attached to empty
rules is carried out. -/
theorem second_rule_of_tags_refused :
    (PropertyStep.run (.element (.value [.required]) false)
        (PropertyStep.runAll [.element (.value []) false] .tagsInScope).value).value =
      (PropertyStep.runAll [.element (.value []) false] .tagsInScope).value ∧
      (ValueStep.run (.attach (.value []) "site" "alternative") .empty).replies.getLast? =
        some (.done none) := by
  obtain ⟨_, attached, _, _, _, _, container⟩ := attachments_fill_free_slots .empty .tagsInScope
    .empty ((ObjectRules.empty (.record "Order")).enter ⟨["a"]⟩)
  constructor
  · have keeps (step : PropertyStep)
        (member : step ∈ PropertyStep.ownAll [.element (.value []) false]) : step.KeepsRules := by
      rw [List.mem_singleton.mp member]
      trivial
    exact ((container (.value [.required]) false).2.2 "Tags" pure [.element (.value []) false]
      keeps).keeps rfl
  · exact (attached (.value []) "site" "alternative" rfl).reply

/-- A step that replaces the rules of a property by others with a container of their own, which has a
rule for its elements. -/
def ValueStep.replaceContainer : ValueStep :=
  .replace [.attach (.elements [.attach (.value [.required])]) "site" "alternative"]

/-- A refusal that is not without a trace: the container of the new rules has not been handed the
tag, and is handed it by an attachment that is refused. -/
theorem refused_rule_hands_tag :
    let held := (PropertyStep.runAll [.value .replaceContainer] .tagsInScope).value
    let after := PropertyStep.run (.element (.value []) false) held
    held.hasElement = true ∧
      after.replies.getLast? = some (.done (some
        (.alreadyAttached "collection elements" ElementRules.alternative))) ∧
      held.elements?.bind (·.inherited) = none ∧
      after.value.elements?.bind (·.inherited) = some ⟨["a"]⟩ ∧
      ¬ Attachment PropertyRules.hasElement
        (.alreadyAttached "collection elements" ElementRules.alternative) held after := by
  refine ⟨rfl, rfl, rfl, rfl, fun attachment => ?_⟩
  have same := congrArg (fun property => property.elements?.bind (·.inherited))
    (attachment.keeps rfl)
  exact absurd same nofun

end RuleTree
