import RuleTree.Proofs.Declaration.Level
import RuleTree.Proofs.Tree.Handing

/-!
The slots for nested validators. A validator has one slot for a nested validator, and so has a
container of elements for their rule and an object for its child. The container of a collection
property sits in the nested slot of its rules and is handed the tag of the property whenever it is
opened.
-/

set_option autoImplicit false

namespace RuleTree

/-- An edit at a position of a list, seen through a map. -/
theorem map_modify {α β : Type} {view : α → β} {change : α → α} {seen : β → β}
    (comm : ∀ item, view (change item) = seen (view item)) (items : List α) (position : Nat) :
    (items.modify position change).map view = (items.map view).modify position seen := by
  apply List.ext_getElem?
  intro index
  rw [List.getElem?_map, List.getElem?_modify, List.getElem?_modify, List.getElem?_map]
  cases items[index]? with
  | none => rfl
  | some item =>
      refine congrArg some ?_
      dsimp only
      split
      · exact comm item
      · rfl

/-! ### Edits of the entries -/

namespace ValueRules

/-- An edit of the last entry that is not seen in the entry is not seen in the segments. -/
theorem segments_modifyLast {β : Type} {view : RuleEntry → β} {change : RuleEntry → RuleEntry}
    (keeps : ∀ entry, view (change entry) = view entry) (rules : ValueRules) :
    (rules.modifyLast change).presence.map view = rules.presence.map view ∧
      (rules.modifyLast change).general.map view = rules.general.map view ∧
        (rules.modifyLast change).nested.map view = rules.nested.map view := by
  have unseen (entries : List RuleEntry) (position : Nat) :
      (entries.modify position change).map view = entries.map view := by
    have seen : (entries.modify position change).map view =
        (entries.map view).modify position id := map_modify keeps entries position
    rw [seen, List.modify_id]
  unfold modifyLast
  split
  · exact ⟨unseen _ _, rfl, rfl⟩
  · exact ⟨rfl, unseen _ _, rfl⟩
  · refine ⟨rfl, rfl, ?_⟩
    simp only [Option.map_map, Function.comp_def, keeps]
  · exact ⟨rfl, rfl, rfl⟩

section

variable {α : Type} (part : ValueRules → α)
  (frame : ∀ (rules : ValueRules) (presence general : List RuleEntry) (nested : Option RuleEntry)
    (last : Option Slot), part { rules with presence, general, nested, last } = part rules)

include frame

theorem part_modifyLast (rules : ValueRules) (change : RuleEntry → RuleEntry) :
    part (rules.modifyLast change) = part rules := by
  unfold modifyLast
  split
  · exact frame rules _ _ _ _
  · exact frame rules _ _ _ _
  · exact frame rules _ _ _ _
  · rfl

theorem part_settle_attachNested (rules : ValueRules) (rule : Rule) (site alternative : String) :
    part (Built.settle rules (rules.attachNested rule site alternative)).value = part rules := by
  unfold attachNested
  split
  · rfl
  · exact frame rules _ _ _ _

end

end ValueRules

/-! ### Filling a slot -/

namespace ValueRules

/-- The rules with a nested validator that is attached now. -/
def nesting (rules : ValueRules) (rule : Rule) : ValueRules :=
  { rules with
    nested := some (rules.entry (handOn rules.selectorForNested rule)), last := some .nested }

theorem attachNested_of_taken {rules : ValueRules} (taken : rules.nested.isSome = true) (rule : Rule)
    (site alternative : String) :
    rules.attachNested rule site alternative = .error (.alreadyAttached site alternative) := by
  rw [attachNested, if_pos taken]

theorem attachNested_of_free {rules : ValueRules} (free : rules.nested.isSome = false)
    (rule : Rule) (site alternative : String) :
    rules.attachNested rule site alternative = .ok (rules.nesting rule) := by
  rw [attachNested, free]
  rfl

end ValueRules

namespace ElementRules

def attaching (rules : ElementRules) (element : Rule) : ElementRules :=
  { rules with
    element := some (match rules.resolver with
      | some resolver => (ValueRules.handOn rules.inherited element).bind resolver
      | none => ValueRules.handOn rules.inherited element) }

theorem attach_of_taken {rules : ElementRules} (taken : rules.element.isSome = true)
    (element : Rule) :
    rules.attach element = .error (.alreadyAttached "collection elements" alternative) := by
  rw [attach, if_pos taken]

theorem attach_of_free {rules : ElementRules} (free : rules.element.isSome = false)
    (element : Rule) : rules.attach element = .ok (rules.attaching element) := by
  rw [attach, free]
  rfl

theorem isSome_element_inherit (rules : ElementRules) (sets : RuleSets) :
    (rules.inherit sets).element.isSome = rules.element.isSome := by
  cases holds : rules.inherited with
  | some kept => rw [inherit_of_kept sets holds]
  | none => rw [inherit_of_fresh sets holds, Option.isSome_map]

/-- The rules as they are handed a tag, if there is one. -/
def handed (tag : Option RuleSets) (rules : ElementRules) : ElementRules :=
  match tag with
  | some sets => rules.inherit sets
  | none => rules

theorem handed_handed (tag : Option RuleSets) (rules : ElementRules) :
    (rules.handed tag).handed tag = rules.handed tag := by
  cases tag with
  | none => rfl
  | some sets => exact inherit_of_kept sets (rules.inherited_inherit sets)

theorem isSome_element_handed (tag : Option RuleSets) (rules : ElementRules) :
    (rules.handed tag).element.isSome = rules.element.isSome := by
  cases tag with
  | none => rfl
  | some sets => exact rules.isSome_element_inherit sets

end ElementRules

namespace ObjectRules

def handOn (sets : Option RuleSets) (child : ObjectRules) : ObjectRules :=
  match sets with
  | some sets => child.inherit sets
  | none => child

def delegating (rules child : ObjectRules) : ObjectRules :=
  { rules with
    child := some (match rules.resolver with
      | some resolver => (handOn (rules.stack.current.or rules.inherited) child).bind resolver
      | none => handOn (rules.stack.current.or rules.inherited) child) }

theorem setValidator_of_taken {rules : ObjectRules} (taken : rules.child.isSome = true)
    (child : ObjectRules) :
    rules.setValidator child =
      .error (.alreadyAttached ("object validator for " ++ rules.target.name) "include") := by
  rw [setValidator, if_pos taken]

theorem setValidator_of_free {rules : ObjectRules} (free : rules.child.isSome = false)
    (child : ObjectRules) : rules.setValidator child = .ok (rules.delegating child) := by
  rw [setValidator, free]
  rfl

end ObjectRules

/-! ### The container of a collection property -/

namespace PropertyRules

variable {held : PropertyRules} {elements : ElementRules}

theorem elements?_iff : held.elements? = some elements ↔
    ∃ entry, held.rules.nested = some entry ∧ entry.rule = .elements elements := by
  unfold elements?
  constructor
  · intro found
    split at found
    · next entry nested =>
        cases found
        exact ⟨_, nested, rfl⟩
    · exact absurd found nofun
  · rintro ⟨⟨rule, tag, message, isCustom⟩, nested, rfl⟩
    rw [nested]

theorem elements?_putElements (found : held.elements? = some elements) (changed : ElementRules) :
    (held.putElements changed).elements? = some changed := by
  obtain ⟨entry, nested, _⟩ := elements?_iff.mp found
  refine elements?_iff.mpr ⟨{ entry with rule := .elements changed }, ?_, rfl⟩
  exact congrArg (Option.map _) nested

theorem putElements_self (found : held.elements? = some elements) :
    held.putElements elements = held := by
  obtain ⟨⟨rule, tag, message, isCustom⟩, nested, rfl⟩ := elements?_iff.mp found
  have same : (held.putElements elements).rules = held.rules := by
    have entry : held.rules.nested.map (fun entry => { entry with rule := .elements elements }) =
        held.rules.nested := by rw [nested, Option.map_some]
    simp only [putElements, modifyRules, entry]
    cases held.rules
    rfl
  cases held
  exact congrArg (PropertyRules.mk _ _ _ _ · _ _) same

theorem putElements_putElements (held : PropertyRules) (first second : ElementRules) :
    (held.putElements first).putElements second = held.putElements second := by
  simp only [putElements, modifyRules, Option.map_map]
  rfl

theorem openElements_of_none (absent : held.elements? = none) :
    held.openElements = .error (.alreadyAttached held.site ElementRules.alternative) := by
  rw [openElements, absent]

theorem openElements_of_some (found : held.elements? = some elements) :
    held.openElements =
      .ok (held.putElements (elements.handed held.tag), elements.handed held.tag) := by
  rw [openElements, found]
  rfl

/-- The container may be opened once more. -/
theorem openElements_opened (found : held.elements? = some elements) :
    (held.putElements (elements.handed held.tag)).openElements = held.openElements := by
  have again := openElements_of_some (elements?_putElements found (elements.handed held.tag))
  have tag : (elements.handed held.tag).handed (held.putElements (elements.handed held.tag)).tag =
      elements.handed held.tag := elements.handed_handed held.tag
  rw [again, tag, putElements_putElements, openElements_of_some found]

theorem attachElement_of_none (absent : held.elements? = none) (element : Rule) :
    held.attachElement element =
      (held, .error (.alreadyAttached held.site ElementRules.alternative)) := by
  rw [attachElement, openElements_of_none absent]

theorem attachElement_of_taken (found : held.elements? = some elements)
    (taken : elements.element.isSome = true) (element : Rule) :
    held.attachElement element = (held.putElements (elements.handed held.tag),
      .error (.alreadyAttached "collection elements" ElementRules.alternative)) := by
  have still := (elements.isSome_element_handed held.tag).trans taken
  rw [attachElement, openElements_of_some found]
  simp only [ElementRules.attach_of_taken still]

theorem attachElement_of_free (found : held.elements? = some elements)
    (free : elements.element.isSome = false) (element : Rule) :
    held.attachElement element =
      (held.putElements ((elements.handed held.tag).attaching element), .ok ()) := by
  have still := (elements.isSome_element_handed held.tag).trans free
  rw [attachElement, openElements_of_some found]
  simp only [ElementRules.attach_of_free still, putElements_putElements]

theorem setFilter_of_some (found : held.elements? = some elements) (test : Test) :
    held.setFilter test = held.putElements ((elements.handed held.tag).setFilter test) := by
  rw [setFilter, openElements_of_some found]
  exact held.putElements_putElements _ _

theorem attachElement_opened (found : held.elements? = some elements) (element : Rule) :
    (held.putElements (elements.handed held.tag)).attachElement element =
      held.attachElement element := by
  unfold attachElement
  rw [openElements_opened found, openElements_of_some found]

end PropertyRules

namespace PropertyStep

open PropertyRules

variable {held : PropertyRules} {elements : ElementRules}

/-! An attachment to the elements ends in one of three ways. -/

theorem element_of_none (absent : held.elements? = none) (form : ElementForm) (deferred : Bool) :
    (run (.element form deferred) held).replies.getLast? = some (.done (some
        (.alreadyAttached held.site ElementRules.alternative))) ∧
      (run (.element form deferred) held).value = held := by
  cases deferred with
  | true =>
      simp only [run, openElements_of_none absent, Except.map, ↓reduceIte]
      exact ⟨rfl, rfl⟩
  | false =>
      simp only [run, attachElement_of_none absent, Bool.false_eq_true, ↓reduceIte]
      exact ⟨List.getLast?_concat, rfl⟩

/-- It makes no difference to a container when the rule is built. -/
theorem element_deferred (found : held.elements? = some elements) (form : ElementForm)
    (deferred : Bool) : run (.element form deferred) held = run (.element form false) held := by
  cases deferred with
  | true =>
      simp only [run, openElements_of_some found, Except.map, ↓reduceIte,
        attachElement_opened found, Bool.false_eq_true]
  | false => rfl

theorem element_of_taken (found : held.elements? = some elements)
    (taken : elements.element.isSome = true) (form : ElementForm) (deferred : Bool) :
    run (.element form deferred) held = form.build.bind fun _ =>
      .reply (.done (some (.alreadyAttached "collection elements" ElementRules.alternative)))
        (held.putElements (elements.handed held.tag)) := by
  rw [element_deferred found]
  simp only [run, attachElement_of_taken found taken, Bool.false_eq_true, ↓reduceIte]

theorem element_of_free (found : held.elements? = some elements)
    (free : elements.element.isSome = false) (form : ElementForm) (deferred : Bool) :
    run (.element form deferred) held = form.build.bind fun rule =>
      .reply (.done none) (held.putElements ((elements.handed held.tag).attaching rule)) := by
  rw [element_deferred found]
  simp only [run, attachElement_of_free found free, Bool.false_eq_true, ↓reduceIte]

end PropertyStep

/-! ### What the steps on the rules of a value leave alone -/

/-- A part of the rules of a value that their entries and settings have no share in, and that a step
leaves alone if it inherits or binds something, is left alone by the step. -/
theorem ValueStep.part_run {α : Type} (part : ValueRules → α)
    (frame : ∀ (rules : ValueRules) (presence general : List RuleEntry) (nested : Option RuleEntry)
      (last : Option Slot) (mode : Mode) (guards : List Test) (skipsEmpty : Bool)
      (preprocess : Option (Value → Logged Value)),
      part { rules with presence, general, nested, last, mode, guards, skipsEmpty, preprocess } =
        part rules)
    {step : ValueStep} (continues : step.Continues) (rules : ValueRules)
    (inherits : ∀ names, step = .inherit names → part (rules.inherit names) = part rules)
    (binds : ∀ resolver, step = .bind resolver → part (rules.bind resolver) = part rules) :
    part (step.run rules).value = part rules := by
  have slots (rules : ValueRules) (presence general : List RuleEntry) (nested : Option RuleEntry)
      (last : Option Slot) : part { rules with presence, general, nested, last } = part rules :=
    frame rules presence general nested last rules.mode rules.guards rules.skipsEmpty
      rules.preprocess
  have attached := ValueRules.part_settle_attachNested part slots rules
  cases step with
  | rule form =>
      simp only [run, Built.bind]
      cases form.build.value with
      | none => rfl
      | some rule => exact slots rules _ _ _ _
  | presence form =>
      simp only [run, Built.bind]
      cases form.build.value with
      | none => rfl
      | some rule => exact slots rules _ _ _ _
  | message message => exact ValueRules.part_modifyLast part slots rules _
  | nested steps => exact attached _ _ _
  | attach form site alternative =>
      simp only [run, Built.bind]
      cases form.build.value with
      | none => rfl
      | some rule => exact attached rule site alternative
  | inherit names => exact inherits names rfl
  | bind resolver => exact binds resolver rfl
  | scope | replace => exact continues.elim
  | info => rfl
  | _ => exact frame rules _ _ _ _ _ _ _ _

/-! ### What the steps on a property leave alone -/

namespace PropertyStep

/-- A step on a property itself is one on its rules, or it changes what the property is called and
asks for, or it fills the free nested slot, or it exchanges the container. -/
theorem run_shape {step : PropertyStep} (plain : ∀ steps, step ≠ .property steps)
    (held : PropertyRules) :
    (∃ own, step = .value own ∧
        (step.run held).value = { held with rules := (own.run held.rules).value }) ∨
      (∃ memberOverride display annotated,
        (step.run held).value = { held with memberOverride, display, annotated }) ∨
      (held.rules.nested.isSome = false ∧
        ∃ rule, (step.run held).value = { held with rules := held.rules.nesting rule }) ∨
      ∃ elements, (step.run held).value = held.putElements elements := by
  have same : ∃ memberOverride display annotated,
      held = { held with memberOverride, display, annotated } := by
    cases held
    exact ⟨_, _, _, rfl⟩
  cases step with
  | value own => exact .inl ⟨own, rfl, rfl⟩
  | member | display | skipAnnotations => exact .inr (.inl ⟨_, _, _, rfl⟩)
  | nested reach target steps =>
      simp only [run, Built.bind, PropertyRules.setValidator]
      cases taken : held.rules.nested.isSome with
      | true =>
          rw [ValueRules.attachNested_of_taken taken]
          exact .inr (.inl same)
      | false =>
          rw [ValueRules.attachNested_of_free taken]
          exact .inr (.inr (.inl ⟨rfl, _, rfl⟩))
  | element form deferred =>
      cases found : held.elements? with
      | none =>
          rw [(element_of_none found form deferred).2]
          exact .inr (.inl same)
      | some elements =>
          cases taken : elements.element.isSome with
          | true =>
              rw [element_of_taken found taken]
              exact .inr (.inr (.inr ⟨_, rfl⟩))
          | false =>
              rw [element_of_free found taken]
              exact .inr (.inr (.inr ⟨_, rfl⟩))
  | filter test =>
      simp only [run]
      cases found : held.elements? with
      | none =>
          rw [PropertyRules.setFilter, PropertyRules.openElements_of_none found]
          exact .inr (.inl same)
      | some elements =>
          rw [PropertyRules.setFilter_of_some found]
          exact .inr (.inr (.inr ⟨_, rfl⟩))
  | property steps => exact absurd rfl (plain steps)
  | tellMember => exact .inr (.inl same)
  | info => exact .inr (.inl same)

/-- A step on a property itself either is one on its rules, or changes no more of them than their
nested validator. -/
theorem run_cases {step : PropertyStep} (plain : ∀ steps, step ≠ .property steps)
    (held : PropertyRules) :
    (∃ own, step = .value own ∧
        (step.run held).value = { held with rules := (own.run held.rules).value }) ∨
      ∃ memberOverride display annotated nested last, (step.run held).value = { held with
        memberOverride, display, annotated, rules := { held.rules with nested, last } } := by
  rcases run_shape plain held with own | ⟨memberOverride, display, annotated, run⟩ |
    ⟨_, rule, run⟩ | ⟨elements, run⟩
  · exact .inl own
  · refine .inr ⟨memberOverride, display, annotated, held.rules.nested, held.rules.last,
      run.trans ?_⟩
    cases held.rules
    rfl
  · exact .inr ⟨_, _, _, _, _, run⟩
  · exact .inr ⟨_, _, _, _, _, run⟩

section

variable {α : Type} (part : PropertyRules → α)
  (frame : ∀ (held : PropertyRules) (memberOverride display : Option String) (rules : ValueRules)
    (annotated : Bool), part { held with memberOverride, display, rules, annotated } = part held)

include frame

theorem part_run {step : PropertyStep} (plain : ∀ steps, step ≠ .property steps)
    (held : PropertyRules) : part (step.run held).value = part held := by
  rcases run_cases plain held with ⟨own, _, run⟩ | ⟨_, _, _, _, _, run⟩
  · rw [run]
    exact frame held held.memberOverride held.display _ held.annotated
  · rw [run]
    exact frame held _ _ _ _

/-- Steps on a property change what it is called, its rules and whether it asks for annotations, and
nothing else. -/
theorem part_runAll (steps : List PropertyStep) (held : PropertyRules) :
    part (runAll steps held).value = part held :=
  runAll_keeps (fun _ => True) (motive := fun after => part after = part held)
    (fun plain _ same => (part_run part frame plain _).trans same) (fun _ _ => trivial) rfl

end

end PropertyStep

/-! ### What steps make of a container -/

namespace ValueStep

/-- What a step makes of the entry of a validator that is nested already. -/
def edit (rules : ValueRules) (step : ValueStep) : RuleEntry → RuleEntry :=
  match step with
  | .message given => if rules.last = some .nested then (·.setMessage given) else id
  | .defaultMessage given => (·.setDefaultMessage given)
  | .inherit names => if rules.inherited.isSome then id else (·.inherit names)
  | .bind resolver => if resolver.isBoundIn rules.resolver then id else (·.bind resolver)
  | _ => id

/-- The step attaches a nested validator. -/
def Attaches : ValueStep → Prop
  | .nested _ | .attach .. => True
  | _ => False

/-- A step that attaches nothing, as it is of another kind or is refused, edits the nested entry, and
what it does otherwise does not depend on that entry. -/
theorem run_nested {step : ValueStep} (continues : step.Continues) {rules : ValueRules}
    {nested : Option RuleEntry}
    (taken : step.Attaches → rules.nested.isSome = true ∧ nested.isSome = true) :
    (step.run { rules with nested }).value =
      { (step.run rules).value with nested := nested.map (step.edit rules) } := by
  have unedited : nested.map id = nested := by rw [Option.map_id_fun, id]
  have refused (there : nested.isSome = true) (rule : Rule) (site alternative : String) :
      ValueRules.attachNested { rules with nested } rule site alternative =
        .error (.alreadyAttached site alternative) :=
    ValueRules.attachNested_of_taken there rule site alternative
  cases step with
  | rule form =>
      simp only [run, Built.bind, edit, unedited]
      cases form.build.value <;> rfl
  | presence form =>
      simp only [run, Built.bind, edit, unedited]
      cases form.build.value <;> rfl
  | message message =>
      change (ValueRules.setLastMessage { rules with nested } message) =
        { rules.setLastMessage message with nested := nested.map (edit rules (.message message)) }
      unfold ValueRules.setLastMessage ValueRules.modifyLast edit
      cases last : rules.last with
      | none => simp only [last, reduceCtorEq, ↓reduceIte, unedited]
      | some slot => cases slot <;> simp only [Option.some.injEq, reduceCtorEq, ↓reduceIte, unedited]
  | nested steps =>
      obtain ⟨here, there⟩ := taken trivial
      simp only [run, Built.bind, edit, unedited, ValueRules.setValidator,
        ValueRules.attachNested_of_taken here, refused there]
      rfl
  | attach form site alternative =>
      obtain ⟨here, there⟩ := taken trivial
      simp only [run, Built.bind, edit, unedited]
      cases form.build.value with
      | none => rfl
      | some rule =>
          simp only [ValueRules.attachNested_of_taken here, refused there]
          rfl
  | inherit names =>
      change ValueRules.inherit names { rules with nested } =
        { rules.inherit names with nested := nested.map (edit rules (.inherit names)) }
      obtain fresh | ⟨kept, holds⟩ := Option.eq_none_or_eq_some rules.inherited
      · have other : ValueRules.inherit names { rules with nested } =
            { rules with nested := nested.map (·.inherit names), inherited := some names } :=
          ValueRules.inherit_of_fresh names fresh
        rw [other, ValueRules.inherit_of_fresh names fresh]
        simp only [edit, fresh, Option.isSome_none, Bool.false_eq_true, ↓reduceIte]
      · have other : ValueRules.inherit names { rules with nested } = { rules with nested } :=
          ValueRules.inherit_of_kept names holds
        rw [other, ValueRules.inherit_of_kept names holds]
        simp only [edit, holds, Option.isSome_some, ↓reduceIte, unedited]
  | bind resolver =>
      change ValueRules.bind resolver { rules with nested } =
        { rules.bind resolver with nested := nested.map (edit rules (.bind resolver)) }
      by_cases bound : resolver.isBoundIn rules.resolver = true
      · have other : ValueRules.bind resolver { rules with nested } = { rules with nested } :=
          ValueRules.bind_of_bound resolver bound
        rw [other, ValueRules.bind_of_bound resolver bound]
        simp only [edit, bound, ↓reduceIte, unedited]
      · have other : ValueRules.bind resolver { rules with nested } =
            { rules with
              presence := rules.presence.map (·.bind resolver)
              general := rules.general.map (·.bind resolver)
              nested := nested.map (·.bind resolver)
              resolver := some resolver } := ValueRules.bind_of_free resolver bound
        rw [other, ValueRules.bind_of_free resolver bound]
        simp only [edit, bound, Bool.false_eq_true, ↓reduceIte]
  | scope names steps fails => exact continues.elim
  | replace steps => exact continues.elim
  | _ =>
      simp only [edit, unedited]
      rfl

theorem rule_edit (step : ValueStep) (rules : ValueRules) (held : RuleEntry) :
    (step.edit rules held).rule = held.rule ∨
      (∃ sets, (step.edit rules held).rule = held.rule.inherit sets) ∨
        ∃ resolver, step = .bind resolver ∧ (step.edit rules held).rule = held.rule.bind resolver := by
  unfold edit
  split
  · split
    · exact .inl rfl
    · exact .inl rfl
  · left
    unfold RuleEntry.setDefaultMessage
    split <;> rfl
  · split
    · exact .inl rfl
    · exact .inr (.inl ⟨_, congrArg RuleEntry.rule (RuleEntry.inherit_eq _ held)⟩)
  · split
    · exact .inl rfl
    · exact .inr (.inr ⟨_, rfl, congrArg RuleEntry.rule (RuleEntry.bind_eq _ held)⟩)
  · exact .inl rfl

theorem tag_edit (step : ValueStep) (rules : ValueRules) (held : RuleEntry) :
    (step.edit rules held).tag = held.tag := by
  unfold edit
  split
  · split <;> rfl
  · unfold RuleEntry.setDefaultMessage
    split <;> rfl
  · split
    · rfl
    · simp only [RuleEntry.inherit_eq]
  · split
    · rfl
    · simp only [RuleEntry.bind_eq]
  · rfl

theorem nested_run_of_taken {step : ValueStep} (continues : step.Continues) {rules : ValueRules}
    (taken : rules.nested.isSome = true) :
    (step.run rules).value.nested = rules.nested.map (step.edit rules) := by
  cases rules
  exact congrArg ValueRules.nested (run_nested continues fun _ => ⟨taken, taken⟩)

/-- A step on the rules of a value that goes on with them makes of their nested rule what inheriting
and binding make of it. -/
theorem nested_run {step : ValueStep} (continues : step.Continues) {rules : ValueRules}
    {held : RuleEntry} (nested : rules.nested = some held) :
    ∃ after, (step.run rules).value.nested = some after ∧
      (after.rule = held.rule ∨ (∃ sets, after.rule = held.rule.inherit sets) ∨
        ∃ resolver, step = .bind resolver ∧ after.rule = held.rule.bind resolver) := by
  have edited := nested_run_of_taken continues (Option.isSome_iff_exists.mpr ⟨held, nested⟩)
  rw [nested] at edited
  exact ⟨_, edited, rule_edit step rules held⟩

end ValueStep

/-- The nested rule is a container of which a condition holds. -/
def ValueRules.Contains (condition : ElementRules → Prop) (rules : ValueRules) : Prop :=
  ∃ held, rules.nested = some held ∧ ∃ elements, held.rule = .elements elements ∧ condition elements

def PropertyRules.Contains (condition : ElementRules → Prop) (held : PropertyRules) : Prop :=
  ∃ elements, held.elements? = some elements ∧ condition elements

theorem PropertyRules.contains_iff {condition : ElementRules → Prop} {held : PropertyRules} :
    held.Contains condition ↔ held.rules.Contains condition := by
  unfold Contains ValueRules.Contains
  simp only [elements?_iff]
  constructor
  · rintro ⟨elements, ⟨entry, nested, same⟩, holds⟩
    exact ⟨entry, nested, elements, same, holds⟩
  · rintro ⟨entry, nested, elements, same, holds⟩
    exact ⟨elements, ⟨entry, nested, same⟩, holds⟩

/-- A condition on the container of a property with a tag that steps on the property keep, as far as
those on its rules are allowed. -/
structure ContainerInvariant (tag : Option RuleSets) where
  holds : ElementRules → Prop
  allows : ValueStep → Prop
  continues {step : ValueStep} : allows step → step.Continues
  inherit {rules : ElementRules} (sets : RuleSets) : holds rules → holds (rules.inherit sets)
  bind {rules : ElementRules} {resolver : Resolver} : allows (.bind resolver) → holds rules →
    holds (rules.bind resolver)
  attach {rules : ElementRules} (element : Rule) : holds rules →
    holds ((rules.handed tag).attaching element)
  filter {rules : ElementRules} (test : Test) : holds rules →
    holds ((rules.handed tag).setFilter test)

namespace ContainerInvariant

variable {tag : Option RuleSets} (law : ContainerInvariant tag)

/-- The steps on the rules of a property are allowed. -/
def Allows : PropertyStep → Prop
  | .value step => step.level.Each law.allows
  | _ => True

variable {law}

theorem handed {rules : ElementRules} (holds : law.holds rules) :
    law.holds (rules.handed tag) := by
  cases tag with
  | none => exact holds
  | some sets => exact law.inherit sets holds

theorem value_run {step : ValueStep} (allowed : law.allows step) {rules : ValueRules}
    (contains : rules.Contains law.holds) : (step.run rules).value.Contains law.holds := by
  obtain ⟨held, nested, elements, same, holds⟩ := contains
  obtain ⟨after, found, kept | ⟨sets, inherited⟩ | ⟨resolver, rfl, bound⟩⟩ :=
    ValueStep.nested_run (law.continues allowed) nested
  · exact ⟨after, found, elements, kept.trans same, holds⟩
  · refine ⟨after, found, elements.inherit sets, ?_, law.inherit sets holds⟩
    rw [inherited, same, Rule.inherit]
  · refine ⟨after, found, elements.bind resolver, ?_, law.bind allowed holds⟩
    rw [bound, same, Rule.bind]

theorem property_run {step : PropertyStep} (allowed : law.Allows step)
    (plain : ∀ steps, step ≠ .property steps) {held : PropertyRules} (tagged : held.tag = tag)
    (contains : held.Contains law.holds) : (step.run held).value.Contains law.holds := by
  have put {elements changed : ElementRules} (found : held.elements? = some elements)
      (holds : law.holds changed) : (held.putElements changed).Contains law.holds :=
    ⟨changed, PropertyRules.elements?_putElements found changed, holds⟩
  cases step with
  | value step =>
      refine PropertyRules.contains_iff.mpr ?_
      change (step.run held.rules).value.Contains law.holds
      rw [ValueStep.run_level]
      have each : Level.EachOf law.allows [step.level] := ⟨allowed, trivial⟩
      exact Level.runAll_keeps law.allows (ValueRules.Contains law.holds)
        (fun allowed inside => value_run allowed inside)
        (fun _ inside => inside) (fun _ _ inside => inside) each
        (PropertyRules.contains_iff.mp contains)
  | member name => exact contains
  | display name => exact contains
  | skipAnnotations => exact contains
  | nested reach target steps =>
      obtain ⟨elements, found, holds⟩ := contains
      obtain ⟨entry, nested, _⟩ := PropertyRules.elements?_iff.mp found
      have taken : held.rules.nested.isSome = true := Option.isSome_iff_exists.mpr ⟨entry, nested⟩
      simp only [PropertyStep.run, Built.bind, PropertyRules.setValidator,
        ValueRules.attachNested_of_taken taken]
      exact ⟨elements, found, holds⟩
  | element form deferred =>
      obtain ⟨elements, found, holds⟩ := contains
      cases taken : elements.element.isSome with
      | true =>
          rw [PropertyStep.element_of_taken found taken, tagged]
          exact put found (handed holds)
      | false =>
          rw [PropertyStep.element_of_free found taken, tagged]
          exact put found (law.attach _ holds)
  | filter test =>
      obtain ⟨elements, found, holds⟩ := contains
      have filtered : (PropertyStep.run (.filter test) held).value =
          held.putElements ((elements.handed held.tag).setFilter test) :=
        PropertyRules.setFilter_of_some found test
      rw [filtered, tagged]
      exact put found (law.filter test holds)
  | property steps => exact absurd rfl (plain steps)
  | tellMember => exact contains
  | info => exact contains

variable (law) in
theorem property_runAll {steps : List PropertyStep}
    (allowed : ∀ step ∈ PropertyStep.ownAll steps, law.Allows step) {held : PropertyRules}
    (tagged : held.tag = tag) (contains : held.Contains law.holds) :
    (PropertyStep.runAll steps held).value.Contains law.holds :=
  (PropertyStep.runAll_keeps law.Allows
    (motive := fun after => after.tag = tag ∧ after.Contains law.holds)
    (fun plain allowed ⟨tagged, contains⟩ =>
      ⟨(PropertyStep.part_run PropertyRules.tag (fun _ _ _ _ _ => rfl) plain _).trans tagged,
        property_run allowed plain tagged contains⟩)
    allowed ⟨tagged, contains⟩).2

end ContainerInvariant

end RuleTree
