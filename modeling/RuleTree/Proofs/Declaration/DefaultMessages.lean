import RuleTree.Proofs.Declaration.Slots
import RuleTree.Proofs.Tree.DefaultMessages

/-!
Default messages. A call that sets the default message of a validator gives it to the entries that
are there and have no message of their own. From then on the steps of the declaration do the same to
the validator with the call and to the one without, so that the two differ in such entries only, and
their reports in the words of the failures below such entries.
-/

set_option autoImplicit false

namespace RuleTree

variable {given : MessageOverride}

/-! ### What steps make of entries with other default messages -/

namespace RuleEntry.TakesDefault

variable {held other : RuleEntry}

theorem withRule (pair : held.TakesDefault given other) (rule : Rule) :
    TakesDefault given { held with rule } { other with rule } := by
  rcases pair with rfl | ⟨fresh, rfl⟩
  · exact .inl rfl
  · exact .inr ⟨fresh, rfl⟩

theorem setMessage (pair : held.TakesDefault given other) (message : MessageOverride) :
    (held.setMessage message).TakesDefault given (other.setMessage message) := by
  rcases pair with rfl | ⟨_, rfl⟩ <;> exact .inl rfl

/-- A later default takes the place of the given one. -/
theorem setDefaultMessage (pair : held.TakesDefault given other) (message : MessageOverride) :
    (held.setDefaultMessage message).TakesDefault given (other.setDefaultMessage message) := by
  rcases pair with rfl | ⟨fresh, rfl⟩
  · exact .inl rfl
  · left
    simp only [RuleEntry.setDefaultMessage, fresh, Bool.false_eq_true, ↓reduceIte]

theorem inherit (pair : held.TakesDefault given other) (sets : RuleSets) :
    (held.inherit sets).TakesDefault given (other.inherit sets) := by
  rw [RuleEntry.inherit_eq, RuleEntry.inherit_eq, pair.rule]
  exact pair.withRule (held.rule.inherit sets)

theorem bind (pair : held.TakesDefault given other) (resolver : Resolver) :
    (held.bind resolver).TakesDefault given (other.bind resolver) := by
  rw [RuleEntry.bind_eq, RuleEntry.bind_eq, pair.rule]
  exact pair.withRule (held.rule.bind resolver)

theorem defaulted (given : MessageOverride) (held : RuleEntry) :
    held.TakesDefault given (held.setDefaultMessage given) := by
  cases custom : held.isCustom with
  | true =>
      left
      rw [RuleEntry.setDefaultMessage, custom]
      rfl
  | false =>
      refine .inr ⟨custom, ?_⟩
      rw [RuleEntry.setDefaultMessage, custom]
      rfl

end RuleEntry.TakesDefault

theorem forall₂_modify {α β : Type} {related : α → β → Prop} {change : α → α} {changeOther : β → β}
    (keeps : ∀ item other, related item other → related (change item) (changeOther other))
    {items : List α} {others : List β} (pairs : List.Forall₂ related items others)
    (position : Nat) :
    List.Forall₂ related (items.modify position change) (others.modify position changeOther) := by
  induction pairs generalizing position with
  | nil =>
      rw [List.modify_nil, List.modify_nil]
      exact .nil
  | cons pair rest ih =>
      cases position with
      | zero => exact .cons (keeps _ _ pair) rest
      | succ position => exact .cons pair (ih position)

theorem optionRel_map {α β : Type} {related : α → β → Prop} {change : α → α} {changeOther : β → β}
    (keeps : ∀ item other, related item other → related (change item) (changeOther other))
    {item : Option α} {other : Option β} (pair : Option.Rel related item other) :
    Option.Rel related (item.map change) (other.map changeOther) := by
  cases pair with
  | none => exact .none
  | some pair => exact .some (keeps _ _ pair)

namespace ValueRules.TakesDefault

variable {rules other : ValueRules}

theorem modifyLast (pair : rules.TakesDefault given other) {change : RuleEntry → RuleEntry}
    (keeps : ∀ held other : RuleEntry, held.TakesDefault given other →
      (change held).TakesDefault given (change other)) :
    (rules.modifyLast change).TakesDefault given (other.modifyLast change) := by
  obtain ⟨presence, general, nested⟩ := pair
  obtain ⟨_, _, _, last⟩ := rules
  rcases last with _ | (position | position | _)
  · exact .entries presence general nested
  · exact .entries (forall₂_modify keeps presence position) general nested
  · exact .entries presence (forall₂_modify keeps general position) nested
  · exact .entries presence general (optionRel_map keeps nested)

theorem inherit (pair : rules.TakesDefault given other) (sets : RuleSets) :
    (rules.inherit sets).TakesDefault given (other.inherit sets) := by
  have same : other.inherited = rules.inherited := by cases pair; rfl
  obtain fresh | ⟨kept, holds⟩ := Option.eq_none_or_eq_some rules.inherited
  · rw [inherit_of_fresh sets fresh, inherit_of_fresh sets (same.trans fresh)]
    obtain ⟨presence, general, nested⟩ := pair
    exact .entries presence general (optionRel_map (fun _ _ pair => pair.inherit sets) nested)
  · rw [inherit_of_kept sets holds, inherit_of_kept sets (same.trans holds)]
    exact pair

theorem bind (pair : rules.TakesDefault given other) (resolver : Resolver) :
    (rules.bind resolver).TakesDefault given (other.bind resolver) := by
  have same : other.resolver = rules.resolver := by cases pair; rfl
  by_cases bound : resolver.isBoundIn rules.resolver = true
  · rw [bind_of_bound resolver bound, bind_of_bound resolver (same ▸ bound)]
    exact pair
  · rw [bind_of_free resolver bound, bind_of_free resolver (same ▸ bound)]
    have bound (held other : RuleEntry) (pair : held.TakesDefault given other) := pair.bind resolver
    obtain ⟨presence, general, nested⟩ := pair
    exact .entries (List.rel_map bound presence) (List.rel_map bound general)
      (optionRel_map bound nested)

theorem setDefaultMessage (pair : rules.TakesDefault given other) (message : MessageOverride) :
    (rules.setDefaultMessage message).TakesDefault given (other.setDefaultMessage message) := by
  have set (held other : RuleEntry) (pair : held.TakesDefault given other) :=
    pair.setDefaultMessage message
  obtain ⟨presence, general, nested⟩ := pair
  exact .entries (List.rel_map set presence) (List.rel_map set general) (optionRel_map set nested)

theorem pushRule (pair : rules.TakesDefault given other) (rule : Rule) :
    (rules.pushRule rule).TakesDefault given (other.pushRule rule) := by
  obtain ⟨presence, general, nested⟩ := pair
  unfold ValueRules.pushRule
  rw [general.length_eq]
  exact .entries presence (List.rel_append general (.cons (.refl given _) .nil)) nested

theorem pushPresence (pair : rules.TakesDefault given other) (rule : Rule) :
    (rules.pushPresence rule).TakesDefault given (other.pushPresence rule) := by
  obtain ⟨presence, general, nested⟩ := pair
  unfold ValueRules.pushPresence
  rw [presence.length_eq]
  exact .entries (List.rel_append presence (.cons (.refl given _) .nil)) general nested

theorem isSome_nested (pair : rules.TakesDefault given other) :
    other.nested.isSome = rules.nested.isSome := by
  obtain ⟨_, _, nested⟩ := pair
  generalize rules.nested = held at nested ⊢
  cases nested <;> rfl

theorem nesting (pair : rules.TakesDefault given other) (rule : Rule) :
    (rules.nesting rule).TakesDefault given (other.nesting rule) := by
  obtain ⟨presence, general, _⟩ := pair
  exact .entries presence general (.some (.refl given _))

theorem attachNested (pair : rules.TakesDefault given other) (rule : Rule)
    (site alternative : String) :
    (Built.settle rules (rules.attachNested rule site alternative)).value.TakesDefault given
      (Built.settle other (other.attachNested rule site alternative)).value := by
  cases taken : rules.nested.isSome with
  | true =>
      rw [attachNested_of_taken taken, attachNested_of_taken (pair.isSome_nested.trans taken)]
      exact pair
  | false =>
      rw [attachNested_of_free taken, attachNested_of_free (pair.isSome_nested.trans taken)]
      exact pair.nesting rule

theorem enter (pair : rules.TakesDefault given other) (sets : RuleSets) :
    (rules.enter sets).TakesDefault given (other.enter sets) := by
  obtain ⟨presence, general, nested⟩ := pair
  exact .entries presence general nested

theorem leaveTo (pair : rules.TakesDefault given other) (depth : Nat) :
    (rules.leaveTo depth).TakesDefault given (other.leaveTo depth) := by
  obtain ⟨presence, general, nested⟩ := pair
  exact .entries presence general nested

theorem act (pair : rules.TakesDefault given other) {step : ValueStep}
    (plain : ∀ names steps fails, step ≠ .scope names steps fails) :
    (step.run rules).value.TakesDefault given (step.run other).value := by
  have set (message : MessageOverride) (held other : RuleEntry)
      (pair : held.TakesDefault given other) := pair.setMessage message
  cases step with
  | rule form =>
      simp only [ValueStep.run, Built.bind]
      cases form.build.value with
      | none => exact pair
      | some rule => exact pair.pushRule rule
  | presence form =>
      simp only [ValueStep.run, Built.bind]
      cases form.build.value with
      | none => exact pair
      | some rule => exact pair.pushPresence rule
  | contextual leaf => exact pair.pushRule (.contextual leaf)
  | required => exact pair.pushPresence .presence
  | message message => exact pair.modifyLast (set message)
  | defaultMessage message => exact pair.setDefaultMessage message
  | nested steps => exact pair.attachNested _ _ _
  | attach form site alternative =>
      simp only [ValueStep.run, Built.bind]
      cases form.build.value with
      | none => exact pair
      | some rule => exact pair.attachNested rule site alternative
  | scope names steps fails => exact absurd rfl (plain names steps fails)
  | inherit names => exact pair.inherit names
  | bind resolver => exact pair.bind resolver
  | replace steps => exact .refl given _
  | info => exact pair
  | allowEmpty | guard | mode | preprocess =>
      obtain ⟨presence, general, nested⟩ := pair
      exact .entries presence general nested

end ValueRules.TakesDefault

mutual

theorem ValueStep.run_takesDefault (step : ValueStep) {rules other : ValueRules}
    (pair : rules.TakesDefault given other) :
    (step.run rules).value.TakesDefault given (step.run other).value := by
  cases step with
  | scope names steps fails =>
      simp only [run]
      cases names.required with
      | error error => exact pair
      | ok sets =>
          have depth : other.stack.depth = rules.stack.depth := by cases pair; rfl
          simp only [Built.bind, Built.reply, depth]
          exact (runAll_takesDefault steps (pair.enter sets)).leaveTo rules.stack.depth
  | _ => exact pair.act nofun

theorem ValueStep.runAll_takesDefault (steps : List ValueStep) {rules other : ValueRules}
    (pair : rules.TakesDefault given other) :
    (runAll steps rules).value.TakesDefault given (runAll steps other).value := by
  cases steps with
  | nil => exact pair
  | cons step rest => exact runAll_takesDefault rest (step.run_takesDefault pair)

end

/-! ### Properties -/

namespace PropertyRules.TakesDefault

variable {held other : PropertyRules}

theorem elements? (pair : held.TakesDefault given other) : other.elements? = held.elements? := by
  obtain ⟨_, _, nested⟩ := pair
  unfold PropertyRules.elements?
  generalize held.rules.nested = entry at nested ⊢
  cases nested with
  | none => rfl
  | @some entry changed pair =>
      rcases pair with rfl | ⟨_, rfl⟩
      · rfl
      · obtain ⟨rule⟩ := entry
        cases rule <;> rfl

theorem putElements (pair : held.TakesDefault given other) (elements : ElementRules) :
    (held.putElements elements).TakesDefault given (other.putElements elements) := by
  obtain ⟨presence, general, nested⟩ := pair
  exact .rules (.entries presence general
    (optionRel_map (fun _ _ pair => pair.withRule (.elements elements)) nested))

theorem setValidator (pair : held.TakesDefault given other) (reach : Reach) (nested : ObjectRules) :
    (Built.settle held (held.setValidator reach nested)).value.TakesDefault given
      (Built.settle other (other.setValidator reach nested)).value := by
  obtain @⟨rules, within⟩ := pair
  cases taken : held.rules.nested.isSome with
  | true =>
      have takenOther := within.isSome_nested.trans taken
      simp only [PropertyRules.setValidator, ValueRules.attachNested_of_taken taken,
        ValueRules.attachNested_of_taken takenOther]
      exact .rules within
  | false =>
      have freeOther := within.isSome_nested.trans taken
      simp only [PropertyRules.setValidator, ValueRules.attachNested_of_free taken,
        ValueRules.attachNested_of_free freeOther]
      exact .rules (within.nesting _)

theorem act (pair : held.TakesDefault given other) {step : PropertyStep}
    (plain : ∀ steps, step ≠ .property steps) :
    (step.run held).value.TakesDefault given (step.run other).value := by
  have tag : other.tag = held.tag := by cases pair; rfl
  cases step with
  | value step =>
      obtain ⟨within⟩ := pair
      exact .rules (step.run_takesDefault within)
  | member | display | skipAnnotations =>
      obtain ⟨within⟩ := pair
      exact .rules within
  | nested reach target steps => exact pair.setValidator _ _
  | element form deferred =>
      cases found : held.elements? with
      | none =>
          rw [(PropertyStep.element_of_none found form deferred).2,
            (PropertyStep.element_of_none (pair.elements?.trans found) form deferred).2]
          exact pair
      | some elements =>
          have foundOther := pair.elements?.trans found
          cases taken : elements.element.isSome with
          | true =>
              rw [PropertyStep.element_of_taken found taken,
                PropertyStep.element_of_taken foundOther taken, tag]
              exact pair.putElements _
          | false =>
              rw [PropertyStep.element_of_free found taken,
                PropertyStep.element_of_free foundOther taken, tag]
              exact pair.putElements _
  | filter test =>
      simp only [PropertyStep.run]
      cases found : held.elements? with
      | none =>
          have foundOther := pair.elements?.trans found
          rw [PropertyRules.setFilter, PropertyRules.openElements_of_none found,
            PropertyRules.setFilter, PropertyRules.openElements_of_none foundOther]
          exact pair
      | some elements =>
          rw [PropertyRules.setFilter_of_some found,
            PropertyRules.setFilter_of_some (pair.elements?.trans found), tag]
          exact pair.putElements _
  | property steps => exact absurd rfl (plain steps)
  | tellMember => exact pair
  | info => exact pair

end PropertyRules.TakesDefault

theorem PropertyStep.runAll_takesDefault (steps : List PropertyStep) {held other : PropertyRules}
    (pair : held.TakesDefault given other) :
    (runAll steps held).value.TakesDefault given (runAll steps other).value :=
  runAll_relates (fun _ => True) (PropertyRules.TakesDefault given)
    (fun plain _ pair => pair.act plain) (fun _ _ => trivial) held other pair

/-! ### Entries that are there -/

namespace ValueRules

def entryAt? (rules : ValueRules) : Slot → Option RuleEntry
  | .presence position => rules.presence[position]?
  | .general position => rules.general[position]?
  | .nested => rules.nested

theorem entryAt?_modifyLast (rules : ValueRules) (change : RuleEntry → RuleEntry) (slot : Slot) :
    (rules.modifyLast change).entryAt? slot =
      (rules.entryAt? slot).map (if rules.last = some slot then change else id) := by
  have modified (entries : List RuleEntry) (position index : Nat) :
      (entries.modify position change)[index]? =
        entries[index]?.map (if position = index then change else id) := by
    rw [List.getElem?_modify]
    split <;> rfl
  obtain ⟨presence, general, nested, last⟩ := rules
  rcases last with _ | (position | position | _) <;> cases slot <;>
    simp [modifyLast, entryAt?, modified]

theorem entryAt?_setDefaultMessage (rules : ValueRules) (given : MessageOverride) (slot : Slot) :
    (rules.setDefaultMessage given).entryAt? slot =
      (rules.entryAt? slot).map (·.setDefaultMessage given) := by
  cases slot with
  | presence position => exact List.getElem?_map
  | general position => exact List.getElem?_map
  | nested => rfl

end ValueRules

/-- What an entry tells of its message. -/
def RuleEntry.wording (held : RuleEntry) : Bool × Option MessageOverride :=
  (held.isCustom, held.message)

namespace ValueRules

theorem wording_inherit (rules : ValueRules) (sets : RuleSets) (slot : Slot) :
    ((rules.inherit sets).entryAt? slot).map RuleEntry.wording =
      (rules.entryAt? slot).map RuleEntry.wording := by
  obtain fresh | ⟨kept, holds⟩ := Option.eq_none_or_eq_some rules.inherited
  · rw [inherit_of_fresh sets fresh]
    cases slot with
    | presence | general => rfl
    | nested =>
        simp only [entryAt?, Option.map_map, Function.comp_def, RuleEntry.inherit_eq]
        rfl
  · rw [inherit_of_kept sets holds]

theorem wording_bind (rules : ValueRules) (resolver : Resolver) (slot : Slot) :
    ((rules.bind resolver).entryAt? slot).map RuleEntry.wording =
      (rules.entryAt? slot).map RuleEntry.wording := by
  by_cases bound : resolver.isBoundIn rules.resolver = true
  · rw [bind_of_bound resolver bound]
  · rw [bind_of_free resolver bound]
    cases slot with
    | presence | general | nested =>
        simp only [entryAt?, List.getElem?_map, Option.map_map, Function.comp_def,
          RuleEntry.bind_eq]
        rfl

end ValueRules

/-- The entry has a message of its own or the given one. -/
def RuleEntry.OwnOrDefault (given : MessageOverride) (held : RuleEntry) : Prop :=
  held.isCustom = true ∨ held.message = some given

def ValueRules.OwnOrDefaultAt (given : MessageOverride) (slot : Slot) (rules : ValueRules) : Prop :=
  ∃ held, rules.entryAt? slot = some held ∧ held.OwnOrDefault given

/-- A step that goes on with the validator and sets no default message. -/
def ValueStep.Lasting : ValueStep → Prop
  | .scope .. | .replace _ | .defaultMessage _ => False
  | _ => True

namespace ValueRules.OwnOrDefaultAt

variable {slot : Slot} {rules : ValueRules}

theorem of_call (there : (rules.entryAt? slot).isSome = true) :
    (rules.setDefaultMessage given).OwnOrDefaultAt given slot := by
  obtain ⟨held, found⟩ := Option.isSome_iff_exists.mp there
  refine ⟨held.setDefaultMessage given, by rw [entryAt?_setDefaultMessage, found]; rfl, ?_⟩
  unfold RuleEntry.setDefaultMessage
  split
  · exact .inl ‹_›
  · exact .inr rfl

theorem of_found (ownOrDefault : rules.OwnOrDefaultAt given slot) {other : ValueRules}
    (found : ∀ held, rules.entryAt? slot = some held → other.entryAt? slot = some held) :
    other.OwnOrDefaultAt given slot := by
  obtain ⟨held, there, ownOrDefault⟩ := ownOrDefault
  exact ⟨held, found held there, ownOrDefault⟩

theorem of_wording (ownOrDefault : rules.OwnOrDefaultAt given slot) {other : ValueRules}
    (same : (other.entryAt? slot).map RuleEntry.wording =
      (rules.entryAt? slot).map RuleEntry.wording) : other.OwnOrDefaultAt given slot := by
  obtain ⟨held, there, ownOrDefault⟩ := ownOrDefault
  rw [there] at same
  obtain ⟨found, here, wording⟩ := Option.map_eq_some_iff.mp same
  obtain ⟨custom, message⟩ := Prod.mk.inj wording
  refine ⟨found, here, ?_⟩
  rw [RuleEntry.OwnOrDefault, custom, message]
  exact ownOrDefault

theorem setLastMessage (ownOrDefault : rules.OwnOrDefaultAt given slot)
    (message : MessageOverride) :
    (rules.setLastMessage message).OwnOrDefaultAt given slot := by
  obtain ⟨held, there, ownOrDefault⟩ := ownOrDefault
  refine ⟨_, by rw [ValueRules.setLastMessage, entryAt?_modifyLast, there]; rfl, ?_⟩
  split
  · exact .inl rfl
  · exact ownOrDefault

theorem pushRule (ownOrDefault : rules.OwnOrDefaultAt given slot) (rule : Rule) :
    (rules.pushRule rule).OwnOrDefaultAt given slot := by
  refine ownOrDefault.of_found fun held found => ?_
  cases slot with
  | general position =>
      exact (List.getElem?_append_left (List.getElem?_eq_some_iff.mp found).1).trans found
  | presence | nested => exact found

theorem pushPresence (ownOrDefault : rules.OwnOrDefaultAt given slot) (rule : Rule) :
    (rules.pushPresence rule).OwnOrDefaultAt given slot := by
  refine ownOrDefault.of_found fun held found => ?_
  cases slot with
  | presence position =>
      exact (List.getElem?_append_left (List.getElem?_eq_some_iff.mp found).1).trans found
  | general | nested => exact found

theorem nesting (ownOrDefault : rules.OwnOrDefaultAt given slot)
    (free : rules.nested.isSome = false) (rule : Rule) : (rules.nesting rule).OwnOrDefaultAt given slot := by
  refine ownOrDefault.of_found fun held found => ?_
  cases slot with
  | presence | general => exact found
  | nested =>
      change rules.nested = some held at found
      rw [found] at free
      cases free

theorem attachNested (ownOrDefault : rules.OwnOrDefaultAt given slot) (rule : Rule)
    (site alternative : String) :
    (Built.settle rules (rules.attachNested rule site alternative)).value.OwnOrDefaultAt given
      slot := by
  cases taken : rules.nested.isSome with
  | true =>
      rw [attachNested_of_taken taken]
      exact ownOrDefault
  | false =>
      rw [attachNested_of_free taken]
      exact ownOrDefault.nesting taken rule

theorem inherit (ownOrDefault : rules.OwnOrDefaultAt given slot) (sets : RuleSets) :
    (rules.inherit sets).OwnOrDefaultAt given slot :=
  ownOrDefault.of_wording (rules.wording_inherit sets slot)

theorem bind (ownOrDefault : rules.OwnOrDefaultAt given slot) (resolver : Resolver) :
    (rules.bind resolver).OwnOrDefaultAt given slot :=
  ownOrDefault.of_wording (rules.wording_bind resolver slot)

theorem run (ownOrDefault : rules.OwnOrDefaultAt given slot) {step : ValueStep}
    (lasting : step.Lasting) :
    (step.run rules).value.OwnOrDefaultAt given slot := by
  cases step with
  | rule form =>
      simp only [ValueStep.run, Built.bind]
      cases form.build.value with
      | none => exact ownOrDefault
      | some rule => exact ownOrDefault.pushRule rule
  | presence form =>
      simp only [ValueStep.run, Built.bind]
      cases form.build.value with
      | none => exact ownOrDefault
      | some rule => exact ownOrDefault.pushPresence rule
  | contextual leaf => exact ownOrDefault.pushRule (.contextual leaf)
  | required => exact ownOrDefault.pushPresence .presence
  | message message => exact ownOrDefault.setLastMessage message
  | nested steps => exact ownOrDefault.attachNested _ _ _
  | attach form site alternative =>
      simp only [ValueStep.run, Built.bind]
      cases form.build.value with
      | none => exact ownOrDefault
      | some rule => exact ownOrDefault.attachNested rule site alternative
  | inherit names => exact ownOrDefault.inherit names
  | bind resolver => exact ownOrDefault.bind resolver
  | scope | replace | defaultMessage => exact lasting.elim
  | info => exact ownOrDefault
  | allowEmpty | guard | mode | preprocess => exact ownOrDefault

theorem runAll (ownOrDefault : rules.OwnOrDefaultAt given slot) {levels : List (Level ValueStep)}
    (lasting : Level.EachOf ValueStep.Lasting levels) :
    (Level.runAll ValueStep.machine levels rules).OwnOrDefaultAt given slot :=
  Level.runAll_keeps ValueStep.Lasting (ValueRules.OwnOrDefaultAt given slot)
    (fun lasting held => held.run lasting) (fun _ held => held) (fun _ _ held => held) lasting
    ownOrDefault

end ValueRules.OwnOrDefaultAt

/-- The steps on the rules of a property meet a condition. -/
def PropertyStep.OnRules (condition : ValueStep → Prop) : PropertyStep → Prop
  | .value step => step.level.Each condition
  | _ => True

namespace PropertyStep

variable {slot : Slot} {held : PropertyRules}

theorem ownOrDefault_run (ownOrDefault : held.rules.OwnOrDefaultAt given slot) {step : PropertyStep}
    (plain : ∀ steps, step ≠ .property steps) (lasting : step.OnRules ValueStep.Lasting) :
    (step.run held).value.rules.OwnOrDefaultAt given slot := by
  rcases run_shape plain held with ⟨own, rfl, run⟩ | ⟨_, _, _, run⟩ | ⟨free, rule, run⟩ |
    ⟨elements, run⟩
  · rw [run, ValueStep.run_level]
    exact ownOrDefault.runAll ⟨lasting, trivial⟩
  · rw [run]
    exact ownOrDefault
  · rw [run]
    exact ownOrDefault.nesting free rule
  · rw [run]
    -- The container stays the rule of the same entry.
    obtain ⟨entry, found, ownOrDefault⟩ := ownOrDefault
    cases slot with
    | presence | general => exact ⟨entry, found, ownOrDefault⟩
    | nested =>
        exact ⟨{ entry with rule := .elements elements }, congrArg (Option.map _) found,
          ownOrDefault⟩

theorem ownOrDefault_runAll (ownOrDefault : held.rules.OwnOrDefaultAt given slot)
    {steps : List PropertyStep} (lasting : ∀ step ∈ ownAll steps, step.OnRules ValueStep.Lasting) :
    (runAll steps held).value.rules.OwnOrDefaultAt given slot :=
  runAll_keeps (OnRules ValueStep.Lasting)
    (motive := fun held => held.rules.OwnOrDefaultAt given slot)
    (fun plain lasting before => ownOrDefault_run before plain lasting) lasting ownOrDefault

end PropertyStep

/-! ### Calls -/

/-- The second list is the first one with a call that sets a default message, which is made on the
last rules. The steps that come after it meet a condition. -/
inductive ValueStep.Calls (given : MessageOverride) (later : ValueStep → Prop) :
    ValueRules → List ValueStep → List ValueStep → ValueRules → Prop where
  | here {rules : ValueRules} {steps : List ValueStep} :
      Level.EachOf later (levels steps) →
      Calls given later rules steps (.defaultMessage given :: steps) rules
  | after {rules called : ValueRules} {step : ValueStep} {steps changed : List ValueStep} :
      Calls given later (step.run rules).value steps changed called →
      Calls given later rules (step :: steps) (step :: changed) called
  | inside {rules called : ValueRules} {names sets : RuleSets} {fails : Bool}
      {body changed steps : List ValueStep} :
      names.required = .ok sets → Calls given later (rules.enter sets) body changed called →
      Level.EachOf later (levels steps) →
      Calls given later rules (.scope names body fails :: steps)
        (.scope names changed fails :: steps) called
  | anew {rules called : ValueRules} {body changed steps : List ValueStep} :
      Calls given later .empty body changed called → Level.EachOf later (levels steps) →
      Calls given later rules (.replace body :: steps) (.replace changed :: steps) called

inductive PropertyStep.Calls (given : MessageOverride) (later : ValueStep → Prop) :
    PropertyRules → List PropertyStep → List PropertyStep → ValueRules → Prop where
  | here {held : PropertyRules} {steps : List PropertyStep} :
      (∀ step ∈ ownAll steps, step.OnRules later) →
      Calls given later held steps (.value (.defaultMessage given) :: steps) held.rules
  | after {held : PropertyRules} {called : ValueRules} {step : PropertyStep}
      {steps changed : List PropertyStep} :
      Calls given later (step.run held).value steps changed called →
      Calls given later held (step :: steps) (step :: changed) called
  | value {held : PropertyRules} {called : ValueRules} {step changed : ValueStep}
      {steps : List PropertyStep} :
      ValueStep.Calls given later held.rules [step] [changed] called →
      (∀ step ∈ ownAll steps, step.OnRules later) →
      Calls given later held (.value step :: steps) (.value changed :: steps) called
  | inside {held : PropertyRules} {called : ValueRules} {body changed steps : List PropertyStep} :
      Calls given later held body changed called → (∀ step ∈ ownAll steps, step.OnRules later) →
      Calls given later held (.property body :: steps) (.property changed :: steps) called

theorem ValueRules.TakesDefault.of_call (given : MessageOverride) (rules : ValueRules) :
    rules.TakesDefault given (rules.setDefaultMessage given) := by
  have all (entries : List RuleEntry) : List.Forall₂ (RuleEntry.TakesDefault given) entries
      (entries.map (·.setDefaultMessage given)) :=
    List.forall₂_map_right_iff.mpr (List.forall₂_same.mpr fun held _ => .defaulted given held)
  refine .entries (all rules.presence) (all rules.general) ?_
  cases rules.nested with
  | none => exact .none
  | some held => exact .some (.defaulted given held)

namespace ValueStep.Calls

variable {later : ValueStep → Prop} {rules called : ValueRules} {steps changed : List ValueStep}

theorem takesDefault (calls : Calls given later rules steps changed called) :
    (runAll steps rules).value.TakesDefault given (runAll changed rules).value := by
  induction calls with
  | @here rules steps _ => exact runAll_takesDefault steps (.of_call given rules)
  | after _ ih => exact ih
  | @inside rules called names sets fails body changed steps accepted _ _ ih =>
      refine runAll_takesDefault steps ?_
      simp only [run, accepted]
      exact ih.leaveTo rules.stack.depth
  | @anew _ _ _ _ steps _ _ ih => exact runAll_takesDefault steps ih

theorem ownOrDefault (calls : Calls given later rules steps changed called)
    (lasting : ∀ step, later step → step.Lasting) {slot : Slot}
    (there : (called.entryAt? slot).isSome = true) :
    (runAll changed rules).value.OwnOrDefaultAt given slot := by
  have through (steps : List ValueStep) {rules : ValueRules}
      (ownOrDefault : rules.OwnOrDefaultAt given slot) (each : Level.EachOf later (levels steps)) :
      (runAll steps rules).value.OwnOrDefaultAt given slot := by
    rw [reading.runAll_levels]
    exact ownOrDefault.runAll (each.imp lasting)
  induction calls with
  | @here rules steps each => exact through steps (.of_call there) each
  | after _ ih => exact ih there
  | @inside rules called names sets fails body changed steps accepted _ each ih =>
      refine through steps ?_ each
      simp only [run, accepted]
      exact ih there
  | @anew _ _ _ _ steps _ each ih => exact through steps (ih there) each

end ValueStep.Calls

theorem PropertyStep.OnRules.imp {condition weaker : ValueStep → Prop}
    (implies : ∀ step, condition step → weaker step) {step : PropertyStep}
    (each : step.OnRules condition) : step.OnRules weaker := by
  cases step with
  | value step =>
      have single : Level.EachOf condition [step.level] := ⟨each, trivial⟩
      exact (single.imp implies).1
  | _ => trivial

namespace PropertyStep.Calls

variable {later : ValueStep → Prop} {held : PropertyRules} {called : ValueRules}
  {steps changed : List PropertyStep}

theorem takesDefault (calls : Calls given later held steps changed called) :
    (runAll steps held).value.TakesDefault given (runAll changed held).value := by
  induction calls with
  | @here held steps _ => exact runAll_takesDefault steps (.rules (.of_call given held.rules))
  | after _ ih => exact ih
  | @value held called step changed steps calls _ =>
      exact runAll_takesDefault steps (.rules calls.takesDefault)
  | @inside _ _ _ _ steps _ _ ih => exact runAll_takesDefault steps ih

theorem ownOrDefault (calls : Calls given later held steps changed called)
    (lasting : ∀ step, later step → step.Lasting) {slot : Slot}
    (there : (called.entryAt? slot).isSome = true) :
    (runAll changed held).value.rules.OwnOrDefaultAt given slot := by
  have through (steps : List PropertyStep) {held : PropertyRules}
      (ownOrDefault : held.rules.OwnOrDefaultAt given slot)
      (each : ∀ step ∈ ownAll steps, step.OnRules later) :
      (runAll steps held).value.rules.OwnOrDefaultAt given slot :=
    ownOrDefault_runAll ownOrDefault fun step member => (each step member).imp lasting
  induction calls with
  | @here held steps each => exact through steps (ValueRules.OwnOrDefaultAt.of_call there) each
  | after _ ih => exact ih there
  | @value held called step changed steps calls each =>
      exact through steps (calls.ownOrDefault lasting there) each
  | @inside _ _ _ _ steps _ each ih => exact through steps (ih there) each

end PropertyStep.Calls

/-- A call that sets a default message, wherever it stands in a declaration, changes failures in one
way only. If the outermost entry around a failure has no message of its own, the given one may take
the place of the default that this entry had before. Then it is shown in place of all
messages further down, among them such as are custom. All other failures are as without the call.
The entries that are there at the call have the given message in the end, if they are given none of
their own, if no other default is set and the validator is not replaced. What is recorded is what an
evaluation adds to a sink. -/
theorem default_message_hides_inner (given : MessageOverride) (later : ValueStep → Prop) :
    (∀ {start called : ValueRules} {steps changed : List ValueStep},
      ValueStep.Calls given later start steps changed called →
      let plain := (ValueStep.runAll steps start).value
      let defaulted := (ValueStep.runAll changed start).value
      (∀ value context, List.Forall₂
          (Visit.Defaulted given ⟨.rule (.value plain), value, context⟩
            ⟨.rule (.value defaulted), value, context⟩)
          (Visit.records ⟨.rule (.value plain), value, context⟩)
          (Visit.records ⟨.rule (.value defaulted), value, context⟩)) ∧
        ((∀ step, later step → step.Lasting) → ∀ slot, (called.entryAt? slot).isSome = true →
          defaulted.OwnOrDefaultAt given slot)) ∧
    (∀ {start : PropertyRules} {called : ValueRules} {steps changed : List PropertyStep},
      PropertyStep.Calls given later start steps changed called →
      let plain := (PropertyStep.runAll steps start).value
      let defaulted := (PropertyStep.runAll changed start).value
      (∀ object context, List.Forall₂
          (Visit.Defaulted given ⟨.property plain, object, context⟩
            ⟨.property defaulted, object, context⟩)
          (Visit.records ⟨.property plain, object, context⟩)
          (Visit.records ⟨.property defaulted, object, context⟩)) ∧
        ((∀ step, later step → step.Lasting) → ∀ slot, (called.entryAt? slot).isSome = true →
          defaulted.rules.OwnOrDefaultAt given slot)) ∧
    ∀ root : Visit,
      (∀ sink : Sink, (root.node.evaluate root.value root.context sink).sink.failures =
        sink.failures ++ sink.wanted (root.records.map Recorded.shown)) ∧
      ∀ record ∈ root.records, ∀ held scope template,
        root.outermost? record.trail = some (held, scope) → held.message = some given →
        given.template? scope = some template →
          record.shown.message =
            Template.render template scope.messageName record.shown.params := by
  refine ⟨fun calls => ?_, fun calls => ?_, fun root => ⟨root.evaluate_records, ?_⟩⟩
  · exact ⟨fun value context => Visit.defaulted_value calls.takesDefault value context,
      fun lasting slot there => calls.ownOrDefault lasting there⟩
  · exact ⟨fun object context => Visit.defaulted_property calls.takesDefault object context,
      fun lasting slot there => calls.ownOrDefault lasting there⟩
  · intro record member held scope template outermost defaulted resolves
    have words : MessageOverride.wording? held.message scope =
        some ⟨template, scope.messageName⟩ := by
      rw [MessageOverride.wording?, defaulted, Option.bind_some, resolves]
      rfl
    obtain ⟨_, path, _, _, shown⟩ := Visit.shown_worded member
    rw [Visit.first_wording_of_outermost outermost words] at shown
    rw [shown, Failure.message_below, Failure.params_below, Failure.message_worded,
      Failure.params_worded]
    rfl

/-! ### A default around a message -/

/-- A branch with a message of its own for a value that is not there. -/
def mandatorySteps : List ValueStep :=
  [.rule (.conditional (.mk (fun _ => pure true) [[.required, .message (.literal "Say it.")]] none
    false))]

def mandatoryDefault : ValueStep := .defaultMessage (.literal "Invalid.")

def mandatoryRules (steps : List ValueStep) : ValueRules := (ValueStep.runAll steps .empty).value

theorem mandatory_defaulted :
    (mandatoryRules (mandatorySteps ++ [mandatoryDefault])).OwnOrDefaultAt (.literal "Invalid.")
        (.general 0) ∧
      (PropertyStep.runAll ((mandatorySteps ++ [mandatoryDefault]).map .value)
        (.newCollection "Tags" pure)).value.rules.OwnOrDefaultAt (.literal "Invalid.")
          (.general 0) ∧
      ∃ record ∈ Visit.records
          ⟨.rule (.value (mandatoryRules (mandatorySteps ++ [mandatoryDefault]))), .absent .string,
            .empty⟩,
        record.found.message = "The Value field is required." ∧
          record.shown.message = "Invalid." := by
  have ⟨values, properties, shown⟩ :=
    default_message_hides_inner (.literal "Invalid.") ValueStep.Lasting
  have onValue : ValueStep.Calls (.literal "Invalid.") ValueStep.Lasting .empty mandatorySteps
      (mandatorySteps ++ [mandatoryDefault]) (mandatoryRules mandatorySteps) :=
    .after (.here trivial)
  have onProperty : PropertyStep.Calls (.literal "Invalid.") ValueStep.Lasting
      (.newCollection "Tags" pure) (mandatorySteps.map .value)
      ((mandatorySteps ++ [mandatoryDefault]).map .value) _ :=
    .after (.here nofun)
  refine ⟨(values onValue).2 (fun _ => id) _ rfl, (properties onProperty).2 (fun _ => id) _ rfl, ?_⟩
  let root : Visit := ⟨.rule (.value (mandatoryRules (mandatorySteps ++ [mandatoryDefault]))),
    .absent .string, .empty⟩
  have leads : root.follow? [0, 0, 0, 0, 0] = some ⟨.rule .presence, .absent .string, .empty⟩ := rfl
  obtain ⟨record, member, trail, found⟩ :=
    Visit.record_of_follow leads (by decide) List.mem_cons_self
  refine ⟨record, member, by rw [found]; decide, ?_⟩
  have outermost : ∃ held, root.outermost? record.trail = some (held, .empty) ∧
      held.message = some (.literal "Invalid.") := by
    rw [trail]
    exact ⟨_, rfl, rfl⟩
  obtain ⟨held, here, defaulted⟩ := outermost
  exact (shown root).2 record member held .empty "Invalid." here defaulted rfl

/-- The message of the branch gives way to the default. -/
theorem mandatory_message_lost :
    ((Node.rule (.value (mandatoryRules mandatorySteps))).failures? (.absent .string)
        .empty).value.map Report.messages = some ["Say it."] ∧
      ((Node.rule (.value (mandatoryRules (mandatorySteps ++ [mandatoryDefault])))).failures?
        (.absent .string) .empty).value.map Report.messages = some ["Invalid."] := by
  decide

end RuleTree
