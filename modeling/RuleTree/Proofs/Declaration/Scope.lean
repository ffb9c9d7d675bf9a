import RuleTree.Proofs.Declaration.Slots
import RuleTree.Proofs.RuleSet.Selection
import RuleTree.Proofs.Tree.FirstFailure

/-!
Scopes gate what is declared in them. What a body adds to a validator takes the names of the scope
as its tag, so a selector that does not ask for one of the names leaves all of it out. A child of an
object is the exception: it has no place for a tag, only inherits the names as its selector, and
runs on every request.
-/

set_option autoImplicit false

namespace RuleTree

theorem RuleSets.required_eq {names sets : RuleSets} (required : names.required = .ok sets) :
    sets = names := by
  unfold RuleSets.required at required
  split at required
  · exact absurd required nofun
  · cases required
    rfl

/-! ### The rules of a value -/

namespace ValueRules

/-- All but the entries and the state of declaration. -/
def settings (rules : ValueRules) : ValueRules :=
  { rules with presence := [], general := [], nested := none, last := none, stack := .empty }

/-- The same entries run under a selector, in the same way. -/
structure AlikeUnder (selector : Option RuleSets) (rules changed : ValueRules) : Prop where
  settings : changed.settings = rules.settings
  active : changed.entries.filter (·.isActive selector) =
    rules.entries.filter (·.isActive selector)

variable {selector : Option RuleSets}

theorem AlikeUnder.refl (rules : ValueRules) : AlikeUnder selector rules rules := ⟨rfl, rfl⟩

theorem AlikeUnder.trans {first second third : ValueRules}
    (early : AlikeUnder selector first second) (late : AlikeUnder selector second third) :
    AlikeUnder selector first third :=
  ⟨late.settings.trans early.settings, late.active.trans early.active⟩

theorem AlikeUnder.report {rules changed : ValueRules} {context : Context}
    (alike : AlikeUnder (rules.scope context).ruleSets rules changed) (value : Value) :
    (Node.rule (.value changed)).report value context =
      (Node.rule (.value rules)).report value context := by
  have same {α : Type} (part : ValueRules → α) :
      part changed.settings = part rules.settings := congrArg part alike.settings
  have mode : changed.mode = rules.mode := same ValueRules.mode
  have examines : changed.examines value = rules.examines value := same (·.examines value)
  have prepared : changed.prepared value = rules.prepared value := same (·.prepared value)
  have scope : changed.scope context = rules.scope context := same (·.scope context)
  rw [Node.report_value, Node.report_value, mode, examines, prepared, scope, alike.active]

section

variable {rules : ValueRules} (inactive : RuleSets.isActive rules.stack.current selector = false)

include inactive

theorem filter_entry (rule : Rule) : [rules.entry rule].filter (·.isActive selector) = [] :=
  List.filter_eq_nil_iff.mpr fun held member => by
    rw [List.mem_singleton.mp member]
    simpa [RuleEntry.isActive, entry] using inactive

theorem alike_pushPresence (rule : Rule) :
    AlikeUnder selector rules (rules.pushPresence rule) where
  settings := rfl
  active := by
    simp only [pushPresence, entries, List.filter_append, filter_entry inactive, List.append_nil]

theorem alike_pushRule (rule : Rule) : AlikeUnder selector rules (rules.pushRule rule) where
  settings := rfl
  active := by
    simp only [pushRule, entries, List.filter_append, filter_entry inactive, List.append_nil]

/-- An attached validator takes the tag, and a refused one changes nothing. -/
theorem settle_attachNested (rule : Rule) (site alternative : String) :
    (Built.settle rules (rules.attachNested rule site alternative)).value.stack = rules.stack ∧
      AlikeUnder selector rules
        (Built.settle rules (rules.attachNested rule site alternative)).value := by
  unfold attachNested
  split
  · exact ⟨rfl, .refl rules⟩
  · next free =>
      have empty : rules.nested = none := by simpa using free
      refine ⟨rfl, rfl, ?_⟩
      simp only [Built.settle, Built.reply, installNested, entries, List.filter_append,
        Option.toList_some, filter_entry inactive, empty, Option.toList_none, List.filter_nil]

end

end ValueRules

namespace ValueStep

/-- The step does nothing but add a rule. -/
def Adds : ValueStep → Prop
  | .rule _ | .contextual _ | .required | .presence _ | .nested _ | .attach .. => True
  | _ => False

/-- A step that adds a rule keeps the open scopes and adds nothing that runs under a selector which
the innermost scope is not selected by. -/
theorem run_adds {step : ValueStep} (adds : step.Adds) {rules : ValueRules}
    {selector : Option RuleSets}
    (inactive : RuleSets.isActive rules.stack.current selector = false) :
    (step.run rules).value.stack = rules.stack ∧
      ValueRules.AlikeUnder selector rules (step.run rules).value := by
  cases step with
  | rule form =>
      simp only [run, Built.bind]
      cases form.build.value with
      | none => exact ⟨rfl, .refl rules⟩
      | some rule => exact ⟨rfl, ValueRules.alike_pushRule inactive rule⟩
  | contextual leaf => exact ⟨rfl, ValueRules.alike_pushRule inactive _⟩
  | required => exact ⟨rfl, ValueRules.alike_pushPresence inactive _⟩
  | presence form =>
      simp only [run, Built.bind]
      cases form.build.value with
      | none => exact ⟨rfl, .refl rules⟩
      | some rule => exact ⟨rfl, ValueRules.alike_pushPresence inactive rule⟩
  | nested steps =>
      simp only [run, Built.bind, ValueRules.setValidator]
      exact ValueRules.settle_attachNested inactive _ _ _
  | attach form site alternative =>
      simp only [run, Built.bind]
      cases form.build.value with
      | none => exact ⟨rfl, .refl rules⟩
      | some rule => exact ValueRules.settle_attachNested inactive rule site alternative
  | _ => exact adds.elim

theorem runAll_adds {steps : List ValueStep} (adds : ∀ step ∈ steps, step.Adds)
    {rules : ValueRules} {selector : Option RuleSets}
    (inactive : RuleSets.isActive rules.stack.current selector = false) :
    ValueRules.AlikeUnder selector rules (runAll steps rules).value := by
  induction steps generalizing rules with
  | nil => exact .refl rules
  | cons step rest ih =>
      have ⟨stack, alike⟩ := run_adds (adds step List.mem_cons_self) inactive
      rw [← stack] at inactive
      exact alike.trans (ih (fun other member => adds other (List.mem_cons_of_mem _ member)) inactive)

/-- A scope of the rules of a value adds nothing that runs under a selector which does not match its
names. -/
theorem run_scope {names : RuleSets} {selector : Option RuleSets}
    (inactive : RuleSets.isActive (some names) selector = false) {steps : List ValueStep}
    (adds : ∀ step ∈ steps, step.Adds) (rules : ValueRules) (fails : Bool) :
    ValueRules.AlikeUnder selector rules ((scope names steps fails).run rules).value := by
  simp only [run]
  cases required : names.required with
  | error error => exact .refl rules
  | ok sets =>
      cases RuleSets.required_eq required
      have entered : ValueRules.AlikeUnder selector rules (rules.enter names) := ⟨rfl, rfl⟩
      have added : ValueRules.AlikeUnder selector (rules.enter names)
          (runAll steps (rules.enter names)).value := runAll_adds adds inactive
      have left : ValueRules.AlikeUnder selector (runAll steps (rules.enter names)).value
          ((runAll steps (rules.enter names)).value.leaveTo rules.stack.depth) := ⟨rfl, rfl⟩
      exact (entered.trans added).trans left

end ValueStep

/-! ### The properties of an object -/

namespace PropertyRules

theorem tag_bind (held : PropertyRules) (resolver : Resolver) :
    (held.bind resolver).tag = held.tag := by
  obtain ⟨name, memberOverride, display, accessor, rules, tag, annotated⟩ := held
  rw [bind]

end PropertyRules

/-- No step on a property changes its tag. -/
theorem PropertyStep.tag_runAll (steps : List PropertyStep) (held : PropertyRules) :
    (PropertyStep.runAll steps held).value.tag = held.tag :=
  part_runAll PropertyRules.tag (fun _ _ _ _ _ => rfl) steps held

namespace ObjectRules

/-- All but the properties, the child and the state of declaration. -/
def settings (rules : ObjectRules) : ObjectRules :=
  { rules with properties := [], child := none, stack := .empty }

/-- The same properties run under a selector, in the same way. -/
structure AlikeUnder (selector : Option RuleSets) (rules changed : ObjectRules) : Prop where
  settings : changed.settings = rules.settings
  active : changed.properties.filter (·.isActive selector) =
    rules.properties.filter (·.isActive selector)

variable {selector : Option RuleSets}

theorem AlikeUnder.refl (rules : ObjectRules) : AlikeUnder selector rules rules := ⟨rfl, rfl⟩

theorem AlikeUnder.trans {first second third : ObjectRules}
    (early : AlikeUnder selector first second) (late : AlikeUnder selector second third) :
    AlikeUnder selector first third :=
  ⟨late.settings.trans early.settings, late.active.trans early.active⟩

/-- Objects with the same child report the same if the same properties run. -/
theorem AlikeUnder.report {rules changed : ObjectRules} {value : Value} {context : Context}
    (alike : AlikeUnder (rules.contextFor value context).ruleSets rules changed) :
    (Node.object changed).report value context =
      (Node.object { rules with child := changed.child }).report value context := by
  have same {α : Type} (part : ObjectRules → α) :
      part changed.settings = part rules.settings := congrArg part alike.settings
  have mode : changed.mode = rules.mode := same ObjectRules.mode
  have accepts : changed.accepts value = rules.accepts value := same (·.accepts value)
  have scope : changed.contextFor value context = rules.contextFor value context :=
    same (·.contextFor value context)
  have members : changed.activeMembers (rules.contextFor value context).ruleSets =
      rules.activeMembers (rules.contextFor value context).ruleSets :=
    congrArg (List.map PropertyRules.member) alike.active
  have validateAll : changed.validateAll = rules.validateAll := same ObjectRules.validateAll
  have annotations : changed.annotations value (rules.contextFor value context) =
      rules.annotations value (rules.contextFor value context) := by
    unfold annotations requestFor
    rw [members, validateAll]
  rw [Node.report_object, Node.report_object, mode, accepts, scope, annotations, alike.active]
  rfl

theorem tag_bindOwn (rules : ObjectRules) (held : PropertyRules) :
    (rules.bindOwn held).tag = held.tag := by
  unfold bindOwn
  cases rules.resolver with
  | none => rfl
  | some resolver => exact held.tag_bind resolver

theorem tag_declared (rules : ObjectRules) (held : PropertyRules) :
    (rules.declared held).tag = rules.stack.current :=
  rules.tag_bindOwn _

section

variable {rules : ObjectRules} (inactive : RuleSets.isActive rules.stack.current selector = false)

include inactive

theorem alike_addProperty {held : PropertyRules} (tagged : held.tag = rules.stack.current) :
    AlikeUnder selector rules (rules.addProperty held) where
  settings := rfl
  active := by
    have leftOut : held.isActive selector = false := by
      rw [PropertyRules.isActive, tagged]
      exact inactive
    simp [addProperty, leftOut]

theorem alike_includeFrom (other : ObjectRules) :
    AlikeUnder selector rules (rules.includeFrom other) where
  settings := rfl
  active := by
    have leftOut (held : PropertyRules) : (rules.included held).isActive selector = false := by
      unfold included
      cases current : rules.stack.current with
      | none =>
          rw [current] at inactive
          exact absurd inactive nofun
      | some sets =>
          rw [current] at inactive
          rw [PropertyRules.isActive, rules.tag_bindOwn]
          exact inactive
    simp [includeFrom, List.filter_map, Function.comp_def, leftOut]

end

/-- Attaching a child leaves the properties and the settings alone, and an object that has a child
already refuses another. -/
theorem settle_setValidator (selector : Option RuleSets) (rules child : ObjectRules) :
    (Built.settle rules (rules.setValidator child)).value.stack = rules.stack ∧
      AlikeUnder selector rules (Built.settle rules (rules.setValidator child)).value ∧
      (rules.child.isSome = true →
        (Built.settle rules (rules.setValidator child)).value.child = rules.child) := by
  unfold setValidator
  split
  · exact ⟨rfl, .refl rules, fun _ => rfl⟩
  · next free => exact ⟨rfl, ⟨rfl, rfl⟩, fun held => absurd held free⟩

end ObjectRules

namespace ObjectStep

/-- The step does nothing but add rules. -/
def Adds : ObjectStep → Prop
  | .property .. | .collection .. | .includeFrom _ | .child _ => True
  | _ => False

def AttachesChild : ObjectStep → Prop
  | .child _ => True
  | _ => False

/-- A step that adds rules keeps the open scopes and, a child apart, adds nothing that runs under a
selector which the innermost scope is not selected by. -/
theorem run_adds {step : ObjectStep} (adds : step.Adds) {rules : ObjectRules}
    {selector : Option RuleSets}
    (inactive : RuleSets.isActive rules.stack.current selector = false) :
    (step.run rules).value.stack = rules.stack ∧
      ObjectRules.AlikeUnder selector rules (step.run rules).value := by
  cases step with
  | property name accessor steps =>
      have tagged := (PropertyStep.tag_runAll steps _).trans
        (rules.tag_declared (.new name accessor))
      exact ⟨rfl, ObjectRules.alike_addProperty inactive tagged⟩
  | collection name accessor steps =>
      have tagged := (PropertyStep.tag_runAll steps _).trans
        (rules.tag_declared (.newCollection name accessor))
      exact ⟨rfl, ObjectRules.alike_addProperty inactive tagged⟩
  | includeFrom steps => exact ⟨rfl, ObjectRules.alike_includeFrom inactive _⟩
  | child steps =>
      have ⟨stack, alike, _⟩ := rules.settle_setValidator selector
        (runAll steps (.empty rules.target)).value
      exact ⟨stack, alike⟩
  | _ => exact adds.elim

theorem runAll_adds {steps : List ObjectStep} (adds : ∀ step ∈ steps, step.Adds)
    {rules : ObjectRules} {selector : Option RuleSets}
    (inactive : RuleSets.isActive rules.stack.current selector = false) :
    ObjectRules.AlikeUnder selector rules (runAll steps rules).value := by
  induction steps generalizing rules with
  | nil => exact .refl rules
  | cons step rest ih =>
      have ⟨stack, alike⟩ := run_adds (adds step List.mem_cons_self) inactive
      rw [← stack] at inactive
      exact alike.trans (ih (fun other member => adds other (List.mem_cons_of_mem _ member)) inactive)

theorem child_run {step : ObjectStep} (adds : step.Adds) {rules : ObjectRules}
    (kept : rules.child.isSome = true ∨ ¬ step.AttachesChild) :
    (step.run rules).value.child = rules.child := by
  cases step with
  | property name accessor steps => rfl
  | collection name accessor steps => rfl
  | includeFrom steps => rfl
  | child steps =>
      have ⟨_, _, refuses⟩ := rules.settle_setValidator none
        (runAll steps (.empty rules.target)).value
      exact refuses (kept.resolve_right fun attachesNone => attachesNone trivial)
  | _ => exact adds.elim

/-- Steps that add rules keep the child if there is one, or if none of them attaches one. -/
theorem child_runAll {steps : List ObjectStep} (adds : ∀ step ∈ steps, step.Adds)
    {rules : ObjectRules}
    (kept : rules.child.isSome = true ∨ ∀ step ∈ steps, ¬ step.AttachesChild) :
    (runAll steps rules).value.child = rules.child := by
  induction steps generalizing rules with
  | nil => rfl
  | cons step rest ih =>
      have here := child_run (adds step List.mem_cons_self)
        (kept.imp_right fun attachesNone => attachesNone step List.mem_cons_self)
      have still : (step.run rules).value.child.isSome = true ∨
          ∀ other ∈ rest, ¬ other.AttachesChild := by
        rw [here]
        exact kept.imp_right fun attachesNone other member =>
          attachesNone other (List.mem_cons_of_mem _ member)
      exact (ih (fun other member => adds other (List.mem_cons_of_mem _ member)) still).trans here

/-- A scope of an object adds nothing, a child apart, that runs under a selector which does not match
its names. -/
theorem run_scope {names : RuleSets} {selector : Option RuleSets}
    (inactive : RuleSets.isActive (some names) selector = false) {steps : List ObjectStep}
    (adds : ∀ step ∈ steps, step.Adds) (rules : ObjectRules) (fails : Bool) :
    ObjectRules.AlikeUnder selector rules ((scope names steps fails).run rules).value ∧
      ((rules.child.isSome = true ∨ ∀ step ∈ steps, ¬ step.AttachesChild) →
        ((scope names steps fails).run rules).value.child = rules.child) := by
  simp only [run]
  cases required : names.required with
  | error error => exact ⟨.refl rules, fun _ => rfl⟩
  | ok sets =>
      cases RuleSets.required_eq required
      have entered : ObjectRules.AlikeUnder selector rules (rules.enter names) := ⟨rfl, rfl⟩
      have added : ObjectRules.AlikeUnder selector (rules.enter names)
          (runAll steps (rules.enter names)).value := runAll_adds adds inactive
      have left : ObjectRules.AlikeUnder selector (runAll steps (rules.enter names)).value
          ((runAll steps (rules.enter names)).value.leaveTo rules.stack.depth) := ⟨rfl, rfl⟩
      refine ⟨(entered.trans added).trans left, fun kept => ?_⟩
      have inside : (runAll steps (rules.enter names)).value.child = (rules.enter names).child :=
        child_runAll adds kept
      exact inside

end ObjectStep

/-! ### What a request that does not ask for a scope gets -/

/-- A request that does not ask for the names of a scope gets the report of the validator without
what the scope has added. For an object this holds as far as the scope attached no child: an attached
child reports whether it is asked for or not. -/
theorem scope_gates_all_but_child {names : RuleSets} (plain : RuleSets.wildcard ∉ names.names)
    (fails : Bool) (value : Value) (context : Context) :
    (∀ (rules : ValueRules) (steps : List ValueStep),
      (∀ sets ∈ (rules.scope context).ruleSets, ¬ sets.Matches names) →
      (∀ step ∈ steps, step.Adds) →
        ((Node.rule (.value ((ValueStep.scope names steps fails).run rules).value)).failures?
          value context).value = ((Node.rule (.value rules)).failures? value context).value) ∧
      ∀ (rules : ObjectRules) (steps : List ObjectStep),
        (∀ sets ∈ (rules.contextFor value context).ruleSets, ¬ sets.Matches names) →
        (∀ step ∈ steps, step.Adds) →
          let after := ((ObjectStep.scope names steps fails).run rules).value
          ((Node.object after).failures? value context).value =
              ((Node.object { rules with child := after.child }).failures? value context).value ∧
            ((rules.child.isSome = true ∨ ∀ step ∈ steps, ¬ step.AttachesChild) →
              ((Node.object after).failures? value context).value =
                ((Node.object rules).failures? value context).value) := by
  have inactive {selector : Option RuleSets} (unasked : ∀ sets ∈ selector, ¬ sets.Matches names) :
      RuleSets.isActive (some names) selector = false :=
    (RuleSets.isActive_eq_false_iff _ _).mpr
      ⟨names, rfl, plain, fun ⟨sets, member, found⟩ => unasked sets member found⟩
  constructor
  · intro rules steps unasked adds
    have alike := ValueStep.run_scope (inactive unasked) adds rules fails
    rw [Node.failures?_value, Node.failures?_value, alike.report]
  · intro rules steps unasked adds
    have ⟨alike, keeps⟩ := ObjectStep.run_scope (inactive unasked) adds rules fails
    refine ⟨?_, fun kept => ?_⟩
    · rw [Node.failures?_value, Node.failures?_value, alike.report]
    · rw [Node.failures?_value, Node.failures?_value, alike.report, keeps kept]
      cases rules
      rfl

/-- A step that declares a property whose value is required. -/
def ObjectStep.demandName : ObjectStep := .property "Name" pure [.value .required]

/-- A demand in a scope that is not asked for is not made. -/
theorem scope_gates_demandName :
    ((Node.object ((ObjectStep.scope ⟨["strict"]⟩ [.demandName] false).run
        (.empty .string)).value).failures? (.string "") .empty).value =
      ((Node.object (.empty .string)).failures? (.string "") .empty).value := by
  have plain : RuleSets.wildcard ∉ RuleSets.names ⟨["strict"]⟩ := by decide
  have adds : ∀ step ∈ [ObjectStep.demandName], step.Adds := by
    simp [ObjectStep.demandName, ObjectStep.Adds]
  have childless : ∀ step ∈ [ObjectStep.demandName], ¬ step.AttachesChild := by
    simp [ObjectStep.demandName, ObjectStep.AttachesChild]
  have gated := (scope_gates_all_but_child plain false (.string "") .empty).2
  exact (gated (.empty .string) [.demandName] nofun adds).2 (.inr childless)

/-- The same demand is made if it is in the rules of a child. -/
theorem child_in_scope_reports :
    ((Node.object ((ObjectStep.scope ⟨["strict"]⟩ [.child [.demandName]] false).run
        (.empty .string)).value).failures? (.string "") .empty).value ≠
      ((Node.object (.empty .string)).failures? (.string "") .empty).value := by
  decide

end RuleTree
