import RuleTree.Proofs.Tree.Inheriting
import RuleTree.Tree.Build

/-!
The level of the rules of a value. Rules of a value work in a level of the context of their own,
and do without it if it would show nothing new. Nobody can tell: a level that was opened around the
same names, the same subject and the same selector shows in every lookup what the context around it
shows, and so do all the levels that are opened within it.
-/

set_option autoImplicit false

namespace RuleTree

/-! ### Steps that do the same to sinks -/

/-- Both steps leave the same failures and the same flow, whatever the sink. -/
def Step.Agrees (step other : Step) : Prop :=
  ∀ sink : Sink, (step sink).flow = (other sink).flow ∧ (step sink).sink = (other sink).sink

theorem Step.Adds.agrees {step other : Step} {report : Report} (adds : step.Adds report)
    (also : other.Adds report) : step.Agrees other := by
  intro sink
  rw [adds.flow, also.flow, adds.sink, also.sink]
  exact ⟨rfl, rfl⟩

/-! ### Contexts as they are made -/

namespace Context

/-- The contexts that the operations make. A change of a level that leaves the selector alone is one
of the names, the subject, the services, the items or the ambient selector. -/
inductive Made : Context → Prop where
  | empty : Made .empty
  | child {context : Context} : Made context → Made context.child
  | scope {context : Context} : Made context → Made context.scope
  | withRuleSets {context : Context} (sets : Option RuleSets) :
    Made context → Made (context.withRuleSets sets)
  | modify {context : Context} {change : ContextLevel → ContextLevel} :
    Made context → (∀ level, (change level).ruleSets = level.ruleSets) →
      Made (context.modify change)

/-- No operation requests an empty list. -/
theorem Made.requested {context : Context} (made : context.Made) :
    RuleSets.NotEmpty context.ruleSets := by
  induction made with
  | empty => exact RuleSets.notEmpty_none
  | child _ ih | scope _ ih => exact ih
  | withRuleSets sets => exact RuleSets.notEmpty_nonEmpty? sets
  | @modify context _ _ kept ih =>
      have same : (context.modify _).ruleSets = context.ruleSets := kept context.level
      rw [same]
      exact ih

theorem Alike.contains {context other : Context} (alike : context.Alike other) (key : String) :
    context.contains key = other.contains key := by
  have items := congrArg (fun surroundings => surroundings.item? key) alike.surroundings
  rw [contains_eq, contains_eq]
  exact congrArg Option.isSome items

/-- A level that has just been opened shows what is around it. -/
theorem alike_scope (context : Context) : context.Alike context.scope :=
  ⟨rfl, rfl, rfl⟩

end Context

namespace ValueRules

variable {rules : ValueRules} {context : Context}

/-- The level that is opened for the rules if it would show anything new. -/
def level (rules : ValueRules) (context : Context) : Context :=
  (context.scope.withRuleSets (context.selectorFor rules.inherited)).withResolver rules.resolver

/-- The level shows nothing new: the selector in effect stands already, and no resolver is bound. -/
structure NeedsNoLevel (rules : ValueRules) (context : Context) : Prop where
  selector : context.selectorFor rules.inherited = context.ruleSets
  resolver : rules.resolver = none

theorem NeedsNoLevel.scope (needless : rules.NeedsNoLevel context) :
    rules.scope context = context := by
  simp [ValueRules.scope, contextFor, needless.selector, needless.resolver]

theorem NeedsNoLevel.alike (needless : rules.NeedsNoLevel context)
    (requested : RuleSets.NotEmpty context.ruleSets) : context.Alike (rules.level context) where
  surroundings := by
    rw [level, needless.resolver]
    rfl
  ambient := by
    rw [level, needless.resolver]
    rfl
  ruleSets := by
    rw [level, needless.selector]
    exact requested.nonEmpty?_eq.symm

/-- The context in which the rules work shows what their level shows, whether or not this is
opened. -/
theorem alike_level (rules : ValueRules) (requested : RuleSets.NotEmpty context.ruleSets) :
    (rules.scope context).Alike (rules.level context) := by
  rcases rules.scope_cases context with ⟨selector, unbound, unchanged⟩ | opened
  · rw [unchanged]
    exact NeedsNoLevel.alike ⟨selector, unbound⟩ requested
  · rw [opened]
    exact ⟨rfl, rfl, rfl⟩

end ValueRules

namespace Node

theorem agrees_alike {node : Node} (looks : node.Everywhere LooksUp) (value : Value)
    {context other : Context} (alike : context.Alike other) :
    (node.evaluate value context).Agrees (node.evaluate value other) := by
  have adds := node.lawful value context
  rw [report_alike looks value alike] at adds
  exact adds.agrees (node.lawful value other)

/-- Rules that are run in contexts that show the same do the same to every sink. -/
theorem evaluateIn_agrees {rules : ValueRules}
    (looks : (rule (.value rules)).Everywhere LooksUp) (value : Value) {context other : Context}
    (alike : context.Alike other) :
    (rules.evaluateIn value context).Agrees (rules.evaluateIn value other) := by
  have adds (context : Context) : (rules.evaluateIn value context).Adds _ :=
    evaluateIn_adds (fun held _ => lawful (entry held)) value context
  have reports : ∀ held ∈ rules.entries.filter (·.isActive other.ruleSets),
      (entry held).report (rules.prepared value) context =
        (entry held).report (rules.prepared value) other := fun held member =>
    report_alike (looks.entry (List.mem_filter.mp member).1) _ alike
  have first := adds context
  rw [alike.ruleSets, List.map_congr_left reports] at first
  exact first.agrees (adds other)

/-- The rules of a value do to every sink what they do in the level that is opened for them, whether
or not it is; if it would show nothing new, they are run in the context as it is. And no tree can be
told from itself in a level that has just been opened. -/
theorem shortcut_agrees_with_level :
    (∀ context : Context, context.Made → RuleSets.NotEmpty context.ruleSets) ∧
      (∀ (rules : ValueRules) (value : Value) (context : Context),
        (rule (.value rules)).Everywhere LooksUp → RuleSets.NotEmpty context.ruleSets →
          ((rule (.value rules)).evaluate value context).Agrees
            (rules.evaluateIn value (rules.level context))) ∧
      (∀ (rules : ValueRules) (value : Value) (context : Context),
        (rule (.value rules)).Everywhere LooksUp → RuleSets.NotEmpty context.ruleSets →
          rules.NeedsNoLevel context →
            (rule (.value rules)).evaluate value context = rules.evaluateIn value context ∧
              (rules.evaluateIn value context).Agrees
                (rules.evaluateIn value (rules.level context))) ∧
      ∀ (node : Node) (value : Value) (context : Context), node.Everywhere LooksUp →
        (node.evaluate value context).Agrees (node.evaluate value context.scope) := by
  refine ⟨fun _ made => made.requested, ?_, ?_, ?_⟩
  · intro rules value context looks requested
    rw [value_evaluate]
    exact evaluateIn_agrees looks value (rules.alike_level requested)
  · intro rules value context looks requested needless
    refine ⟨?_, evaluateIn_agrees looks value (needless.alike requested)⟩
    rw [value_evaluate, needless.scope]
    rfl
  · intro node value context looks
    exact agrees_alike looks value context.alike_scope

/-- A code is demanded where the item "strict" is present. -/
def strictCode : ValueRules :=
  (ValueRules.empty.pushRule (.predicate fun value context =>
    pure (!context.contains "strict" || value.isPresent))).setLastMessage (.literal "No {name}.")

theorem strictCode_looksUp : (rule (.value strictCode)).Everywhere LooksUp := by
  refine everywhere_value.mpr ⟨fun _ _ _ => trivial, fun held member => ?_⟩
  rw [List.mem_singleton.mp member]
  refine everywhere_entry.mpr ⟨fun _ _ _ => trivial, .intro ?_ (List.forall_mem_nil _)⟩
  intro context other alike value
  simp only [alike.contains]

theorem strictCode_on_shortcut :
    let strict := (Context.forRuleSets ⟨["import"]⟩).insert "strict" (.bool true)
    let context := strict.child.withMember "code" none
    context.Made ∧ strictCode.NeedsNoLevel context ∧
      (strictCode.evaluateIn (.string " ") context).Agrees
        (strictCode.evaluateIn (.string " ") (strictCode.level context)) ∧
      ((rule (.value strictCode)).evaluate (.string " ") context).Agrees
        ((rule (.value strictCode)).evaluate (.string " ") context.scope) ∧
      ((rule (.value strictCode)).evaluate (.string " ") context .collectAll).sink.failures.map
        Failure.message = ["No code."] := by
  intro strict context
  have ⟨requested, _, shortcut, anywhere⟩ := shortcut_agrees_with_level
  have root : (Context.forRuleSets ⟨["import"]⟩).Made := .withRuleSets _ .empty
  have made : context.Made := .modify (.child (.modify root fun _ => rfl)) fun _ => rfl
  have needless : strictCode.NeedsNoLevel context := ⟨by decide, rfl⟩
  have ⟨_, agrees⟩ := shortcut strictCode (.string " ") context strictCode_looksUp
    (requested context made) needless
  exact ⟨made, needless, agrees, anywhere _ _ context strictCode_looksUp, by decide⟩

end Node

end RuleTree
