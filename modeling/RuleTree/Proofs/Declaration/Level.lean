import RuleTree.Declaration.Run

/-!
The steps of a level. The steps on a validator are those of the list that declares it and those in
the bodies of the scopes in this list; the steps of what is nested in it are on other validators. A
body runs only if its names are accepted.

Some operations on a validator may be put off until all its other steps are done, as they get in the
way of none of them. If such an operation takes effect only once, it does not matter where among the
steps it stands.
-/

set_option autoImplicit false

namespace RuleTree

/-- Steps on one validator: a step that is taken, or a scope with the steps of its body. -/
inductive Level (δ : Type) where
  | act (step : δ)
  | scope (names : RuleSets) (body : List (Level δ)) (fails : Bool)

/-- How steps are taken on a state, and how scopes are entered and left. What a scope is left to is
the state before it. -/
structure Level.Machine (δ σ : Type) where
  run : δ → σ → σ
  enter : RuleSets → σ → σ
  leave : σ → σ → σ

namespace Level

variable {δ σ α : Type}

/-! ### Going over a level -/

section

variable (condition : δ → Prop)

mutual

/-- A condition on all steps. -/
def Each : Level δ → Prop
  | .act step => condition step
  | .scope _ body _ => EachOf body

def EachOf : List (Level δ) → Prop
  | [] => True
  | level :: rest => level.Each ∧ EachOf rest

end

end

section

variable (pick : δ → Option α)

mutual

/-- What is picked first, of the steps that run. -/
def first : Level δ → Option α
  | .act step => pick step
  | .scope names body _ =>
    match names.required with
    | .ok _ => firstOf body
    | .error _ => none

def firstOf : List (Level δ) → Option α
  | [] => none
  | level :: rest => level.first.or (firstOf rest)

end

mutual

/-- What is left without the steps that are picked. -/
def sparing : Level δ → List (Level δ)
  | .act step => if (pick step).isSome then [] else [.act step]
  | .scope names body fails => [.scope names (sparingAll body) fails]

def sparingAll : List (Level δ) → List (Level δ)
  | [] => []
  | level :: rest => level.sparing ++ sparingAll rest

end

end

section

variable (machine : Machine δ σ)

mutual

def run : Level δ → σ → σ
  | .act step, state => machine.run step state
  | .scope names body _, state =>
    match names.required with
    | .ok sets => machine.leave state (runAll body (machine.enter sets state))
    | .error _ => state

def runAll : List (Level δ) → σ → σ
  | [], state => state
  | level :: rest, state => runAll rest (level.run state)

end

end

theorem induction {motive : List (Level δ) → Prop} (nil : motive [])
    (act : ∀ step rest, motive rest → motive (.act step :: rest))
    (scope : ∀ names body fails rest, motive body → motive rest →
      motive (.scope names body fails :: rest))
    (levels : List (Level δ)) : motive levels := by
  match levels with
  | [] => exact nil
  | .act step :: rest => exact act step rest (induction nil act scope rest)
  | .scope names body fails :: rest =>
      exact scope names body fails rest (induction nil act scope body)
        (induction nil act scope rest)

theorem EachOf.imp {condition weaker : δ → Prop} (implies : ∀ step, condition step → weaker step)
    {levels : List (Level δ)} (each : EachOf condition levels) : EachOf weaker levels := by
  induction levels using induction with
  | nil => trivial
  | act step rest ih => exact ⟨implies step each.1, ih each.2⟩
  | scope names body fails rest bodyIH restIH => exact ⟨bodyIH each.1, restIH each.2⟩

/-! A level without scopes is a list of steps. -/

theorem eachOf_acts {condition : δ → Prop} {steps : List δ} :
    EachOf condition (steps.map .act) ↔ ∀ step ∈ steps, condition step := by
  induction steps with
  | nil => exact iff_of_true trivial nofun
  | cons step rest ih => simp only [List.map_cons, EachOf, Each, ih, List.forall_mem_cons]

theorem firstOf_acts (pick : δ → Option α) (steps : List δ) :
    firstOf pick (steps.map .act) = steps.findSome? pick := by
  induction steps with
  | nil => rfl
  | cons step rest ih =>
      simp only [List.map_cons, firstOf, first, ih, List.findSome?_cons]
      cases pick step <;> rfl

theorem sparingAll_acts (pick : δ → Option α) (steps : List δ) :
    sparingAll pick (steps.map .act) = (steps.filter fun step => (pick step).isNone).map .act := by
  induction steps with
  | nil => rfl
  | cons step rest ih =>
      simp only [List.map_cons, sparingAll, sparing, ih, List.filter_cons]
      cases pick step <;> rfl

/-- What relates two states after each step, and after entering and leaving scopes, relates them after
a run. -/
theorem runAll_relates {machine : Machine δ σ} (condition : δ → Prop) (relation : σ → σ → Prop)
    (run : ∀ {step state other}, condition step → relation state other →
      relation (machine.run step state) (machine.run step other))
    (enter : ∀ {state other} (sets : RuleSets), relation state other →
      relation (machine.enter sets state) (machine.enter sets other))
    (leave : ∀ {before beforeOther after afterOther}, relation before beforeOther →
      relation after afterOther →
        relation (machine.leave before after) (machine.leave beforeOther afterOther))
    {levels : List (Level δ)} (each : EachOf condition levels) {state other : σ}
    (related : relation state other) :
    relation (runAll machine levels state) (runAll machine levels other) := by
  induction levels using induction generalizing state other with
  | nil => exact related
  | act step rest ih => exact ih each.2 (run each.1 related)
  | scope names body fails rest bodyIH restIH =>
      simp only [runAll, Level.run]
      cases names.required with
      | error error => exact restIH each.2 related
      | ok sets => exact restIH each.2 (leave related (bodyIH each.1 (enter sets related)))

/-- What each step keeps, and entering and leaving scopes, a run keeps. -/
theorem runAll_keeps {machine : Machine δ σ} (condition : δ → Prop) (motive : σ → Prop)
    (run : ∀ {step state}, condition step → motive state → motive (machine.run step state))
    (enter : ∀ {state} (sets : RuleSets), motive state → motive (machine.enter sets state))
    (leave : ∀ (before : σ) {after}, motive after → motive (machine.leave before after))
    {levels : List (Level δ)} (each : EachOf condition levels) {state : σ} (holds : motive state) :
    motive (runAll machine levels state) :=
  @runAll_relates _ _ machine condition (fun state _ => motive state)
    (fun allowed holds => run allowed holds) (fun sets holds => enter sets holds)
    (fun _ holds => leave _ holds) levels each state state holds

/-- What each step leaves as it was, and leaving a scope restores, is after a run as it was before. -/
theorem runAll_restores {β : Type} {machine : Machine δ σ} (condition : δ → Prop) (view : σ → β)
    (run : ∀ {step state}, condition step → view (machine.run step state) = view state)
    (scope : ∀ (sets : RuleSets) {before after : σ},
      view after = view (machine.enter sets before) → view (machine.leave before after) = view before)
    {levels : List (Level δ)} (each : EachOf condition levels) (state : σ) :
    view (runAll machine levels state) = view state := by
  induction levels using induction generalizing state with
  | nil => rfl
  | act step rest ih => exact (ih each.2 _).trans (run each.1)
  | scope names body fails rest bodyIH restIH =>
      simp only [runAll, Level.run]
      cases names.required with
      | error error => exact restIH each.2 state
      | ok sets => exact (restIH each.2 _).trans (scope sets (bodyIH each.1 _))

theorem sparingAll_of_none (pick : δ → Option α) (none : ∀ step, pick step = none)
    (levels : List (Level δ)) : sparingAll pick levels = levels := by
  induction levels using induction with
  | nil => rfl
  | act step rest ih =>
      simp only [sparingAll, sparing, none, ih, Option.isSome_none, Bool.false_eq_true, ↓reduceIte,
        List.singleton_append]
  | scope names body fails rest bodyIH restIH =>
      simp only [sparingAll, sparing, bodyIH, restIH, List.singleton_append]

theorem runAll_append (machine : Machine δ σ) (levels rest : List (Level δ)) (state : σ) :
    runAll machine (levels ++ rest) state = runAll machine rest (runAll machine levels state) := by
  induction levels generalizing state with
  | nil => rfl
  | cons level later ih => exact ih (level.run machine state)

/-! ### Putting off an operation -/

/-- An operation that may be put off until all other steps are done. -/
structure Deferral (machine : Machine δ σ) (α : Type) where
  /-- The steps that are the operation. -/
  pick : δ → Option α
  op : α → σ → σ
  /-- The steps that it gets in the way of nowhere. -/
  allows : δ → Prop
  /-- The states in which it gets in the way of none of them. -/
  ready : σ → Prop
  picked {step : δ} {made : α} (state : σ) : pick step = some made →
    machine.run step state = op made state
  absorbs (first second : α) (state : σ) : op second (op first state) = op first state
  commutes {step : δ} {state : σ} (made : α) : pick step = none → allows step → ready state →
    machine.run step (op made state) = op made (machine.run step state)
  enter (made : α) (sets : RuleSets) (state : σ) :
    machine.enter sets (op made state) = op made (machine.enter sets state)
  leave (made : α) (before after : σ) :
    machine.leave before (op made after) = op made (machine.leave before after)
  leave_op (made : α) (before after : σ) :
    machine.leave (op made before) after = machine.leave before after
  ready_run {step : δ} {state : σ} : pick step = none → allows step → ready state →
    ready (machine.run step state)
  ready_op {state : σ} (made : α) : ready state → ready (op made state)
  ready_enter {state : σ} (sets : RuleSets) : ready state → ready (machine.enter sets state)
  ready_leave (before : σ) {after : σ} : ready after → ready (machine.leave before after)

namespace Deferral

variable {machine : Machine δ σ} (deferral : Deferral machine α)

/-- Does the operation, if there is one. -/
def apply (made : Option α) (state : σ) : σ := made.elim state (deferral.op · state)

theorem apply_or (made later : Option α) (state : σ) :
    deferral.apply (made.or later) state = deferral.apply later (deferral.apply made state) := by
  cases made with
  | none => rfl
  | some first =>
      cases later with
      | none => rfl
      | some second => exact (deferral.absorbs first second state).symm

/-- The other steps keep the states ready, and the operation may be done before or after them. -/
theorem runAll_sparing (levels : List (Level δ))
    (allowed : EachOf deferral.allows levels)
    {state : σ} (ready : deferral.ready state) :
    deferral.ready (runAll machine (sparingAll deferral.pick levels) state) ∧
      ∀ made, runAll machine (sparingAll deferral.pick levels) (deferral.op made state) =
        deferral.op made (runAll machine (sparingAll deferral.pick levels) state) := by
  induction levels using induction generalizing state with
  | nil => exact ⟨ready, fun _ => rfl⟩
  | act step rest ih =>
      cases picked : deferral.pick step with
      | some made =>
          simpa only [sparingAll, sparing, picked, Option.isSome_some, ↓reduceIte,
            List.nil_append] using ih allowed.2 ready
      | none =>
          have after := deferral.ready_run picked allowed.1 ready
          have ⟨kept, later⟩ := ih allowed.2 after
          simp only [sparingAll, sparing, picked, Option.isSome_none, Bool.false_eq_true,
            ↓reduceIte, List.cons_append, List.nil_append, runAll, run]
          refine ⟨kept, fun made => ?_⟩
          rw [deferral.commutes made picked allowed.1 ready, later]
  | scope names body fails rest bodyIH restIH =>
      simp only [sparingAll, sparing, List.cons_append, List.nil_append, runAll, run]
      cases names.required with
      | error error => exact restIH allowed.2 ready
      | ok sets =>
          have ⟨insideKept, inside⟩ := bodyIH allowed.1 (deferral.ready_enter sets ready)
          have ⟨kept, later⟩ := restIH allowed.2 (deferral.ready_leave state insideKept)
          refine ⟨kept, fun made => ?_⟩
          dsimp only
          rw [deferral.enter, inside, deferral.leave_op, deferral.leave, later]

/-- Wherever the operation stands among the steps, it may as well be done at the end, once. -/
theorem runAll_eq (levels : List (Level δ))
    (allowed : EachOf deferral.allows levels)
    {state : σ} (ready : deferral.ready state) :
    runAll machine levels state = deferral.apply (firstOf deferral.pick levels)
      (runAll machine (sparingAll deferral.pick levels) state) := by
  induction levels using induction generalizing state with
  | nil => rfl
  | act step rest ih =>
      have apart : runAll machine (sparingAll deferral.pick (.act step :: rest)) state =
          runAll machine (sparingAll deferral.pick rest)
            (runAll machine (sparing deferral.pick (.act step)) state) :=
        runAll_append machine _ _ state
      rw [apart, firstOf, deferral.apply_or]
      cases picked : deferral.pick step with
      | some made =>
          -- What is picked later is absorbed by what is picked here.
          have ⟨_, later⟩ := deferral.runAll_sparing rest allowed.2 ready
          have taken : machine.run step state = deferral.op made state :=
            deferral.picked state picked
          have rest := ih allowed.2 (deferral.ready_op made ready)
          simp only [runAll, run, taken, rest, later, first, picked, sparing, Option.isSome_some,
            ↓reduceIte]
          rfl
      | none =>
          have after := deferral.ready_run picked allowed.1 ready
          simp only [runAll, run, ih allowed.2 after, first, picked, sparing, Option.isSome_none,
            Bool.false_eq_true, ↓reduceIte]
          rfl
  | scope names body fails rest bodyIH restIH =>
      simp only [sparingAll, sparing, List.cons_append, List.nil_append, runAll, run, firstOf,
        first]
      cases names.required with
      | error error => exact restIH allowed.2 ready
      | ok sets =>
          have entered := deferral.ready_enter sets ready
          have inside := bodyIH allowed.1 entered
          have ⟨insideKept, _⟩ := deferral.runAll_sparing body allowed.1 entered
          have left := deferral.ready_leave state insideKept
          dsimp only
          -- What is picked in the body may wait until the scope is left, and then until the end.
          rw [inside, deferral.apply_or]
          cases firstOf deferral.pick body with
          | none => exact restIH allowed.2 left
          | some made =>
              have after := restIH allowed.2 (deferral.ready_op made left)
              have ⟨_, later⟩ := deferral.runAll_sparing rest allowed.2 left
              simp only [apply, Option.elim_some] at after ⊢
              rw [deferral.leave, after, later]

end Deferral

/-! ### Lists of steps with scopes among them -/

mutual

/-- The step that is read as this part of a level. -/
def toStep (scope : RuleSets → List δ → Bool → δ) : Level δ → δ
  | .act step => step
  | .scope names body fails => scope names (toSteps scope body) fails

def toSteps (scope : RuleSets → List δ → Bool → δ) : List (Level δ) → List δ
  | [] => []
  | level :: rest => toStep scope level :: toSteps scope rest

end

/-- How lists of steps, of which some are scopes, are read as levels. The machine takes the one as
the other. Only the recursion over the steps is left to each kind of them. -/
structure Reading (machine : Machine δ σ) (levels : List δ → List (Level δ))
    (runAll : List δ → σ → σ) where
  scope : RuleSets → List δ → Bool → δ
  toSteps_levels (steps : List δ) : toSteps scope (levels steps) = steps
  runAll_nil (state : σ) : runAll [] state = state
  runAll_cons (step : δ) (rest : List δ) (state : σ) :
    runAll (step :: rest) state = runAll rest (machine.run step state)
  run_scope (names : RuleSets) (body : List δ) (fails : Bool) (state : σ) :
    machine.run (scope names body fails) state =
      match names.required with
      | .ok sets => machine.leave state (runAll body (machine.enter sets state))
      | .error _ => state

namespace Reading

variable {machine : Machine δ σ} {levels : List δ → List (Level δ)} {runAll : List δ → σ → σ}
  (reading : Reading machine levels runAll)

theorem runAll_toSteps (level : List (Level δ)) (state : σ) :
    runAll (toSteps reading.scope level) state = Level.runAll machine level state := by
  induction level using induction generalizing state with
  | nil => exact reading.runAll_nil state
  | act step rest ih =>
      rw [toSteps, reading.runAll_cons, ih]
      rfl
  | scope names body fails rest bodyIH restIH =>
      rw [toSteps, reading.runAll_cons, restIH, toStep, reading.run_scope]
      simp only [Level.runAll, Level.run, bodyIH]

include reading in
theorem runAll_levels (steps : List δ) (state : σ) :
    runAll steps state = Level.runAll machine (levels steps) state := by
  rw [← reading.runAll_toSteps, reading.toSteps_levels]

/-- The same steps without those that are picked. -/
def without (pick : δ → Option α) (steps : List δ) : List δ :=
  toSteps reading.scope (sparingAll pick (levels steps))

theorem runAll_without (pick : δ → Option α) (steps : List δ) (state : σ) :
    runAll (reading.without pick steps) state =
      Level.runAll machine (sparingAll pick (levels steps)) state :=
  reading.runAll_toSteps _ state

end Reading

end Level

/-! ### The levels of the rules of values and of objects -/

namespace ValueStep

/-- A step of its own that goes on with the same validator. -/
def Continues : ValueStep → Prop
  | .scope .. | .replace _ => False
  | _ => True

mutual

def level : ValueStep → Level ValueStep
  | .scope names steps fails => .scope names (levels steps) fails
  | step => .act step

def levels : List ValueStep → List (Level ValueStep)
  | [] => []
  | step :: rest => step.level :: levels rest

end

mutual

theorem toStep_level (step : ValueStep) : Level.toStep .scope step.level = step := by
  cases step with
  | scope names steps fails => simp only [level, Level.toStep, toSteps_levels steps]
  | _ => rfl

theorem toSteps_levels (steps : List ValueStep) : Level.toSteps .scope (levels steps) = steps := by
  cases steps with
  | nil => rfl
  | cons step rest => simp only [levels, Level.toSteps, toStep_level step, toSteps_levels rest]

end

def machine : Level.Machine ValueStep ValueRules where
  run step rules := (step.run rules).value
  enter sets rules := rules.enter sets
  leave before after := after.leaveTo before.stack.depth

def reading : Level.Reading machine levels fun steps rules => (runAll steps rules).value where
  scope := .scope
  toSteps_levels := toSteps_levels
  runAll_nil _ := rfl
  runAll_cons _ _ _ := rfl
  run_scope names body fails rules := by
    simp only [machine, run]
    cases names.required <;> rfl

/-- A single step, with the steps in its body if it is a scope. -/
theorem run_level (step : ValueStep) (rules : ValueRules) :
    (step.run rules).value = Level.runAll machine [step.level] rules :=
  reading.runAll_levels [step] rules

end ValueStep

namespace ObjectStep

def Continues : ObjectStep → Prop
  | .scope .. | .options _ true => False
  | _ => True

mutual

def level : ObjectStep → Level ObjectStep
  | .scope names steps fails => .scope names (levels steps) fails
  | step => .act step

def levels : List ObjectStep → List (Level ObjectStep)
  | [] => []
  | step :: rest => step.level :: levels rest

end

mutual

theorem toStep_level (step : ObjectStep) : Level.toStep .scope step.level = step := by
  cases step with
  | scope names steps fails => simp only [level, Level.toStep, toSteps_levels steps]
  | _ => rfl

theorem toSteps_levels (steps : List ObjectStep) : Level.toSteps .scope (levels steps) = steps := by
  cases steps with
  | nil => rfl
  | cons step rest => simp only [levels, Level.toSteps, toStep_level step, toSteps_levels rest]

end

def machine : Level.Machine ObjectStep ObjectRules where
  run step rules := (step.run rules).value
  enter sets rules := rules.enter sets
  leave before after := after.leaveTo before.stack.depth

def reading : Level.Reading machine levels fun steps rules => (runAll steps rules).value where
  scope := .scope
  toSteps_levels := toSteps_levels
  runAll_nil _ := rfl
  runAll_cons _ _ _ := rfl
  run_scope names body fails rules := by
    simp only [machine, run]
    cases names.required <;> rfl

end ObjectStep

/-! ### The steps on a property -/

namespace PropertyStep

mutual

/-- A step on a property as steps that are taken on the property itself. -/
def own : PropertyStep → List PropertyStep
  | .property steps => ownAll steps
  | step => [step]

def ownAll : List PropertyStep → List PropertyStep
  | [] => []
  | step :: rest => step.own ++ ownAll rest

end

theorem runAll_append (steps rest : List PropertyStep) (held : PropertyRules) :
    (runAll (steps ++ rest) held).value = (runAll rest (runAll steps held).value).value := by
  induction steps generalizing held with
  | nil => rfl
  | cons step later ih => exact ih (step.run held).value

mutual

theorem runAll_own (step : PropertyStep) (held : PropertyRules) :
    (runAll step.own held).value = (step.run held).value := by
  cases step with
  | property steps => exact runAll_ownAll steps held
  | _ => rfl

theorem runAll_ownAll (steps : List PropertyStep) (held : PropertyRules) :
    (runAll (ownAll steps) held).value = (runAll steps held).value := by
  cases steps with
  | nil => rfl
  | cons step rest =>
      rw [ownAll, runAll_append, runAll_own step, runAll_ownAll rest]
      rfl

end

mutual

theorem ne_property_of_own {step inner : PropertyStep} (member : inner ∈ step.own)
    (steps : List PropertyStep) : inner ≠ .property steps := by
  cases step with
  | property below => exact ne_property_of_ownAll member steps
  | _ =>
      rw [List.mem_singleton.mp member]
      nofun

theorem ne_property_of_ownAll {whole : List PropertyStep} {inner : PropertyStep}
    (member : inner ∈ ownAll whole) (steps : List PropertyStep) : inner ≠ .property steps := by
  cases whole with
  | nil => exact absurd member nofun
  | cons step rest =>
      rcases List.mem_append.mp member with first | later
      · exact ne_property_of_own first steps
      · exact ne_property_of_ownAll later steps

end

/-- What relates two runs after the steps on the property itself relates them after all steps. -/
theorem runAll_relates (condition : PropertyStep → Prop)
    (relation : PropertyRules → PropertyRules → Prop)
    (run : ∀ {step : PropertyStep} {held other : PropertyRules},
      (∀ steps, step ≠ .property steps) → condition step → relation held other →
        relation (step.run held).value (step.run other).value)
    {steps : List PropertyStep} (each : ∀ step ∈ ownAll steps, condition step)
    (held other : PropertyRules) (related : relation held other) :
    relation (runAll steps held).value (runAll steps other).value := by
  have kept (own : List PropertyStep) (each : ∀ step ∈ own, condition step)
      (plain : ∀ step ∈ own, ∀ steps, step ≠ .property steps) {held other : PropertyRules}
      (related : relation held other) :
      relation (runAll own held).value (runAll own other).value := by
    induction own generalizing held other with
    | nil => exact related
    | cons step rest ih =>
        have ⟨first, later⟩ := List.forall_mem_cons.mp each
        have ⟨firstPlain, laterPlain⟩ := List.forall_mem_cons.mp plain
        exact ih later laterPlain (run firstPlain first related)
  rw [← runAll_ownAll, ← runAll_ownAll steps other]
  exact kept _ each (fun step member => ne_property_of_ownAll member) related

/-- A condition that the steps on the property itself keep is kept by all of them. -/
theorem runAll_keeps (condition : PropertyStep → Prop) {motive : PropertyRules → Prop}
    (run : ∀ {step : PropertyStep} {held : PropertyRules}, (∀ steps, step ≠ .property steps) →
      condition step → motive held → motive (step.run held).value)
    {steps : List PropertyStep} (each : ∀ step ∈ ownAll steps, condition step)
    {held : PropertyRules} (holds : motive held) : motive (runAll steps held).value :=
  runAll_relates condition (fun held _ => motive held) (fun plain kept => run plain kept) each held
    held holds

end PropertyStep

end RuleTree
