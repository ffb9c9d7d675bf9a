import RuleTree.Proofs.Declaration.Scope

/-!
Programs of declarations. A program declares on a builder, runs programs in scopes, and may fail at
any point. An error ends the bodies around it up to one that ignores the error of its scope.

The outline of a program is read off its text: what it declares, with the names of the innermost
scope around each declaration, and how it ends. A run on a builder does what the outline says, and
leaves the open scopes as it found them.
-/

set_option autoImplicit false

namespace RuleTree

/-! ### The names of a scope -/

namespace RuleSets

theorem names_push (sets : RuleSets) (name : String) :
    (sets.push name).names = sets.names ++ [name].removeAll sets.names := by
  unfold push contains List.removeAll
  by_cases known : name ∈ sets.names
  · simp [known]
  · simp [known]

theorem names_foldl_push (names : List String) (sets : RuleSets) :
    (names.foldl push sets).names = sets.names ++ (names.removeAll sets.names).eraseDups := by
  induction names generalizing sets with
  | nil => simp
  | cons name rest ih =>
      rw [List.foldl_cons, ih, names_push]
      by_cases known : name ∈ sets.names
      · simp [List.removeAll, known]
      · have others : rest.removeAll (sets.names ++ [name]) =
            (rest.removeAll sets.names).filter fun other => !other == name := by
          simp only [List.removeAll, List.filter_filter]
          apply List.filter_congr
          intro other _
          by_cases same : other = name
          · simp [same]
          · simp [same]
        simp [List.removeAll, known, List.eraseDups_cons] at others ⊢
        rw [others]

/-- Each name is listed once, at its first place. -/
theorem names_ofList (names : List String) : (ofList names).names = names.eraseDups := by
  have all : names.removeAll empty.names = names := List.filter_eq_self.mpr fun _ _ => rfl
  rw [ofList, names_foldl_push, all]
  exact List.nil_append _

/-- The names of a scope are refused if there are none, or if one of them is blank. -/
theorem required_ofList (names : List String) :
    (ofList names).required =
      if names = [] ∨ ∃ name ∈ names, Text.isBlank name = true then
        .error (.emptyArgument "rule_sets")
      else .ok (ofList names) := by
  have none : (ofList names).isEmpty = true ↔ names = [] := by
    rw [isEmpty, names_ofList, List.isEmpty_iff]
    cases names with
    | nil => exact iff_of_true List.eraseDups_nil rfl
    | cons name rest =>
        rw [List.eraseDups_cons]
        exact iff_of_false nofun nofun
  have blank : (ofList names).names.any Text.isBlank = true ↔
      ∃ name ∈ names, Text.isBlank name = true := by
    rw [names_ofList, List.any_eq_true]
    simp only [List.mem_eraseDups]
  unfold required
  simp only [Bool.or_eq_true, none, blank]

end RuleSets

theorem ScopeStack.leaveTo_enter (stack : ScopeStack) (sets : RuleSets) :
    (stack.enter sets).leaveTo stack.depth = stack := by
  have inside : (stack.enter sets).depth - stack.depth = 1 := by
    simp only [enter, depth, List.length_cons]
    omega
  rw [leaveTo, inside]
  rfl

/-! ### Programs -/

/-- A program of declarations. A declaration that is refused, with its error passed on, is a
declaration and a failure after it. -/
inductive Program (δ : Type) where
  | declare (step : δ)
  /-- Ends the body with an error. -/
  | fail (error : Error)
  /-- Runs a body in a scope. The error of the scope ends the body around it, or is ignored. -/
  | scope (names : List String) (body : List (Program δ)) (passOn : Bool)

/-- What declares, with a stack of open scopes. -/
structure Builder (δ σ : Type) where
  declare : δ → σ → σ
  stack : σ → ScopeStack
  setStack : ScopeStack → σ → σ

variable {δ σ : Type}

/-- Runs a body in a scope, whose names are checked. The scope is left however the body ends. -/
def Builder.scoped (builder : Builder δ σ) (names : RuleSets) (body : σ → σ × Except Error Unit)
    (owner : σ) : σ × Except Error Unit :=
  match names.required with
  | .error error => (owner, .error error)
  | .ok sets =>
    let after := body (builder.setStack ((builder.stack owner).enter sets) owner)
    (builder.setStack ((builder.stack after.1).leaveTo (builder.stack owner).depth) after.1, after.2)

namespace Program

def failure? : Except Error Unit → Option Error
  | .error error => some error
  | .ok _ => none

mutual

def run (builder : Builder δ σ) : Program δ → σ → σ × Except Error Unit
  | .declare step, owner => (builder.declare step owner, .ok ())
  | .fail error, owner => (owner, .error error)
  | .scope names body passOn, owner =>
    let after := builder.scoped (.ofList names) (fun inside => runAll builder body inside) owner
    (after.1, if passOn then after.2 else .ok ())

def runAll (builder : Builder δ σ) : List (Program δ) → σ → σ × Except Error Unit
  | [], owner => (owner, .ok ())
  | program :: rest, owner =>
    match program.run builder owner with
    | (after, .ok ()) => runAll builder rest after
    | (after, .error error) => (after, .error error)

end

mutual

/-- What a program declares, with the names of the innermost scope around it, and how it ends. -/
def outline (around : Option RuleSets) : Program δ → List (δ × Option RuleSets) × Except Error Unit
  | .declare step => ([(step, around)], .ok ())
  | .fail error => ([], .error error)
  | .scope names body passOn =>
    let inside := match (RuleSets.ofList names).required with
      | .ok sets => outlineAll (some sets) body
      | .error error => ([], .error error)
    (inside.1, if passOn then inside.2 else .ok ())

def outlineAll (around : Option RuleSets) :
    List (Program δ) → List (δ × Option RuleSets) × Except Error Unit
  | [] => ([], .ok ())
  | program :: rest =>
    match program.outline around with
    | (declared, .ok ()) =>
      let later := outlineAll around rest
      (declared ++ later.1, later.2)
    | (declared, .error error) => (declared, .error error)

end

mutual

/-- The declarations of a program, those that are not reached among them. -/
def steps : Program δ → List δ
  | .declare step => [step]
  | .fail _ => []
  | .scope _ body _ => stepsAll body

def stepsAll : List (Program δ) → List δ
  | [] => []
  | program :: rest => program.steps ++ stepsAll rest

end

theorem induction {motive : List (Program δ) → Prop} (nil : motive [])
    (declare : ∀ step rest, motive rest → motive (.declare step :: rest))
    (fail : ∀ error rest, motive (.fail error :: rest))
    (scope : ∀ names body passOn rest, motive body → motive rest →
      motive (.scope names body passOn :: rest))
    (programs : List (Program δ)) : motive programs := by
  match programs with
  | [] => exact nil
  | .declare step :: rest => exact declare step rest (induction nil declare fail scope rest)
  | .fail error :: rest => exact fail error rest
  | .scope names body passOn :: rest =>
      exact scope names body passOn rest (induction nil declare fail scope body)
        (induction nil declare fail scope rest)

end Program

/-- What declarations show of themselves and of their tags, on a builder. -/
structure Builder.Tagging (builder : Builder δ σ) (τ : Type) where
  allows : δ → Prop
  shown : σ → τ
  /-- What a declaration with a tag adds to what is shown. -/
  adds : δ → Option RuleSets → τ → τ
  stack_setStack (stack : ScopeStack) (owner : σ) :
    builder.stack (builder.setStack stack owner) = stack
  shown_setStack (stack : ScopeStack) (owner : σ) :
    shown (builder.setStack stack owner) = shown owner
  stack_declare {step : δ} (owner : σ) : allows step →
    builder.stack (builder.declare step owner) = builder.stack owner
  shown_declare {step : δ} (owner : σ) : allows step →
    shown (builder.declare step owner) = adds step (builder.stack owner).current (shown owner)

namespace Builder.Tagging

variable {builder : Builder δ σ} {τ : Type} (tagging : builder.Tagging τ)

/-- What is shown after the declarations of an outline. -/
def after (declared : List (δ × Option RuleSets)) (before : τ) : τ :=
  declared.foldl (fun seen step => tagging.adds step.1 step.2 seen) before

theorem after_append (first later : List (δ × Option RuleSets)) (before : τ) :
    tagging.after (first ++ later) before = tagging.after later (tagging.after first before) :=
  List.foldl_append

/-- A run of programs does what their outline says, and leaves the open scopes as they were. -/
def Follows (programs : List (Program δ)) (owner : σ) : Prop :=
  let run := Program.runAll builder programs owner
  let outline := Program.outlineAll (builder.stack owner).current programs
  run.2 = outline.2 ∧ builder.stack run.1 = builder.stack owner ∧
    tagging.shown run.1 = tagging.after outline.1 (tagging.shown owner)

theorem scoped_follows {body : List (Program δ)} (follows : ∀ owner, tagging.Follows body owner)
    (names : List String) (passOn : Bool) (owner : σ) :
    let run := Program.run builder (.scope names body passOn) owner
    let outline := Program.outline (builder.stack owner).current (.scope names body passOn)
    run.2 = outline.2 ∧ builder.stack run.1 = builder.stack owner ∧
      tagging.shown run.1 = tagging.after outline.1 (tagging.shown owner) := by
  simp only [Program.run, Program.outline, Builder.scoped]
  cases (RuleSets.ofList names).required with
  | error error => exact ⟨rfl, rfl, rfl⟩
  | ok sets =>
      obtain ⟨ending, stack, shown⟩ :=
        follows (builder.setStack ((builder.stack owner).enter sets) owner)
      rw [tagging.stack_setStack] at ending stack shown
      rw [tagging.shown_setStack] at shown
      -- The body kept the stack that it was given, so that leaving gives back the one before.
      refine ⟨?_, ?_, ?_⟩
      · exact congrArg (fun outcome => if passOn then outcome else .ok ()) ending
      · rw [tagging.stack_setStack, stack, ScopeStack.leaveTo_enter]
      · rw [tagging.shown_setStack]
        exact shown

theorem follows (programs : List (Program δ))
    (allowed : ∀ step ∈ Program.stepsAll programs, tagging.allows step) (owner : σ) :
    tagging.Follows programs owner := by
  induction programs using Program.induction generalizing owner with
  | nil => exact ⟨rfl, rfl, rfl⟩
  | declare step rest ih =>
      have ⟨first, later⟩ := List.forall_mem_cons.mp allowed
      have kept := tagging.stack_declare owner first
      have ⟨ending, stack, shown⟩ := ih later (builder.declare step owner)
      rw [kept] at ending stack shown
      rw [tagging.shown_declare owner first] at shown
      exact ⟨ending, stack, shown⟩
  | fail error rest => exact ⟨rfl, rfl, rfl⟩
  | scope names body passOn rest bodyIH restIH =>
      have ⟨inside, later⟩ := List.forall_mem_append.mp allowed
      have ⟨ending, stack, shown⟩ := tagging.scoped_follows (bodyIH inside) names passOn owner
      simp only [Follows, Program.runAll, Program.outlineAll]
      rcases ran : Program.run builder (.scope names body passOn) owner with ⟨left, outcome⟩
      rcases read : Program.outline (builder.stack owner).current (.scope names body passOn) with
        ⟨declared, foreseen⟩
      rw [ran, read] at ending shown
      rw [ran] at stack
      dsimp only at ending stack shown
      subst ending
      cases outcome with
      | error error => exact ⟨rfl, stack, shown⟩
      | ok _ =>
          have ⟨endingLater, stackLater, shownLater⟩ := restIH later left
          rw [stack] at endingLater stackLater shownLater
          refine ⟨endingLater, stackLater, ?_⟩
          rw [tagging.after_append, ← shown]
          exact shownLater

/-- Scopes are lexical: a scope whose names are not accepted does nothing, one whose names are
accepted ends as its body does, and what programs declare is tagged as their text says. -/
structure Lexical : Prop where
  refuses (names : List String) (body : σ → σ × Except Error Unit) (owner : σ) :
    (names = [] ∨ ∃ name ∈ names, Text.isBlank name = true) →
      builder.scoped (.ofList names) body owner = (owner, .error (.emptyArgument "rule_sets"))
  returns (names : List String) (body : σ → σ × Except Error Unit) (owner : σ) :
    ¬ (names = [] ∨ ∃ name ∈ names, Text.isBlank name = true) →
      (builder.scoped (.ofList names) body owner).2 =
        (body (builder.setStack ((builder.stack owner).enter (.ofList names)) owner)).2
  follows (programs : List (Program δ)) (owner : σ) :
    (∀ step ∈ Program.stepsAll programs, tagging.allows step) → tagging.Follows programs owner

theorem lexical : tagging.Lexical where
  refuses names body owner refused := by
    have required := RuleSets.required_ofList names
    rw [if_pos refused] at required
    simp only [Builder.scoped, required]
  returns names body owner accepted := by
    have required := RuleSets.required_ofList names
    rw [if_neg accepted] at required
    simp only [Builder.scoped, required]
  follows programs owner allowed := tagging.follows programs allowed owner

end Builder.Tagging

/-! ### Programs on the rules of a value -/

/-- The tags of the entries, segment by segment. -/
structure ValueTags where
  presence : List (Option RuleSets)
  general : List (Option RuleSets)
  nested : Option (Option RuleSets)

namespace ValueRules

def tags (rules : ValueRules) : ValueTags :=
  ⟨rules.presence.map (·.tag), rules.general.map (·.tag), rules.nested.map (·.tag)⟩

theorem tags_modifyLast (rules : ValueRules) {change : RuleEntry → RuleEntry}
    (keeps : ∀ entry, (change entry).tag = entry.tag) :
    (rules.modifyLast change).tags = rules.tags := by
  have ⟨presence, general, nested⟩ := segments_modifyLast keeps rules
  unfold tags
  rw [presence, general, nested]

theorem tags_setDefaultMessage (rules : ValueRules) (message : MessageOverride) :
    (rules.setDefaultMessage message).tags = rules.tags := by
  have keeps (entry : RuleEntry) : (entry.setDefaultMessage message).tag = entry.tag := by
    unfold RuleEntry.setDefaultMessage
    split <;> rfl
  simp only [tags, setDefaultMessage, List.map_map, Option.map_map, Function.comp_def, keeps]

theorem tags_inherit (rules : ValueRules) (sets : RuleSets) :
    (rules.inherit sets).tags = rules.tags := by
  cases holds : rules.inherited with
  | some kept => rw [inherit_of_kept sets holds]
  | none =>
      rw [inherit_of_fresh sets holds]
      simp only [tags, Option.map_map, Function.comp_def, RuleEntry.inherit_eq]

theorem tags_bind (rules : ValueRules) (resolver : Resolver) :
    (rules.bind resolver).tags = rules.tags := by
  by_cases bound : resolver.isBoundIn rules.resolver = true
  · rw [bind_of_bound resolver bound]
  · rw [bind_of_free resolver bound]
    simp only [tags, List.map_map, Option.map_map, Function.comp_def, RuleEntry.bind_eq]

/-- An attachment tags what it attaches, and a refused one changes nothing. -/
theorem tags_settle_attachNested (rules : ValueRules) (rule : Rule) (site alternative : String) :
    (Built.settle rules (rules.attachNested rule site alternative)).value.tags =
      { rules.tags with nested := rules.tags.nested.or (some rules.stack.current) } := by
  cases taken : rules.nested with
  | some held =>
      rw [attachNested_of_taken (by rw [taken]; rfl)]
      simp only [Built.settle, Built.reply, tags, taken, Option.map_some, Option.some_or]
  | none =>
      rw [attachNested_of_free (by rw [taken]; rfl)]
      simp only [Built.settle, Built.reply, nesting, entry, tags, taken, Option.map_some,
        Option.map_none, Option.none_or]

end ValueRules

namespace ValueStep

/-- The tags after a declaration with a tag. A rule without a pattern is not declared, and only the
first nested rule is. -/
def tagged (step : ValueStep) (tag : Option RuleSets) (tags : ValueTags) : ValueTags :=
  match step with
  | .contextual _ => { tags with general := tags.general ++ [tag] }
  | .required => { tags with presence := tags.presence ++ [tag] }
  | .nested _ => { tags with nested := tags.nested.or (some tag) }
  | .rule form =>
    if form.build.value.isSome then { tags with general := tags.general ++ [tag] } else tags
  | .presence form =>
    if form.build.value.isSome then { tags with presence := tags.presence ++ [tag] } else tags
  | .attach form _ _ =>
    if form.build.value.isSome then { tags with nested := tags.nested.or (some tag) } else tags
  | _ => tags

theorem run_tagged {step : ValueStep} (continues : step.Continues) (rules : ValueRules) :
    (step.run rules).value.stack = rules.stack ∧
      (step.run rules).value.tags = step.tagged rules.stack.current rules.tags := by
  have pushed (entries : List RuleEntry) (rule : Rule) :
      (entries ++ [rules.entry rule]).map (·.tag) =
        entries.map (·.tag) ++ [rules.stack.current] :=
    List.map_append
  have attached := ValueRules.part_settle_attachNested (·.stack) (fun _ _ _ _ _ => rfl) rules
  cases step with
  | rule form =>
      simp only [run, Built.bind, tagged]
      cases form.build.value with
      | none => exact ⟨rfl, rfl⟩
      | some rule =>
          exact ⟨rfl, congrArg (ValueTags.mk _ · _) (pushed rules.general rule)⟩
  | contextual leaf => exact ⟨rfl, congrArg (ValueTags.mk _ · _) (pushed rules.general _)⟩
  | required => exact ⟨rfl, congrArg (ValueTags.mk · _ _) (pushed rules.presence _)⟩
  | allowEmpty => exact ⟨rfl, rfl⟩
  | guard test => exact ⟨rfl, rfl⟩
  | mode mode => exact ⟨rfl, rfl⟩
  | message message =>
      exact ⟨ValueRules.part_modifyLast (·.stack) (fun _ _ _ _ _ => rfl) rules _,
        rules.tags_modifyLast fun _ => rfl⟩
  | defaultMessage message => exact ⟨rfl, rules.tags_setDefaultMessage message⟩
  | preprocess transform => exact ⟨rfl, rfl⟩
  | presence form =>
      simp only [run, Built.bind, tagged]
      cases form.build.value with
      | none => exact ⟨rfl, rfl⟩
      | some rule =>
          exact ⟨rfl, congrArg (ValueTags.mk · _ _) (pushed rules.presence rule)⟩
  | nested steps =>
      exact ⟨attached _ _ _, rules.tags_settle_attachNested _ _ _⟩
  | attach form site alternative =>
      simp only [run, Built.bind, tagged]
      cases form.build.value with
      | none => exact ⟨rfl, rfl⟩
      | some rule =>
          exact ⟨attached rule site alternative,
            rules.tags_settle_attachNested rule site alternative⟩
  | scope names steps fails => exact continues.elim
  | inherit names =>
      refine ⟨?_, rules.tags_inherit names⟩
      simp only [run, Built.reply]
      rw [rules.inherit_eq]
  | bind resolver =>
      refine ⟨?_, rules.tags_bind resolver⟩
      change (rules.bind resolver).stack = _
      rw [rules.bind_eq]
  | replace steps => exact continues.elim
  | info => exact ⟨rfl, rfl⟩

def builder : Builder ValueStep ValueRules where
  declare step rules := (step.run rules).value
  stack rules := rules.stack
  setStack stack rules := { rules with stack }

def tagging : builder.Tagging ValueTags where
  allows := Continues
  shown := ValueRules.tags
  adds := tagged
  stack_setStack _ _ := rfl
  shown_setStack _ _ := rfl
  stack_declare rules continues := (run_tagged continues rules).1
  shown_declare rules continues := (run_tagged continues rules).2

/-- A scope among the steps on a validator is a scope with these steps as its body, which may fail
at its end. -/
theorem run_scope_eq (names : RuleSets) (steps : List ValueStep) (fails : Bool)
    (rules : ValueRules) :
    let after := builder.scoped names (fun inside =>
      ((runAll steps inside).value, if fails then .error scopeFailure else .ok ())) rules
    ((scope names steps fails).run rules).value = after.1 ∧
      ((scope names steps fails).run rules).replies.getLast? =
        some (.done (Program.failure? after.2)) := by
  simp only [run, Builder.scoped]
  cases names.required with
  | error error => exact ⟨rfl, rfl⟩
  | ok sets =>
      refine ⟨rfl, ?_⟩
      cases fails <;> exact List.getLast?_concat

end ValueStep

/-! ### Programs on the rules of an object -/

/-- The properties with their tags, and the type of the instances. -/
structure ObjectTags where
  target : Ty
  properties : List (String × Option RuleSets)

namespace PropertyRules

def label (held : PropertyRules) : String × Option RuleSets := (held.name, held.tag)

theorem label_bind (held : PropertyRules) (resolver : Resolver) :
    (held.bind resolver).label = held.label := by
  rw [bind_eq]
  rfl

end PropertyRules

namespace ObjectRules

def tags (rules : ObjectRules) : ObjectTags := ⟨rules.target, rules.properties.map (·.label)⟩

theorem label_bindOwn (rules : ObjectRules) (held : PropertyRules) :
    (rules.bindOwn held).label = held.label := by
  unfold bindOwn
  cases rules.resolver with
  | none => rfl
  | some resolver => exact held.label_bind resolver

theorem label_included (rules : ObjectRules) (held : PropertyRules) :
    (rules.included held).label = (held.name, rules.stack.current.or held.tag) := by
  unfold included
  rw [label_bindOwn]
  cases rules.stack.current <;> rfl

theorem tags_addProperty (rules : ObjectRules) (held : PropertyRules)
    (steps : List PropertyStep) :
    (rules.addProperty (PropertyStep.runAll steps (rules.declared held)).value).tags =
      { rules.tags with
        properties := rules.tags.properties ++ [(held.name, rules.stack.current)] } := by
  have label : (PropertyStep.runAll steps (rules.declared held)).value.label =
      (held.name, rules.stack.current) :=
    (PropertyStep.part_runAll PropertyRules.label (fun _ _ _ _ _ => rfl) steps _).trans
      (rules.label_bindOwn _)
  simp only [tags, addProperty, List.map_append, List.map_cons, List.map_nil, label]

theorem tags_bind (rules : ObjectRules) (resolver : Resolver) :
    (rules.bind resolver).tags = rules.tags := by
  by_cases bound : resolver.isBoundIn rules.resolver = true
  · rw [bind_of_bound resolver bound]
  · rw [bind_of_free resolver bound]
    simp only [tags, List.map_map, Function.comp_def, PropertyRules.label_bind]

end ObjectRules

namespace ObjectStep

/-- The properties after a declaration with a tag. Properties that are included without a tag keep
their own. -/
def tagged (step : ObjectStep) (tag : Option RuleSets) (tags : ObjectTags) : ObjectTags :=
  match step with
  | .property name _ _ | .collection name _ _ =>
    { tags with properties := tags.properties ++ [(name, tag)] }
  | .includeFrom steps =>
    { tags with
      properties := tags.properties ++
        (runAll steps (.empty tags.target)).value.properties.map fun held =>
          (held.name, tag.or held.tag) }
  | _ => tags

theorem run_tagged {step : ObjectStep} (continues : step.Continues) (rules : ObjectRules) :
    (step.run rules).value.stack = rules.stack ∧
      (step.run rules).value.tags = step.tagged rules.stack.current rules.tags := by
  cases step with
  | property name accessor steps => exact ⟨rfl, rules.tags_addProperty (.new name accessor) steps⟩
  | collection name accessor steps =>
      exact ⟨rfl, rules.tags_addProperty (.newCollection name accessor) steps⟩
  | includeFrom steps =>
      refine ⟨rfl, ?_⟩
      change (rules.includeFrom (runAll steps (.empty rules.target)).value).tags = _
      simp only [ObjectRules.tags, ObjectRules.includeFrom, List.map_append, List.map_map,
        Function.comp_def, rules.label_included, tagged]
  | scope names steps fails => exact continues.elim
  | child steps =>
      change (Built.settle rules (rules.setValidator _)).value.stack = _ ∧
        (Built.settle rules (rules.setValidator _)).value.tags = _
      unfold ObjectRules.setValidator
      split
      · exact ⟨rfl, rfl⟩
      · exact ⟨rfl, rfl⟩
  | guard test => exact ⟨rfl, rfl⟩
  | mode mode => exact ⟨rfl, rfl⟩
  | suppressAnnotations => exact ⟨rfl, rfl⟩
  | validateAll all => exact ⟨rfl, rfl⟩
  | bridge form => exact ⟨rfl, rfl⟩
  | messages source => exact ⟨rfl, rfl⟩
  | options text fresh =>
      simp only [run]
      cases Options.parse? text with
      | none => exact ⟨rfl, rfl⟩
      | some options =>
          cases fresh with
          | false => exact ⟨rfl, rfl⟩
          | true => exact continues.elim
  | inherit names =>
      change (rules.inherit names).stack = _ ∧ (rules.inherit names).tags = _
      rw [rules.inherit_eq]
      exact ⟨rfl, rfl⟩
  | bind resolver =>
      refine ⟨?_, rules.tags_bind resolver⟩
      change (rules.bind resolver).stack = _
      rw [rules.bind_eq]
  | info => exact ⟨rfl, rfl⟩

def builder : Builder ObjectStep ObjectRules where
  declare step rules := (step.run rules).value
  stack rules := rules.stack
  setStack stack rules := { rules with stack }

def tagging : builder.Tagging ObjectTags where
  allows := Continues
  shown := ObjectRules.tags
  adds := tagged
  stack_setStack _ _ := rfl
  shown_setStack _ _ := rfl
  stack_declare rules continues := (run_tagged continues rules).1
  shown_declare rules continues := (run_tagged continues rules).2

theorem run_scope_eq (names : RuleSets) (steps : List ObjectStep) (fails : Bool)
    (rules : ObjectRules) :
    let after := builder.scoped names (fun inside =>
      ((runAll steps inside).value, if fails then .error scopeFailure else .ok ())) rules
    ((scope names steps fails).run rules).value = after.1 ∧
      ((scope names steps fails).run rules).replies.getLast? =
        some (.done (Program.failure? after.2)) := by
  simp only [run, Builder.scoped]
  cases names.required with
  | error error => exact ⟨rfl, rfl⟩
  | ok sets =>
      refine ⟨rfl, ?_⟩
      cases fails <;> exact List.getLast?_concat

end ObjectStep

/-! ### Scopes are lexical -/

/-- Each declaration is tagged with the names of the innermost scope around it, each name once, and
has no tag outside of all scopes, however the bodies of the scopes end. A scope leaves the stack of
open scopes as it was, returns the error of its body, and does nothing but return an error if it has
no name or a blank one. The scopes among the steps on validators are scopes of this kind. -/
theorem scopes_tag_lexically :
    (∀ names : List String, (RuleSets.ofList names).names = names.eraseDups) ∧
      ValueStep.tagging.Lexical ∧
      ObjectStep.tagging.Lexical ∧
      (∀ (names : RuleSets) (steps : List ValueStep) (fails : Bool) (rules : ValueRules),
        let after := ValueStep.builder.scoped names (fun inside =>
          ((ValueStep.runAll steps inside).value,
            if fails then .error scopeFailure else .ok ())) rules
        ((ValueStep.scope names steps fails).run rules).value = after.1 ∧
          ((ValueStep.scope names steps fails).run rules).replies.getLast? =
            some (.done (Program.failure? after.2))) ∧
      ∀ (names : RuleSets) (steps : List ObjectStep) (fails : Bool) (rules : ObjectRules),
        let after := ObjectStep.builder.scoped names (fun inside =>
          ((ObjectStep.runAll steps inside).value,
            if fails then .error scopeFailure else .ok ())) rules
        ((ObjectStep.scope names steps fails).run rules).value = after.1 ∧
          ((ObjectStep.scope names steps fails).run rules).replies.getLast? =
            some (.done (Program.failure? after.2)) :=
  ⟨RuleSets.names_ofList, ValueStep.tagging.lexical, ObjectStep.tagging.lexical,
    ValueStep.run_scope_eq, ObjectStep.run_scope_eq⟩

/-- A program that declares the property of this name. -/
def Program.property (name : String) : Program ObjectStep := .declare (.property name pure [])

/-- Scopes in a scope, one that fails and one that is refused, with declarations between them. -/
def Program.nestedScopes : List (Program ObjectStep) :=
  [.scope ["a", "a"]
      [.property "first", .scope ["b"] [.property "second", .fail scopeFailure, .property "lost"] false,
        .scope ["c", " "] [.property "refused"] false, .property "third", .fail scopeFailure]
      false,
    .property "last"]

/-- Each property of the program has the names of the scope that it stands in. -/
theorem nestedScopes_tagged :
    let run := Program.runAll ObjectStep.builder Program.nestedScopes (.empty (.record "Order"))
    run.1.stack = .empty ∧ run.1.tags.properties =
      [("first", some ⟨["a"]⟩), ("second", some ⟨["b"]⟩), ("third", some ⟨["a"]⟩),
        ("last", none)] := by
  have allowed : ∀ step ∈ Program.stepsAll Program.nestedScopes, step.Continues := by
    intro step member
    simp only [Program.nestedScopes, Program.property, Program.stepsAll, Program.steps,
      List.cons_append, List.nil_append, List.append_nil, List.mem_cons, List.not_mem_nil,
      or_false] at member
    rcases member with rfl | rfl | rfl | rfl | rfl | rfl <;> trivial
  have follows :=
    scopes_tag_lexically.2.2.1.follows Program.nestedScopes (.empty (.record "Order")) allowed
  exact ⟨follows.2.1, congrArg ObjectTags.properties follows.2.2⟩

end RuleTree
