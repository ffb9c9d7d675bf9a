import RuleTree.Proofs.RuleSet.Selection
import RuleTree.Tree.Node

/-!
Pruned trees. Pruning walks a tree with the selector in effect. It deletes the entries and the
properties that the selector leaves out, and it erases all tags and all lists that a selector is
made of, so that a pruned tree has nothing left to select.
-/

set_option autoImplicit false

namespace RuleTree

mutual

/-- A rule without what the selector leaves out. -/
def Rule.pruned (ambient selector : Option RuleSets) : Rule → Rule
  | .leaf leaf => .leaf leaf
  | .contextual leaf => .contextual leaf
  | .presence => .presence
  | .predicate test => .predicate test
  | .composite rules => .composite (rules.pruned ambient selector)
  | .conditional rules => .conditional (rules.pruned ambient selector)
  | .value rules => .value (rules.pruned ambient selector)
  | .elements rules => .elements (rules.pruned ambient selector)
  | .object reach rules => .object reach (rules.pruned ambient selector)

def Rule.prunedAll (ambient selector : Option RuleSets) : List Rule → List Rule
  | [] => []
  | rule :: rest => rule.pruned ambient selector :: Rule.prunedAll ambient selector rest

def Rule.prunedOption (ambient selector : Option RuleSets) : Option Rule → Option Rule
  | none => none
  | some rule => some (rule.pruned ambient selector)

def RuleEntry.pruned (ambient selector : Option RuleSets) : RuleEntry → RuleEntry
  | { rule, message, isCustom, .. } =>
    { rule := rule.pruned ambient selector, tag := none, message, isCustom }

def RuleEntry.prunedAll (ambient selector : Option RuleSets) : List RuleEntry → List RuleEntry
  | [] => []
  | entry :: rest =>
    let kept := RuleEntry.prunedAll ambient selector rest
    if RuleSets.LeavesOut selector entry.tag then kept
    else entry.pruned ambient selector :: kept

def RuleEntry.prunedOption (ambient selector : Option RuleSets) :
    Option RuleEntry → Option RuleEntry
  | none => none
  | some entry =>
    if RuleSets.LeavesOut selector entry.tag then none
    else some (entry.pruned ambient selector)

def CompositeRules.pruned (ambient selector : Option RuleSets) : CompositeRules → CompositeRules
  | { children, mode } => { children := Rule.prunedAll ambient selector children, mode }

def ConditionalRules.pruned (ambient selector : Option RuleSets) :
    ConditionalRules → ConditionalRules
  | { condition, accepted, rejected } =>
    { condition
      accepted := accepted.pruned ambient selector
      rejected := ValueRules.prunedOption ambient selector rejected }

/-- The rules of a value are walked with their inherited list, else the selector around them, else
the ambient selector. -/
def ValueRules.pruned (ambient selector : Option RuleSets) : ValueRules → ValueRules
  | { presence, general, nested, last, mode, guards, skipsEmpty, preprocess, stack, inherited,
      resolver } =>
    let selector := (inherited.or selector).or ambient
    { presence := RuleEntry.prunedAll ambient selector presence
      general := RuleEntry.prunedAll ambient selector general
      nested := RuleEntry.prunedOption ambient selector nested
      inherited := none
      last, mode, guards, skipsEmpty, preprocess, stack, resolver }

def ValueRules.prunedOption (ambient selector : Option RuleSets) :
    Option ValueRules → Option ValueRules
  | none => none
  | some rules => some (rules.pruned ambient selector)

def ElementRules.pruned (ambient selector : Option RuleSets) : ElementRules → ElementRules
  | { element, filter, resolver, .. } =>
    { element := Rule.prunedOption ambient selector element, inherited := none, filter, resolver }

def PropertyRules.pruned (ambient selector : Option RuleSets) : PropertyRules → PropertyRules
  | { name, memberOverride, display, accessor, rules, annotated, .. } =>
    { rules := rules.pruned ambient selector
      tag := none
      name, memberOverride, display, accessor, annotated }

def PropertyRules.prunedAll (ambient selector : Option RuleSets) :
    List PropertyRules → List PropertyRules
  | [] => []
  | property :: rest =>
    let kept := PropertyRules.prunedAll ambient selector rest
    if RuleSets.LeavesOut selector property.tag then kept
    else property.pruned ambient selector :: kept

/-- The rules of an object are walked as those of a value are, and with their own default list if
there is no other selector. -/
def ObjectRules.pruned (ambient selector : Option RuleSets) : ObjectRules → ObjectRules
  | { target, properties, child, stack, guards, mode, suppressAnnotations, validateAll, bridge,
      messages, defaultRuleSets, inherited, resolver } =>
    let selector := ((inherited.or selector).or ambient).or defaultRuleSets
    { properties := PropertyRules.prunedAll ambient selector properties
      child := ObjectRules.prunedOption ambient selector child
      defaultRuleSets := none
      inherited := none
      target, stack, guards, mode, suppressAnnotations, validateAll, bridge, messages, resolver }

def ObjectRules.prunedOption (ambient selector : Option RuleSets) :
    Option ObjectRules → Option ObjectRules
  | none => none
  | some rules => some (rules.pruned ambient selector)

end

/-- A node without what the selector leaves out below it. -/
def Node.pruned (ambient selector : Option RuleSets) : Node → Node
  | .rule held => .rule (held.pruned ambient selector)
  | .entry held => .entry (held.pruned ambient selector)
  | .property held => .property (held.pruned ambient selector)
  | .object rules => .object (rules.pruned ambient selector)

section

variable (ambient selector : Option RuleSets)

/-! ### Pruned lists -/

theorem Rule.prunedAll_eq (rules : List Rule) :
    Rule.prunedAll ambient selector rules = rules.map (·.pruned ambient selector) := by
  induction rules with
  | nil => rfl
  | cons rule rest ih => rw [Rule.prunedAll, ih, List.map_cons]

theorem Rule.prunedOption_eq (rule : Option Rule) :
    Rule.prunedOption ambient selector rule = rule.map (·.pruned ambient selector) := by
  cases rule <;> rfl

theorem ValueRules.prunedOption_eq (rules : Option ValueRules) :
    ValueRules.prunedOption ambient selector rules = rules.map (·.pruned ambient selector) := by
  cases rules <;> rfl

theorem ObjectRules.prunedOption_eq (rules : Option ObjectRules) :
    ObjectRules.prunedOption ambient selector rules = rules.map (·.pruned ambient selector) := by
  cases rules <;> rfl

theorem RuleEntry.prunedAll_eq (entries : List RuleEntry) :
    RuleEntry.prunedAll ambient selector entries =
      (entries.filter (·.isActive selector)).map (·.pruned ambient selector) := by
  induction entries with
  | nil => rfl
  | cons entry rest ih =>
      have decided := RuleSets.isActive_eq_false_iff entry.tag selector
      by_cases leftOut : RuleSets.LeavesOut selector entry.tag
      · have inactive : entry.isActive selector = false := decided.mpr leftOut
        simp [RuleEntry.prunedAll, leftOut, inactive, ih]
      · have active : entry.isActive selector = true :=
          eq_true_of_ne_false (leftOut ∘ decided.mp)
        simp [RuleEntry.prunedAll, leftOut, active, ih]

theorem RuleEntry.prunedOption_toList (entry : Option RuleEntry) :
    (RuleEntry.prunedOption ambient selector entry).toList =
      RuleEntry.prunedAll ambient selector entry.toList := by
  cases entry with
  | none => rfl
  | some entry =>
      simp only [RuleEntry.prunedOption, Option.toList_some, RuleEntry.prunedAll]
      split <;> rfl

theorem PropertyRules.prunedAll_eq (properties : List PropertyRules) :
    PropertyRules.prunedAll ambient selector properties =
      (properties.filter (·.isActive selector)).map (·.pruned ambient selector) := by
  induction properties with
  | nil => rfl
  | cons held rest ih =>
      have decided := RuleSets.isActive_eq_false_iff held.tag selector
      by_cases leftOut : RuleSets.LeavesOut selector held.tag
      · have inactive : held.isActive selector = false := decided.mpr leftOut
        simp [PropertyRules.prunedAll, leftOut, inactive, ih]
      · have active : held.isActive selector = true :=
          eq_true_of_ne_false (leftOut ∘ decided.mp)
        simp [PropertyRules.prunedAll, leftOut, active, ih]

/-! ### What pruning keeps -/

theorem RuleEntry.pruned_eq (held : RuleEntry) :
    held.pruned ambient selector =
      { held with rule := held.rule.pruned ambient selector, tag := none } := by
  obtain ⟨rule, tag, message, isCustom⟩ := held
  rw [RuleEntry.pruned]

theorem CompositeRules.pruned_eq (rules : CompositeRules) :
    rules.pruned ambient selector =
      { rules with children := rules.children.map (·.pruned ambient selector) } := by
  obtain ⟨children, mode⟩ := rules
  rw [CompositeRules.pruned, Rule.prunedAll_eq]

theorem ConditionalRules.pruned_eq (rules : ConditionalRules) :
    rules.pruned ambient selector =
      { rules with
        accepted := rules.accepted.pruned ambient selector
        rejected := rules.rejected.map (·.pruned ambient selector) } := by
  obtain ⟨condition, accepted, rejected⟩ := rules
  rw [ConditionalRules.pruned, ValueRules.prunedOption_eq]

theorem ValueRules.pruned_eq (rules : ValueRules) :
    rules.pruned ambient selector =
      { rules with
        presence :=
          RuleEntry.prunedAll ambient ((rules.inherited.or selector).or ambient) rules.presence
        general :=
          RuleEntry.prunedAll ambient ((rules.inherited.or selector).or ambient) rules.general
        nested :=
          RuleEntry.prunedOption ambient ((rules.inherited.or selector).or ambient) rules.nested
        inherited := none } := by
  obtain ⟨presence, general, nested⟩ := rules
  rw [ValueRules.pruned]

theorem ValueRules.entries_pruned (rules : ValueRules) :
    (rules.pruned ambient selector).entries =
      RuleEntry.prunedAll ambient ((rules.inherited.or selector).or ambient) rules.entries := by
  rw [pruned_eq, entries, entries]
  simp only [RuleEntry.prunedOption_toList, RuleEntry.prunedAll_eq, List.filter_append,
    List.map_append]

theorem ElementRules.pruned_eq (rules : ElementRules) :
    rules.pruned ambient selector =
      { rules with
        element := rules.element.map (·.pruned ambient selector), inherited := none } := by
  obtain ⟨element, filter⟩ := rules
  rw [ElementRules.pruned, Rule.prunedOption_eq]

theorem PropertyRules.pruned_eq (held : PropertyRules) :
    held.pruned ambient selector =
      { held with rules := held.rules.pruned ambient selector, tag := none } := by
  obtain ⟨name, memberOverride, display, accessor, rules, tag, annotated⟩ := held
  rw [PropertyRules.pruned]

theorem ObjectRules.pruned_eq (rules : ObjectRules) :
    rules.pruned ambient selector =
      { rules with
        properties := PropertyRules.prunedAll ambient
          (((rules.inherited.or selector).or ambient).or rules.defaultRuleSets) rules.properties
        child := rules.child.map
          (·.pruned ambient (((rules.inherited.or selector).or ambient).or rules.defaultRuleSets))
        defaultRuleSets := none
        inherited := none } := by
  obtain ⟨target, properties, child⟩ := rules
  rw [ObjectRules.pruned, ObjectRules.prunedOption_eq]

/-! ### Nothing is left to select -/

theorem RuleEntry.filter_pruned (entries : List RuleEntry) (requested : Option RuleSets) :
    (RuleEntry.prunedAll ambient selector entries).filter (·.isActive requested) =
      RuleEntry.prunedAll ambient selector entries := by
  rw [RuleEntry.prunedAll_eq, List.filter_eq_self]
  intro kept member
  obtain ⟨held, _, rfl⟩ := List.mem_map.mp member
  rw [RuleEntry.pruned_eq]
  rfl

theorem PropertyRules.filter_pruned (properties : List PropertyRules)
    (requested : Option RuleSets) :
    (PropertyRules.prunedAll ambient selector properties).filter (·.isActive requested) =
      PropertyRules.prunedAll ambient selector properties := by
  rw [PropertyRules.prunedAll_eq, List.filter_eq_self]
  intro kept member
  obtain ⟨held, _, rfl⟩ := List.mem_map.mp member
  rw [PropertyRules.pruned_eq]
  rfl

/-- In a pruned object those properties are active that its selector does not leave out. -/
theorem ObjectRules.activeMembers_pruned (rules : ObjectRules) (requested : Option RuleSets) :
    (rules.pruned ambient selector).activeMembers requested =
      rules.activeMembers
        (((rules.inherited.or selector).or ambient).or rules.defaultRuleSets) := by
  unfold ObjectRules.activeMembers
  rw [ObjectRules.pruned_eq, PropertyRules.filter_pruned, PropertyRules.prunedAll_eq,
    List.map_map]
  apply List.map_congr_left
  intro held _
  rw [Function.comp_apply, PropertyRules.pruned_eq]
  rfl

end

end RuleTree
