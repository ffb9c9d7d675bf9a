import RuleTree.Proofs.Tree.Induction
import RuleTree.Tree.Bind
import RuleTree.Tree.Inherit

/-!
What trees are handed. A validator keeps the first selector that it is handed, so a second one
changes nothing, wherever in the tree the first has stopped. A resolver goes the same way but for
its end: it stops at a validator that holds it. The two do not get in each other's way.
-/

set_option autoImplicit false

namespace RuleTree

/-! ### Handing on a selector -/

section

variable (sets : RuleSets)

theorem Rule.inheritAll_eq (rules : List Rule) :
    Rule.inheritAll sets rules = rules.map (·.inherit sets) := by
  induction rules with
  | nil => rfl
  | cons rule rest ih => rw [Rule.inheritAll, ih, List.map_cons]

theorem Rule.inheritOption_eq (rule : Option Rule) :
    Rule.inheritOption sets rule = rule.map (·.inherit sets) := by
  cases rule <;> rfl

theorem RuleEntry.inheritOption_eq (entry : Option RuleEntry) :
    RuleEntry.inheritOption sets entry = entry.map (·.inherit sets) := by
  cases entry <;> rfl

theorem ValueRules.inheritOption_eq (rules : Option ValueRules) :
    ValueRules.inheritOption sets rules = rules.map (·.inherit sets) := by
  cases rules <;> rfl

theorem ObjectRules.inheritOption_eq (rules : Option ObjectRules) :
    ObjectRules.inheritOption sets rules = rules.map (·.inherit sets) := by
  cases rules <;> rfl

theorem RuleEntry.inherit_eq (held : RuleEntry) :
    held.inherit sets = { held with rule := held.rule.inherit sets } := by
  obtain ⟨rule, tag, message, isCustom⟩ := held
  rw [RuleEntry.inherit]

theorem CompositeRules.inherit_eq (rules : CompositeRules) :
    rules.inherit sets = { rules with children := rules.children.map (·.inherit sets) } := by
  obtain ⟨children, mode⟩ := rules
  rw [CompositeRules.inherit, Rule.inheritAll_eq]

theorem ConditionalRules.inherit_eq (rules : ConditionalRules) :
    rules.inherit sets =
      { rules with
        accepted := rules.accepted.inherit sets
        rejected := rules.rejected.map (·.inherit sets) } := by
  obtain ⟨condition, accepted, rejected⟩ := rules
  rw [ConditionalRules.inherit, ValueRules.inheritOption_eq]

theorem ValueRules.inherit_of_kept {rules : ValueRules} {kept : RuleSets}
    (holds : rules.inherited = some kept) : rules.inherit sets = rules := by
  obtain ⟨presence, general, nested⟩ := rules
  subst holds
  rw [ValueRules.inherit]

theorem ValueRules.inherit_of_fresh {rules : ValueRules} (fresh : rules.inherited = none) :
    rules.inherit sets =
      { rules with nested := rules.nested.map (·.inherit sets), inherited := some sets } := by
  obtain ⟨presence, general, nested⟩ := rules
  subst fresh
  rw [ValueRules.inherit, RuleEntry.inheritOption_eq]

theorem ElementRules.inherit_of_kept {rules : ElementRules} {kept : RuleSets}
    (holds : rules.inherited = some kept) : rules.inherit sets = rules := by
  obtain ⟨element, filter⟩ := rules
  subst holds
  rw [ElementRules.inherit]

theorem ElementRules.inherit_of_fresh {rules : ElementRules} (fresh : rules.inherited = none) :
    rules.inherit sets =
      { rules with element := rules.element.map (·.inherit sets), inherited := some sets } := by
  obtain ⟨element, filter⟩ := rules
  subst fresh
  rw [ElementRules.inherit, Rule.inheritOption_eq]

theorem ObjectRules.inherit_of_kept {rules : ObjectRules} {kept : RuleSets}
    (holds : rules.inherited = some kept) : rules.inherit sets = rules := by
  obtain ⟨target, properties, child⟩ := rules
  subst holds
  rw [ObjectRules.inherit]

theorem ObjectRules.inherit_of_fresh {rules : ObjectRules} (fresh : rules.inherited = none) :
    rules.inherit sets =
      { rules with child := rules.child.map (·.inherit sets), inherited := some sets } := by
  obtain ⟨target, properties, child⟩ := rules
  subst fresh
  rw [ObjectRules.inherit, ObjectRules.inheritOption_eq]

/-- All but the nested validator and the selector stays as it is. -/
theorem ValueRules.inherit_eq (rules : ValueRules) :
    rules.inherit sets =
      { rules with
        nested := (rules.inherit sets).nested, inherited := (rules.inherit sets).inherited } := by
  cases held : rules.inherited with
  | some kept =>
      rw [ValueRules.inherit_of_kept sets held]
      cases rules
      rfl
  | none => rw [ValueRules.inherit_of_fresh sets held]

theorem ElementRules.inherit_eq (rules : ElementRules) :
    rules.inherit sets =
      { rules with
        element := (rules.inherit sets).element, inherited := (rules.inherit sets).inherited } := by
  cases held : rules.inherited with
  | some kept =>
      rw [ElementRules.inherit_of_kept sets held]
      cases rules
      rfl
  | none => rw [ElementRules.inherit_of_fresh sets held]

theorem ObjectRules.inherit_eq (rules : ObjectRules) :
    rules.inherit sets =
      { rules with
        child := (rules.inherit sets).child, inherited := (rules.inherit sets).inherited } := by
  cases held : rules.inherited with
  | some kept =>
      rw [ObjectRules.inherit_of_kept sets held]
      cases rules
      rfl
  | none => rw [ObjectRules.inherit_of_fresh sets held]

theorem ValueRules.inherited_inherit (rules : ValueRules) :
    (rules.inherit sets).inherited = some (rules.inherited.getD sets) := by
  cases held : rules.inherited with
  | some kept =>
      rw [ValueRules.inherit_of_kept sets held, held]
      rfl
  | none =>
      rw [ValueRules.inherit_of_fresh sets held]
      rfl

theorem ElementRules.inherited_inherit (rules : ElementRules) :
    (rules.inherit sets).inherited = some (rules.inherited.getD sets) := by
  cases held : rules.inherited with
  | some kept =>
      rw [ElementRules.inherit_of_kept sets held, held]
      rfl
  | none =>
      rw [ElementRules.inherit_of_fresh sets held]
      rfl

theorem ObjectRules.inherited_inherit (rules : ObjectRules) :
    (rules.inherit sets).inherited = some (rules.inherited.getD sets) := by
  cases held : rules.inherited with
  | some kept =>
      rw [ObjectRules.inherit_of_kept sets held, held]
      rfl
  | none =>
      rw [ObjectRules.inherit_of_fresh sets held]
      rfl

end

/-! ### Handing on a resolver -/

section

variable (resolver : Resolver)

theorem Rule.bindAll_eq (rules : List Rule) :
    Rule.bindAll resolver rules = rules.map (·.bind resolver) := by
  induction rules with
  | nil => rfl
  | cons rule rest ih => rw [Rule.bindAll, ih, List.map_cons]

theorem Rule.bindOption_eq (rule : Option Rule) :
    Rule.bindOption resolver rule = rule.map (·.bind resolver) := by
  cases rule <;> rfl

theorem RuleEntry.bindAll_eq (entries : List RuleEntry) :
    RuleEntry.bindAll resolver entries = entries.map (·.bind resolver) := by
  induction entries with
  | nil => rfl
  | cons entry rest ih => rw [RuleEntry.bindAll, ih, List.map_cons]

theorem RuleEntry.bindOption_eq (entry : Option RuleEntry) :
    RuleEntry.bindOption resolver entry = entry.map (·.bind resolver) := by
  cases entry <;> rfl

theorem ValueRules.bindOption_eq (rules : Option ValueRules) :
    ValueRules.bindOption resolver rules = rules.map (·.bind resolver) := by
  cases rules <;> rfl

theorem PropertyRules.bindAll_eq (properties : List PropertyRules) :
    PropertyRules.bindAll resolver properties = properties.map (·.bind resolver) := by
  induction properties with
  | nil => rfl
  | cons held rest ih => rw [PropertyRules.bindAll, ih, List.map_cons]

theorem ObjectRules.bindOption_eq (rules : Option ObjectRules) :
    ObjectRules.bindOption resolver rules = rules.map (·.bind resolver) := by
  cases rules <;> rfl

theorem RuleEntry.bind_eq (held : RuleEntry) :
    held.bind resolver = { held with rule := held.rule.bind resolver } := by
  obtain ⟨rule, tag, message, isCustom⟩ := held
  rw [RuleEntry.bind]

theorem CompositeRules.bind_eq (rules : CompositeRules) :
    rules.bind resolver = { rules with children := rules.children.map (·.bind resolver) } := by
  obtain ⟨children, mode⟩ := rules
  rw [CompositeRules.bind, Rule.bindAll_eq]

theorem ConditionalRules.bind_eq (rules : ConditionalRules) :
    rules.bind resolver =
      { rules with
        accepted := rules.accepted.bind resolver
        rejected := rules.rejected.map (·.bind resolver) } := by
  obtain ⟨condition, accepted, rejected⟩ := rules
  rw [ConditionalRules.bind, ValueRules.bindOption_eq]

theorem ElementRules.bind_eq (rules : ElementRules) :
    rules.bind resolver =
      { rules with
        element := rules.element.map (·.bind resolver), resolver := some resolver } := by
  obtain ⟨element, filter⟩ := rules
  rw [ElementRules.bind, Rule.bindOption_eq]

theorem PropertyRules.bind_eq (held : PropertyRules) :
    held.bind resolver = { held with rules := held.rules.bind resolver } := by
  obtain ⟨name, memberOverride, display, accessor, rules, tag, annotated⟩ := held
  rw [PropertyRules.bind]

theorem ValueRules.bind_of_bound {rules : ValueRules}
    (bound : resolver.isBoundIn rules.resolver = true) : rules.bind resolver = rules := by
  obtain ⟨presence, general, nested⟩ := rules
  dsimp only at bound
  rw [ValueRules.bind, if_pos bound]

theorem ValueRules.bind_of_free {rules : ValueRules}
    (free : ¬ resolver.isBoundIn rules.resolver = true) :
    rules.bind resolver =
      { rules with
        presence := rules.presence.map (·.bind resolver)
        general := rules.general.map (·.bind resolver)
        nested := rules.nested.map (·.bind resolver)
        resolver := some resolver } := by
  obtain ⟨presence, general, nested⟩ := rules
  dsimp only at free
  rw [ValueRules.bind, if_neg free, RuleEntry.bindAll_eq, RuleEntry.bindAll_eq,
    RuleEntry.bindOption_eq]

theorem ValueRules.entries_bind_of_free {rules : ValueRules}
    (free : ¬ resolver.isBoundIn rules.resolver = true) :
    (rules.bind resolver).entries = rules.entries.map (·.bind resolver) := by
  rw [ValueRules.bind_of_free resolver free, ValueRules.entries, ValueRules.entries]
  cases rules.nested <;> simp

theorem ObjectRules.bind_of_bound {rules : ObjectRules}
    (bound : resolver.isBoundIn rules.resolver = true) : rules.bind resolver = rules := by
  obtain ⟨target, properties, child⟩ := rules
  dsimp only at bound
  rw [ObjectRules.bind, if_pos bound]

theorem ObjectRules.bind_of_free {rules : ObjectRules}
    (free : ¬ resolver.isBoundIn rules.resolver = true) :
    rules.bind resolver =
      { rules with
        properties := rules.properties.map (·.bind resolver)
        child := rules.child.map (·.bind resolver)
        resolver := some resolver } := by
  obtain ⟨target, properties, child⟩ := rules
  dsimp only at free
  rw [ObjectRules.bind, if_neg free, PropertyRules.bindAll_eq, ObjectRules.bindOption_eq]

/-- All but the entries and the slot stays as it is. -/
theorem ValueRules.bind_eq (rules : ValueRules) :
    rules.bind resolver =
      { rules with
        presence := (rules.bind resolver).presence
        general := (rules.bind resolver).general
        nested := (rules.bind resolver).nested
        resolver := (rules.bind resolver).resolver } := by
  by_cases bound : resolver.isBoundIn rules.resolver = true
  · rw [ValueRules.bind_of_bound resolver bound]
    cases rules
    rfl
  · rw [ValueRules.bind_of_free resolver bound]

theorem ObjectRules.bind_eq (rules : ObjectRules) :
    rules.bind resolver =
      { rules with
        properties := (rules.bind resolver).properties
        child := (rules.bind resolver).child
        resolver := (rules.bind resolver).resolver } := by
  by_cases bound : resolver.isBoundIn rules.resolver = true
  · rw [ObjectRules.bind_of_bound resolver bound]
    cases rules
    rfl
  · rw [ObjectRules.bind_of_free resolver bound]

theorem ValueRules.inherited_bind (rules : ValueRules) :
    (rules.bind resolver).inherited = rules.inherited := by
  rw [ValueRules.bind_eq]

theorem ElementRules.inherited_bind (rules : ElementRules) :
    (rules.bind resolver).inherited = rules.inherited := by
  rw [ElementRules.bind_eq]

theorem ObjectRules.inherited_bind (rules : ObjectRules) :
    (rules.bind resolver).inherited = rules.inherited := by
  rw [ObjectRules.bind_eq]

theorem Resolver.isBoundIn_self : resolver.isBoundIn (some resolver) = true := by
  simp [Resolver.isBoundIn]

theorem ValueRules.isBoundIn_bind (rules : ValueRules) :
    resolver.isBoundIn (rules.bind resolver).resolver = true := by
  by_cases bound : resolver.isBoundIn rules.resolver = true
  · rwa [ValueRules.bind_of_bound resolver bound]
  · rw [ValueRules.bind_of_free resolver bound]
    exact resolver.isBoundIn_self

theorem ObjectRules.isBoundIn_bind (rules : ObjectRules) :
    resolver.isBoundIn (rules.bind resolver).resolver = true := by
  by_cases bound : resolver.isBoundIn rules.resolver = true
  · rwa [ObjectRules.bind_of_bound resolver bound]
  · rw [ObjectRules.bind_of_free resolver bound]
    exact resolver.isBoundIn_self

end

/-! ### On nodes -/

namespace Node

/-- Hands a selector to a node. The properties of an object are handed none. -/
def inherit (sets : RuleSets) : Node → Node
  | .rule held => .rule (held.inherit sets)
  | .entry held => .entry (held.inherit sets)
  | .property held => .property held
  | .object rules => .object (rules.inherit sets)

def bind (resolver : Resolver) : Node → Node
  | .rule held => .rule (held.bind resolver)
  | .entry held => .entry (held.bind resolver)
  | .property held => .property (held.bind resolver)
  | .object rules => .object (rules.bind resolver)

/-- The first selector that a node was handed stands. -/
theorem inherit_inherit (node : Node) (first second : RuleSets) :
    (node.inherit first).inherit second = node.inherit first := by
  induction node with
  | leaf | contextual | presence | predicate | property => rfl
  | composite rules ih =>
      simp only [inherit, Rule.inherit, CompositeRules.inherit_eq, List.map_map]
      congr 3
      apply List.map_congr_left
      intro part member
      exact rule.inj (ih part member)
  | conditional rules accepted rejected =>
      have taken := Rule.value.inj (rule.inj accepted)
      simp only [inherit, Rule.inherit, ConditionalRules.inherit_eq, Option.map_map, taken]
      congr 3
      apply Option.map_congr
      intro branch member
      exact Rule.value.inj (rule.inj (rejected branch member))
  | value rules ih =>
      simp only [inherit, Rule.inherit]
      rw [ValueRules.inherit_of_kept second (rules.inherited_inherit first)]
  | elements rules ih =>
      simp only [inherit, Rule.inherit]
      rw [ElementRules.inherit_of_kept second (rules.inherited_inherit first)]
  | nested reach rules ih =>
      have same := object.inj ih
      simp only [inherit, Rule.inherit, same]
  | entry held ih =>
      have same := rule.inj ih
      simp only [inherit, RuleEntry.inherit_eq, same]
  | object rules properties child =>
      simp only [inherit]
      rw [ObjectRules.inherit_of_kept second (rules.inherited_inherit first)]

/-- A selector and a resolver may be handed on in either order. -/
theorem bind_inherit (node : Node) (sets : RuleSets) (resolver : Resolver) :
    (node.inherit sets).bind resolver = (node.bind resolver).inherit sets := by
  induction node with
  | leaf | contextual | presence | predicate | property => rfl
  | composite rules ih =>
      simp only [inherit, bind, Rule.inherit, Rule.bind, CompositeRules.inherit_eq,
        CompositeRules.bind_eq, List.map_map]
      congr 3
      apply List.map_congr_left
      intro part member
      exact rule.inj (ih part member)
  | conditional rules accepted rejected =>
      have taken := Rule.value.inj (rule.inj accepted)
      simp only [inherit, bind, Rule.inherit, Rule.bind, ConditionalRules.inherit_eq,
        ConditionalRules.bind_eq, Option.map_map, taken]
      congr 3
      apply Option.map_congr
      intro branch member
      exact Rule.value.inj (rule.inj (rejected branch member))
  | value rules ih =>
      have attached : (rules.nested.map (·.inherit sets)).map (·.bind resolver) =
          (rules.nested.map (·.bind resolver)).map (·.inherit sets) := by
        rw [Option.map_map, Option.map_map]
        apply Option.map_congr
        intro held member
        exact entry.inj (ih held (by simp_all [ValueRules.entries]))
      simp only [inherit, bind, Rule.inherit, Rule.bind]
      cases holds : rules.inherited with
      | some kept =>
          have still := (rules.inherited_bind resolver).trans holds
          rw [ValueRules.inherit_of_kept sets holds, ValueRules.inherit_of_kept sets still]
      | none =>
          have still := (rules.inherited_bind resolver).trans holds
          rw [ValueRules.inherit_of_fresh sets holds, ValueRules.inherit_of_fresh sets still]
          by_cases bound : resolver.isBoundIn rules.resolver = true
          · rw [ValueRules.bind_of_bound resolver bound]
            exact congrArg (rule ∘ Rule.value) (ValueRules.bind_of_bound resolver bound)
          · rw [ValueRules.bind_of_free resolver bound, ← attached]
            exact congrArg (rule ∘ Rule.value) (ValueRules.bind_of_free resolver bound)
  | elements rules ih =>
      have attached : (rules.element.map (·.inherit sets)).map (·.bind resolver) =
          (rules.element.map (·.bind resolver)).map (·.inherit sets) := by
        rw [Option.map_map, Option.map_map]
        apply Option.map_congr
        intro element member
        exact rule.inj (ih element member)
      simp only [inherit, bind, Rule.inherit, Rule.bind]
      cases holds : rules.inherited with
      | some kept =>
          have still := (rules.inherited_bind resolver).trans holds
          rw [ElementRules.inherit_of_kept sets holds, ElementRules.inherit_of_kept sets still]
      | none =>
          have still := (rules.inherited_bind resolver).trans holds
          rw [ElementRules.inherit_of_fresh sets holds, ElementRules.inherit_of_fresh sets still,
            ElementRules.bind_eq, ElementRules.bind_eq, attached]
  | nested reach rules ih =>
      have same := object.inj ih
      simp only [inherit, bind, Rule.inherit, Rule.bind, same]
  | entry held ih =>
      have same := rule.inj ih
      simp only [inherit, bind, RuleEntry.inherit_eq, RuleEntry.bind_eq, same]
  | object rules properties child =>
      have attached : (rules.child.map (·.inherit sets)).map (·.bind resolver) =
          (rules.child.map (·.bind resolver)).map (·.inherit sets) := by
        rw [Option.map_map, Option.map_map]
        apply Option.map_congr
        intro held member
        exact object.inj (child held member)
      simp only [inherit, bind]
      cases holds : rules.inherited with
      | some kept =>
          have still := (rules.inherited_bind resolver).trans holds
          rw [ObjectRules.inherit_of_kept sets holds, ObjectRules.inherit_of_kept sets still]
      | none =>
          have still := (rules.inherited_bind resolver).trans holds
          rw [ObjectRules.inherit_of_fresh sets holds, ObjectRules.inherit_of_fresh sets still]
          by_cases bound : resolver.isBoundIn rules.resolver = true
          · rw [ObjectRules.bind_of_bound resolver bound]
            exact congrArg object (ObjectRules.bind_of_bound resolver bound)
          · rw [ObjectRules.bind_of_free resolver bound, ← attached]
            exact congrArg object (ObjectRules.bind_of_free resolver bound)

/-! ### Conditions on all nodes -/

/-- Right below a node that was handed a selector, each node was there before, or was handed it. -/
theorem children_inherit {node child : Node} {sets : RuleSets}
    (member : child ∈ (node.inherit sets).children) :
    child ∈ node.children ∨ ∃ old ∈ node.children, child = old.inherit sets := by
  cases node with
  | entry held =>
      simp only [inherit, RuleEntry.inherit_eq, children, List.mem_singleton] at member
      exact .inr ⟨.rule held.rule, List.mem_singleton_self _, member⟩
  | property held => exact .inl member
  | object rules =>
      cases holds : rules.inherited with
      | some kept =>
          simp only [inherit, ObjectRules.inherit_of_kept sets holds] at member
          exact .inl member
      | none =>
          simp only [inherit, ObjectRules.inherit_of_fresh sets holds, children, List.mem_append,
            List.mem_map, Option.mem_toList, Option.map_eq_some_iff] at member
          rcases member with ⟨held, declared, rfl⟩ | ⟨_, ⟨attached, present, rfl⟩, rfl⟩
          · exact .inl (by simp [children, declared])
          · exact .inr ⟨.object attached, by simp_all [children], rfl⟩
  | rule held =>
      cases held with
      | leaf | contextual | presence | predicate => exact absurd member List.not_mem_nil
      | composite rules =>
          simp only [inherit, Rule.inherit, CompositeRules.inherit_eq, children, List.map_map,
            List.mem_map] at member
          obtain ⟨part, partMember, rfl⟩ := member
          exact .inr ⟨.rule part, List.mem_map_of_mem partMember, rfl⟩
      | conditional rules =>
          simp only [inherit, Rule.inherit, ConditionalRules.inherit_eq, children, List.mem_cons,
            List.mem_map, Option.mem_toList, Option.map_eq_some_iff] at member
          rcases member with rfl | ⟨_, ⟨branch, present, rfl⟩, rfl⟩
          · exact .inr ⟨.rule (.value rules.accepted), List.mem_cons_self, rfl⟩
          · exact .inr ⟨.rule (.value branch), by simp_all [children], rfl⟩
      | value rules =>
          cases holds : rules.inherited with
          | some kept =>
              simp only [inherit, Rule.inherit, ValueRules.inherit_of_kept sets holds] at member
              exact .inl member
          | none =>
              simp only [inherit, Rule.inherit, ValueRules.inherit_of_fresh sets holds, children,
                ValueRules.entries, List.mem_map, List.mem_append, Option.mem_toList,
                Option.map_eq_some_iff] at member
              obtain ⟨placed, early | ⟨attached, present, rfl⟩, rfl⟩ := member
              · exact .inl (List.mem_map_of_mem
                  (List.mem_append_left _ (List.mem_append.mpr early)))
              · exact .inr ⟨.entry attached, by simp_all [children, ValueRules.entries], rfl⟩
      | elements rules =>
          cases holds : rules.inherited with
          | some kept =>
              simp only [inherit, Rule.inherit, ElementRules.inherit_of_kept sets holds] at member
              exact .inl member
          | none =>
              simp only [inherit, Rule.inherit, ElementRules.inherit_of_fresh sets holds, children,
                List.mem_map, Option.mem_toList, Option.map_eq_some_iff] at member
              obtain ⟨_, ⟨element, present, rfl⟩, rfl⟩ := member
              exact .inr ⟨.rule element, by simp_all [children], rfl⟩
      | object reach rules =>
          simp only [inherit, Rule.inherit, children, List.mem_singleton] at member
          exact .inr ⟨.object rules, List.mem_singleton_self _, member⟩

/-- The slot of a node for a resolver. Composite and conditional rules have none; an entry and a
property leave it to their rules. -/
def slot? : Node → Option (Option Resolver)
  | .rule (.value rules) => some rules.resolver
  | .rule (.elements rules) => some rules.resolver
  | .object rules => some rules.resolver
  | _ => none

/-- A node that holds a resolver already is left as it is. Else the resolver is handed on to all nodes
right below. -/
theorem bind_cases (node : Node) (resolver : Resolver) :
    ((∃ slot ∈ node.slot?, resolver.isBoundIn slot = true) ∧ node.bind resolver = node) ∨
      (node.bind resolver).children = node.children.map (·.bind resolver) := by
  cases node with
  | entry held =>
      refine .inr ?_
      simp only [bind, RuleEntry.bind_eq, children, List.map_cons, List.map_nil]
  | property held =>
      refine .inr ?_
      simp only [bind, PropertyRules.bind_eq, children, Rule.bind, List.map_cons, List.map_nil]
  | object rules =>
      by_cases bound : resolver.isBoundIn rules.resolver = true
      · exact .inl ⟨⟨_, rfl, bound⟩, by rw [bind, ObjectRules.bind_of_bound resolver bound]⟩
      · refine .inr ?_
        simp only [bind, ObjectRules.bind_of_free resolver bound, children, List.map_append,
          List.map_map, Option.toList_map]
        rfl
  | rule held =>
      cases held with
      | leaf | contextual | presence | predicate => exact .inr rfl
      | composite rules =>
          refine .inr ?_
          simp only [bind, Rule.bind, CompositeRules.bind_eq, children, List.map_map]
          rfl
      | conditional rules =>
          refine .inr ?_
          simp only [bind, Rule.bind, ConditionalRules.bind_eq, children, List.map_cons,
            List.map_map, Option.toList_map]
          rfl
      | value rules =>
          by_cases bound : resolver.isBoundIn rules.resolver = true
          · exact .inl ⟨⟨_, rfl, bound⟩, by
              rw [bind, Rule.bind, ValueRules.bind_of_bound resolver bound]⟩
          · refine .inr ?_
            simp only [bind, Rule.bind, children, ValueRules.entries_bind_of_free resolver bound,
              List.map_map]
            rfl
      | elements rules =>
          refine .inr ?_
          simp only [bind, Rule.bind, ElementRules.bind_eq, children, Option.toList_map,
            List.map_map]
          rfl
      | object reach rules => exact .inr rfl

theorem children_bind {node child : Node} {resolver : Resolver}
    (member : child ∈ (node.bind resolver).children) :
    child ∈ node.children ∨ ∃ old ∈ node.children, child = old.bind resolver := by
  rcases node.bind_cases resolver with ⟨_, same⟩ | handed
  · rw [same] at member
    exact .inl member
  · rw [handed] at member
    obtain ⟨old, oldMember, rfl⟩ := List.mem_map.mp member
    exact .inr ⟨old, oldMember, rfl⟩

namespace Everywhere

variable {condition : Node → Prop} {node : Node}

theorem inherit {sets : RuleSets} (keeps : ∀ node, condition node → condition (node.inherit sets))
    (everywhere : Everywhere condition node) : Everywhere condition (node.inherit sets) := by
  induction everywhere with
  | intro here below ih =>
      refine .intro (keeps _ here) fun child member => ?_
      rcases children_inherit member with old | ⟨old, oldMember, rfl⟩
      · exact below child old
      · exact ih old oldMember

theorem bind {resolver : Resolver} (keeps : ∀ node, condition node → condition (node.bind resolver))
    (everywhere : Everywhere condition node) : Everywhere condition (node.bind resolver) := by
  induction everywhere with
  | intro here below ih =>
      refine .intro (keeps _ here) fun child member => ?_
      rcases children_bind member with old | ⟨old, oldMember, rfl⟩
      · exact below child old
      · exact ih old oldMember

end Everywhere

end Node

end RuleTree
