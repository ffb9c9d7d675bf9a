import RuleTree.Tree.Node

/-!
Induction over trees of rules. A tree is finite, so a property of nodes holds of every node if it
passes from the nodes right below a node to the node itself. `Node.Everywhere` states a condition
on a node and on all nodes below it.
-/

set_option autoImplicit false

namespace RuleTree

namespace ValueRules

theorem sizeOf_entry_lt {rules : ValueRules} {entry : RuleEntry} (member : entry ∈ rules.entries) :
    sizeOf entry < sizeOf rules := by
  obtain ⟨presence, general, nested⟩ := rules
  simp only [entries, List.mem_append, Option.mem_toList] at member
  simp only [mk.sizeOf_spec]
  rcases member with (checked | ruled) | attached
  · have smaller := List.sizeOf_lt_of_mem checked
    omega
  · have smaller := List.sizeOf_lt_of_mem ruled
    omega
  · subst attached
    simp only [Option.some.sizeOf_spec]
    omega

end ValueRules

namespace Node

/-- A node is larger than the nodes right below it. -/
theorem sizeOf_child_lt {node child : Node} (member : child ∈ node.children) :
    sizeOf child < sizeOf node := by
  cases node with
  | entry held =>
      obtain ⟨content, tag, message, isCustom⟩ := held
      simp only [children, List.mem_singleton] at member
      subst member
      simp only [rule.sizeOf_spec, entry.sizeOf_spec, RuleEntry.mk.sizeOf_spec]
      omega
  | property held =>
      obtain ⟨name, memberOverride, display, accessor, rules, tag, annotated⟩ := held
      simp only [children, List.mem_singleton] at member
      subst member
      have positive : 0 < sizeOf annotated := by cases annotated <;> decide
      simp only [rule.sizeOf_spec, property.sizeOf_spec, PropertyRules.mk.sizeOf_spec,
        Rule.value.sizeOf_spec]
      omega
  | object rules =>
      obtain ⟨target, properties, child⟩ := rules
      simp only [children, List.mem_append, List.mem_map, Option.mem_toList] at member
      simp only [object.sizeOf_spec, ObjectRules.mk.sizeOf_spec]
      rcases member with ⟨declared, declaredMember, rfl⟩ | ⟨attached, rfl, rfl⟩
      · have smaller := List.sizeOf_lt_of_mem declaredMember
        simp only [property.sizeOf_spec]
        omega
      · simp only [Option.some.sizeOf_spec, object.sizeOf_spec]
        omega
  | rule held =>
      cases held with
      | leaf | contextual | presence | predicate => simp [children] at member
      | composite rules =>
          obtain ⟨parts, mode⟩ := rules
          simp only [children, List.mem_map] at member
          obtain ⟨part, partMember, rfl⟩ := member
          have smaller := List.sizeOf_lt_of_mem partMember
          simp only [rule.sizeOf_spec, Rule.composite.sizeOf_spec, CompositeRules.mk.sizeOf_spec]
          omega
      | conditional rules =>
          obtain ⟨condition, accepted, rejected⟩ := rules
          simp only [children, List.mem_cons, List.mem_map, Option.mem_toList] at member
          rcases member with rfl | ⟨branch, rfl, rfl⟩
          · simp only [rule.sizeOf_spec, Rule.value.sizeOf_spec, Rule.conditional.sizeOf_spec,
              ConditionalRules.mk.sizeOf_spec]
            omega
          · simp only [rule.sizeOf_spec, Rule.value.sizeOf_spec, Rule.conditional.sizeOf_spec,
              ConditionalRules.mk.sizeOf_spec, Option.some.sizeOf_spec]
            omega
      | value rules =>
          simp only [children, List.mem_map] at member
          obtain ⟨tagged, taggedMember, rfl⟩ := member
          have smaller := ValueRules.sizeOf_entry_lt taggedMember
          simp only [rule.sizeOf_spec, entry.sizeOf_spec, Rule.value.sizeOf_spec]
          omega
      | elements rules =>
          obtain ⟨element, filter, resolver, inherited⟩ := rules
          simp only [children, List.mem_map, Option.mem_toList] at member
          obtain ⟨attached, rfl, rfl⟩ := member
          simp only [rule.sizeOf_spec, Rule.elements.sizeOf_spec, ElementRules.mk.sizeOf_spec,
            Option.some.sizeOf_spec]
          omega
      | object reach rules =>
          simp only [children, List.mem_singleton] at member
          subst member
          simp only [rule.sizeOf_spec, object.sizeOf_spec, Rule.object.sizeOf_spec]
          omega

private theorem of_children {motive : Node → Prop}
    (step : ∀ node : Node, (∀ child ∈ node.children, motive child) → motive node) (node : Node) :
    motive node :=
  step node fun child _ => of_children step child
termination_by node
decreasing_by exact sizeOf_child_lt ‹_›

/-- Induction over a tree, with one case for each kind of node. -/
@[induction_eliminator]
theorem induction {motive : Node → Prop}
    (leaf : ∀ leaf, motive (.rule (.leaf leaf)))
    (contextual : ∀ leaf, motive (.rule (.contextual leaf)))
    (presence : motive (.rule .presence))
    (predicate : ∀ test, motive (.rule (.predicate test)))
    (composite : ∀ rules : CompositeRules, (∀ part ∈ rules.children, motive (.rule part)) →
      motive (.rule (.composite rules)))
    (conditional : ∀ rules : ConditionalRules, motive (.rule (.value rules.accepted)) →
      (∀ branch ∈ rules.rejected, motive (.rule (.value branch))) →
      motive (.rule (.conditional rules)))
    (value : ∀ rules : ValueRules, (∀ entry ∈ rules.entries, motive (.entry entry)) →
      motive (.rule (.value rules)))
    (elements : ∀ rules : ElementRules, (∀ element ∈ rules.element, motive (.rule element)) →
      motive (.rule (.elements rules)))
    (nested : ∀ reach rules, motive (.object rules) → motive (.rule (.object reach rules)))
    (entry : ∀ held : RuleEntry, motive (.rule held.rule) → motive (.entry held))
    (property : ∀ held : PropertyRules, motive (.rule (.value held.rules)) →
      motive (.property held))
    (object : ∀ rules : ObjectRules, (∀ held ∈ rules.properties, motive (.property held)) →
      (∀ child ∈ rules.child, motive (.object child)) → motive (.object rules))
    (node : Node) : motive node := by
  refine of_children (fun node below => ?_) node
  cases node with
  | entry held => exact entry held (below _ (by simp [children]))
  | property held => exact property held (below _ (by simp [children]))
  | object rules =>
      exact object rules (fun held member => below _ (by simp [children, member]))
        (fun child member => below _ (by simp_all [children]))
  | rule held =>
      cases held with
      | leaf => exact leaf _
      | contextual => exact contextual _
      | presence => exact presence
      | predicate => exact predicate _
      | composite rules =>
          exact composite rules fun part member => below _ (by simp [children, member])
      | conditional rules =>
          exact conditional rules (below _ (by simp [children]))
            fun branch member => below _ (by simp_all [children])
      | value rules => exact value rules fun entry member => below _ (by simp [children, member])
      | elements rules =>
          exact elements rules fun element member => below _ (by simp_all [children])
      | object reach rules => exact nested reach rules (below _ (by simp [children]))

/-- A condition that holds of a node and of all nodes below it. -/
inductive Everywhere (condition : Node → Prop) : Node → Prop where
  | intro {node : Node} : condition node →
      (∀ child ∈ node.children, Everywhere condition child) → Everywhere condition node

namespace Everywhere

variable {condition : Node → Prop}

theorem here {node : Node} (everywhere : Everywhere condition node) : condition node := by
  cases everywhere with
  | intro here _ => exact here

theorem descend {node child : Node} (everywhere : Everywhere condition node)
    (member : child ∈ node.children) : Everywhere condition child := by
  cases everywhere with
  | intro _ below => exact below child member

theorem of_forall (holds : ∀ node, condition node) (node : Node) : Everywhere condition node :=
  of_children (fun node below => .intro (holds node) below) node

theorem imp {weaker : Node → Prop} {node : Node} (everywhere : Everywhere condition node)
    (implies : ∀ node, condition node → weaker node) : Everywhere weaker node := by
  induction everywhere with
  | intro here _ ih => exact .intro (implies _ here) ih

theorem and {other : Node → Prop} {node : Node} (first : Everywhere condition node)
    (second : Everywhere other node) : Everywhere (fun node => condition node ∧ other node) node := by
  induction first with
  | intro here _ ih =>
      exact .intro ⟨here, second.here⟩ fun child member => ih child member (second.descend member)

theorem single {node child : Node} (below : Everywhere condition child)
    (single : node.children = [child]) (here : condition node) : Everywhere condition node := by
  refine .intro here fun other member => ?_
  rw [single] at member
  rwa [List.mem_singleton.mp member]

theorem part {rules : CompositeRules} {part : Rule}
    (everywhere : Everywhere condition (.rule (.composite rules))) (member : part ∈ rules.children) :
    Everywhere condition (.rule part) :=
  everywhere.descend (List.mem_map.mpr ⟨part, member, rfl⟩)

theorem accepted {rules : ConditionalRules}
    (everywhere : Everywhere condition (.rule (.conditional rules))) :
    Everywhere condition (.rule (.value rules.accepted)) :=
  everywhere.descend (by simp [children])

theorem rejected {rules : ConditionalRules} {branch : ValueRules}
    (everywhere : Everywhere condition (.rule (.conditional rules)))
    (member : branch ∈ rules.rejected) : Everywhere condition (.rule (.value branch)) :=
  everywhere.descend (by simp_all [children])

theorem entry {rules : ValueRules} {entry : RuleEntry}
    (everywhere : Everywhere condition (.rule (.value rules))) (member : entry ∈ rules.entries) :
    Everywhere condition (.entry entry) :=
  everywhere.descend (List.mem_map.mpr ⟨entry, member, rfl⟩)

theorem element {rules : ElementRules} {element : Rule}
    (everywhere : Everywhere condition (.rule (.elements rules)))
    (member : element ∈ rules.element) : Everywhere condition (.rule element) :=
  everywhere.descend (by simp_all [children])

theorem nested {reach : Reach} {rules : ObjectRules}
    (everywhere : Everywhere condition (.rule (.object reach rules))) :
    Everywhere condition (.object rules) :=
  everywhere.descend (by simp [children])

theorem content {held : RuleEntry} (everywhere : Everywhere condition (.entry held)) :
    Everywhere condition (.rule held.rule) :=
  everywhere.descend (by simp [children])

theorem rules {held : PropertyRules} (everywhere : Everywhere condition (.property held)) :
    Everywhere condition (.rule (.value held.rules)) :=
  everywhere.descend (by simp [children])

theorem property {rules : ObjectRules} {held : PropertyRules}
    (everywhere : Everywhere condition (.object rules)) (member : held ∈ rules.properties) :
    Everywhere condition (.property held) :=
  everywhere.descend (by simp [children, member])

theorem child {rules child : ObjectRules} (everywhere : Everywhere condition (.object rules))
    (member : child ∈ rules.child) : Everywhere condition (.object child) :=
  everywhere.descend (by simp_all [children])

end Everywhere

/-! ### A condition everywhere, kind by kind -/

section

variable {condition : Node → Prop}

theorem everywhere_iff {node : Node} : Everywhere condition node ↔
    condition node ∧ ∀ child ∈ node.children, Everywhere condition child :=
  ⟨fun everywhere => ⟨everywhere.here, fun _ => everywhere.descend⟩,
    fun ⟨here, below⟩ => .intro here below⟩

theorem everywhere_composite {rules : CompositeRules} :
    Everywhere condition (.rule (.composite rules)) ↔ condition (.rule (.composite rules)) ∧
      ∀ part ∈ rules.children, Everywhere condition (.rule part) := by
  rw [everywhere_iff]
  simp [children]

theorem everywhere_conditional {rules : ConditionalRules} :
    Everywhere condition (.rule (.conditional rules)) ↔
      condition (.rule (.conditional rules)) ∧
        Everywhere condition (.rule (.value rules.accepted)) ∧
          ∀ branch ∈ rules.rejected, Everywhere condition (.rule (.value branch)) := by
  rw [everywhere_iff]
  simp [children]

theorem everywhere_value {rules : ValueRules} :
    Everywhere condition (.rule (.value rules)) ↔ condition (.rule (.value rules)) ∧
      ∀ entry ∈ rules.entries, Everywhere condition (.entry entry) := by
  rw [everywhere_iff]
  simp [children]

theorem everywhere_elements {rules : ElementRules} :
    Everywhere condition (.rule (.elements rules)) ↔ condition (.rule (.elements rules)) ∧
      ∀ element ∈ rules.element, Everywhere condition (.rule element) := by
  rw [everywhere_iff]
  simp [children]

theorem everywhere_nested {reach : Reach} {rules : ObjectRules} :
    Everywhere condition (.rule (.object reach rules)) ↔
      condition (.rule (.object reach rules)) ∧ Everywhere condition (.object rules) := by
  rw [everywhere_iff]
  simp [children]

theorem everywhere_entry {held : RuleEntry} :
    Everywhere condition (.entry held) ↔ condition (.entry held) ∧
      Everywhere condition (.rule held.rule) := by
  rw [everywhere_iff]
  simp [children]

theorem everywhere_property {held : PropertyRules} :
    Everywhere condition (.property held) ↔ condition (.property held) ∧
      Everywhere condition (.rule (.value held.rules)) := by
  rw [everywhere_iff]
  simp [children]

theorem everywhere_object {rules : ObjectRules} :
    Everywhere condition (.object rules) ↔ condition (.object rules) ∧
      (∀ held ∈ rules.properties, Everywhere condition (.property held)) ∧
        ∀ child ∈ rules.child, Everywhere condition (.object child) := by
  rw [everywhere_iff]
  simp [children, or_imp, forall_and]

end

end Node

end RuleTree
