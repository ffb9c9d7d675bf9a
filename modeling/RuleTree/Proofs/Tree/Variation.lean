import Mathlib.Data.List.Forall2
import RuleTree.Proofs.Tree.Visit

/-!
Trees of the same shape. Two trees vary if they differ in nothing but the modes of their nodes and
the bridges of their objects, as far as a variation allows it. They may be evaluated in different
contexts too, if the contexts stay alike on every level that both evaluations open.

Both evaluations then make the same visits side by side. A relation between reports holds of the
whole trees if at each pair of visits it passes from what arrives from below to what is reported.
-/

set_option autoImplicit false

namespace RuleTree

/-- What two evaluations may differ in. The contexts keep the selector and the words of messages. -/
structure Variation where
  mode : Mode → Mode → Prop
  bridge : Option AnnotationBridge → Option AnnotationBridge → Prop
  context : Context → Context → Prop
  ruleSets {first second : Context} : context first second → second.ruleSets = first.ruleSets
  retitle {first second : Context} (override : Option MessageOverride) :
    context first second →
      MessageOverride.retitle override second = MessageOverride.retitle override first
  scope {first second : Context} : context first second → context first.scope second.scope
  property {first second : Context} (held : PropertyRules) :
    context first second → context (held.scope first) (held.scope second)
  value {first second : Context} (rules : ValueRules) :
    context first second → context (rules.scope first) (rules.scope second)
  object {first second : Context} (rules : ObjectRules) {changed : Option AnnotationBridge}
    (value : Value) : bridge rules.bridge changed → context first second →
      context (rules.contextFor value first)
        ({ rules with bridge := changed }.contextFor value second)

variable {variation : Variation}

/-- The second tree is the first one, but for modes and bridges that a variation allows. -/
inductive Node.Varies (variation : Variation) : Node → Node → Prop where
  | leaf (held : Leaf) : Varies variation (.rule (.leaf held)) (.rule (.leaf held))
  | contextual (held : ContextualLeaf) :
      Varies variation (.rule (.contextual held)) (.rule (.contextual held))
  | presence : Varies variation (.rule .presence) (.rule .presence)
  | predicate (test : ContextTest) :
      Varies variation (.rule (.predicate test)) (.rule (.predicate test))
  | composite {rules : CompositeRules} {children : List Rule} {mode : Mode} :
      variation.mode rules.mode mode →
      List.Forall₂ (fun part other => Varies variation (.rule part) (.rule other)) rules.children
        children →
      Varies variation (.rule (.composite rules)) (.rule (.composite ⟨children, mode⟩))
  | conditional {rules : ConditionalRules} {accepted : ValueRules} {rejected : Option ValueRules} :
      Varies variation (.rule (.value rules.accepted)) (.rule (.value accepted)) →
      List.Forall₂
        (fun branch other => Varies variation (.rule (.value branch)) (.rule (.value other)))
        rules.rejected.toList rejected.toList →
      Varies variation (.rule (.conditional rules))
        (.rule (.conditional { rules with accepted, rejected }))
  | value {rules : ValueRules} {presence general : List RuleEntry} {nested : Option RuleEntry}
      {mode : Mode} :
      variation.mode rules.mode mode →
      List.Forall₂ (fun held other => Varies variation (.entry held) (.entry other))
        rules.presence presence →
      List.Forall₂ (fun held other => Varies variation (.entry held) (.entry other))
        rules.general general →
      List.Forall₂ (fun held other => Varies variation (.entry held) (.entry other))
        rules.nested.toList nested.toList →
      Varies variation (.rule (.value rules))
        (.rule (.value { rules with presence, general, nested, mode }))
  | elements {rules : ElementRules} {element : Option Rule} :
      List.Forall₂ (fun rule other => Varies variation (.rule rule) (.rule other))
        rules.element.toList element.toList →
      Varies variation (.rule (.elements rules)) (.rule (.elements { rules with element }))
  | nested {reach : Reach} {rules other : ObjectRules} :
      Varies variation (.object rules) (.object other) →
      Varies variation (.rule (.object reach rules)) (.rule (.object reach other))
  | entry {held : RuleEntry} {rule : Rule} :
      Varies variation (.rule held.rule) (.rule rule) →
      Varies variation (.entry held) (.entry { held with rule })
  | property {held : PropertyRules} {rules : ValueRules} :
      Varies variation (.rule (.value held.rules)) (.rule (.value rules)) →
      Varies variation (.property held) (.property { held with rules })
  | object {rules : ObjectRules} {properties : List PropertyRules} {child : Option ObjectRules}
      {mode : Mode} {bridge : Option AnnotationBridge} :
      variation.mode rules.mode mode →
      variation.bridge rules.bridge bridge →
      List.Forall₂ (fun held other => Varies variation (.property held) (.property other))
        rules.properties properties →
      List.Forall₂ (fun attached other => Varies variation (.object attached) (.object other))
        rules.child.toList child.toList →
      Varies variation (.object rules) (.object { rules with properties, child, mode, bridge })

namespace Node.Varies

theorem tag {node other : Node} (varies : Varies variation node other) :
    other.tag = node.tag := by
  cases varies <;> rfl

theorem property_member {held other : PropertyRules}
    (varies : Varies variation (.property held) (.property other)) :
    other.member = held.member := by
  cases varies
  rfl

theorem refl (modes : ∀ mode, variation.mode mode mode)
    (bridges : ∀ bridge, variation.bridge bridge bridge) (node : Node) :
    Varies variation node node := by
  -- The second tree is given field by field, so each case takes the rules apart at its end.
  induction node with
  | leaf held => exact .leaf held
  | contextual held => exact .contextual held
  | presence => exact .presence
  | predicate test => exact .predicate test
  | composite rules ih =>
      have kept := Varies.composite (modes rules.mode) (List.forall₂_same.mpr ih)
      cases rules
      exact kept
  | conditional rules accepted rejected =>
      have kept : Varies variation (.rule (.conditional rules)) _ := .conditional accepted
        (List.forall₂_same.mpr fun branch member => rejected branch (Option.mem_toList.mp member))
      cases rules
      exact kept
  | value rules ih =>
      have inside {entries : List RuleEntry} (part : ∀ held ∈ entries, held ∈ rules.entries) :
          List.Forall₂ (fun held other => Varies variation (.entry held) (.entry other)) entries
            entries :=
        List.forall₂_same.mpr fun held member => ih held (part held member)
      have kept := Varies.value (modes rules.mode)
        (inside fun held (member : held ∈ rules.presence) => by simp [ValueRules.entries, member])
        (inside fun held (member : held ∈ rules.general) => by simp [ValueRules.entries, member])
        (inside fun held (member : held ∈ rules.nested.toList) =>
          List.mem_append_right _ member)
      cases rules
      exact kept
  | elements rules ih =>
      have kept : Varies variation (.rule (.elements rules)) _ := .elements
        (List.forall₂_same.mpr fun element member => ih element (Option.mem_toList.mp member))
      cases rules
      exact kept
  | nested reach rules ih => exact .nested ih
  | entry held ih =>
      have kept := Varies.entry ih
      cases held
      exact kept
  | property held ih =>
      have kept := Varies.property ih
      cases held
      exact kept
  | object rules properties child =>
      have kept := Varies.object (modes rules.mode) (bridges rules.bridge)
        (List.forall₂_same.mpr properties)
        (List.forall₂_same.mpr fun attached member => child attached (Option.mem_toList.mp member))
      cases rules
      exact kept

theorem mode {node other : Node} (plain : variation.mode .all .all)
    (varies : Varies variation node other) : variation.mode node.mode other.mode := by
  cases varies with
  | composite modes | value modes | object modes => exact modes
  | leaf | contextual | presence | predicate | conditional | elements | nested | entry
    | property => exact plain

end Node.Varies

theorem forall₂_filter {α β : Type} {alike : α → β → Prop} (keep : α → Bool)
    (keepOther : β → Bool) {items : List α} {others : List β}
    (forall₂ : List.Forall₂ alike items others)
    (same : ∀ item other, alike item other → keepOther other = keep item) :
    List.Forall₂ alike (items.filter keep) (others.filter keepOther) := by
  refine List.rel_filter (fun item other kept => ?_) forall₂
  change keep item = true ↔ keepOther other = true
  rw [same item other kept]

theorem map_eq_of_forall₂ {α β γ : Type} {alike : α → β → Prop} {items : List α} {others : List β}
    (forall₂ : List.Forall₂ alike items others) {shown : α → γ} {shownOther : β → γ}
    (same : ∀ item other, alike item other → shownOther other = shown item) :
    others.map shownOther = items.map shown := by
  induction forall₂ with
  | nil => rfl
  | cons alike _ ih => rw [List.map_cons, List.map_cons, same _ _ alike, ih]

/-- Objects whose properties have the same names and tags leave out the same members. -/
theorem ObjectRules.activeMembers_congr {rules : ObjectRules} {properties : List PropertyRules}
    (pairs : List.Forall₂ (fun held other : PropertyRules =>
      other.member = held.member ∧ other.tag = held.tag) rules.properties properties)
    (selector : Option RuleSets) :
    { rules with properties }.activeMembers selector = rules.activeMembers selector := by
  have active := forall₂_filter (·.isActive selector) (·.isActive selector) pairs
    fun held other pair => by rw [PropertyRules.isActive, PropertyRules.isActive, pair.2]
  exact map_eq_of_forall₂ active fun held other pair => pair.1

/-- Objects whose properties vary ask for the same, in the same context. -/
theorem ObjectRules.requestFor_varies {rules : ObjectRules} {properties : List PropertyRules}
    (declared : List.Forall₂
      (fun held other => Node.Varies variation (.property held) (.property other))
      rules.properties properties) (context : Context) :
    { rules with properties }.requestFor context = rules.requestFor context := by
  have pairs := declared.imp fun held other alike =>
    (⟨alike.property_member, alike.tag⟩ : other.member = held.member ∧ other.tag = held.tag)
  unfold ObjectRules.requestFor
  rw [ObjectRules.activeMembers_congr pairs]

structure Candidate.Varies (variation : Variation) (candidate other : Candidate) : Prop where
  node : candidate.node.Varies variation other.node
  value : other.value = candidate.value
  edit : other.edit = candidate.edit

/-- The same node but for the variation, on the same value, in contexts that are alike. -/
structure Visit.Varies (variation : Variation) (visit other : Visit) : Prop where
  node : visit.node.Varies variation other.node
  value : other.value = visit.value
  context : variation.context visit.context other.context

structure Branch.Varies (variation : Variation) (branch other : Branch) : Prop where
  visit : branch.visit.Varies variation other.visit
  edit : other.edit = branch.edit

namespace Node

theorem forall₂_candidates {α β : Type} {alike : α → β → Prop} {items : List α} {others : List β}
    (forall₂ : List.Forall₂ alike items others) {place : α → Candidate} {placeOther : β → Candidate}
    (varies : ∀ item other, alike item other →
      (place item).Varies variation (placeOther other)) :
    List.Forall₂ (Candidate.Varies variation) (items.map place) (others.map placeOther) := by
  rw [List.forall₂_map_left_iff, List.forall₂_map_right_iff]
  exact forall₂.imp varies

/-- Nodes that vary may go on to nodes that vary, one by one. -/
theorem Varies.candidates {node other : Node} (varies : Varies variation node other)
    (value : Value) {context changed : Context} (contexts : variation.context context changed) :
    List.Forall₂ (Candidate.Varies variation) (node.candidates value context)
      (other.candidates value changed) := by
  cases varies with
  | leaf | contextual | presence | predicate => exact .nil
  | composite modes parts =>
      exact forall₂_candidates parts fun part other alike => ⟨alike, rfl, rfl⟩
  | conditional accepted rejected =>
      simp only [Node.candidates]
      split
      · exact .cons ⟨accepted, rfl, rfl⟩ .nil
      · exact forall₂_candidates rejected fun branch other alike => ⟨alike, rfl, rfl⟩
  | @value rules presence general nested mode modes presences generals nesteds =>
      have entries := List.rel_append (List.rel_append presences generals) nesteds
      have examined : ({ rules with presence, general, nested, mode } : ValueRules).examines
          value = rules.examines value := rfl
      simp only [Node.candidates, examined]
      split
      · exact forall₂_candidates entries fun held other alike => ⟨alike, rfl, rfl⟩
      · exact .nil
  | elements elements =>
      refine List.rel_flatMap elements fun rule other alike => ?_
      exact forall₂_candidates (List.forall₂_same.mpr fun _ _ => rfl) fun numbered _ same => by
        subst same
        exact ⟨alike, rfl, rfl⟩
  | nested objects =>
      exact forall₂_candidates (List.forall₂_same.mpr fun _ _ => rfl) fun record _ same => by
        subst same
        exact ⟨objects, rfl, rfl⟩
  | entry content => exact .cons ⟨content, rfl, variation.retitle _ contexts⟩ .nil
  | property values => exact .cons ⟨values, rfl, rfl⟩ .nil
  | @object rules properties child mode bridge modes bridges declared delegated =>
      have accepted : ({ rules with properties, child, mode, bridge } : ObjectRules).accepts
          value = rules.accepts value := rfl
      simp only [Node.candidates, accepted]
      split
      · refine List.rel_append (forall₂_candidates declared fun held other alike => ?_)
          (forall₂_candidates delegated fun attached other alike => ?_)
        · exact ⟨alike, rfl, rfl⟩
        · exact ⟨alike, rfl, rfl⟩
      · exact .nil

end Node

namespace Visit

theorem Varies.inside {visit other : Visit} (varies : visit.Varies variation other) :
    variation.context visit.inside other.inside := by
  obtain ⟨node, subject, context⟩ := visit
  obtain ⟨changed, seen, changedContext⟩ := other
  obtain ⟨nodes, same, contexts⟩ := varies
  dsimp only at nodes same contexts
  subst seen
  cases nodes with
  | @value rules => exact variation.value rules contexts
  | elements => exact variation.scope contexts
  | @property held => exact variation.property held contexts
  | @object rules _ _ _ _ _ bridges => exact variation.object rules subject bridges contexts
  | leaf | contextual | presence | predicate | composite | conditional | nested | entry =>
      exact contexts

/-- Visits that vary have branches that vary: with the same selector and the same tags the same
candidates are taken. -/
theorem Varies.branches {visit other : Visit} (varies : visit.Varies variation other) :
    List.Forall₂ (Branch.Varies variation) visit.branches other.branches := by
  have candidates := varies.node.candidates visit.value varies.context
  have taken := forall₂_filter (·.isActive visit.inside.ruleSets)
    (·.isActive other.inside.ruleSets) candidates fun candidate copy alike => by
      rw [Candidate.isActive, Candidate.isActive, alike.node.tag, variation.ruleSets varies.inside]
  unfold Visit.branches
  rw [varies.value, List.forall₂_map_left_iff, List.forall₂_map_right_iff]
  exact taken.imp fun candidate copy alike =>
    ⟨⟨alike.node, alike.value, varies.inside⟩, alike.edit⟩

/-- Side by side: a relation of reports that edits keep holds of the reports of visits that vary, if
at each pair of visits it passes from what arrives to what is reported. -/
theorem Varies.report (fits : Report → Report → Prop)
    (edited : ∀ edit first second, fits first second → fits (first.map edit) (second.map edit))
    {visit other : Visit}
    (merged : ∀ left right, visit.Reaches left → left.Varies variation right →
      List.Forall₂ fits left.arriving right.arriving → fits left.report right.report)
    (varies : visit.Varies variation other) : fits visit.report other.report := by
  induction visit using Visit.induction generalizing other with
  | step visit ih =>
      apply merged visit other visit.reaches_refl varies
      -- Each pair keeps in mind that its left side is a branch, for the induction hypothesis.
      have pairs := (List.forall₂_and_left _ _).mpr
        ⟨fun branch (member : branch ∈ visit.branches) => member, varies.branches⟩
      refine List.rel_map (fun branch copy pair => ?_) pairs
      obtain ⟨member, alike, same⟩ := pair
      rw [same]
      apply edited
      exact ih branch member (fun left right reaches => merged left right (reaches.of_branch member))
        alike

end Visit

end RuleTree
