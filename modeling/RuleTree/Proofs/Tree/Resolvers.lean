import RuleTree.Proofs.Annotation.Inquiry
import RuleTree.Proofs.Tree.Binding
import RuleTree.Proofs.Tree.Passage
import RuleTree.Tree.Verdict

/-!
Where a resolver that is bound to a tree is seen. Only the rules of a value and of an object put the
resolver they hold into the context: a rule that stands below none of them sees the caller's. And
binding stops at a validator that holds the resolver already, so it reaches all validators if and
only if those that held it before have handed it on.
-/

set_option autoImplicit false

namespace RuleTree

variable {resolver : Resolver}

namespace Node

/-- The slot from which a node puts a resolver into the context, if the node is a validator of a
value or of an object. -/
def validatorSlot? : Node → Option (Option Resolver)
  | .rule (.value rules) => some rules.resolver
  | .object rules => some rules.resolver
  | _ => none

/-- If the node is a validator, it holds the resolver. -/
def BoundIfValidator (resolver : Resolver) (node : Node) : Prop :=
  ∀ slot ∈ node.validatorSlot?, resolver.isBoundIn slot = true

def holds (resolver : Resolver) (node : Node) : Bool := node.validatorSlot?.any resolver.isBoundIn

/-- A validator that holds the resolver has handed it on to all validators below. -/
def HandsOn (resolver : Resolver) (node : Node) : Prop :=
  node.holds resolver = true → node.Everywhere (BoundIfValidator resolver)

variable {node : Node}

theorem slot?_of_validator {slot : Option Resolver} (own : slot ∈ node.validatorSlot?) :
    slot ∈ node.slot? := by
  cases node with
  | entry | property => exact absurd own nofun
  | object rules => exact own
  | rule held =>
      cases held with
      | value rules => exact own
      | _ => exact absurd own nofun

theorem BoundTo.bound (bound : node.BoundTo resolver) : node.BoundIfValidator resolver :=
  fun slot own => bound slot (slot?_of_validator own)

theorem holds_iff : node.holds resolver = true ↔
    ∃ slot, node.validatorSlot? = some slot ∧ resolver.isBoundIn slot = true :=
  Option.any_eq_true ..

theorem bind_of_holds (holds : node.holds resolver = true) : node.bind resolver = node := by
  obtain ⟨slot, own, bound⟩ := holds_iff.mp holds
  cases node with
  | entry | property => cases own
  | object rules =>
      cases own
      rw [bind, ObjectRules.bind_of_bound resolver bound]
  | rule held =>
      cases held with
      | value rules =>
          cases own
          rw [bind, Rule.bind, ValueRules.bind_of_bound resolver bound]
      | _ => cases own

/-- Only a validator that holds the resolver keeps it from the nodes right below. -/
theorem children_bind_of_free (free : node.holds resolver = false) :
    (node.bind resolver).children = node.children.map (·.bind resolver) := by
  rcases node.bind_cases resolver with ⟨⟨slot, held, bound⟩, same⟩ | handed
  · cases node with
    | entry | property => cases held
    | object rules =>
        exact absurd (free.symm.trans (holds_iff.mpr ⟨slot, held, bound⟩)) Bool.false_ne_true
    | rule content =>
        cases content with
        | value rules =>
            exact absurd (free.symm.trans (holds_iff.mpr ⟨slot, held, bound⟩)) Bool.false_ne_true
        | elements rules =>
            simp only [bind, Rule.bind, ElementRules.bind_eq, children, Option.toList_map,
              List.map_map]
            rfl
        | _ => cases held
  · exact handed

theorem Everywhere.handsOn (bound : node.Everywhere (BoundIfValidator resolver)) :
    node.Everywhere (HandsOn resolver) := by
  induction bound with
  | intro here below ih => exact .intro (fun _ => .intro here below) ih

theorem handsOn_of_bound_bind (node : Node)
    (bound : (node.bind resolver).Everywhere (BoundIfValidator resolver)) :
    node.Everywhere (HandsOn resolver) := by
  cases holds : node.holds resolver with
  | true =>
      rw [bind_of_holds holds] at bound
      exact bound.handsOn
  | false =>
      refine .intro (fun again => absurd (holds.symm.trans again) nofun) fun child member =>
        handsOn_of_bound_bind child (bound.descend ?_)
      rw [children_bind_of_free holds]
      exact List.mem_map_of_mem member
termination_by node
decreasing_by exact sizeOf_child_lt ‹_›

/-- Binding reaches all validators if and only if those that held the resolver have handed it on. -/
theorem everywhere_bound_bind_iff :
    (node.bind resolver).Everywhere (BoundIfValidator resolver) ↔
      node.Everywhere (HandsOn resolver) := by
  refine ⟨handsOn_of_bound_bind node, fun everywhere => ?_⟩
  induction everywhere with
  | @intro node here _ ih =>
      cases holds : node.holds resolver with
      | true =>
          rw [bind_of_holds holds]
          exact here holds
      | false =>
          refine .intro (node.boundTo_bind resolver).bound fun child member => ?_
          rw [children_bind_of_free holds] at member
          obtain ⟨old, oldMember, rfl⟩ := List.mem_map.mp member
          exact ih old oldMember

/-! ### What looks for a resolver -/

/-- The node is a validator of a value or of an object. -/
def isValidator (node : Node) : Bool := node.validatorSlot?.isSome

/-- The node hands the context to a test, to a leaf or to a bridge. -/
def consults : Node → Bool
  | .rule (.contextual _) | .rule (.predicate _) | .property _ | .object _ => true
  | _ => false

/-- Whatever looks for a resolver stands at or below a validator. -/
inductive BelowValidators : Node → Prop where
  | validator {node : Node} : node.isValidator = true → BelowValidators node
  | parts {node : Node} :
      node.consults = false → (∀ child ∈ node.children, BelowValidators child) →
        BelowValidators node

theorem isValidator_bind (node : Node) (resolver : Resolver) :
    (node.bind resolver).isValidator = node.isValidator := by
  cases node with
  | entry | property | object => rfl
  | rule held => cases held <;> rfl

theorem consults_bind (node : Node) (resolver : Resolver) :
    (node.bind resolver).consults = node.consults := by
  cases node with
  | entry | property | object => rfl
  | rule held => cases held <;> rfl

theorem holds_of_not_validator (none : node.isValidator = false) : node.holds resolver = false := by
  rw [isValidator, Option.isSome_eq_false_iff, Option.isNone_iff_eq_none] at none
  rw [holds, none, Option.any_none]

theorem BelowValidators.bind (below : node.BelowValidators) (resolver : Resolver) :
    (node.bind resolver).BelowValidators := by
  induction below with
  | @validator node own => exact .validator ((node.isValidator_bind resolver).trans own)
  | @parts node plain _ ih =>
      cases own : node.isValidator with
      | true => exact .validator ((node.isValidator_bind resolver).trans own)
      | false =>
          refine .parts ((node.consults_bind resolver).trans plain) fun child member => ?_
          rw [children_bind_of_free (holds_of_not_validator own)] at member
          obtain ⟨old, oldMember, rfl⟩ := List.mem_map.mp member
          exact ih old oldMember

end Node

/-! ### What is seen -/

namespace Visit

/-- The resolver in the context that a visit hands to a test, to a leaf or to a bridge. -/
def consulted? : Visit → Option (Option Resolver)
  | ⟨.rule (.contextual _), _, context⟩ => some context.resolver
  | ⟨.rule (.predicate _), _, context⟩ => some context.resolver
  | visit => visit.inquiry?.map fun inquiry => inquiry.request.resolver

theorem resolver_of_inquiry {visit : Visit} {inquiry : Inquiry}
    (asked : visit.inquiry? = some inquiry) :
    visit.node.consults = true ∧ inquiry.request.resolver = visit.inside.resolver := by
  obtain ⟨node, value, context⟩ := visit
  cases node with
  | rule | entry => cases asked
  | property held =>
      obtain ⟨bridge, _, rfl⟩ := Option.map_eq_some_iff.mp asked
      exact ⟨rfl, rfl⟩
  | object rules =>
      simp only [inquiry?] at asked
      split at asked
      · obtain ⟨bridge, _, rfl⟩ := Option.map_eq_some_iff.mp asked
        exact ⟨rfl, rfl⟩
      · cases asked

/-- Whatever a visit consults sees the resolver that the visits right below would see. -/
theorem consulted?_eq {visit : Visit} {seen : Option Resolver}
    (consulted : visit.consulted? = some seen) :
    visit.node.consults = true ∧ seen = visit.inside.resolver := by
  have asks (elsewhere : visit.consulted? =
      visit.inquiry?.map fun inquiry => inquiry.request.resolver) :
      visit.node.consults = true ∧ seen = visit.inside.resolver := by
    obtain ⟨inquiry, asked, rfl⟩ := Option.map_eq_some_iff.mp (elsewhere.symm.trans consulted)
    exact resolver_of_inquiry asked
  obtain ⟨node, value, context⟩ := visit
  cases node with
  | entry | property | object => exact asks rfl
  | rule held =>
      cases held with
      | contextual | predicate => exact ⟨rfl, (Option.some.inj consulted).symm⟩
      | _ => exact asks rfl

theorem resolver?_eq (visit : Visit) : visit.resolver? = visit.node.validatorSlot?.join := by
  obtain ⟨node, value, context⟩ := visit
  cases node with
  | entry | property | object => rfl
  | rule held => cases held <;> rfl

/-- Among visits of nodes of which all validators hold the resolver, the nearest that sets any sets
this one. -/
theorem nearest_bound {visits : List Visit}
    (bound : ∀ visit ∈ visits, visit.node.BoundIfValidator resolver) :
    if visits.any (·.node.isValidator) then
      resolver.isBoundIn (visits.findSome? resolver?) = true
    else visits.findSome? resolver? = none := by
  induction visits with
  | nil => rfl
  | cons visit rest ih =>
      obtain ⟨here, further⟩ := List.forall_mem_cons.mp bound
      rw [List.any_cons, List.findSome?_cons, visit.resolver?_eq, Node.isValidator]
      cases own : visit.node.validatorSlot? with
      | none => exact ih further
      | some slot =>
          have bound := here slot own
          obtain ⟨held, rfl, _⟩ := Resolver.isBoundIn_iff.mp bound
          exact bound

namespace Passage

variable {root visit : Visit} {passed : List Visit}

/-- If whatever looks for a resolver stands at or below a validator, then one has been passed on the
way from the root, or this holds of what lies ahead still. -/
theorem passed_validator (passage : Passage root passed visit)
    (within : root.node.BelowValidators) :
    passed.any (·.node.isValidator) = true ∨ visit.node.BelowValidators := by
  induction passage with
  | root => exact .inr within
  | @branch passed before branch _ member ih =>
      rw [List.any_cons, Bool.or_eq_true]
      rcases ih with further | ahead
      · exact .inl (.inr further)
      · cases ahead with
        | validator own => exact .inl (.inl own)
        | parts _ below => exact .inr (below _ (of_mem_branches member).1)

theorem resolver_inside (passage : Passage root passed visit) :
    visit.inside.resolver = ((visit :: passed).findSome? resolver?).or root.context.resolver := by
  rw [← visit.enter_context, resolver_enter, List.findSome?_cons,
    passage.nearest Context.resolver resolver? resolver_enter]
  cases visit.resolver? <;> rfl

end Passage

end Visit

namespace Node

/-- Where a bound resolver is seen. Binding reaches all validators if and only if those that held
the resolver before had handed it on. Then every test, leaf and bridge that is handed the context at
or below a validator of a value or of an object sees the resolver, and all others see none. There
are no others if whatever looks for a resolver stands at or below a validator. What an evaluation of
the tree reports is made of what the visits on these ways report themselves. -/
theorem bound_resolver_seen (root : Node) (resolver : Resolver) :
    ((root.bind resolver).Everywhere (BoundIfValidator resolver) ↔
        root.Everywhere (HandsOn resolver)) ∧
      (root.Everywhere (HandsOn resolver) → ∀ value context, context.resolver = none →
        ∀ passed visit, Visit.Passage ⟨root.bind resolver, value, context⟩ passed visit →
          ∀ seen ∈ visit.consulted?,
            (if (visit :: passed).any (·.node.isValidator) then resolver.isBoundIn seen = true
              else seen = none) ∧
            (root.BelowValidators → (visit :: passed).any (·.node.isValidator) = true)) ∧
      ∀ value context passed visit,
        Visit.Passage ⟨root.bind resolver, value, context⟩ passed visit →
          ∀ before ∈ visit :: passed, ∀ sink : Sink,
            (before.node.evaluate before.value before.context sink).sink.failures =
              sink.failures ++
                sink.wanted (before.node.mode.merge (before.own ++ before.arriving)) := by
  refine ⟨everywhere_bound_bind_iff, fun handed value context free passed visit passage seen
    consulted => ?_, fun _ _ _ _ _ before _ => before.evaluate_arriving⟩
  obtain ⟨looks, rfl⟩ := Visit.consulted?_eq consulted
  constructor
  · have bound := passage.preserves (fun visit => visit.node.Everywhere (BoundIfValidator resolver))
      (fun _ everywhere _ member => everywhere.descend (Visit.of_mem_branches member).1)
      (everywhere_bound_bind_iff.mpr handed)
    rw [passage.resolver_inside, free, Option.or_none]
    exact Visit.nearest_bound fun before member => (bound before member).here
  · -- A visit that consults something is at a validator itself, if none has been passed.
    intro within
    rw [List.any_cons, Bool.or_eq_true]
    rcases passage.passed_validator (within.bind resolver) with before | ahead
    · exact .inr before
    · cases ahead with
      | validator own => exact .inl own
      | parts plain _ => exact absurd (plain.symm.trans looks) nofun

def sees (resolver : Resolver) : ContextTest := fun _ context =>
  pure (resolver.isBoundIn context.resolver)

def clock : Resolver := ⟨1, fun _ => none⟩

def calendar : Resolver := ⟨2, fun _ => none⟩

def dated (own : Option Resolver) : PropertyRules :=
  ⟨"Date", none, none, pure,
    { ValueRules.empty with
      general := [Visit.plainEntry (.predicate (sees clock))]
      resolver := own }, none, true⟩

/-- The object of the property is a child, and holds a resolver too. -/
def event (child own : Option Resolver) : ObjectRules :=
  { ObjectRules.empty (.record "Event") with
    child := some { ObjectRules.empty (.record "Event") with
      properties := [dated own], resolver := child } }

/-- The clock takes the place of the calendar at all depths. -/
theorem clock_seen_for_calendar : ∃ passed scope,
    Visit.Passage
        ⟨(object (event (some calendar) (some calendar))).bind clock, .absent .string, .empty⟩
        passed ⟨.rule (.predicate (sees clock)), .absent .string, scope⟩ ∧
      clock.isBoundIn scope.resolver = true ∧
      ((rule (.predicate (sees clock))).evaluate (.absent .string) scope
        .collectAll).sink.failures = [] := by
  have start : Visit.Passage
      ⟨(object (event (some calendar) (some calendar))).bind clock, .absent .string, .empty⟩ _ _ :=
    .root
  have inChild := (start.only rfl).only rfl
  have inRules := (inChild.only rfl).only rfl
  have inTest : Visit.Passage _ _ ⟨.rule (.predicate (sees clock)), .absent .string, _⟩ :=
    inRules.only rfl
  -- No validator holds the clock yet, so there is nothing to hand on.
  have free {node : Node} (none : node.holds clock = false) : node.HandsOn clock :=
    fun holds => absurd (none.symm.trans holds) nofun
  have test : (rule (.predicate (sees clock))).Everywhere (HandsOn clock) := .intro (free rfl) nofun
  have tagged : (entry (Visit.plainEntry (.predicate (sees clock)))).Everywhere (HandsOn clock) :=
    test.single rfl (free rfl)
  have date : (property (dated (some calendar))).Everywhere (HandsOn clock) :=
    .single (tagged.single rfl (free rfl)) rfl (free rfl)
  have handed : (object (event (some calendar) (some calendar))).Everywhere (HandsOn clock) :=
    .single (date.single rfl (free rfl)) rfl (free rfl)
  have ⟨_, sees, evaluated⟩ := bound_resolver_seen
    (object (event (some calendar) (some calendar))) clock
  have ⟨seen, _⟩ := sees handed _ _ rfl _ _ inTest _ rfl
  have accepted := evaluated _ _ _ _ inTest _ List.mem_cons_self Sink.collectAll
  exact ⟨_, _, inTest, seen, accepted.trans rfl⟩

/-- The clock is not seen where there is no validator to hold it, nor below a validator that held it
before and has not handed it on. -/
theorem clock_missed :
    ((rule ((Rule.composite ⟨[.predicate (sees clock)], .all⟩).bind clock)).accepts
        (.absent .string) .empty).value = false ∧
      (((object (event (some clock) (some calendar))).bind clock).accepts
        (.absent .string) .empty).value = false := by
  decide

end Node

end RuleTree
