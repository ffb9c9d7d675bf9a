import RuleTree.Proofs.Tree.Handing

/-!
Trees that hold a resolver. Binding a resolver stops at a node that holds it already. A tree in which
whatever a node holds is held by all nodes below it may be bound as if binding went on: all its
slots hold the resolver then.
-/

set_option autoImplicit false

namespace RuleTree

namespace Resolver

theorem isBoundIn_iff {resolver : Resolver} {slot : Option Resolver} :
    resolver.isBoundIn slot = true ↔
      ∃ held, slot = some held ∧ held.identity = resolver.identity := by
  cases slot <;> simp [isBoundIn]

theorem isBoundIn_congr {first second : Resolver} (same : first.identity = second.identity)
    (slot : Option Resolver) : first.isBoundIn slot = second.isBoundIn slot := by
  cases slot with
  | none => rfl
  | some held => rw [isBoundIn, isBoundIn, same]

end Resolver

namespace Node

/-- The slot of a node, if it has one, holds a resolver. -/
def BoundTo (resolver : Resolver) (node : Node) : Prop :=
  ∀ slot ∈ node.slot?, resolver.isBoundIn slot = true

/-- What a node holds is held by all nodes below it. -/
def Sealed (node : Node) : Prop :=
  ∀ held, node.slot? = some (some held) → node.Everywhere (BoundTo held)

variable {node : Node} {resolver other : Resolver}

theorem BoundTo.of_same (bound : node.BoundTo resolver)
    (same : resolver.identity = other.identity) : node.BoundTo other := by
  intro slot present
  obtain ⟨held, rfl, identity⟩ := Resolver.isBoundIn_iff.mp (bound slot present)
  exact Resolver.isBoundIn_iff.mpr ⟨held, rfl, identity.trans same⟩

theorem boundTo_of_slotless (slotless : node.slot? = none) : node.BoundTo resolver := by
  intro slot present
  rw [slotless] at present
  exact absurd present nofun

theorem sealed_of_slotless (slotless : node.slot? = none) : node.Sealed := by
  intro held present
  rw [slotless] at present
  exact absurd present nofun

theorem boundTo_bind (node : Node) (resolver : Resolver) : (node.bind resolver).BoundTo resolver := by
  intro slot present
  cases node with
  | entry | property => exact absurd present nofun
  | object rules =>
      cases present
      exact rules.isBoundIn_bind resolver
  | rule held =>
      cases held with
      | value rules =>
          cases present
          exact rules.isBoundIn_bind resolver
      | elements rules =>
          cases present
          rw [ElementRules.bind_eq]
          exact resolver.isBoundIn_self
      | _ => exact absurd present nofun

theorem slot?_inherit (node : Node) (sets : RuleSets) : (node.inherit sets).slot? = node.slot? := by
  cases node with
  | entry | property => rfl
  | object rules =>
      simp only [inherit, slot?]
      rw [rules.inherit_eq]
  | rule held =>
      cases held with
      | value rules =>
          simp only [inherit, Rule.inherit, slot?]
          rw [rules.inherit_eq]
      | elements rules =>
          simp only [inherit, Rule.inherit, slot?]
          rw [rules.inherit_eq]
      | _ => rfl

theorem BoundTo.inherit (bound : node.BoundTo resolver) (sets : RuleSets) :
    (node.inherit sets).BoundTo resolver := by
  rwa [BoundTo, slot?_inherit]

theorem Sealed.inherit (closed : node.Sealed) (sets : RuleSets) : (node.inherit sets).Sealed := by
  intro held present
  rw [slot?_inherit] at present
  exact (closed held present).inherit fun _ bound => bound.inherit sets

namespace Everywhere

theorem of_same (everywhere : node.Everywhere (BoundTo resolver))
    (same : resolver.identity = other.identity) : node.Everywhere (BoundTo other) :=
  everywhere.imp fun _ bound => bound.of_same same

/-- A tree all of whose slots hold one resolver is sealed at each node. -/
theorem sealed (everywhere : node.Everywhere (BoundTo resolver)) : node.Everywhere Sealed := by
  induction everywhere with
  | @intro node here below ih =>
      refine .intro (fun held present => ?_) ih
      obtain ⟨bound, same, identity⟩ := Resolver.isBoundIn_iff.mp (here (some held) present)
      cases same
      have whole : node.Everywhere (BoundTo resolver) := .intro here below
      exact whole.of_same identity.symm

/-- In a sealed tree nothing is missed where binding stops. -/
theorem bound (everywhere : node.Everywhere Sealed) (resolver : Resolver) :
    (node.bind resolver).Everywhere (BoundTo resolver) := by
  induction everywhere with
  | @intro node here _ ih =>
      rcases node.bind_cases resolver with ⟨⟨slot, present, bound⟩, same⟩ | handed
      · -- Binding stops here, and what is below holds the resolver as the node is sealed.
        obtain ⟨held, rfl, identity⟩ := Resolver.isBoundIn_iff.mp bound
        rw [same]
        exact (here held present).of_same identity
      · refine .intro (node.boundTo_bind resolver) fun child member => ?_
        rw [handed] at member
        obtain ⟨old, oldMember, rfl⟩ := List.mem_map.mp member
        exact ih old oldMember

end Everywhere

/-- A tree is sealed if the trees below it are and hold what its root holds. -/
theorem everywhere_sealed_iff : node.Everywhere Sealed ↔
    ∀ child ∈ node.children, child.Everywhere Sealed ∧
      ∀ held, node.slot? = some (some held) → child.Everywhere (BoundTo held) := by
  constructor
  · intro everywhere child member
    exact ⟨everywhere.descend member, fun held present =>
      (everywhere.here held present).descend member⟩
  · intro below
    refine .intro (fun held present => .intro ?_ fun child member => (below child member).2 held present)
      fun child member => (below child member).1
    intro slot own
    rw [present] at own
    cases own
    exact held.isBoundIn_self

/-- The tree is sealed, and holds what a slot above it holds. -/
def SealedUnder (slot : Option Resolver) (node : Node) : Prop :=
  node.Everywhere Sealed ∧ ∀ held ∈ slot, node.Everywhere (BoundTo held)

theorem sealedUnder_none : node.SealedUnder none ↔ node.Everywhere Sealed :=
  and_iff_left nofun

/-- A node with a slot is sealed if all below it is sealed under the slot. -/
theorem sealedUnder_none_iff {slot : Option Resolver} (own : node.slot? = some slot) :
    node.SealedUnder none ↔ ∀ child ∈ node.children, child.SealedUnder slot := by
  rw [sealedUnder_none, everywhere_sealed_iff]
  simp only [own, Option.some.injEq, SealedUnder, Option.mem_def]

theorem sealedUnder_of_single {child : Node} {slot : Option Resolver}
    (slotless : node.slot? = none) (single : node.children = [child]) :
    node.SealedUnder slot ↔ child.SealedUnder slot := by
  have same {condition : Node → Prop} (here : condition node) :
      node.Everywhere condition ↔ child.Everywhere condition := by
    rw [everywhere_iff, and_iff_right here, single, List.forall_mem_singleton]
  unfold SealedUnder
  rw [same (sealed_of_slotless slotless)]
  simp only [same (boundTo_of_slotless slotless)]

/-- A sealed tree with the slot of another one may take its place. -/
theorem SealedUnder.within {changed : Node} {slot own : Option Resolver}
    (under : node.SealedUnder slot) (here : node.slot? = some own) (there : changed.slot? = some own)
    (whole : changed.SealedUnder none) : changed.SealedUnder slot := by
  refine ⟨whole.1, fun held present => ?_⟩
  obtain ⟨kept, rfl, identity⟩ := Resolver.isBoundIn_iff.mp ((under.2 held present).here own here)
  exact (whole.1.here kept there).of_same identity

theorem SealedUnder.bind (whole : node.SealedUnder none) (resolver : Resolver) :
    (node.bind resolver).SealedUnder (some resolver) := by
  have bound := whole.1.bound resolver
  refine ⟨bound.sealed, fun held present => ?_⟩
  cases Option.mem_some.mp present
  exact bound

theorem SealedUnder.inherit {slot : Option Resolver} (under : node.SealedUnder slot)
    (sets : RuleSets) : (node.inherit sets).SealedUnder slot :=
  ⟨under.1.inherit fun _ closed => closed.inherit sets,
    fun held present => (under.2 held present).inherit fun _ bound => bound.inherit sets⟩

end Node

end RuleTree
