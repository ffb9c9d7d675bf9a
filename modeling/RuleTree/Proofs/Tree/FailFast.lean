import RuleTree.Proofs.Tree.FirstFailure
import RuleTree.Proofs.Tree.Variation

/-!
Fail-fast in place of all. If some nodes of a tree stop at their first failure where they went on to
report all of them, failures are lost but no verdict is. What is left of a report are some of its
failures in their order, its first failure among them.
-/

set_option autoImplicit false

namespace RuleTree

/-- Some items of a list in their order, with the first one if there is one. -/
structure SublistWithHead {α : Type} (short full : List α) : Prop where
  sublist : short.Sublist full
  head : short.head? = full.head?

namespace SublistWithHead

variable {α β : Type}

theorem refl (items : List α) : SublistWithHead items items := ⟨.refl items, rfl⟩

theorem eq_nil_iff {short full : List α} (shorter : SublistWithHead short full) :
    short = [] ↔ full = [] := by
  rw [← List.head?_eq_none_iff, shorter.head, List.head?_eq_none_iff]

theorem map (edit : α → β) {short full : List α} (shorter : SublistWithHead short full) :
    SublistWithHead (short.map edit) (full.map edit) :=
  ⟨shorter.sublist.map edit, by rw [List.head?_map, List.head?_map, shorter.head]⟩

theorem append {short full shortRest fullRest : List α} (shorter : SublistWithHead short full)
    (rest : SublistWithHead shortRest fullRest) :
    SublistWithHead (short ++ shortRest) (full ++ fullRest) :=
  ⟨shorter.sublist.append rest.sublist, by
    rw [List.head?_append, List.head?_append, shorter.head, rest.head]⟩

theorem take_one {short full : List α} (shorter : SublistWithHead short full) :
    SublistWithHead (short.take 1) full :=
  ⟨(short.take_sublist 1).trans shorter.sublist, by rw [List.head?_take]; exact shorter.head⟩

theorem flatten {shorts fulls : List (List α)} (pairs : List.Forall₂ SublistWithHead shorts fulls) :
    SublistWithHead shorts.flatten fulls.flatten := by
  induction pairs with
  | nil => exact refl []
  | cons head _ ih => exact head.append ih

theorem any_isEmpty {shorts fulls : List (List α)}
    (pairs : List.Forall₂ SublistWithHead shorts fulls) :
    shorts.any List.isEmpty = fulls.any List.isEmpty := by
  induction pairs with
  | nil => rfl
  | @cons short full _ _ head _ ih =>
      have empty : short.isEmpty = full.isEmpty := by
        rw [Bool.eq_iff_iff, List.isEmpty_iff, List.isEmpty_iff, head.eq_nil_iff]
      rw [List.any_cons, List.any_cons, empty, ih]

end SublistWithHead

/-- The other mode is the mode itself, or fail-fast where the mode is all. -/
def Mode.EqOrFailFast (mode other : Mode) : Prop := other = mode ∨ mode = .all ∧ other = .failFast

/-- If of each report some failures are left with the first one, then so it is of the whole, in
every mode. -/
theorem Mode.EqOrFailFast.merge {α : Type} {mode other : Mode} (change : mode.EqOrFailFast other)
    {shorts fulls : List (List α)} (pairs : List.Forall₂ SublistWithHead shorts fulls) :
    SublistWithHead (other.merge shorts) (mode.merge fulls) := by
  have flattened := SublistWithHead.flatten pairs
  rcases change with rfl | ⟨rfl, rfl⟩
  · cases other with
    | all => exact flattened
    | failFast =>
        have first : shorts.flatten.take 1 = fulls.flatten.take 1 := by
          rw [List.take_one, List.take_one, flattened.head]
        rw [Mode.merge, Mode.merge, first]
        exact .refl _
    | any =>
        -- Of a report with failures the first one is left, so the same steps accept.
        simp only [Mode.merge, SublistWithHead.any_isEmpty pairs]
        split
        · exact .refl []
        · exact flattened
  · exact flattened.take_one

/-- The variation of modes from all to fail-fast, at any nodes. All else is equal. -/
def Variation.allToFailFast : Variation where
  mode := Mode.EqOrFailFast
  bridge := (· = ·)
  context := (· = ·)
  ruleSets same := congrArg _ same.symm
  retitle _ same := congrArg _ same.symm
  scope same := congrArg _ same
  property _ same := congrArg _ same
  value _ same := congrArg _ same
  object rules _ _ bridges same := by
    rw [← bridges, same]
    rfl

open Variation (allToFailFast)

theorem Visit.own_failFast {visit other : Visit} (varies : visit.Varies allToFailFast other) :
    other.own = visit.own := by
  obtain ⟨node, subject, context⟩ := visit
  obtain ⟨changed, seen, changedContext⟩ := other
  obtain ⟨nodes, same, contexts⟩ := varies
  dsimp only at nodes same contexts
  obtain rfl : context = changedContext := contexts
  subst seen
  cases nodes with
  | leaf | contextual | presence | predicate | composite | conditional | value | elements | nested
    | entry | property => rfl
  | @object rules properties child mode bridge _ bridges declared _ =>
      obtain rfl : rules.bridge = bridge := bridges
      have asked := ObjectRules.requestFor_varies declared (rules.contextFor subject context)
      have same : ({ rules with properties, child, mode } : ObjectRules).annotations subject
          (rules.contextFor subject context) =
            rules.annotations subject (rules.contextFor subject context) := by
        unfold ObjectRules.annotations
        rw [← asked]
        rfl
      exact congrArg (fun reports => if rules.accepts subject then reports else []) same

namespace Node

/-- With fail-fast instead of all at any of its nodes, a tree reports some of its failures in their
order, the first one among them. -/
theorem report_failFast {node other : Node} (varies : node.Varies allToFailFast other)
    (value : Value) (context : Context) :
    SublistWithHead (other.report value context) (node.report value context) := by
  have alike : Visit.Varies allToFailFast ⟨node, value, context⟩ ⟨other, value, context⟩ :=
    ⟨varies, rfl, rfl⟩
  refine Visit.Varies.report (fun full short => SublistWithHead short full)
    (fun edit full short shorter => shorter.map edit) ?_ alike
  intro left right _ pair pairs
  have plain : Mode.EqOrFailFast .all .all := .inl rfl
  have modes : left.node.mode.EqOrFailFast right.node.mode := pair.node.mode plain
  have own : List.Forall₂ SublistWithHead left.own left.own :=
    List.forall₂_same.mpr fun report _ => .refl report
  rw [left.report_eq, right.report_eq, Visit.own_failFast pair]
  exact modes.merge (List.rel_append own pairs.flip)

/-- Fail-fast instead of all, at any nodes of a tree, loses failures but no verdict: what is left are
some of the failures in their order, none if and only if there was none, and the same first one. -/
theorem failures_failFast {node other : Node} (varies : node.Varies allToFailFast other)
    (value : Value) (context : Context) :
    ((other.failures? value context).value.getD []).Sublist
        ((node.failures? value context).value.getD []) ∧
      ((other.failures? value context).value = none ↔
        (node.failures? value context).value = none) ∧
      (other.failures? value context).value.bind List.head? =
        (node.failures? value context).value.bind List.head? ∧
      (other.accepts value context).value = (node.accepts value context).value ∧
      (other.require value context).value = (node.require value context).value := by
  have shorter := report_failFast varies value context
  have none_iff : (other.failures? value context).value = none ↔
      (node.failures? value context).value = none := by
    rw [failures?_eq_none_iff, failures?_eq_none_iff, shorter.eq_nil_iff]
  have heads : (other.failures? value context).value.bind List.head? =
      (node.failures? value context).value.bind List.head? := by
    rw [failures?_head?, failures?_head?, shorter.head]
  refine ⟨?_, none_iff, heads, ?_, ?_⟩
  · rw [failures?_getD, failures?_getD]
    exact shorter.sublist
  · rw [Bool.eq_iff_iff, accepts_iff, accepts_iff, none_iff]
  · rw [require_value, require_value, heads]

/-- Two demands on a value, under a mode. -/
def demandTwice (mode : Mode) : ValueRules :=
  { ValueRules.empty with
    presence := [⟨.presence, none, none, false⟩]
    general := [⟨.predicate fun _ _ => pure false, none, none, false⟩]
    mode }

/-- An object with a property of two demands. -/
def demandedTwice (mode : Mode) : Node :=
  .object { ObjectRules.empty (.optional .string) with
    properties := [⟨"Name", none, none, pure, demandTwice mode, none, true⟩] }

/-- One of the two failed demands is left. -/
theorem failures_demandedTwice_failFast :
    (((demandedTwice .all).failures? (.absent .string) .empty).value.getD []).length = 2 ∧
      (((demandedTwice .failFast).failures? (.absent .string) .empty).value.getD []).length = 1 ∧
      (((demandedTwice .failFast).failures? (.absent .string) .empty).value.getD []).Sublist
        (((demandedTwice .all).failures? (.absent .string) .empty).value.getD []) ∧
      ((demandedTwice .failFast).accepts (.absent .string) .empty).value =
        ((demandedTwice .all).accepts (.absent .string) .empty).value := by
  have unchanged (mode : Mode) : mode.EqOrFailFast mode := .inl rfl
  have same (node : Node) : node.Varies allToFailFast node := .refl unchanged (fun _ => rfl) node
  have demands : (rule (.value (demandTwice .all))).Varies allToFailFast
      (.rule (.value (demandTwice .failFast))) :=
    .value (.inr ⟨rfl, rfl⟩) (.cons (same _) .nil) (.cons (same _) .nil) .nil
  have varies : (demandedTwice .all).Varies allToFailFast (demandedTwice .failFast) :=
    .object (.inl rfl) rfl (.cons (.property demands) .nil) .nil
  have ⟨sublist, _, _, accepts, _⟩ := failures_failFast varies (.absent .string) .empty
  exact ⟨by decide, by decide, sublist, accepts⟩

end Node

end RuleTree
