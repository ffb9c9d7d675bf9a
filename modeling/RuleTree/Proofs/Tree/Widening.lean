import RuleTree.Proofs.Tree.Comparison

/-!
Wider selectors. Whatever a selector lets pass, a selector with more names lets pass too. In a tree
that never stops early, what passes only adds failures, so a request for more rule sets hides none.
-/

set_option autoImplicit false

namespace RuleTree

namespace RuleSets

theorem Matches.widened {sets wider tag : RuleSets} (within : sets.names ⊆ wider.names)
    (matched : sets.Matches tag) : wider.Matches tag := by
  rcases matched with all | ⟨name, tagged, requested⟩
  · exact .inl (within all)
  · exact .inr ⟨name, tagged, within requested⟩

theorem LeavesOut.narrowed {selector tag : Option RuleSets} {wider : RuleSets}
    (within : ∀ sets ∈ selector, sets.names ⊆ wider.names) (leavesOut : LeavesOut (some wider) tag) :
    LeavesOut selector tag := by
  obtain ⟨list, member, plain, unmatched⟩ := leavesOut
  refine ⟨list, member, plain, ?_⟩
  rintro ⟨sets, requested, matched⟩
  exact unmatched ⟨wider, rfl, matched.widened (within sets requested)⟩

theorem isActive_widened {selector : Option RuleSets} {wider : RuleSets}
    (within : ∀ sets ∈ selector, sets.names ⊆ wider.names) {tag : Option RuleSets}
    (active : isActive tag selector = true) : isActive tag (some wider) = true := by
  cases passes : isActive tag (some wider) with
  | true => rfl
  | false =>
      have leavesOut := ((isActive_eq_false_iff tag _).mp passes).narrowed within
      rw [(isActive_eq_false_iff tag selector).mpr leavesOut] at active
      cases active

theorem isEmpty_widened {sets wider : RuleSets} (nonempty : sets.isEmpty = false)
    (within : sets.names ⊆ wider.names) : wider.isEmpty = false := by
  obtain ⟨name, member⟩ := List.isEmpty_eq_false_iff_exists_mem.mp nonempty
  exact List.isEmpty_eq_false_iff_exists_mem.mpr ⟨name, within member⟩

end RuleSets

/-- More items, each with more to it, make more in all. -/
theorem sublist_flatten_filter {α β : Type} {items : List α} {taken takenOther : α → Bool}
    {first second : α → List β} (chosen : ∀ item ∈ items, taken item = true → takenOther item = true)
    (included : ∀ item ∈ items, (first item).Sublist (second item)) :
    ((items.filter taken).map first).flatten.Sublist
      ((items.filter takenOther).map second).flatten := by
  induction items with
  | nil => exact .slnil
  | cons item rest ih =>
      have tail := ih (fun other member => chosen other (List.mem_cons_of_mem _ member))
        fun other member => included other (List.mem_cons_of_mem _ member)
      rw [List.filter_cons, List.filter_cons]
      by_cases active : taken item = true
      · rw [if_pos active, if_pos (chosen item List.mem_cons_self active)]
        exact (included item List.mem_cons_self).append tail
      · rw [if_neg active]
        split
        · exact tail.trans (List.sublist_append_right _ _)
        · exact tail

/-- The failures under the first selector are some of those under the second, in their order. -/
def Comparison.inclusion : Comparison where
  fits := List.Sublist
  mode runs := runs = .all
  chosen taken takenOther := taken = true → takenOther = true
  asked _ := False
  unchanged _ := id
  ignores := False.elim
  agrees := False.elim
  edited edit _ _ included := included.map edit
  merged own _ _ _ _ _ _ exhaustive chosen included := by
    subst exhaustive
    simp only [Mode.merge, List.flatten_append]
    exact (List.Sublist.refl _).append (sublist_flatten_filter chosen included)

namespace Context

/-- A request for a list of sets takes the place of any other request. -/
theorem exchanges_withRuleSets {context : Context} {selector : Option RuleSets} {sets : RuleSets}
    {asked : AnnotationBridge → Prop} (bridge : ∀ bridge ∈ context.activeBridge, asked bridge)
    (requested : RuleSets.NotEmpty selector) (listed : sets.isEmpty = false)
    (noDefault : selector = none → RuleSets.nonEmpty? context.defaultRuleSets = none) :
    (context.withRuleSets selector).Exchanges asked selector sets
      (context.withRuleSets (some sets)) where
  surroundings := rfl
  ambient := rfl
  bridge := bridge
  requested := RuleSets.notEmpty_nonEmpty? selector
  listed := RuleSets.notEmpty_nonEmpty? (some sets)
  ruleSets := .inr ⟨requested.nonEmpty?_eq, RuleSets.nonEmpty?_some listed⟩
  noDefault := noDefault

end Context

namespace Node

/-- The node runs all that is selected, has no bridge and does not read the selector. -/
structure Exhaustive (node : Node) : Prop where
  mode : node.mode = .all
  bridgeless : node.AsksOnly fun _ => False
  ignores : node.IgnoresRequest

theorem Exhaustive.compared {node : Node} (exhaustive : node.Exhaustive)
    {selector : Option RuleSets} {wider : RuleSets}
    (within : ∀ sets ∈ selector, sets.names ⊆ wider.names)
    (noDefault : selector = none → node.NoDefault) :
    node.Compared .inclusion selector wider where
  mode := exhaustive.mode
  chosen := RuleSets.isActive_widened within
  ignores := exhaustive.ignores
  bridge := exhaustive.bridgeless
  noDefault := noDefault

section

variable {node : Node} (exhaustive : node.Everywhere Exhaustive) (value : Value) {context : Context}
  (silent : context.activeBridge = none)

include exhaustive silent

theorem report_widened {sets wider : RuleSets} (nonempty : sets.isEmpty = false)
    (within : sets.names ⊆ wider.names) :
    (node.report value (context.withRuleSets (some sets))).Sublist
      (node.report value (context.withRuleSets (some wider))) := by
  have requested := RuleSets.notEmpty_some nonempty
  have listed := RuleSets.isEmpty_widened nonempty within
  have compared : node.Everywhere (Compared .inclusion (some sets) wider) := exhaustive.imp
    fun part exhaustive => exhaustive.compared (by rintro list ⟨⟩; exact within) nofun
  exact report_compared requested listed compared value
    (Context.exchanges_withRuleSets (by simp [silent]) requested listed nofun)

theorem report_requested {wider : RuleSets} (listed : wider.isEmpty = false)
    (noDefault : node.Everywhere NoDefault)
    (ambient : RuleSets.nonEmpty? context.defaultRuleSets = none) :
    (node.report value (context.withRuleSets none)).Sublist
      (node.report value (context.withRuleSets (some wider))) := by
  have compared : node.Everywhere (Compared .inclusion none wider) :=
    (exhaustive.and noDefault).imp fun part holds => holds.1.compared nofun fun _ => holds.2
  exact report_compared RuleSets.notEmpty_none listed compared value
    (Context.exchanges_withRuleSets (by simp [silent]) RuleSets.notEmpty_none listed fun _ => ambient)

/-- A request for more rule sets hides no failure: what is reported under a selector is reported, in
the same order, under each selector that has its names, and where there is no default selector, what
is reported without a request is reported under each one. The order of the names is of no
consequence. -/
theorem failures_widen :
    (∀ sets wider : RuleSets, sets.isEmpty = false → sets.names ⊆ wider.names →
      ((node.failures? value (context.withRuleSets (some sets))).value.getD []).Sublist
        ((node.failures? value (context.withRuleSets (some wider))).value.getD [])) ∧
    (node.Everywhere NoDefault → RuleSets.nonEmpty? context.defaultRuleSets = none →
      ∀ wider : RuleSets, wider.isEmpty = false →
        ((node.failures? value (context.withRuleSets none)).value.getD []).Sublist
          ((node.failures? value (context.withRuleSets (some wider))).value.getD [])) ∧
    ∀ sets other : RuleSets, sets.isEmpty = false →
      (∀ name, name ∈ sets.names ↔ name ∈ other.names) →
        (node.failures? value (context.withRuleSets (some sets))).value =
          (node.failures? value (context.withRuleSets (some other))).value := by
  refine ⟨fun sets wider nonempty within => ?_, fun noDefault ambient wider listed => ?_,
    fun sets other nonempty same => ?_⟩
  · rw [failures?_getD, failures?_getD]
    exact report_widened exhaustive value silent nonempty within
  · rw [failures?_getD, failures?_getD]
    exact report_requested exhaustive value silent listed noDefault ambient
  · have within : sets.names ⊆ other.names := fun name => (same name).mp
    have listed := RuleSets.isEmpty_widened nonempty within
    have forth := report_widened exhaustive value silent nonempty within
    have back := report_widened exhaustive value silent listed fun name => (same name).mpr
    rw [failures?_value, failures?_value, forth.eq_of_length_le back.length_le]

end

/-- An object with two properties: one with a demand in the set "strict" and one in the set "plain",
and one of the set "plain" that has inherited the set "strict". -/
def gradedDemands : Node :=
  .object { ObjectRules.empty (.optional .string) with
    properties := [
      ⟨"Name", none, none, pure, strictOrPlain, none, true⟩,
      ⟨"Code", none, none, pure, { strictOrPlain with inherited := some ⟨["strict"]⟩ },
        some ⟨["plain"]⟩, true⟩] }

theorem strictOrPlain_exhaustive (inherited : Option RuleSets) :
    (rule (.value { strictOrPlain with inherited })).Everywhere
      fun node => node.Exhaustive ∧ node.NoDefault := by
  refine .intro ⟨⟨rfl, trivial, trivial⟩, trivial⟩ fun child member => ?_
  rcases List.mem_cons.mp member with rfl | later
  · refine .intro ⟨⟨rfl, trivial, trivial⟩, trivial⟩ fun content contentMember => ?_
    rw [List.mem_singleton.mp contentMember]
    exact .intro ⟨⟨rfl, trivial, trivial⟩, trivial⟩ nofun
  · rw [List.mem_singleton.mp later]
    refine .intro ⟨⟨rfl, trivial, trivial⟩, trivial⟩ fun content contentMember => ?_
    rw [List.mem_singleton.mp contentMember]
    refine .intro ⟨⟨rfl, trivial, fun value context other alike _ => ?_⟩, trivial⟩ nofun
    exact congrArg (fun shown : Surroundings => (shown.item? "item").isSome) alike

theorem gradedDemands_exhaustive :
    gradedDemands.Everywhere fun node => node.Exhaustive ∧ node.NoDefault := by
  refine .intro ⟨⟨rfl, nofun, trivial⟩, rfl⟩ fun child member => ?_
  rcases List.mem_cons.mp member with rfl | later
  · exact (strictOrPlain_exhaustive none).single rfl ⟨⟨rfl, trivial, trivial⟩, trivial⟩
  · rw [List.mem_singleton.mp later]
    exact (strictOrPlain_exhaustive (some ⟨["strict"]⟩)).single rfl
      ⟨⟨rfl, trivial, trivial⟩, trivial⟩

/-- Nothing is reported without a request, one failure on a request for the one set, and three on a
request for both, in either order. -/
theorem failures_gradedDemands_widen :
    let reported (selector : Option RuleSets) : Report :=
      ((gradedDemands.failures? (.absent .string) (Context.empty.withRuleSets selector)).value).getD []
    [(reported none).length, (reported (some ⟨["strict"]⟩)).length,
        (reported (some ⟨["plain", "strict"]⟩)).length] = [0, 1, 3] ∧
      (reported none).Sublist (reported (some ⟨["strict"]⟩)) ∧
      (reported (some ⟨["strict"]⟩)).Sublist (reported (some ⟨["plain", "strict"]⟩)) ∧
      (gradedDemands.failures? (.absent .string)
          (Context.empty.withRuleSets (some ⟨["plain", "strict"]⟩))).value =
        (gradedDemands.failures? (.absent .string)
          (Context.empty.withRuleSets (some ⟨["strict", "plain"]⟩))).value := by
  have exhaustive := gradedDemands_exhaustive.imp fun _ holds => holds.1
  have noDefault := gradedDemands_exhaustive.imp fun _ holds => holds.2
  have ⟨wider, requested, reordered⟩ :=
    @failures_widen gradedDemands exhaustive (.absent .string) .empty rfl
  exact ⟨by decide, requested noDefault rfl _ rfl, wider _ _ rfl (by decide),
    reordered _ _ rfl fun name => by simp [or_comm]⟩

end Node

end RuleTree
