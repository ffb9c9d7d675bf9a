import RuleTree.Proofs.Annotation.Inquiry
import RuleTree.Proofs.Tree.FirstFailure
import RuleTree.Proofs.Tree.Records

/-!
How annotation failures enter a report. Each inquiry of an evaluation is answered for itself, with
the members in mind that the asking validator checks. So a failure that a check returns enters at
most once for each inquiry, and not at all if it is about a member of the one who asks.

An instance about which more than one visit asks is a different matter: a validator knows nothing of
the members of its child, nor a property of those of the object it holds, and each of them enters what
it is answered. Only an instance that one visit is alone with gets its failures at most once.
-/

set_option autoImplicit false

namespace RuleTree

/-- Records of failures that a check returned: each at most once and in order, and none that is
first of all about one of the members. -/
structure EnterOnce (records : List Recorded) (returned : Report) (members : List String) :
    Prop where
  once : (records.map Recorded.found).Sublist returned
  unclaimed : ∀ record ∈ records, ∀ member ∈ members, record.found.member? ≠ some member

namespace Visit

/-! ### One inquiry -/

/-- What a visit makes of a failure that it is answered. -/
def taken : Visit → Failure → Failure
  | ⟨.property held, _, _⟩, failure =>
    (PropertyRules.without held.member failure).below held.member
  | _, failure => failure

variable {pass : Visit} {inquiry : Inquiry} {registry : AnnotationRegistry}

theorem own_of_registry (asked : pass.inquiry? = some inquiry)
    (registered : inquiry.bridge = registry.toBridge) :
    pass.own.flatten = (AnnotationRegistry.kept inquiry.request
      (registry.returned inquiry.subject inquiry.request)).map pass.taken := by
  obtain ⟨node, value, context⟩ := pass
  cases node with
  | rule | entry => cases asked
  | property held =>
      have asked : held.inquiry? (held.read value) (held.scope context) = some inquiry := asked
      simp only [own, held.annotations_eq, asked, Option.elim_some, Inquiry.answer, registered,
        AnnotationRegistry.reported_toBridge List.map_nil, List.flatten_singleton, List.map_map]
      rfl
  | object rules =>
      simp only [inquiry?] at asked
      split at asked
      · rename_i accepted
        simp only [own, accepted, if_true, rules.annotations_eq, asked, Option.toList_some,
          List.map_cons, List.map_nil, List.flatten_singleton, Inquiry.answer, registered,
          AnnotationRegistry.reported_toBridge List.filter_nil, AnnotationRegistry.filter_kept]
        exact (List.map_id _).symm
      · cases asked

/-- The members of the active properties, at an object. -/
def members : Visit → List String
  | ⟨.object rules, value, context⟩ => rules.activeMembers (rules.contextFor value context).ruleSets
  | _ => []

theorem skip_eq_members (asked : pass.inquiry? = some inquiry) :
    inquiry.request.skip = pass.members := by
  obtain ⟨node, value, context⟩ := pass
  cases node with
  | rule | entry => cases asked
  | property held =>
      obtain ⟨bridge, _, rfl⟩ := Option.map_eq_some_iff.mp asked
      rfl
  | object rules =>
      simp only [inquiry?] at asked
      split at asked
      · obtain ⟨bridge, _, rfl⟩ := Option.map_eq_some_iff.mp asked
        rfl
      · cases asked

/-- A failure that a check returns enters at most once for each inquiry, in the order of the check,
and not at all if it is first of all about a member that the asking visit checks itself. -/
theorem enterOnce_of_inquiry {root : Visit} {trail : List Nat}
    (leads : root.follow? trail = some pass) (asked : pass.inquiry? = some inquiry)
    (registered : inquiry.bridge = registry.toBridge) :
    EnterOnce (root.records.filter (·.trail = trail))
      ((registry.returned inquiry.subject inquiry.request).map pass.taken) pass.members := by
  have entered := root.found_sublist trail
  rw [leads, Option.elim_some, own_of_registry asked registered] at entered
  have wanted := AnnotationRegistry.kept_sublist inquiry.request
    (registry.returned inquiry.subject inquiry.request)
  refine ⟨entered.trans ((wanted.trans List.filter_sublist).map _), fun record member => ?_⟩
  have found : record.found ∈ (AnnotationRegistry.kept inquiry.request
      (registry.returned inquiry.subject inquiry.request)).map pass.taken :=
    entered.subset (List.mem_map.mpr ⟨record, member, rfl⟩)
  obtain ⟨failure, kept, same⟩ := List.mem_map.mp found
  have unclaimed := (inquiry.request.wants_iff failure).mp
    (List.mem_filter.mp (wanted.subset kept)).2
  rw [skip_eq_members asked] at unclaimed
  rw [← same]
  obtain ⟨node, value, context⟩ := pass
  cases node with
  | rule | entry => cases asked
  | property held => exact nofun
  | object rules => exact unclaimed

/-! ### One instance -/

/-- A step to a property of an object or to an element of a collection: to another instance. -/
def leaves (visit : Visit) (branch : Branch) : Bool :=
  match visit.node, branch.visit.node with
  | .object _, .property _ => true
  | .rule (.elements _), _ => true
  | _, _ => false

/-- The instance that a trail ends at: the trail up to the last step to another instance. On the rest
of the trail the same instance is handed on. -/
def instanceAt : Visit → List Nat → List Nat
  | _, [] => []
  | visit, position :: rest =>
    visit.branches[position]?.elim [] fun branch =>
      match branch.visit.instanceAt rest with
      | [] => if visit.leaves branch then [position] else []
      | later => position :: later

/-- The visit at the end of a trail is the only one of its instance that is told anything or that is
a visit of an object validator. -/
def Alone (root : Visit) (trail : List Nat) : Prop :=
  ∀ other visit, root.follow? other = some visit →
    root.instanceAt other = root.instanceAt trail →
    (visit.inquiry?.isSome ∧ visit.own.flatten ≠ []) ∨ (∃ rules, visit.node = .object rules) →
      other = trail

/-- The records that inquiries about an instance have left. -/
def recordsAbout (root : Visit) (place : List Nat) : List Recorded :=
  root.records.filter fun record =>
    root.instanceAt record.trail = place ∧
      (root.follow? record.trail).any (·.inquiry?.isSome)

theorem recordsAbout_of_alone {root : Visit} {trail : List Nat} (alone : root.Alone trail)
    (leads : root.follow? trail = some pass) (asks : pass.inquiry?.isSome) :
    root.recordsAbout (root.instanceAt trail) = root.records.filter (·.trail = trail) := by
  apply List.filter_congr
  intro record member
  rw [decide_eq_decide]
  constructor
  · rintro ⟨same, asking⟩
    cases reached : root.follow? record.trail with
    | none => simp [reached] at asking
    | some visit =>
        -- The visit has left a record, so it was told something.
        have found := (root.found_sublist record.trail).subset
          (List.mem_map.mpr ⟨record, List.mem_filter.mpr ⟨member, by simp⟩, rfl⟩)
        rw [reached] at asking found
        exact alone record.trail visit reached same (.inl ⟨asking, List.ne_nil_of_mem found⟩)
  · rintro rfl
    exact ⟨rfl, by simpa [leads] using asks⟩

/-- The records of a report are its failures. Of those that come from one inquiry each is entered at
most once, and none is first of all about a member that the asking visit checks itself. The same
holds of all records about an instance that one object validator is alone with. -/
theorem annotations_enter_once {root : Visit} {trail : List Nat}
    (leads : root.follow? trail = some pass) (asked : pass.inquiry? = some inquiry)
    (registered : inquiry.bridge = registry.toBridge) :
    (root.node.failures? root.value root.context).value.getD [] =
        root.records.map Recorded.shown ∧
      EnterOnce (root.records.filter (·.trail = trail))
        ((registry.returned inquiry.subject inquiry.request).map pass.taken) pass.members ∧
      (root.Alone trail →
        ∀ other visit, root.follow? other = some visit →
          root.instanceAt other = root.instanceAt trail →
          (∃ rules, visit.node = .object rules) →
            EnterOnce (root.recordsAbout (root.instanceAt trail))
              (registry.returned inquiry.subject inquiry.request) visit.members) := by
  have passes := enterOnce_of_inquiry leads asked registered
  refine ⟨?_, passes, fun alone other visit reached same object => ?_⟩
  · rw [shown_records, Node.failures?_getD]
    rfl
  · have asks : pass.inquiry?.isSome := by rw [asked]; rfl
    obtain rfl : other = trail := alone other visit reached same (.inr object)
    obtain rfl : pass = visit := Option.some.inj (leads.symm.trans reached)
    obtain ⟨node, value, context⟩ := pass
    obtain ⟨rules, rfl⟩ := object
    have unchanged : (registry.returned inquiry.subject inquiry.request).map
        (taken ⟨.object rules, value, context⟩) =
          registry.returned inquiry.subject inquiry.request := List.map_id _
    rw [unchanged] at passes
    rw [recordsAbout_of_alone alone leads asks]
    exact passes

/-- An object without a child, at which an evaluation starts, is alone with its instance. -/
theorem alone_of_childless {rules : ObjectRules} (childless : rules.child = none) (value : Value)
    (context : Context) : Alone ⟨.object rules, value, context⟩ [] := by
  rintro (_ | ⟨position, rest⟩) visit reached same _
  · rfl
  · rw [follow?] at reached
    rw [instanceAt, instanceAt] at same
    obtain ⟨branch, found, _⟩ := Option.bind_eq_some_iff.mp reached
    have below := (of_mem_branches (List.mem_of_getElem? found)).1
    simp only [Node.children, childless, Option.toList_none, List.map_nil, List.append_nil]
      at below
    obtain ⟨held, _, property⟩ := List.mem_map.mp below
    rw [found, Option.elim_some] at same
    split at same
    · simp [leaves, ← property] at same
    · cases same

end Visit

/-- A check of texts that finds two members missing. -/
def missingMembers : AnnotationRegistry :=
  ⟨[(.string, fun _ _ => pure
    [Failure.required.withMember "Email", Failure.required.withMember "Name"])]⟩

/-- Rules of an object with such a check and with a property of their own, which is not annotated. -/
def namedRules (child : Option ObjectRules) : ObjectRules :=
  { ObjectRules.empty .string with
    properties := [⟨"Name", none, none, pure, .empty, none, false⟩]
    bridge := some missingMembers.toBridge
    child }

def named (child : Option ObjectRules) : Visit :=
  ⟨.object (namedRules child), .string "", .empty⟩

/-- An object that is alone with its instance gets the one failure that it does not find itself. -/
theorem named_enter_once :
    ((named none).node.failures? (.string "") .empty).value =
        some [Failure.required.withMember "Email"] ∧
      EnterOnce ((named none).recordsAbout [])
        [Failure.required.withMember "Email", Failure.required.withMember "Name"] ["Name"] := by
  have leads : (named none).follow? [] = some (named none) := rfl
  have asked : (named none).inquiry? = some ⟨missingMembers.toBridge, .string "",
      (namedRules none).requestFor (named none).inside⟩ := rfl
  have childless : (namedRules none).child = none := rfl
  have alone := Visit.alone_of_childless childless (.string "") .empty
  have ⟨_, _, once⟩ := Visit.annotations_enter_once leads asked rfl
  exact ⟨by decide, once alone [] _ leads rfl ⟨_, rfl⟩⟩

/-- With a child that declares nothing one failure enters twice, and the other one too, although the
object checks its member itself. -/
theorem named_twice_with_child :
    (∀ request, missingMembers.returned (.string "") request =
        [Failure.required.withMember "Email", Failure.required.withMember "Name"]) ∧
      ((named (some (.empty .string))).node.failures? (.string "") .empty).value =
        some [Failure.required.withMember "Email", Failure.required.withMember "Email",
          Failure.required.withMember "Name"] :=
  ⟨fun _ => rfl, by decide⟩

end RuleTree
