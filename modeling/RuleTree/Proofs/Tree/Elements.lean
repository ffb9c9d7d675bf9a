import RuleTree.Proofs.Failure.Position
import RuleTree.Proofs.Tree.Containers
import RuleTree.Proofs.Tree.Inheriting
import RuleTree.Proofs.Tree.Records

/-!
Elements one by one. The report about a collection consists of what is reported about each element
that the filter lets pass, below its position and in the order of the positions. What is reported
below a position depends on no other element.
-/

set_option autoImplicit false

namespace RuleTree

namespace ElementRules

variable {report : Value → Report}

theorem placed_at (filter : Option Test) (numbered : Value × Nat) (position : Nat) :
    (placed filter report numbered).filter (Failure.liesAt position) =
      if numbered.2 = position then placed filter report numbered else [] := by
  unfold placed
  split
  case isFalse => rw [List.filter_nil, ite_self]
  case isTrue =>
      rw [List.filter_map]
      by_cases here : numbered.2 = position
      · simp [Function.comp_def, Failure.liesAt_below, here, List.filter_eq_self.mpr]
      · simp [Function.comp_def, Failure.liesAt_below, here]

/-- Below a position there is what is reported about the element there, and nothing else. -/
theorem flatMap_placed_at (filter : Option Test) (report : Value → Report) (items : List Value)
    (start position : Nat) :
    ((items.zipIdx start).flatMap (placed filter report)).filter
        (Failure.liesAt (start + position)) =
      items[position]?.elim [] fun item => placed filter report (item, start + position) := by
  rw [List.filter_flatMap, ← flatMap_zipIdx_at _ items start position]
  refine List.flatMap_congr fun numbered _ => ?_
  rw [placed_at]
  split
  case isTrue here => rw [← here]
  case isFalse => rfl

theorem placed_eq_nil_iff (filter : Option Test) (numbered : Value × Nat) :
    placed filter report numbered = [] ↔
      (keeps filter numbered.1 = true → report numbered.1 = []) := by
  unfold placed
  split
  case isTrue kept => simp [kept]
  case isFalse left => simp [left]

theorem flatMap_placed_eq_nil_iff (filter : Option Test) (items : List Value) :
    items.zipIdx.flatMap (placed filter report) = [] ↔
      ∀ item ∈ items, keeps filter item = true → report item = [] := by
  rw [List.flatMap_eq_nil_iff]
  constructor
  · intro silent item member
    obtain ⟨position, numbered⟩ := List.mem_iff_getElem?.mp member
    exact (placed_eq_nil_iff filter (item, position)).mp
      (silent _ (List.mem_zipIdx_iff_getElem?.mpr numbered))
  · intro silent numbered member
    have inside := List.mem_of_getElem? (List.mem_zipIdx_iff_getElem?.mp member)
    exact (placed_eq_nil_iff filter numbered).mpr (silent numbered.1 inside)

end ElementRules

namespace Node

/-- A collection is reported element by element: the reports of the elements that the filter lets
pass stand below their positions, one after another; below a position there is nothing about other
elements, so exchanging one of these has no effect on it; and the collection is accepted if and
only if all elements that pass are. An element is validated in a level of its own, which shows
nothing new. If the elements have the rules of an object, each element is such an object, of
whatever type it is. -/
theorem elements_one_by_one (element : Rule) (filter : Option Test) (resolver : Option Resolver)
    (inherited : Option RuleSets) (context : Context) :
    let collection : Node := .rule (.elements ⟨some element, filter, resolver, inherited⟩)
    let failures (value : Value) : Report := (collection.failures? value context).value.getD []
    let alone (item : Value) : Report :=
      ((rule element).failures? item context.scope).value.getD []
    (∀ value : Value, failures value = value.elements.zipIdx.flatMap fun (item, position) =>
        if ElementRules.keeps filter item then
          (alone item).map (Failure.below (Path.index "" position))
        else []) ∧
      (∀ (value : Value) (position : Nat),
        (failures value).filter (Failure.liesAt position) =
          value.elements[position]?.elim [] fun item =>
            if ElementRules.keeps filter item then
              (alone item).map (Failure.below (Path.index "" position))
            else []) ∧
      (∀ (value changed item : Value) (exchanged position : Nat),
        changed.elements = value.elements.set exchanged item → position ≠ exchanged →
          (failures changed).filter (Failure.liesAt position) =
            (failures value).filter (Failure.liesAt position)) ∧
      (∀ value : Value, (collection.accepts value context).value = true ↔
        ∀ item ∈ value.elements, ElementRules.keeps filter item = true →
          ((rule element).accepts item context.scope).value = true) ∧
      ((rule element).Everywhere LooksUp → ∀ item : Value,
        alone item = ((rule element).failures? item context).value.getD []) ∧
      ∀ rules : ObjectRules, element = .object .itself rules → ∀ item : Value,
        alone item = ((object rules).failures? item context.scope).value.getD [] := by
  intro collection failures alone
  have reported (value : Value) :
      failures value = value.elements.zipIdx.flatMap (ElementRules.placed filter alone) := by
    simp only [failures, alone, collection, failures?_getD, report_elements, Option.elim_some]
  have located (value : Value) (position : Nat) :
      (failures value).filter (Failure.liesAt position) =
        value.elements[position]?.elim [] fun item =>
          ElementRules.placed filter alone (item, position) := by
    have below := ElementRules.flatMap_placed_at filter alone value.elements 0 position
    rwa [Nat.zero_add, ← reported] at below
  refine ⟨reported, located, ?_, ?_, ?_, ?_⟩
  · intro value changed item exchanged position replaced apart
    rw [located, located, replaced, List.getElem?_set_ne apart.symm]
  · intro value
    have verdict (item : Value) :
        ((rule element).accepts item context.scope).value = true ↔ alone item = [] := by
      simp only [alone, failures?_getD, accepts_value, List.isEmpty_iff]
    have silent : (collection.accepts value context).value = true ↔ failures value = [] := by
      simp only [failures, failures?_getD, accepts_value, List.isEmpty_iff]
    rw [silent, reported, ElementRules.flatMap_placed_eq_nil_iff]
    simp only [verdict]
  · intro looks item
    have alike : context.scope.Alike context :=
      ⟨context.surroundings_scope, context.defaultRuleSets_scope, context.ruleSets_scope⟩
    simp only [alone, failures?_getD, report_alike looks item alike]
  · rintro rules rfl item
    simp only [alone, failures?_getD, report_nested, Value.nested?, Option.elim_some]

/-- Three optional texts, each of which has to be there. -/
def tagsOf (first : Value) : Value :=
  .collection .list .string [first, .str "new", .absent .string]

def demandedTags : Node := .rule (.elements ⟨some .presence, none, none, none⟩)

/-- A document as an object, which has to hold something. -/
def filledDocument : ObjectRules :=
  { ObjectRules.empty .json with
    properties := [⟨"Content", none, none, pure,
      { ValueRules.empty with presence := [⟨.presence, none, none, false⟩] }, none, false⟩] }

def filledDocuments : Node :=
  .rule (.elements ⟨some (.object .itself filledDocument), none, none, none⟩)

/-- With another first element, the failure of the third one stays, as it is reported alone. The
objects in an array of documents are the documents. -/
theorem third_tag_reported :
    ((demandedTags.failures? (tagsOf (.absent .string)) .empty).value.getD []).length = 2 ∧
      ((demandedTags.failures? (tagsOf (.str "old")) .empty).value.getD []).length = 1 ∧
      ((demandedTags.failures? (tagsOf (.str "old")) .empty).value.getD []).filter
          (Failure.liesAt 2) =
        ((demandedTags.failures? (tagsOf (.absent .string)) .empty).value.getD []).filter
          (Failure.liesAt 2) ∧
      (demandedTags.accepts (tagsOf (.str "old")) .empty).value = false ∧
      ((rule .presence).failures? (.absent .string) Context.empty.scope).value.getD [] =
        ((rule .presence).failures? (.absent .string) .empty).value.getD [] ∧
      ((filledDocuments.failures? (.json (.array [.bool true, .null])) .empty).value.getD []).map
        Failure.members = [["[1].Content"]] ∧
      ((rule (.object .itself filledDocument)).failures? (.json .null)
          Context.empty.scope).value.getD [] =
        ((object filledDocument).failures? (.json .null) Context.empty.scope).value.getD [] := by
  have ⟨_, _, exchanged, accepts, own, _⟩ := elements_one_by_one .presence none none none .empty
  have ⟨_, _, _, _, _, objects⟩ :=
    elements_one_by_one (.object .itself filledDocument) none none none .empty
  have unmoved := exchanged (tagsOf (.absent .string)) (tagsOf (.str "old")) (.str "old") 0 2 rfl
    (by decide)
  have looks : (rule .presence).Everywhere LooksUp := .intro (fun _ _ _ => trivial) nofun
  refine ⟨by decide, by decide, unmoved, ?_, own looks (.absent .string), by decide,
    objects filledDocument rfl (.json .null)⟩
  rw [Bool.eq_false_iff]
  intro accepted
  have passes := (accepts (tagsOf (.str "old"))).mp accepted
  exact absurd (passes (.absent .string) (by simp [tagsOf, Value.elements]) rfl) (by decide)

end Node

end RuleTree
