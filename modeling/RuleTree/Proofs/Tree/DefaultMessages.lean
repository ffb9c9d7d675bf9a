import RuleTree.Proofs.Tree.Variation
import RuleTree.Proofs.Tree.Wording

/-!
Entries with other default messages. An entry without a message of its own may be given another
default message. The failures below it are then found as before, and shown in the other words: in
these words and in no words of a message further down, as the entry stands farther out.
-/

set_option autoImplicit false

namespace RuleTree

theorem Mode.merge_forall₂ {α β : Type} {related : α → β → Prop} (mode : Mode)
    {reports : List (List α)} {others : List (List β)}
    (pairs : List.Forall₂ (List.Forall₂ related) reports others) :
    List.Forall₂ related (mode.merge reports) (mode.merge others) := by
  have flattened := List.rel_flatten pairs
  cases mode with
  | all => exact flattened
  | failFast => exact List.forall₂_take 1 flattened
  | any =>
      have empty : others.any List.isEmpty = reports.any List.isEmpty := by
        induction pairs with
        | nil => rfl
        | cons pair _ ih =>
            rw [List.any_cons, List.any_cons, ih (List.rel_flatten ‹_›)]
            cases pair <;> rfl
      simp only [merge, empty]
      split
      · exact .nil
      · exact flattened

theorem forall₂_zipIdx {α β : Type} {related : α → β → Prop} {items : List α} {others : List β}
    (pairs : List.Forall₂ related items others) :
    List.Forall₂ (fun placed other => related placed.1 other.1 ∧ other.2 = placed.2 ∧
      items[placed.2]? = some placed.1 ∧ others[other.2]? = some other.1)
      items.zipIdx others.zipIdx := by
  refine List.forall₂_iff_get.mpr ⟨?_, fun position first second => ?_⟩
  · rw [List.length_zipIdx, List.length_zipIdx, pairs.length_eq]
  · rw [List.length_zipIdx] at first second
    have pair := (List.forall₂_iff_get.mp pairs).2 position first second
    simpa using pair

/-! ### Entries and rules of a value -/

/-- The second entry is the first one, or the first one without a message of its own and with the
given default message. -/
def RuleEntry.TakesDefault (given : MessageOverride) (held other : RuleEntry) : Prop :=
  other = held ∨ held.isCustom = false ∧ other = { held with message := some given }

namespace RuleEntry.TakesDefault

variable {given : MessageOverride} {held other : RuleEntry}

theorem refl (given : MessageOverride) (held : RuleEntry) : held.TakesDefault given held := .inl rfl

theorem rule (takesDefault : held.TakesDefault given other) : other.rule = held.rule := by
  rcases takesDefault with rfl | ⟨_, rfl⟩ <;> rfl

theorem tag (takesDefault : held.TakesDefault given other) : other.tag = held.tag := by
  rcases takesDefault with rfl | ⟨_, rfl⟩ <;> rfl

end RuleEntry.TakesDefault

/-- The second rules are the first ones with the given default message at some entries. -/
inductive ValueRules.TakesDefault (given : MessageOverride) (rules : ValueRules) :
    ValueRules → Prop where
  | entries {presence general : List RuleEntry} {nested : Option RuleEntry} :
      List.Forall₂ (RuleEntry.TakesDefault given) rules.presence presence →
      List.Forall₂ (RuleEntry.TakesDefault given) rules.general general →
      Option.Rel (RuleEntry.TakesDefault given) rules.nested nested →
      TakesDefault given rules { rules with presence, general, nested }

inductive PropertyRules.TakesDefault (given : MessageOverride) (held : PropertyRules) :
    PropertyRules → Prop where
  | rules {rules : ValueRules} :
      held.rules.TakesDefault given rules → TakesDefault given held { held with rules }

theorem ValueRules.TakesDefault.refl (given : MessageOverride) (rules : ValueRules) :
    rules.TakesDefault given rules := by
  have same (entries : List RuleEntry) :
      List.Forall₂ (RuleEntry.TakesDefault given) entries entries :=
    List.forall₂_same.mpr fun held _ => .refl given held
  cases rules with
  | mk presence general nested =>
      refine .entries (same presence) (same general) ?_
      cases nested with
      | none => exact .none
      | some held => exact .some (.refl given held)

theorem ValueRules.TakesDefault.all {given : MessageOverride} {rules other : ValueRules}
    (takesDefault : rules.TakesDefault given other) :
    List.Forall₂ (RuleEntry.TakesDefault given) rules.entries other.entries := by
  obtain ⟨presence, general, nested⟩ := takesDefault
  refine List.rel_append (List.rel_append presence general) ?_
  generalize rules.nested = held at nested
  cases nested with
  | none => exact .nil
  | some pair => exact .cons pair .nil

/-- The entries that are active in the context of the rules. -/
def ValueRules.active (rules : ValueRules) (context : Context) : List RuleEntry :=
  rules.entries.filter (·.isActive (rules.scope context).ruleSets)

namespace Visit

/-! ### The outermost entry -/

def entry? : Visit → Option (RuleEntry × Context)
  | ⟨.entry held, _, context⟩ => some (held, context)
  | _ => none

/-- The first entry that a trail leads through, with its context. -/
def outermost? (root : Visit) (trail : List Nat) : Option (RuleEntry × Context) :=
  (root.passed trail).findSome? entry?

theorem first_wording_of_outermost {root : Visit} {trail : List Nat} {held : RuleEntry}
    {scope : Context} (outermost : root.outermost? trail = some (held, scope)) {wording : Wording}
    (words : MessageOverride.wording? held.message scope = some wording) :
    (root.passed trail).findSome? wording? = some wording := by
  unfold outermost? at outermost
  generalize root.passed trail = passed at outermost ⊢
  induction passed with
  | nil => cases outermost
  | cons visit rest ih =>
      obtain ⟨node, value, context⟩ := visit
      cases node with
      | entry found =>
          cases outermost
          rw [List.findSome?_cons, wording?, words]
      | rule | property | object => exact ih outermost

/-- A record of two trees is the same in both, or the outermost entry around it has another default
message in the second one. -/
inductive Defaulted (given : MessageOverride) (root other : Visit) :
    Recorded → Recorded → Prop where
  | same {record : Recorded} :
      other.outermost? record.trail = root.outermost? record.trail →
      Defaulted given root other record record
  | reworded {held : RuleEntry} {scope : Context} {trail : List Nat} {found inner : Failure} :
      held.isCustom = false → root.outermost? trail = some (held, scope) →
      other.outermost? trail = some ({ held with message := some given }, scope) →
      Defaulted given root other
        ⟨trail, found, inner.worded (MessageOverride.wording? held.message scope)⟩
        ⟨trail, found, inner.worded (MessageOverride.wording? (some given) scope)⟩

/-! ### The records of two trees -/

theorem branches_entry (held : RuleEntry) (value : Value) (context : Context) :
    branches ⟨.entry held, value, context⟩ =
      [⟨⟨.rule held.rule, value, context⟩, MessageOverride.retitle held.message context⟩] := rfl

theorem branches_property (held : PropertyRules) (object : Value) (context : Context) :
    branches ⟨.property held, object, context⟩ =
      [⟨⟨.rule (.value held.rules), held.read object, held.scope context⟩,
        Failure.below held.member⟩] := rfl

theorem records_entry (held : RuleEntry) (value : Value) (context : Context) :
    records ⟨.entry held, value, context⟩ =
      (records ⟨.rule held.rule, value, context⟩).map
        (Recorded.arrive (MessageOverride.retitle held.message context) 0) := by
  rw [records_eq, branches_entry]
  simp [Node.mode, own, Mode.merge]

theorem records_property (held : PropertyRules) (object : Value) (context : Context) :
    records ⟨.property held, object, context⟩ =
      ((held.annotations (held.read object) (held.scope context)).map
          (Failure.below held.member)).map Recorded.own ++
        (records ⟨.rule (.value held.rules), held.read object, held.scope context⟩).map
          (Recorded.arrive (Failure.below held.member) 0) := by
  rw [records_eq, branches_property]
  simp [Node.mode, own, Mode.merge]

theorem records_unexamined {rules : ValueRules} {value : Value} {context : Context}
    (unexamined : rules.examines value = false) :
    records ⟨.rule (.value rules), value, context⟩ = [] := by
  have nothing : branches ⟨.rule (.value rules), value, context⟩ = [] := by
    simp [branches, Node.candidates, unexamined]
  rw [records_eq, nothing]
  dsimp only [Node.mode]
  cases rules.mode <;> rfl

section

variable {rules : ValueRules} {value : Value} (examined : rules.examines value = true)
  (context : Context)

include examined

theorem branches_value : branches ⟨.rule (.value rules), value, context⟩ =
    (rules.active context).map fun held =>
      ⟨⟨.entry held, rules.prepared value, rules.scope context⟩, id⟩ := by
  simp only [branches, Node.candidates, examined, ↓reduceIte, List.filter_map, List.map_map]
  rfl

theorem records_value : records ⟨.rule (.value rules), value, context⟩ =
    rules.mode.merge ((rules.active context).zipIdx.map fun placed =>
      (records ⟨.entry placed.1, rules.prepared value, rules.scope context⟩).map
        (.arrive id placed.2)) := by
  rw [records_eq, branches_value examined, List.zipIdx_map, List.map_map]
  rfl

theorem outermost_value {position : Nat} {held : RuleEntry}
    (found : (rules.active context)[position]? = some held) (trail : List Nat) :
    outermost? ⟨.rule (.value rules), value, context⟩ (position :: 0 :: trail) =
      some (held, rules.scope context) := by
  rw [outermost?, passed, branches_value examined, List.getElem?_map, found]
  rfl

end

variable {given : MessageOverride}

theorem defaulted_value {rules other : ValueRules} (takesDefault : rules.TakesDefault given other)
    (value : Value) (context : Context) :
    List.Forall₂
      (Defaulted given ⟨.rule (.value rules), value, context⟩
        ⟨.rule (.value other), value, context⟩)
      (records ⟨.rule (.value rules), value, context⟩)
      (records ⟨.rule (.value other), value, context⟩) := by
  have examines : other.examines value = rules.examines value := by cases takesDefault; rfl
  have prepared : other.prepared value = rules.prepared value := by cases takesDefault; rfl
  have scope : other.scope context = rules.scope context := by cases takesDefault; rfl
  have mode : other.mode = rules.mode := by cases takesDefault; rfl
  by_cases examined : rules.examines value = true
  · have examinedOther := examines.trans examined
    have actives : List.Forall₂ (RuleEntry.TakesDefault given) (rules.active context)
        (other.active context) := by
      unfold ValueRules.active
      rw [scope]
      exact forall₂_filter _ _ takesDefault.all fun held changed pair =>
        congrArg (RuleSets.isActive · _) pair.tag
    rw [records_value examined, records_value examinedOther, mode, prepared, scope]
    refine Mode.merge_forall₂ _ (List.forall₂_map_left_iff.mpr (List.forall₂_map_right_iff.mpr
      ((forall₂_zipIdx actives).imp ?_)))
    rintro ⟨held, position⟩ ⟨changed, _⟩ ⟨pair, rfl, here, there⟩
    dsimp only at pair here there ⊢
    -- What lies below the entry is the same in both, and differs only in the words of the entry.
    rw [records_entry, records_entry, pair.rule, List.map_map, List.map_map]
    refine List.forall₂_map_left_iff.mpr (List.forall₂_map_right_iff.mpr
      (List.forall₂_same.mpr fun record _ => ?_))
    have outermost := outermost_value examined context here record.trail
    have outermostOther := outermost_value examinedOther context there record.trail
    rw [scope] at outermostOther
    rcases pair with rfl | ⟨fresh, rfl⟩
    · exact .same (outermostOther.trans outermost.symm)
    · simp only [Function.comp_apply, Recorded.arrive, id, MessageOverride.retitle_eq]
      exact .reworded fresh outermost outermostOther
  · have unexamined := Bool.eq_false_iff.mpr examined
    rw [records_unexamined unexamined, records_unexamined (examines.trans unexamined)]
    exact .nil

theorem defaulted_property {held other : PropertyRules}
    (takesDefault : held.TakesDefault given other) (object : Value) (context : Context) :
    List.Forall₂
      (Defaulted given ⟨.property held, object, context⟩ ⟨.property other, object, context⟩)
      (records ⟨.property held, object, context⟩) (records ⟨.property other, object, context⟩) := by
  obtain @⟨rules, within⟩ := takesDefault
  let other : PropertyRules := { held with rules }
  change List.Forall₂
    (Defaulted given ⟨.property held, object, context⟩ ⟨.property other, object, context⟩)
    _ (records ⟨.property other, object, context⟩)
  rw [records_property, records_property]
  refine List.rel_append (List.forall₂_same.mpr fun record own => ?_) ?_
  · obtain ⟨failure, _, rfl⟩ := List.mem_map.mp own
    exact .same rfl
  · refine List.forall₂_map_left_iff.mpr (List.forall₂_map_right_iff.mpr
      ((defaulted_value within (held.read object) (held.scope context)).imp ?_))
    have outermost (trail : List Nat) : outermost? ⟨.property held, object, context⟩ (0 :: trail) =
        outermost? ⟨.rule (.value held.rules), held.read object, held.scope context⟩ trail := rfl
    have outermostOther (trail : List Nat) :
        outermost? ⟨.property other, object, context⟩ (0 :: trail) =
          outermost? ⟨.rule (.value rules), held.read object, held.scope context⟩ trail := rfl
    intro before after pair
    cases pair with
    | same same =>
        exact .same ((outermostOther before.trail).trans (same.trans (outermost before.trail).symm))
    | @reworded entry scope trail found inner fresh here there =>
        simp only [Recorded.arrive, Failure.below_worded]
        exact .reworded fresh ((outermost trail).trans here) ((outermostOther trail).trans there)

end Visit

end RuleTree
