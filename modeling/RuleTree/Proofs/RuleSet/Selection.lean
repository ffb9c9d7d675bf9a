import RuleTree.RuleSet.Basic

/-!
What a selector selects, in terms of names, and lists that are not empty.
-/

set_option autoImplicit false

namespace RuleTree.RuleSets

/-- A selector matches a tag if it contains the wildcard or shares a name with the tag. -/
def Matches (selector tag : RuleSets) : Prop :=
  wildcard ∈ selector.names ∨ ∃ name ∈ tag.names, name ∈ selector.names

/-- What has a tag without the wildcard is left out unless the selector matches the tag. -/
def LeavesOut (selector tag : Option RuleSets) : Prop :=
  ∃ list ∈ tag, wildcard ∉ list.names ∧ ¬ ∃ sets ∈ selector, Matches sets list

theorem isActive_eq_false_iff (tag selector : Option RuleSets) :
    isActive tag selector = false ↔ LeavesOut selector tag := by
  cases tag with
  | none => simp [isActive, LeavesOut]
  | some list =>
      cases selector <;> simp [isActive, LeavesOut, Matches, isWildcard, contains]

instance (selector tag : Option RuleSets) : Decidable (LeavesOut selector tag) :=
  decidable_of_iff _ (isActive_eq_false_iff tag selector)

/-- If there is a list, it has a name. -/
def NotEmpty (sets : Option RuleSets) : Prop := ∀ list ∈ sets, list.isEmpty = false

theorem notEmpty_none : NotEmpty none := nofun

theorem notEmpty_some {sets : RuleSets} (nonempty : sets.isEmpty = false) :
    NotEmpty (some sets) := by
  rintro list ⟨⟩
  exact nonempty

theorem NotEmpty.or {first second : Option RuleSets} (nonempty : NotEmpty first)
    (otherwise : NotEmpty second) : NotEmpty (first.or second) := by
  cases first with
  | none => exact otherwise
  | some list => exact nonempty

theorem NotEmpty.nonEmpty?_eq {sets : Option RuleSets} (nonempty : NotEmpty sets) :
    nonEmpty? sets = sets := by
  cases sets with
  | none => rfl
  | some list => simp [nonEmpty?, nonempty list rfl]

theorem nonEmpty?_some {sets : RuleSets} (nonempty : sets.isEmpty = false) :
    nonEmpty? (some sets) = some sets := by
  simp [nonEmpty?, nonempty]

theorem notEmpty_nonEmpty? (sets : Option RuleSets) : NotEmpty (nonEmpty? sets) := by
  intro list member
  have kept := (Option.filter_eq_some_iff.mp member).2
  simpa using kept

/-! ### Lists behind others -/

theorem nonEmpty?_or {first second : Option RuleSets} (none : nonEmpty? first = none) :
    nonEmpty? second = .none → nonEmpty? (first.or second) = .none := by
  intro otherwise
  cases first with
  | none => exact otherwise
  | some list => exact none

theorem NotEmpty.nonEmpty?_of_or {first second : Option RuleSets} (kept : NotEmpty first)
    (absent : nonEmpty? (first.or second) = none) : nonEmpty? second = none := by
  cases first with
  | none => exact absent
  | some list => exact absurd (nonEmpty?_some (kept list rfl)) (by simp_all)

theorem nonEmpty?_or_congr {first second : Option RuleSets}
    (same : nonEmpty? first = nonEmpty? second) (sets : Option RuleSets) :
    nonEmpty? (sets.or first) = nonEmpty? (sets.or second) := by
  cases sets with
  | none => exact same
  | some list => rfl

end RuleTree.RuleSets
