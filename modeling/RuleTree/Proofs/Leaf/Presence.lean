import RuleTree.Leaf.Library
import RuleTree.Proofs.Tree.Containers
import RuleTree.Tree.Build

/-!
Absence and presence. Leaves pass over a value without content and leave it to the check of
presence. The two look for content on their own, and the laws of this module say that no value
falls between them: what leaves pass over is missing, and nothing that is missing is present. So
rules that demand presence accept a value only if every one of their leaves has examined it.
-/

set_option autoImplicit false

namespace RuleTree

namespace Value

/-- There is no content behind the optional values and the references. -/
inductive Missing : Value → Prop where
  | absent {type : Ty} : Missing (.absent type)
  | null : Missing (.json .null)
  | present {value : Value} : Missing value → Missing (.present value)
  | reference {value : Value} : Missing value → Missing (.reference value)

variable {value : Value}

theorem Missing.view (missing : value.Missing) (type : LeafType) :
    value.view type = .ok none := by
  induction missing with
  | absent | null => rfl
  | present _ ih | reference _ ih => exact ih

theorem Missing.isPresent (missing : value.Missing) : value.isPresent = false := by
  induction missing with
  | absent | null => rfl
  | present _ ih | reference _ ih => exact ih

theorem missing_of_view {type : LeafType} (passed : value.view type = .ok none) :
    value.Missing := by
  fun_induction Value.view type value with
  | case1 => exact .absent
  | case2 value ih => exact .present (ih passed)
  | case3 value ih => exact .reference (ih passed)
  | case4 => exact .null
  | case5 | case6 | case7 | case8 => cases passed

/-- All leaves pass over the same values, whatever input they ask for. -/
theorem view_eq_ok_none_iff (type : LeafType) : value.view type = .ok none ↔ value.Missing :=
  ⟨missing_of_view, fun missing => missing.view type⟩

end Value

namespace Step

/-- An examination passes over a value or finds it good; if it reports nothing, it did either. -/
theorem examined_eq_nil_iff {type : LeafType} {check : type.Carrier → Option Failure}
    {value : Value} {context : Context} :
    examined type check value context = [] ↔
      value.Missing ∨ ∃ input, value.view type = .ok (some input) ∧ check input = none := by
  rw [← Value.view_eq_ok_none_iff type]
  unfold examined
  cases value.view type with
  | error failure => simp
  | ok view =>
      cases view with
      | none => simp
      | some input => cases checked : check input <;> simp [checked]

end Step

/-! ### Rules that look at the content of a value -/

/-- The leaf examines the content of the value and has no objection. -/
def Leaf.Approves (leaf : Leaf) (value : Value) : Prop :=
  ∃ input, value.view leaf.type = .ok (some input) ∧ (leaf.check input).value = none

/-- The leaf examines the content of the value in the context and has no objection. -/
def ContextualLeaf.Approves (leaf : ContextualLeaf) (value : Value) (context : Context) : Prop :=
  ∃ input, value.view leaf.type = .ok (some input) ∧ (leaf.check input context).value = none

/-- The rule is a leaf or the check of presence. -/
def Rule.LooksAtContent : Rule → Prop
  | .leaf _ | .contextual _ | .presence => True
  | _ => False

/-- A leaf has examined the value and has no objection; the check of presence has found it. Nothing
is said of other rules. -/
def Rule.Approves (rule : Rule) (value : Value) (context : Context) : Prop :=
  match rule with
  | .leaf held => held.Approves value
  | .contextual held => held.Approves value context
  | .presence => value.isPresent = true
  | _ => True

/-- Of a value that is there, a rule that looks at the content reports nothing if and only if it has
looked and approves. -/
theorem Rule.report_eq_nil_iff {rule : Rule} (looks : rule.LooksAtContent) {value : Value}
    (there : ¬ value.Missing) (context : Context) :
    (Node.rule rule).report value context = [] ↔ rule.Approves value context := by
  cases rule with
  | leaf held =>
      rw [Node.report_leaf, Step.examined_eq_nil_iff]
      exact or_iff_right there
  | contextual held =>
      rw [Node.report_contextual, Step.examined_eq_nil_iff]
      exact or_iff_right there
  | presence =>
      rw [Node.report_presence, Approves]
      cases value.isPresent <;> simp
  | predicate | composite | conditional | value | elements | object => exact looks.elim

theorem RuleEntry.isActive_of_untagged {held : RuleEntry} (untagged : held.tag = none)
    (selector : Option RuleSets) : held.isActive selector = true := by
  rw [isActive, untagged]
  rfl

namespace ValueRules

/-- All entries that are active see every value, and they see it as it is. -/
structure Unconditional (rules : ValueRules) : Prop where
  mode : rules.mode = .all
  guards : rules.guards = []
  skips : rules.skipsEmpty = false
  preprocess : rules.preprocess = none

/-- An untagged entry checks for presence. -/
def DemandsPresence (rules : ValueRules) : Prop :=
  ∃ held ∈ rules.entries, held.rule = .presence ∧ held.tag = none

variable {rules : ValueRules} {value : Value} {context : Context}

theorem Unconditional.examines (unconditional : rules.Unconditional) (value : Value) :
    rules.examines value = true := by
  simp [ValueRules.examines, unconditional.guards, unconditional.skips]

theorem Unconditional.prepared (unconditional : rules.Unconditional) (value : Value) :
    rules.prepared value = value := by
  simp [ValueRules.prepared, unconditional.preprocess]

/-- Such rules accept a value if and only if their active entries have nothing to report. -/
theorem Unconditional.accepts_iff (unconditional : rules.Unconditional) :
    ((Node.rule (.value rules)).accepts value context).value = true ↔
      ∀ held ∈ rules.entries, held.isActive (rules.scope context).ruleSets = true →
        (Node.rule held.rule).report value (rules.scope context) = [] := by
  rw [Node.accepts_value, List.isEmpty_iff, Node.report_value, unconditional.examines,
    if_pos rfl, unconditional.mode, unconditional.prepared]
  simp only [Mode.merge, List.flatten_eq_nil_iff, List.forall_mem_map, List.mem_filter, and_imp,
    Node.report_entry, List.map_eq_nil_iff]

/-- What such rules accept is not missing if they demand presence. -/
theorem Unconditional.not_missing (unconditional : rules.Unconditional)
    (demands : rules.DemandsPresence)
    (accepted : ((Node.rule (.value rules)).accepts value context).value = true) :
    ¬ value.Missing := by
  intro missing
  obtain ⟨held, member, checks, untagged⟩ := demands
  have silent := unconditional.accepts_iff.mp accepted held member
    (RuleEntry.isActive_of_untagged untagged _)
  rw [checks, Node.report_presence, missing.isPresent] at silent
  cases silent

theorem Unconditional.approves (unconditional : rules.Unconditional)
    (demands : rules.DemandsPresence)
    (accepted : ((Node.rule (.value rules)).accepts value context).value = true)
    {held : RuleEntry} (member : held ∈ rules.entries) (untagged : held.tag = none)
    (looks : held.rule.LooksAtContent) : held.rule.Approves value (rules.scope context) := by
  have silent := unconditional.accepts_iff.mp accepted held member
    (RuleEntry.isActive_of_untagged untagged _)
  exact (held.rule.report_eq_nil_iff looks (unconditional.not_missing demands accepted) _).mp silent

/-- If all entries look at the content, their approval is all it takes. -/
theorem Unconditional.accepts_of_approves (unconditional : rules.Unconditional)
    (demands : rules.DemandsPresence)
    (looks : ∀ held ∈ rules.entries, held.rule.LooksAtContent)
    (approved : ∀ held ∈ rules.entries, held.rule.Approves value (rules.scope context)) :
    ((Node.rule (.value rules)).accepts value context).value = true := by
  have there : ¬ value.Missing := by
    intro missing
    obtain ⟨held, member, checks, _⟩ := demands
    have present := approved held member
    rw [checks, Rule.Approves, missing.isPresent] at present
    cases present
  exact unconditional.accepts_iff.mpr fun held member _ =>
    (held.rule.report_eq_nil_iff (looks held member) there _).mpr (approved held member)

end ValueRules

/-- What a leaf passes over is not present. So rules that demand presence, under no condition,
accept a value only if every untagged leaf among them has examined its content and approves; and
rules of such entries accept just what all of them approve. -/
theorem presence_leaves_no_gap :
    (∀ (type : LeafType) (value : Value),
        value.view type = .ok none → value.isPresent = false) ∧
      (∀ (rules : ValueRules) (value : Value) (context : Context),
        rules.Unconditional → rules.DemandsPresence →
          ((Node.rule (.value rules)).accepts value context).value = true →
            ∀ held ∈ rules.entries, held.tag = none → held.rule.LooksAtContent →
              held.rule.Approves value (rules.scope context)) ∧
      ∀ (rules : ValueRules) (value : Value) (context : Context),
        rules.Unconditional → rules.DemandsPresence →
          (∀ held ∈ rules.entries, held.tag = none ∧ held.rule.LooksAtContent) →
            (((Node.rule (.value rules)).accepts value context).value = true ↔
              ∀ held ∈ rules.entries, held.rule.Approves value (rules.scope context)) := by
  refine ⟨?_, ?_, ?_⟩
  · intro type value passed
    exact ((Value.view_eq_ok_none_iff type).mp passed).isPresent
  · intro rules value context unconditional demands accepted held member untagged looks
    exact unconditional.approves demands accepted member untagged looks
  · intro rules value context unconditional demands plain
    have looks := fun held member => (plain held member).2
    refine ⟨?_, unconditional.accepts_of_approves demands looks⟩
    intro accepted held member
    exact unconditional.approves demands accepted member (plain held member).1 (looks held member)

/-- A required title of three to ten characters. -/
def titleRules : ValueRules :=
  ((ValueRules.empty.pushPresence .presence).pushRule (.leaf (.minLength 3))).pushRule
    (.leaf (.maxLength 10))

theorem title_is_examined :
    let given : Value := .reference (.present (.json (.string "Report")))
    let withheld : Value := .present (.reference (.json .null))
    ((Leaf.minLength 3).Approves given ∧ (Leaf.maxLength 10).Approves given) ∧
      (∀ type, withheld.view type = .ok none) ∧ withheld.isPresent = false ∧
      ((Node.rule (.value titleRules)).accepts withheld .empty).value = false := by
  intro given withheld
  have unconditional : titleRules.Unconditional := ⟨rfl, rfl, rfl, rfl⟩
  have demands : titleRules.DemandsPresence := ⟨_, List.mem_cons_self, rfl, rfl⟩
  have passed (type : LeafType) : withheld.view type = .ok none := rfl
  have plain : ∀ held ∈ titleRules.entries, held.tag = none ∧ held.rule.LooksAtContent :=
    List.forall_mem_cons.mpr ⟨⟨rfl, trivial⟩, List.forall_mem_cons.mpr ⟨⟨rfl, trivial⟩,
      List.forall_mem_cons.mpr ⟨⟨rfl, trivial⟩, nofun⟩⟩⟩
  have ⟨absent, examined, exactly⟩ := presence_leaves_no_gap
  have accepted : ((Node.rule (.value titleRules)).accepts given .empty).value = true := by decide
  have approves {held : RuleEntry} (member : held ∈ titleRules.entries) :=
    examined titleRules given .empty unconditional demands accepted held member
      (plain held member).1 (plain held member).2
  have missing := exactly titleRules withheld .empty unconditional demands plain
  refine ⟨⟨approves (List.mem_cons_of_mem _ List.mem_cons_self), ?_⟩, passed, ?_, ?_⟩
  · exact approves (List.mem_cons_of_mem _ (List.mem_cons_of_mem _ List.mem_cons_self))
  · exact absent .text withheld (passed .text)
  · refine Bool.eq_false_iff.mpr fun taken => ?_
    cases missing.mp taken _ List.mem_cons_self

end RuleTree
