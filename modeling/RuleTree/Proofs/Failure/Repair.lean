import Mathlib.Data.List.Forall2
import RuleTree.Proofs.Failure.Position

/-!
Repaired reports. Repair moves the members that lie elsewhere below a path and touches nothing else,
and a report that lies under the path is not touched at all. So a report may be repaired wherever it
passes: what was repaired once stays as it is.
-/

set_option autoImplicit false

namespace RuleTree

namespace Path

/-- What repair under a root makes of a member. -/
inductive Moves (root : String) : String → String → Prop where
  | stays {member : String} : isUnder member root = true → Moves root member member
  | moves {member : String} : isUnder member root = false →
      Moves root member (compose root member)

theorem moves_repair (root member : String) : Moves root member (repair root member) := by
  unfold repair
  split
  case isTrue under => exact .stays under
  case isFalse elsewhere => exact .moves (Bool.not_eq_true _ ▸ elsewhere)

theorem Moves.isUnder {root member moved : String} (moves : Moves root member moved)
    (nonempty : root ≠ "") : isUnder moved root = true := by
  cases moves with
  | stays under => exact under
  | moves elsewhere => exact isUnder_compose nonempty member

theorem isUnder_self (root : String) : isUnder root root = true :=
  isUnder_iff.mpr ⟨[], by rw [List.append_nil], by simp⟩

theorem repair_of_isUnder {root member : String} (under : isUnder member root = true) :
    repair root member = member :=
  if_pos under

end Path

namespace Failure

/-- The failure is about members, and all of them lie under the path. -/
structure LiesUnder (path : String) (failure : Failure) : Prop where
  named : failure.members ≠ []
  under : ∀ member ∈ failure.members, Path.isUnder member path = true

/-- What repair under a path makes of a failure. Members take each the place they had, a failure
of the value itself becomes one of the path, and all else is kept. -/
structure Repairs (path : String) (failure repaired : Failure) : Prop where
  kept : repaired = { failure with members := repaired.members }
  rooted : failure.members = [] → repaired.members = [path]
  moved : failure.members ≠ [] →
    List.Forall₂ (Path.Moves path) failure.members repaired.members

variable {path : String} (failure : Failure)

theorem repair_empty : failure.repair "" = failure := if_pos rfl

theorem members_repair (nonempty : path ≠ "") :
    (failure.repair path).members =
      if failure.members = [] then [path] else failure.members.map (Path.repair path) := by
  unfold repair
  rw [if_neg nonempty]
  cases failure.members <;> rfl

theorem repair_eq (nonempty : path ≠ "") :
    failure.repair path = { failure with members := (failure.repair path).members } := by
  unfold repair
  rw [if_neg nonempty]
  split <;> rfl

theorem repairs_repair (nonempty : path ≠ "") : Repairs path failure (failure.repair path) where
  kept := failure.repair_eq nonempty
  rooted root := by rw [members_repair failure nonempty, if_pos root]
  moved named := by
    rw [members_repair failure nonempty, if_neg named, List.forall₂_map_right_iff,
      List.forall₂_same]
    exact fun member _ => Path.moves_repair path member

theorem liesUnder_repair (nonempty : path ≠ "") : (failure.repair path).LiesUnder path := by
  have members := members_repair failure nonempty
  by_cases root : failure.members = []
  · rw [if_pos root] at members
    exact ⟨by simp [members], by simp [members, Path.isUnder_self]⟩
  · rw [if_neg root] at members
    refine ⟨by simp [members, root], fun member held => ?_⟩
    rw [members, List.mem_map] at held
    obtain ⟨source, -, rfl⟩ := held
    exact (Path.moves_repair path source).isUnder nonempty

/-- A failure under the path is where repair would put it. -/
theorem repair_of_liesUnder (nonempty : path ≠ "") {failure : Failure}
    (lies : failure.LiesUnder path) : failure.repair path = failure := by
  have same : failure.members.map (Path.repair path) = failure.members.map id :=
    List.map_congr_left fun member held => Path.repair_of_isUnder (lies.under member held)
  rw [repair_eq failure nonempty, members_repair failure nonempty, if_neg lies.named, same,
    List.map_id]

end Failure

namespace Report

variable {path : String} {report : Report}

/-- Nothing is left to do under the path, or no path is given. -/
theorem repair_of_liesUnder (nonempty : path ≠ "")
    (lies : ∀ failure ∈ report, failure.LiesUnder path) {again : Option String}
    (idle : again = some path ∨ again = none ∨ again = some "") : report.repair again = report := by
  obtain rfl | rfl | rfl := idle
  · exact (List.map_congr_left fun failure held =>
      Failure.repair_of_liesUnder nonempty (lies failure held)).trans (List.map_id _)
  · rfl
  · exact (List.map_congr_left fun failure _ => failure.repair_empty).trans (List.map_id _)

theorem foldl_repair_of_liesUnder (nonempty : path ≠ "")
    (lies : ∀ failure ∈ report, failure.LiesUnder path) (repairs : List (Option String))
    (idle : ∀ again ∈ repairs, again = some path ∨ again = none ∨ again = some "") :
    repairs.foldl repair report = report := by
  induction repairs with
  | nil => rfl
  | cons again rest ih =>
      have ⟨first, later⟩ := List.forall_mem_cons.mp idle
      rw [List.foldl_cons, repair_of_liesUnder nonempty lies first, ih later]

theorem liesUnder_repair (nonempty : path ≠ "") :
    ∀ failure ∈ report.repair (some path), failure.LiesUnder path := by
  intro failure held
  obtain ⟨source, -, rfl⟩ := List.mem_map.mp held
  exact source.liesUnder_repair nonempty

/-- Paths form a monoid, and repair under a path moves the members that lie elsewhere below it, once
and for all. -/
theorem repair_settles (report : Report) {path : String} (nonempty : path ≠ "") :
    (∀ outer middle inner : String,
      Path.compose outer (Path.compose middle inner) =
        Path.compose (Path.compose outer middle) inner) ∧
    (∀ member : String, Path.compose "" member = member ∧ Path.compose member "" = member) ∧
    List.Forall₂ (Failure.Repairs path) report (report.repair (some path)) ∧
    (∀ failure ∈ report.repair (some path), failure.LiesUnder path) ∧
    ∀ repairs : List (Option String),
      (∀ again ∈ repairs, again = some path ∨ again = none ∨ again = some "") →
        repairs.foldl repair (report.repair (some path)) = report.repair (some path) := by
  refine ⟨fun outer middle inner => (Path.compose_assoc outer middle inner).symm,
    fun member => ⟨Path.compose_empty_left member, Path.compose_empty_right member⟩, ?_,
    liesUnder_repair nonempty, foldl_repair_of_liesUnder nonempty (liesUnder_repair nonempty)⟩
  rw [repair, List.forall₂_map_right_iff, List.forall₂_same]
  exact fun failure _ => failure.repairs_repair nonempty

/-- A failure of the value itself, and one of members some of which only look as if they were
under `Sub`. -/
def scattered : Report :=
  [.required, { Failure.required with members := ["Subway", "Sub.Id", "[1]", ".x", "", "Sub"] }]

theorem scattered_settles :
    "Sub" ≠ "" ∧
    (scattered.repair (some "Sub")).map Failure.members =
      [["Sub"], ["Sub.Subway", "Sub.Id", "Sub[1]", "Sub..x", "Sub", "Sub"]] ∧
    [none, some "Sub", some "", some "Sub"].foldl repair (scattered.repair (some "Sub")) =
      scattered.repair (some "Sub") :=
  ⟨by decide, by decide, (repair_settles scattered (by decide)).2.2.2.2 _ (by decide)⟩

end Report

end RuleTree
