import RuleTree.Proofs.Tree.Visit

/-!
Records: the failures of a report, each with the trail to the visit that made it and with the form
in which that visit made it. Equal failures of different visits stay apart that way.

A visit enters each of its failures at most once and in order, and each record of a report is the
record of one visit.
-/

set_option autoImplicit false

namespace RuleTree

/-- A failure of a report: the trail to the visit that found it, the failure as that visit found it,
and the failure as it is shown in the end. -/
structure Recorded where
  trail : List Nat
  found : Failure
  shown : Failure

namespace Recorded

/-- A failure that a visit records itself. -/
def own (failure : Failure) : Recorded := ⟨[], failure, failure⟩

/-- A record of a visit right below, as it arrives over the branch at a position. -/
def arrive (edit : Failure → Failure) (position : Nat) (record : Recorded) : Recorded :=
  ⟨position :: record.trail, record.found, edit record.shown⟩

theorem filter_own_nil (report : Report) :
    (report.map own).filter (·.trail = []) = report.map own := by
  simp [own]

theorem filter_own_cons (position : Nat) (rest : List Nat) (report : Report) :
    (report.map own).filter (·.trail = position :: rest) = [] := by
  simp [own]

theorem filter_arrive_nil (edit : Failure → Failure) (position : Nat) (records : List Recorded) :
    (records.map (arrive edit position)).filter (·.trail = []) = [] := by
  simp [arrive]

theorem filter_arrive_cons (edit : Failure → Failure) (position index : Nat) (rest : List Nat)
    (records : List Recorded) :
    (records.map (arrive edit index)).filter (·.trail = position :: rest) =
      if index = position then (records.filter (·.trail = rest)).map (arrive edit position)
        else [] := by
  rw [List.filter_map]
  by_cases same : index = position
  · simp [Function.comp_def, arrive, same]
  · simp [Function.comp_def, arrive, same]

end Recorded

theorem flatMap_zipIdx_at {α β : Type} (pick : α → List β) (items : List α) (start position : Nat) :
    ((items.zipIdx start).flatMap fun placed =>
        if placed.2 = start + position then pick placed.1 else []) =
      items[position]?.elim [] pick := by
  induction items generalizing start position with
  | nil => rfl
  | cons item rest ih =>
      rw [List.zipIdx_cons, List.flatMap_cons]
      cases position with
      | zero =>
          have later : ((rest.zipIdx (start + 1)).flatMap fun placed =>
              if placed.2 = start + 0 then pick placed.1 else []) = [] := by
            refine List.flatMap_eq_nil_iff.mpr fun placed member => if_neg ?_
            have after := List.le_snd_of_mem_zipIdx member
            omega
          rw [later, List.append_nil]
          exact if_pos rfl
      | succ position =>
          have later := ih (start + 1) position
          rw [Nat.add_assoc, Nat.add_comm 1 position] at later
          rw [later, if_neg (by omega), List.nil_append]
          rfl

theorem Mode.merge_sublist {α : Type} (mode : Mode) (reports : List (List α)) :
    (mode.merge reports).Sublist reports.flatten := by
  cases mode with
  | all => exact .refl _
  | failFast => exact List.take_sublist 1 _
  | any =>
      simp only [merge]
      split
      · exact List.nil_sublist _
      · exact .refl _

namespace Visit

/-- The records of a visit. -/
def records (visit : Visit) : List Recorded :=
  visit.node.mode.merge
    (visit.own.map (List.map .own) ++ visit.branches.attach.zipIdx.map fun placed =>
      placed.1.val.visit.records.map (.arrive placed.1.val.edit placed.2))
termination_by visit.node
decreasing_by exact Node.sizeOf_child_lt (of_mem_branches placed.1.property).1

theorem records_eq (visit : Visit) :
    visit.records = visit.node.mode.merge
      (visit.own.map (List.map .own) ++ visit.branches.zipIdx.map fun placed =>
        placed.1.visit.records.map (.arrive placed.1.edit placed.2)) := by
  have places : visit.branches.zipIdx =
      visit.branches.attach.zipIdx.map (Prod.map Subtype.val id) := by
    rw [← List.zipIdx_map, List.attach_map_subtype_val]
  rw [records, places, List.map_map]
  rfl

/-! A node that collects all failures records all of its own and all that arrive from below. -/

theorem own_mem_records {visit : Visit} (all : visit.node.mode = .all) {failure : Failure}
    (made : failure ∈ visit.own.flatten) : .own failure ∈ visit.records := by
  obtain ⟨report, member, found⟩ := List.mem_flatten.mp made
  rw [records_eq, all]
  exact List.mem_flatten.mpr ⟨report.map .own,
    List.mem_append_left _ (List.mem_map_of_mem member), List.mem_map_of_mem found⟩

theorem arrive_mem_records {visit : Visit} (all : visit.node.mode = .all) {branch : Branch}
    {position : Nat} (found : visit.branches[position]? = some branch) {record : Recorded}
    (member : record ∈ branch.visit.records) :
    record.arrive branch.edit position ∈ visit.records := by
  rw [records_eq, all]
  exact List.mem_flatten.mpr ⟨branch.visit.records.map (.arrive branch.edit position),
    List.mem_append_right _ (List.mem_map.mpr
      ⟨(branch, position), List.mk_mem_zipIdx_iff_getElem?.mpr found, rfl⟩),
    List.mem_map_of_mem member⟩

theorem shown_records (visit : Visit) : visit.records.map Recorded.shown = visit.report := by
  induction visit using Visit.induction with
  | step visit ih =>
      have own : (visit.own.map (List.map Recorded.own)).map (List.map Recorded.shown) =
          visit.own := by
        simp [Recorded.own, Function.comp_def]
      have arriving : (visit.branches.zipIdx.map fun placed =>
          placed.1.visit.records.map (Recorded.arrive placed.1.edit placed.2)).map
            (List.map Recorded.shown) = visit.arriving := by
        have shown (placed : Branch × Nat) (member : placed ∈ visit.branches.zipIdx) :
            (placed.1.visit.records.map (Recorded.arrive placed.1.edit placed.2)).map
              Recorded.shown = placed.1.visit.report.map placed.1.edit := by
          rw [← ih placed.1 (List.fst_mem_of_mem_zipIdx member), List.map_map, List.map_map]
          rfl
        calc
          _ = visit.branches.zipIdx.map fun placed =>
              placed.1.visit.report.map placed.1.edit := by
            rw [List.map_map]
            exact List.map_congr_left shown
          _ = visit.arriving := by
            rw [arriving, ← List.zipIdx_map_fst 0 visit.branches, List.map_map]
            simp
      rw [visit.records_eq, visit.report_eq, ← Mode.merge_map, List.map_append, own, arriving]

/-- An evaluation adds to a sink what the sink wants of the failures recorded. -/
theorem evaluate_records (visit : Visit) (sink : Sink) :
    (visit.node.evaluate visit.value visit.context sink).sink.failures =
      sink.failures ++ sink.wanted (visit.records.map Recorded.shown) := by
  rw [visit.shown_records]
  exact visit.node.evaluate_failures visit.value visit.context sink

theorem filter_records_sublist (visit : Visit) (trail : List Nat) :
    (visit.records.filter (·.trail = trail)).Sublist
      ((visit.own.flatten.map Recorded.own).filter (·.trail = trail) ++
        visit.branches.zipIdx.flatMap fun placed =>
          (placed.1.visit.records.map (.arrive placed.1.edit placed.2)).filter
            (·.trail = trail)) := by
  have entered := visit.node.mode.merge_sublist (visit.own.map (List.map Recorded.own) ++
    visit.branches.zipIdx.map fun placed =>
      placed.1.visit.records.map (.arrive placed.1.edit placed.2))
  rw [← visit.records_eq, List.flatten_append, ← List.map_flatten, ← List.flatMap_def] at entered
  rw [← List.filter_flatMap, ← List.filter_append]
  exact entered.filter _

/-- Of the failures that the visit at the end of a trail makes, each is recorded at most once, in
their order. -/
theorem found_sublist (visit : Visit) (trail : List Nat) :
    ((visit.records.filter (·.trail = trail)).map Recorded.found).Sublist
      ((visit.follow? trail).elim [] fun reached => reached.own.flatten) := by
  induction trail generalizing visit with
  | nil =>
      have nothing : (visit.branches.zipIdx.flatMap fun _ => ([] : List Recorded)) = [] := by simp
      have here := visit.filter_records_sublist []
      simp only [Recorded.filter_own_nil, Recorded.filter_arrive_nil, nothing, List.append_nil]
        at here
      have found := here.map Recorded.found
      rw [List.map_map] at found
      simpa [follow?, Recorded.own, Function.comp_def] using found
  | cons position rest ih =>
      -- Only the branch at the first position of the trail brings records with that trail.
      have below := visit.filter_records_sublist (position :: rest)
      have only := flatMap_zipIdx_at (fun branch : Branch =>
        (branch.visit.records.filter (·.trail = rest)).map (Recorded.arrive branch.edit position))
        visit.branches 0 position
      rw [Nat.zero_add] at only
      simp only [Recorded.filter_own_cons, Recorded.filter_arrive_cons, only, List.nil_append]
        at below
      refine (below.map _).trans ?_
      rw [follow?]
      cases visit.branches[position]? with
      | none => exact List.nil_sublist _
      | some branch =>
          rw [Option.elim_some, List.map_map]
          exact ih branch.visit

end Visit

end RuleTree
