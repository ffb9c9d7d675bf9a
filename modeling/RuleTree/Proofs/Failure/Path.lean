import RuleTree.Failure.Path

/-!
Laws of member paths. Paths form a monoid: the empty path is neutral, and it does not matter
whether a path is composed from the inside out or from the root down. Failures are put below paths
accordingly.
-/

set_option autoImplicit false

namespace RuleTree

namespace Path

@[simp] theorem compose_empty_left (member : String) : compose "" member = member := by
  simp [compose]

@[simp] theorem compose_empty_right (parent : String) : compose parent "" = parent := by
  simp +contextual [compose]

/-- What stands between a parent and a member that are not empty. -/
def separator (member : String) : String :=
  if member.toList.head? = some '[' then "" else "."

theorem compose_of_ne {parent member : String} (parentNonempty : parent ≠ "")
    (memberNonempty : member ≠ "") :
    compose parent member = parent ++ separator member ++ member := by
  unfold compose separator
  rw [if_neg parentNonempty, if_neg memberNonempty]
  split
  · rw [String.append_empty]
  · rfl

theorem compose_ne_empty {parent : String} (nonempty : parent ≠ "") (member : String) :
    compose parent member ≠ "" := by
  by_cases memberEmpty : member = ""
  · rwa [memberEmpty, compose_empty_right]
  · rw [compose_of_ne nonempty memberEmpty]
    simp [nonempty]

theorem separator_compose {middle : String} (nonempty : middle ≠ "") (member : String) :
    separator (compose middle member) = separator middle := by
  by_cases memberEmpty : member = ""
  · rw [memberEmpty, compose_empty_right]
  · rw [compose_of_ne nonempty memberEmpty]
    have front : middle.toList ≠ [] := by simpa using nonempty
    obtain ⟨head, rest, shape⟩ := List.exists_cons_of_ne_nil front
    simp [separator, shape]

/-- Composing from the inside out and from the root down give the same path. -/
theorem compose_assoc (parent middle member : String) :
    compose (compose parent middle) member = compose parent (compose middle member) := by
  by_cases parentEmpty : parent = ""
  · simp [parentEmpty]
  by_cases middleEmpty : middle = ""
  · simp [middleEmpty]
  by_cases memberEmpty : member = ""
  · simp [memberEmpty]
  calc
    compose (compose parent middle) member
      = compose parent middle ++ separator member ++ member :=
        compose_of_ne (compose_ne_empty parentEmpty middle) memberEmpty
    _ = parent ++ separator middle ++ (middle ++ separator member ++ member) := by
        rw [compose_of_ne parentEmpty middleEmpty]
        simp only [String.append_assoc]
    _ = parent ++ separator middle ++ compose middle member := by
        rw [compose_of_ne middleEmpty memberEmpty]
    _ = compose parent (compose middle member) := by
        rw [compose_of_ne parentEmpty (compose_ne_empty middleEmpty member),
          separator_compose middleEmpty]

/-- The path that segments lead along, from the root down. -/
def join (segments : List String) : String := segments.foldl compose ""

@[simp] theorem join_nil : join [] = "" := rfl

@[simp] theorem join_append_singleton (segments : List String) (segment : String) :
    join (segments ++ [segment]) = compose (join segments) segment := by
  simp [join]

/-- Members below a path. Without members it is the path itself that is meant, unless it is
empty. -/
def place (path : String) : List String → List String
  | [] => if path = "" then [] else [path]
  | members => members.map (compose path)

theorem place_empty (members : List String) : place "" members = members := by
  cases members with
  | nil => rfl
  | cons member rest => exact List.map_id'' compose_empty_left _

theorem place_place (outer inner : String) (members : List String) :
    place outer (place inner members) = place (compose outer inner) members := by
  cases members with
  | cons member rest => simp [place, compose_assoc]
  | nil =>
      by_cases innerEmpty : inner = ""
      · simp [innerEmpty, place]
      · by_cases outerEmpty : outer = ""
        · simp [outerEmpty, innerEmpty, place]
        · simp [place, innerEmpty, compose_ne_empty outerEmpty]

/-- The segment of an element is its position in brackets. -/
theorem index_empty (position : Nat) : index "" position = "[" ++ toString position ++ "]" := by
  rw [index, String.empty_append]

end Path

namespace Failure

theorem below_eq (path : String) (failure : Failure) :
    failure.below path = { failure with members := Path.place path failure.members } := by
  obtain ⟨code, message, members, params, attempted⟩ := failure
  unfold below
  by_cases root : path = ""
  · simp [root, Path.place_empty]
  · cases members <;> simp [root, Path.place]

theorem below_empty : below "" = id := by
  funext failure
  rw [below_eq, Path.place_empty]
  rfl

/-- A failure is put below an inner and then below an outer path as it is put below both. -/
theorem below_below (outer inner : String) (failure : Failure) :
    (failure.below inner).below outer = failure.below (Path.compose outer inner) := by
  simp only [below_eq, Path.place_place]

theorem map_below_below (outer inner : String) (report : Report) :
    (report.map (below inner)).map (below outer) =
      report.map (below (Path.compose outer inner)) := by
  simp only [List.map_map, Function.comp_def, below_below]

end Failure

end RuleTree
