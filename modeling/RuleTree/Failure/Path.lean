import RuleTree.Failure.Basic

/-!
Member paths. The path of a failure is built from the inside out: a property puts its name in
front of the members that its rules report, and an element of a collection its position in
brackets. `repair` puts a whole report under a path and leaves the members alone that lie under
it already.
-/

set_option autoImplicit false

namespace RuleTree

namespace Path

/-- The path of a member below a parent. The empty path is neutral, and a position in brackets
follows its parent without a point. -/
def compose (parent member : String) : String :=
  if parent = "" then member
  else if member = "" then parent
  else if member.toList.head? = some '[' then parent ++ member
  else parent ++ "." ++ member

def index (parent : String) (position : Nat) : String :=
  parent ++ "[" ++ toString position ++ "]"

/-- What is left of a list after another one at its start. -/
def remainder? : List Char → List Char → Option (List Char)
  | [], rest => some rest
  | _ :: _, [] => none
  | c :: root, d :: rest => if c = d then remainder? root rest else none

/-- The member is the root or lies below it: after the root it ends, or a point or an opening
bracket follows. -/
def isUnder (member root : String) : Bool :=
  match remainder? root.toList member.toList with
  | some [] => true
  | some (c :: _) => c == '.' || c == '['
  | none => false

/-- Puts a member below a root unless it lies under it already. -/
def repair (root member : String) : String :=
  if isUnder member root then member else compose root member

end Path

namespace Failure

/-- Puts the members of a failure below a path; a failure without members is then about the path
itself. -/
def below (path : String) (failure : Failure) : Failure :=
  if path = "" then failure
  else if failure.members.isEmpty then { failure with members := [path] }
  else { failure with members := failure.members.map (Path.compose path) }

/-- Puts the members of a failure below a path unless they lie under it already. -/
def repair (path : String) (failure : Failure) : Failure :=
  if path = "" then failure
  else if failure.members.isEmpty then { failure with members := [path] }
  else { failure with members := failure.members.map (Path.repair path) }

end Failure

namespace Report

/-- Repairs every failure of a report; without a path nothing changes. -/
def repair (report : Report) (path : Option String) : Report :=
  match path with
  | some path => report.map (Failure.repair path)
  | none => report

end Report

end RuleTree
