/-!
Places in a declaration. A declaration is a document of steps within steps, so a step is found by
the member and the position that lead to it at each level.
-/

set_option autoImplicit false

namespace RuleTree

/-- Where a step stands in a declaration: the member and the position at each level, innermost
first. Two steps never stand at the same place. -/
structure Place where
  path : List (String × Nat)
  deriving DecidableEq, Repr

namespace Place

def root : Place := ⟨[]⟩

/-- The place of a document that is the only one in a member. -/
def member (place : Place) (key : String) : Place := ⟨(key, 0) :: place.path⟩

def item (place : Place) (key : String) (position : Nat) : Place :=
  ⟨(key, position) :: place.path⟩

end Place

end RuleTree
