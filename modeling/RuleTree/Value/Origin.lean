import RuleTree.Value.Type

/-!
Where values come from. Two values may be equal and yet not be one and the same: a proxy remembers
reports of values by what they are, not by what they look like. A value is the same as another if
both were reached in the same way: given by the caller, or read from the same part of the same
value as the same type.
-/

set_option autoImplicit false

namespace RuleTree

/-- Where a value comes from. -/
inductive Origin where
  /-- The caller gave it, as the value of this number. -/
  | given (number : Nat)
  /-- A transformation made it. It is gone when the rules that asked for it have run. -/
  | made
  /-- It stands for a member that a record does not have. All missing members are one value. -/
  | missing
  /-- It is a member of a record, read as a type. -/
  | member (record : Origin) (key : String) (type : Ty)
  /-- It is an element of a collection. -/
  | item (collection : Origin) (position : Nat)
  deriving DecidableEq, Repr

namespace Origin

/-- The value is made by a transformation, or is a part of one that is. -/
def isMade : Origin → Bool
  | .given _ => false
  | .made => true
  | .missing => false
  | .member record _ _ => record.isMade
  | .item collection _ => collection.isMade

end Origin

end RuleTree
