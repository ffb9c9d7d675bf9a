import RuleTree.Leaf.Input

/-!
What types support. The values of every type can be read, but only those of some types tell whether
there is a value at all, hold elements, or can be viewed as an input of a leaf.
-/

set_option autoImplicit false

namespace RuleTree.Ty

/-- A value of the type tells whether it is there: shared values, queues and sets do not. -/
def supportsPresence : Ty → Bool
  | .shared _ => false
  | .collection form _ => form = .slice || form = .list
  | .optional type => type.supportsPresence
  | .reference type => type.supportsPresence
  | .boxed type => type.supportsPresence
  | _ => true

def supportsElements : Ty → Bool
  | .json => true
  | .collection _ _ => true
  | .optional type => type.supportsElements
  | _ => false

/-- A value of the type can be viewed as such an input. A document can be viewed as a text, as a
number or a truth value, and as items. -/
def supportsView (input : LeafType) : Ty → Bool
  | .json => input ∈ [.text, .scalar (.int .i64), .scalar .double, .scalar .bool, .items]
  | .str => input = .text
  | .string => input = .text
  | .boxed .str => input = .text
  | .shared .str => input = .text
  | .int type => input = .scalar (.int type)
  | .double => input = .scalar .double
  | .single => input = .scalar .single
  | .bool => input = .scalar .bool
  | .char => input = .scalar .char
  | .optional type => type.supportsView input
  | .reference type => type.supportsView input
  | .collection .slice _ => input = .items
  | .collection .list _ => input = .items
  | _ => false

end RuleTree.Ty
