/-!
Occurrences of one text in another.
-/

set_option autoImplicit false

namespace RuleTree.Text

/-- The first text occurs in the second: it is at the start of some end of it. -/
def occurs (part : List Char) : List Char → Bool
  | [] => part.isEmpty
  | c :: rest => part.isPrefixOf (c :: rest) || occurs part rest

end RuleTree.Text
