import RuleTree.Tree.Verdict

/-!
Rules whose value type is known only when they run: a value of another type is an error.
-/

set_option autoImplicit false

namespace RuleTree

/-- A rule for values of one type. -/
structure ErasedRule where
  type : Ty
  rule : Rule

namespace ErasedRule

/-- The report of a value, if it is of the rule's type. -/
def validate (erased : ErasedRule) (value : Value) (context : Context) :
    Logged (Except Error (Option Report)) :=
  if value.type = erased.type then
    (erased.rule.failures? value context).bind fun report => pure (.ok report)
  else pure (.error (.typeMismatch erased.type.name))

end ErasedRule

end RuleTree
