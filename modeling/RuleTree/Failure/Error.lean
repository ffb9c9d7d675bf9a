import RuleTree.Failure.Basic

/-!
Errors: a rejected value as the outcome of a demand, and faults in the use of the library. A
bridge to declared annotations may answer with an error too; it is then reported as a failure.
-/

set_option autoImplicit false

namespace RuleTree

/-- An error. -/
inductive Error where
  /-- A value was rejected. -/
  | rejected (failure : Failure)
  /-- A second nested validator was attached where only one can be. -/
  | alreadyAttached (site alternative : String)
  /-- An argument is empty that must not be. -/
  | emptyArgument (argument : String)
  /-- A value is not of the expected type. -/
  | typeMismatch (expected : String)
  deriving DecidableEq, Repr

namespace Error

def message : Error → String
  | .rejected failure => failure.line
  | .alreadyAttached site alternative =>
    "a nested validator is already attached to " ++ site ++ "; use `" ++ alternative ++
      "` to define the nested rules within a single validator"
  | .emptyArgument argument => "argument `" ++ argument ++ "` must not be empty"
  | .typeMismatch expected => "value is not a `" ++ expected ++ "`"

def failure? : Error → Option Failure
  | .rejected failure => some failure
  | _ => none

/-- The failure under which an error is reported. -/
def toFailure : Error → Failure
  | .rejected failure => failure
  | .typeMismatch expected => .typeMismatch expected
  | error => .new "engine_fault" error.message

def describe : Error → String
  | .rejected failure => Text.wrapped "Validation" failure.describe
  | .alreadyAttached site alternative =>
    Text.record "NestedValidatorAlreadySet"
      [("site", Text.quote site), ("alternative", Text.quote alternative)]
  | .emptyArgument argument => Text.wrapped "EmptyArgument" (Text.quote argument)
  | .typeMismatch expected => Text.record "TypeMismatch" [("expected", Text.quote expected)]

end Error

end RuleTree
