import RuleTree.Text.Record

/-!
Failures: what a rule reports about a value that it does not accept. A failure names the kind of
fault by a code, describes it by a message, and carries the members it is about, parameters for
the message, and the value that was tried.
-/

set_option autoImplicit false

namespace RuleTree

/-- One failure of a value. A failure without members is about the validated value itself. -/
structure Failure where
  code : String
  message : String
  members : List String
  params : List (String × String)
  attempted : Option String
  deriving DecidableEq, Repr

/-- A list of failures, in the order in which they were found. -/
abbrev Report := List Failure

namespace Failure

/-- A failure with a code and a message and nothing else. -/
def new (code message : String) : Failure := ⟨code, message, [], [], none⟩

def withMember (failure : Failure) (member : String) : Failure :=
  { failure with members := failure.members ++ [member] }

def withParam (failure : Failure) (key value : String) : Failure :=
  { failure with params := failure.params ++ [(key, value)] }

def withAttempted (failure : Failure) (value : String) : Failure :=
  { failure with attempted := some value }

def withMessage (failure : Failure) (message : String) : Failure :=
  { failure with message }

/-- The value of the first parameter with this key. -/
def param? (failure : Failure) (key : String) : Option String :=
  (failure.params.find? fun param => param.1 == key).map Prod.snd

/-- The first member. -/
def member? (failure : Failure) : Option String := failure.members.head?

/-- A failure of the validated value itself. -/
def isRoot (failure : Failure) : Bool := failure.members.isEmpty

/-! ### Common failures -/

def required : Failure := new "required" "The {name} field is required."

def minLength (least actual : Nat) : Failure :=
  (new "min_length" "The field {name} must be a string with a minimum length of '{min}'.")
    |>.withParam "min" (toString least) |>.withParam "actual" (toString actual)

def maxLength (most actual : Nat) : Failure :=
  (new "max_length" "The field {name} must be a string with a maximum length of '{max}'.")
    |>.withParam "max" (toString most) |>.withParam "actual" (toString actual)

def lengthRange (least most actual : Nat) : Failure :=
  (new "length"
    "The field {name} must be a string with a minimum length '{min}' and maximum length '{max}'.")
    |>.withParam "min" (toString least) |>.withParam "max" (toString most)
    |>.withParam "actual" (toString actual)

/-- A value is out of bounds, which are given by their texts. -/
def outOfRange (least most : String) : Failure :=
  (new "range" "The field {name} must be between {min} and {max}.")
    |>.withParam "min" least |>.withParam "max" most

/-- A text is not of a format. -/
def invalidFormat (code format : String) : Failure :=
  (new code "The {name} field is not a valid {format}.").withParam "format" format

/-- A value is not of the expected type. -/
def typeMismatch (expected : String) : Failure :=
  (new "type_mismatch" "The {name} field must be a {expected}.").withParam "expected" expected

/-! ### Texts -/

def line (failure : Failure) : String :=
  if failure.members.isEmpty then failure.message
  else "[" ++ String.intercalate ", " failure.members ++ "] " ++ failure.message

def describe (failure : Failure) : String :=
  Text.record "ValidationError"
    [("code", Text.quote failure.code), ("message", Text.quote failure.message),
     ("members", Text.listOf (failure.members.map Text.quote)),
     ("params", Text.listOf (failure.params.map fun param =>
        "(" ++ Text.quote param.1 ++ ", " ++ Text.quote param.2 ++ ")")),
     ("attempted_value", Text.optionalQuoted failure.attempted)]

end Failure

namespace Report

def forMember (report : Report) (member : String) : Report :=
  report.filter fun failure => failure.members.contains member

/-- The messages in order. -/
def messages (report : Report) : List String := report.map Failure.message

def lines (report : Report) : String := String.intercalate "\n" (report.map Failure.line)

end Report

end RuleTree
