import RuleTree.Leaf.Basic
import RuleTree.Leaf.Format
import RuleTree.Pattern.Search
import RuleTree.Text.Alphanumeric
import RuleTree.Text.Occurrence

/-!
The leaves that come with the library: lengths, bounds, sizes, substrings, patterns and formats,
and leaves made of a test. The length of a text counts its characters.
-/

set_option autoImplicit false

namespace RuleTree.Leaf

/-- Reports a failure unless a condition holds. -/
def demand (holds : Bool) (failure : Failure) : Option Failure :=
  if holds then none else some failure

/-! ### Lengths -/

/-- A text that is not empty. -/
def notEmpty : Leaf :=
  .of .text fun text =>
    demand (text ≠ "") (.new "not_empty" "The field {name} must not be empty.")

/-- A text of at least so many characters. -/
def minLength (least : Nat) : Leaf :=
  .of .text fun text => demand (least ≤ text.length) (.minLength least text.length)

/-- A text of at most so many characters. -/
def maxLength (most : Nat) : Leaf :=
  .of .text fun text => demand (text.length ≤ most) (.maxLength most text.length)

def exactLength (length : Nat) : Leaf :=
  .of .text fun text =>
    demand (text.length = length)
      ((Failure.new "exact_length"
          "The field {name} must be a string with a length of exactly '{length}'.")
        |>.withParam "length" (toString length) |>.withParam "actual" (toString text.length))

def lengthRange (least most : Nat) : Leaf :=
  .of .text fun text =>
    demand (least ≤ text.length ∧ text.length ≤ most) (.lengthRange least most text.length)

/-! ### Bounds -/

def boundFailure (code message bound : String) : Failure :=
  (Failure.new code message).withParam "bound" bound

/-- A value that is at least a bound. -/
def min (type : ScalarType) (bound : type.Carrier) : Leaf :=
  .of (.scalar type) fun x =>
    demand (type.le bound x)
      (boundFailure "min" "The field {name} must be at least {bound}." (type.plainText bound))

/-- A value that is at most a bound. -/
def max (type : ScalarType) (bound : type.Carrier) : Leaf :=
  .of (.scalar type) fun x =>
    demand (type.le x bound)
      (boundFailure "max" "The field {name} must be at most {bound}." (type.plainText bound))

def inRange (type : ScalarType) (least most : type.Carrier) : Leaf :=
  .of (.scalar type) fun x =>
    demand (type.le least x && type.le x most)
      (.outOfRange (type.plainText least) (type.plainText most))

def greaterThan (type : ScalarType) (bound : type.Carrier) : Leaf :=
  .of (.scalar type) fun x =>
    demand (type.lt bound x)
      (boundFailure "greater_than" "The field {name} must be greater than {bound}."
        (type.plainText bound))

def lessThan (type : ScalarType) (bound : type.Carrier) : Leaf :=
  .of (.scalar type) fun x =>
    demand (type.lt x bound)
      (boundFailure "less_than" "The field {name} must be less than {bound}."
        (type.plainText bound))

/-! ### Sizes -/

def sizeFailure (code message key : String) (bound actual : Nat) : Failure :=
  (Failure.new code message)
    |>.withParam key (toString bound) |>.withParam "actual" (toString actual)

/-- A collection of at least so many elements. -/
def minSize (least : Nat) : Leaf :=
  .of .items fun items =>
    demand (least ≤ items.length)
      (sizeFailure "min_size" "The field {name} must contain at least {min} elements." "min" least
        items.length)

/-- A collection of at most so many elements. -/
def maxSize (most : Nat) : Leaf :=
  .of .items fun items =>
    demand (items.length ≤ most)
      (sizeFailure "max_size" "The field {name} must contain at most {max} elements." "max" most
        items.length)

/-! ### Substrings and patterns -/

def patternFailure (code message pattern : String) : Failure :=
  (Failure.new code message).withParam "pattern" pattern

def contains (part : String) : Leaf :=
  .of .text fun text =>
    demand (Text.occurs part.toList text.toList)
      (patternFailure "contains" "The field {name} must contain '{pattern}'." part)

def startsWith (part : String) : Leaf :=
  .of .text fun text =>
    demand (part.toList.isPrefixOf text.toList)
      (patternFailure "starts_with" "The field {name} must start with '{pattern}'." part)

def endsWith (part : String) : Leaf :=
  .of .text fun text =>
    demand (part.toList.isSuffixOf text.toList)
      (patternFailure "ends_with" "The field {name} must end with '{pattern}'." part)

/-- A text of letters and numbers only. -/
def alphanumeric : Leaf :=
  .of .text fun text =>
    demand (text.toList.all Text.isAlphanumeric)
      (.invalidFormat "alphanumeric" "alphanumeric value")

/-- A text in which a pattern occurs; `source` is the text of the pattern. -/
def matching (source : String) (pattern : Pattern) : Leaf :=
  .of .text fun text =>
    demand (pattern.occursIn text)
      (patternFailure "matches_regex" "The field {name} must match '{pattern}'." source)

/-! ### Formats -/

def email : Leaf :=
  .of .text fun text => demand (Format.isEmail text) (.invalidFormat "email" "e-mail address")

def userName : Leaf :=
  .of .text fun text => demand (Format.isUserName text) (.invalidFormat "user_name" "user name")

/-! ### Tests -/

def satisfying (type : LeafType) (code message : String) (test : type.Carrier → Logged Bool) :
    Leaf :=
  ⟨type, fun input => (test input).bind fun holds => pure (demand holds (.new code message))⟩

end RuleTree.Leaf

namespace RuleTree.ContextualLeaf

/-- The key under which a limit demands that the validated object is a text. -/
def subjectKey : String := "instance"

/-- The key under which a limit reports a member and a value of its own. -/
def presetKey : String := "preset"

def limitFailure (key : String) (most : Int) : Failure :=
  let failure := (Failure.new "limit" "{name} exceeds the limit of {max}.").withParam "max"
    (toString most)
  if key = presetKey then (failure.withAttempted "preset value").withMember "Inner" else failure

/-- An input that is no larger than the number that the context holds under a key. Without such a
number there is no limit. -/
def limit (type : LeafType) (key : String) : ContextualLeaf :=
  ⟨type, fun input context =>
    if key = subjectKey then
      match context.requireText with
      | .ok _ => pure none
      | .error failure => pure (some failure)
    else
      match context.get? key .int with
      | some (.int most) =>
        pure (Leaf.demand ((type.size input : Int) ≤ most) (limitFailure key most))
      | _ => pure none⟩

end RuleTree.ContextualLeaf
