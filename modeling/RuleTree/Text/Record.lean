import RuleTree.Text.Quoted

/-!
The descriptive form of structured values: a name with its fields in braces, lists in brackets,
and optional values under the word `Some` or as `None`.
-/

set_option autoImplicit false

namespace RuleTree.Text

def listOf (items : List String) : String := "[" ++ String.intercalate ", " items ++ "]"

def setOf (items : List String) : String := inBraces (String.intercalate ", " items)

def wrapped (name value : String) : String := name ++ "(" ++ value ++ ")"

def optional : Option String → String
  | some value => wrapped "Some" value
  | none => "None"

/-- An optional text, in quotation marks if present. -/
def optionalQuoted (text : Option String) : String := optional (text.map quote)

def truth (value : Bool) : String := if value then "true" else "false"

def record (name : String) (fields : List (String × String)) : String :=
  let shown := fields.map fun field => field.1 ++ ": " ++ field.2
  name ++ " " ++ inBraces (" " ++ String.intercalate ", " shown ++ " ")

/-- A name with some of its fields; two points stand for the others. -/
def partialRecord (name : String) (fields : List (String × String)) : String :=
  let shown := fields.map fun field => field.1 ++ ": " ++ field.2
  name ++ " " ++ inBraces (" " ++ String.intercalate ", " (shown ++ [".."]) ++ " ")

end RuleTree.Text
