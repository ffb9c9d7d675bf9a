import RuleTree.Json.Basic
import RuleTree.Text.Blank

/-!
Transformations of documents as data.
-/

set_option autoImplicit false

namespace RuleTree

/-- A transformation of documents. A document of a shape that the transformation is not for stays
as it is. -/
inductive Transform where
  /-- Leaves every document as it is. -/
  | identity
  | constant (document : Json)
  /-- Removes the blanks at both ends of a string. -/
  | trim
  /-- Turns the ASCII letters of a string into small ones. -/
  | lower
  /-- Appends a text to a string. -/
  | append (text : String)
  /-- Removes the `null` items of an array. -/
  | dropNulls
  /-- Reverses an array. -/
  | reverse
  /-- Reverses the sign of an integer. -/
  | negate

namespace Transform

def apply : Transform → Json → Json
  | .constant document, _ => document
  | .trim, .string text => .string (Text.trim text)
  | .lower, .string text => .string (String.ofList (text.toList.map Char.toLower))
  | .append suffix, .string text => .string (text ++ suffix)
  | .dropNulls, .array items => .array (items.filter fun item => !item.same .null)
  | .reverse, .array items => .array items.reverse
  | .negate, .int n => if n ≤ Json.greatestSigned then .ofInt (-n) else .int n
  | _, document => document

end Transform

end RuleTree
