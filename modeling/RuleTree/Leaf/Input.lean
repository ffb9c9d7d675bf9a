import RuleTree.Value.Basic
import RuleTree.Failure.Basic

/-!
The inputs of leaf rules. A leaf examines a text, a scalar or the items of a collection; a value
is viewed as such an input. An absent value has no view and is not examined, and a document of
another shape is a failure of its own.
-/

set_option autoImplicit false

namespace RuleTree

/-- The types of values with an order. -/
inductive ScalarType where
  | int (type : IntType)
  | double
  | single
  | bool
  | char
  deriving DecidableEq, Repr

namespace ScalarType

abbrev Carrier : ScalarType → Type
  | .int _ => Int
  | .double => Number.Binary
  | .single => Number.Binary
  | .bool => Bool
  | .char => Char

/-- The first value is at most the second. Nothing is comparable with a floating-point value that
is not a number. -/
def le : (type : ScalarType) → type.Carrier → type.Carrier → Bool
  | .int _, x, y => decide (x ≤ y)
  | .double, x, y => x.le y
  | .single, x, y => x.le y
  | .bool, x, y => !x || y
  | .char, x, y => decide (x.toNat ≤ y.toNat)

/-- The first value is smaller than the second. -/
def lt : (type : ScalarType) → type.Carrier → type.Carrier → Bool
  | .int _, x, y => decide (x < y)
  | .double, x, y => x.lt y
  | .single, x, y => x.lt y
  | .bool, x, y => !x && y
  | .char, x, y => decide (x.toNat < y.toNat)

/-- The text of a bound in a message. -/
def plainText : (type : ScalarType) → type.Carrier → String
  | .int _, x => toString x
  | .double, x => Number.Layout.plain.write .double x
  | .single, x => Number.Layout.plain.write .single x
  | .bool, x => Text.truth x
  | .char, x => x.toString

def toValue : (type : ScalarType) → type.Carrier → Value
  | .int type, x => .int type x
  | .double, x => .double x
  | .single, x => .single x
  | .bool, x => .bool x
  | .char, x => .char x

def ofValue? : (type : ScalarType) → Value → Option type.Carrier
  | .int type, .int other n => if type = other then some n else none
  | .double, .double x => some x
  | .single, .single x => some x
  | .bool, .bool b => some b
  | .char, .char c => some c
  | _, _ => none

def ofJson? : (type : ScalarType) → Json → Option type.Carrier
  | .int type, document => document.signed?.filter type.holds
  | .double, document => document.double?
  | .single, document => document.double?.map Number.BinaryFormat.single.convert
  | .bool, document => document.bool?
  | .char, _ => none

def type : ScalarType → Ty
  | .int type => .int type
  | .double => .double
  | .single => .single
  | .bool => .bool
  | .char => .char

end ScalarType

/-- The types of inputs of leaves. -/
inductive LeafType where
  | text
  | scalar (type : ScalarType)
  | items
  deriving DecidableEq, Repr

namespace LeafType

abbrev Carrier : LeafType → Type
  | .text => String
  | .scalar type => type.Carrier
  | .items => List Value

/-- What a document of another shape should have been. -/
def expected : LeafType → String
  | .text => "string"
  | .scalar (.int _) => "integer"
  | .scalar .double => "number"
  | .scalar .single => "number"
  | .scalar .bool => "boolean"
  | .scalar .char => "character"
  | .items => "array"

def describe : (type : LeafType) → type.Carrier → String
  | .text, input => Text.quote input
  | .scalar type, x => (type.toValue x).describe
  | .items, input => Text.listOf (Value.describeAll input)

def toJson : (type : LeafType) → type.Carrier → Json
  | .text, input => .string input
  | .scalar type, x => (type.toValue x).toJson
  | .items, input => .array (Value.toJsonAll input)

/-- The number of characters or items of an input; scalars have none. -/
def size : (type : LeafType) → type.Carrier → Nat
  | .text, input => input.length
  | .scalar _, _ => 0
  | .items, input => input.length

def ofJson? : (type : LeafType) → Json → Option type.Carrier
  | .text, document => document.text?
  | .scalar type, document => type.ofJson? document
  | .items, document => document.items?.map fun documents => documents.map Value.json

def ofValue? : (type : LeafType) → Value → Option type.Carrier
  | .text, .str s => some s
  | .text, .string s => some s
  | .text, .boxed (.str s) => some s
  | .text, .shared _ (.str s) => some s
  | .text, _ => none
  | .scalar type, value => type.ofValue? value
  | .items, .collection .slice _ values => some values
  | .items, .collection .list _ values => some values
  | .items, _ => none

end LeafType

def Value.view (type : LeafType) : Value → Except Failure (Option type.Carrier)
  | .absent _ => .ok none
  | .present value => value.view type
  | .reference value => value.view type
  | .json .null => .ok none
  | .json document =>
    match type.ofJson? document with
    | some input => .ok (some input)
    | none => .error (.typeMismatch type.expected)
  | value =>
    match type.ofValue? value with
    | some input => .ok (some input)
    | none => .error (.typeMismatch type.expected)

end RuleTree
