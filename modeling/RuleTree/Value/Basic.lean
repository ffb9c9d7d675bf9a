import RuleTree.Value.Origin
import RuleTree.Json.Printer
import RuleTree.Text.Record
import RuleTree.Text.Blank

/-!
Values under validation. A value knows its type; what rules see of it are views: its text, its
elements, the object it leads to, its descriptive form, and the document it stands for.
-/

set_option autoImplicit false

namespace RuleTree

/-- What identifies a shared value: its identity, which no other value ever has, and its address,
which another value may have once this one is gone. -/
structure Handle where
  identity : Origin
  address : Nat
  deriving DecidableEq, Repr

/-- A value. -/
inductive Value where
  | str (text : String)
  | string (text : String)
  | int (type : IntType) (n : Int)
  | double (x : Number.Binary)
  | single (x : Number.Binary)
  | bool (b : Bool)
  | char (c : Char)
  | json (document : Json)
  /-- A record of a named type, with the document that holds its members. -/
  | record (name : String) (origin : Origin) (document : Json)
  /-- An optional value of this type that is absent. -/
  | absent (type : Ty)
  /-- An optional value that is present. -/
  | present (value : Value)
  | reference (value : Value)
  | boxed (value : Value)
  | shared (handle : Handle) (value : Value)
  | collection (form : CollectionForm) (element : Ty) (items : List Value)

namespace Value

instance : Inhabited Value := ⟨.json .null⟩

def type : Value → Ty
  | .str _ => .str
  | .string _ => .string
  | .int type _ => .int type
  | .double _ => .double
  | .single _ => .single
  | .bool _ => .bool
  | .char _ => .char
  | .json _ => .json
  | .record name _ _ => .record name
  | .absent type => .optional type
  | .present value => .optional value.type
  | .reference value => .reference value.type
  | .boxed value => .boxed value.type
  | .shared _ value => .shared value.type
  | .collection form element _ => .collection form element

/-- The text of a value that is or leads to one. -/
def text? : Value → Option String
  | .str text => some text
  | .string text => some text
  | .json document => document.text?
  | .present value => value.text?
  | .reference value => value.text?
  | .boxed value => value.text?
  | .shared _ value => value.text?
  | _ => none

/-- There is a value at all: an absent one is missing, and so are `null` and a blank text. -/
def isPresent : Value → Bool
  | .str text => !Text.isBlank text
  | .string text => !Text.isBlank text
  | .json .null => false
  | .json (.string text) => !Text.isBlank text
  | .absent _ => false
  | .present value => value.isPresent
  | .reference value => value.isPresent
  | .boxed value => value.isPresent
  | .shared _ value => value.isPresent
  | _ => true

/-- The value is an empty text. -/
def isEmptyText (value : Value) : Bool := value.text? == some ""

/-- The elements of a collection or of an array; other values have none. -/
def elements : Value → List Value
  | .collection _ _ items => items
  | .json (.array items) => items.map .json
  | .present value => value.elements
  | _ => []

/-- The object that is reached from a value. An absent value holds none. -/
def nested? : Reach → Value → Option Value
  | .itself, value => some value
  | .inside, .present value => some value
  | .inside, .boxed value => some value
  | .inside, .shared _ value => some value
  | .inside, _ => none

mutual

def describe : Value → String
  | .str text => Text.quote text
  | .string text => Text.quote text
  | .int _ n => toString n
  | .double x => Number.Layout.recorded.write .double x
  | .single x => Number.Layout.recorded.write .single x
  | .bool b => Text.truth b
  | .char c => Text.quoteChar c
  | .json document => document.display
  | .record _ _ document => document.display
  | .absent _ => Text.optional none
  | .present value => Text.optional (some value.describe)
  | .reference value => value.describe
  | .boxed value => value.describe
  | .shared _ value => value.describe
  | .collection .sortedSet _ items => Text.setOf (describeAll items)
  | .collection .hashSet _ items => Text.setOf (describeAll items)
  | .collection _ _ items => Text.listOf (describeAll items)

def describeAll : List Value → List String
  | [] => []
  | value :: rest => value.describe :: describeAll rest

end

/-- A floating-point number as a document; one that is not finite is a string. -/
def floatDocument (x : Number.Binary) : Json :=
  if x.isFinite then .float x else .string (Number.Layout.plain.write .double x)

mutual

/-- The document that a value stands for. Predicates look at this document. -/
def toJson : Value → Json
  | .str text => .string text
  | .string text => .string text
  | .int _ n => .ofInt n
  | .double x => floatDocument x
  | .single x => floatDocument (Number.BinaryFormat.double.convert x)
  | .bool b => .bool b
  | .char c => .string c.toString
  | .json document => document
  | .record _ _ document => document
  | .absent _ => .null
  | .present value => value.toJson
  | .reference value => value.toJson
  | .boxed value => value.toJson
  | .shared _ value => value.toJson
  | .collection _ _ items => .array (toJsonAll items)

def toJsonAll : List Value → List Json
  | [] => []
  | value :: rest => value.toJson :: toJsonAll rest

end

end Value

end RuleTree
