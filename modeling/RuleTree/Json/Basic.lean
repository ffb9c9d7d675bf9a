import RuleTree.Number.Binary

/-!
Documents: the values of JSON. A number keeps the kind of its token, an integer or a
floating-point number, and an object keeps its members in the order of their keys.
-/

set_option autoImplicit false

namespace RuleTree

/-- A JSON document. -/
inductive Json where
  | null
  | bool (value : Bool)
  | int (value : Int)
  | float (value : Number.Binary)
  | string (value : String)
  | array (items : List Json)
  | object (members : List (String × Json))

namespace Json

instance : Inhabited Json := ⟨.null⟩

/-- The integers that a document holds as integers lie between these bounds. -/
def leastInt : Int := -9223372036854775808

/-- The greatest integer that a document holds as an integer. -/
def greatestInt : Int := 18446744073709551615

/-- The greatest integer that fits into 64 bits with a sign. -/
def greatestSigned : Int := 9223372036854775807

/-- Puts a member into a list of members sorted by key, in place of one with the same key. -/
def insertMember (key : String) (value : Json) : List (String × Json) → List (String × Json)
  | [] => [(key, value)]
  | (other, old) :: rest =>
    if key = other then (key, value) :: rest
    else if key < other then (key, value) :: (other, old) :: rest
    else (other, old) :: insertMember key value rest

/-- The object with these members: sorted by key, and of two members with one key the later. -/
def ofMembers (members : List (String × Json)) : Json :=
  .object (members.foldl (fun sorted member => insertMember member.1 member.2 sorted) [])

/-- The member of an object, if the document is an object and has it. -/
def member? (key : String) : Json → Option Json
  | .object members => (members.find? fun member => member.1 == key).map Prod.snd
  | _ => none

/-- The member of an object; a missing member is `null`. -/
def field (document : Json) (key : String) : Json := (document.member? key).getD .null

def text? : Json → Option String
  | .string value => some value
  | _ => none

def items? : Json → Option (List Json)
  | .array items => some items
  | _ => none

def bool? : Json → Option Bool
  | .bool value => some value
  | _ => none

/-- An integer token that fits into 64 bits with a sign. -/
def signed? : Json → Option Int
  | .int value => if value ≤ greatestSigned then some value else none
  | _ => none

/-- A number of either kind, as a floating-point number. -/
def double? : Json → Option Number.Binary
  | .int value => some (Number.BinaryFormat.double.ofInt value)
  | .float value => some value
  | _ => none

/-- An integer within the bounds is a number of the document; beyond them it is written as a
string of digits. -/
def ofInt (value : Int) : Json :=
  if leastInt ≤ value ∧ value ≤ greatestInt then .int value else .string (toString value)

/-- The number of characters, items or members; zero for the other documents. -/
def size : Json → Nat
  | .string value => value.length
  | .array items => items.length
  | .object members => members.length
  | _ => 0

mutual

/-- Two documents are the same when they have the same shape and equal scalars. An integer never
equals a floating-point number, and the two floating-point zeros are equal. -/
def same : Json → Json → Bool
  | .null, .null => true
  | .bool x, .bool y => x == y
  | .int x, .int y => x == y
  | .float x, .float y => x.sameNumber y
  | .string x, .string y => x == y
  | .array xs, .array ys => sameItems xs ys
  | .object xs, .object ys => sameMembers xs ys
  | _, _ => false

/-- Two lists are the same when they are so item by item. -/
def sameItems : List Json → List Json → Bool
  | [], [] => true
  | x :: xs, y :: ys => same x y && sameItems xs ys
  | _, _ => false

/-- Two lists of members are the same when they are so member by member. -/
def sameMembers : List (String × Json) → List (String × Json) → Bool
  | [], [] => true
  | (key, x) :: xs, (other, y) :: ys => key == other && same x y && sameMembers xs ys
  | _, _ => false

end

end Json

end RuleTree
