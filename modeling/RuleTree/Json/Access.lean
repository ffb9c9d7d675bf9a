import RuleTree.Json.Basic

/-!
Reading the members of a document. A member of another shape counts as missing, and a missing
member has a default: the empty text, the empty list, zero, `false`.
-/

set_option autoImplicit false

namespace RuleTree.Json

/-- The text of a member, if there is one. -/
def textAt? (document : Json) (key : String) : Option String := (document.field key).text?

def textAt (document : Json) (key : String) : String := (document.textAt? key).getD ""

def itemsAt (document : Json) (key : String) : List Json := ((document.field key).items?).getD []

def texts (document : Json) : List String :=
  (document.items?.getD []).map fun item => item.text?.getD ""

def textsAt (document : Json) (key : String) : List String := (document.field key).texts

def countAt (document : Json) (key : String) : Nat :=
  match document.field key with
  | .int n => n.toNat
  | _ => 0

def flagAt (document : Json) (key : String) : Bool := ((document.field key).bool?).getD false

def members : Json → List (String × Json)
  | .object members => members
  | _ => []

/-- A member that is given: it is there and is not `null`. -/
def given? (document : Json) (key : String) : Option Json :=
  match document.field key with
  | .null => none
  | member => some member

mutual

/-- The number of documents around the innermost one. -/
def depth : Json → Nat
  | .array items => depthOfItems items + 1
  | .object members => depthOfMembers members + 1
  | _ => 0

def depthOfItems : List Json → Nat
  | [] => 0
  | item :: rest => max item.depth (depthOfItems rest)

def depthOfMembers : List (String × Json) → Nat
  | [] => 0
  | (_, value) :: rest => max value.depth (depthOfMembers rest)

end

end RuleTree.Json
