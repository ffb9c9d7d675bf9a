import RuleTree.Json.Access
import RuleTree.RuleSet.Scope

/-!
Rule sets as documents. A stored list is read back as it is; a declaration may name one rule set
by its name alone, and doubled names count once.
-/

set_option autoImplicit false

namespace RuleTree

namespace RuleSets

/-- The names in a list of documents, all of which must be strings. -/
def names? : List Json → Option (List String)
  | [] => some []
  | item :: rest => item.text?.bind fun name => (names? rest).map (name :: ·)

/-- The list that a document gives: an array of strings, doubled names included. -/
def ofJson? (document : Json) : Option RuleSets :=
  (document.items?.bind names?).map RuleSets.mk

/-- The list that a declaration names: one name, or several. -/
def named : Json → RuleSets
  | .string name => .ofList [name]
  | document => .ofList document.texts

/-- The list that a declaration names, if it names any. -/
def named? : Json → Option RuleSets
  | .null => none
  | document => some (named document)

def toJson (sets : RuleSets) : Json := .array (sets.names.map .string)

end RuleSets

namespace ScopeStep

/-- Reads a step whose bodies are nested no deeper than `depth`. -/
def readWithin : Nat → Json → ScopeStep
  | 0, document => .unknown (document.textAt "c")
  | depth + 1, document =>
    let body := (document.itemsAt "body").map (readWithin depth)
    let names := RuleSets.named (document.field "names")
    match document.textAt "c" with
    | "declare" => .declare
    | "scoped" => .scoped names body (document.flagAt "try")
    | "enter" => .enter names body
    | "fail" => .fail
    | "panic" => .abandon
    | "catch" => .guarded body
    | name => .unknown name

def ofJson (document : Json) : ScopeStep := readWithin document.depth document

end ScopeStep

end RuleTree
