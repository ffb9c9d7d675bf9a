import RuleTree.Context.Basic
import RuleTree.RuleSet.Document

/-!
What a context shows: a document of all that a rule can see of it.
-/

set_option autoImplicit false

namespace RuleTree

namespace Context

/-- The names of a selector as a document. -/
def namesJson (sets : Option RuleSets) : Json :=
  match sets with
  | some sets => sets.toJson
  | none => .null

def textJson (text : Option String) : Json :=
  match text with
  | some text => .string text
  | none => .null

def record? (context : Context) : Option Json :=
  match context.subject with
  | some (.record _ _ document) => some document
  | _ => none

def floor? (context : Context) : Option Int := context.resolver.bind Resolver.floor?

def block? (context : Context) : Option (List String) := context.resolver.bind Resolver.block?

/-- What a context shows, as a document. -/
def snapshot (context : Context) : Json :=
  .ofMembers
    [("member", textJson context.member), ("display", textJson context.display),
     ("name", .string context.messageName), ("rule_sets", namesJson context.ruleSets),
     ("default", namesJson context.defaultRuleSets), ("bridge", .bool context.bridge.isSome),
     ("enabled", .bool context.annotationsEnabled), ("messages", .bool context.messages.isSome),
     ("floor", (context.floor?.map Json.ofInt).getD .null),
     ("resolver", .bool context.resolver.isSome), ("instance", context.record?.getD .null)]

end Context

end RuleTree
