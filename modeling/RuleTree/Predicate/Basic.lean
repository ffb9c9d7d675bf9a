import RuleTree.Context.Snapshot
import RuleTree.Text.Occurrence
import RuleTree.Tree.Basic

/-!
Predicates as data: tests of the document that a value stands for, and of the context.
-/

set_option autoImplicit false

namespace RuleTree

/-- A test of a document. -/
inductive Predicate where
  | constant (holds : Bool)
  /-- The document is this one. -/
  | equals (document : Json)
  | isNull
  /-- A string that contains this text. -/
  | contains (text : String)
  /-- A string that starts with this text. -/
  | startsWith (text : String)
  /-- At least so many characters, items or members. -/
  | sizeAtLeast (least : Nat)
  /-- A number that is at least this one. -/
  | atLeast (least : Number.Binary)
  /-- The member of a key passes a test. -/
  | field (key : String) (test : Predicate)
  | negation (test : Predicate)
  | conjunction (tests : List Predicate)
  | disjunction (tests : List Predicate)
  /-- Remarks the document and the result of a test. -/
  | remarked (label : Json) (test : Predicate)
  /-- The context item of a key and a type stands for this document. -/
  | contextItem (key : String) (type : ItemType) (document : Json)
  /-- An integer that is at least the number of the floor service. -/
  | aboveFloor
  /-- No string that ends with one of the names of the block service. -/
  | notBlocked
  /-- The validated object is a record that passes a test. -/
  | subject (test : Predicate)
  /-- The selector has this name. -/
  | selected (name : String)
  /-- Remarks what the context shows. -/
  | snapshot

namespace Predicate

def onText (document : Json) (test : List Char → Bool) : Bool :=
  match document.text? with
  | some text => test text.toList
  | none => false

/-- The text ends with none of the names. -/
def endsWithNone (names : List String) (text : List Char) : Bool :=
  names.all fun name => !name.toList.isSuffixOf text

/-- The document is no string that ends with one of the names. -/
def notBlockedBy (names : List String) (document : Json) : Bool :=
  match document.text? with
  | some text => endsWithNone names text.toList
  | none => true

mutual

/-- Tests a document, in a context if there is one. Without a context nothing is blocked, and
every other test of the context fails. -/
def holds : Predicate → Json → Option Context → Logged Bool
  | .constant holds, _, _ => pure holds
  | .equals expected, document, _ => pure (document.same expected)
  | .isNull, document, _ => pure (document.same .null)
  | .contains text, document, _ => pure (onText document (Text.occurs text.toList))
  | .startsWith text, document, _ => pure (onText document text.toList.isPrefixOf)
  | .sizeAtLeast least, document, _ => pure (decide (least ≤ document.size))
  | .atLeast least, document, _ =>
    pure (match document.double? with
      | some number => least.le number
      | none => false)
  | .field key test, document, context => test.holds (document.field key) context
  | .negation test, document, context =>
    (test.holds document context).bind fun result => pure !result
  | .conjunction tests, document, context => allHold tests document context
  | .disjunction tests, document, context => someHolds tests document context
  | .remarked label test, document, context =>
    (test.holds document context).bind fun result =>
      (Logged.remark (.array [label, document, .bool result])).bind fun _ => pure result
  | .contextItem key type expected, _, context =>
    pure (match context with
      | some context =>
        (((context.get? key type).map Item.toJson).getD .null).same expected
      | none => false)
  | .aboveFloor, document, context =>
    pure (match context.bind Context.floor?, document.signed? with
      | some least, some number => decide (least ≤ number)
      | _, _ => false)
  | .notBlocked, document, context =>
    pure (match context.bind Context.block? with
      | some names => notBlockedBy names document
      | none => true)
  | .subject test, _, context =>
    match context.bind Context.record? with
    | some document => test.holds document context
    | none => pure false
  | .selected name, _, context =>
    pure (match context.bind Context.ruleSets with
      | some sets => sets.contains name
      | none => false)
  | .snapshot, _, context =>
    match context with
    | some context => (Logged.remark context.snapshot).bind fun _ => pure true
    | none => pure true

/-- All tests hold; after the first that does not, none is made. -/
def allHold : List Predicate → Json → Option Context → Logged Bool
  | [], _, _ => pure true
  | test :: rest, document, context =>
    (test.holds document context).bind fun result =>
      if result then allHold rest document context else pure false

/-- Some test holds; after the first that does, none is made. -/
def someHolds : List Predicate → Json → Option Context → Logged Bool
  | [], _, _ => pure false
  | test :: rest, document, context =>
    (test.holds document context).bind fun result =>
      if result then pure true else someHolds rest document context

end

def toTest (predicate : Predicate) : Test := fun value => predicate.holds value.toJson none

def toContextTest (predicate : Predicate) : ContextTest :=
  fun value context => predicate.holds value.toJson (some context)

def toInputTest (predicate : Predicate) (type : LeafType) : type.Carrier → Logged Bool :=
  fun input => predicate.holds (type.toJson input) none

end Predicate

end RuleTree
