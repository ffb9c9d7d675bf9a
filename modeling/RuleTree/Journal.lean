import RuleTree.RuleSet.Basic
import RuleTree.Value.Origin
import RuleTree.Json.Basic
import RuleTree.Place

/-!
The journal of an evaluation: what the library reports about its own course, and what the
functions that a user supplies leave behind. A computation that may write into the journal is a
`Logged` value: a result and the notes in the order in which they were written.

Notes keep together what was written while a proxy was consulted and while a made value was there.
What a journal says in the end is a list of lines; it depends on what proxies remember, and
`Journal.Memory` tells it.
-/

set_option autoImplicit false

namespace RuleTree

/-- How much an event matters. -/
inductive Severity where
  | trace
  | debug
  | warn
  deriving DecidableEq, Repr

/-- What the library reports about the course of an evaluation. -/
inductive Event where
  /-- A rule with this tag was not selected. -/
  | ruleSkipped (tag : Option RuleSets)
  /-- A property was not selected. -/
  | propertySkipped (member : String)
  /-- A guard of a value validator did not accept the value. -/
  | valueGuarded
  /-- A value validator passes over empty texts, and the value is one. -/
  | emptySkipped
  /-- A guard of an object validator did not accept the object. -/
  | objectGuarded (type : String)
  /-- The filter of a collection left out an element. -/
  | elementSkipped (position : Nat)
  /-- An object was validated, with so many failures. -/
  | objectFinished (type : String) (failures : Nat)
  /-- A proxy knew the report of a target. -/
  | cacheHit (type : String)
  /-- A proxy was given a value of another type. -/
  | foreignValue (type : String) (member : Option String)
  /-- No message is known for the key of an override. -/
  | resourceMissing (key : String)
  deriving DecidableEq, Repr

namespace Event

def severity : Event → Severity
  | .objectFinished .. => .debug
  | .resourceMissing _ => .warn
  | _ => .trace

def message : Event → String
  | .ruleSkipped _ => "rule skipped by rule-set selection"
  | .propertySkipped _ => "property skipped by rule-set selection"
  | .valueGuarded => "value validator skipped by guard"
  | .emptySkipped => "value validator skipped for empty string"
  | .objectGuarded _ => "object validator skipped by guard"
  | .elementSkipped _ => "collection element skipped by filter"
  | .objectFinished .. => "object validation finished"
  | .cacheHit _ => "proxy cache hit"
  | .foreignValue .. => "proxy ignores foreign value"
  | .resourceMissing _ => "message resource not found, keeping rule message"

/-- The particulars of an event by name. A particular that is missing is left out. -/
def fields : Event → List (String × String)
  | .ruleSkipped tag => [("rule_sets", RuleSets.describeOptional tag)]
  | .propertySkipped member => [("member", member)]
  | .valueGuarded => []
  | .emptySkipped => []
  | .objectGuarded type => [("target_type", type)]
  | .elementSkipped position => [("index", toString position)]
  | .objectFinished type failures => [("target_type", type), ("failures", toString failures)]
  | .cacheHit type => [("target_type", type)]
  | .foreignValue type (some member) => [("target_type", type), ("member", member)]
  | .foreignValue type none => [("target_type", type)]
  | .resourceMissing key => [("key", key)]

end Event

/-- A line of the journal. -/
inductive Line where
  /-- The library reports an event. -/
  | event (event : Event)
  /-- A function supplied by the user leaves a remark. -/
  | remark (document : Json)

namespace Line

def events (lines : List Line) : List Event :=
  lines.filterMap fun
    | .event reported => some reported
    | .remark _ => none

def remarks (lines : List Line) : List Json :=
  lines.filterMap fun
    | .event _ => none
    | .remark document => some document

end Line

/-- What a proxy is asked for: its report of a shared target. A proxy is known by the place where it
is declared. -/
structure Consultation where
  proxy : Place
  target : Origin
  deriving DecidableEq, Repr

/-- A note in the journal. -/
inductive Note where
  | line (line : Line)
  /-- The notes of a proxy, for records of the named type, that makes the report it is asked for. -/
  | consultation (asked : Consultation) (type : String) (notes : List Note)
  /-- The notes written while a made value was there. -/
  | transient (notes : List Note)

namespace Note

def event (event : Event) : Note := .line (.event event)

def remark (document : Json) : Note := .line (.remark document)

end Note

/-- A result with the notes written on the way to it. -/
structure Logged (α : Type) where
  value : α
  notes : List Note

namespace Logged

/-- A result without notes. -/
protected def pure {α : Type} (value : α) : Logged α := ⟨value, []⟩

/-- Goes on from a result; the notes of what follows come later. -/
protected def bind {α β : Type} (first : Logged α) (next : α → Logged β) : Logged β :=
  let second := next first.value
  ⟨second.value, first.notes ++ second.notes⟩

instance : Monad Logged where
  pure := Logged.pure
  bind := Logged.bind

def note (note : Note) : Logged Unit := ⟨(), [note]⟩

def event (event : Event) : Logged Unit := .note (.event event)

def remark (document : Json) : Logged Unit := .note (.remark document)

/-- All tests hold; after the first that does not, none is made. -/
def all {α : Type} (test : α → Logged Bool) : List α → Logged Bool
  | [] => pure true
  | item :: rest => (test item).bind fun holds => if holds then all test rest else pure false

/-- Some test holds; after the first that does, none is made. -/
def any {α : Type} (test : α → Logged Bool) : List α → Logged Bool
  | [] => pure false
  | item :: rest => (test item).bind fun holds => if holds then pure true else any test rest

/-- Keeps together the notes of a report that a proxy makes. -/
def consulting {α : Type} (asked : Consultation) (type : String) (report : Logged α) :
    Logged α :=
  ⟨report.value, [.consultation asked type report.notes]⟩

end Logged

end RuleTree
