import RuleTree.Context.Services
import RuleTree.Journal
import RuleTree.Value.Basic

/-!
The bridge to declared annotations. The library has no model of annotations of its own: it asks a
bridge about whole objects and about the values of single properties, and merges what the bridge
reports with the failures of the rules.

A registry is a bridge that has one check for each type it covers.
-/

set_option autoImplicit false

namespace RuleTree

/-- What a bridge is asked. -/
structure AnnotationRequest where
  /-- The name under which the value is known to a reader. -/
  display : Option String
  /-- The member that holds the value. -/
  member : Option String
  resolver : Option Resolver
  /-- The selector in effect. -/
  ruleSets : Option RuleSets
  /-- Report all failures, not only the first. -/
  all : Bool
  /-- Members whose failures are not wanted. -/
  skip : List String

namespace AnnotationRequest

/-- The failures of this member are not wanted. -/
def isSkipped (request : AnnotationRequest) (member : String) : Bool :=
  request.skip.contains member

/-- A failure is wanted unless its first member is skipped. -/
def wants (request : AnnotationRequest) (failure : Failure) : Bool :=
  match failure.member? with
  | some member => !request.isSkipped member
  | none => true

def describe (request : AnnotationRequest) : String :=
  Text.partialRecord "AnnotationRequest"
    [("display_name", Text.optionalQuoted request.display),
     ("member_name", Text.optionalQuoted request.member),
     ("rule_sets", RuleSets.describeOptional request.ruleSets),
     ("validate_all_properties", Text.truth request.all),
     ("skip_members", Text.listOf (request.skip.map Text.quote))]

end AnnotationRequest

/-- What a bridge answers: a fault, nothing to report, or a report. -/
abbrev AnnotationAnswer := Except Error (Option Report)

/-- A bridge to declared annotations. -/
structure AnnotationBridge where
  annotate : Value → AnnotationRequest → Logged AnnotationAnswer

abbrev AnnotationCheck := Value → AnnotationRequest → Logged Report

/-- A registry of checks, one for each type it covers. -/
structure AnnotationRegistry where
  checks : List (Ty × AnnotationCheck)

namespace AnnotationRegistry

/-- A registry without checks. -/
def empty : AnnotationRegistry := ⟨[]⟩

/-- Registers the check of a type, in place of an earlier one. -/
def register (registry : AnnotationRegistry) (type : Ty) (check : AnnotationCheck) :
    AnnotationRegistry :=
  ⟨registry.checks.filter (fun entry => entry.1 ≠ type) ++ [(type, check)]⟩

def check? (registry : AnnotationRegistry) (type : Ty) : Option AnnotationCheck :=
  (registry.checks.find? fun entry => entry.1 = type).map Prod.snd

def covers (registry : AnnotationRegistry) (type : Ty) : Bool := (registry.check? type).isSome

/-- The report of a check as the request wants it; an empty one is nothing to report. -/
def select (request : AnnotationRequest) (report : Report) : Option Report :=
  let wanted := report.filter request.wants
  let kept := if request.all then wanted else wanted.take 1
  if kept.isEmpty then none else some kept

/-- Answers a request about a value. A type without a check has nothing to report. -/
def annotate (registry : AnnotationRegistry) (value : Value) (request : AnnotationRequest) :
    Logged AnnotationAnswer :=
  match registry.check? value.type with
  | some check => (check value request).bind fun report => pure (.ok (select request report))
  | none => pure (.ok none)

def toBridge (registry : AnnotationRegistry) : AnnotationBridge := ⟨registry.annotate⟩

def describe (registry : AnnotationRegistry) : String :=
  Text.record "Annotations" [("types", toString registry.checks.length)]

end AnnotationRegistry

end RuleTree
