import RuleTree.Predicate.Basic
import RuleTree.Failure.Error

/-!
Bridges made of checks. A check has a predicate and the failure to report where the predicate
holds. Besides the registry of checks there are bridges that answer for some types only, and one
that remarks what it is asked.
-/

set_option autoImplicit false

namespace RuleTree

/-- A failure and the predicate of the values that have it. -/
structure Check where
  condition : Predicate
  failure : Failure

namespace Check

def runAll : List Check → Value → Logged Report
  | [], _ => pure []
  | check :: rest, value =>
    (check.condition.toTest value).bind fun holds =>
      (runAll rest value).bind fun others =>
        pure (if holds then check.failure :: others else others)

end Check

namespace AnnotationRequest

def jsonMembers (request : AnnotationRequest) : List (String × Json) :=
  [("display", Context.textJson request.display), ("member", Context.textJson request.member),
   ("resolver", .bool request.resolver.isSome),
   ("rule_sets", Context.namesJson request.ruleSets), ("all", .bool request.all),
   ("skip", .array (request.skip.map .string))]

end AnnotationRequest

namespace AnnotationBridge

/-- A bridge that answers for the types that it is meant for, and has nothing to report on the
others. -/
def restricted (covers : Ty → Bool) (answer : Value → Logged AnnotationAnswer) :
    AnnotationBridge where
  annotate value _ := if covers value.type then answer value else pure (.ok none)

/-- A bridge that reports the failures of checks, whatever the request asks for. -/
def ofChecks (covers : Ty → Bool) (checks : List Check) : AnnotationBridge :=
  restricted covers fun value =>
    (Check.runAll checks value).bind fun report => pure (.ok (some report))

def failing (covers : Ty → Bool) (error : Error) : AnnotationBridge :=
  restricted covers fun _ => pure (.error error)

/-- A bridge that remarks what it is asked, with the name of the value's type. -/
def recording (typeName : Ty → String) : AnnotationBridge where
  annotate value request :=
    (Logged.remark (.ofMembers (request.jsonMembers ++
      [("type", .string (typeName value.type)), ("debug", .string request.describe)]))).bind
      fun _ => pure (.ok none)

end AnnotationBridge

namespace AnnotationRegistry

def registerChecks (registry : AnnotationRegistry) (type : Ty) (checks : List Check) :
    AnnotationRegistry :=
  registry.register type fun value _ => Check.runAll checks value

end AnnotationRegistry

end RuleTree
