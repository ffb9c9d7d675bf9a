import RuleTree.Failure.Error
import RuleTree.Json.Access

/-!
Failures and errors as documents. In the document of a failure, members, parameters and the tried
value appear only if there are any. A declared failure names the common failure that it starts
from, or gives a code and a message of its own.
-/

set_option autoImplicit false

namespace RuleTree

namespace Failure

def toJson (failure : Failure) : Json :=
  .ofMembers
    ([("code", .string failure.code), ("message", .string failure.message)] ++
      (if failure.members.isEmpty then []
        else [("members", .array (failure.members.map .string))]) ++
      (if failure.params.isEmpty then []
        else [("params", .array (failure.params.map fun param =>
          .array [.string param.1, .string param.2]))]) ++
      failure.attempted.toList.map fun tried => ("attempted_value", .string tried))

def optionalJson (failure : Option Failure) : Json := (failure.map toJson).getD .null

/-- A parameter: a list of its key and its value. -/
def paramOfJson (document : Json) : String × String :=
  match document.texts with
  | key :: value :: _ => (key, value)
  | [key] => (key, "")
  | [] => ("", "")

/-- The failure that a declaration starts from. -/
def startOfJson (document : Json) : Failure :=
  match document.textAt "ctor" with
  | "required" => .required
  | "min_length" => .minLength (document.countAt "min") (document.countAt "actual")
  | "max_length" => .maxLength (document.countAt "max") (document.countAt "actual")
  | "length_range" =>
    .lengthRange (document.countAt "min") (document.countAt "max") (document.countAt "actual")
  | "out_of_range" => .outOfRange (document.textAt "min") (document.textAt "max")
  | "invalid_format" => .invalidFormat (document.textAt "code") (document.textAt "format")
  | "type_mismatch" => .typeMismatch (document.textAt "expected")
  | _ => .new (document.textAt "code") (document.textAt "message")

def ofJson (document : Json) : Failure :=
  let failure := (document.textsAt "members").foldl withMember (startOfJson document)
  let failure := ((document.itemsAt "params").map paramOfJson).foldl
    (fun failure param => failure.withParam param.1 param.2) failure
  let failure := (document.textAt? "attempted").toList.foldl withAttempted failure
  (document.textAt? "with_message").toList.foldl withMessage failure

end Failure

namespace Report

def toJson (report : Report) : Json := .array (List.map Failure.toJson report)

def optionalJson (report : Option Report) : Json := (report.map toJson).getD .null

def ofItems (items : List Json) : Report := items.map Failure.ofJson

end Report

namespace Error

def kind : Error → String
  | .rejected _ => "Validation"
  | .alreadyAttached _ _ => "NestedValidatorAlreadySet"
  | .emptyArgument _ => "EmptyArgument"
  | .typeMismatch _ => "TypeMismatch"

def toJson (error : Error) : Json :=
  .ofMembers
    ([("error", .string error.kind), ("message", .string error.message)] ++
      error.failure?.toList.map fun failure => ("failure", failure.toJson))

def ofJson (document : Json) : Error :=
  match document.textAt "kind" with
  | "NestedValidatorAlreadySet" =>
    .alreadyAttached (document.textAt "site") (document.textAt "alternative")
  | "EmptyArgument" => .emptyArgument (document.textAt "name")
  | "TypeMismatch" => .typeMismatch (document.textAt "expected")
  | _ => .rejected (.ofJson (document.field "failure"))

end Error

end RuleTree
