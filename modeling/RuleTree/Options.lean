import RuleTree.Mode
import RuleTree.Json.Reader
import RuleTree.Json.Printer
import RuleTree.RuleSet.Document

/-!
Options of an object validator, and their JSON form. An object gives options by name, and names
that are no options are skipped; an array gives them by place. An option that is not given has its
default, and one that is given twice is refused.
-/

set_option autoImplicit false

namespace RuleTree

/-- The options of an object validator. -/
structure Options where
  mode : Mode
  suppressAnnotations : Bool
  validateAllProperties : Bool
  defaultRuleSets : Option RuleSets
  deriving DecidableEq, Repr

namespace Options

/-- The options of a validator for which none were given. -/
def default : Options := ⟨.all, false, true, none⟩

/-- The names of the options, in the order of their places. -/
def keys : List String :=
  ["mode", "suppress_annotation_validation", "validate_all_properties", "default_rule_sets"]

/-- Sets the option of a name from a document; a name that is no option changes nothing. -/
def set? (options : Options) (key : String) (value : Json) : Option Options :=
  if key = "mode" then
    (Mode.ofJson? value).map fun mode => { options with mode }
  else if key = "suppress_annotation_validation" then
    value.bool?.map fun suppressAnnotations => { options with suppressAnnotations }
  else if key = "validate_all_properties" then
    value.bool?.map fun validateAllProperties => { options with validateAllProperties }
  else if key = "default_rule_sets" then
    match value with
    | .null => some { options with defaultRuleSets := none }
    | _ => (RuleSets.ofJson? value).map fun sets => { options with defaultRuleSets := some sets }
  else some options

def setAll? (options : Options) : List (String × Json) → Option Options
  | [] => some options
  | (key, value) :: rest => (options.set? key value).bind fun options => options.setAll? rest

def ofJson? : Json → Option Options
  | .object members =>
    let given := (members.map Prod.fst).filter keys.contains
    if given.eraseDups.length = given.length then default.setAll? members else none
  | .array items =>
    if items.length ≤ keys.length then default.setAll? (keys.zip items) else none
  | _ => none

/-- Reads options from a JSON text. A member whose name is no option is skipped. -/
def parse? (text : String) : Option Options :=
  (Json.read? (fun key => !keys.contains key) text).bind ofJson?

/-- The document of options; default rule sets appear only if there are any. -/
def toJson (options : Options) : Json :=
  let fixed : List (String × Json) :=
    [("mode", .string options.mode.name),
     ("suppress_annotation_validation", .bool options.suppressAnnotations),
     ("validate_all_properties", .bool options.validateAllProperties)]
  match options.defaultRuleSets with
  | some sets => .object (fixed ++ [("default_rule_sets", sets.toJson)])
  | none => .object fixed

end Options

end RuleTree
