import RuleTree.Declaration.Basic
import RuleTree.Declaration.Bridge
import RuleTree.Predicate.Document
import RuleTree.Failure.Document
import RuleTree.RuleSet.Document
import RuleTree.Value.Reader

/-!
Declarations as documents. A step is an object that names what it does and gives its operands as
members. The vocabulary of a declaration says what the names of types and resolvers in it mean.

Steps are nested in steps. They are read level by level: `StepReader.within depth` reads what is
nested no deeper than `depth`, and the depth of the whole document is enough for all that is in it.
A step with an unknown name is left out.
-/

set_option autoImplicit false

namespace RuleTree

/-- What the names in a declaration mean. -/
structure Vocabulary where
  /-- The type of a name. -/
  type? : String → Option Ty
  /-- The type of a name in a registry of checks. -/
  registered? : String → Option Ty
  /-- The name under which a bridge sees a type. -/
  seenName : Ty → String
  /-- The name of the type of records. -/
  record : String
  /-- The resolver of a name. -/
  resolver? : String → Option Resolver

namespace Vocabulary

/-- The type of a name; that of documents for an unknown name. -/
def type (words : Vocabulary) (name : String) : Ty := (words.type? name).getD .json

def recordType (words : Vocabulary) : Ty := .record words.record

def scalar? (words : Vocabulary) (name : String) : Option ScalarType :=
  match words.type? name with
  | some (.int type) => some (.int type)
  | some .double => some .double
  | some .single => some .single
  | some .bool => some .bool
  | some .char => some .char
  | _ => none

end Vocabulary

namespace LeafType

/-- The inputs of leaves that a value of a type is viewed as first. -/
def ofTy : Ty → LeafType
  | .int type => .scalar (.int type)
  | .double => .scalar .double
  | .single => .scalar .single
  | .bool => .scalar .bool
  | .char => .scalar .char
  | .optional type => ofTy type
  | .reference type => ofTy type
  | .boxed type => ofTy type
  | .shared type => ofTy type
  | .collection _ _ => .items
  | _ => .text

/-- The inputs that a leaf names, else those of the type. -/
def ofJson (words : Vocabulary) (type : Ty) (leaf : Json) : LeafType :=
  match leaf.textAt? "in" with
  | some "str" => .text
  | some "slice" => .items
  | some name => ((words.scalar? name).map .scalar).getD (ofTy type)
  | none => ofTy type

end LeafType

namespace ScalarType

/-- The scalar type that a leaf names, else that of the type; the numbers of a document are
integers of 64 bits unless a leaf says otherwise. -/
def ofJson (words : Vocabulary) (type : Ty) (leaf : Json) : ScalarType :=
  match (leaf.textAt? "t").bind words.scalar?, LeafType.ofTy type with
  | some scalar, _ => scalar
  | none, .scalar scalar => scalar
  | none, _ => .int .i64

def read? (type : ScalarType) (document : Json) : Option type.Carrier :=
  type.ofValue? (type.type.read document)

end ScalarType

namespace Leaf

def bounded? (scalar : ScalarType) (leaf : Json) : Option Leaf :=
  let bound := scalar.read? (leaf.field "v")
  match leaf.textAt "s" with
  | "min" => bound.map (min scalar)
  | "max" => bound.map (max scalar)
  | "greater_than" => bound.map (greaterThan scalar)
  | "less_than" => bound.map (lessThan scalar)
  | "in_range" =>
    (scalar.read? (leaf.field "min")).bind fun least =>
      (scalar.read? (leaf.field "max")).map (inRange scalar least)
  | _ => none

/-- The leaf that a document gives, for values of a type. -/
def ofJson? (words : Vocabulary) (type : Ty) (leaf : Json) : Option Leaf :=
  match leaf.textAt "s" with
  | "not_empty" => some notEmpty
  | "min_length" => some (minLength (leaf.countAt "n"))
  | "max_length" => some (maxLength (leaf.countAt "n"))
  | "exact_length" => some (exactLength (leaf.countAt "n"))
  | "length" => some (lengthRange (leaf.countAt "min") (leaf.countAt "max"))
  | "contains" => some (contains (leaf.textAt "text"))
  | "starts_with" => some (startsWith (leaf.textAt "text"))
  | "ends_with" => some (endsWith (leaf.textAt "text"))
  | "alphanumeric" => some alphanumeric
  | "email" => some email
  | "user_name" => some userName
  | "min_size" => some (minSize (leaf.countAt "n"))
  | "max_size" => some (maxSize (leaf.countAt "n"))
  | "satisfies" =>
    let input := LeafType.ofJson words type leaf
    some (satisfying input (leaf.textAt "code") (leaf.textAt "message")
      ((Predicate.ofJson (leaf.field "pred")).toInputTest input))
  | _ => bounded? (.ofJson words type leaf) leaf

end Leaf

namespace Mode

/-- The mode that a declaration names, else the default one. -/
def ofJson (document : Json) : Mode := (ofJson? document).getD .all

end Mode

namespace MessageOverride

/-- The message that a step gives, by key or as a template. -/
def ofJson (step : Json) : MessageOverride :=
  match step.textAt? "key" with
  | some key => .resource key
  | none => .literal (step.textAt "text")

end MessageOverride

namespace MessageSource

def ofJson (document : Json) : MessageSource :=
  .ofList (document.members.map fun member => (member.1, member.2.text?.getD ""))

end MessageSource

namespace Check

/-- The check that a document gives: a failure with its condition. -/
def ofJson (document : Json) : Check := ⟨.ofJson (document.field "when"), .ofJson document⟩

end Check

namespace AnnotationRegistry

/-- The registry that an object gives: the checks of types by the names of the types. -/
def ofJson (words : Vocabulary) (document : Json) : AnnotationRegistry :=
  document.members.foldl
    (fun registry member =>
      match words.registered? member.1 with
      | some type =>
        registry.registerChecks type ((member.2.items?.getD []).map Check.ofJson)
      | none => registry) .empty

end AnnotationRegistry

/-- Readers of the documents that are nested in a step. Each is told the place of the document. -/
structure StepReader where
  rule? : Place → Ty → Json → Option RuleForm
  valueStep? : Place → Ty → Json → Option ValueStep
  elementStep? : Place → Ty → Json → Option ElementStep
  objectStep? : Place → Json → Option ObjectStep

namespace StepReader

/-- Reads nothing. -/
def nothing : StepReader :=
  ⟨fun _ _ _ => none, fun _ _ _ => none, fun _ _ _ => none, fun _ _ => none⟩

/-- Reads the items of a member at their places, leaving out those that cannot be read. -/
def items {α : Type} (read? : Place → Json → Option α) (place : Place) (document : Json)
    (key : String) : List α :=
  (document.itemsAt key).zipIdx.filterMap fun (item, position) =>
    read? (place.item key position) item

def valueSteps (reader : StepReader) (place : Place) (type : Ty) (document : Json)
    (key : String) : List ValueStep :=
  items (reader.valueStep? · type ·) place document key

def objectSteps (reader : StepReader) (place : Place) (document : Json) (key : String) :
    List ObjectStep :=
  items reader.objectStep? place document key

def elementSteps (reader : StepReader) (place : Place) (type : Ty) (document : Json)
    (key : String) : List ElementStep :=
  items (reader.elementStep? · type ·) place document key

def test (step : Json) : Test := (Predicate.ofJson (step.field "pred")).toTest

def composite (reader : StepReader) (place : Place) (type : Ty) (step : Json) : CompositeForm :=
  .mk (.ofJson (step.field "mode")) (items (reader.rule? · type ·) place step "rules")
    ((step.given? "then_mode").map Mode.ofJson) (step.flagAt "info")

/-- The branch of a conditional rule in a member, if it is given. -/
def branch? (reader : StepReader) (place : Place) (type : Ty) (step : Json) (key : String) :
    Option (List ValueStep) :=
  (step.given? key).map fun _ => reader.valueSteps place type step key

def conditional (reader : StepReader) (place : Place) (type : Ty) (step : Json) :
    ConditionalForm :=
  .mk (Predicate.ofJson (step.field "cond")).toTest
    ((reader.branch? place type step "then").toList ++
      (reader.branch? place type step "then_again").toList)
    (reader.branch? place type step "otherwise") (step.flagAt "info")

def branches (reader : StepReader) (place : Place) (type : Ty) (step : Json) : ConditionalForm :=
  .mk (Predicate.ofJson (step.field "cond")).toTest [reader.valueSteps place type step "then"]
    (some (reader.valueSteps place type step "otherwise")) false

def readRule? (words : Vocabulary) (reader : StepReader) (place : Place) (type : Ty)
    (step : Json) : Option RuleForm :=
  match step.textAt "s" with
  | "matches_regex" => some (.matching (step.textAt "text"))
  | "must" => some (.predicate (Predicate.ofJson (step.field "pred")).toContextTest)
  | "composite" => some (.composite (reader.composite place type step))
  | "conditional" => some (.conditional (reader.conditional place type step))
  | "value" => some (.value (reader.valueSteps place type step "steps"))
  | "boxed" => reader.rule? (place.member "leaf") type (step.field "leaf")
  | "collection" => some (.elements (reader.elementSteps place type.element step "steps"))
  | _ => (Leaf.ofJson? words type step).map .leaf

def readValidatorStep? (words : Vocabulary) (reader : StepReader) (place : Place) (type : Ty)
    (step : Json) : Option ValueStep :=
  match step.textAt "s" with
  | "value_set_validator" => some (.nested (reader.valueSteps place type step "steps"))
  | "value_child_rules" => some (.nested (reader.valueSteps place type step "steps"))
  | "value_rule_set" =>
    some (.scope (.named (step.field "names")) (reader.valueSteps place type step "steps")
      (step.flagAt "fail"))
  | "value_inherit" => some (.inherit (.named (step.field "names")))
  | "value_bind" => (words.resolver? (step.textAt "id")).map .bind
  | "value_attach" =>
    (reader.rule? (place.member "rule") type (step.field "rule")).map fun rule =>
      .attach rule (step.textAt "site") (step.textAt "alternative")
  | "value_push_rule" => (reader.rule? (place.member "rule") type (step.field "rule")).map .rule
  | "value_push_presence" =>
    (reader.rule? (place.member "rule") type (step.field "rule")).map .presence
  | "value_replace" => some (.replace (reader.valueSteps place type step "steps"))
  | "value_info" => some .info
  | _ => none

def readValueStep? (words : Vocabulary) (reader : StepReader) (place : Place) (type : Ty)
    (step : Json) : Option ValueStep :=
  let predicate := Predicate.ofJson (step.field "pred")
  match step.textAt "s" with
  | "must" => some (.rule (.predicate fun value _ => predicate.toTest value))
  | "must_with" => some (.rule (.predicate predicate.toContextTest))
  | "ctx_limit" =>
    some (.contextual (.limit (.ofJson words type step) (step.textAt "key")))
  | "rule" => (reader.rule? (place.member "leaf") type (step.field "leaf")).map .rule
  | "required" => some .required
  | "allow_empty_strings" => some .allowEmpty
  | "when" => some (.guard predicate.toTest)
  | "unless" => some (.guard (Predicate.negation predicate).toTest)
  | "use_mode" => some (.mode (.ofJson (step.field "mode")))
  | "with_message" => some (.message (.literal (step.textAt "text")))
  | "with_static_message" => some (.message (.literal (step.textAt "text")))
  | "with_message_key" => some (.message (.resource (step.textAt "key")))
  | "with_default_message" => some (.defaultMessage (.ofJson step))
  | "pre_process" =>
    let transform := Transform.ofJson step
    some (.preprocess fun value =>
      pure (type.readAs .made (transform.apply value.toJson)))
  | "branch" => some (.rule (.conditional (reader.branches place type step)))
  | _ =>
    match readValidatorStep? words reader place type step with
    | some change => some change
    | none => (readRule? words reader place type step).map .rule

def readElement? (words : Vocabulary) (reader : StepReader) (place : Place) (type : Ty)
    (step : Json) : Option ElementForm :=
  match step.textAt "s" with
  | "set_value_validator" => some (.value (reader.valueSteps place type step "steps"))
  | "each_rules" => some (.value (reader.valueSteps place type step "steps"))
  | "set_validator" => some (.object words.recordType (reader.objectSteps place step "steps"))
  | "child_rules" => some (.object words.recordType (reader.objectSteps place step "steps"))
  | _ => none

def readElementStep? (words : Vocabulary) (reader : StepReader) (place : Place) (type : Ty)
    (step : Json) : Option ElementStep :=
  match step.textAt "s" with
  | "filter" => some (.filter (test step))
  | "inherit" => some (.inherit (.named (step.field "names")))
  | "bind" => (words.resolver? (step.textAt "id")).map .bind
  | "info" => some .info
  | _ => (readElement? words reader place type step).map .attach

def readPropertyStep? (words : Vocabulary) (reader : StepReader) (place : Place) (type : Ty)
    (step : Json) : Option PropertyStep :=
  let nested := (Ty.reach? words.recordType type).map fun reach =>
    PropertyStep.nested reach words.recordType (reader.objectSteps place step "steps")
  match step.textAt "s" with
  | "with_name" => some (.member (step.textAt "name"))
  | "with_display_name" => some (.display (step.textAt "name"))
  | "skip_annotations" => some .skipAnnotations
  | "set_validator" => nested
  | "child_rules" => nested
  | "info" => some .info
  | _ => (readValueStep? words reader place type step).map .value

/-- A step on a collection property. The rules of the elements are built at once or, where the step
is a declaration of its own, only if there is a place for them. -/
def readCollectionStep? (words : Vocabulary) (reader : StepReader) (place : Place) (type : Ty)
    (step : Json) : Option PropertyStep :=
  let element := readElement? words reader place type.element step
  match step.textAt "s" with
  | "set_value_validator" => element.map fun form => .element form false
  | "set_validator" => element.map fun form => .element form false
  | "each_rules" => element.map fun form => .element form true
  | "child_rules" => element.map fun form => .element form true
  | "filter" => some (.filter (test step))
  | "property" =>
    some (.property (items (readPropertyStep? words reader · type ·) place step "steps"))
  | "member" => some .tellMember
  | _ => (readValueStep? words reader place type step).map .value

def readBridge (words : Vocabulary) (reader : StepReader) (place : Place) (document : Json) :
    BridgeForm :=
  let covers := fun (type : Ty) => (document.textsAt "on").contains (words.seenName type)
  match document.textAt "kind" with
  | "registry" => .given (AnnotationRegistry.ofJson words (document.field "types")).toBridge
  | "proxy" =>
    .proxy place words.recordType (reader.objectSteps place document "steps")
      (RuleSets.named? (document.field "rule_sets"))
  | "raw" => .given (.ofChecks covers ((document.itemsAt "checks").map Check.ofJson))
  | "err" => .given (.failing covers (.ofJson (document.field "error")))
  | _ => .given (.recording words.seenName)

/-- The accessor of a property: reads a member of the record. -/
def accessor (type : Ty) (key : String) : Value → Logged Value :=
  fun object => pure (object.member type key)

def readObjectStep? (words : Vocabulary) (reader : StepReader) (place : Place) (step : Json) :
    Option ObjectStep :=
  let name := step.textAt "name"
  let type := words.type (step.textAt "kind")
  let access := accessor type ((step.textAt? "key").getD name)
  match step.textAt "s" with
  | "rule_for" =>
    some (.property name access
      (items (readPropertyStep? words reader · type ·) place step "rules"))
  | "rule_for_collection" =>
    some (.collection name access
      (items (readCollectionStep? words reader · type ·) place step "rules"))
  | "include" => some (.includeFrom (reader.objectSteps place step "steps"))
  | "rule_set" =>
    some (.scope (.named (step.field "names")) (reader.objectSteps place step "steps")
      (step.flagAt "fail"))
  | "set_validator" => some (.child (reader.objectSteps place step "steps"))
  | "child_rules" => some (.child (reader.objectSteps place step "steps"))
  | "when" => some (.guard (test step))
  | "use_mode" => some (.mode (.ofJson (step.field "mode")))
  | "suppress_annotations" => some .suppressAnnotations
  | "validate_all" => some (.validateAll (step.flagAt "all"))
  | "with_annotations" =>
    some (.bridge (readBridge words reader (place.member "bridge") (step.field "bridge")))
  | "with_messages" => some (.messages (.ofJson (step.field "messages")))
  | "options" => some (.options (step.textAt "json") (step.flagAt "fresh"))
  | "inherit" => some (.inherit (.named (step.field "names")))
  | "bind" => (words.resolver? (step.textAt "id")).map .bind
  | "info" => some .info
  | _ => none

/-- Reads what is nested no deeper than `depth`. -/
def within (words : Vocabulary) : Nat → StepReader
  | 0 => nothing
  | depth + 1 =>
    let reader := within words depth
    { rule? := readRule? words reader
      valueStep? := readValueStep? words reader
      elementStep? := readElementStep? words reader
      objectStep? := readObjectStep? words reader }

def through (words : Vocabulary) (document : Json) : StepReader := within words document.depth

end StepReader

/-! ### Reading whole declarations -/

namespace Vocabulary

/-- The rule that a document at a place declares. -/
def rule? (words : Vocabulary) (place : Place) (type : Ty) (document : Json) : Option RuleForm :=
  StepReader.readRule? words (.through words document) place type document

def composite (words : Vocabulary) (place : Place) (type : Ty) (document : Json) :
    CompositeForm :=
  (StepReader.through words document).composite place type document

def conditional (words : Vocabulary) (place : Place) (type : Ty) (document : Json) :
    ConditionalForm :=
  (StepReader.through words document).conditional place type document

/-- The steps on the rules of a value that a document at a place declares. -/
def valueSteps (words : Vocabulary) (place : Place) (type : Ty) (document : Json) :
    List ValueStep :=
  (StepReader.through words document).valueSteps place type document "steps"

/-- The steps on the rules of elements of a type that a document at a place declares. -/
def elementSteps (words : Vocabulary) (place : Place) (element : Ty) (document : Json) :
    List ElementStep :=
  (StepReader.through words document).elementSteps place element document "steps"

/-- The steps on the rules of an object that a document at a place declares. -/
def objectSteps (words : Vocabulary) (place : Place) (document : Json) : List ObjectStep :=
  (StepReader.through words document).objectSteps place document "steps"

def bridge (words : Vocabulary) (place : Place) (document : Json) : BridgeForm :=
  StepReader.readBridge words (.through words document) place document

end Vocabulary

end RuleTree
