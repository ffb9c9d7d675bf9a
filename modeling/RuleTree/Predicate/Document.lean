import RuleTree.Predicate.Basic
import RuleTree.Predicate.Transform
import RuleTree.Json.Access

/-!
Predicates and transformations as documents. A truth value is the constant predicate; an object
names its predicate and gives the operands as members.
-/

set_option autoImplicit false

namespace RuleTree

namespace ItemType

/-- The item type of a name; all unknown names are that of texts. -/
def ofName : String → ItemType
  | "i64" => .int
  | "bool" => .bool
  | _ => .text

end ItemType

namespace Predicate

/-- Reads a predicate whose operands are nested no deeper than `depth`. -/
def readWithin : Nat → Json → Predicate
  | _, .bool holds => .constant holds
  | 0, _ => .constant false
  | depth + 1, document =>
    let operand := document.field "of"
    match document.textAt "p" with
    | "eq" => .equals (document.field "v")
    | "is_null" => .isNull
    | "contains" => .contains (document.textAt "text")
    | "starts_with" => .startsWith (document.textAt "text")
    | "len_ge" => .sizeAtLeast (document.countAt "n")
    | "ge" => (((document.field "n").double?).map atLeast).getD (.constant false)
    | "field" => .field (document.textAt "key") (readWithin depth operand)
    | "not" => .negation (readWithin depth operand)
    | "and" => .conjunction ((document.itemsAt "of").map (readWithin depth))
    | "or" => .disjunction ((document.itemsAt "of").map (readWithin depth))
    | "trace" => .remarked (document.field "id") (readWithin depth operand)
    | "ctx_item" =>
      .contextItem (document.textAt "key") (.ofName (document.textAt "t")) (document.field "v")
    | "ctx_floor" => .aboveFloor
    | "ctx_block" => .notBlocked
    | "ctx_instance" => .subject (readWithin depth operand)
    | "ctx_rule_set" => .selected (document.textAt "name")
    | "snapshot" => .snapshot
    | _ => .constant false

/-- The predicate that a document gives; the constant `false` if it gives none. -/
def ofJson (document : Json) : Predicate := readWithin document.depth document

end Predicate

namespace Transform

/-- The transformation that a document gives; one that it does not name changes nothing. -/
def ofJson (document : Json) : Transform :=
  match document.textAt "f" with
  | "const" => .constant (document.field "v")
  | "trim" => .trim
  | "lower" => .lower
  | "append" => .append (document.textAt "text")
  | "drop_nulls" => .dropNulls
  | "reverse" => .reverse
  | "negate" => .negate
  | _ => .identity

end Transform

end RuleTree
