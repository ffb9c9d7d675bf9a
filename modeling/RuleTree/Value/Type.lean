/-!
Types of values. Documents and records aside, a value is a text, a number, a truth value or a
character, or it is built from other values: it may be optional, referred to, boxed, shared, or a
collection.
-/

set_option autoImplicit false

namespace RuleTree

/-- The integer types. -/
inductive IntType where
  | i8 | i16 | i32 | i64 | i128 | isize
  | u8 | u16 | u32 | u64 | u128 | usize
  deriving DecidableEq, Repr

namespace IntType

def name : IntType → String
  | .i8 => "i8"
  | .i16 => "i16"
  | .i32 => "i32"
  | .i64 => "i64"
  | .i128 => "i128"
  | .isize => "isize"
  | .u8 => "u8"
  | .u16 => "u16"
  | .u32 => "u32"
  | .u64 => "u64"
  | .u128 => "u128"
  | .usize => "usize"

def list : List IntType :=
  [.i8, .i16, .i32, .i64, .i128, .isize, .u8, .u16, .u32, .u64, .u128, .usize]

/-- The number of bits of a value. -/
def bits : IntType → Nat
  | .i8 | .u8 => 8
  | .i16 | .u16 => 16
  | .i32 | .u32 => 32
  | .i64 | .u64 | .isize | .usize => 64
  | .i128 | .u128 => 128

def isSigned : IntType → Bool
  | .i8 | .i16 | .i32 | .i64 | .i128 | .isize => true
  | .u8 | .u16 | .u32 | .u64 | .u128 | .usize => false

def least (type : IntType) : Int :=
  if type.isSigned then -(Nat.pow 2 (type.bits - 1) : Int) else 0

def greatest (type : IntType) : Int :=
  if type.isSigned then (Nat.pow 2 (type.bits - 1) : Int) - 1 else (Nat.pow 2 type.bits : Int) - 1

def holds (type : IntType) (n : Int) : Bool := type.least ≤ n && n ≤ type.greatest

end IntType

/-- The forms of collections. -/
inductive CollectionForm where
  /-- A view of consecutive values. -/
  | slice
  /-- A growing list. -/
  | list
  /-- A queue that grows at both ends. -/
  | deque
  /-- A set in the order of its elements. -/
  | sortedSet
  /-- A set in no order. -/
  | hashSet
  deriving DecidableEq, Repr

/-- Where the rules of an object find the object, seen from the value that they are attached to. -/
inductive Reach where
  /-- The value itself. -/
  | itself
  /-- What an optional, a boxed or a shared value holds. -/
  | inside
  deriving DecidableEq, Repr

/-- The types of values. -/
inductive Ty where
  /-- A text in place. -/
  | str
  /-- An owned text. -/
  | string
  | int (type : IntType)
  | double
  | single
  | bool
  | char
  /-- A document. -/
  | json
  /-- A record of a named type, whose members are read from a document. -/
  | record (name : String)
  | optional (type : Ty)
  | reference (type : Ty)
  | boxed (type : Ty)
  | shared (type : Ty)
  | collection (form : CollectionForm) (element : Ty)
  deriving DecidableEq, Repr

namespace Ty

def name : Ty → String
  | .str => "str"
  | .string => "alloc::string::String"
  | .int type => type.name
  | .double => "f64"
  | .single => "f32"
  | .bool => "bool"
  | .char => "char"
  | .json => "serde_json::value::Value"
  | .record name => name
  | .optional type => "core::option::Option<" ++ type.name ++ ">"
  | .reference type => "&" ++ type.name
  | .boxed type => "alloc::boxed::Box<" ++ type.name ++ ">"
  | .shared type => "alloc::sync::Arc<" ++ type.name ++ ">"
  | .collection .slice element => "[" ++ element.name ++ "]"
  | .collection .list element => "alloc::vec::Vec<" ++ element.name ++ ">"
  | .collection .deque element =>
    "alloc::collections::vec_deque::VecDeque<" ++ element.name ++ ">"
  | .collection .sortedSet element =>
    "alloc::collections::btree::set::BTreeSet<" ++ element.name ++ ">"
  | .collection .hashSet element => "std::collections::hash::set::HashSet<" ++ element.name ++ ">"

/-- The element type of a collection; the elements of a document are documents. -/
def element : Ty → Ty
  | .collection _ element => element
  | .optional type => type.element
  | type => type

/-- How objects of the target type are reached from a value: it is one, or it holds one. -/
def reach? (target type : Ty) : Option Reach :=
  if type = target then some .itself
  else
    match type with
    | .optional held | .boxed held | .shared held =>
      if held = target then some .inside else none
    | _ => none

end Ty

end RuleTree
