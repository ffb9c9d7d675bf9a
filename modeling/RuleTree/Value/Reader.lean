import RuleTree.Value.Basic
import RuleTree.Number.Numeral

/-!
Reading values from documents. Every document can be read as every type: where its shape does not
fit, the value is the default of the type, an absent value where the type is optional.
-/

set_option autoImplicit false

namespace RuleTree

/-- Puts a text into a list of texts in increasing order, unless the list has it. -/
def insertText (text : String) : List String → List String
  | [] => [text]
  | other :: rest =>
    if text = other then other :: rest
    else if text < other then text :: other :: rest
    else other :: insertText text rest

namespace Value

def sortTexts (items : List Value) : List Value :=
  ((items.filterMap text?).foldl (fun sorted text => insertText text sorted) []).map .string

end Value

namespace Ty

/-- The integer that a document gives as an integer token or as a string of digits. -/
def readInt? (type : IntType) : Json → Option Int
  | .int n => if type.holds n then some n else none
  | .string text => (Number.readInt? text).bind fun n => if type.holds n then some n else none
  | _ => none

/-- The floating-point number that a document gives as a number or as a numeral. -/
def readFloat? (format : Number.BinaryFormat) : Json → Option Number.Binary
  | .string text => Number.readBinary? format text
  | document => document.double?.map format.convert

def fits : Ty → Json → Bool
  | .str, document => document.text?.isSome
  | .string, document => document.text?.isSome
  | .int type, document => (readInt? type document).isSome
  | .double, document => (readFloat? .double document).isSome
  | .single, document => (readFloat? .single document).isSome
  | .bool, document => document.bool?.isSome
  | .char, document => document.text?.isSome
  | .json, _ => true
  | .record _, .object _ => true
  | .record _, _ => false
  | .optional type, document => type.fits document
  | .reference type, document => type.fits document
  | .boxed type, document => type.fits document
  | .shared type, document => type.fits document
  | .collection _ _, document => document.items?.isSome

/-- The value of a type that a document gives, known to be of an origin. A truth value stands for
the present absence of a value that is optional twice. -/
def readAs (origin : Origin) : Ty → Json → Value
  | .str, document => .str (document.text?.getD "")
  | .string, document => .string (document.text?.getD "")
  | .int type, document => .int type ((readInt? type document).getD 0)
  | .double, document =>
    .double ((readFloat? .double document).getD (Number.BinaryFormat.double.zero false))
  | .single, document =>
    .single ((readFloat? .single document).getD (Number.BinaryFormat.single.zero false))
  | .bool, document => .bool (document.bool?.getD false)
  | .char, document => .char ((document.text?.getD "").toList.headD '\x00')
  | .json, document => .json document
  | .record name, document => .record name origin document
  | .optional (.optional type), .bool _ => .present (.absent type)
  | .optional type, document =>
    if type.fits document then .present (readAs origin type document) else .absent type
  | .reference type, document => .reference (readAs origin type document)
  | .boxed type, document => .boxed (readAs origin type document)
  | .shared type, document => .shared ⟨origin, 0⟩ (readAs origin type document)
  | .collection form element, document =>
    let items := (document.items?.getD []).zipIdx.map fun (item, position) =>
      readAs (.item origin position) element item
    .collection form element (match form with
      | .sortedSet | .hashSet => Value.sortTexts items
      | _ => items)

/-- The value of a type that a document gives, where it does not matter which one it is. -/
def read (type : Ty) (document : Json) : Value := type.readAs (.given 0) document

end Ty

namespace Value

/-- The member of a record, read as a type. Other values have no members. -/
def member (type : Ty) (key : String) : Value → Value
  | .record _ origin document =>
    match document.member? key with
    | some member => type.readAs (.member origin key type) member
    | none => type.readAs .missing .null
  | _ => type.readAs .missing .null

end Value

end RuleTree
