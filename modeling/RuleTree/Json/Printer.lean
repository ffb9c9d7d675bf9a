import RuleTree.Json.Basic
import RuleTree.Number.Layout
import RuleTree.Text.Quoted

/-!
Written documents: `render` gives the JSON text, and `display` the form in which a document is
recorded in a failure, where each value names its kind.
-/

set_option autoImplicit false

namespace RuleTree.Json

def escapeText (c : Char) : List Char :=
  if c = '\x22' then ['\\', '\x22']
  else if c = '\\' then ['\\', '\\']
  else if c = '\x08' then ['\\', 'b']
  else if c = '\x0c' then ['\\', 'f']
  else if c = '\n' then ['\\', 'n']
  else if c = '\r' then ['\\', 'r']
  else if c = '\t' then ['\\', 't']
  else if c.toNat < 32 then
    let digits := Text.hexDigits c.toNat
    ['\\', 'u'] ++ List.replicate (4 - digits.length) '0' ++ digits
  else [c]

def renderText (text : String) : String :=
  String.ofList ('\x22' :: text.toList.flatMap escapeText ++ ['\x22'])

def renderFloat (value : Number.Binary) : String := Number.Layout.document.write .double value

mutual

/-- The JSON text of a document, without blanks. -/
def render : Json → String
  | .null => "null"
  | .bool value => if value then "true" else "false"
  | .int value => toString value
  | .float value => renderFloat value
  | .string value => renderText value
  | .array items => "[" ++ String.intercalate "," (renderItems items) ++ "]"
  | .object members => Text.inBraces (String.intercalate "," (renderMembers members))

def renderItems : List Json → List String
  | [] => []
  | item :: rest => render item :: renderItems rest

def renderMembers : List (String × Json) → List String
  | [] => []
  | (key, value) :: rest => (renderText key ++ ":" ++ render value) :: renderMembers rest

end

mutual

def display : Json → String
  | .null => "Null"
  | .bool value => if value then "Bool(true)" else "Bool(false)"
  | .int value => "Number(" ++ toString value ++ ")"
  | .float value => "Number(" ++ renderFloat value ++ ")"
  | .string value => "String(" ++ Text.quote value ++ ")"
  | .array items => "Array [" ++ String.intercalate ", " (displayItems items) ++ "]"
  | .object members =>
    "Object " ++ Text.inBraces (String.intercalate ", " (displayMembers members))

def displayItems : List Json → List String
  | [] => []
  | item :: rest => display item :: displayItems rest

def displayMembers : List (String × Json) → List String
  | [] => []
  | (key, value) :: rest => (Text.quote key ++ ": " ++ display value) :: displayMembers rest

end

end RuleTree.Json
