import RuleTree.Text.Printable

/-!
Quoted texts: a text between quotation marks, in which the marks, backslashes and characters
that would not show are written as escapes.
-/

set_option autoImplicit false

namespace RuleTree.Text

/-- The digits of a number in base sixteen, in lower case. -/
def hexDigits (n : Nat) : List Char := Nat.toDigits 16 n

/-- One character between quotation marks of the given kind. Only that kind of mark is
escaped; the other one stands as it is. -/
def escapeChar (mark c : Char) : List Char :=
  if c = '\\' then ['\\', '\\']
  else if c = mark then ['\\', mark]
  else if c = '\n' then ['\\', 'n']
  else if c = '\t' then ['\\', 't']
  else if c = '\r' then ['\\', 'r']
  else if c = '\x00' then ['\\', '0']
  else if isPrintable c then [c]
  else ['\\', 'u', '{'] ++ hexDigits c.toNat ++ ['}']

def quote (text : String) : String :=
  String.ofList ('\x22' :: text.toList.flatMap (escapeChar '\x22') ++ ['\x22'])

def quoteChar (c : Char) : String :=
  String.ofList ('\x27' :: escapeChar '\x27' c ++ ['\x27'])

/-- A text between braces. -/
def inBraces (text : String) : String := String.singleton '{' ++ text ++ String.singleton '}'

end RuleTree.Text
