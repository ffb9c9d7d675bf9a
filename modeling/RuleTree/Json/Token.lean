import RuleTree.Json.Basic
import RuleTree.Number.Numeral

/-!
The tokens of a JSON text. The lexer is a machine that reads one character at a time; its state
says whether it stands between tokens, in a word or numeral, or in a string.

A numeral with a point or an exponent, or an integer out of bounds, is read in two steps: its
leading digits as one integer, rounded, and this number multiplied or divided by a power of ten,
rounded again.
-/

set_option autoImplicit false

namespace RuleTree.Json

/-- A token of a JSON text. -/
inductive Token where
  | openArray
  | closeArray
  | openObject
  | closeObject
  | comma
  | colon
  | scalar (value : Json)
  /-- A string with one half of a pair of codes and not the other: it stands for no text. -/
  | halfText

/-! ### Numerals -/

/-- The power of ten as the nearest floating-point number. -/
def tenPower (exponent : Nat) : Number.Binary :=
  Number.BinaryFormat.double.round false (Nat.pow 10 exponent) 1

/-- Divides by the greatest power of ten at hand until the exponent is within its reach. -/
def shrink (number : Number.Binary) (exponent : Int) : Nat → Number.Binary
  | 0 => Number.BinaryFormat.double.zero false
  | fuel + 1 =>
    if -308 ≤ exponent then Number.BinaryFormat.double.div number (tenPower (-exponent).toNat)
    else shrink (Number.BinaryFormat.double.div number (tenPower 308)) (exponent + 308) fuel

/-- A decimal numeral in two steps: the digits rounded, then scaled by the power of ten. Three
divisions bring every number of at most twenty digits to zero. -/
def scaled (significand : Nat) (exponent : Int) : Number.Binary :=
  let digits := Number.BinaryFormat.double.ofInt significand
  if significand = 0 then digits
  else if 308 < exponent then .infinite false
  else if 0 ≤ exponent then Number.BinaryFormat.double.mul digits (tenPower exponent.toNat)
  else shrink digits exponent 4

def negated : Number.Binary → Number.Binary
  | .finite negative mantissa exponent => .finite (!negative) mantissa exponent
  | .infinite negative => .infinite (!negative)
  | .nan => .nan

/-- Takes digits into an integer as long as it fits into 64 bits; returns it with the number of
digits that did not fit. -/
def takeDigits (digits : List Char) (start : Nat) : Nat × Nat :=
  match digits with
  | [] => (start, 0)
  | c :: rest =>
    let next := start * 10 + (c.toNat - '0'.toNat)
    if next ≤ 18446744073709551615 then takeDigits rest next
    else (start, rest.length + 1)

/-- The exponent part of a numeral: a letter, an optional sign and digits. -/
def exponentPart? : List Char → Option Int
  | [] => some 0
  | mark :: rest =>
    if mark = 'e' || mark = 'E' then
      let (negative, digits) := Number.takeSign rest
      if digits.isEmpty || !digits.all Char.isDigit then none
      else
        let size : Int := Number.digitsValue digits
        some (if negative then -size else size)
    else none

/-- The number of an unsigned numeral with a point or an exponent, or of an integer that does
not fit. Digits that do not fit count as zeros before the point and are left out after it. -/
def decimal (whole fraction : List Char) (exponent : Int) : Number.Binary :=
  let (significand, skipped) := takeDigits whole 0
  let (significand, dropped) := takeDigits fraction significand
  scaled significand (exponent + (skipped : Int) - ((fraction.length - dropped : Nat) : Int))

/-- Reads a numeral. A leading zero stands alone, and digits must follow a point. Minus zero is
a floating-point number. -/
def numeral? (text : List Char) : Option Json :=
  let (negative, body) := match text with
    | '-' :: rest => (true, rest)
    | _ => (false, text)
  let whole := body.takeWhile Char.isDigit
  let rest := body.dropWhile Char.isDigit
  let leadingZero := match whole with
    | '0' :: _ :: _ => true
    | _ => false
  if whole.isEmpty || leadingZero then none
  else
    let sign := fun (number : Number.Binary) => if negative then negated number else number
    match rest with
    | [] =>
      let size : Int := Number.digitsValue whole
      let value := if negative then -size else size
      if (negative && size = 0) || value < leastInt || greatestInt < value then
        some (.float (sign (decimal whole [] 0)))
      else some (.int value)
    | '.' :: tail =>
      let fraction := tail.takeWhile Char.isDigit
      if fraction.isEmpty then none
      else (exponentPart? (tail.dropWhile Char.isDigit)).map fun exponent =>
        .float (sign (decimal whole fraction exponent))
    | _ => (exponentPart? rest).map fun exponent => .float (sign (decimal whole [] exponent))

/-- The token that a run of letters, digits and signs spells. -/
def word? (text : List Char) : Option Token :=
  if text = "null".toList then some (.scalar .null)
  else if text = "true".toList then some (.scalar (.bool true))
  else if text = "false".toList then some (.scalar (.bool false))
  else (numeral? text).map .scalar

/-! ### The lexer -/

/-- Where the lexer stands. Characters of a token are held in reverse, those of a string as code
points among which there may be halves of pairs. -/
inductive LexerState where
  /-- Between tokens. -/
  | outside
  /-- In a word or numeral. -/
  | word (read : List Char)
  /-- In a string. -/
  | text (read : List Nat)
  /-- In a string, after a backslash. -/
  | escape (read : List Nat)
  /-- In a string, in a code of four hexadecimal digits. -/
  | code (read : List Nat) (digits : List Char)

/-- The tokens read so far, in reverse, and the state. -/
structure Lexer where
  tokens : List Token
  state : LexerState

def punctuation? (c : Char) : Option Token :=
  if c = '[' then some .openArray
  else if c = ']' then some .closeArray
  else if c = '{' then some .openObject
  else if c = '}' then some .closeObject
  else if c = ',' then some .comma
  else if c = ':' then some .colon
  else none

def isSpace (c : Char) : Bool := c = ' ' || c = '\n' || c = '\r' || c = '\t'

def isWordChar (c : Char) : Bool :=
  c.isAlphanum || c = '-' || c = '+' || c = '.'

def hexValue? (c : Char) : Option Nat :=
  if c.isDigit then some (c.toNat - '0'.toNat)
  else if 'a' ≤ c ∧ c ≤ 'f' then some (c.toNat - 'a'.toNat + 10)
  else if 'A' ≤ c ∧ c ≤ 'F' then some (c.toNat - 'A'.toNat + 10)
  else none

/-- The character that a letter after a backslash stands for. -/
def escaped? (c : Char) : Option Char :=
  if c = '\x22' || c = '\\' || c = '/' then some c
  else if c = 'b' then some '\x08'
  else if c = 'f' then some '\x0c'
  else if c = 'n' then some '\n'
  else if c = 'r' then some '\r'
  else if c = 't' then some '\t'
  else none

/-- The value of four hexadecimal digits held in reverse. -/
def codeValue (digits : List Char) : Nat :=
  digits.reverse.foldl (fun value c => value * 16 + (hexValue? c).getD 0) 0

/-- A first half of a pair of codes. -/
def isHighHalf (code : Nat) : Bool := 0xD800 ≤ code && code ≤ 0xDBFF

/-- A second half of a pair of codes. -/
def isLowHalf (code : Nat) : Bool := 0xDC00 ≤ code && code ≤ 0xDFFF

/-- The characters of code points. A first half and the second half after it are one character; a
half by itself is none. -/
def joinHalves? : List Nat → Option (List Char)
  | [] => some []
  | [code] => if isHighHalf code || isLowHalf code then none else some [Char.ofNat code]
  | code :: next :: rest =>
    if isHighHalf code && isLowHalf next then
      (joinHalves? rest).map
        (Char.ofNat (0x10000 + (code - 0xD800) * 0x400 + (next - 0xDC00)) :: ·)
    else if isHighHalf code || isLowHalf code then none
    else (joinHalves? (next :: rest)).map (Char.ofNat code :: ·)

/-- The token of a string whose code points are held in reverse. -/
def textToken (read : List Nat) : Token :=
  match joinHalves? read.reverse with
  | some text => .scalar (.string (String.ofList text))
  | none => .halfText

namespace Lexer

def startToken (tokens : List Token) (c : Char) : Option Lexer :=
  if isSpace c then some ⟨tokens, .outside⟩
  else if c = '\x22' then some ⟨tokens, .text []⟩
  else if isWordChar c then some ⟨tokens, .word [c]⟩
  else (punctuation? c).map fun token => ⟨token :: tokens, .outside⟩

def step (lexer : Lexer) (c : Char) : Option Lexer :=
  match lexer.state with
  | .outside => startToken lexer.tokens c
  | .word read =>
    if isWordChar c then some ⟨lexer.tokens, .word (c :: read)⟩
    else (word? read.reverse).bind fun token => startToken (token :: lexer.tokens) c
  | .text read =>
    if c = '\x22' then some ⟨textToken read :: lexer.tokens, .outside⟩
    else if c = '\\' then some ⟨lexer.tokens, .escape read⟩
    else if c.toNat < 32 then none
    else some ⟨lexer.tokens, .text (c.toNat :: read)⟩
  | .escape read =>
    if c = 'u' then some ⟨lexer.tokens, .code read []⟩
    else (escaped? c).map fun plain => ⟨lexer.tokens, .text (plain.toNat :: read)⟩
  | .code read digits =>
    if (hexValue? c).isNone then none
    else
      let digits := c :: digits
      some ⟨lexer.tokens,
        if digits.length < 4 then .code read digits else .text (codeValue digits :: read)⟩

def finish (lexer : Lexer) : Option (List Token) :=
  match lexer.state with
  | .outside => some lexer.tokens.reverse
  | .word read => (word? read.reverse).map fun token => (token :: lexer.tokens).reverse
  | _ => none

end Lexer

def tokens? (text : String) : Option (List Token) :=
  (text.toList.foldlM Lexer.step ⟨[], .outside⟩).bind Lexer.finish

end RuleTree.Json
