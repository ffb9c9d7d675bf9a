import RuleTree.Pattern.Expression
import RuleTree.Number.Numeral
import RuleTree.Text.Alphanumeric
import RuleTree.Text.Blank
import RuleTree.Text.CaseFold

/-!
Reading regular expressions from their usual notation: literals, `.`, `^`, `$`, classes in
brackets, groups, alternatives, the repetitions `*`, `+`, `?` and counted ones in braces, escapes,
and the flag that switches the distinction of case.
-/

set_option autoImplicit false

namespace RuleTree.Expression

/-! ### Sets of characters -/

def anyButLineFeed : Text.CodeRanges := (Text.CodeRanges.single 10).complement

def literalSet (c : Char) (ignoreCase : Bool) : Text.CodeRanges :=
  if ignoreCase then .ofCodes (Text.caseVariants c.toNat) else .single c.toNat

/-- What an escaped character stands for. -/
inductive Escape where
  | literal (c : Char)
  | class (set : Text.CodeRanges)

def escape? (c : Char) : Option Escape :=
  if c = 'd' then some (.class Text.decimalDigitRanges)
  else if c = 'D' then some (.class Text.decimalDigitRanges.complement)
  else if c = 's' then some (.class Text.blankRanges)
  else if c = 'S' then some (.class Text.blankRanges.complement)
  else if c = 'n' then some (.literal '\n')
  else if c = 't' then some (.literal '\t')
  else if c = 'r' then some (.literal '\r')
  else if c = 'f' then some (.literal '\x0c')
  else if c = 'v' then some (.literal '\x0b')
  else if c = 'a' then some (.literal '\x07')
  else if c.toNat < 128 && !c.isAlphanum && c ≠ '<' && c ≠ '>' then some (.literal c)
  else none

/-! ### Classes in brackets -/

/-- The items of a class in brackets so far: what they hold together, and how many they are. -/
structure Items where
  set : Text.CodeRanges
  count : Nat

namespace Items

def none : Items := ⟨.empty, 0⟩

def addRange (items : Items) (low high : Char) : Items :=
  ⟨items.set.insert low.toNat high.toNat, items.count + 1⟩

def addChar (items : Items) (c : Char) : Items := items.addRange c c

def addClass (items : Items) (set : Text.CodeRanges) : Items :=
  ⟨items.set.union set, items.count + 1⟩

end Items

/-- One item of a class in brackets, with the rest of the text. -/
def item? : List Char → Option (Escape × List Char)
  | '\\' :: c :: rest => (escape? c).map fun meaning => (meaning, rest)
  | '\\' :: [] => none
  | c :: rest => some (.literal c, rest)
  | [] => none

/-- The items of a class in brackets up to the closing bracket. A hyphen between two literals
makes a range; elsewhere it stands for itself. -/
def items? : Nat → List Char → Items → Option (Items × List Char)
  | 0, _, _ => none
  | fuel + 1, text, items =>
    match text with
    | [] => none
    | ']' :: rest => some (items, rest)
    | '[' :: _ => none
    | '&' :: '&' :: _ => none
    | '~' :: '~' :: _ => none
    | '-' :: '-' :: _ => none
    | _ =>
      (item? text).bind fun (item, rest) =>
        match item, rest with
        | .literal c, '-' :: ']' :: _ => items? fuel rest (items.addChar c)
        | .class set, '-' :: ']' :: _ => items? fuel rest (items.addClass set)
        | _, '-' :: '-' :: _ => none
        | .literal low, '-' :: after =>
          (item? after).bind fun (bound, rest) =>
            match bound with
            | .literal high =>
              if low.toNat ≤ high.toNat then items? fuel rest (items.addRange low high) else none
            | .class _ => none
        | .class _, '-' :: _ => none
        | .literal c, _ => items? fuel rest (items.addChar c)
        | .class set, _ => items? fuel rest (items.addClass set)

/-- Leading hyphens of a class stand for themselves. -/
def leadingHyphens : List Char → Items × List Char
  | '-' :: rest =>
    let (items, rest) := leadingHyphens rest
    (items.addChar '-', rest)
  | rest => (.none, rest)

/-- A class in brackets, after the opening bracket. A closing bracket in the first place stands
for itself. The case variants of the members are added before a negation takes the rest. -/
def bracket? (text : List Char) (ignoreCase : Bool) : Option (Expression × List Char) :=
  let (negated, text) := match text with
    | '^' :: rest => (true, rest)
    | _ => (false, text)
  let (items, text) := match leadingHyphens text with
    | (⟨_, 0⟩, ']' :: rest) => (Items.none.addChar ']', rest)
    | leading => leading
  (items? (text.length + 1) text items).map fun (items, rest) =>
    let set := if ignoreCase then items.set.closeCase else items.set
    (.bracket (if negated then set.complement else set) items.count, rest)

/-! ### Repetitions -/

def greatestCount : Nat := 4294967295

/-- A count within braces; blanks around it are skipped. -/
def count? (text : List Char) : Option (Nat × List Char) :=
  let text := text.dropWhile Text.isBlankChar
  let digits := text.takeWhile Char.isDigit
  let value := Number.digitsValue digits
  if digits.isEmpty || greatestCount < value then none
  else some (value, (text.dropWhile Char.isDigit).dropWhile Text.isBlankChar)

/-- The bounds of a counted repetition, after the opening brace. -/
def bounds? (text : List Char) : Option ((Nat × Option Nat) × List Char) :=
  (count? text).bind fun (least, rest) =>
    match rest with
    | '}' :: rest => some ((least, some least), rest)
    | ',' :: '}' :: rest => some ((least, none), rest)
    | ',' :: rest =>
      (count? rest).bind fun (most, rest) =>
        match rest with
        | '}' :: rest => if least ≤ most then some ((least, some most), rest) else none
        | _ => none
    | _ => none

/-! ### Flags -/

/-- The state of the case flag that a group of flags sets, if it sets it, and the rest. A flag
stands there once at most, and after a minus sign there is one. -/
def caseFlag : List Char → Option Bool × List Char
  | 'i' :: rest => (some true, rest)
  | '-' :: 'i' :: rest => (some false, rest)
  | rest => (none, rest)

/-- The opening of a group after `(?`: the state of the case flag after it, whether a group is
opened at all, and the rest. Without a group there must be a flag. -/
def opening? (text : List Char) (ignoreCase : Bool) : Option (Bool × Bool × List Char) :=
  match caseFlag text with
  | (flag, ':' :: rest) => some (flag.getD ignoreCase, true, rest)
  | (some state, ')' :: rest) => some (state, false, rest)
  | _ => none

/-! ### Groups -/

/-- A group that is still open: whether it captures, its finished alternatives and the parts of the
current one, both in reverse, and the state of the case flag. -/
structure Group where
  captures : Bool
  branches : List Expression
  parts : List Expression
  ignoreCase : Bool

namespace Group

/-- A group with nothing in it. -/
def opened (captures ignoreCase : Bool) : Group := ⟨captures, [], [], ignoreCase⟩

def branch (group : Group) : Expression := .ofParts group.parts.reverse

def body (group : Group) : Expression := .ofBranches (group.branch :: group.branches).reverse

def add (group : Group) (part : Expression) : Group := { group with parts := part :: group.parts }

def nextBranch (group : Group) : Group :=
  { group with branches := group.branch :: group.branches, parts := [] }

/-- Repeats the last part; there must be one, and a switch of flags is none. -/
def repeatLast? (group : Group) (least : Nat) (most : Option Nat) (few : Bool) : Option Group :=
  match group.parts with
  | [] => none
  | .flags :: _ => none
  | part :: rest => some { group with parts := .copies part least most few :: rest }

end Group

/-- Reads the text into the innermost group; `outer` holds the groups around it. -/
def readParts? : Nat → List Char → Group → List Group → Option Expression
  | 0, _, _, _ => none
  | fuel + 1, text, inner, outer =>
    let repeating := fun (least : Nat) (most : Option Nat) (rest : List Char) =>
      let (few, rest) := match rest with
        | '?' :: rest => (true, rest)
        | _ => (false, rest)
      match inner.repeatLast? least most few with
      | some repeated => readParts? fuel rest repeated outer
      | none => none
    match text with
    | [] => if outer.isEmpty then some inner.body else none
    | '(' :: '?' :: rest =>
      match opening? rest inner.ignoreCase with
      | some (ignoreCase, true, rest) =>
        readParts? fuel rest (.opened false ignoreCase) (inner :: outer)
      | some (ignoreCase, false, rest) =>
        readParts? fuel rest { inner.add .flags with ignoreCase } outer
      | none => none
    | '(' :: rest => readParts? fuel rest (.opened true inner.ignoreCase) (inner :: outer)
    | ')' :: rest =>
      match outer with
      | parent :: outer =>
        readParts? fuel rest (parent.add (.group inner.captures inner.body)) outer
      | [] => none
    | '|' :: rest => readParts? fuel rest inner.nextBranch outer
    | '*' :: rest => repeating 0 none rest
    | '+' :: rest => repeating 1 none rest
    | '?' :: rest => repeating 0 (some 1) rest
    | '{' :: rest =>
      match bounds? rest with
      | some ((least, most), rest) => repeating least most rest
      | none => none
    | '[' :: rest =>
      match bracket? rest inner.ignoreCase with
      | some (part, rest) => readParts? fuel rest (inner.add part) outer
      | none => none
    | '.' :: rest => readParts? fuel rest (inner.add (.one anyButLineFeed)) outer
    | '^' :: rest => readParts? fuel rest (inner.add .start) outer
    | '$' :: rest => readParts? fuel rest (inner.add .finish) outer
    | '\\' :: c :: rest =>
      match escape? c with
      | some (.literal c) =>
        readParts? fuel rest (inner.add (.one (literalSet c inner.ignoreCase))) outer
      | some (.class set) => readParts? fuel rest (inner.add (.one set)) outer
      | none => none
    | '\\' :: [] => none
    | c :: rest => readParts? fuel rest (inner.add (.one (literalSet c inner.ignoreCase))) outer

/-- The expression that a text writes, if it is well formed. -/
def read? (text : String) : Option Expression :=
  let chars := text.toList
  readParts? (chars.length + 1) chars (.opened false false) []

end RuleTree.Expression
