/-!
Formats of texts: e-mail addresses and user names, both over ASCII.
-/

set_option autoImplicit false

namespace RuleTree.Format

def isLetter (c : Char) : Bool := c.isAlpha

def isLetterOrDigit (c : Char) : Bool := c.isAlphanum

/-- The pieces of a text between the occurrences of a separator; at least one. -/
def pieces (separator : Char) : List Char → List (List Char)
  | [] => [[]]
  | c :: rest =>
    if c = separator then [] :: pieces separator rest
    else
      match pieces separator rest with
      | first :: others => (c :: first) :: others
      | [] => [[c]]

/-- The text before and after the first occurrence of a separator. -/
def splitFirst? (separator : Char) : List Char → Option (List Char × List Char)
  | [] => none
  | c :: rest =>
    if c = separator then some ([], rest)
    else (splitFirst? separator rest).map fun (before, after) => (c :: before, after)

def hasDouble (separator : Char) : List Char → Bool
  | c :: d :: rest => (c == separator && d == separator) || hasDouble separator (d :: rest)
  | _ => false

/-- The characters of the local part of an address besides letters and digits. -/
def localMarks : List Char := "!#$%&'*+-/=?^_`{|}~.".toList

/-- A character of the local part of an address. -/
def isLocalChar (c : Char) : Bool := isLetterOrDigit c || localMarks.contains c

/-- A character of a domain label. -/
def isLabelChar (c : Char) : Bool := isLetterOrDigit c || c == '-'

/-- A domain label: letters, digits and hyphens, with no hyphen at either end. -/
def isLabel (label : List Char) : Bool :=
  !label.isEmpty && label.head? != some '-' && label.getLast? != some '-' &&
    label.all isLabelChar

/-- The local part of an address: its characters with no point at either end and no two points
in a row. -/
def isLocalPart (text : List Char) : Bool :=
  !text.isEmpty && text.head? != some '.' && text.getLast? != some '.' &&
    !hasDouble '.' text && text.all isLocalChar

/-- The last label of a domain: two letters or more. -/
def isTopLabel (label : List Char) : Bool := 2 ≤ label.length && label.all isLetter

/-- A domain: two labels or more with points between them. -/
def isDomain (text : List Char) : Bool :=
  let labels := pieces '.' text
  text.contains '.' && (labels.getLast?.any isTopLabel) && labels.all isLabel

/-- An e-mail address: a local part and a domain around the first `@`. -/
def isEmail (text : String) : Bool :=
  match splitFirst? '@' text.toList with
  | some (localPart, domain) => isLocalPart localPart && isDomain domain
  | none => false

/-- A user name: letters, digits and underscores, with no underscore at either end and no two in a
row. -/
def isUserName (text : String) : Bool :=
  let chars := text.toList
  !chars.isEmpty && chars.head? != some '_' && chars.getLast? != some '_' &&
    !hasDouble '_' chars && chars.all fun c => isLetterOrDigit c || c == '_'

end RuleTree.Format
