import RuleTree.Text.CodeRanges

/-!
Blank characters and trimming. A character is blank when Unicode gives it the property
`White_Space`. A text is blank when nothing is left of it after trimming, that is, when all
its characters are blank.
-/

set_option autoImplicit false

namespace RuleTree.Text

/-- The code points with the Unicode property `White_Space`. -/
def blankRanges : CodeRanges where
  bounds :=
    [(9, 13), (32, 32), (133, 133), (160, 160), (5760, 5760), (8192, 8202),
     (8232, 8233), (8239, 8239), (8287, 8287), (12288, 12288)]

def isBlankChar (c : Char) : Bool := blankRanges.contains c

def trimChars (cs : List Char) : List Char :=
  ((cs.dropWhile isBlankChar).reverse.dropWhile isBlankChar).reverse

def trim (text : String) : String := String.ofList (trimChars text.toList)

/-- A text of blank characters only; the empty text is one. -/
def isBlank (text : String) : Bool := text.toList.all isBlankChar

end RuleTree.Text
