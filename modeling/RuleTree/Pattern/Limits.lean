import RuleTree.Pattern.Automaton
import RuleTree.Pattern.Normal
import RuleTree.Pattern.Reader
import RuleTree.Pattern.Search

/-!
The limits of patterns. A text is a pattern if it is well formed, is not nested too deeply, and its
automata are not too large.
-/

set_option autoImplicit false

namespace RuleTree

def Expression.depthLimit : Nat := 250

namespace Pattern

/-- The automata of the pattern keep to the limit. -/
def isWithinLimit (pattern : Pattern) : Bool :=
  (pattern.automaton .forward).isWithinLimit && (pattern.automaton .backward).isWithinLimit

/-- The pattern that a text denotes, if it denotes one within the limits. -/
def read? (text : String) : Option Pattern :=
  ((Expression.read? text).filter fun expression => expression.depth ≤ Expression.depthLimit).bind
    fun expression =>
      let pattern := expression.toPattern
      if pattern.isWithinLimit then some pattern else none

end Pattern

end RuleTree
