import RuleTree.Context.Annotation
import RuleTree.Failure.Message
import RuleTree.Options

/-!
The context of an evaluation: a stack of levels. A nested validator works in a level of its own;
what a level does not hold is looked up in the levels around it. The names of a property and the
selector are the exception: a level has its own or none.
-/

set_option autoImplicit false

namespace RuleTree

/-- The types of context items. -/
inductive ItemType where
  | int
  | bool
  | text
  deriving DecidableEq, Repr

/-- An item that the caller puts into a context. -/
inductive Item where
  | int (n : Int)
  | bool (b : Bool)
  | text (s : String)
  deriving DecidableEq, Repr

namespace Item

def type : Item → ItemType
  | .int _ => .int
  | .bool _ => .bool
  | .text _ => .text

def toJson : Item → Json
  | .int n => .ofInt n
  | .bool b => .bool b
  | .text s => .string s

end Item

/-- One level of a context. -/
structure ContextLevel where
  subject : Option Value
  display : Option String
  member : Option String
  ruleSets : Option RuleSets
  defaultRuleSets : Option RuleSets
  items : List (String × Item)
  resolver : Option Resolver
  bridge : Option AnnotationBridge
  messages : Option MessageSource
  annotationsEnabled : Bool

namespace ContextLevel

/-- A level that holds nothing. -/
def empty : ContextLevel := ⟨none, none, none, none, none, [], none, none, none, true⟩

def item? (level : ContextLevel) (key : String) : Option Item :=
  (level.items.find? fun entry => entry.1 == key).map Prod.snd

end ContextLevel

/-- A context: its innermost level and the levels around it, innermost first. -/
structure Context where
  level : ContextLevel
  outer : List ContextLevel

namespace Context

/-- The name of a value that no property names. -/
def defaultName : String := "Value"

/-- A context of one empty level. -/
def empty : Context := ⟨.empty, []⟩

/-- All levels, innermost first. -/
def levels (context : Context) : List ContextLevel := context.level :: context.outer

/-! ### Nesting -/

/-- Opens a level that keeps the subject, the selector and the switch for annotations. -/
def child (context : Context) : Context where
  level := { ContextLevel.empty with
    subject := context.level.subject
    ruleSets := context.level.ruleSets
    annotationsEnabled := context.level.annotationsEnabled }
  outer := context.levels

/-- Opens a level that keeps the names too. -/
def scope (context : Context) : Context where
  level := { context.child.level with
    display := context.level.display
    member := context.level.member }
  outer := context.levels

/-! ### Setting up a level -/

/-- Changes the innermost level. -/
def modify (context : Context) (change : ContextLevel → ContextLevel) : Context :=
  { context with level := change context.level }

def withSubject (context : Context) (subject : Value) : Context :=
  context.modify ({ · with subject := some subject })

def withMember (context : Context) (member : String) (display : Option String) : Context :=
  context.modify ({ · with member := some member, display })

/-- Sets the selector; an empty one is none. -/
def withRuleSets (context : Context) (sets : Option RuleSets) : Context :=
  context.modify ({ · with ruleSets := RuleSets.nonEmpty? sets })

/-- Sets the ambient selector; an empty one is none. -/
def withDefaultRuleSets (context : Context) (sets : Option RuleSets) : Context :=
  context.modify ({ · with defaultRuleSets := RuleSets.nonEmpty? sets })

/-- Sets the resolver, if there is one. -/
def withResolver (context : Context) (resolver : Option Resolver) : Context :=
  context.modify fun level => { level with resolver := resolver.or level.resolver }

/-- Sets the bridge, if there is one. -/
def withBridge (context : Context) (bridge : Option AnnotationBridge) : Context :=
  context.modify fun level => { level with bridge := bridge.or level.bridge }

/-- Sets the message source, if there is one. -/
def withMessages (context : Context) (messages : Option MessageSource) : Context :=
  context.modify fun level => { level with messages := messages.or level.messages }

def withAnnotationsEnabled (context : Context) (enabled : Bool) : Context :=
  context.modify ({ · with annotationsEnabled := enabled })

/-- Takes the ambient selector from options that have one. -/
def withOptions (context : Context) (options : Options) : Context :=
  match options.defaultRuleSets with
  | some sets => context.withDefaultRuleSets (some sets)
  | none => context

/-- Puts an item under a key, in place of an earlier one. -/
def insert (context : Context) (key : String) (item : Item) : Context :=
  context.modify fun level =>
    { level with items := level.items.filter (fun entry => entry.1 != key) ++ [(key, item)] }

/-- Removes the item of a key from the innermost level. -/
def erase (context : Context) (key : String) : Context :=
  context.modify fun level =>
    { level with items := level.items.filter fun entry => entry.1 != key }

def forRuleSets (sets : RuleSets) : Context := empty.withRuleSets (some sets)

/-! ### Looking up -/

def subject (context : Context) : Option Value := context.level.subject

def member (context : Context) : Option String := context.level.member

/-- The name to show: the display name, else the member. -/
def display (context : Context) : Option String := context.level.display.or context.level.member

def messageName (context : Context) : String := context.display.getD defaultName

def ruleSets (context : Context) : Option RuleSets := context.level.ruleSets

def defaultRuleSets (context : Context) : Option RuleSets :=
  context.levels.findSome? ContextLevel.defaultRuleSets

/-- The nearest resolver. -/
def resolver (context : Context) : Option Resolver :=
  context.levels.findSome? ContextLevel.resolver

/-- The nearest bridge. -/
def bridge (context : Context) : Option AnnotationBridge :=
  context.levels.findSome? ContextLevel.bridge

/-- The nearest message source. -/
def messages (context : Context) : Option MessageSource :=
  context.levels.findSome? ContextLevel.messages

def annotationsEnabled (context : Context) : Bool := context.level.annotationsEnabled

/-- The bridge to ask, if annotations are switched on and there is one. -/
def activeBridge (context : Context) : Option AnnotationBridge :=
  if context.annotationsEnabled then context.bridge else none

/-- The nearest item of a key, whatever its type. -/
def item? (context : Context) (key : String) : Option Item :=
  context.levels.findSome? (·.item? key)

/-- The item of a key, if the nearest one has the type. -/
def get? (context : Context) (key : String) (type : ItemType) : Option Item :=
  (context.item? key).filter fun item => item.type = type

def contains (context : Context) (key : String) : Bool :=
  context.levels.any fun level => (level.item? key).isSome

/-- The number of items on the innermost level. -/
def size (context : Context) : Nat := context.level.items.length

/-- The number of levels around the innermost one. -/
def depth (context : Context) : Nat := context.outer.length

/-- The text that is validated, or the failure of a rule that needs one. -/
def requireText (context : Context) : Except Failure String :=
  match context.subject with
  | some (.string text) => .ok text
  | _ => .error (.typeMismatch Ty.string.name)

/-- The selector in effect for a validator: what it inherited, else what is requested, else the
ambient selector. -/
def selectorFor (context : Context) (inherited : Option RuleSets) : Option RuleSets :=
  (inherited.or context.ruleSets).or context.defaultRuleSets

/-- The context of the level around the innermost one. -/
def parent? (context : Context) : Option Context :=
  match context.outer with
  | level :: outer => some ⟨level, outer⟩
  | [] => none

def describe (context : Context) : String :=
  Text.record "ValidationContext"
    [("member_name", Text.optionalQuoted context.level.member),
     ("display_name", Text.optionalQuoted context.level.display),
     ("rule_sets", RuleSets.describeOptional context.level.ruleSets),
     ("default_rule_sets", RuleSets.describeOptional context.level.defaultRuleSets),
     ("items", toString context.size),
     ("has_parent", Text.truth (!context.outer.isEmpty))]

end Context

end RuleTree
