import RuleTree.Tree.Bind
import RuleTree.Tree.Inherit

/-!
Building trees of rules. Each operation changes a validator by one declaration; those that can be
refused leave it as it is then.

What is declared takes the rule sets of the innermost open scope as its tag and the resolver that
the validator holds. A nested validator is handed the innermost scope as its selector, or else the
selector that the outer one inherited.
-/

set_option autoImplicit false

namespace RuleTree

/-! ### Entries -/

namespace RuleEntry

def setMessage (entry : RuleEntry) (message : MessageOverride) : RuleEntry :=
  { entry with message := some message, isCustom := true }

/-- Sets the message of an entry that has none of its own. -/
def setDefaultMessage (entry : RuleEntry) (message : MessageOverride) : RuleEntry :=
  if entry.isCustom then entry else { entry with message := some message }

end RuleEntry

/-! ### Rules of a value -/

namespace ValueRules

/-- The entry of a rule that is declared now. -/
def entry (rules : ValueRules) (rule : Rule) : RuleEntry :=
  let rule := match rules.resolver with
    | some resolver => rule.bind resolver
    | none => rule
  ⟨rule, rules.stack.current, none, false⟩

def pushPresence (rules : ValueRules) (rule : Rule) : ValueRules :=
  { rules with
    presence := rules.presence ++ [rules.entry rule]
    last := some (.presence rules.presence.length) }

def pushRule (rules : ValueRules) (rule : Rule) : ValueRules :=
  { rules with
    general := rules.general ++ [rules.entry rule]
    last := some (.general rules.general.length) }

/-- Puts a rule into the nested segment, without making it the one that messages are meant for. -/
def installNested (rules : ValueRules) (rule : Rule) : ValueRules :=
  { rules with nested := some (rules.entry rule) }

/-- The selector that a nested validator is handed. -/
def selectorForNested (rules : ValueRules) : Option RuleSets :=
  rules.stack.current.or rules.inherited

/-- Hands a rule a selector, if there is one. -/
def handOn (sets : Option RuleSets) (rule : Rule) : Rule :=
  match sets with
  | some sets => rule.inherit sets
  | none => rule

/-- Attaches a nested validator, unless there is one. The error names the site and what to use
instead. -/
def attachNested (rules : ValueRules) (rule : Rule) (site alternative : String) :
    Except Error ValueRules :=
  if rules.nested.isSome then .error (.alreadyAttached site alternative)
  else
    let rules := rules.installNested (handOn rules.selectorForNested rule)
    .ok { rules with last := some .nested }

def setValidator (rules nested : ValueRules) : Except Error ValueRules :=
  rules.attachNested (.value nested) "value validator" "child_rules"

def modifyLast (rules : ValueRules) (change : RuleEntry → RuleEntry) : ValueRules :=
  match rules.last with
  | some (.presence position) =>
    { rules with presence := rules.presence.modify position change }
  | some (.general position) =>
    { rules with general := rules.general.modify position change }
  | some .nested => { rules with nested := rules.nested.map change }
  | none => rules

def setLastMessage (rules : ValueRules) (message : MessageOverride) : ValueRules :=
  rules.modifyLast (·.setMessage message)

/-- Sets the message of all entries that have none of their own. -/
def setDefaultMessage (rules : ValueRules) (message : MessageOverride) : ValueRules :=
  { rules with
    presence := rules.presence.map (·.setDefaultMessage message)
    general := rules.general.map (·.setDefaultMessage message)
    nested := rules.nested.map (·.setDefaultMessage message) }

def setMode (rules : ValueRules) (mode : Mode) : ValueRules := { rules with mode }

def addGuard (rules : ValueRules) (guard : Test) : ValueRules :=
  { rules with guards := rules.guards ++ [guard] }

/-- Passes over empty texts from now on. -/
def allowEmpty (rules : ValueRules) : ValueRules := { rules with skipsEmpty := true }

def setPreprocess (rules : ValueRules) (transform : Value → Logged Value) : ValueRules :=
  { rules with preprocess := some transform }

end ValueRules

/-! ### Rules of elements -/

namespace ElementRules

/-- What to use instead of a second rule for the elements. -/
def alternative : String := "child_rules or each_rules"

/-- Attaches the rule of the elements, unless there is one. -/
def attach (rules : ElementRules) (element : Rule) : Except Error ElementRules :=
  if rules.element.isSome then .error (.alreadyAttached "collection elements" alternative)
  else
    let element := ValueRules.handOn rules.inherited element
    let element := match rules.resolver with
      | some resolver => element.bind resolver
      | none => element
    .ok { rules with element := some element }

def setFilter (rules : ElementRules) (filter : Test) : ElementRules :=
  { rules with filter := some filter }

end ElementRules

/-! ### Properties -/

namespace PropertyRules

/-- A property without rules. -/
def new (name : String) (accessor : Value → Logged Value) : PropertyRules :=
  ⟨name, none, none, accessor, .empty, none, true⟩

/-- A collection property without rules for its elements yet. -/
def newCollection (name : String) (accessor : Value → Logged Value) : PropertyRules :=
  { new name accessor with rules := ValueRules.empty.installNested (.elements .empty) }

/-- How errors name the property. -/
def site (property : PropertyRules) : String := "property '" ++ property.member ++ "'"

def modifyRules (property : PropertyRules) (change : ValueRules → ValueRules) : PropertyRules :=
  { property with rules := change property.rules }

/-- Nests the rules of the object that is reached from the value. They are handed the tag of the
property first. -/
def setValidator (property : PropertyRules) (reach : Reach) (nested : ObjectRules) :
    Except Error PropertyRules :=
  let rule := ValueRules.handOn property.tag (.object reach nested)
  (property.rules.attachNested rule property.site "child_rules").map fun rules =>
    { property with rules }

/-- The rules of the elements, if the nested validator is one of elements. -/
def elements? (property : PropertyRules) : Option ElementRules :=
  match property.rules.nested with
  | some { rule := .elements rules, .. } => some rules
  | _ => none

def putElements (property : PropertyRules) (elements : ElementRules) : PropertyRules :=
  property.modifyRules fun rules =>
    { rules with nested := rules.nested.map fun entry => { entry with rule := .elements elements } }

/-- The property with its rules of elements, which are handed the tag of the property. -/
def openElements (property : PropertyRules) : Except Error (PropertyRules × ElementRules) :=
  match property.elements? with
  | none => .error (.alreadyAttached property.site ElementRules.alternative)
  | some elements =>
    let elements := match property.tag with
      | some sets => elements.inherit sets
      | none => elements
    .ok (property.putElements elements, elements)

def attachElement (property : PropertyRules) (element : Rule) :
    PropertyRules × Except Error Unit :=
  match property.openElements with
  | .error error => (property, .error error)
  | .ok (property, elements) =>
    match elements.attach element with
    | .error error => (property, .error error)
    | .ok elements => (property.putElements elements, .ok ())

/-- Sets the filter of the elements, if there are rules of elements. -/
def setFilter (property : PropertyRules) (filter : Test) : PropertyRules :=
  match property.openElements with
  | .error _ => property
  | .ok (property, elements) => property.putElements (elements.setFilter filter)

end PropertyRules

/-! ### Objects -/

namespace ObjectRules

def applyOptions (rules : ObjectRules) (options : Options) : ObjectRules :=
  { rules with
    mode := options.mode
    suppressAnnotations := options.suppressAnnotations
    validateAll := options.validateAllProperties
    defaultRuleSets := options.defaultRuleSets }

/-- Binds the resolver of the validator to a property, if it has one. -/
def bindOwn (rules : ObjectRules) (property : PropertyRules) : PropertyRules :=
  match rules.resolver with
  | some resolver => property.bind resolver
  | none => property

/-- A property as it stands when it is declared now. -/
def declared (rules : ObjectRules) (property : PropertyRules) : PropertyRules :=
  rules.bindOwn { property with tag := rules.stack.current }

def addProperty (rules : ObjectRules) (property : PropertyRules) : ObjectRules :=
  { rules with properties := rules.properties ++ [property] }

/-- A property of another validator as it is included now: an open scope replaces its tag. -/
def included (rules : ObjectRules) (property : PropertyRules) : PropertyRules :=
  rules.bindOwn (match rules.stack.current with
    | some sets => { property with tag := some sets }
    | none => property)

def includeFrom (rules other : ObjectRules) : ObjectRules :=
  { rules with properties := rules.properties ++ other.properties.map rules.included }

/-- Sets the child, unless there is one. -/
def setValidator (rules child : ObjectRules) : Except Error ObjectRules :=
  if rules.child.isSome then
    .error (.alreadyAttached ("object validator for " ++ rules.target.name) "include")
  else
    let child := match rules.stack.current.or rules.inherited with
      | some sets => child.inherit sets
      | none => child
    let child := match rules.resolver with
      | some resolver => child.bind resolver
      | none => child
    .ok { rules with child := some child }

def addGuard (rules : ObjectRules) (guard : Test) : ObjectRules :=
  { rules with guards := rules.guards ++ [guard] }

end ObjectRules

end RuleTree
