import RuleTree.Proxy
import RuleTree.Predicate.Basic
import RuleTree.Leaf.Library
import RuleTree.Pattern.Limits

/-!
Declarations as data. A validator is described by the list of steps that build it; running the
steps gives the validator and, in the order of their completion, the replies of the steps that can
be refused or that ask for something.
-/

set_option autoImplicit false

namespace RuleTree

/-- What a step of a declaration replies. -/
inductive Reply where
  /-- The step was carried out, or refused with an error. -/
  | done (error : Option Error)
  /-- The text is not a pattern. -/
  | badPattern
  /-- The text does not give options. -/
  | badOptions
  | flag (value : Bool)
  | text (value : String)
  /-- A description of a validator. -/
  | info (description : Json)

mutual

/-- A rule as it is declared. -/
inductive RuleForm where
  | leaf (leaf : Leaf)
  /-- A text in which a pattern occurs. -/
  | matching (source : String)
  | predicate (test : ContextTest)
  | composite (form : CompositeForm)
  | conditional (form : ConditionalForm)
  | value (steps : List ValueStep)
  | elements (steps : List ElementStep)
  /-- A rule that was made elsewhere. -/
  | given (rule : Rule)

/-- A composite rule as it is declared: the mode may be changed after the rules are added, and a
description may be asked for. -/
inductive CompositeForm where
  | mk (mode : Mode) (rules : List RuleForm) (laterMode : Option Mode) (info : Bool)

/-- A conditional rule as it is declared: the accepting branch may be configured several times. -/
inductive ConditionalForm where
  | mk (condition : Test) (accepted : List (List ValueStep))
      (rejected : Option (List ValueStep)) (info : Bool)

/-- A step in the declaration of the rules of a value. -/
inductive ValueStep where
  | rule (form : RuleForm)
  | contextual (leaf : ContextualLeaf)
  | required
  | allowEmpty
  | guard (test : Test)
  | mode (mode : Mode)
  | message (message : MessageOverride)
  | defaultMessage (message : MessageOverride)
  | preprocess (transform : Value → Logged Value)
  | presence (form : RuleForm)
  /-- Nests the rules of a value. -/
  | nested (steps : List ValueStep)
  /-- Nests a rule, naming the site and the alternative for an error. -/
  | attach (form : RuleForm) (site alternative : String)
  /-- Runs steps in a scope; `fails` ends the scope with an error. -/
  | scope (names : RuleSets) (steps : List ValueStep) (fails : Bool)
  | inherit (names : RuleSets)
  | bind (resolver : Resolver)
  /-- Starts again with an empty validator. -/
  | replace (steps : List ValueStep)
  | info

/-- The rule of the elements of a collection as it is declared. -/
inductive ElementForm where
  | value (steps : List ValueStep)
  | object (target : Ty) (steps : List ObjectStep)

/-- A step in the declaration of the rules of elements. -/
inductive ElementStep where
  | attach (form : ElementForm)
  | filter (test : Test)
  | inherit (names : RuleSets)
  | bind (resolver : Resolver)
  | info

/-- A step in the declaration of a property. -/
inductive PropertyStep where
  | value (step : ValueStep)
  | member (name : String)
  | display (name : String)
  | skipAnnotations
  /-- Nests the rules of the object of the type that is reached from the value. -/
  | nested (reach : Reach) (target : Ty) (steps : List ObjectStep)
  /-- Attaches the rule of the elements. A deferred one is built only if there is a place for it. -/
  | element (form : ElementForm) (deferred : Bool)
  | filter (test : Test)
  /-- Runs steps on the property of a collection property. -/
  | property (steps : List PropertyStep)
  | tellMember
  | info

/-- A bridge as it is declared. -/
inductive BridgeForm where
  | given (bridge : AnnotationBridge)
  /-- A proxy for the rules of the objects of a type, declared at a place. -/
  | proxy (place : Place) (target : Ty) (steps : List ObjectStep)
      (ruleSets : Option RuleSets)

/-- A step in the declaration of the rules of an object. -/
inductive ObjectStep where
  | property (name : String) (accessor : Value → Logged Value) (steps : List PropertyStep)
  | collection (name : String) (accessor : Value → Logged Value) (steps : List PropertyStep)
  /-- Includes the properties of another validator of the same type. -/
  | includeFrom (steps : List ObjectStep)
  /-- Runs steps in a scope; `fails` ends the scope with an error. -/
  | scope (names : RuleSets) (steps : List ObjectStep) (fails : Bool)
  | child (steps : List ObjectStep)
  | guard (test : Test)
  | mode (mode : Mode)
  | suppressAnnotations
  | validateAll (all : Bool)
  | bridge (form : BridgeForm)
  | messages (source : MessageSource)
  /-- Applies the options that a text gives; `fresh` starts again with an empty validator. -/
  | options (text : String) (fresh : Bool)
  | inherit (names : RuleSets)
  | bind (resolver : Resolver)
  | info

end

end RuleTree
