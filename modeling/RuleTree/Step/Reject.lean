import RuleTree.Step.Basic
import RuleTree.Context.Basic
import RuleTree.Leaf.Basic

/-!
How rules reject a value: a failure gets the value that was tried and a message in the words of
the context, and the message of an override takes the place of the rule's own.
-/

set_option autoImplicit false

namespace RuleTree

namespace Step

/-- Reports a failure of a rule: with the tried value, unless the failure has one, and with its
message rendered. -/
def reject (failure : Failure) (tried : Option String) (context : Context) : Step :=
  let failure := { failure with attempted := failure.attempted.or tried }
  report (failure.localize context.messageName context.messages)

/-- Rejects unless a test holds. -/
def require (holds : Bool) (failure : Failure) (context : Context) : Step :=
  if holds then pass else reject failure none context

def predicateFailure : Failure :=
  .new "predicate" "The specified condition was not met for '{name}'."

/-- Examines a view of a value. An absent value is not examined. -/
def examine (type : LeafType) (check : type.Carrier → Logged (Option Failure)) (value : Value)
    (context : Context) : Step :=
  match value.view type with
  | .error failure => reject failure none context
  | .ok none => pass
  | .ok (some input) =>
    ask (check input) fun
      | some failure => reject failure (some (type.describe input)) context
      | none => pass

end Step

namespace MessageOverride

/-- Replaces the message of a failure. A key without a template leaves it and writes an event. -/
def apply (override : MessageOverride) (context : Context) (failure : Failure) :
    Logged Failure :=
  match override with
  | .literal template => pure (failure.renderWith template context.messageName)
  | .resource key =>
    match context.messages.bind fun source => source.lookup key with
    | some template => pure (failure.renderWith template context.messageName)
    | none => (Logged.event (.resourceMissing key)).bind fun _ => pure failure

end MessageOverride

namespace Step

/-- Replaces the messages of the failures that a step adds, if there is an override. -/
def overriding (override : Option MessageOverride) (context : Context) (step : Step) : Step :=
  match override with
  | some override => editing (override.apply context) step
  | none => step

end Step

end RuleTree
