import RuleTree.Tree.Node

/-!
Verdicts: what a caller asks of a step. `failures?` reports all failures of a value, `accepts` says
whether there are any, and `demand` is an error with the first failure if there is one; the last
two stop at the first failure.
-/

set_option autoImplicit false

namespace RuleTree

namespace Step

def runWith (step : Step) (sink : Sink) : Logged Sink :=
  let outcome := step sink
  ⟨outcome.sink, outcome.notes⟩

/-- The report of all failures; none if there is no failure. -/
def failures? (step : Step) : Logged (Option Report) :=
  (step.runWith .collectAll).bind fun sink => pure sink.report?

/-- There is no failure. -/
def accepts (step : Step) : Logged Bool :=
  (step.runWith .first).bind fun sink => pure sink.isEmpty

/-- An error with the first failure, unless there is none. -/
def demand (step : Step) : Logged (Except Error Unit) :=
  (step.runWith .first).bind fun sink =>
    match sink.first? with
    | some failure => pure (.error (.rejected failure))
    | none => pure (.ok ())

end Step

namespace Node

def failures? (node : Node) (value : Value) (context : Context) : Logged (Option Report) :=
  (node.evaluate value context).failures?

def accepts (node : Node) (value : Value) (context : Context) : Logged Bool :=
  (node.evaluate value context).accepts

/-- An error with the first failure, unless the value is accepted. -/
def require (node : Node) (value : Value) (context : Context) : Logged (Except Error Unit) :=
  (node.evaluate value context).demand

end Node

namespace Rule

/-- The report of all failures; none if the value is accepted. -/
def failures? (rule : Rule) (value : Value) (context : Context) : Logged (Option Report) :=
  (Node.rule rule).failures? value context

def accepts (rule : Rule) (value : Value) (context : Context) : Logged Bool :=
  (Node.rule rule).accepts value context

/-- An error with the first failure, unless the value is accepted. -/
def require (rule : Rule) (value : Value) (context : Context) : Logged (Except Error Unit) :=
  (Node.rule rule).require value context

end Rule

end RuleTree
