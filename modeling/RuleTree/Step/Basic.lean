import RuleTree.Journal
import RuleTree.Failure.Path

/-!
Steps of an evaluation. A step adds failures to a sink and says whether the evaluation goes on. A
sink either collects all failures or wants the first one only; the latter halts the evaluation
when it has it.

Steps are put together by the operations of this module: one after another, after a logged
computation, and with an edit of the failures that a step adds.
-/

set_option autoImplicit false

namespace RuleTree

/-- Where failures are put. -/
structure Sink where
  failures : List Failure
  firstOnly : Bool
  deriving DecidableEq, Repr

/-- Whether an evaluation goes on. -/
inductive Flow where
  | proceed
  | halt
  deriving DecidableEq, Repr

namespace Sink

/-- An empty sink that collects all failures. -/
def collectAll : Sink := ⟨[], false⟩

/-- An empty sink that wants the first failure only. -/
def first : Sink := ⟨[], true⟩

def size (sink : Sink) : Nat := sink.failures.length

/-- There is no failure. -/
def isEmpty (sink : Sink) : Bool := sink.failures.isEmpty

def add (sink : Sink) (failure : Failure) : Sink :=
  { sink with failures := sink.failures ++ [failure] }

def flowAfter (sink : Sink) : Flow := if sink.firstOnly then .halt else .proceed

/-- Keeps the first failures. -/
def truncate (sink : Sink) (size : Nat) : Sink :=
  { sink with failures := sink.failures.take size }

/-- The report of the failures; none if there is no failure. -/
def report? (sink : Sink) : Option Report :=
  if sink.isEmpty then none else some sink.failures

/-- The first failure. -/
def first? (sink : Sink) : Option Failure := sink.failures.head?

end Sink

/-- What a step leaves: the flow, the sink, and the notes it wrote. -/
structure Outcome where
  flow : Flow
  sink : Sink
  notes : List Note

/-- A step of an evaluation. -/
abbrev Step := Sink → Outcome

namespace Outcome

def after (outcome : Outcome) (notes : List Note) : Outcome :=
  { outcome with notes := notes ++ outcome.notes }

end Outcome

namespace Step

/-- Adds nothing. -/
def pass : Step := fun sink => ⟨.proceed, sink, []⟩

def report (failure : Failure) : Step := fun sink => ⟨sink.flowAfter, sink.add failure, []⟩

def noted (notes : List Note) (step : Step) : Step := fun sink => (step sink).after notes

/-- Writes an event and adds nothing. -/
def event (event : Event) : Step := noted [.event event] pass

/-- Runs a logged computation and a step that depends on its result. -/
def ask {α : Type} (question : Logged α) (next : α → Step) : Step :=
  noted question.notes (next question.value)

/-- Runs two steps; the second only if the first does not halt. -/
def andThen (first second : Step) : Step := fun sink =>
  let outcome := first sink
  match outcome.flow with
  | .halt => outcome
  | .proceed => (second outcome.sink).after outcome.notes

/-- Adds failures one after another, until the sink has enough. -/
def reportAll : List Failure → Step
  | [] => pass
  | failure :: rest => (report failure).andThen (reportAll rest)

def editAll (edit : Failure → Logged Failure) : List Failure → Logged (List Failure)
  | [] => pure []
  | failure :: rest =>
    (edit failure).bind fun edited => (editAll edit rest).bind fun others => pure (edited :: others)

/-- Edits the failures that a step adds, and no others. -/
def editing (edit : Failure → Logged Failure) (step : Step) : Step := fun sink =>
  let outcome := step sink
  let edited := editAll edit (outcome.sink.failures.drop sink.size)
  { outcome with
    sink := { outcome.sink with
      failures := outcome.sink.failures.take sink.size ++ edited.value }
    notes := outcome.notes ++ edited.notes }

def below (path : String) (step : Step) : Step :=
  editing (fun failure => pure (failure.below path)) step

/-- Writes an event with the number of failures that a step has added. -/
def counted (event : Nat → Event) (step : Step) : Step := fun sink =>
  let outcome := step sink
  { outcome with
    notes := outcome.notes ++ [.event (event (outcome.sink.size - sink.size))] }

/-- Runs a step on a made value, which is gone afterwards. -/
def transient (step : Step) : Step := fun sink =>
  let outcome := step sink
  { outcome with notes := [.transient outcome.notes] }

end Step

end RuleTree
