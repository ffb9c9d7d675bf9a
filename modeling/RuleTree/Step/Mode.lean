import RuleTree.Step.Basic
import RuleTree.Mode

/-!
Running steps in a mode. The steps of a container are attempts: one that is not selected leaves an
event, and no more than that, at the point where its turn would have come.
-/

set_option autoImplicit false

namespace RuleTree

/-- A step of a container, or the event that tells why it is left out. -/
inductive Attempt where
  | skipped (event : Event)
  | made (step : Step)

def Attempt.select (selected : Bool) (event : Event) (step : Step) : Attempt :=
  if selected then .made step else .skipped event

namespace Mode

def runAll : List Attempt → Step
  | [] => .pass
  | .skipped event :: rest => Step.noted [.event event] (runAll rest)
  | .made step :: rest => step.andThen (runAll rest)

/-- Runs attempts up to the first that adds a failure, and keeps only its first one. -/
def runFailFast : List Attempt → Step
  | [] => .pass
  | .skipped event :: rest => Step.noted [.event event] (runFailFast rest)
  | .made step :: rest => fun sink =>
    let outcome := step sink
    match outcome.flow with
    | .halt => outcome
    | .proceed =>
      if sink.size < outcome.sink.size then
        { outcome with sink := outcome.sink.truncate (sink.size + 1) }
      else (runFailFast rest outcome.sink).after outcome.notes

/-- Runs attempts, each with a sink of its own, up to the first that adds no failure, which
accepts. If none accepts, all their failures are added; `rejected` holds those so far. -/
def runAny : List Attempt → List Failure → Step
  | [], rejected => .reportAll rejected
  | .skipped event :: rest, rejected => Step.noted [.event event] (runAny rest rejected)
  | .made step :: rest, rejected => fun sink =>
    let outcome := step .collectAll
    if outcome.sink.isEmpty then ⟨.proceed, sink, outcome.notes⟩
    else (runAny rest (rejected ++ outcome.sink.failures) sink).after outcome.notes

def run (mode : Mode) (attempts : List Attempt) : Step :=
  match mode with
  | .all => runAll attempts
  | .failFast => runFailFast attempts
  | .any => runAny attempts []

end Mode

end RuleTree
