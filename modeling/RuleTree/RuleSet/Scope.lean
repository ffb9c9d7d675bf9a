import RuleTree.RuleSet.Basic

/-!
Scopes of rule-set declarations. A stack holds the rule sets of the scopes that are open; what is
declared is tagged with those of the innermost one. A scope is left on every way out of its body:
at its end, by an error, and when the body is abandoned.
-/

set_option autoImplicit false

namespace RuleTree

/-- The rule sets of the open scopes, innermost first. -/
structure ScopeStack where
  scopes : List RuleSets
  deriving DecidableEq, Repr

namespace ScopeStack

def empty : ScopeStack := ⟨[]⟩

/-- The rule sets of the innermost scope. -/
def current (stack : ScopeStack) : Option RuleSets := stack.scopes.head?

def depth (stack : ScopeStack) : Nat := stack.scopes.length

def enter (stack : ScopeStack) (sets : RuleSets) : ScopeStack := ⟨sets :: stack.scopes⟩

/-- Leaves the innermost scopes until the given number is open. -/
def leaveTo (stack : ScopeStack) (depth : Nat) : ScopeStack :=
  ⟨stack.scopes.drop (stack.depth - depth)⟩

end ScopeStack

/-! ### Programs of declarations -/

/-- A step of a program that declares rules in scopes. -/
inductive ScopeStep where
  /-- Declares a rule. -/
  | declare
  /-- Runs a body in a scope, whose names are checked. An error of the body ends the step; it ends
  the program only if `passOn` is set. -/
  | scoped (names : RuleSets) (body : List ScopeStep) (passOn : Bool)
  /-- Runs a body in a scope without a check. -/
  | enter (names : RuleSets) (body : List ScopeStep)
  /-- Ends the enclosing body with an error. -/
  | fail
  /-- Abandons all enclosing bodies up to one that is guarded. -/
  | abandon
  /-- Runs a body and goes on, however it ends. -/
  | guarded (body : List ScopeStep)
  /-- Does nothing; no step has this name. -/
  | unknown (name : String)

/-- How a body ended. -/
inductive Ending where
  | finished
  | failed (error : Error)
  | abandoned
  deriving DecidableEq, Repr

/-- What a program shows of its run. -/
inductive ScopeNote where
  /-- A declaration with the rule sets that tag it and the number of open scopes. -/
  | declared (tag : Option RuleSets) (depth : Nat)
  /-- A scope was entered after so many notes. -/
  | entered (notes : Nat)
  /-- A checked scope ended, with its error if it failed. -/
  | ended (error : Option Error)
  /-- A guarded body ended, and whether it was abandoned. -/
  | guarded (abandoned : Bool)
  /-- There was a step of a name that no step has. -/
  | unknown (name : String)
  deriving DecidableEq, Repr

/-- The state of a run: the stack, the notes so far, and how the last body ended. -/
structure ScopeRun where
  stack : ScopeStack
  notes : List ScopeNote
  ending : Ending
  deriving DecidableEq, Repr

namespace ScopeRun

def start : ScopeRun := ⟨.empty, [], .finished⟩

def note (run : ScopeRun) (note : ScopeNote) : ScopeRun := { run with notes := run.notes ++ [note] }

/-- Leaves scopes, whatever the ending. -/
def leaveTo (run : ScopeRun) (depth : Nat) : ScopeRun :=
  { run with stack := run.stack.leaveTo depth }

/-- The run of a checked scope after its body. -/
def afterScoped (run : ScopeRun) (passOn : Bool) : ScopeRun :=
  match run.ending with
  | .finished => run.note (.ended none)
  | .failed error =>
    let run := run.note (.ended (some error))
    if passOn then run else { run with ending := .finished }
  | .abandoned => run

/-- The run of a guarded body after it. -/
def afterGuarded (run : ScopeRun) : ScopeRun :=
  { run.note (.guarded (run.ending = .abandoned)) with ending := .finished }

end ScopeRun

mutual

def ScopeStep.run : ScopeStep → ScopeRun → ScopeRun
  | .declare, state => state.note (.declared state.stack.current state.stack.depth)
  | .scoped names body passOn, state =>
    match names.required with
    | .error error => ({ state with ending := .failed error }).afterScoped passOn
    | .ok sets =>
      let entered := { state with stack := state.stack.enter sets }
      ((ScopeStep.runAll body entered).leaveTo state.stack.depth).afterScoped passOn
  | .enter names body, state =>
    let entered := { state with stack := state.stack.enter names }
    (ScopeStep.runAll body (entered.note (.entered state.notes.length))).leaveTo state.stack.depth
  | .fail, state => { state with ending := .failed (.emptyArgument "probe") }
  | .abandon, state => { state with ending := .abandoned }
  | .guarded body, state => (ScopeStep.runAll body state).afterGuarded
  | .unknown name, state => state.note (.unknown name)

/-- Runs steps until one does not finish. -/
def ScopeStep.runAll : List ScopeStep → ScopeRun → ScopeRun
  | [], state => state
  | step :: rest, state =>
    let state := step.run state
    match state.ending with
    | .finished => ScopeStep.runAll rest state
    | _ => state

end

end RuleTree
