import RuleTree.Json.Basic

/-!
Modes: how a container runs its steps. `all` runs every step, `failFast` stops after the first
step that fails and keeps its first failure, and `any` accepts as soon as one step accepts.
-/

set_option autoImplicit false

namespace RuleTree

/-- The mode of a container. -/
inductive Mode where
  | failFast
  | all
  | any
  deriving DecidableEq, Repr

namespace Mode

instance : Inhabited Mode := ⟨.all⟩

def name : Mode → String
  | .failFast => "fail_fast"
  | .all => "all"
  | .any => "any"

def describe : Mode → String
  | .failFast => "FailFast"
  | .all => "All"
  | .any => "Any"

def ofName? (name : String) : Option Mode :=
  [Mode.failFast, .all, .any].find? fun mode => mode.name == name

/-- The mode that a document gives: its name, or an object that maps the name to `null`. -/
def ofJson? : Json → Option Mode
  | .string name => ofName? name
  | .object [(name, .null)] => ofName? name
  | _ => none

end Mode

end RuleTree
