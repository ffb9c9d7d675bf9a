import RuleTree.Text.Record

/-!
Services that rules can ask for while they run, and the resolvers that find them. A service is
found by its kind. A resolver has an identity: binding one a second time changes nothing.
-/

set_option autoImplicit false

namespace RuleTree

/-- The kinds of services. -/
inductive ServiceKind where
  | floor
  | block
  | text
  deriving DecidableEq, Repr

/-- A service. -/
inductive Service where
  /-- A least number. -/
  | floor (least : Int)
  /-- A list of blocked names. -/
  | block (names : List String)
  /-- A text. -/
  | text (text : String)
  deriving DecidableEq, Repr

namespace Service

def kind : Service → ServiceKind
  | .floor _ => .floor
  | .block _ => .block
  | .text _ => .text

end Service

/-- A collection of services, at most one of a kind. -/
structure Services where
  entries : List Service

namespace Services

def empty : Services := ⟨[]⟩

def insert (services : Services) (service : Service) : Services :=
  ⟨services.entries.filter (fun other => other.kind ≠ service.kind) ++ [service]⟩

def get? (services : Services) (kind : ServiceKind) : Option Service :=
  services.entries.find? fun service => service.kind = kind

def size (services : Services) : Nat := services.entries.length

def describe (services : Services) : String :=
  Text.record "Services" [("len", toString services.size)]

end Services

/-- Finds services. -/
structure Resolver where
  identity : Nat
  resolve : ServiceKind → Option Service

namespace Resolver

def floor? (resolver : Resolver) : Option Int :=
  match resolver.resolve .floor with
  | some (.floor least) => some least
  | _ => none

def block? (resolver : Resolver) : Option (List String) :=
  match resolver.resolve .block with
  | some (.block names) => some names
  | _ => none

def ofServices (identity : Nat) (services : Services) : Resolver := ⟨identity, services.get?⟩

/-- The resolver is the one that a slot holds already. -/
def isBoundIn (resolver : Resolver) (slot : Option Resolver) : Bool :=
  match slot with
  | some bound => bound.identity == resolver.identity
  | none => false

end Resolver

end RuleTree
