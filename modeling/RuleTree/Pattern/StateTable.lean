import Std.Data.HashMap

/-!
Tables in which an automaton under construction looks up the states that it has already. A table
has a bounded number of places, and a state that it remembers takes its place from the one that was
remembered there; a state that is forgotten is made again when it is needed again.
-/

set_option autoImplicit false

namespace RuleTree

/-- What a state does, as a list of numbers. -/
abbrev StateKey := List Nat

namespace StateKey

/-- Where the hash of a key starts. -/
def hashBasis : UInt64 := 14695981039346656037

/-- What each step of the hash multiplies by. -/
def hashPrime : UInt64 := 1099511628211

/-- The hash of a key. The numbers are mixed into it one after another, so their order counts. -/
def hash (key : StateKey) : UInt64 :=
  key.foldl (fun hash number => (hash ^^^ number.toUInt64) * hashPrime) hashBasis

end StateKey

/-- A table of states: in each place that is taken, what the state does and which one it is. -/
structure StateTable where
  capacity : Nat
  places : Std.HashMap Nat (StateKey × Nat)

namespace StateTable

/-- A table with so many places that remembers nothing. -/
def empty (capacity : Nat) : StateTable := ⟨capacity, ∅⟩

def place (table : StateTable) (key : StateKey) : Nat :=
  (StateKey.hash key).toNat % table.capacity

/-- The state that does this, if the table remembers it. -/
def find? (table : StateTable) (key : StateKey) : Option Nat :=
  (table.places[table.place key]?.filter fun entry => entry.1 == key).map Prod.snd

def insert (table : StateTable) (key : StateKey) (state : Nat) : StateTable :=
  { table with places := table.places.insert (table.place key) (key, state) }

end StateTable

end RuleTree
