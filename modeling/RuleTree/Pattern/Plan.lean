import RuleTree.Pattern.StateTable
import RuleTree.Text.ByteTrie

/-!
Plans of automata. A plan says of what states an automaton consists, in the order in which they
are numbered. An automaton grows state by state and may not outgrow its limit, so the plan of one
that is far too large is left as soon as the limit is reached.

The states of a set of characters share what they have in common. Which states are shared depends
on the numbers of the states, for it is by these that they are remembered.
-/

set_option autoImplicit false

namespace RuleTree

/-- The memory that a state takes. -/
def stateSize : Nat := 32

/-- The memory that a state takes for each one that it goes over into without reading. -/
def branchSize : Nat := 4

/-- The memory that a state takes for each range of bytes that it goes on by. -/
def rangeSize : Nat := 8

/-- The greatest size of an automaton: ten mebibytes. -/
def sizeLimit : Nat := 10 * Nat.pow 2 20

/-! ### Growing automata -/

/-- An automaton under construction: the number of its states, which is the number of the next one,
and the memory that they take besides that of a state. -/
structure Growth where
  states : Nat
  extra : Nat
  deriving DecidableEq, Repr

namespace Growth

def empty : Growth := ⟨0, 0⟩

def size (growth : Growth) : Nat := stateSize * growth.states + growth.extra

/-- Adds states that take so much memory besides that of a state, if they keep to the limit. -/
def add? (growth : Growth) (states extra : Nat) : Option Growth :=
  let grown : Growth := ⟨growth.states + states, growth.extra + extra⟩
  if grown.size ≤ sizeLimit then some grown else none

/-- Takes a step so many times, if it can be taken. -/
def times? (step : Growth → Option Growth) : Nat → Growth → Option Growth
  | 0, growth => some growth
  | count + 1, growth =>
    match step growth with
    | some growth => times? step count growth
    | none => none

end Growth

/-! ### Shared states -/

/-- An automaton under construction with the states of a set that it remembers. -/
structure Sharing where
  growth : Growth
  table : StateTable

namespace Sharing

/-- The state that does what the key says: one that is remembered, or else a new one. -/
def state? (sharing : Sharing) (key : StateKey) (extra : Nat) : Option (Nat × Sharing) :=
  match sharing.table.find? key with
  | some state => some (state, sharing)
  | none =>
    let state := sharing.growth.states
    (sharing.growth.add? 1 extra).map fun growth =>
      (state, ⟨growth, sharing.table.insert key state⟩)

/-- The state that reads a byte of the range and then is in the given state. -/
def readsInto? (sharing : Sharing) (next : Nat) (range : Nat × Nat) : Option (Nat × Sharing) :=
  sharing.state? [next, range.1, range.2] 0

/-- The states that read the bytes of a sequence, the leading one last, and then are in the given
state. What begins alike is shared. -/
def sequence? (finish : Nat) (sharing : Sharing) (sequence : Text.ByteSequence) :
    Option Sharing :=
  (sequence.foldlM (fun (reached : Nat × Sharing) range => reached.2.readsInto? reached.1 range)
    (finish, sharing)).map Prod.snd

mutual

/-- The state that reads what a trie says and then is in the given state. What ends alike is
shared. -/
def trie? (finish : Nat) : Text.ByteTrie → Sharing → Option (Nat × Sharing)
  | .node branches, sharing =>
    if branches.isEmpty then some (finish, sharing)
    else (branches? finish branches sharing).bind fun (key, sharing) =>
      sharing.state? key (rangeSize * branches.length)

/-- What the branches of a trie do: the range of each and the state behind it. -/
def branches? (finish : Nat) :
    List ((Nat × Nat) × Text.ByteTrie) → Sharing → Option (StateKey × Sharing)
  | [], sharing => some ([], sharing)
  | (range, child) :: rest, sharing =>
    (trie? finish child sharing).bind fun (next, sharing) =>
      (branches? finish rest sharing).map fun (key, sharing) =>
        (range.1 :: range.2 :: next :: key, sharing)

end

/-- The number of states that are remembered where those that end alike are shared. -/
def endingsCapacity : Nat := 10000

/-- The number of states that are remembered where those that begin alike are shared. -/
def beginningsCapacity : Nat := 1000

end Sharing

namespace Growth

/-- Adds the states of a set that is read forward: the last one and those of the trie. -/
def addTrie? (growth : Growth) (trie : Text.ByteTrie) : Option Growth :=
  (growth.add? 1 0).bind fun grown =>
    (Sharing.trie? growth.states trie ⟨grown, .empty Sharing.endingsCapacity⟩).map
      (·.2.growth)

/-- Adds the states of a set that is read backward: the one that goes over into all sequences, the
last one and those of the sequences. -/
def addSequences? (growth : Growth) (sequences : List Text.ByteSequence) : Option Growth :=
  (growth.add? 2 (branchSize * sequences.length)).bind fun grown =>
    (sequences.foldlM (Sharing.sequence? (growth.states + 1))
      ⟨grown, .empty Sharing.beginningsCapacity⟩).map Sharing.growth

end Growth

/-! ### Plans -/

/-- The states of an automaton in order. -/
inductive Plan where
  /-- States that take so much memory besides that of a state. -/
  | states (count extra : Nat)
  /-- The states of a set of characters that is read forward. -/
  | endings (trie : Text.ByteTrie)
  /-- The states of a set of characters that is read backward. -/
  | beginnings (sequences : List Text.ByteSequence)
  /-- The states of one plan and then those of another one. -/
  | both (first second : Plan)
  /-- The states of a plan so many times. -/
  | times (count : Nat) (body : Plan)

namespace Plan

def empty : Plan := .states 0 0

/-- A state that reads nothing. -/
def silent : Plan := .states 1 0

/-- A state that goes over into one of several, without reading. -/
def union (branches : Nat) : Plan := .states 1 (branchSize * branches)

/-- A state that reads a byte and goes on by the range that it is in. -/
def reading (ranges : Nat) : Plan := .states 1 (rangeSize * ranges)

/-- The states of plans one after another. -/
def all (plans : List Plan) : Plan := plans.foldr .both empty

/-- Adds the states of a plan to an automaton, if they keep to the limit. -/
def grow? : Plan → Growth → Option Growth
  | .states count extra, growth => growth.add? count extra
  | .endings trie, growth => growth.addTrie? trie
  | .beginnings sequences, growth => growth.addSequences? sequences
  | .both first second, growth => (first.grow? growth).bind second.grow?
  | .times count body, growth => Growth.times? body.grow? count growth

def isWithinLimit (plan : Plan) : Bool := (plan.grow? .empty).isSome

end Plan

end RuleTree
