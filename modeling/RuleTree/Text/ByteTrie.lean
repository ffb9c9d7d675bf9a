import RuleTree.Text.ByteRanges

/-!
Tries of byte sequences: sequences that begin alike share what they begin with. A trie is read from
the leading byte on, and a sequence ends where no branch goes on.
-/

set_option autoImplicit false

namespace RuleTree.Text

/-- A trie of byte sequences: the ranges that the next byte can be in, each with what follows. -/
inductive ByteTrie where
  | node (branches : List ((Nat × Nat) × ByteTrie))

namespace ByteTrie

/-- Puts a sequence in front of sequences that are grouped by the range that they begin with. -/
def consGroup (sequence : ByteSequence) (groups : List ((Nat × Nat) × List ByteSequence)) :
    List ((Nat × Nat) × List ByteSequence) :=
  match sequence, groups with
  | [], groups => groups
  | range :: tail, [] => [(range, [tail])]
  | range :: tail, (other, tails) :: groups =>
    if range = other then (other, tail :: tails) :: groups
    else (range, [tail]) :: (other, tails) :: groups

/-- The trie of sequences in order that are at most `length` bytes long. -/
def ofSequences : Nat → List ByteSequence → ByteTrie
  | 0, _ => .node []
  | length + 1, sequences =>
    .node ((sequences.foldr consGroup []).map fun group => (group.1, ofSequences length group.2))

def characterLength : Nat := 4

def ofRanges (ranges : CodeRanges) : ByteTrie :=
  ofSequences characterLength (ByteSequence.ofRanges ranges)

end ByteTrie

end RuleTree.Text
