import RuleTree.Pattern.Basic
import RuleTree.Pattern.Plan
import RuleTree.Pattern.LiteralTrie

/-!
The automata of patterns. A pattern stands for an automaton over bytes, in which each counted copy
has states of its own, and there is one that reads forward and one that reads backward. Only the
plan of an automaton is computed from the pattern, not the automaton itself, which may be far too
large to build.
-/

set_option autoImplicit false

namespace RuleTree

/-- Which way an automaton reads. -/
inductive Direction where
  | forward
  | backward
  deriving DecidableEq, Repr

namespace LiteralTrie

/-- The state that reads one byte of a chunk, if there is a byte to read. -/
def chunkPlan : Nat → Plan
  | 0 => .empty
  | 1 => .silent
  | branches => .reading branches

mutual

/-- The states of a trie but the last one, in which all literals end. -/
def innerPlan : LiteralTrie → Plan
  | .node closed opened =>
    if (node closed opened).isLeaf then .empty
    else
      let filled := (closed ++ [opened]).countP fun chunk => !chunk.isEmpty
      .both (.both (planOfChunks closed) (.both (planOfBranches opened)
        (chunkPlan opened.length))) (.union (filled + closed.length))

def planOfChunks : List (List (Nat × LiteralTrie)) → Plan
  | [] => .empty
  | chunk :: rest =>
    .both (.both (planOfBranches chunk) (chunkPlan chunk.length)) (planOfChunks rest)

def planOfBranches : List (Nat × LiteralTrie) → Plan
  | [] => .empty
  | (_, child) :: rest => .both child.innerPlan (planOfBranches rest)

end

def plan (trie : LiteralTrie) : Plan := .both .silent trie.innerPlan

end LiteralTrie

namespace Pattern

/-- The plan of a set. ASCII characters are single bytes. Reading forward, what ends alike is
shared; reading backward, what begins alike is. -/
def planOfSet (direction : Direction) (set : Text.CodeRanges) : Plan :=
  if set.isAscii then .both .silent (.reading set.bounds.length)
  else
    match direction with
    | .forward => .endings (.ofRanges set)
    | .backward => .beginnings (Text.ByteSequence.ofRanges set)

def bytesOf (direction : Direction) (chars : List Char) : List Nat :=
  let bytes := (String.ofList chars).toUTF8.toList.map UInt8.toNat
  match direction with
  | .forward => bytes
  | .backward => bytes.reverse

def literal? : Pattern → Option (List Char)
  | .literal chars => some chars
  | _ => none

mutual

/-- A set without members is part of the pattern, so that one of its ways leads nowhere. -/
def isBlocked : Pattern → Bool
  | .one set => set.bounds.isEmpty
  | .capture body => body.isBlocked
  | .sequence parts => anyBlocked parts
  | .alternatives branches => anyBlocked branches
  | .copies body _ _ _ => body.isBlocked
  | _ => false

/-- A set without members is part of one of the patterns. -/
def anyBlocked : List Pattern → Bool
  | [] => false
  | pattern :: rest => pattern.isBlocked || anyBlocked rest

end

/-- The plan of any number of copies. A body that may read nothing must not be left and entered
again by the same state. -/
def planOfLoop (body : Plan) (mayReadNothing : Bool) : Plan :=
  if mayReadNothing then .all [body, .union 2, .union 2, .silent] else .both (.union 2) body

def planOfCopies (body : Plan) (mayReadNothing : Bool) : Nat → Option Nat → Plan
  | 0, none => planOfLoop body mayReadNothing
  | least, none => .both (.times least body) (.union 2)
  | 0, some 0 => .silent
  | 0, some 1 => .all [.union 2, body, .silent]
  | least, some most =>
    let needed := if least = 0 then .silent else .times least body
    if least = most then needed
    else .all [needed, .silent, .times (most - least) (.both (.union 2) body)]

/-- The plan of a choice among branches, of which there are two at least. -/
def planOfChoice : List Plan → Plan
  | first :: second :: rest =>
    .all [first, second, .union (rest.length + 2), .silent, .all rest]
  | branches => .all branches

def planOfSequence (direction : Direction) (parts : List Plan) : Plan :=
  match direction with
  | .forward => .all parts
  | .backward => .all parts.reverse

mutual

def plan (direction : Direction) : Pattern → Plan
  | .empty => .silent
  | .literal chars => .states (bytesOf direction chars).length 0
  | .one set => planOfSet direction set
  | .start => .silent
  | .finish => .silent
  | .capture body =>
    match direction with
    | .forward => .all [.silent, body.plan direction, .silent]
    | .backward => body.plan direction
  | .sequence parts => planOfSequence direction (plans direction parts)
  | .alternatives branches =>
    match branches.mapM literal? with
    | some literals => (LiteralTrie.ofLiterals (literals.map (bytesOf direction))).plan
    | none => planOfChoice (plans direction branches)
  | .copies body least most _ =>
    planOfCopies (body.plan direction) (body.isNullable || body.isBlocked) least most

def plans (direction : Direction) : List Pattern → List Plan
  | [] => []
  | pattern :: rest => pattern.plan direction :: plans direction rest

end

mutual

/-- Every match begins at the start of the text or, backward, ends at its end, and one can tell so
from the marks that the pattern begins or ends with. -/
def isAnchored (direction : Direction) : Pattern → Bool
  | .start => direction = .forward
  | .finish => direction = .backward
  | .capture body => body.isAnchored direction
  | .sequence parts =>
    match direction with
    | .forward => beginsAnchored direction parts
    | .backward => endsAnchored direction parts
  | .alternatives branches => allAnchored direction branches
  | .copies body least _ _ => 0 < least && body.isAnchored direction
  | _ => false

/-- The first pattern that is anchored has none before it that reads a character. -/
def beginsAnchored (direction : Direction) : List Pattern → Bool
  | [] => false
  | pattern :: rest =>
    pattern.isAnchored direction || (pattern.isEmptyOnly && beginsAnchored direction rest)

/-- The last pattern that is anchored has none after it that reads a character. -/
def endsAnchored (direction : Direction) : List Pattern → Bool
  | [] => false
  | pattern :: rest =>
    endsAnchored direction rest || (allEmptyOnly rest && pattern.isAnchored direction)

def allAnchored (direction : Direction) : List Pattern → Bool
  | [] => true
  | pattern :: rest => pattern.isAnchored direction && allAnchored direction rest

end

/-- The states that pass over what comes before a match. -/
def planOfLead (isAnchored : Bool) : Plan :=
  if isAnchored then .silent else .all [.union 2, .silent, .reading 1]

/-- The plan of the automaton of a pattern: the states that come before it, its own, those that
capture the whole match if it reads forward, and the one in which it has matched. -/
def automaton (direction : Direction) (pattern : Pattern) : Plan :=
  let lead := planOfLead (pattern.isAnchored direction)
  match direction with
  | .forward => .all [lead, .silent, pattern.plan direction, .silent, .silent]
  | .backward => .all [lead, pattern.plan direction, .silent]

end Pattern

end RuleTree
