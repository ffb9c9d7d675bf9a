/-!
Tries of literals. A choice among literals is tried in order, so a trie keeps what comes before the
end of a literal apart from what comes after it: the branches of a node are in chunks, and each
literal that ends at the node closes a chunk.
-/

set_option autoImplicit false

namespace RuleTree

/-- A trie of byte strings: the closed chunks of branches and the open one. -/
inductive LiteralTrie where
  | node (closed : List (List (Nat × LiteralTrie))) (opened : List (Nat × LiteralTrie))

namespace LiteralTrie

/-- The trie of nothing. -/
def empty : LiteralTrie := .node [] []

def isLeaf : LiteralTrie → Bool
  | .node closed opened => closed.all List.isEmpty && opened.isEmpty

/-- Changes the branch of a byte, which is added if there is none. -/
def modifyBranch (byte : Nat) (change : LiteralTrie → LiteralTrie) :
    List (Nat × LiteralTrie) → List (Nat × LiteralTrie)
  | [] => [(byte, change empty)]
  | (other, child) :: rest =>
    if byte = other then (other, change child) :: rest
    else (other, child) :: modifyBranch byte change rest

/-- Ends a literal at a node. A second end without a branch between them changes nothing. -/
def close : LiteralTrie → LiteralTrie
  | .node closed opened =>
    if !closed.isEmpty && (node closed opened).isLeaf then .node closed opened
    else .node (closed ++ [opened]) []

def add : List Nat → LiteralTrie → LiteralTrie
  | [], trie => trie.close
  | byte :: rest, .node closed opened => .node closed (modifyBranch byte (add rest) opened)

/-- The trie of literals in order. -/
def ofLiterals (literals : List (List Nat)) : LiteralTrie :=
  literals.foldl (fun trie literal => add literal trie) empty

end LiteralTrie

end RuleTree
