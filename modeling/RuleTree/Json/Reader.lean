import RuleTree.Json.Token

/-!
Reading JSON texts. The reader takes the tokens one at a time and keeps a stack of the arrays and
objects that are still open.

`read?` gives the members of an object as they stand in the text, doubled keys included. Members
of the outermost object may be skipped; what is skipped has to be well formed, but its strings need
not stand for texts. `parse?` gives the document: members sorted, the last of two members with one
key, at most 127 levels of nesting, and no number too great for its format.
-/

set_option autoImplicit false

namespace RuleTree.Json

/-- An array or object that is still open. What it holds so far is in reverse. -/
inductive Frame where
  /-- An array; `ready` when the next token may start an item. -/
  | array (items : List Json) (ready : Bool)
  /-- An object that waits for a key, or for its end or a comma. -/
  | object (members : List (String × Json)) (ready : Bool)
  /-- An object that has read a key. -/
  | key (members : List (String × Json)) (key : String)
  /-- An object that has read a key and a colon. -/
  | value (members : List (String × Json)) (key : String)

/-- The open containers, innermost first, and the document once it is complete. -/
structure Reader where
  frames : List Frame
  done : Option Json

namespace Reader

/-- Puts a complete value where the reader waits for one. -/
def put (frames : List Frame) (value : Json) : Option Reader :=
  match frames with
  | [] => some ⟨[], some value⟩
  | .array items true :: rest => some ⟨.array (value :: items) false :: rest, none⟩
  | .value members key :: rest => some ⟨.object ((key, value) :: members) false :: rest, none⟩
  | .object members true :: rest =>
    match value with
    | .string key => some ⟨.key members key :: rest, none⟩
    | _ => none
  | _ => none

/-- An item or a member value may start here. -/
def awaitsValue : List Frame → Bool
  | [] => true
  | .array _ ready :: _ => ready
  | .value _ _ :: _ => true
  | _ => false

/-- The reader stands within a member of the outermost object that is skipped. -/
def isSkipping (skips : String → Bool) (frames : List Frame) : Bool :=
  match frames.getLast? with
  | some (.value _ key) => skips key
  | _ => false

def step (skips : String → Bool) (reader : Reader) (token : Token) : Option Reader :=
  if reader.done.isSome then none
  else
    match token, reader.frames with
    | .scalar value, frames => put frames value
    | .halfText, frames => if isSkipping skips frames then put frames (.string "") else none
    | .openArray, frames =>
      if awaitsValue frames then some ⟨.array [] true :: frames, none⟩ else none
    | .openObject, frames =>
      if awaitsValue frames then some ⟨.object [] true :: frames, none⟩ else none
    | .closeArray, .array items ready :: rest =>
      if ready && !items.isEmpty then none else put rest (.array items.reverse)
    | .closeObject, .object members ready :: rest =>
      if ready && !members.isEmpty then none else put rest (.object members.reverse)
    | .comma, .array items false :: rest => some ⟨.array items true :: rest, none⟩
    | .comma, .object members false :: rest => some ⟨.object members true :: rest, none⟩
    | .colon, .key members key :: rest => some ⟨.value members key :: rest, none⟩
    | _, _ => none

end Reader

/-- Reads a text, keeping the members of objects as they stand. `skips` tells the keys of the
members of the outermost object that are not looked at. -/
def read? (skips : String → Bool) (text : String) : Option Json :=
  (tokens? text).bind fun tokens =>
    (tokens.foldlM (Reader.step skips) ⟨[], none⟩).bind Reader.done

mutual

/-- Sorts the members of every object, the last one of a key winning. -/
def canonical : Json → Json
  | .array items => .array (canonicalItems items)
  | .object members => ofMembers (canonicalMembers members)
  | document => document

def canonicalItems : List Json → List Json
  | [] => []
  | item :: rest => canonical item :: canonicalItems rest

def canonicalMembers : List (String × Json) → List (String × Json)
  | [] => []
  | (key, value) :: rest => (key, canonical value) :: canonicalMembers rest

end

mutual

/-- The document is nested at most `depth` levels deep and all its numbers are finite. -/
def isBounded : Json → Nat → Bool
  | .float value, _ => value.isFinite
  | .array items, depth => depth ≠ 0 && areBounded items (depth - 1)
  | .object members, depth => depth ≠ 0 && membersBounded members (depth - 1)
  | _, _ => true

def areBounded : List Json → Nat → Bool
  | [], _ => true
  | item :: rest, depth => isBounded item depth && areBounded rest depth

def membersBounded : List (String × Json) → Nat → Bool
  | [], _ => true
  | (_, value) :: rest, depth => isBounded value depth && membersBounded rest depth

end

def greatestDepth : Nat := 127

/-- Reads the document that a text spells. -/
def parse? (text : String) : Option Json :=
  (read? (fun _ => false) text).bind fun document =>
    if document.isBounded greatestDepth then some document.canonical else none

end RuleTree.Json
