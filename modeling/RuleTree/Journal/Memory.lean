import RuleTree.Journal

/-!
What a journal says, given what proxies remember. A proxy that is asked for a report again does not
make it again: the event that it knew the report takes the place of all that was noted on the way
to it. Nothing is remembered of a made value once it is gone.
-/

set_option autoImplicit false

namespace RuleTree

abbrev Memory := List Consultation

namespace Memory

def empty : Memory := []

/-- What is remembered of made values. -/
def ofMade (memory : Memory) : Memory := memory.filter fun asked => asked.target.isMade

/-- What is remembered of all other values. -/
def lasting (memory : Memory) : Memory := memory.filter fun asked => !asked.target.isMade

end Memory

namespace Note

mutual

/-- What a note says, and what is remembered after it. -/
def tell : Note → Memory → List Line × Memory
  | .line shown, memory => ([shown], memory)
  | .consultation asked type notes, memory =>
    if memory.contains asked then ([.event (.cacheHit type)], memory)
    else
      let (lines, memory) := tellAll notes memory
      (lines, asked :: memory)
  | .transient notes, memory =>
    let (lines, after) := tellAll notes memory.lasting
    (lines, memory.ofMade ++ after.lasting)

/-- What notes say, and what is remembered after them. -/
def tellAll : List Note → Memory → List Line × Memory
  | [], memory => ([], memory)
  | note :: rest, memory =>
    let (lines, memory) := note.tell memory
    let (others, memory) := tellAll rest memory
    (lines ++ others, memory)

end

end Note

end RuleTree
