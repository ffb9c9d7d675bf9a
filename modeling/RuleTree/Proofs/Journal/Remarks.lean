import RuleTree.Journal.Memory

/-!
The remarks in a journal. They are what the functions that a user supplies leave behind, so a
function that remarks each of its calls is seen there at each of them. What the library reports
about its own course is left out.
-/

set_option autoImplicit false

namespace RuleTree

namespace Line

theorem remarks_append (first second : List Line) :
    remarks (first ++ second) = remarks first ++ remarks second :=
  List.filterMap_append

end Line

namespace Note

theorem tellAll_append (first second : List Note) (memory : Memory) :
    tellAll (first ++ second) memory =
      ((tellAll first memory).1 ++ (tellAll second (tellAll first memory).2).1,
        (tellAll second (tellAll first memory).2).2) := by
  induction first generalizing memory with
  | nil => rfl
  | cons note rest ih => simp only [List.cons_append, tellAll, ih, List.append_assoc]

/-- The remarks in notes, given what is remembered before them. -/
def remarks (notes : List Note) (memory : Memory) : List Json :=
  Line.remarks (tellAll notes memory).1

theorem remarks_append (first second : List Note) (memory : Memory) :
    remarks (first ++ second) memory =
      remarks first memory ++ remarks second (tellAll first memory).2 := by
  rw [remarks, tellAll_append]
  exact Line.remarks_append _ _

theorem remarks_transient (notes : List Note) (memory : Memory) :
    remarks [.transient notes] memory = remarks notes memory.lasting := by
  simp only [remarks, tellAll, tell, List.append_nil]

/-- There are no remarks in the notes. -/
def Quiet (notes : List Note) : Prop := ∀ memory, remarks notes memory = []

theorem quiet_nil : Quiet [] := fun _ => rfl

theorem quiet_event (shown : Event) : Quiet [.event shown] := fun _ => rfl

theorem Quiet.append {first second : List Note} (quiet : Quiet first) (calm : Quiet second) :
    Quiet (first ++ second) := by
  intro memory
  rw [remarks_append, quiet, calm, List.append_nil]

/-- The remarks in the first notes are those that the second notes begin with. -/
def Begins (short full : List Note) : Prop :=
  ∀ memory, remarks short memory <+: remarks full memory

namespace Begins

variable {short full : List Note}

theorem refl (notes : List Note) : Begins notes notes := fun _ => List.prefix_rfl

theorem behind (begins : Begins short full) (notes : List Note) :
    Begins (notes ++ short) (notes ++ full) := by
  intro memory
  rw [remarks_append, remarks_append, List.prefix_append_right_inj]
  exact begins _

theorem before (begins : Begins short full) (rest : List Note) : Begins short (full ++ rest) := by
  intro memory
  rw [remarks_append]
  exact (begins memory).trans (List.prefix_append _ _)

theorem quietly {ending : List Note} (begins : Begins short full) (quiet : Quiet ending) :
    Begins (short ++ ending) full := by
  intro memory
  rw [remarks_append, quiet, List.append_nil]
  exact begins memory

theorem transient (begins : Begins short full) :
    Begins [.transient short] [.transient full] := by
  intro memory
  rw [remarks_transient, remarks_transient]
  exact begins memory.lasting

end Begins

end Note

end RuleTree
