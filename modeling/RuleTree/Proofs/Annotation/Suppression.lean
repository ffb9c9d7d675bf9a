import RuleTree.Proofs.Annotation.Silence
import RuleTree.Proofs.Tree.Likeness
import RuleTree.Proofs.Tree.Passage

/-!
Suppressed annotations. An object that suppresses annotations switches them off in the context in
which it validates, and no node below it can switch them on again. So neither the object nor what
lies below it asks a bridge, whichever bridges are set there.
-/

set_option autoImplicit false

namespace RuleTree

open Variation (baring)

theorem Context.activeBridge_of_off {context : Context} (off : context.annotationsEnabled = false) :
    context.activeBridge = none := by
  rw [activeBridge, off]
  rfl

theorem PropertyRules.annotationStep_of_inactive {context : Context}
    (inactive : context.activeBridge = none) (annotated : Bool) (member : String) (value : Value) :
    annotationStep annotated member value context = .pass := by
  rw [annotationStep, inactive, ite_self]

theorem ObjectRules.annotationAttempts_of_inactive {context : Context}
    (inactive : context.activeBridge = none) (validateAll : Bool) (skip : List String)
    (value : Value) : annotationAttempts validateAll skip value context = [] := by
  rw [annotationAttempts, inactive]

namespace Visit

theorem annotationsEnabled_inside (visit : Visit) : visit.inside.annotationsEnabled =
    if visit.suppresses then false else visit.context.annotationsEnabled := by
  rw [← visit.enter_context]
  exact congrArg Surroundings.annotationsEnabled (visit.surroundings_enter visit.context)

/-- What is switched off stays off. -/
theorem off_inside {visit : Visit} (off : visit.context.annotationsEnabled = false) :
    visit.inside.annotationsEnabled = false := by
  rw [annotationsEnabled_inside, off, ite_self]

theorem Reaches.off {visit other : Visit} (reaches : visit.Reaches other)
    (off : visit.inside.annotationsEnabled = false) : other.inside.annotationsEnabled = false := by
  refine reaches.preserves (fun visit => visit.inside.annotationsEnabled = false)
    (fun before quiet branch member => off_inside ?_) off
  rw [(of_mem_branches member).2]
  exact quiet

theorem inquiry?_of_off {visit : Visit} (off : visit.inside.annotationsEnabled = false) :
    visit.inquiry? = none := by
  obtain ⟨node, value, context⟩ := visit
  cases node with
  | rule | entry => rfl
  | property held =>
      have unasked : (held.scope context).activeBridge = none := Context.activeBridge_of_off off
      rw [inquiry?, PropertyRules.inquiry?, unasked, ite_self, Option.map_none]
  | object rules =>
      have unasked : (rules.contextFor value context).activeBridge = none :=
        Context.activeBridge_of_off off
      rw [inquiry?, ObjectRules.inquiry?, unasked, Option.map_none, ite_self]

end Visit

/-- Where annotations are off, it is not noticed that bridges are taken away. -/
def Variation.baringWhenOff : baring.Unnoticed where
  quiet context := context.annotationsEnabled = false
  inside _ := Visit.off_inside
  mode same := same.symm
  speaks bare := by
    rw [bare]
    exact ⟨rfl, Context.messages_withoutBridges _⟩
  property {first second} bare off annotated member value := by
    have inactive : second.activeBridge = none := by
      rw [bare, Context.activeBridge_withoutBridges]
    rw [PropertyRules.annotationStep_of_inactive inactive,
      PropertyRules.annotationStep_of_inactive (Context.activeBridge_of_off off)]
  object {first second} bare off validateAll skip value := by
    have inactive : second.activeBridge = none := by
      rw [bare, Context.activeBridge_withoutBridges]
    rw [ObjectRules.annotationAttempts_of_inactive inactive,
      ObjectRules.annotationAttempts_of_inactive (Context.activeBridge_of_off off)]

namespace Node

/-- An object that suppresses annotations asks no bridge, nor does anything below it. If no function
of the user looks for the bridge, the object takes the step that it takes without bridges. -/
theorem suppression_total (rules : ObjectRules) (suppressed : rules.suppressAnnotations = true)
    (value : Value) (context : Context) :
    (∀ visit, Visit.Reaches ⟨.object rules, value, context⟩ visit → visit.inquiry? = none) ∧
      ((object rules).Everywhere (BlindTo baring.context) →
        ∀ bare, (object rules).Varies baring bare →
          bare.evaluate value context.withoutBridges = (object rules).evaluate value context) := by
  have suppresses : Visit.suppresses ⟨.object rules, value, context⟩ = true := suppressed
  have off : (Visit.inside ⟨.object rules, value, context⟩).annotationsEnabled = false := by
    rw [Visit.annotationsEnabled_inside, suppresses, if_pos rfl]
  refine ⟨fun visit reaches => Visit.inquiry?_of_off (reaches.off off), fun blind bare varies => ?_⟩
  exact Variation.baringWhenOff.object_evaluate
    (fun held member => Variation.baringWhenOff.same (blind.property member))
    (fun attached member => Variation.baringWhenOff.same (blind.child member)) varies value rfl off

/-- A bridge that has something to report about everything. -/
def complaint : AnnotationBridge := ⟨fun _ _ => pure (.ok (some [.new "incomplete" "Incomplete."]))⟩

/-- An object and its child, both with a bridge if there is one. -/
def outspoken (suppressAnnotations : Bool) (bridge : Option AnnotationBridge) : ObjectRules :=
  { ObjectRules.empty (.optional .string) with
    child := some (demandBeside .all bridge)
    bridge
    suppressAnnotations }

/-- The child neither suppresses annotations nor lacks a bridge, and yet it does not ask. -/
theorem outspoken_suppressed :
    (∀ visit,
      Visit.Reaches ⟨.object (outspoken true (some complaint)), .absent .string, .empty⟩ visit →
        visit.inquiry? = none) ∧
      ((object (outspoken true (some complaint))).failures? (.absent .string) .empty).value =
        ((object (outspoken true none)).failures? (.absent .string) .empty).value ∧
      (Visit.inquiry?
        ⟨.object (outspoken false (some complaint)), .absent .string, .empty⟩).isSome := by
  have bared : (object (outspoken true (some complaint))).Varies baring
      (.object (outspoken true none)) :=
    .object rfl rfl .nil (.cons (demandBeside_bared .all _) .nil)
  have blind : (object (outspoken true (some complaint))).Everywhere (BlindTo baring.context) :=
    .single (demandBeside_everywhere rfl trivial (by simp [BlindTo])) rfl trivial
  obtain ⟨unasked, same⟩ := suppression_total (outspoken true (some complaint)) rfl
    (.absent .string) .empty
  refine ⟨unasked, ?_, rfl⟩
  rw [failures?, failures?, ← same blind _ bared]
  rfl

end Node

end RuleTree
