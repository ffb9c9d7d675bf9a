import RuleTree.Proofs.Annotation.Inquiry
import RuleTree.Proofs.Tree.FirstFailure
import RuleTree.Proofs.Tree.Surroundings
import RuleTree.Proofs.Tree.Variation

/-!
Bridges that have nothing to report. A tree with such bridges is compared to the bare tree, the same
tree without bridges, in the context without its bridges.

A bridge that has nothing to report adds an empty report where a bare tree adds none. Where all
reports count, an empty one makes no difference. An object that accepts as soon as one of its steps
accepts takes it for such a step.
-/

set_option autoImplicit false

namespace RuleTree

namespace Context

/-- The context with no bridge on any of its levels. -/
def withoutBridges (context : Context) : Context where
  level := { context.level with bridge := none }
  outer := context.outer.map ({ · with bridge := none })

variable (context : Context)

theorem findSome?_withoutBridges {α : Type} (look : ContextLevel → Option α)
    (blind : ∀ level : ContextLevel, look { level with bridge := none } = look level) :
    context.withoutBridges.levels.findSome? look = context.levels.findSome? look := by
  have levels : context.withoutBridges.levels =
      context.levels.map ({ · with bridge := none }) := rfl
  rw [levels, List.findSome?_map]
  congr 1
  funext level
  exact blind level

theorem messages_withoutBridges : context.withoutBridges.messages = context.messages :=
  context.findSome?_withoutBridges _ fun _ => rfl

theorem defaultRuleSets_withoutBridges :
    context.withoutBridges.defaultRuleSets = context.defaultRuleSets :=
  context.findSome?_withoutBridges _ fun _ => rfl

theorem bridge_withoutBridges : context.withoutBridges.bridge = none := by
  have silent : ∀ level ∈ context.withoutBridges.levels, level.bridge = none := by
    simp [levels, withoutBridges]
  exact List.findSome?_eq_none_iff.mpr silent

theorem activeBridge_withoutBridges : context.withoutBridges.activeBridge = none := by
  unfold activeBridge
  rw [bridge_withoutBridges]
  split <;> rfl

theorem selectorFor_withoutBridges (inherited : Option RuleSets) :
    context.withoutBridges.selectorFor inherited = context.selectorFor inherited := by
  unfold selectorFor
  rw [defaultRuleSets_withoutBridges]
  rfl

end Context

theorem Step.rejected_withoutBridges (failure : Failure) (tried : Option String)
    (context : Context) :
    rejected failure tried context.withoutBridges = rejected failure tried context := by
  unfold rejected
  rw [context.messages_withoutBridges]
  rfl

theorem Step.examined_withoutBridges (type : LeafType) (check : type.Carrier → Option Failure)
    (value : Value) (context : Context) :
    examined type check value context.withoutBridges = examined type check value context := by
  unfold examined
  simp only [rejected_withoutBridges]

theorem MessageOverride.retitle_withoutBridges (override : Option MessageOverride)
    (context : Context) : retitle override context.withoutBridges = retitle override context := by
  funext failure
  rcases override with _ | (template | key)
  · rfl
  · rfl
  · simp only [retitle, apply, context.messages_withoutBridges]
    rfl

theorem PropertyRules.annotations_withoutBridges (held : PropertyRules) (value : Value)
    (context : Context) : held.annotations value context.withoutBridges = [] := by
  unfold annotations
  rw [context.activeBridge_withoutBridges, ite_self]

theorem ObjectRules.annotations_withoutBridges (rules : ObjectRules) (value : Value)
    (context : Context) : rules.annotations value context.withoutBridges = [] := by
  unfold annotations
  rw [context.activeBridge_withoutBridges]

theorem ObjectRules.contextFor_withoutBridges (rules : ObjectRules) (value : Value)
    (context : Context) :
    { rules with bridge := none }.contextFor value context.withoutBridges =
      (rules.contextFor value context).withoutBridges := by
  unfold contextFor
  rw [context.selectorFor_withoutBridges]
  rfl

/-- The variation that takes all bridges away. All else is equal. -/
def Variation.baring : Variation where
  mode := (· = ·)
  bridge _ changed := changed = none
  context first second := second = first.withoutBridges
  ruleSets bare := by
    rw [bare]
    rfl
  retitle override bare := by rw [bare, MessageOverride.retitle_withoutBridges]
  scope bare := by
    rw [bare]
    rfl
  property _ bare := by
    rw [bare]
    rfl
  value rules bare := by
    rw [bare]
    unfold ValueRules.scope ValueRules.contextFor
    rw [Context.selectorFor_withoutBridges]
    dsimp only
    rw [apply_ite Context.withoutBridges]
    rfl
  object rules _ value none bare := by
    rw [none, bare, ObjectRules.contextFor_withoutBridges]

open Variation (baring)

/-- The bridge has nothing to report, whatever it is asked. -/
def AnnotationBridge.IsSilent (bridge : AnnotationBridge) : Prop :=
  ∀ value request, (bridge.annotate value request).value = .ok none

/-- What the user supplied at a node does not look at the bridge of a context. -/
def Node.IgnoresBridge : Node → Prop
  | .rule (.contextual held) => ∀ input context,
    (held.check input context.withoutBridges).value = (held.check input context).value
  | .rule (.predicate test) => ∀ value context,
    (test value context.withoutBridges).value = (test value context).value
  | _ => True

namespace Visit

/-- The bridge that the visit asks has nothing to report. -/
def Silent (visit : Visit) : Prop := ∀ inquiry ∈ visit.inquiry?, inquiry.answer = .ok none

/-- If one step that accepts is enough for the node, there is one below it. -/
def Settled (visit : Visit) : Prop :=
  visit.node.mode = .any → Mode.any.merge visit.arriving = []

theorem annotations_silent {held : PropertyRules} {value : Value} {context : Context}
    (silent : Silent ⟨.property held, value, context⟩) :
    held.annotations (held.read value) (held.scope context) = [] := by
  rw [held.annotations_eq]
  cases asked : held.inquiry? (held.read value) (held.scope context) with
  | none => rfl
  | some inquiry =>
      rw [Option.elim_some, silent inquiry asked]
      rfl

theorem own_object_silent {rules : ObjectRules} {value : Value} {context : Context}
    (silent : Silent ⟨.object rules, value, context⟩) :
    own ⟨.object rules, value, context⟩ =
      (inquiry? ⟨.object rules, value, context⟩).toList.map fun _ => [] := by
  unfold Silent at silent
  simp only [own, inquiry?] at silent ⊢
  split
  · rename_i accepted
    rw [if_pos accepted] at silent
    rw [rules.annotations_eq]
    apply List.map_congr_left
    intro inquiry member
    rw [silent inquiry (Option.mem_toList.mp member)]
    rfl
  · rfl

theorem own_object_bare (rules : ObjectRules) (value : Value) (context : Context) :
    own ⟨.object { rules with bridge := none }, value, context.withoutBridges⟩ = [] := by
  have quiet := ObjectRules.annotations_withoutBridges { rules with bridge := none } value
    (rules.contextFor value context)
  rw [← rules.contextFor_withoutBridges] at quiet
  simp only [own, quiet, ite_self]

/-- A bridge with nothing to report adds at most an empty report to those of a bare visit. -/
theorem own_bared {visit bare : Visit} (varies : visit.Varies baring bare)
    (ignores : visit.node.IgnoresBridge) (silent : visit.Silent) :
    visit.own = bare.own ∨
      visit.inquiry?.isSome ∧ visit.own = [[]] ∧ bare.own = [] := by
  obtain ⟨node, subject, context⟩ := visit
  obtain ⟨changed, seen, changedContext⟩ := bare
  obtain ⟨nodes, same, contexts⟩ := varies
  dsimp only at nodes same contexts
  obtain rfl : changedContext = context.withoutBridges := contexts
  subst seen
  cases nodes with
  | composite | conditional | value | elements | nested | entry => exact .inl rfl
  | leaf held =>
      left
      simp only [own, Step.examined_withoutBridges]
  | contextual held =>
      have same input := ignores input context
      left
      simp only [own, Step.examined_withoutBridges, same]
  | presence =>
      left
      simp only [own, Step.rejected_withoutBridges]
  | predicate test =>
      left
      simp only [own, Step.rejected_withoutBridges, ignores subject context]
  | @property held rules _ =>
      left
      have bared : PropertyRules.annotations { held with rules } (held.read subject)
          (held.scope context.withoutBridges) = [] :=
        PropertyRules.annotations_withoutBridges _ _ (held.scope context)
      have quiet := annotations_silent silent
      exact congrArg (fun report => [report.map (Failure.below held.member)])
        (quiet.trans bared.symm)
  | @object rules properties child mode bridge _ bridges _ _ =>
      obtain rfl : bridge = none := bridges
      have bared := own_object_bare { rules with properties, child, mode } subject context
      rw [own_object_silent silent, bared]
      cases inquiry? ⟨.object rules, subject, context⟩ with
      | none => exact .inl rfl
      | some inquiry => exact .inr ⟨rfl, rfl, rfl⟩

theorem report_any_silent {rules : ObjectRules} {value : Value} {context : Context}
    (any : rules.mode = .any) (silent : Silent ⟨.object rules, value, context⟩)
    (asks : (inquiry? ⟨.object rules, value, context⟩).isSome) :
    report ⟨.object rules, value, context⟩ = [] := by
  obtain ⟨inquiry, asked⟩ := Option.isSome_iff_exists.mp asks
  have mode : (Node.object rules).mode = .any := any
  rw [report_eq, own_object_silent silent, asked, mode]
  rfl

end Visit

namespace Node

/-- The report of a tree is that of the bare tree if no bridge that is asked has anything to report
and the empty report of a bridge is nowhere the only one that accepts. -/
theorem report_bared {node bare : Node} (varies : node.Varies baring bare)
    (ignoring : node.Everywhere IgnoresBridge) {value : Value} {context : Context}
    (silent : ∀ visit, Visit.Reaches ⟨node, value, context⟩ visit → visit.Silent)
    (settled : ∀ visit, Visit.Reaches ⟨node, value, context⟩ visit → visit.inquiry?.isSome →
      visit.Settled) :
    bare.report value context.withoutBridges = node.report value context := by
  have alike : Visit.Varies baring ⟨node, value, context⟩ ⟨bare, value, context.withoutBridges⟩ :=
    ⟨varies, rfl, rfl⟩
  refine Visit.Varies.report (fun report bared => bared = report)
    (fun edit report bared same => by rw [same]) ?_ alike
  intro left right reaches pair same
  have arriving : right.arriving = left.arriving := (List.forall₂_eq_eq_eq ▸ same.flip)
  have mode : left.node.mode = right.node.mode := pair.node.mode rfl
  have ignores := (reaches.everywhere ignoring).here
  rw [left.report_eq, right.report_eq, arriving, ← mode]
  rcases Visit.own_bared pair ignores (silent left reaches) with own | ⟨asks, own, none⟩
  · rw [own]
  · -- The object asks in vain. Only a mode that looks for an empty report notices.
    rw [own, none, List.nil_append, List.singleton_append]
    cases found : left.node.mode with
    | all => rfl
    | failFast => rfl
    | any => exact settled left reaches asks found

/-- The bridge that a visit makes reachable itself has nothing to report. -/
def BridgesSilently : Node → Prop
  | .object rules => ∀ bridge ∈ rules.bridge, bridge.IsSilent
  | _ => True

end Node

namespace Visit

theorem bridge_inside (visit : Visit) :
    visit.inside.bridge = visit.context.bridge ∨
      ∃ rules, visit.node = .object rules ∧
        visit.inside.bridge = rules.bridge.or visit.context.bridge := by
  obtain ⟨node, value, context⟩ := visit
  cases node with
  | entry => exact .inl rfl
  | property held => exact .inl (congrArg Surroundings.bridge (held.surroundings_scope context))
  | object rules =>
      exact .inr ⟨rules, rfl,
        congrArg Surroundings.bridge (rules.surroundings_contextFor value context)⟩
  | rule held =>
      cases held with
      | value rules =>
          exact .inl (congrArg Surroundings.bridge (rules.surroundings_scope context))
      | _ => exact .inl rfl

/-- No bridge that is in reach at a visit or declared below it has anything to report. -/
structure Hushed (visit : Visit) : Prop where
  declared : visit.node.Everywhere Node.BridgesSilently
  ambient : ∀ bridge ∈ visit.context.bridge, bridge.IsSilent

namespace Hushed

theorem inside {visit : Visit} (hushed : visit.Hushed) :
    ∀ bridge ∈ visit.inside.bridge, bridge.IsSilent := by
  rcases visit.bridge_inside with same | ⟨rules, found, nearest⟩
  · rw [same]
    exact hushed.ambient
  · have own := hushed.declared.here
    rw [found] at own
    rw [nearest]
    intro bridge member
    cases present : rules.bridge with
    | none =>
        rw [present] at member
        exact hushed.ambient bridge member
    | some declared =>
        rw [present] at member
        exact own bridge (present.trans member)

theorem branch {visit : Visit} (hushed : visit.Hushed) {branch : Branch}
    (member : branch ∈ visit.branches) : branch.visit.Hushed where
  declared := hushed.declared.descend (of_mem_branches member).1
  ambient := by
    rw [(of_mem_branches member).2]
    exact hushed.inside

theorem silent {visit : Visit} (hushed : visit.Hushed) : visit.Silent :=
  fun inquiry asked =>
    hushed.inside inquiry.bridge (bridge_of_inquiry asked) inquiry.subject inquiry.request

theorem reaches {visit other : Visit} (hushed : visit.Hushed) (reaches : visit.Reaches other) :
    other.Silent :=
  (reaches.preserves Hushed (fun _ hushed _ member => hushed.branch member) hushed).silent

end Hushed

end Visit

namespace AnnotationRegistry

/-- A registry has nothing to report about a value of a type without a check. -/
theorem answer_of_unchecked {registry : AnnotationRegistry} {value : Value}
    (unchecked : registry.check? value.type = none) (request : AnnotationRequest) :
    (registry.toBridge.annotate value request).value = .ok none := by
  change (registry.annotate value request).value = _
  unfold annotate
  rw [unchecked]
  rfl

theorem empty_isSilent : empty.toBridge.IsSilent := fun _ request =>
  answer_of_unchecked rfl request

end AnnotationRegistry

namespace Node

/-- Bridges that have nothing to report leave every verdict as it is without bridges, unless an
object accepts as soon as one of its steps accepts and the bridge is the only step of it that does:
such an object always accepts. -/
theorem silent_bridges_neutral {node bare : Node} (varies : node.Varies baring bare)
    (ignoring : node.Everywhere IgnoresBridge) {value : Value} {context : Context}
    (silent : ∀ visit, Visit.Reaches ⟨node, value, context⟩ visit → visit.Silent) :
    ((∀ visit, Visit.Reaches ⟨node, value, context⟩ visit → visit.inquiry?.isSome →
        visit.Settled) →
      (node.failures? value context).value =
          (bare.failures? value context.withoutBridges).value ∧
        (node.accepts value context).value =
          (bare.accepts value context.withoutBridges).value ∧
        (node.require value context).value =
          (bare.require value context.withoutBridges).value) ∧
      ∀ rules subject scope,
        Visit.Reaches ⟨node, value, context⟩ ⟨.object rules, subject, scope⟩ →
        (Visit.inquiry? ⟨.object rules, subject, scope⟩).isSome → rules.mode = .any →
          ((Node.object rules).failures? subject scope).value = none := by
  constructor
  · intro settled
    have same := report_bared varies ignoring silent settled
    have failures : (node.failures? value context).value =
        (bare.failures? value context.withoutBridges).value := by
      rw [failures?_value, failures?_value, same]
    refine ⟨failures, ?_, ?_⟩
    · rw [Bool.eq_iff_iff, accepts_iff, accepts_iff, failures]
    · rw [require_value, require_value, failures]
  · intro rules subject scope reaches asks any
    have empty := Visit.report_any_silent any (silent _ reaches) asks
    exact (failures?_eq_none_iff _ subject scope).mpr empty

/-- The demand that a value is there. -/
def demand : RuleEntry := ⟨.presence, none, none, false⟩

/-- A property whose value is required. -/
def demanded : PropertyRules :=
  ⟨"Name", none, none, pure, { ValueRules.empty with presence := [demand] }, none, true⟩

/-- An object whose property is required, under a mode and with or without a bridge. -/
def demandBeside (mode : Mode) (bridge : Option AnnotationBridge) : ObjectRules :=
  { ObjectRules.empty (.optional .string) with properties := [demanded], mode, bridge }

theorem demandBeside_bared (mode : Mode) (bridge : Option AnnotationBridge) :
    (object (demandBeside mode bridge)).Varies baring (.object (demandBeside mode none)) :=
  .object rfl rfl (.cons (.property (.value rfl (.cons (.entry .presence) .nil) .nil .nil)) .nil)
    .nil

theorem demandBeside_everywhere {condition : Node → Prop} {rules : ObjectRules}
    (shape : (object rules).children = [.property demanded]) (outside : condition (.object rules))
    (inside : ∀ node ∈ [property demanded, .rule (.value demanded.rules), .entry demand,
      .rule .presence], condition node) : (object rules).Everywhere condition := by
  have checked : (rule .presence).Everywhere condition := .intro (inside _ (by simp)) nofun
  have asked : (entry demand).Everywhere condition := checked.single rfl (inside _ (by simp))
  have held : (rule (.value demanded.rules)).Everywhere condition :=
    asked.single rfl (inside _ (by simp))
  exact (held.single rfl (inside _ (by simp))).single shape outside

/-- Beside the demand a registry without checks is not noticed, if both count. If one step that
accepts is enough, nothing is demanded any more. -/
theorem demandBeside_unnoticed :
    ((object (demandBeside .all (some AnnotationRegistry.empty.toBridge))).failures?
          (.absent .string) .empty).value =
        ((object (demandBeside .all none)).failures? (.absent .string) .empty).value ∧
      ((object (demandBeside .any (some AnnotationRegistry.empty.toBridge))).failures?
        (.absent .string) .empty).value = none := by
  have ignoring (mode : Mode) :
      (object (demandBeside mode (some AnnotationRegistry.empty.toBridge))).Everywhere
        IgnoresBridge :=
    demandBeside_everywhere rfl trivial (by simp [IgnoresBridge])
  have bridged (mode : Mode) :
      (object (demandBeside mode (some AnnotationRegistry.empty.toBridge))).Everywhere
        BridgesSilently :=
    demandBeside_everywhere rfl
      (by simpa [BridgesSilently, demandBeside] using AnnotationRegistry.empty_isSilent)
      (by simp [BridgesSilently])
  have hushed (mode : Mode) : Visit.Hushed
      ⟨.object (demandBeside mode (some AnnotationRegistry.empty.toBridge)), .absent .string,
        .empty⟩ := ⟨bridged mode, nofun⟩
  have together := silent_bridges_neutral (demandBeside_bared .all _) (ignoring .all)
    fun _ reaches => (hushed .all).reaches reaches
  have either := silent_bridges_neutral (demandBeside_bared .any _) (ignoring .any)
    fun _ reaches => (hushed .any).reaches reaches
  constructor
  · refine (together.1 fun visit reaches _ any => ?_).1
    have plain : visit.node.Everywhere fun node => node.mode ≠ .any :=
      reaches.everywhere
        (demandBeside_everywhere rfl nofun (by simp [Node.mode, demanded, ValueRules.empty]))
    exact absurd any plain.here
  · exact either.2 _ _ _ (Visit.reaches_refl _) rfl rfl

/-- Without the registry the demand is made in either mode. -/
theorem demandBeside_any_noticed :
    ((object (demandBeside .any (some AnnotationRegistry.empty.toBridge))).failures?
        (.absent .string) .empty).value ≠
      ((object (demandBeside .any none)).failures? (.absent .string) .empty).value := by
  decide

end Node

end RuleTree
