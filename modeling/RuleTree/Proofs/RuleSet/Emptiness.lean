import RuleTree.Proofs.Proxy.Session
import RuleTree.Proofs.Tree.Comparison
import RuleTree.Proofs.Tree.DefaultSelectors

/-!
Empty selectors. An empty list of rule sets requests nothing, so it should do what no list does. It
does where it is the last to be looked for. In front of other selectors it takes their place first:
where a validator has inherited it, where options give it for an ambient selector that is set
already, and where a request brings it to a proxy.
-/

set_option autoImplicit false

namespace RuleTree

/-! ### Contexts -/

namespace Context

/-- Options with an empty default selector take the ambient selector away. -/
theorem withOptions_empty (context : Context) (options : Options) :
    context.withOptions { options with defaultRuleSets := some .empty } =
      context.withDefaultRuleSets none := rfl

theorem withDefaultRuleSets_none {context : Context}
    (noDefault : context.level.defaultRuleSets = none) :
    context.withDefaultRuleSets none = context := by
  change { context with level := { context.level with defaultRuleSets := none } } = context
  rw [← noDefault]

/-- Nothing is requested, and no ambient selector stands in. -/
structure Unasked (context : Context) : Prop where
  requested : context.ruleSets = none
  ambient : RuleSets.nonEmpty? context.defaultRuleSets = none

variable {context other : Context}

theorem Unasked.notEmpty (unasked : context.Unasked) : RuleSets.NotEmpty context.ruleSets := by
  rw [unasked.requested]
  exact RuleSets.notEmpty_none

theorem Unasked.selectorFor (unasked : context.Unasked) :
    RuleSets.nonEmpty? (context.selectorFor none) = none := by
  rw [Context.selectorFor, unasked.requested]
  exact unasked.ambient

theorem Unasked.alike (unasked : other.Unasked) (alike : context.Alike other) :
    context.Unasked where
  requested := alike.ruleSets.trans unasked.requested
  ambient := alike.ambient ▸ unasked.ambient

theorem Unasked.scope (unasked : context.Unasked) : context.scope.Unasked :=
  ⟨unasked.requested, unasked.ambient⟩

theorem Unasked.value (unasked : context.Unasked) {rules : ValueRules}
    (fresh : rules.inherited = none) : (rules.scope context).Unasked where
  requested := by
    rw [rules.ruleSets_scope_of_requested unasked.notEmpty, fresh]
    exact unasked.selectorFor
  ambient := by
    rw [rules.defaultRuleSets_scope]
    exact unasked.ambient

theorem Unasked.object (unasked : context.Unasked) {rules : ObjectRules}
    (fresh : rules.inherited = none) (noDefault : (Node.object rules).NoDefault)
    (value : Value) : (rules.contextFor value context).Unasked where
  requested := by
    change RuleSets.nonEmpty? ((context.selectorFor rules.inherited).or _) = none
    rw [fresh]
    exact RuleSets.nonEmpty?_or unasked.selectorFor noDefault
  ambient := unasked.ambient

end Context

/-! ### Inheriting nothing -/

section

variable {context other : Context} (alike : context.Alike other) (unasked : other.Unasked)

include alike unasked

/-- Rules of a value that are handed an empty selector work under none, as they would without. -/
theorem ValueRules.scope_inherit_empty {rules : ValueRules} (fresh : rules.inherited = none) :
    ((rules.inherit .empty).scope context).Alike (rules.scope other) where
  surroundings := by
    rw [surroundings_scope, surroundings_scope, alike.surroundings, rules.inherit_eq]
  ambient := by
    rw [defaultRuleSets_scope, defaultRuleSets_scope, alike.ambient]
  ruleSets := by
    rw [ruleSets_scope_of_requested _ (unasked.alike alike).notEmpty, rules.inherited_inherit,
      fresh, (unasked.value fresh).requested]
    rfl

theorem ObjectRules.contextFor_inherit_empty {rules : ObjectRules}
    (fresh : rules.inherited = none) (noDefault : (Node.object rules).NoDefault)
    (value : Value) :
    ((rules.inherit .empty).contextFor value context).Alike (rules.contextFor value other) where
  surroundings := by
    rw [surroundings_contextFor, surroundings_contextFor, alike.surroundings, rules.inherit_eq]
  ambient := alike.ambient
  ruleSets := by
    rw [(unasked.object fresh noDefault value).requested]
    change RuleSets.nonEmpty? ((context.selectorFor (rules.inherit .empty).inherited).or _) = none
    rw [rules.inherited_inherit, fresh]
    rfl

end

/-- From where nothing is asked for to the same. -/
def Handover.nothing : Handover .empty where
  fit node := node.LooksUp ∧ node.NoDefault
  apart context other := context.Alike other ∧ other.Unasked
  joined := Context.Alike
  surroundings apart := apart.1.surroundings
  answers fit apart := fit.1 _ _ apart.1
  scope apart := ⟨apart.1.scope, apart.2.scope⟩
  value rules context other apart := by
    cases holds : rules.inherited with
    | some kept =>
        rw [ValueRules.inherit_of_kept _ holds]
        exact ⟨apart.1.value rules, nofun⟩
    | none =>
        have inner := ValueRules.scope_inherit_empty apart.1 apart.2 holds
        exact ⟨inner, fun _ => ⟨inner, apart.2.value holds⟩⟩
  object {rules context other} value fit apart := by
    cases holds : rules.inherited with
    | some kept =>
        rw [ObjectRules.inherit_of_kept _ holds]
        exact ⟨apart.1.object rules value, nofun⟩
    | none =>
        have inner := ObjectRules.contextFor_inherit_empty apart.1 apart.2 holds fit.2 value
        exact ⟨inner, fun _ => ⟨inner, apart.2.object holds fit.2 value⟩⟩
  elements _ _ _ apart := .inr apart.1
  selector alike := alike.ruleSets
  annotations rules value _ _ alike := rules.annotations_alike alike value
  report value _ _ fit alike := Node.report_alike (fit.imp fun _ fit => fit.1) value alike

/-- Where nothing is requested and there is no default, a tree that is handed an empty selector
reports what it would have reported without. -/
theorem Node.report_inherit_empty {node : Node} (looks : node.Everywhere LooksUp)
    (noDefault : node.Everywhere NoDefault) (value : Value) {context other : Context}
    (alike : context.Alike other) (unasked : other.Unasked) :
    (node.inherit .empty).report value context = node.report value other := by
  have handover (validator : ∀ held, node ≠ .property held) :=
    Handover.nothing.unnoticed validator (looks.and noDefault) value ⟨alike, unasked⟩
  cases node with
  | property => exact report_alike looks value alike
  | rule | entry | object => exact handover nofun

/-! ### Proxies -/

namespace Proxy

/-- What the proxy validates when it is asked about a value: the target that is shared, or the value
itself. -/
def subject? (proxy : Proxy) (value : Value) : Option Value :=
  match proxy.shared? value with
  | some (_, held) => some held
  | none => if value.type = proxy.rules.target then some value else none

/-- The answer to a request, without a memory. -/
def answer (proxy : Proxy) (value : Value) (request : AnnotationRequest) : AnnotationAnswer :=
  match proxy.subject? value with
  | some held => .ok (proxy.validateRequest held request).value
  | none => .ok none

variable {proxy : Proxy} {alive : Origin → Bool}

/-- If memory tells nothing else than validating, requests are answered as if there was none. -/
theorem annotate_answer {value : Value}
    (truthful : ∀ handle held, value = .shared handle held →
      (proxy.validate alive handle held).value.1 = (proxy.validateValue held).value)
    (request : AnnotationRequest) :
    (proxy.annotate alive value request).value.1 = proxy.answer value request := by
  rw [answer, subject?]
  cases found : proxy.shared? value with
  | some shared =>
      obtain ⟨handle, held⟩ := shared
      obtain ⟨rfl, typed⟩ := shared?_eq_some_iff.mp found
      rw [annotate_shared typed]
      dsimp only
      split
      · next own => rw [truthful handle held rfl, validateRequest_of_own own]
      · rfl
  | none =>
      by_cases typed : value.type = proxy.rules.target
      · rw [annotate_typed typed]
        simp only [typed, ↓reduceIte]
      · rw [annotate_foreign found typed]
        simp only [typed, ↓reduceIte]

theorem annotate_forgetful (forgetful : proxy.cache = []) (value : Value)
    (request : AnnotationRequest) :
    (proxy.annotate alive value request).value.1 = proxy.answer value request := by
  refine annotate_answer (fun handle held _ => ?_) request
  have missing : proxy.lookup? alive handle = none := by rw [lookup?, forgetful]; rfl
  rw [validate_of_none missing]

/-- An answer depends on the rules, on what selects among them, and on the resolver. -/
theorem answer_congr {other : Proxy} {request changed : AnnotationRequest}
    (rules : other.rules = proxy.rules) (resolver : changed.resolver = request.resolver)
    (selector : RuleSets.nonEmpty? (changed.ruleSets.or other.ruleSets) =
      RuleSets.nonEmpty? (request.ruleSets.or proxy.ruleSets)) (value : Value) :
    other.answer value changed = proxy.answer value request := by
  have validated (held : Value) :
      other.validateRequest held changed = proxy.validateRequest held request := by
    rw [validateRequest, Context.withRuleSets_congr selector, rules, resolver, validateRequest]
  have same : other.subject? value = proxy.subject? value := by
    simp only [subject?, shared?, rules]
  rw [answer, same, answer]
  simp only [validated]

end Proxy

/-! ### Each place at which a selector is supplied -/

/-- What the value shares exists. -/
def Session.Admits (session : Session) (value : Value) : Prop :=
  ∀ handle held, value = .shared handle held → ⟨handle, held⟩ ∈ session.targets

theorem Session.Reachable.annotate_answer {rules : ObjectRules} {session : Session}
    (reachable : Reachable rules session) {value : Value} (admitted : session.Admits value)
    (request : AnnotationRequest) :
    (session.proxy.annotate session.alive value request).value.1 =
      session.proxy.answer value request :=
  Proxy.annotate_answer (fun handle held shared =>
    reachable.transparent.validated ⟨handle, held⟩ (admitted handle held shared)) request

/-- An empty selector does what none does: as a request and as an ambient selector, and as the
default selector of any object in a tree, whatever else is supplied. In front of other selectors it
does if none of them is supplied: in options that are applied to a context, handed to a tree (unless
it has inherited a list already), and in a request to a proxy. Set on a proxy it does, whatever the
history of the proxy and of its targets. -/
theorem empty_selector_is_none (node : Node) (value : Value) (context : Context) :
    node.failures? value (context.withRuleSets (some .empty)) =
        node.failures? value (context.withRuleSets none) ∧
    node.failures? value (context.withDefaultRuleSets (some .empty)) =
        node.failures? value (context.withDefaultRuleSets none) ∧
    (∀ other : Node, node.SameDefaults other →
      other.failures? value context = node.failures? value context) ∧
    (context.level.defaultRuleSets = none → ∀ options : Options,
      node.failures? value (context.withOptions { options with defaultRuleSets := some .empty }) =
        node.failures? value (context.withOptions { options with defaultRuleSets := none })) ∧
    (node.Everywhere Node.LooksUp → node.Everywhere Node.NoDefault → context.Unasked →
      ((node.inherit .empty).failures? value context).value =
        (node.failures? value context).value) ∧
    (∀ sets : RuleSets, ((node.inherit sets).inherit .empty).failures? value context =
      (node.inherit sets).failures? value context) ∧
    ∀ {rules : ObjectRules} {session : Session}, Session.Reachable rules session →
      (session.proxy.ruleSets = some .empty →
        (∀ target ∈ session.targets,
          (session.proxy.validate session.alive target.handle target.value).value.1 =
            ((session.proxy.setRuleSets none).validateValue target.value).value) ∧
        (session.Admits value → ∀ request : AnnotationRequest,
          (session.proxy.annotate session.alive value request).value.1 =
            ((session.proxy.setRuleSets none).annotate session.alive value request).value.1)) ∧
      (RuleSets.nonEmpty? session.proxy.ruleSets = none → session.Admits value →
        ∀ request : AnnotationRequest,
          (session.proxy.annotate session.alive value
              { request with ruleSets := some .empty }).value.1 =
            (session.proxy.annotate session.alive value
              { request with ruleSets := none }).value.1) := by
  refine ⟨rfl, rfl, fun other alike => ?_, fun noDefault options => ?_,
    fun looks noDefault unasked => ?_, fun sets => ?_, fun reachable => ⟨fun own =>
      ⟨fun target member => ?_, fun admitted request => ?_⟩, fun silent admitted request => ?_⟩⟩
  · rw [Node.failures?, Node.SameDefaults.unnoticed node alike, Node.failures?]
  · have unset : context.withOptions { options with defaultRuleSets := none } = context := rfl
    rw [Context.withOptions_empty, Context.withDefaultRuleSets_none noDefault, unset]
  · have alike : context.Alike context := ⟨rfl, rfl, rfl⟩
    rw [Node.failures?_value, Node.failures?_value,
      Node.report_inherit_empty looks noDefault value alike unasked]
  · rw [Node.inherit_inherit]
  · rw [reachable.transparent.validated target member, Proxy.validateValue, own]
    rfl
  · rw [reachable.annotate_answer admitted, Proxy.annotate_forgetful rfl]
    refine Proxy.answer_congr ?_ rfl ?_ value
    · rfl
    · rw [own]
      cases request.ruleSets <;> rfl
  · rw [reachable.annotate_answer admitted, reachable.annotate_answer admitted]
    refine Proxy.answer_congr ?_ ?_ ?_ value
    · rfl
    · rfl
    · exact silent.symm

/-- A tag demands its label, and once more in the set "strict". -/
def strictTag : ObjectRules :=
  { ObjectRules.empty (.record "Tag") with
    properties := [⟨"Label", none, none, fun _ => pure (.absent .string),
      { ValueRules.empty with
        presence := [⟨.presence, none, none, false⟩,
          ⟨.presence, some ⟨["strict"]⟩, none, false⟩] }, none, true⟩] }

theorem strictTag_everywhere :
    (Node.object strictTag).Everywhere fun node => node.IgnoresRequest ∧ node.NoDefault := by
  refine Node.everywhere_object.mpr ⟨⟨trivial, rfl⟩, fun held member => ?_, nofun⟩
  rw [List.mem_singleton.mp member]
  refine Node.everywhere_property.mpr ⟨⟨trivial, trivial⟩, ?_⟩
  refine Node.everywhere_value.mpr ⟨⟨trivial, trivial⟩, fun entry member => ?_⟩
  refine Node.everywhere_entry.mpr ⟨⟨trivial, trivial⟩, ?_⟩
  have demand : entry.rule = .presence := by
    rcases List.mem_cons.mp member with rfl | later
    · rfl
    · rw [List.mem_singleton.mp later]
  rw [demand]
  exact .intro ⟨trivial, trivial⟩ (List.forall_mem_nil _)

/-- The failures of a tag that is validated in a context. -/
def Node.failuresOfTag (node : Node) (context : Context) : Nat :=
  ((node.failures? (Session.tag 0).value context).value.getD []).length

/-- The failures of a tag that a proxy with a list of its own reports on a request. -/
def Proxy.failuresOfTag (own requested : Option RuleSets) : Nat :=
  (((((Proxy.new strictTag).setRuleSets own).validateRequest (Session.tag 0).value
    ⟨none, none, none, requested, true, []⟩)).value.getD []).length

/-- An empty list that stands in front of nothing is as good as none: in options, as default
selector, inherited, and at a proxy that a tag is shown to. -/
theorem strictTag_empty_selectors :
    let strict : RuleSets := ⟨["strict"]⟩
    let options : Options := { Options.default with defaultRuleSets := some .empty }
    (Node.object strictTag).failuresOfTag (Context.empty.withOptions options) = 1 ∧
    (Node.object (strictTag.applyOptions options)).failures? (Session.tag 0).value
        (.forRuleSets strict) =
      (Node.object (strictTag.applyOptions .default)).failures? (Session.tag 0).value
        (.forRuleSets strict) ∧
    (((Node.object strictTag).inherit .empty).failures? (Session.tag 0).value .empty).value =
      ((Node.object strictTag).failures? (Session.tag 0).value .empty).value ∧
    ∃ session, Session.Reachable strictTag session ∧ session.targets = [Session.tag 0] ∧
      session.proxy.ruleSets = some .empty ∧
      (session.proxy.validate session.alive (Session.tag 0).handle (Session.tag 0).value).value.1 =
        ((session.proxy.setRuleSets none).validateValue (Session.tag 0).value).value ∧
      ∀ request : AnnotationRequest,
        (session.proxy.annotate session.alive
            (.shared (Session.tag 0).handle (Session.tag 0).value)
            { request with ruleSets := some .empty }).value.1 =
          (session.proxy.annotate session.alive
            (.shared (Session.tag 0).handle (Session.tag 0).value)
            { request with ruleSets := none }).value.1 := by
  have emptied : Session.Reachable strictTag _ :=
    Session.Reachable.start.step (.setRuleSets (some .empty) rfl)
  have shared := emptied.step (@Session.Step.create _ (Session.tag 0) List.not_mem_nil nofun)
  have ⟨_, _, _, options, inherited, _⟩ :=
    empty_selector_is_none (.object strictTag) (Session.tag 0).value .empty
  have ⟨_, _, defaults, _⟩ := empty_selector_is_none
    (.object (strictTag.applyOptions .default)) (Session.tag 0).value (.forRuleSets ⟨["strict"]⟩)
  have ⟨_, _, _, _, _, _, proxies⟩ := empty_selector_is_none (.object strictTag)
    (.shared (Session.tag 0).handle (Session.tag 0).value) .empty
  refine ⟨?_, defaults _ ?_, ?_, _, shared, rfl, rfl, ?_, ?_⟩
  · rw [Node.failuresOfTag, options rfl .default]
    decide
  · exact .object rfl (List.forall₂_same.mpr fun _ _ => .same _) .nil
  · exact inherited (strictTag_everywhere.imp fun _ holds => holds.1.looksUp)
      (strictTag_everywhere.imp fun _ holds => holds.2) ⟨rfl, rfl⟩
  · exact ((proxies shared).1 rfl).1 _ List.mem_cons_self
  · refine (proxies shared).2 rfl ?_
    rintro handle held ⟨⟩
    exact List.mem_cons_self

/-- Where it stands in front of the set "strict", an empty list puts it out of effect: inherited by
a validator that is asked for the set, in options for a context that has it as ambient selector, and
in a request to a proxy that has it as its own. -/
theorem empty_selector_masks :
    let strict : RuleSets := ⟨["strict"]⟩
    let ambient : Context := Context.empty.withDefaultRuleSets (some strict)
    (((Node.object strictTag).inherit .empty).failuresOfTag (.forRuleSets strict) = 1 ∧
      (Node.object strictTag).failuresOfTag (.forRuleSets strict) = 2) ∧
    ((Node.object strictTag).failuresOfTag
        (ambient.withOptions { Options.default with defaultRuleSets := some .empty }) = 1 ∧
      (Node.object strictTag).failuresOfTag
        (ambient.withOptions { Options.default with defaultRuleSets := none }) = 2) ∧
    (Proxy.failuresOfTag (some strict) (some .empty) = 1 ∧
      Proxy.failuresOfTag (some strict) none = 2) := by
  decide

end RuleTree
