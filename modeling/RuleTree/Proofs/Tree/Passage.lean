import RuleTree.Proofs.Tree.Surroundings
import RuleTree.Proofs.Tree.Visit

/-!
What a rule sees of the context. On its way to a rule an evaluation passes the nodes around it. Each
of them opens a level of the context, or leaves the context as it is. So a rule sees what the
nearest node around it has set, and what no node around it has set it sees as the caller set it.
Nodes beside the way have no part in it.
-/

set_option autoImplicit false

namespace RuleTree

/-- The node with nothing below it. -/
def Node.shell : Node → Node
  | .rule (.composite rules) => .rule (.composite { rules with children := [] })
  | .rule (.conditional rules) =>
    .rule (.conditional { rules with accepted := .empty, rejected := none })
  | .rule (.value rules) =>
    .rule (.value { rules with presence := [], general := [], nested := none })
  | .rule (.elements rules) => .rule (.elements { rules with element := none })
  | .rule (.object reach rules) => .rule (.object reach (.empty rules.target))
  | .entry held => .entry { held with rule := .presence }
  | .property held => .property { held with rules := .empty }
  | .object rules => .object { rules with properties := [], child := none }
  | node => node

namespace Visit

/-! ### What a visit sets -/

def subject? : Visit → Option Value
  | ⟨.object _, value, _⟩ => some value
  | _ => none

/-- The member and the display name that a property sets. A property without a display name takes
away the one around it. -/
def names? : Visit → Option (String × Option String)
  | ⟨.property held, _, _⟩ => some (held.member, held.display)
  | _ => none

def name? (visit : Visit) : Option String :=
  visit.names?.map fun names => names.2.getD names.1

def resolver? : Visit → Option Resolver
  | ⟨.rule (.value rules), _, _⟩ => rules.resolver
  | ⟨.object rules, _, _⟩ => rules.resolver
  | _ => none

def bridge? : Visit → Option AnnotationBridge
  | ⟨.object rules, _, _⟩ => rules.bridge
  | _ => none

def messages? : Visit → Option MessageSource
  | ⟨.object rules, _, _⟩ => rules.messages
  | _ => none

def suppresses : Visit → Bool
  | ⟨.object rules, _, _⟩ => rules.suppressAnnotations
  | _ => false

/-- What becomes of the surroundings at a visit. -/
def sets (visit : Visit) (around : Surroundings) : Surroundings where
  subject := visit.subject?.or around.subject
  member := visit.names?.elim around.member fun names => some names.1
  display := visit.names?.elim around.display Prod.snd
  resolver := visit.resolver?.or around.resolver
  bridge := visit.bridge?.or around.bridge
  messages := visit.messages?.or around.messages
  annotationsEnabled := if visit.suppresses then false else around.annotationsEnabled
  item? := around.item?

/-- The context in which a visit goes on, if it is made in the given one. -/
def enter (visit : Visit) (context : Context) : Context :=
  inside ⟨visit.node.shell, visit.value, context⟩

/-- What lies below a visit has no part in the context in which the visit goes on. -/
theorem enter_context (visit : Visit) : visit.enter visit.context = visit.inside := by
  obtain ⟨node, value, context⟩ := visit
  cases node with
  | entry | property | object => rfl
  | rule held => cases held <;> rfl

theorem surroundings_enter (visit : Visit) (context : Context) :
    (visit.enter context).surroundings = visit.sets context.surroundings := by
  obtain ⟨node, value, _⟩ := visit
  cases node with
  | entry | property => rfl
  | object rules =>
      have switched (enabled : Bool) : (enabled && !rules.suppressAnnotations) =
          if rules.suppressAnnotations then false else enabled := by
        cases rules.suppressAnnotations <;> simp
      refine (ObjectRules.surroundings_contextFor _ value context).trans ?_
      exact congrArg
        (fun enabled => { sets ⟨.object rules, value, context⟩ context.surroundings with
          annotationsEnabled := enabled }) (switched context.annotationsEnabled)
  | rule held =>
      cases held with
      | value rules => exact ValueRules.surroundings_scope _ context
      | _ => rfl

theorem defaultRuleSets_enter (visit : Visit) (context : Context) :
    (visit.enter context).defaultRuleSets = context.defaultRuleSets := by
  obtain ⟨node, value, _⟩ := visit
  cases node with
  | entry | property => rfl
  | object rules => exact ObjectRules.defaultRuleSets_contextFor _ value context
  | rule held =>
      cases held with
      | value rules => exact ValueRules.defaultRuleSets_scope _ context
      | _ => rfl

/-! ### Passages -/

/-- From the root an evaluation comes to a visit through the visits passed, the nearest first. -/
inductive Passage (root : Visit) : List Visit → Visit → Prop where
  | root : Passage root [] root
  | branch {passed : List Visit} {visit : Visit} {branch : Branch} :
      Passage root passed visit → branch ∈ visit.branches →
      Passage root (visit :: passed) branch.visit

namespace Passage

variable {root visit : Visit} {passed : List Visit}

theorem before {first : Branch} (member : first ∈ root.branches)
    (passage : Passage first.visit passed visit) : Passage root (passed ++ [root]) visit := by
  induction passage with
  | root => exact .branch .root member
  | branch _ further ih => exact .branch ih further

theorem only (passage : Passage root passed visit) {next : Visit} {edit : Failure → Failure}
    (single : visit.branches = [⟨next, edit⟩]) : Passage root (visit :: passed) next := by
  have member : Branch.mk next edit ∈ visit.branches := by
    rw [single]
    exact List.mem_singleton_self _
  exact .branch passage member

theorem preserves (invariant : Visit → Prop)
    (step : ∀ visit, invariant visit → ∀ branch ∈ visit.branches, invariant branch.visit)
    (passage : Passage root passed visit) (start : invariant root) :
    ∀ before ∈ visit :: passed, invariant before := by
  induction passage with
  | root => exact List.forall_mem_singleton.mpr start
  | branch _ member ih =>
      exact List.forall_mem_cons.mpr ⟨step _ (ih _ List.mem_cons_self) _ member, ih⟩

/-- The context of a visit is made of the caller's by the visits passed, and by nothing else. -/
theorem context_eq (passage : Passage root passed visit) :
    visit.context = passed.foldr enter root.context := by
  induction passage with
  | root => rfl
  | @branch passed before branch _ member ih =>
      rw [(of_mem_branches member).2, ← before.enter_context, ih]
      rfl

end Passage

/-- Whatever is reached is reached along a passage, so `Passage.seenPast` tells what is seen there. -/
theorem Reaches.passage {root visit : Visit} (reaches : root.Reaches visit) :
    ∃ passed, Passage root passed visit := by
  induction root using Visit.induction with
  | step root ih =>
      rcases reaches.eq_or_branch with rfl | ⟨branch, member, further⟩
      · exact ⟨[], .root⟩
      · obtain ⟨passed, passage⟩ := ih branch member further
        exact ⟨passed ++ [root], passage.before member⟩

/-! ### The nearest -/

namespace Passage

variable {root visit : Visit} {passed : List Visit}

/-- What a visit sets in place of what it finds is seen as the nearest visit passed has set it. -/
theorem nearest {α : Type} (look : Context → Option α) (own : Visit → Option α)
    (enters : ∀ visit context, look (enter visit context) = (own visit).or (look context))
    (passage : Passage root passed visit) :
    look visit.context = (passed.findSome? own).or (look root.context) := by
  induction passage with
  | root => rfl
  | @branch passed before branch _ member ih =>
      rw [(of_mem_branches member).2, ← before.enter_context, enters, ih, List.findSome?_cons]
      cases own before <;> rfl

/-- What no visit changes is seen as the caller has set it. -/
theorem kept {α : Type} (look : Context → α)
    (enters : ∀ visit context, look (enter visit context) = look context)
    (passage : Passage root passed visit) : look visit.context = look root.context := by
  induction passage with
  | root => rfl
  | @branch passed before branch _ member ih =>
      rw [(of_mem_branches member).2, ← before.enter_context, enters, ih]

end Passage

theorem resolver_enter (visit : Visit) (context : Context) :
    (visit.enter context).resolver = visit.resolver?.or context.resolver :=
  congrArg Surroundings.resolver (visit.surroundings_enter context)

theorem display_enter (visit : Visit) (context : Context) :
    (visit.enter context).display = visit.name?.or context.display := by
  have shown := congrArg (fun around : Surroundings => around.display.or around.member)
    (visit.surroundings_enter context)
  refine Eq.trans shown ?_
  simp only [sets, name?]
  cases visit.names? with
  | none => rfl
  | some names =>
      -- A property sets both names at once, so its member hides a display name around it.
      obtain ⟨member, display⟩ := names
      cases display <;> rfl

/-- What is seen in a context that the caller's became on the way past the visits, the nearest
first. -/
structure SeenPast (passed : List Visit) (caller seen : Context) : Prop where
  get (key : String) (type : ItemType) : seen.get? key type = caller.get? key type
  contains (key : String) : seen.contains key = caller.contains key
  defaultRuleSets : seen.defaultRuleSets = caller.defaultRuleSets
  subject : seen.subject = (passed.findSome? subject?).or caller.subject
  messageName : seen.messageName = (passed.findSome? name?).getD caller.messageName
  resolver : seen.resolver = (passed.findSome? resolver?).or caller.resolver
  messages : seen.messages = (passed.findSome? messages?).or caller.messages
  bridge : seen.bridge = (passed.findSome? bridge?).or caller.bridge
  /-- Besides the visits passed nothing has a part in it, as they enter without what lies below. -/
  alone : seen = passed.foldr enter caller

theorem Passage.seen {root visit : Visit} {passed : List Visit}
    (passage : Passage root passed visit) : SeenPast passed root.context visit.context := by
  have within (visit : Visit) (context : Context) := visit.surroundings_enter context
  have items (key : String) : visit.context.item? key = root.context.item? key :=
    passage.kept (Context.item? · key) fun visit context =>
      congrArg (fun around => around.item? key) (within visit context)
  refine ⟨fun key type => ?_, fun key => ?_, ?_, ?_, ?_, ?_, ?_, ?_, passage.context_eq⟩
  · rw [Context.get?, items, Context.get?]
  · rw [Context.contains_eq, items, Context.contains_eq]
  · exact passage.kept Context.defaultRuleSets defaultRuleSets_enter
  · exact passage.nearest Context.subject subject? fun visit context =>
      congrArg Surroundings.subject (within visit context)
  · have display := passage.nearest Context.display name? display_enter
    rw [Context.messageName, display, Context.messageName]
    cases passed.findSome? name? <;> rfl
  · exact passage.nearest Context.resolver resolver? resolver_enter
  · exact passage.nearest Context.messages messages? fun visit context =>
      congrArg Surroundings.messages (within visit context)
  · exact passage.nearest Context.bridge bridge? fun visit context =>
      congrArg Surroundings.bridge (within visit context)

/-- A rule sees the context of the caller, but for what the nodes around it have set: of each thing
what the nearest of them has set. It is in this context that it is evaluated, as an evaluation of
the root comes to it: what each visit on the way adds to a sink is made of its own reports, which
are those of its context, and of the reports that arrive from the visits right below it, the next
one on the way among them. -/
theorem Passage.seenPast {root visit : Visit} {passed : List Visit}
    (passage : Passage root passed visit) :
    SeenPast passed root.context visit.context ∧
      ∀ before ∈ visit :: passed, ∀ sink : Sink,
        (before.node.evaluate before.value before.context sink).sink.failures =
          sink.failures ++ sink.wanted (before.node.mode.merge (before.own ++ before.arriving)) :=
  ⟨passage.seen, fun before _ => before.evaluate_arriving⟩

/-! ### Two objects, one within the other -/

/-- An order, and the address that its property leads to. -/
def orderRecord : Value := .record "Order" (.given 0) .null

def addressRecord : Value := .record "Address" (.given 1) .null

def resolves : ContextTest := fun _ context => pure context.resolver.isSome

def plainEntry (rule : Rule) : RuleEntry := ⟨rule, none, none, false⟩

/-- The street of an address. Its rules hold a resolver of their own. -/
def street : PropertyRules :=
  ⟨"Street", none, none, fun _ => pure (.absent .string),
    { ValueRules.empty with
      general := [plainEntry (.predicate resolves)]
      resolver := some ⟨2, fun _ => none⟩ }, none, true⟩

def address : ObjectRules := { ObjectRules.empty (.record "Address") with properties := [street] }

/-- The optional address of an order, shown under another name. -/
def home : PropertyRules :=
  ⟨"Address", none, some "Home", fun _ => pure (.present addressRecord),
    { ValueRules.empty with
      nested := some (plainEntry (.object .inside address)) }, none, true⟩

def order : ObjectRules :=
  { ObjectRules.empty (.record "Order") with
    properties := [home]
    resolver := some ⟨1, fun _ => none⟩
    bridge := some AnnotationRegistry.empty.toBridge
    messages := some (.ofList []) }

def callers : Context := (Context.empty.insert "limit" (.int 3)).withDefaultRuleSets (some ⟨["a"]⟩)

theorem street_of_order : ∃ passed seen,
    Passage ⟨.object order, orderRecord, callers⟩ passed
        ⟨.rule (.predicate resolves), .absent .string, seen⟩ ∧
      seen.get? "limit" .int = some (.int 3) ∧ seen.defaultRuleSets = some ⟨["a"]⟩ ∧
      seen.subject = some addressRecord ∧ seen.messageName = "Street" ∧
      seen.resolver = street.rules.resolver ∧ seen.messages = order.messages ∧
      seen.bridge = order.bridge ∧
      ((Node.rule (.predicate resolves)).evaluate (.absent .string) seen
        .collectAll).sink.failures = [] := by
  have start : Passage ⟨.object order, orderRecord, callers⟩ _ _ := .root
  have inOrder : Passage _ _ ⟨.property home, orderRecord, _⟩ := start.only rfl
  have inHome : Passage _ _ ⟨.rule (.value home.rules), .present addressRecord, _⟩ :=
    inOrder.only rfl
  have inEntry : Passage _ _
      ⟨.entry (plainEntry (.object .inside address)), .present addressRecord, _⟩ := inHome.only rfl
  have inNested : Passage _ _ ⟨.rule (.object .inside address), .present addressRecord, _⟩ :=
    inEntry.only rfl
  have inAddress : Passage _ _ ⟨.object address, addressRecord, _⟩ := inNested.only rfl
  have inStreet : Passage _ _ ⟨.property street, addressRecord, _⟩ := inAddress.only rfl
  have inRules : Passage _ _ ⟨.rule (.value street.rules), .absent .string, _⟩ := inStreet.only rfl
  have inTest : Passage _ _ ⟨.entry (plainEntry (.predicate resolves)), .absent .string, _⟩ :=
    inRules.only rfl
  have passage : Passage _ _ ⟨.rule (.predicate resolves), .absent .string, _⟩ := inTest.only rfl
  obtain ⟨seen, evaluated⟩ := passage.seenPast
  have accepted := evaluated _ List.mem_cons_self Sink.collectAll
  exact ⟨_, _, passage, (seen.get _ _).trans rfl, seen.defaultRuleSets.trans rfl,
    seen.subject.trans rfl, seen.messageName.trans rfl, seen.resolver.trans rfl,
    seen.messages.trans rfl, seen.bridge.trans rfl, accepted.trans rfl⟩

end Visit

end RuleTree
