import RuleTree.Proxy

/-!
Sessions of a proxy. Targets come and go, the proxy is set up anew, and calls are made. A call looks
for a remembered report in one locked section and remembers the report it has made in another; in
between, other calls may do the same, and the proxy cannot be changed. What is at an address may be
another target than what was there before, but no identity is ever used again.

In a session the memory of a proxy is not noticed: whatever is remembered of a target that exists is
what validating it would report.
-/

set_option autoImplicit false

namespace RuleTree

/-! ### The operations of a proxy on its memory -/

namespace Proxy

variable {proxy : Proxy} {alive : Origin → Bool} {target : Handle} {entry : CacheEntry}

theorem lookup?_spec (found : proxy.lookup? alive target = some entry) :
    entry ∈ proxy.cache ∧ entry.target.identity = target.identity := by
  obtain ⟨located, kept⟩ := Option.filter_eq_some_iff.mp found
  rw [Bool.and_eq_true, beq_iff_eq] at kept
  exact ⟨List.mem_of_find?_eq_some located, kept.2⟩

theorem mem_remember {report : Option Report}
    (member : entry ∈ (proxy.remember alive target report).cache) :
    entry = ⟨target, report⟩ ∨ entry ∈ proxy.cache ∧ alive entry.target.identity = true := by
  rcases List.mem_append.mp member with kept | added
  · obtain ⟨old, conditions⟩ := List.mem_filter.mp kept
    rw [Bool.and_eq_true] at conditions
    exact .inr ⟨old, conditions.1⟩
  · exact .inl (List.mem_singleton.mp added)

theorem validate_of_some (found : proxy.lookup? alive target = some entry) (value : Value) :
    (proxy.validate alive target value).value = (entry.report, proxy) := by
  rw [validate, found]
  rfl

theorem validate_of_none (missing : proxy.lookup? alive target = none) (value : Value) :
    (proxy.validate alive target value).value =
      ((proxy.validateValue value).value,
        proxy.remember alive target (proxy.validateValue value).value) := by
  rw [validate, missing]
  rfl

theorem validateRequest_of_own {request : AnnotationRequest}
    (own : proxy.isOwnRequest request = true) (value : Value) :
    proxy.validateRequest value request = proxy.validateValue value := by
  obtain ⟨sets, unresolved⟩ := Bool.and_eq_true_iff.mp own
  have selector : request.ruleSets.or proxy.ruleSets = proxy.ruleSets := by
    rcases Bool.or_eq_true_iff.mp sets with absent | same
    · rw [Option.isNone_iff_eq_none.mp absent, Option.none_or]
    · rw [eq_of_beq same, Option.or_self]
  rw [validateRequest, selector, Option.isNone_iff_eq_none.mp unresolved]
  rfl

theorem shared?_eq_some_iff {value held : Value} {handle : Handle} :
    proxy.shared? value = some (handle, held) ↔
      value = .shared handle held ∧ held.type = proxy.rules.target := by
  cases value with
  | shared other content =>
      rw [shared?]
      constructor
      · intro found
        split at found
        · next typed =>
            cases found
            exact ⟨rfl, typed⟩
        · cases found
      · rintro ⟨same, typed⟩
        cases same
        exact if_pos typed
  | _ => exact iff_of_false nofun nofun

/-- A value of the type of the proxy is no shared target of it. -/
theorem shared?_of_typed {value : Value} (typed : value.type = proxy.rules.target) :
    proxy.shared? value = none := by
  rw [Option.eq_none_iff_forall_ne_some]
  rintro ⟨handle, held⟩ found
  obtain ⟨rfl, within⟩ := shared?_eq_some_iff.mp found
  have sizes := congrArg sizeOf (typed.trans within.symm)
  simp only [Value.type, Ty.shared.sizeOf_spec] at sizes
  omega

theorem annotate_typed {value : Value} (typed : value.type = proxy.rules.target)
    (request : AnnotationRequest) :
    (proxy.annotate alive value request).value =
      (.ok (proxy.validateRequest value request).value, proxy) := by
  rw [annotate, shared?_of_typed typed]
  dsimp only
  rw [if_pos typed]
  rfl

theorem annotate_shared {value : Value} (typed : value.type = proxy.rules.target)
    (request : AnnotationRequest) :
    (proxy.annotate alive (.shared target value) request).value =
      if proxy.isOwnRequest request then
        (.ok (proxy.validate alive target value).value.1,
          (proxy.validate alive target value).value.2)
      else (.ok (proxy.validateRequest value request).value, proxy) := by
  rw [annotate, shared?_eq_some_iff.mpr ⟨rfl, typed⟩]
  dsimp only
  split <;> rfl

theorem annotate_foreign {value : Value} (unshared : proxy.shared? value = none)
    (foreign : value.type ≠ proxy.rules.target) (request : AnnotationRequest) :
    (proxy.annotate alive value request).value = (.ok none, proxy) := by
  rw [annotate, unshared]
  dsimp only
  rw [if_neg foreign]
  rfl

/-- Only a call on a shared target changes a proxy that is asked for annotations. -/
theorem annotate_proxy (proxy : Proxy) (alive : Origin → Bool) (value : Value)
    (request : AnnotationRequest) :
    (proxy.annotate alive value request).value.2 = proxy ∨
      ∃ handle held, value = .shared handle held ∧
        (proxy.annotate alive value request).value.2 =
          (proxy.validate alive handle held).value.2 := by
  cases found : proxy.shared? value with
  | some shared =>
      obtain ⟨handle, held⟩ := shared
      obtain ⟨rfl, typed⟩ := shared?_eq_some_iff.mp found
      rw [annotate_shared typed]
      split
      · exact .inr ⟨handle, held, rfl, rfl⟩
      · exact .inl rfl
  | none =>
      left
      by_cases typed : value.type = proxy.rules.target
      · rw [annotate_typed typed]
      · rw [annotate_foreign found typed]

end Proxy

/-! ### Sessions -/

/-- A shared target that exists. -/
structure Target where
  handle : Handle
  value : Value

/-- A call that has found nothing and has yet to remember the report it has made. -/
structure Pending where
  target : Target
  report : Option Report

/-- A proxy in use, with the targets that exist, all identities that ever did, and the calls under
way. -/
structure Session where
  proxy : Proxy
  targets : List Target
  known : List Origin
  calls : List Pending

namespace Session

def start (rules : ObjectRules) : Session := ⟨.new rules, [], [], []⟩

def alive (session : Session) (identity : Origin) : Bool :=
  session.targets.any fun target => target.handle.identity == identity

/-- What the proxy reports of a target without its memory. -/
def report (session : Session) (target : Target) : Option Report :=
  (session.proxy.validateValue target.value).value

/-- The operations of a session. A call that finds its report changes nothing. A proxy is set up
anew while no call is under way. -/
inductive Step (session : Session) : Session → Prop where
  | create {target : Target} : target.handle.identity ∉ session.known →
      (∀ other ∈ session.targets, other.handle.address ≠ target.handle.address) →
      Step session { session with
        targets := target :: session.targets
        known := target.handle.identity :: session.known }
  | drop {target : Target} : (∀ call ∈ session.calls, call.target ≠ target) →
      target ∈ session.targets →
      Step session { session with
        targets := session.targets.filter (·.handle.identity != target.handle.identity) }
  | setRuleSets (sets : Option RuleSets) : session.calls = [] →
      Step session { session with proxy := session.proxy.setRuleSets sets }
  | bind (resolver : Resolver) : session.calls = [] →
      Step session { session with proxy := session.proxy.bind resolver }
  | validate {target : Target} : target ∈ session.targets →
      Step session { session with
        proxy := (session.proxy.validate session.alive target.handle target.value).value.2 }
  | annotate {value : Value} (request : AnnotationRequest) :
      (∀ handle held, value = .shared handle held → ⟨handle, held⟩ ∈ session.targets) →
      Step session { session with
        proxy := (session.proxy.annotate session.alive value request).value.2 }
  | begin {target : Target} : target ∈ session.targets →
      session.proxy.lookup? session.alive target.handle = none →
      Step session { session with calls := ⟨target, session.report target⟩ :: session.calls }
  | finish {before after : List Pending} {call : Pending} :
      session.calls = before ++ call :: after →
      Step session { session with
        proxy := session.proxy.remember session.alive call.target.handle call.report
        calls := before ++ after }

/-- What any sequence of operations leads to. -/
inductive Reachable (rules : ObjectRules) : Session → Prop where
  | start : Reachable rules (.start rules)
  | step {session next : Session} : Reachable rules session → session.Step next →
      Reachable rules next

/-- What is remembered of a target that exists is what validating it would report. -/
structure Sound (session : Session) : Prop where
  identities : ∀ target ∈ session.targets, ∀ other ∈ session.targets,
    target.handle.identity = other.handle.identity → target = other
  addresses : ∀ target ∈ session.targets, ∀ other ∈ session.targets,
    target.handle.address = other.handle.address → target = other
  known : ∀ target ∈ session.targets, target.handle.identity ∈ session.known
  remembered : ∀ entry ∈ session.proxy.cache, entry.target.identity ∈ session.known
  entries : ∀ entry ∈ session.proxy.cache, ∀ target ∈ session.targets,
    entry.target.identity = target.handle.identity →
      entry = ⟨target.handle, session.report target⟩
  calls : ∀ call ∈ session.calls,
    call.target ∈ session.targets ∧ call.report = session.report call.target

namespace Sound

variable {session : Session}

theorem start (rules : ObjectRules) : (Session.start rules).Sound :=
  ⟨nofun, nofun, nofun, nofun, nofun, nofun⟩

theorem create (sound : session.Sound) {target : Target}
    (fresh : target.handle.identity ∉ session.known)
    (free : ∀ other ∈ session.targets, other.handle.address ≠ target.handle.address) :
    Sound { session with
      targets := target :: session.targets
      known := target.handle.identity :: session.known } where
  identities := by
    have apart : ∀ other ∈ session.targets, other.handle.identity ≠ target.handle.identity :=
      fun other member same => fresh (same ▸ sound.known other member)
    intro first firstMember second secondMember same
    rcases List.mem_cons.mp firstMember with rfl | firstOld <;>
      rcases List.mem_cons.mp secondMember with rfl | secondOld
    · rfl
    · exact absurd same.symm (apart second secondOld)
    · exact absurd same (apart first firstOld)
    · exact sound.identities first firstOld second secondOld same
  addresses := by
    intro first firstMember second secondMember same
    rcases List.mem_cons.mp firstMember with rfl | firstOld <;>
      rcases List.mem_cons.mp secondMember with rfl | secondOld
    · rfl
    · exact absurd same.symm (free second secondOld)
    · exact absurd same (free first firstOld)
    · exact sound.addresses first firstOld second secondOld same
  known := by
    intro other member
    rcases List.mem_cons.mp member with rfl | old
    · exact List.mem_cons_self
    · exact List.mem_cons_of_mem _ (sound.known other old)
  remembered := fun entry member => List.mem_cons_of_mem _ (sound.remembered entry member)
  entries := by
    intro entry member other otherMember same
    rcases List.mem_cons.mp otherMember with rfl | old
    · -- The memory knows nothing of a target that has not existed before.
      exact absurd (same ▸ sound.remembered entry member) fresh
    · exact sound.entries entry member other old same
  calls := fun call member =>
    ⟨List.mem_cons_of_mem _ (sound.calls call member).1, (sound.calls call member).2⟩

theorem drop (sound : session.Sound) {target : Target}
    (idle : ∀ call ∈ session.calls, call.target ≠ target) (member : target ∈ session.targets) :
    Sound { session with
      targets := session.targets.filter (·.handle.identity != target.handle.identity) } := by
  have kept {other : Target} (otherMember :
      other ∈ session.targets.filter (·.handle.identity != target.handle.identity)) :
      other ∈ session.targets :=
    (List.mem_filter.mp otherMember).1
  refine ⟨fun first firstMember second secondMember => ?_,
    fun first firstMember second secondMember => ?_, fun other otherMember => ?_, sound.remembered,
    fun entry entryMember other otherMember => ?_, fun call callMember => ?_⟩
  · exact sound.identities first (kept firstMember) second (kept secondMember)
  · exact sound.addresses first (kept firstMember) second (kept secondMember)
  · exact sound.known other (kept otherMember)
  · exact sound.entries entry entryMember other (kept otherMember)
  · obtain ⟨present, current⟩ := sound.calls call callMember
    refine ⟨List.mem_filter.mpr ⟨present, ?_⟩, current⟩
    rw [bne_iff_ne]
    exact fun same => idle call callMember (sound.identities _ present _ member same)

/-- A proxy with an empty memory is as good as any, unless a call is under way. -/
theorem renew (sound : session.Sound) (idle : session.calls = []) {proxy : Proxy}
    (empty : proxy.cache = []) : Sound { session with proxy } where
  identities := sound.identities
  addresses := sound.addresses
  known := sound.known
  remembered := by
    intro entry member
    rw [empty] at member
    exact absurd member List.not_mem_nil
  entries := by
    intro entry member
    rw [empty] at member
    exact absurd member List.not_mem_nil
  calls := by
    intro call member
    rw [idle] at member
    exact absurd member List.not_mem_nil

theorem remember (sound : session.Sound) {target : Target} (member : target ∈ session.targets) :
    Sound { session with
      proxy := session.proxy.remember session.alive target.handle (session.report target) } where
  identities := sound.identities
  addresses := sound.addresses
  known := sound.known
  remembered := by
    intro entry entryMember
    rcases Proxy.mem_remember entryMember with rfl | ⟨old, _⟩
    · exact sound.known target member
    · exact sound.remembered entry old
  entries := by
    intro entry entryMember other otherMember same
    rcases Proxy.mem_remember entryMember with rfl | ⟨old, _⟩
    · rw [sound.identities target member other otherMember same]
      rfl
    · exact sound.entries entry old other otherMember same
  calls := sound.calls

theorem begin (sound : session.Sound) {target : Target} (member : target ∈ session.targets) :
    Sound { session with calls := ⟨target, session.report target⟩ :: session.calls } where
  identities := sound.identities
  addresses := sound.addresses
  known := sound.known
  remembered := sound.remembered
  entries := sound.entries
  calls := List.forall_mem_cons.mpr ⟨⟨member, rfl⟩, sound.calls⟩

theorem validate (sound : session.Sound) {target : Target} (member : target ∈ session.targets) :
    Sound { session with
      proxy := (session.proxy.validate session.alive target.handle target.value).value.2 } := by
  cases found : session.proxy.lookup? session.alive target.handle with
  | some entry =>
      rw [Proxy.validate_of_some found]
      exact sound
  | none =>
      rw [Proxy.validate_of_none found]
      exact sound.remember member

theorem finish (sound : session.Sound) {before after : List Pending} {call : Pending}
    (pending : session.calls = before ++ call :: after) :
    Sound { session with
      proxy := session.proxy.remember session.alive call.target.handle call.report
      calls := before ++ after } := by
  obtain ⟨member, current⟩ := sound.calls call (by simp [pending])
  have remembered := sound.remember member
  rw [← current] at remembered
  exact { remembered with
    calls := fun other otherMember => remembered.calls other (by
      rw [pending]
      rcases List.mem_append.mp otherMember with early | late
      · exact List.mem_append_left _ early
      · exact List.mem_append_right _ (List.mem_cons_of_mem _ late)) }

theorem step (sound : session.Sound) {next : Session} (step : session.Step next) : next.Sound := by
  cases step with
  | create fresh free => exact sound.create fresh free
  | drop idle member => exact sound.drop idle member
  -- The memory is emptied with each change of what it depends on.
  | setRuleSets sets idle => exact sound.renew idle rfl
  | bind resolver idle => exact sound.renew idle rfl
  | validate member => exact sound.validate member
  | @annotate value request given =>
      rcases session.proxy.annotate_proxy session.alive value request with
        same | ⟨handle, held, shared, made⟩
      · rw [same]
        exact sound
      · rw [made]
        exact sound.validate (given handle held shared)
  | begin member _ => exact sound.begin member
  | finish pending => exact sound.finish pending

end Sound

theorem Reachable.sound {rules : ObjectRules} {session : Session}
    (reachable : Reachable rules session) : session.Sound := by
  induction reachable with
  | start => exact .start rules
  | step _ step ih => exact ih.step step

/-! ### What is seen of the memory -/

theorem alive_iff {session : Session} {identity : Origin} : session.alive identity = true ↔
    ∃ target ∈ session.targets, target.handle.identity = identity := by
  simp only [alive, List.any_eq_true, beq_iff_eq]

theorem remember_prunes {session : Session} {target : Target} (member : target ∈ session.targets)
    (report : Option Report) : ∀ entry ∈
      (session.proxy.remember session.alive target.handle report).cache,
        session.alive entry.target.identity = true := by
  intro entry remembered
  rcases Proxy.mem_remember remembered with rfl | ⟨_, living⟩
  · exact alive_iff.mpr ⟨target, member, rfl⟩
  · exact living

namespace Sound

variable {session : Session} {target : Target}

theorem found (sound : session.Sound) (member : target ∈ session.targets) {entry : CacheEntry}
    (found : session.proxy.lookup? session.alive target.handle = some entry) :
    entry = ⟨target.handle, session.report target⟩ := by
  obtain ⟨remembered, identity⟩ := Proxy.lookup?_spec found
  exact sound.entries entry remembered target member identity

/-- Of targets that exist, the address decides which one an entry belongs to. -/
theorem located (sound : session.Sound) (member : target ∈ session.targets) {entry : CacheEntry}
    (remembered : entry ∈ session.proxy.cache)
    (living : session.alive entry.target.identity = true)
    (address : entry.target.address = target.handle.address) :
    entry = ⟨target.handle, session.report target⟩ := by
  obtain ⟨owner, present, identity⟩ := alive_iff.mp living
  have own := sound.entries entry remembered owner present identity.symm
  rw [own] at address
  rw [own, sound.addresses owner present target member address]

theorem validated (sound : session.Sound) (member : target ∈ session.targets) :
    (session.proxy.validate session.alive target.handle target.value).value.1 =
      session.report target := by
  cases found : session.proxy.lookup? session.alive target.handle with
  | some entry => rw [Proxy.validate_of_some found, sound.found member found]
  | none =>
      rw [Proxy.validate_of_none found]
      rfl

theorem annotated (sound : session.Sound) (member : target ∈ session.targets)
    (typed : target.value.type = session.proxy.rules.target) (request : AnnotationRequest) :
    (session.proxy.annotate session.alive (.shared target.handle target.value) request).value.1 =
        (session.proxy.annotate session.alive target.value request).value.1 ∧
      (session.proxy.isOwnRequest request = true →
        (session.proxy.annotate session.alive target.value request).value.1 =
          .ok (session.report target)) := by
  have own (asked : session.proxy.isOwnRequest request = true) :
      (session.proxy.annotate session.alive target.value request).value.1 =
        .ok (session.report target) := by
    rw [Proxy.annotate_typed typed, Proxy.validateRequest_of_own asked]
    rfl
  refine ⟨?_, own⟩
  rw [Proxy.annotate_shared typed]
  split
  · rename_i asked
    rw [own asked, sound.validated member]
  · rw [Proxy.annotate_typed typed]

end Sound

/-- The memory of a proxy is not noticed. -/
structure Transparent (session : Session) : Prop where
  validated : ∀ target ∈ session.targets,
    (session.proxy.validate session.alive target.handle target.value).value.1 =
      (session.proxy.validateValue target.value).value
  /-- What a call is about to return. -/
  pending : ∀ call ∈ session.calls, call.target ∈ session.targets ∧
    call.report = (session.proxy.validateValue call.target.value).value
  /-- What a call finds in the first section. -/
  found : ∀ target ∈ session.targets, ∀ entry,
    session.proxy.lookup? session.alive target.handle = some entry →
      entry = ⟨target.handle, (session.proxy.validateValue target.value).value⟩
  apart : ∀ target ∈ session.targets, ∀ other ∈ session.targets, ∀ entry,
    session.proxy.lookup? session.alive target.handle = some entry →
      session.proxy.lookup? session.alive other.handle = some entry → target = other
  /-- To compare addresses is to compare identities, as far as targets exist. -/
  located : ∀ target ∈ session.targets, ∀ entry ∈ session.proxy.cache,
    session.alive entry.target.identity = true →
      (entry.target.address = target.handle.address ↔
        entry.target.identity = target.handle.identity)
  annotated : ∀ target ∈ session.targets,
    target.value.type = session.proxy.rules.target → ∀ request,
      (session.proxy.annotate session.alive (.shared target.handle target.value) request).value.1 =
          (session.proxy.annotate session.alive target.value request).value.1 ∧
        (session.proxy.isOwnRequest request = true →
          (session.proxy.annotate session.alive target.value request).value.1 =
            .ok (session.proxy.validateValue target.value).value)
  pruned : ∀ target ∈ session.targets,
    session.proxy.lookup? session.alive target.handle = none →
      ∀ entry ∈
        (session.proxy.validate session.alive target.handle target.value).value.2.cache,
          session.alive entry.target.identity = true
  prunedLate : ∀ call ∈ session.calls, ∀ entry ∈
    (session.proxy.remember session.alive call.target.handle call.report).cache,
      session.alive entry.target.identity = true

/-- Whatever has been done with a proxy and its targets, in whichever order calls have looked up and
remembered reports, its memory is not noticed. -/
theorem Reachable.transparent {rules : ObjectRules} {session : Session}
    (reachable : Reachable rules session) : session.Transparent where
  validated _ member := reachable.sound.validated member
  pending := reachable.sound.calls
  found _ member _ found := reachable.sound.found member found
  apart target member other otherMember entry found otherFound := by
    have own := reachable.sound.found member found
    have others := reachable.sound.found otherMember otherFound
    rw [own] at others
    exact reachable.sound.identities target member other otherMember
      (congrArg (fun entry : CacheEntry => entry.target.identity) others)
  located target member entry remembered living := by
    constructor
    · intro address
      rw [reachable.sound.located member remembered living address]
    · intro identity
      rw [reachable.sound.entries entry remembered target member identity]
  annotated _ member typed request := reachable.sound.annotated member typed request
  pruned target member missing := by
    rw [Proxy.validate_of_none missing]
    exact remember_prunes member _
  prunedLate call member := remember_prunes (reachable.sound.calls call member).1 _

/-! ### A target at the address of another -/

def tagRules : ObjectRules :=
  { ObjectRules.empty (.record "Tag") with
    properties := [⟨"Label", none, none, fun _ => pure (.absent .string),
      { ValueRules.empty with presence := [⟨.presence, none, none, false⟩] }, none, true⟩] }

/-- Tags look alike, and each is kept where the one before it was. -/
def tag (number : Nat) : Target :=
  ⟨⟨.given number, 64⟩, .record "Tag" (.given number) .null⟩

/-- A second tag takes the place of the first, whose report is remembered still. -/
theorem second_tag_reported : ∃ session, Reachable tagRules session ∧
    session.targets = [tag 1] ∧ session.proxy.size = 1 ∧ session.calls ≠ [] ∧
    (session.proxy.validate session.alive (tag 1).handle (tag 1).value).value.1 =
      (session.proxy.validateValue (tag 1).value).value ∧
    ∀ request, let proxy := session.proxy
      (proxy.annotate session.alive (.shared (tag 1).handle (tag 1).value) request).value.1 =
        (proxy.annotate session.alive (tag 1).value request).value.1 := by
  have first : Reachable tagRules _ :=
    Reachable.start.step (@Step.create _ (tag 0) List.not_mem_nil nofun)
  have remembered := first.step (.validate List.mem_cons_self)
  have gone := remembered.step (.drop nofun List.mem_cons_self)
  have second := gone.step (@Step.create _ (tag 1) (by decide) nofun)
  have under := second.step (.begin List.mem_cons_self rfl)
  have transparent := under.transparent
  refine ⟨_, under, rfl, rfl, nofun, ?_, fun request => ?_⟩
  · exact transparent.validated (tag 1) List.mem_cons_self
  · exact (transparent.annotated (tag 1) List.mem_cons_self rfl request).1

end Session

end RuleTree
