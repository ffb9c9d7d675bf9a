import RuleTree.Tree.Verdict
import RuleTree.Tree.Build

/-!
Proxies: the rules of an object as a bridge to annotations, with a memory of the reports of shared
targets. A report is remembered under the address of its target, together with the identity of the
target, since another target may stand at that address later.
-/

set_option autoImplicit false

namespace RuleTree

/-- A remembered report. -/
structure CacheEntry where
  target : Handle
  report : Option Report
  deriving DecidableEq, Repr

/-- The rules of an object with a selector of their own and the reports that are remembered. -/
structure Proxy where
  rules : ObjectRules
  ruleSets : Option RuleSets
  cache : List CacheEntry

namespace Proxy

/-- A proxy that remembers nothing. -/
def new (rules : ObjectRules) : Proxy := ⟨rules, none, []⟩

def size (proxy : Proxy) : Nat := proxy.cache.length

/-- Sets the selector and forgets all reports. -/
def setRuleSets (proxy : Proxy) (sets : Option RuleSets) : Proxy :=
  { proxy with ruleSets := sets, cache := [] }

/-- Binds a resolver and forgets all reports. -/
def bind (proxy : Proxy) (resolver : Resolver) : Proxy :=
  { proxy with rules := proxy.rules.bind resolver, cache := [] }

/-- The report of a value under the selector of the proxy. -/
def validateValue (proxy : Proxy) (value : Value) : Logged (Option Report) :=
  (Rule.object .itself proxy.rules).failures? value (Context.empty.withRuleSets proxy.ruleSets)

/-- The entry for a target, if it is alive and the entry is its own. -/
def lookup? (proxy : Proxy) (alive : Origin → Bool) (target : Handle) : Option CacheEntry :=
  (proxy.cache.find? fun entry => entry.target.address == target.address).filter fun entry =>
    alive entry.target.identity && entry.target.identity == target.identity

/-- Remembers a report. The entries of targets that are gone are dropped. -/
def remember (proxy : Proxy) (alive : Origin → Bool) (target : Handle) (report : Option Report) :
    Proxy :=
  let kept := proxy.cache.filter fun entry =>
    alive entry.target.identity && entry.target.address != target.address
  { proxy with cache := kept ++ [⟨target, report⟩] }

/-- The report of a shared target, from memory if it is there. `alive` tells which identities
still exist. -/
def validate (proxy : Proxy) (alive : Origin → Bool) (target : Handle) (value : Value) :
    Logged (Option Report × Proxy) :=
  match proxy.lookup? alive target with
  | some entry =>
    (Logged.event (.cacheHit proxy.rules.target.name)).bind fun _ => pure (entry.report, proxy)
  | none =>
    (proxy.validateValue value).bind fun report =>
      pure (report, proxy.remember alive target report)

/-- The report of a value under the selector and the resolver of a request. -/
def validateRequest (proxy : Proxy) (value : Value) (request : AnnotationRequest) :
    Logged (Option Report) :=
  let context := (Context.empty.withRuleSets (request.ruleSets.or proxy.ruleSets)).withResolver
    request.resolver
  (Rule.object .itself proxy.rules).failures? value context

/-- The request asks for what the proxy is set to. -/
def isOwnRequest (proxy : Proxy) (request : AnnotationRequest) : Bool :=
  (request.ruleSets.isNone || request.ruleSets == proxy.ruleSets) && request.resolver.isNone

/-- A value that is a shared target of the proxy, with its handle. -/
def shared? (proxy : Proxy) : Value → Option (Handle × Value)
  | .shared handle target =>
    if target.type = proxy.rules.target then some (handle, target) else none
  | _ => none

/-- Answers a request about a value. A shared target of a request for the proxy's own setting is
remembered; a value of another type is none of the proxy's business. -/
def annotate (proxy : Proxy) (alive : Origin → Bool) (value : Value)
    (request : AnnotationRequest) : Logged (AnnotationAnswer × Proxy) :=
  match proxy.shared? value with
  | some (handle, target) =>
    if proxy.isOwnRequest request then
      (proxy.validate alive handle target).bind fun (report, proxy) => pure (.ok report, proxy)
    else (proxy.validateRequest target request).bind fun report => pure (.ok report, proxy)
  | none =>
    if value.type = proxy.rules.target then
      (proxy.validateRequest value request).bind fun report => pure (.ok report, proxy)
    else
      (Logged.event (.foreignValue proxy.rules.target.name request.member)).bind fun _ =>
        pure (.ok none, proxy)

/-- What a request about a value has the proxy remember, if it has it remember anything. -/
def remembered? (proxy : Proxy) (value : Value) (request : AnnotationRequest) : Option Origin :=
  match proxy.shared? value with
  | some (handle, _) => if proxy.isOwnRequest request then some handle.identity else none
  | none => none

/-- The proxy as a bridge, declared at a place. A report it remembers is the one it would make
again, so the bridge makes it always; the journal notes that it is one to remember. -/
def toBridge (proxy : Proxy) (place : Place) : AnnotationBridge where
  annotate value request :=
    let answer := (proxy.annotate (fun _ => false) value request).bind fun (answer, _) =>
      pure answer
    match proxy.remembered? value request with
    | some target => answer.consulting ⟨place, target⟩ proxy.rules.target.name
    | none => answer

/-- The descriptive form; `rules` is that of the rules. -/
def describe (proxy : Proxy) (rules : String) : String :=
  Text.partialRecord "ValidatorProxy"
    [("validator", rules), ("rule_sets", RuleSets.describeOptional proxy.ruleSets)]

end Proxy

end RuleTree
