import Mathlib.Data.List.Induction
import RuleTree.Proofs.Declaration.DefaultMessages

/-!
Whose message it is. A validator remembers the slot of the entry that was added last, and a message
is meant for the entry in that slot. What the calls on a validator mean for messages is told here
by their history, without a look at the validator: which slots were filled, by a call that makes the
entry the one that messages are meant for or by one that does not, and which messages and defaults
were given in between. The history says what message each entry has in the end, and the validator
that the calls have made agrees.
-/

set_option autoImplicit false

namespace RuleTree

/-! ### Histories -/

/-- What a call does to entries and their messages. -/
inductive MessageEvent where
  /-- A slot gets an entry; if this is added, messages are meant for it from now on. -/
  | filled (slot : Slot) (added : Bool)
  | custom (message : MessageOverride)
  | default (message : MessageOverride)

/-- What calls have done to entries and their messages, the latest first. -/
abbrev MessageHistory := List MessageEvent

namespace MessageHistory

/-- The slots that were filled. -/
def slots : MessageHistory → List Slot
  | [] => []
  | .filled slot _ :: earlier => slot :: slots earlier
  | .custom _ :: earlier | .default _ :: earlier => slots earlier

/-- The slot of the entry that was added last. -/
def target? : MessageHistory → Option Slot
  | [] => none
  | .filled slot added :: earlier => if added then some slot else target? earlier
  | .custom _ :: earlier | .default _ :: earlier => target? earlier

/-- The last message that was given while it was meant for the slot, since this was filled. -/
def custom? (slot : Slot) : MessageHistory → Option MessageOverride
  | [] => none
  | .filled other _ :: earlier => if other = slot then none else custom? slot earlier
  | .custom message :: earlier =>
    if target? earlier = some slot then some message else custom? slot earlier
  | .default _ :: earlier => custom? slot earlier

/-- The last default that was given since the slot was filled. -/
def default? (slot : Slot) : MessageHistory → Option MessageOverride
  | [] => none
  | .filled other _ :: earlier => if other = slot then none else default? slot earlier
  | .custom _ :: earlier => default? slot earlier
  | .default message :: _ => some message

/-- The message of the entry in a slot, if there is one: its own, or else a default. -/
def override? (slot : Slot) (history : MessageHistory) : Option (Option MessageOverride) :=
  if slot ∈ history.slots then some ((history.custom? slot).or (history.default? slot)) else none

/-- The number of checks of presence. -/
def presences : MessageHistory → Nat
  | [] => 0
  | .filled (.presence _) _ :: earlier => presences earlier + 1
  | _ :: earlier => presences earlier

/-- The number of general rules. -/
def generals : MessageHistory → Nat
  | [] => 0
  | .filled (.general _) _ :: earlier => generals earlier + 1
  | _ :: earlier => generals earlier

variable {history : MessageHistory} {slot : Slot}

/-- There is an entry in the slot that messages are meant for. -/
theorem mem_slots_of_target (target : history.target? = some slot) : slot ∈ history.slots := by
  induction history with
  | nil => cases target
  | cons event earlier ih =>
      cases event with
      | filled other added =>
          cases added with
          | true =>
              cases target
              exact List.mem_cons_self
          | false => exact List.mem_cons_of_mem _ (ih target)
      | custom | default => exact ih target

/-- What is known of the messages of an entry: that it has one of its own, and the one it has. -/
def wording? (slot : Slot) (history : MessageHistory) : Option (Bool × Option MessageOverride) :=
  if slot ∈ history.slots then
    some ((history.custom? slot).isSome, (history.custom? slot).or (history.default? slot))
  else none

theorem override?_eq_wording? (slot : Slot) (history : MessageHistory) :
    history.override? slot = (history.wording? slot).map Prod.snd := by
  unfold override? wording?
  split <;> rfl

theorem wording?_filled (filled : Slot) (added : Bool) (slot : Slot) (history : MessageHistory) :
    wording? slot (.filled filled added :: history) =
      if filled = slot then some (false, none) else history.wording? slot := by
  by_cases same : filled = slot
  · simp [wording?, slots, custom?, default?, same]
  · simp [wording?, slots, custom?, default?, same, Ne.symm same]

theorem wording?_custom (message : MessageOverride) (slot : Slot) (history : MessageHistory) :
    wording? slot (.custom message :: history) =
      if history.target? = some slot then some (true, some message)
      else history.wording? slot := by
  by_cases target : history.target? = some slot
  · simp [wording?, slots, custom?, target, mem_slots_of_target target]
  · simp [wording?, slots, custom?, default?, target]

theorem wording?_default (message : MessageOverride) (slot : Slot) (history : MessageHistory) :
    wording? slot (.default message :: history) =
      (history.wording? slot).map fun wording =>
        if wording.1 then wording else (false, some message) := by
  simp only [wording?, slots, custom?, default?]
  by_cases filled : slot ∈ history.slots
  · cases history.custom? slot <;> simp [filled]
  · simp [filled]

end MessageHistory

/-! ### Calls -/

/-- A call on the rules of a value. -/
inductive ValueCall where
  | pushPresence (rule : Rule)
  | pushRule (rule : Rule)
  /-- Attaches a nested rule, which is refused if there is one. -/
  | attach (rule : Rule) (site alternative : String)
  /-- Installs a nested rule that messages are not meant for. -/
  | install (rule : Rule)
  | message (message : MessageOverride)
  | defaultMessage (message : MessageOverride)
  | enter (sets : RuleSets)
  | leaveTo (depth : Nat)
  | mode (mode : Mode)
  | guard (test : Test)
  | allowEmpty
  | preprocess (transform : Value → Logged Value)
  | inherit (sets : RuleSets)
  | bind (resolver : Resolver)

namespace ValueCall

def run : ValueCall → ValueRules → ValueRules
  | .pushPresence rule, rules => rules.pushPresence rule
  | .pushRule rule, rules => rules.pushRule rule
  | .attach rule site alternative, rules =>
    (Built.settle rules (rules.attachNested rule site alternative)).value
  | .install rule, rules => rules.installNested rule
  | .message given, rules => rules.setLastMessage given
  | .defaultMessage given, rules => rules.setDefaultMessage given
  | .enter sets, rules => rules.enter sets
  | .leaveTo depth, rules => rules.leaveTo depth
  | .mode chosen, rules => rules.setMode chosen
  | .guard test, rules => rules.addGuard test
  | .allowEmpty, rules => rules.allowEmpty
  | .preprocess transform, rules => rules.setPreprocess transform
  | .inherit sets, rules => rules.inherit sets
  | .bind resolver, rules => rules.bind resolver

def runAll (calls : List ValueCall) (rules : ValueRules) : ValueRules :=
  calls.foldl (fun rules call => call.run rules) rules

/-- What a call adds to a history. An attachment that is refused adds nothing. -/
def note : ValueCall → MessageHistory → MessageHistory
  | .pushPresence _, history => .filled (.presence history.presences) true :: history
  | .pushRule _, history => .filled (.general history.generals) true :: history
  | .attach .., history =>
    if .nested ∈ history.slots then history else .filled .nested true :: history
  | .install _, history => .filled .nested false :: history
  | .message given, history => .custom given :: history
  | .defaultMessage given, history => .default given :: history
  | _, history => history

/-- The history of calls on rules that have no entries yet. -/
def history (calls : List ValueCall) : MessageHistory :=
  calls.foldl (fun history call => call.note history) []

/-- The call puts a nested rule in the place of the one that may be there. -/
def installs : ValueCall → Bool
  | .install _ => true
  | _ => false

/-- A nested rule is installed only where there is none, as those who install one see to. -/
def InstallsOnce (calls : List ValueCall) : Prop :=
  ∀ before rule after, calls = before ++ .install rule :: after → .nested ∉ (history before).slots

end ValueCall

/-! ### Entries after a call -/

theorem getElem?_concat {α : Type} (items : List α) (item : α) (position : Nat) :
    (items ++ [item])[position]? =
      if items.length = position then some item else items[position]? := by
  split
  · next last => rw [← last, List.getElem?_concat_length]
  · next other =>
      rcases Nat.lt_or_gt_of_ne other with beyond | within
      · rw [List.getElem?_eq_none (Nat.le_of_lt beyond),
          List.getElem?_eq_none (by simpa using Nat.succ_le_of_lt beyond)]
      · exact List.getElem?_append_left within

namespace ValueRules

theorem entryAt?_pushPresence (rules : ValueRules) (rule : Rule) (slot : Slot) :
    (rules.pushPresence rule).entryAt? slot =
      if .presence rules.presence.length = slot then some (rules.entry rule)
      else rules.entryAt? slot := by
  cases slot with
  | presence position =>
      simp only [pushPresence, entryAt?, getElem?_concat, Slot.presence.injEq]
  | general | nested => rfl

theorem entryAt?_pushRule (rules : ValueRules) (rule : Rule) (slot : Slot) :
    (rules.pushRule rule).entryAt? slot =
      if .general rules.general.length = slot then some (rules.entry rule)
      else rules.entryAt? slot := by
  cases slot with
  | general position =>
      simp only [pushRule, entryAt?, getElem?_concat, Slot.general.injEq]
  | presence | nested => rfl

theorem entryAt?_installNested (rules : ValueRules) (rule : Rule) (slot : Slot) :
    (rules.installNested rule).entryAt? slot =
      if .nested = slot then some (rules.entry rule) else rules.entryAt? slot := by
  cases slot <;> rfl

theorem entryAt?_nesting (rules : ValueRules) (rule : Rule) (slot : Slot) :
    (rules.nesting rule).entryAt? slot =
      if .nested = slot then some (rules.entry (handOn rules.selectorForNested rule))
      else rules.entryAt? slot := by
  cases slot <;> rfl

theorem last_modifyLast (rules : ValueRules) (change : RuleEntry → RuleEntry) :
    (rules.modifyLast change).last = rules.last := by
  unfold modifyLast
  split <;> rfl

theorem length_presence_modifyLast (rules : ValueRules) (change : RuleEntry → RuleEntry) :
    (rules.modifyLast change).presence.length = rules.presence.length := by
  unfold modifyLast
  split <;> simp only [List.length_modify]

theorem length_general_modifyLast (rules : ValueRules) (change : RuleEntry → RuleEntry) :
    (rules.modifyLast change).general.length = rules.general.length := by
  unfold modifyLast
  split <;> simp only [List.length_modify]

end ValueRules

theorem RuleEntry.wording_setDefaultMessage (held : RuleEntry) (given : MessageOverride) :
    (held.setDefaultMessage given).wording =
      if held.wording.1 then held.wording else (false, some given) := by
  cases custom : held.isCustom <;> simp [setDefaultMessage, wording, custom]

/-! ### Validators and their history -/

/-- The rules are what the calls of the history have made, as far as messages are concerned. -/
structure ValueRules.Follows (rules : ValueRules) (history : MessageHistory) : Prop where
  last : rules.last = history.target?
  presences : rules.presence.length = history.presences
  generals : rules.general.length = history.generals
  wording : ∀ slot, (rules.entryAt? slot).map RuleEntry.wording = history.wording? slot

namespace ValueRules.Follows

variable {rules other : ValueRules} {history : MessageHistory} {slot : Slot}

theorem empty : ValueRules.empty.Follows [] where
  last := rfl
  presences := rfl
  generals := rfl
  wording slot := by cases slot <;> rfl

/-- A slot is filled if and only if there is an entry in it. -/
theorem mem_slots_iff (follows : rules.Follows history) :
    slot ∈ history.slots ↔ (rules.entryAt? slot).isSome = true := by
  have same := congrArg Option.isSome (follows.wording slot)
  rw [Option.isSome_map, MessageHistory.wording?] at same
  rw [same]
  split <;> simp [*]

theorem override? (follows : rules.Follows history) (slot : Slot) :
    (rules.entryAt? slot).map RuleEntry.message = history.override? slot := by
  rw [history.override?_eq_wording?, ← follows.wording, Option.map_map]
  rfl

/-- An entry without a message gets its slot, and nothing else changes. -/
theorem filling (follows : rules.Follows history) {filled : Slot} {held : RuleEntry}
    (fresh : held.wording = (false, none))
    (entries : ∀ slot, other.entryAt? slot =
      if filled = slot then some held else rules.entryAt? slot)
    (added : Bool) (slot : Slot) :
    (other.entryAt? slot).map RuleEntry.wording =
      MessageHistory.wording? slot (.filled filled added :: history) := by
  rw [entries, MessageHistory.wording?_filled]
  split
  · exact congrArg some fresh
  · exact follows.wording slot

theorem pushPresence (follows : rules.Follows history) (rule : Rule) :
    (rules.pushPresence rule).Follows
      (.filled (.presence history.presences) true :: history) where
  last := congrArg (fun count => some (Slot.presence count)) follows.presences
  presences := by
    rw [MessageHistory.presences, ← follows.presences]
    exact List.length_append
  generals := follows.generals
  wording := by
    rw [← follows.presences]
    exact follows.filling rfl (rules.entryAt?_pushPresence rule) true

theorem pushRule (follows : rules.Follows history) (rule : Rule) :
    (rules.pushRule rule).Follows (.filled (.general history.generals) true :: history) where
  last := congrArg (fun count => some (Slot.general count)) follows.generals
  presences := follows.presences
  generals := by
    rw [MessageHistory.generals, ← follows.generals]
    exact List.length_append
  wording := by
    rw [← follows.generals]
    exact follows.filling rfl (rules.entryAt?_pushRule rule) true

theorem installNested (follows : rules.Follows history) (rule : Rule) :
    (rules.installNested rule).Follows (.filled .nested false :: history) where
  last := follows.last
  presences := follows.presences
  generals := follows.generals
  wording := follows.filling rfl (rules.entryAt?_installNested rule) false

theorem nesting (follows : rules.Follows history) (rule : Rule) :
    (rules.nesting rule).Follows (.filled .nested true :: history) where
  last := rfl
  presences := follows.presences
  generals := follows.generals
  wording := follows.filling rfl (rules.entryAt?_nesting rule) true

theorem attachNested (follows : rules.Follows history) (rule : Rule) (site alternative : String) :
    (Built.settle rules (rules.attachNested rule site alternative)).value.Follows
      (ValueCall.note (.attach rule site alternative) history) := by
  have filled : .nested ∈ history.slots ↔ rules.nested.isSome = true := follows.mem_slots_iff
  rw [ValueCall.note]
  cases taken : rules.nested.isSome with
  | true =>
      rw [attachNested_of_taken taken, if_pos (filled.mpr taken)]
      exact follows
  | false =>
      rw [attachNested_of_free taken, if_neg (by simp [filled, taken])]
      exact follows.nesting rule

theorem setLastMessage (follows : rules.Follows history) (given : MessageOverride) :
    (rules.setLastMessage given).Follows (.custom given :: history) where
  last := (rules.last_modifyLast _).trans follows.last
  presences := (rules.length_presence_modifyLast _).trans follows.presences
  generals := (rules.length_general_modifyLast _).trans follows.generals
  wording slot := by
    rw [ValueRules.setLastMessage, entryAt?_modifyLast, MessageHistory.wording?_custom,
      follows.last]
    by_cases target : history.target? = some slot
    · have there := follows.mem_slots_iff.mp (MessageHistory.mem_slots_of_target target)
      obtain ⟨held, found⟩ := Option.isSome_iff_exists.mp there
      rw [found, if_pos target, if_pos target]
      rfl
    · rw [if_neg target, if_neg target, Option.map_id]
      exact follows.wording slot

theorem setDefaultMessage (follows : rules.Follows history) (given : MessageOverride) :
    (rules.setDefaultMessage given).Follows (.default given :: history) where
  last := follows.last
  presences := (List.length_map _).trans follows.presences
  generals := (List.length_map _).trans follows.generals
  wording slot := by
    rw [entryAt?_setDefaultMessage, MessageHistory.wording?_default, ← follows.wording,
      Option.map_map, Option.map_map]
    exact Option.map_congr fun held _ => held.wording_setDefaultMessage given

/-- A call that leaves the entries and their messages alone. -/
theorem leaving (follows : rules.Follows history) (last : other.last = rules.last)
    (presences : other.presence.length = rules.presence.length)
    (generals : other.general.length = rules.general.length)
    (wording : ∀ slot, (other.entryAt? slot).map RuleEntry.wording =
      (rules.entryAt? slot).map RuleEntry.wording) : other.Follows history where
  last := last.trans follows.last
  presences := presences.trans follows.presences
  generals := generals.trans follows.generals
  wording slot := (wording slot).trans (follows.wording slot)

theorem inherit (follows : rules.Follows history) (sets : RuleSets) :
    (rules.inherit sets).Follows history := by
  have wording := rules.wording_inherit sets
  rw [rules.inherit_eq sets] at wording ⊢
  exact follows.leaving rfl rfl rfl wording

theorem bind (follows : rules.Follows history) (resolver : Resolver) :
    (rules.bind resolver).Follows history := by
  have wording := rules.wording_bind resolver
  by_cases bound : resolver.isBoundIn rules.resolver = true
  · rw [bind_of_bound resolver bound]
    exact follows
  · rw [bind_of_free resolver bound] at wording ⊢
    exact follows.leaving rfl (List.length_map _) (List.length_map _) wording

theorem run (follows : rules.Follows history) (call : ValueCall) :
    (call.run rules).Follows (call.note history) := by
  cases call with
  | pushPresence rule => exact follows.pushPresence rule
  | pushRule rule => exact follows.pushRule rule
  | attach rule site alternative => exact follows.attachNested rule site alternative
  | install rule => exact follows.installNested rule
  | message given => exact follows.setLastMessage given
  | defaultMessage given => exact follows.setDefaultMessage given
  | inherit sets => exact follows.inherit sets
  | bind resolver => exact follows.bind resolver
  | enter | leaveTo | mode | guard | allowEmpty | preprocess =>
      exact follows.leaving rfl rfl rfl fun slot => by cases slot <;> rfl

/-- The rules that calls have made follow the history of the calls. -/
theorem runAll (calls : List ValueCall) :
    (ValueCall.runAll calls .empty).Follows (ValueCall.history calls) := by
  have through (calls : List ValueCall) {rules : ValueRules} {history : MessageHistory}
      (follows : rules.Follows history) :
      (ValueCall.runAll calls rules).Follows
        (calls.foldl (fun history call => call.note history) history) := by
    induction calls generalizing rules history with
    | nil => exact follows
    | cons call rest ih => exact ih (follows.run call)
  exact through calls empty

end ValueRules.Follows

/-! ### What a call leaves alone -/

namespace MessageHistory

variable {history : MessageHistory} {slot : Slot}

theorem override?_filled_of_ne {filled : Slot} (other : filled ≠ slot) (added : Bool)
    (history : MessageHistory) :
    override? slot (.filled filled added :: history) = history.override? slot := by
  rw [override?_eq_wording?, wording?_filled, if_neg other, ← override?_eq_wording?]

theorem override?_custom_of_ne (other : history.target? ≠ some slot) (given : MessageOverride) :
    override? slot (.custom given :: history) = history.override? slot := by
  rw [override?_eq_wording?, wording?_custom, if_neg other, ← override?_eq_wording?]

theorem override?_default_of_custom (own : (history.custom? slot).isSome = true)
    (given : MessageOverride) :
    override? slot (.default given :: history) = history.override? slot := by
  obtain ⟨message, found⟩ := Option.isSome_iff_exists.mp own
  simp only [override?, slots, custom?, default?, found, Option.some_or]

end MessageHistory

namespace ValueRules.Follows

variable {rules : ValueRules} {history : MessageHistory} {slot : Slot}

theorem presence_free (follows : rules.Follows history) :
    .presence history.presences ∉ history.slots := by
  rw [follows.mem_slots_iff, ← follows.presences]
  simp [entryAt?]

theorem general_free (follows : rules.Follows history) :
    .general history.generals ∉ history.slots := by
  rw [follows.mem_slots_iff, ← follows.generals]
  simp [entryAt?]

/-- A call keeps the message of an entry, unless it sets the message that is meant for the entry or
the default of an entry without one of its own, or it installs another entry in its place. -/
theorem override?_note (follows : rules.Follows history) {call : ValueCall}
    (filled : slot ∈ history.slots)
    (apart : ∀ given, call = .message given → history.target? ≠ some slot)
    (own : ∀ given, call = .defaultMessage given → (history.custom? slot).isSome = true)
    (kept : ∀ rule, call = .install rule → slot ≠ .nested) :
    (call.note history).override? slot = history.override? slot := by
  have other {free : Slot} (unfilled : free ∉ history.slots) : free ≠ slot := by
    rintro rfl
    exact unfilled filled
  cases call with
  | pushPresence rule =>
      exact MessageHistory.override?_filled_of_ne (other follows.presence_free) true history
  | pushRule rule =>
      exact MessageHistory.override?_filled_of_ne (other follows.general_free) true history
  | attach rule site alternative =>
      rw [ValueCall.note]
      split
      · rfl
      · next free => exact MessageHistory.override?_filled_of_ne (other free) true history
  | install rule =>
      exact MessageHistory.override?_filled_of_ne (kept rule rfl).symm false history
  | message given => exact MessageHistory.override?_custom_of_ne (apart given rfl) given
  | defaultMessage given => exact MessageHistory.override?_default_of_custom (own given rfl) given
  | _ => rfl

/-- A call fills a slot that is free, unless it installs an entry in the place of another. -/
theorem nodup_note (follows : rules.Follows history) (nodup : history.slots.Nodup)
    {call : ValueCall} (free : ∀ rule, call = .install rule → .nested ∉ history.slots) :
    (call.note history).slots.Nodup := by
  cases call with
  | pushPresence rule => exact List.nodup_cons.mpr ⟨follows.presence_free, nodup⟩
  | pushRule rule => exact List.nodup_cons.mpr ⟨follows.general_free, nodup⟩
  | attach rule site alternative =>
      rw [ValueCall.note]
      split
      · exact nodup
      · next free => exact List.nodup_cons.mpr ⟨free, nodup⟩
  | install rule => exact List.nodup_cons.mpr ⟨free rule rfl, nodup⟩
  | _ => exact nodup

end ValueRules.Follows

namespace ValueCall

theorem runAll_concat (calls : List ValueCall) (call : ValueCall) (rules : ValueRules) :
    runAll (calls ++ [call]) rules = call.run (runAll calls rules) :=
  List.foldl_append

theorem history_concat (calls : List ValueCall) (call : ValueCall) :
    history (calls ++ [call]) = call.note (history calls) :=
  List.foldl_append

theorem InstallsOnce.nil : InstallsOnce [] := fun _ _ _ parts => absurd parts (by simp)

theorem InstallsOnce.of_concat {calls : List ValueCall} {call : ValueCall}
    (once : InstallsOnce (calls ++ [call])) : InstallsOnce calls := by
  rintro before rule after rfl
  exact once before rule (after ++ [call]) (by simp)

theorem InstallsOnce.concat {calls : List ValueCall} {call : ValueCall}
    (once : InstallsOnce calls)
    (free : ∀ rule, call = .install rule → .nested ∉ (history calls).slots) :
    InstallsOnce (calls ++ [call]) := by
  intro before rule after parts
  obtain rfl | ⟨others, last, rfl⟩ := List.eq_nil_or_concat after
  · obtain ⟨rfl, installs⟩ := List.append_inj' parts rfl
    exact free rule (List.singleton_inj.mp installs)
  · have split : calls ++ [call] = (before ++ .install rule :: others) ++ [last] := by
      simpa using parts
    exact once before rule others (List.append_inj' split rfl).1

theorem InstallsOnce.append {calls more : List ValueCall} (once : InstallsOnce calls)
    (plain : ∀ call ∈ more, call.installs = false) : InstallsOnce (calls ++ more) := by
  induction more generalizing calls with
  | nil => rwa [List.append_nil]
  | cons call rest ih =>
      have ⟨first, later⟩ := List.forall_mem_cons.mp plain
      have longer : InstallsOnce (calls ++ [call]) := by
        refine once.concat ?_
        rintro rule rfl
        cases first
      have all := ih longer later
      rwa [List.append_assoc] at all

/-- No slot is filled twice, so its entry is the one that was put there first. -/
theorem InstallsOnce.nodup {calls : List ValueCall} (once : InstallsOnce calls) :
    (history calls).slots.Nodup := by
  induction calls using List.reverseRecOn with
  | nil => exact List.nodup_nil
  | append_singleton calls call ih =>
      rw [history_concat]
      refine (ValueRules.Follows.runAll calls).nodup_note (ih once.of_concat) ?_
      rintro rule rfl
      exact once calls rule [] rfl

end ValueCall

/-! ### Declarations as calls -/

/-- The rules have been made by calls, and a nested rule was installed at most where there was
none. -/
def ValueRules.Called (rules : ValueRules) : Prop :=
  ∃ calls, ValueCall.InstallsOnce calls ∧ rules = ValueCall.runAll calls .empty

namespace ValueRules.Called

variable {rules : ValueRules}

theorem empty : ValueRules.empty.Called :=
  ⟨[], .nil, rfl⟩

theorem call (called : rules.Called) (call : ValueCall) (plain : call.installs = false) :
    (call.run rules).Called := by
  obtain ⟨calls, once, rfl⟩ := called
  have longer : ValueCall.InstallsOnce (calls ++ [call]) :=
    once.append (List.forall_mem_singleton.mpr plain)
  exact ⟨_, longer, (ValueCall.runAll_concat calls call .empty).symm⟩

/-- The rules of a collection property before anything is declared. -/
theorem collection (name : String) (accessor : Value → Logged Value) :
    (PropertyRules.newCollection name accessor).rules.Called := by
  have once : ValueCall.InstallsOnce ([] ++ [.install (.elements .empty)]) :=
    .concat .nil fun _ _ => List.not_mem_nil
  exact ⟨_, once, rfl⟩

theorem act (called : rules.Called) {step : ValueStep}
    (plain : step.Continues) : (step.run rules).value.Called := by
  cases step with
  | rule form =>
      simp only [ValueStep.run, Built.bind]
      cases form.build.value with
      | none => exact called
      | some rule => exact called.call (.pushRule rule) rfl
  | presence form =>
      simp only [ValueStep.run, Built.bind]
      cases form.build.value with
      | none => exact called
      | some rule => exact called.call (.pushPresence rule) rfl
  | contextual leaf => exact called.call (.pushRule (.contextual leaf)) rfl
  | required => exact called.call (.pushPresence .presence) rfl
  | message given => exact called.call (.message given) rfl
  | defaultMessage given => exact called.call (.defaultMessage given) rfl
  | nested steps => exact called.call (.attach (.value _) "value validator" "child_rules") rfl
  | attach form site alternative =>
      simp only [ValueStep.run, Built.bind]
      cases form.build.value with
      | none => exact called
      | some rule => exact called.call (.attach rule site alternative) rfl
  | allowEmpty => exact called.call .allowEmpty rfl
  | guard test => exact called.call (.guard test) rfl
  | mode chosen => exact called.call (.mode chosen) rfl
  | preprocess transform => exact called.call (.preprocess transform) rfl
  | inherit names => exact called.call (.inherit names) rfl
  | bind resolver => exact called.call (.bind resolver) rfl
  | info => exact called
  | scope | replace => exact plain.elim

end ValueRules.Called

mutual

theorem ValueStep.run_called (step : ValueStep) {rules : ValueRules} (called : rules.Called) :
    (step.run rules).value.Called := by
  cases step with
  | scope names steps fails =>
      simp only [run]
      cases names.required with
      | error error => exact called
      | ok sets =>
          have inside := runAll_called steps (called.call (.enter sets) rfl)
          exact inside.call (.leaveTo rules.stack.depth) rfl
  | replace steps => exact runAll_called steps .empty
  | _ => exact called.act trivial

theorem ValueStep.runAll_called (steps : List ValueStep) {rules : ValueRules}
    (called : rules.Called) : (runAll steps rules).value.Called := by
  cases steps with
  | nil => exact called
  | cons step rest => exact runAll_called rest (step.run_called called)

end

namespace ValueRules

/-- The message of an entry is the last one that was given while the entry was the one added last,
or else the last default that was given since the entry is there, or else there is none. The slot
that messages are meant for holds an entry; a call leaves all other messages as they are, and a
message that is given before an entry was added changes nothing. Each slot gets one entry, if a
nested one is installed only where there is none; all declarations see to that. -/
theorem messages_hit_their_entries :
    (∀ (calls : List ValueCall) (slot : Slot),
        ((ValueCall.runAll calls .empty).entryAt? slot).map RuleEntry.message =
          (ValueCall.history calls).override? slot) ∧
      (∀ calls : List ValueCall,
        (ValueCall.runAll calls .empty).last = (ValueCall.history calls).target? ∧
          ∀ slot, (ValueCall.history calls).target? = some slot →
            ((ValueCall.runAll calls .empty).entryAt? slot).isSome = true) ∧
      (∀ (calls : List ValueCall) (call : ValueCall), ∀ slot ∈ (ValueCall.history calls).slots,
        (∀ given, call = .message given → (ValueCall.history calls).target? ≠ some slot) →
          (∀ given, call = .defaultMessage given →
            ((ValueCall.history calls).custom? slot).isSome = true) →
          (∀ rule, call = .install rule → slot ≠ .nested) →
            ((ValueCall.runAll (calls ++ [call]) .empty).entryAt? slot).map RuleEntry.message =
              ((ValueCall.runAll calls .empty).entryAt? slot).map RuleEntry.message) ∧
      (∀ (calls : List ValueCall) (given : MessageOverride),
        (ValueCall.history calls).target? = none →
          ValueCall.runAll (calls ++ [.message given]) .empty = ValueCall.runAll calls .empty) ∧
      (∀ calls : List ValueCall, ValueCall.InstallsOnce calls →
        (ValueCall.history calls).slots.Nodup) ∧
      ∀ steps : List ValueStep, (ValueStep.runAll steps .empty).value.Called ∧
        ∀ (name : String) (accessor : Value → Logged Value),
          let property := PropertyRules.newCollection name accessor
          (ValueStep.runAll steps property.rules).value.Called := by
  refine ⟨fun calls => (Follows.runAll calls).override?, ?_, ?_, ?_, fun _ once => once.nodup, ?_⟩
  · intro calls
    have follows := Follows.runAll calls
    refine ⟨follows.last, fun slot target => ?_⟩
    exact follows.mem_slots_iff.mp (MessageHistory.mem_slots_of_target target)
  · intro calls call slot filled apart own kept
    have follows := Follows.runAll calls
    rw [(Follows.runAll (calls ++ [call])).override?, follows.override?, ValueCall.history_concat,
      follows.override?_note filled apart own kept]
  · intro calls given untargeted
    have last := (Follows.runAll calls).last.trans untargeted
    rw [ValueCall.runAll_concat]
    simp only [ValueCall.run, setLastMessage, modifyLast, last]
  · intro steps
    exact ⟨ValueStep.runAll_called steps .empty,
      fun name accessor => ValueStep.runAll_called steps (.collection name accessor)⟩

/-- A message without an entry, a refused attachment between two messages for the same entry, and a
default before a rule of a scope. -/
def mixedCalls : List ValueCall :=
  [.message (.literal "lost"), .install (.elements .empty), .pushPresence .presence,
    .message (.literal "first"), .attach .presence "value validator" "child_rules",
    .message (.literal "second"), .defaultMessage (.literal "default"), .enter ⟨["strict"]⟩,
    .pushRule .presence, .leaveTo 0]

theorem mixedCalls_messages :
    let message (calls : List ValueCall) (slot : Slot) : Option (Option MessageOverride) :=
      ((ValueCall.runAll calls .empty).entryAt? slot).map RuleEntry.message
    let late : List ValueCall := mixedCalls ++ [.defaultMessage (.literal "late")]
    message mixedCalls (.presence 0) = some (some (.literal "second")) ∧
      message mixedCalls .nested = some (some (.literal "default")) ∧
      message mixedCalls (.general 0) = some none ∧
      message late (.presence 0) = message mixedCalls (.presence 0) ∧
      message late (.general 0) = some (some (.literal "late")) ∧
      ValueCall.runAll ([] ++ [.message (.literal "lost")]) .empty = .empty ∧
      (ValueCall.history mixedCalls).slots.Nodup := by
  intro message late
  have ⟨messages, _, kept, unmeant, once, _⟩ := messages_hit_their_entries
  refine ⟨messages mixedCalls (.presence 0), messages mixedCalls .nested,
    messages mixedCalls (.general 0), ?_, messages late (.general 0), ?_, ?_⟩
  · exact kept mixedCalls (.defaultMessage (.literal "late")) (.presence 0) (by decide) nofun
      (fun _ _ => rfl) nofun
  · exact unmeant [] (.literal "lost") rfl
  · have begun : ValueCall.InstallsOnce ([.message (.literal "lost")] ++
        [.install (.elements .empty)]) :=
      .concat (.append .nil (by decide)) fun _ _ => List.not_mem_nil
    exact once mixedCalls (begun.append (by decide))

end ValueRules

end RuleTree
