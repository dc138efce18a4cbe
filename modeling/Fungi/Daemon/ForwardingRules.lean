import Fungi.Config.LocalPreferences
import Fungi.Daemon.ServiceSnapshots
import Fungi.Daemon.TcpTunneling
import Fungi.Lib.Fallible
import Fungi.Lib.OrderedMap

/-!
# Forwarding rules

The forwarding half of `crates/daemon/src/controls/tcp_tunneling`, as far as its callers see
it: a table of rules, each with the task that was spawned for it.  The task binds the local
address of the rule after the rule is in the table, and nobody reads what becomes of it.
-/

namespace Fungi.Daemon

open Fungi.Config Fungi.Lib Fungi.Runtime

/-- A local address and what it is forwarded to. -/
structure ForwardingRule where
  localHost : String
  localPort : UInt16
  remotePeerId : String
  remoteProtocol : Option String
  remotePort : Option UInt16
  remoteServiceId : Option String
  remoteServiceName : Option String
  remoteServicePortName : Option String
  deriving DecidableEq

/-- The task of a rule: not yet bound, accepting connections, or ended because its bind has
failed. -/
inductive ForwardingTask where
  | starting
  | running
  | ended
  deriving DecidableEq

/-- A rule and the task that serves it. -/
structure ForwardingRuleState where
  rule : ForwardingRule
  task : ForwardingTask
  deriving DecidableEq

/-- The forwarding rules by their ids. -/
abbrev ForwardingRules := BTreeMap String ForwardingRuleState

/-- The parsers of socket addresses and peer ids, with the text of their errors. -/
structure AddressParsers where
  socketAddr : String → Except String Unit
  peerId : String → Except String Unit

/-- Parsers of loopback addresses with a port, and of the ids of Ed25519 keys, which are 52
characters of the base58 alphabet that begin alike. -/
def AddressParsers.loopback : AddressParsers :=
  { socketAddr := fun text =>
      match (text.toList.drop 8).dropWhile Char.isDigit with
      | ':' :: port =>
          if "127.0.0.".toList <+: text.toList ∧ port ≠ [] ∧ port.all Char.isDigit then .ok ()
          else .error "invalid socket address syntax"
      | _ => .error "invalid socket address syntax"
    peerId := fun text =>
      if "12D3KooW".toList <+: text.toList ∧ text.length = 52 ∧
          text.toList.all (fun character =>
            character.isAlphanum && character ∉ ['0', 'I', 'O', 'l']) then .ok ()
      else .error "base-58 decode error" }

/-- The order in which a hash map lists its entries. -/
structure Arrangement where
  arrange : List (String × ForwardingRule) → List (String × ForwardingRule)
  perm : ∀ entries, (arrange entries).Perm entries

/-- Rules with one id lead from one local address to one protocol or port of a peer. -/
def generateForwardingRuleId (rule : ForwardingRule) : String :=
  match rule.remoteProtocol, rule.remotePort with
  | some remoteProtocol, _ =>
      s!"forward_{rule.localHost}:{rule.localPort}_to_{rule.remotePeerId}_" ++
        sanitizeRuleComponent remoteProtocol
  | none, some remotePort =>
      s!"forward_{rule.localHost}:{rule.localPort}_to_{rule.remotePeerId}_{remotePort}"
  | none, none =>
      s!"forward_{rule.localHost}:{rule.localPort}_to_{rule.remotePeerId}_missing-target"

/-- The protocol of a rule; a rule with a port only uses the tunnel protocol. -/
def targetProtocolName (rule : ForwardingRule) : Except Error String :=
  match rule.remoteProtocol, rule.remotePort with
  | some remoteProtocol, _ => .ok remoteProtocol
  | none, some remotePort => .ok s!"{fungiTunnelProtocol}/{remotePort}"
  | none, none =>
      .error (.message "Forwarding rule requires a remote protocol or remote port")

/-- What `add_forwarding_rule` asks of a rule before it spawns the task. -/
def checkForwardingRule (parsers : AddressParsers) (rule : ForwardingRule) : Except Error Unit :=
  match parsers.socketAddr s!"{rule.localHost}:{rule.localPort}" with
  | .error error => .error (.message s!"Invalid local socket address: {error}")
  | .ok () =>
      match parsers.peerId rule.remotePeerId with
      | .error error => .error (.message s!"Invalid peer ID: {error}")
      | .ok () => do
          let targetProtocol ← targetProtocolName rule
          if targetProtocol.toList.head? = some '/' then .ok ()
          else
            .error (.message
              "Invalid protocol: invalid protocol: string does not start with a forward slash")

namespace ForwardingRules

/-- A rule is added under its id, unless that id is taken or the rule cannot be parsed. -/
def addForwardingRule (self : ForwardingRules) (parsers : AddressParsers) (rule : ForwardingRule) :
    Except Error (String × ForwardingRules) :=
  let ruleId := generateForwardingRuleId rule
  if ruleId ∈ self then .error (.message s!"Forwarding rule already exists: {ruleId}")
  else do
    checkForwardingRule parsers rule
    .ok (ruleId, self.insert ruleId { rule, task := .starting })

/-- Take a rule out of the table. -/
def removeForwardingRule (self : ForwardingRules) (ruleId : String) :
    Except Error ForwardingRules :=
  if ruleId ∈ self then .ok (self.erase ruleId)
  else .error (.message s!"Forwarding rule not found: {ruleId}")

/-- The rules in the order that the hash map lists them. -/
def getForwardingRules (self : ForwardingRules) (order : Arrangement) :
    List (String × ForwardingRule) :=
  order.arrange (self.toList.map fun entry => (entry.1, entry.2.rule))

/-- The bind of a rule's task succeeds or fails. -/
def bind (self : ForwardingRules) (ruleId : String) (succeeds : Bool) : ForwardingRules :=
  match self[ruleId]? with
  | some state =>
      if state.task = .starting then
        self.insert ruleId { state with task := if succeeds then .running else .ended }
      else self
  | none => self

section Specs

variable {self next : ForwardingRules} {parsers : AddressParsers} {rule : ForwardingRule}
  {ruleId : String}

theorem addForwardingRule_eq_ok
    (added : self.addForwardingRule parsers rule = .ok (ruleId, next)) :
    ruleId = generateForwardingRuleId rule ∧ self[ruleId]? = none ∧
      next = self.insert ruleId { rule, task := .starting } := by
  unfold addForwardingRule at added
  dsimp only at added
  split at added
  · cases added
  · next absent =>
      obtain ⟨-, -, same⟩ := bind_eq_ok.mp added
      cases same
      exact ⟨rfl, Std.ExtTreeMap.getElem?_eq_none absent, rfl⟩

theorem removeForwardingRule_eq_ok (removed : self.removeForwardingRule ruleId = .ok next) :
    ruleId ∈ self ∧ next = self.erase ruleId := by
  unfold removeForwardingRule at removed
  split at removed
  · next present =>
      cases removed
      exact ⟨present, rfl⟩
  · cases removed

theorem removeForwardingRule_of_mem (present : ruleId ∈ self) :
    self.removeForwardingRule ruleId = .ok (self.erase ruleId) :=
  if_pos present

theorem mem_getForwardingRules {order : Arrangement} :
    (ruleId, rule) ∈ self.getForwardingRules order ↔
      ∃ task, self[ruleId]? = some { rule, task } := by
  unfold getForwardingRules
  rw [(order.perm _).mem_iff, List.mem_map]
  constructor
  · rintro ⟨⟨found, rule, task⟩, member, same⟩
    cases same
    exact ⟨task, Std.ExtTreeMap.mem_toList_iff_getElem?_eq_some.mp member⟩
  · rintro ⟨task, found⟩
    exact ⟨(ruleId, { rule, task }), Std.ExtTreeMap.mem_toList_iff_getElem?_eq_some.mpr found, rfl⟩

/-- No rule is listed twice. -/
theorem nodup_getForwardingRules (self : ForwardingRules) (order : Arrangement) :
    ((self.getForwardingRules order).map (·.1)).Nodup := by
  unfold getForwardingRules
  rw [((order.perm _).map _).nodup_iff, List.map_map]
  exact (sortedKeys_toList self).nodup_keys

theorem getElem?_of_erase {found : String} {state : ForwardingRuleState}
    (present : (self.erase ruleId)[found]? = some state) :
    found ≠ ruleId ∧ self[found]? = some state := by
  rw [getElem?_erase] at present
  split at present
  · cases present
  · next different => exact ⟨fun same => different same.symm, present⟩

theorem erase_of_not_mem (absent : ruleId ∉ self) : self.erase ruleId = self := by
  apply Std.ExtTreeMap.ext_getElem?
  intro found
  rw [getElem?_erase]
  split
  · next same => rw [← same, Std.ExtTreeMap.getElem?_eq_none absent]
  · rfl

/-- Taking a rule out again leaves the table as it was. -/
theorem erase_insert {state : ForwardingRuleState} (absent : self[ruleId]? = none) :
    (self.insert ruleId state).erase ruleId = self := by
  apply Std.ExtTreeMap.ext_getElem?
  intro found
  rw [getElem?_erase, getElem?_insert]
  split
  · next same => rw [← same, absent]
  · rfl

/-- A bind changes the task of one rule, and no rule. -/
theorem getElem?_bind {succeeds : Bool} {found : String} {state : ForwardingRuleState} :
    (self.bind ruleId succeeds)[found]? = some state →
      ∃ before, self[found]? = some before ∧ before.rule = state.rule ∧
        (before.task = state.task ∨ found = ruleId ∧ before.task = .starting ∧
          state.task = if succeeds then .running else .ended) := by
  intro present
  unfold bind at present
  split at present
  · next before existing =>
      split at present
      · next starting =>
        rw [getElem?_insert] at present
        split at present
        · next same =>
            cases present
            exact ⟨before, same ▸ existing, rfl, Or.inr ⟨same.symm, starting, rfl⟩⟩
        · exact ⟨state, present, rfl, Or.inl rfl⟩
      · exact ⟨state, present, rfl, Or.inl rfl⟩
  · exact ⟨state, present, rfl, Or.inl rfl⟩

theorem mem_bind {succeeds : Bool} {found : String} :
    found ∈ self.bind ruleId succeeds ↔ found ∈ self := by
  unfold bind
  split
  · next state existing =>
      split
      · rw [Std.ExtTreeMap.mem_insert]
        constructor
        · intro either
          rcases either with same | before
          · rw [← compare_eq_iff_eq.mp same]
            exact Std.ExtTreeMap.mem_iff_isSome_getElem?.mpr (existing ▸ rfl)
          · exact before
        · exact Or.inr
      · rfl
  · rfl

end Specs

/-- Each rule of the one table is in the other under the same id, whatever its task. -/
def Within (fewer rules : ForwardingRules) : Prop :=
  ∀ (ruleId : String) (state : ForwardingRuleState), fewer[ruleId]? = some state →
    ∃ existing : ForwardingRuleState, rules[ruleId]? = some existing ∧ existing.rule = state.rule

theorem erase_within (rules : ForwardingRules) (ruleId : String) :
    Within (rules.erase ruleId) rules := by
  intro found state present
  exact ⟨state, (getElem?_of_erase present).2, rfl⟩

theorem bind_within (rules : ForwardingRules) (ruleId : String) (succeeds : Bool) :
    (rules.bind ruleId succeeds).Within rules := by
  intro found state present
  obtain ⟨before, existing, same, -⟩ := getElem?_bind present
  exact ⟨before, existing, same⟩

theorem within_bind (rules : ForwardingRules) (ruleId : String) (succeeds : Bool) :
    rules.Within (rules.bind ruleId succeeds) := by
  intro found state present
  have stays : found ∈ rules.bind ruleId succeeds :=
    mem_bind.mpr (Std.ExtTreeMap.mem_iff_isSome_getElem?.mpr (present ▸ rfl))
  obtain ⟨after, existing⟩ := Option.isSome_iff_exists.mp
    (Std.ExtTreeMap.mem_iff_isSome_getElem?.mp stays)
  obtain ⟨before, same, sameRule, -⟩ := getElem?_bind existing
  rw [present] at same
  cases same
  exact ⟨after, existing, sameRule.symm⟩

theorem Within.erase {fewer rules : ForwardingRules} (within : fewer.Within rules)
    (ruleId : String) :
    Within (fewer.erase ruleId) (rules.erase ruleId) := by
  intro found state present
  obtain ⟨different, before⟩ := getElem?_of_erase present
  obtain ⟨existing, inTable, same⟩ := within found state before
  refine ⟨existing, ?_, same⟩
  rw [getElem?_erase, if_neg (Ne.symm different)]
  exact inTable

end ForwardingRules

/-! ## Rules of service accesses -/

/-- A rule of a service access names its service and its entry. -/
def ensureServiceAccessRule (rule : ForwardingRule) : Except Error Unit :=
  if rule.remoteServiceName.all (· = "") ∨ rule.remoteServicePortName.all (· = "") then
    .error (.message "service access forwarding rules require remote service metadata")
  else .ok ()

/-- The rule is one of the entry of a remote service. -/
def ForwardingRule.IsFor (rule : ForwardingRule) (identity : String × String × String) : Prop :=
  rule.remotePeerId = identity.1 ∧ rule.remoteServiceName = some identity.2.1 ∧
    rule.remoteServicePortName = some identity.2.2

/-- The local address of a rule. -/
def ForwardingRule.address (rule : ForwardingRule) : String × UInt16 :=
  (rule.localHost, rule.localPort)

instance (rule : ForwardingRule) (identity : String × String × String) :
    Decidable (rule.IsFor identity) :=
  inferInstanceAs (Decidable (_ ∧ _ ∧ _))

theorem ForwardingRule.IsFor.unique {rule : ForwardingRule}
    {left right : String × String × String} (isLeft : rule.IsFor left)
    (isRight : rule.IsFor right) : left = right := by
  apply Prod.ext (isLeft.1.symm.trans isRight.1)
  apply Prod.ext
  · exact Option.some.inj (isLeft.2.1.symm.trans isRight.2.1)
  · exact Option.some.inj (isLeft.2.2.symm.trans isRight.2.2)

/-- The rule belongs to the service. -/
def ForwardingRule.OfService (rule : ForwardingRule) (peerId serviceName : String) : Prop :=
  rule.remotePeerId = peerId ∧ rule.remoteServiceName = some serviceName

theorem ForwardingRule.IsFor.ofService {rule : ForwardingRule} {record : LocalServicePreference}
    (isFor : rule.IsFor record.identity) :
    rule.OfService record.remotePeerId record.remoteServiceName :=
  ⟨isFor.1, isFor.2.1⟩

/-- The first active rule of an endpoint. -/
def findActiveRule (activeRules : List (String × ForwardingRule))
    (identity : String × String × String) : Option (String × ForwardingRule) :=
  activeRules.find? (·.2.IsFor identity)

/-- The rule that `start_forwarding_rule` adds for a record. -/
def recordRule (record : LocalServicePreference) (remoteProtocol : String) : ForwardingRule :=
  { localHost := record.localHost
    localPort := record.localPort
    remotePeerId := record.remotePeerId
    remoteProtocol := some remoteProtocol
    remotePort := none
    remoteServiceId := none
    remoteServiceName := some record.remoteServiceName
    remoteServicePortName := some record.remoteServicePortName }

/-- Add the rule of a record. -/
def startForwardingRule (rules : ForwardingRules) (parsers : AddressParsers)
    (record : LocalServicePreference) (remoteProtocol : String) :
    Except Error (String × ForwardingRules) := do
  ensureServiceAccessRule (recordRule record remoteProtocol)
  rules.addForwardingRule parsers (recordRule record remoteProtocol)

theorem recordRule_isFor (record : LocalServicePreference) (remoteProtocol : String)
    (identity : String × String × String) :
    (recordRule record remoteProtocol).IsFor identity ↔ record.identity = identity := by
  unfold ForwardingRule.IsFor recordRule LocalServicePreference.identity
  rw [Prod.ext_iff, Prod.ext_iff]
  simp

theorem startForwardingRule_eq_ok {rules next : ForwardingRules} {parsers : AddressParsers}
    {record : LocalServicePreference} {remoteProtocol ruleId : String}
    (started : startForwardingRule rules parsers record remoteProtocol = .ok (ruleId, next)) :
    rules[ruleId]? = none ∧ next =
      rules.insert ruleId { rule := recordRule record remoteProtocol, task := .starting } := by
  obtain ⟨-, -, added⟩ := bind_eq_ok.mp started
  exact (ForwardingRules.addForwardingRule_eq_ok added).2

theorem findActiveRule_eq_some {activeRules : List (String × ForwardingRule)}
    {identity : String × String × String} {found : String × ForwardingRule}
    (search : findActiveRule activeRules identity = some found) :
    found ∈ activeRules ∧ found.2.IsFor identity :=
  ⟨List.mem_of_find?_eq_some search, by simpa using List.find?_some search⟩

theorem findActiveRule_eq_none {activeRules : List (String × ForwardingRule)}
    {identity : String × String × String} (search : findActiveRule activeRules identity = none)
    {found : String × ForwardingRule} (member : found ∈ activeRules) :
    ¬ found.2.IsFor identity := by
  have every := List.find?_eq_none.mp search found member
  simpa using every

end Fungi.Daemon
