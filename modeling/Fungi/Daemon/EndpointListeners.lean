import Fungi.Daemon.ServiceEndpoints

/-!
# Endpoint listeners

What a synchronisation that succeeds does to the set of protocols and local ports that are
listened on: enabling a manifest adds its endpoints, disabling it takes them away.
-/

namespace Fungi.Daemon

open Fungi.Lib Fungi.Config Fungi.Runtime

/-- A listening rule forwards the protocol to the local port. -/
def Listens (tunneling : TcpTunnelingControl) (protocol : String) (port : UInt16) : Prop :=
  ∃ (ruleId : String) (rule : ListeningRule), tunneling.listeningRules[ruleId]? = some rule ∧
    rule.port = port ∧ rule.protocol = some protocol

/-- One of the endpoints has the protocol and the host port. -/
def ExposedBy (endpoints : List ServiceExposeEndpointBinding) (protocol : String)
    (port : UInt16) : Prop :=
  ∃ endpoint ∈ endpoints, endpoint.protocol = protocol ∧ endpoint.hostPort = port

instance (endpoints : List ServiceExposeEndpointBinding) (protocol : String) (port : UInt16) :
    Decidable (ExposedBy endpoints protocol port) :=
  inferInstanceAs (Decidable (∃ endpoint ∈ endpoints,
    endpoint.protocol = protocol ∧ endpoint.hostPort = port))

/-- The manifest has an endpoint of the protocol and the host port. -/
abbrev Exposes (manifest : ServiceManifest) (protocol : String) (port : UInt16) : Prop :=
  ExposedBy (serviceExposeEndpointBindings manifest) protocol port

theorem exposedBy_cons {endpoint : ServiceExposeEndpointBinding}
    {rest : List ServiceExposeEndpointBinding} {protocol : String} {port : UInt16} :
    ExposedBy (endpoint :: rest) protocol port ↔
      (endpoint.protocol = protocol ∧ endpoint.hostPort = port) ∨
        ExposedBy rest protocol port := by
  unfold ExposedBy
  simp only [List.mem_cons, exists_eq_or_imp]

/-- The registry admits one listener for each protocol, so no two rules share one. -/
structure OneListenerEach (tunneling : TcpTunnelingControl) : Prop where
  registered : ∀ (ruleId : String) (rule : ListeningRule),
    tunneling.listeningRules[ruleId]? = some rule →
    ∃ protocol, listeningProtocol rule = .ok protocol ∧ protocol ∈ tunneling.listeners
  apart : ∀ (left right : String) (leftRule rightRule : ListeningRule) (protocol : String),
    tunneling.listeningRules[left]? = some leftRule →
    tunneling.listeningRules[right]? = some rightRule →
    listeningProtocol leftRule = .ok protocol → listeningProtocol rightRule = .ok protocol →
    left = right

theorem oneListenerEach_new : OneListenerEach .new := by
  constructor
  · intro ruleId rule present
    simp [TcpTunnelingControl.new] at present
  · intro left right leftRule rightRule protocol present
    simp [TcpTunnelingControl.new] at present

theorem listeningProtocol_eq_ok {rule : ListeningRule} {protocol registered : String}
    (named : rule.protocol = some protocol) (valid : listeningProtocol rule = .ok registered) :
    registered = protocol := by
  unfold listeningProtocol at valid
  rw [named] at valid
  dsimp only [Option.getD_some] at valid
  split at valid
  · cases valid
  · cases valid
    rfl

section Steps

variable {tunneling next : TcpTunnelingControl} {rule : ListeningRule} {ruleId : String}

theorem addListeningRule_spec (added : tunneling.addListeningRule rule = .ok next) :
    ∃ protocol, listeningProtocol rule = .ok protocol ∧
      tunneling.listeningRules[generateListeningRuleId rule]? = none ∧
      protocol ∉ tunneling.listeners ∧
      next = { listeningRules := tunneling.listeningRules.insert (generateListeningRuleId rule) rule
               listeners := tunneling.listeners.insert protocol (rule.host, rule.port) } := by
  unfold TcpTunnelingControl.addListeningRule at added
  dsimp only at added
  split at added
  · cases added
  · next absent =>
      split at added
      · cases added
      · next protocol valid =>
          split at added
          · cases added
          · next unregistered =>
              cases added
              exact ⟨protocol, valid, Std.ExtTreeMap.getElem?_eq_none absent, unregistered, rfl⟩

theorem removeListeningRule_spec
    (removed : tunneling.removeListeningRule ruleId = (next, .ok ())) :
    ∃ rule protocol, tunneling.listeningRules[ruleId]? = some rule ∧
      listeningProtocol rule = .ok protocol ∧
      next = { listeningRules := tunneling.listeningRules.erase ruleId
               listeners := tunneling.listeners.erase protocol } := by
  unfold TcpTunnelingControl.removeListeningRule at removed
  split at removed
  · cases removed
  · next rule present =>
      dsimp only at removed
      split at removed
      · cases removed
      · next protocol valid =>
          cases removed
          exact ⟨rule, protocol, present, valid, rfl⟩

theorem OneListenerEach.add (one : OneListenerEach tunneling)
    (added : tunneling.addListeningRule rule = .ok next) : OneListenerEach next := by
  obtain ⟨protocol, valid, -, unregistered, rfl⟩ := addListeningRule_spec added
  have fresh : ∀ (ruleId : String) (other : ListeningRule),
      tunneling.listeningRules[ruleId]? = some other → listeningProtocol other ≠ .ok protocol := by
    intro ruleId other present same
    obtain ⟨registered, validOther, listed⟩ := one.registered ruleId other present
    rw [same] at validOther
    cases validOther
    exact unregistered listed
  constructor
  · intro ruleId other present
    rw [getElem?_insert] at present
    split at present
    · cases present
      exact ⟨protocol, valid, Std.ExtTreeMap.mem_insert_self⟩
    · obtain ⟨registered, validOther, listed⟩ := one.registered ruleId other present
      exact ⟨registered, validOther, Std.ExtTreeMap.mem_insert.mpr (Or.inr listed)⟩
  · intro left right leftRule rightRule shared leftPresent rightPresent leftValid rightValid
    rw [getElem?_insert] at leftPresent rightPresent
    split at leftPresent
    · next leftNew =>
        split at rightPresent
        · next rightNew => exact leftNew.symm.trans rightNew
        · cases leftPresent
          rw [valid] at leftValid
          cases leftValid
          exact absurd rightValid (fresh right rightRule rightPresent)
    · split at rightPresent
      · cases rightPresent
        rw [valid] at rightValid
        cases rightValid
        exact absurd leftValid (fresh left leftRule leftPresent)
      · exact one.apart left right leftRule rightRule shared leftPresent rightPresent leftValid
          rightValid

theorem listens_add {protocol : String} {port : UInt16}
    (added : tunneling.addListeningRule rule = .ok next) :
    Listens next protocol port ↔
      Listens tunneling protocol port ∨ rule.port = port ∧ rule.protocol = some protocol := by
  obtain ⟨_, -, absent, -, rfl⟩ := addListeningRule_spec added
  constructor
  · intro listens
    obtain ⟨ruleId, other, present, samePort, named⟩ := listens
    rw [getElem?_insert] at present
    split at present
    · cases present
      exact Or.inr ⟨samePort, named⟩
    · exact Or.inl ⟨ruleId, other, present, samePort, named⟩
  · intro either
    rcases either with listens | new
    · obtain ⟨ruleId, other, present, samePort, named⟩ := listens
      refine ⟨ruleId, other, ?_, samePort, named⟩
      rw [getElem?_insert, if_neg]
      · exact present
      · intro same
        rw [same, present] at absent
        cases absent
    · exact ⟨generateListeningRuleId rule, rule, Std.ExtTreeMap.getElem?_insert_self, new⟩

theorem OneListenerEach.remove (one : OneListenerEach tunneling)
    (removed : tunneling.removeListeningRule ruleId = (next, .ok ())) : OneListenerEach next := by
  obtain ⟨rule, protocol, present, valid, rfl⟩ := removeListeningRule_spec removed
  constructor
  · intro found other inTable
    rw [getElem?_erase] at inTable
    split at inTable
    · cases inTable
    · next different =>
        obtain ⟨registered, validOther, listed⟩ := one.registered found other inTable
        refine ⟨registered, validOther, Std.ExtTreeMap.mem_erase.mpr ⟨?_, listed⟩⟩
        intro same
        rw [compare_eq_iff_eq] at same
        subst same
        exact different
          (one.apart ruleId found rule other protocol present inTable valid validOther)
  · intro left right leftRule rightRule shared leftPresent rightPresent
    rw [getElem?_erase] at leftPresent rightPresent
    split at leftPresent
    · cases leftPresent
    · split at rightPresent
      · cases rightPresent
      · exact one.apart left right leftRule rightRule shared leftPresent rightPresent

/-- Removing a rule takes its protocol away, since no other rule has it. -/
theorem listens_remove {protocol removedProtocol : String} {port : UInt16}
    (one : OneListenerEach tunneling)
    (removed : tunneling.removeListeningRule ruleId = (next, .ok ()))
    (present : tunneling.listeningRules[ruleId]? = some rule)
    (named : rule.protocol = some removedProtocol) :
    Listens next protocol port ↔ Listens tunneling protocol port ∧ protocol ≠ removedProtocol := by
  obtain ⟨same, registered, found, valid, rfl⟩ := removeListeningRule_spec removed
  rw [present] at found
  cases found
  have isRemoved := listeningProtocol_eq_ok named valid
  subst isRemoved
  constructor
  · intro listens
    obtain ⟨other, otherRule, inTable, samePort, otherNamed⟩ := listens
    rw [getElem?_erase] at inTable
    split at inTable
    · cases inTable
    · next different =>
        refine ⟨⟨other, otherRule, inTable, samePort, otherNamed⟩, ?_⟩
        intro sameProtocol
        obtain ⟨otherRegistered, otherValid, -⟩ := one.registered other otherRule inTable
        have isOther := listeningProtocol_eq_ok otherNamed otherValid
        rw [isOther, sameProtocol] at otherValid
        exact different (one.apart ruleId other rule otherRule registered present inTable valid
          otherValid)
  · intro both
    obtain ⟨⟨other, otherRule, inTable, samePort, otherNamed⟩, different⟩ := both
    refine ⟨other, otherRule, ?_, samePort, otherNamed⟩
    rw [getElem?_erase, if_neg]
    · exact inTable
    · intro isSame
      rw [← isSame, present] at inTable
      cases inTable
      rw [named] at otherNamed
      exact different (Option.some.inj otherNamed).symm

end Steps

/-! ## One synchronisation -/

section Sync

variable {tunneling next : TcpTunnelingControl} {rules : BTreeMap String ListeningRule}
  {endpoint : ServiceExposeEndpointBinding} {endpoints : List ServiceExposeEndpointBinding}

theorem existingRuleId_eq_some {ruleId : String}
    (existing : existingRuleId rules endpoint = some ruleId) :
    ∃ rule : ListeningRule, rules[ruleId]? = some rule ∧ rule.port = endpoint.hostPort ∧
      rule.protocol = some endpoint.protocol := by
  obtain ⟨⟨found, rule⟩, search, same⟩ := Option.map_eq_some_iff.mp existing
  cases same
  refine ⟨rule, Std.ExtTreeMap.mem_toList_iff_getElem?_eq_some.mp
    (List.mem_of_find?_eq_some search), ?_⟩
  simpa using List.find?_some search

theorem existingRuleId_eq_none (absent : existingRuleId rules endpoint = none) {ruleId : String}
    {rule : ListeningRule} (present : rules[ruleId]? = some rule) :
    ¬ (rule.port = endpoint.hostPort ∧ rule.protocol = some endpoint.protocol) := by
  have every := List.find?_eq_none.mp (Option.map_eq_none_iff.mp absent) (ruleId, rule)
    (Std.ExtTreeMap.mem_toList_iff_getElem?_eq_some.mpr present)
  simpa using every

/-- The loop that enables endpoints: `rules` are still in the table, since it only adds. -/
theorem syncEndpoints_enabled (one : OneListenerEach tunneling)
    (read : ∀ (ruleId : String) (rule : ListeningRule), rules[ruleId]? = some rule →
      tunneling.listeningRules[ruleId]? = some rule)
    (synced : syncEndpoints rules true endpoints tunneling = (next, .ok ())) :
    OneListenerEach next ∧ ∀ protocol port, Listens next protocol port ↔
      Listens tunneling protocol port ∨ ExposedBy endpoints protocol port := by
  induction endpoints generalizing tunneling with
  | nil =>
      cases synced
      refine ⟨one, ?_⟩
      intro protocol port
      simp [ExposedBy]
  | cons endpoint rest inductionHypothesis =>
      unfold syncEndpoints at synced
      split at synced
      · split at synced
        · cases synced
        · next middle added =>
            have readOn : ∀ (ruleId : String) (rule : ListeningRule),
                rules[ruleId]? = some rule → middle.listeningRules[ruleId]? = some rule := by
              intro ruleId rule present
              obtain ⟨_, -, absent, -, rfl⟩ := addListeningRule_spec added
              rw [getElem?_insert, if_neg]
              · exact read ruleId rule present
              · intro same
                rw [same, read ruleId rule present] at absent
                cases absent
            obtain ⟨oneNext, listens⟩ := inductionHypothesis (one.add added) readOn synced
            refine ⟨oneNext, ?_⟩
            intro protocol port
            rw [listens, listens_add added, exposedBy_cons, or_assoc]
            dsimp only [endpointRule]
            rw [Option.some.injEq, and_comm (a := endpoint.hostPort = port)]
      · next impossible => cases impossible
      · next notAbsent _ =>
          obtain ⟨oneNext, listens⟩ := inductionHypothesis one read synced
          refine ⟨oneNext, ?_⟩
          intro protocol port
          rw [listens, exposedBy_cons, ← or_assoc]
          apply or_congr_left
          constructor
          · exact Or.inl
          · intro either
            rcases either with already | ⟨sameProtocol, samePort⟩
            · exact already
            · cases existing : existingRuleId rules endpoint with
              | none => exact absurd rfl (notAbsent existing)
              | some ruleId =>
                  obtain ⟨rule, present, port', named⟩ := existingRuleId_eq_some existing
                  exact ⟨ruleId, rule, read ruleId rule present, port'.trans samePort,
                    named.trans (congrArg some sameProtocol)⟩

/-- The loop that disables endpoints: the table has no rule that was not read, since it only
removes. -/
theorem syncEndpoints_disabled (one : OneListenerEach tunneling)
    (read : ∀ (ruleId : String) (rule : ListeningRule),
      tunneling.listeningRules[ruleId]? = some rule → rules[ruleId]? = some rule)
    (synced : syncEndpoints rules false endpoints tunneling = (next, .ok ())) :
    OneListenerEach next ∧ ∀ protocol port, Listens next protocol port ↔
      Listens tunneling protocol port ∧ ¬ ExposedBy endpoints protocol port := by
  induction endpoints generalizing tunneling with
  | nil =>
      cases synced
      refine ⟨one, ?_⟩
      intro protocol port
      simp [ExposedBy]
  | cons endpoint rest inductionHypothesis =>
      unfold syncEndpoints at synced
      split at synced
      · next impossible => cases impossible
      · next ruleId existing _ =>
          split at synced
          · cases synced
          · next middle removed =>
              obtain ⟨rule, _, present, _, erased⟩ := removeListeningRule_spec removed
              obtain ⟨same, wasRead, port', named⟩ := existingRuleId_eq_some existing
              rw [read ruleId rule present] at wasRead
              cases wasRead
              have readOn : ∀ (found : String) (other : ListeningRule),
                  middle.listeningRules[found]? = some other → rules[found]? = some other := by
                intro found other inTable
                rw [erased, getElem?_erase] at inTable
                split at inTable
                · cases inTable
                · exact read found other inTable
              obtain ⟨oneNext, listens⟩ := inductionHypothesis (one.remove removed) readOn synced
              refine ⟨oneNext, ?_⟩
              intro protocol port
              rw [listens, listens_remove one removed present named, exposedBy_cons, not_or,
                and_assoc]
              apply and_congr_right
              intro listening
              apply and_congr_left
              intro _
              constructor
              · intro different both
                exact different both.1.symm
              · intro notBoth same
                apply notBoth
                refine ⟨same.symm, ?_⟩
                -- the only rule of this protocol is the one of the endpoint
                subst same
                obtain ⟨other, otherRule, inTable, samePort, otherNamed⟩ := listening
                obtain ⟨registered, valid, -⟩ := one.registered ruleId rule present
                obtain ⟨otherRegistered, otherValid, -⟩ := one.registered other otherRule inTable
                rw [listeningProtocol_eq_ok named valid] at valid
                rw [listeningProtocol_eq_ok otherNamed otherValid] at otherValid
                have sameId := one.apart ruleId other rule otherRule _ present inTable valid
                  otherValid
                rw [← sameId, present] at inTable
                cases inTable
                exact port'.symm.trans samePort
      · next notEnabled notExisting =>
          obtain ⟨oneNext, listens⟩ := inductionHypothesis one read synced
          refine ⟨oneNext, ?_⟩
          intro protocol port
          rw [listens, exposedBy_cons, not_or, ← and_assoc]
          apply and_congr_left
          intro _
          constructor
          · intro listening
            refine ⟨listening, ?_⟩
            intro both
            obtain ⟨ruleId, rule, present, samePort, named⟩ := listening
            cases existing : existingRuleId rules endpoint with
            | none =>
                apply existingRuleId_eq_none existing (read ruleId rule present)
                exact ⟨samePort.trans both.2.symm, named.trans (congrArg some both.1.symm)⟩
            | some found => exact notExisting found existing rfl
          · exact And.left

theorem sync_enabled {manifest : ServiceManifest} (one : OneListenerEach tunneling)
    (synced : syncServiceEndpointListenersForManifest tunneling (some manifest) true =
      (next, .ok ())) :
    OneListenerEach next ∧ ∀ protocol port, Listens next protocol port ↔
      Listens tunneling protocol port ∨ Exposes manifest protocol port :=
  syncEndpoints_enabled one (fun _ _ present => present) synced

theorem sync_disabled {manifest : ServiceManifest} (one : OneListenerEach tunneling)
    (synced : syncServiceEndpointListenersForManifest tunneling (some manifest) false =
      (next, .ok ())) :
    OneListenerEach next ∧ ∀ protocol port, Listens next protocol port ↔
      Listens tunneling protocol port ∧ ¬ Exposes manifest protocol port :=
  syncEndpoints_disabled one (fun _ _ present => present) synced

/-! ## Synchronisations that succeed -/

theorem listeningProtocol_of_mem {manifest : ServiceManifest}
    (membership : endpoint ∈ serviceExposeEndpointBindings manifest) :
    listeningProtocol (endpointRule endpoint) = .ok endpoint.protocol :=
  @listeningProtocol_endpointRule Unit (fun _ => manifest) _ ⟨(), membership⟩

/-- No two of the endpoints share a protocol or the id of their rules. -/
def Distinct (endpoints : List ServiceExposeEndpointBinding) : Prop :=
  endpoints.Pairwise fun left right => left.protocol ≠ right.protocol ∧
    generateListeningRuleId (endpointRule left) ≠ generateListeningRuleId (endpointRule right)

instance (endpoints : List ServiceExposeEndpointBinding) : Decidable (Distinct endpoints) :=
  inferInstanceAs (Decidable (endpoints.Pairwise _))

/-- The endpoint is listened for, or nothing else has its protocol or the id of its rule. -/
def IsFree (rules : BTreeMap String ListeningRule) (tunneling : TcpTunnelingControl)
    (endpoint : ServiceExposeEndpointBinding) : Prop :=
  existingRuleId rules endpoint = none →
    generateListeningRuleId (endpointRule endpoint) ∉ tunneling.listeningRules ∧
      endpoint.protocol ∉ tunneling.listeners

instance (rules : BTreeMap String ListeningRule) (tunneling : TcpTunnelingControl)
    (endpoint : ServiceExposeEndpointBinding) : Decidable (IsFree rules tunneling endpoint) :=
  inferInstanceAs (Decidable (_ → _))

/-- The listeners of the manifest can be enabled. -/
structure HasRoom (tunneling : TcpTunnelingControl) (manifest : ServiceManifest) : Prop where
  distinct : Distinct (serviceExposeEndpointBindings manifest)
  free : ∀ endpoint ∈ serviceExposeEndpointBindings manifest,
    IsFree tunneling.listeningRules tunneling endpoint

theorem hasRoom_iff {manifest : ServiceManifest} : HasRoom tunneling manifest ↔
    Distinct (serviceExposeEndpointBindings manifest) ∧
      ∀ endpoint ∈ serviceExposeEndpointBindings manifest,
        IsFree tunneling.listeningRules tunneling endpoint :=
  ⟨fun room => ⟨room.distinct, room.free⟩, fun both => ⟨both.1, both.2⟩⟩

instance (tunneling : TcpTunnelingControl) (manifest : ServiceManifest) :
    Decidable (HasRoom tunneling manifest) :=
  decidable_of_iff _ hasRoom_iff.symm

theorem syncEndpoints_enabled_succeeds
    (valid : ∀ endpoint ∈ endpoints,
      listeningProtocol (endpointRule endpoint) = .ok endpoint.protocol)
    (distinct : Distinct endpoints)
    (free : ∀ endpoint ∈ endpoints, IsFree rules tunneling endpoint) :
    (syncEndpoints rules true endpoints tunneling).2 = .ok () := by
  induction endpoints generalizing tunneling with
  | nil => rfl
  | cons endpoint rest inductionHypothesis =>
      obtain ⟨apart, distinctRest⟩ := List.pairwise_cons.mp distinct
      have validRest : ∀ endpoint ∈ rest,
          listeningProtocol (endpointRule endpoint) = .ok endpoint.protocol := by
        intro other membership
        exact valid other (List.mem_cons_of_mem _ membership)
      unfold syncEndpoints
      cases existing : existingRuleId rules endpoint with
      | some ruleId =>
          apply inductionHypothesis validRest distinctRest
          intro other membership
          exact free other (List.mem_cons_of_mem _ membership)
      | none =>
          obtain ⟨newId, newProtocol⟩ := free endpoint List.mem_cons_self existing
          have added : tunneling.addListeningRule (endpointRule endpoint) = .ok
              { listeningRules := tunneling.listeningRules.insert
                  (generateListeningRuleId (endpointRule endpoint)) (endpointRule endpoint)
                listeners := tunneling.listeners.insert endpoint.protocol
                  ((endpointRule endpoint).host, (endpointRule endpoint).port) } := by
            unfold TcpTunnelingControl.addListeningRule
            dsimp only
            rw [if_neg newId, valid endpoint List.mem_cons_self]
            dsimp only
            rw [if_neg newProtocol]
          dsimp only
          rw [added]
          apply inductionHypothesis validRest distinctRest
          intro other membership absent
          obtain ⟨freeId, freeProtocol⟩ := free other (List.mem_cons_of_mem _ membership) absent
          obtain ⟨otherProtocol, otherId⟩ := apart other membership
          constructor
          · rw [Std.ExtTreeMap.mem_insert, not_or, compare_eq_iff_eq]
            exact ⟨otherId, freeId⟩
          · rw [Std.ExtTreeMap.mem_insert, not_or, compare_eq_iff_eq]
            exact ⟨otherProtocol, freeProtocol⟩

theorem removeListeningRule_of_present {rule : ListeningRule} {ruleId : String}
    (one : OneListenerEach tunneling) (present : tunneling.listeningRules[ruleId]? = some rule) :
    ∃ protocol, tunneling.removeListeningRule ruleId =
      ({ listeningRules := tunneling.listeningRules.erase ruleId
         listeners := tunneling.listeners.erase protocol }, .ok ()) := by
  obtain ⟨protocol, valid, -⟩ := one.registered ruleId rule present
  refine ⟨protocol, ?_⟩
  unfold TcpTunnelingControl.removeListeningRule
  rw [present]
  dsimp only
  rw [valid]

theorem syncEndpoints_disabled_succeeds (one : OneListenerEach tunneling)
    (read : ∀ endpoint ∈ endpoints, ∀ ruleId, existingRuleId rules endpoint = some ruleId →
      ∃ rule, tunneling.listeningRules[ruleId]? = some rule)
    (apart : endpoints.Pairwise fun left right => ∀ ruleId,
      existingRuleId rules left = some ruleId → existingRuleId rules right ≠ some ruleId) :
    (syncEndpoints rules false endpoints tunneling).2 = .ok () := by
  induction endpoints generalizing tunneling with
  | nil => rfl
  | cons endpoint rest inductionHypothesis =>
      obtain ⟨others, apartRest⟩ := List.pairwise_cons.mp apart
      have readRest : ∀ endpoint ∈ rest, ∀ ruleId, existingRuleId rules endpoint = some ruleId →
          ∃ rule, tunneling.listeningRules[ruleId]? = some rule := by
        intro other membership
        exact read other (List.mem_cons_of_mem _ membership)
      unfold syncEndpoints
      cases existing : existingRuleId rules endpoint with
      | none => exact inductionHypothesis one readRest apartRest
      | some ruleId =>
          obtain ⟨rule, present⟩ := read endpoint List.mem_cons_self ruleId existing
          obtain ⟨protocol, removed⟩ := removeListeningRule_of_present one present
          dsimp only
          rw [removed]
          apply inductionHypothesis (one.remove removed) _ apartRest
          intro other membership otherId found
          obtain ⟨otherRule, inTable⟩ := readRest other membership otherId found
          refine ⟨otherRule, ?_⟩
          rw [getElem?_erase, if_neg]
          · exact inTable
          · intro same
            exact others other membership ruleId existing (same ▸ found)

theorem sync_enabled_succeeds {manifest : ServiceManifest} (room : HasRoom tunneling manifest) :
    (syncServiceEndpointListenersForManifest tunneling (some manifest) true).2 = .ok () :=
  syncEndpoints_enabled_succeeds (fun _ => listeningProtocol_of_mem) room.distinct room.free

/-- Disabling succeeds when the endpoints that are listened for have different protocols. -/
theorem sync_disabled_succeeds {manifest : ServiceManifest} (one : OneListenerEach tunneling)
    (apart : (serviceExposeEndpointBindings manifest).Pairwise fun left right =>
      Listens tunneling left.protocol left.hostPort → left.protocol ≠ right.protocol) :
    (syncServiceEndpointListenersForManifest tunneling (some manifest) false).2 = .ok () := by
  apply syncEndpoints_disabled_succeeds one
  · intro endpoint _ ruleId existing
    obtain ⟨rule, present, -⟩ := existingRuleId_eq_some existing
    exact ⟨rule, present⟩
  · apply apart.imp
    intro left right different ruleId existing existingRight
    obtain ⟨rule, present, port, named⟩ := existingRuleId_eq_some existing
    obtain ⟨ruleRight, presentRight, -, namedRight⟩ := existingRuleId_eq_some existingRight
    rw [present] at presentRight
    cases presentRight
    rw [named] at namedRight
    exact different ⟨ruleId, rule, present, port, named⟩ (Option.some.inj namedRight)

end Sync

end Fungi.Daemon
