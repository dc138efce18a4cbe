import Fungi.Daemon.AttachOutcome

/-!
# Requests to attach a service

`attach_service_access` of `crates/daemon-grpc/src/lib.rs`, which takes the local port from a
32-bit field of the message, and of `crates/daemon/src/api/service_access.rs`, which it calls.
-/

namespace Fungi.DaemonGrpc

open Fungi.Config Fungi.Daemon.ServiceAccesses Fungi.Lib Fungi.Runtime
open Fungi.Daemon (AddressParsers DeviceService DeviceServiceEndpoint ForwardingRules
  generateForwardingRuleId recordRule startForwardingRule withUpsertedRecord_spec)

/-- The request that the command line sends. -/
structure AttachServiceAccessRequest where
  peerId : String
  serviceName : String
  entry : String
  localPort : Int32

/-- The statuses that the call fails with. -/
inductive Status where
  | invalidArgument (message : String)
  | internal (message : String)

/-- The status of an attach that has failed. -/
def Status.ofAttach : Error → Status
  | .message text | .dockerApi _ text => .internal s!"Failed to attach service access: {text}"

/-- The rest of the daemon.  A peer id is its text, and `inspect` asks the remote device for the
service. -/
structure DaemonSide where
  parsePeerId : String → Except String String
  localPeerId : String
  inspect : String → String → Except String DeviceService

/-- A text of whitespace counts as none. -/
def emptyToNone (value : String) : Option String :=
  if value.toList.all isWhitespace then none else some value

/-- The `as u16` keeps the low bits. -/
def AttachServiceAccessRequest.requestedPort (self : AttachServiceAccessRequest) : Option UInt16 :=
  if 0 < self.localPort then some self.localPort.toUInt32.toUInt16 else none

/-- `attach_service_access` of the daemon, up to the call of `ServiceAccesses::attach`. -/
def DaemonSide.attachServiceAccess (self : DaemonSide) (peerId serviceName : String)
    (entry : Option String) (localPort : Option UInt16) : Except String AccessCall :=
  if peerId = self.localPeerId then
    .error "local services do not use remote service access listeners"
  else
    match self.inspect peerId serviceName with
    | .error error => .error s!"failed to refresh remote service before attaching access: {error}"
    | .ok service => .ok (.attach peerId service entry localPort)

/-- The attach that a request comes to, or the status it is refused with before. -/
def AttachServiceAccessRequest.call (self : AttachServiceAccessRequest) (daemon : DaemonSide) :
    Except Status AccessCall :=
  match daemon.parsePeerId self.peerId with
  | .error error => .error (.invalidArgument s!"Invalid peer_id: {error}")
  | .ok peerId =>
      match daemon.attachServiceAccess peerId self.serviceName (emptyToNone self.entry)
          self.requestedPort with
      | .error error => .error (.internal s!"Failed to attach service access: {error}")
      | .ok call => .ok call

/-- What a request can be answered with, and what the stores hold then. -/
inductive Replies (daemon : DaemonSide) (parsers : AddressParsers) (stores : AccessStores)
    (request : AttachServiceAccessRequest) : AccessContent → Except Status ServiceAccess → Prop
  | refused {status : Status} : request.call daemon = .error status →
      Replies daemon parsers stores request stores.content (.error status)
  | attached {call : AccessCall} {schedule : List (AccessStep Unit)} {final : AccessSystem Unit}
      {access : ServiceAccess} : request.call daemon = .ok call →
      run (AccessSystem.step parsers fun _ => call) (AccessSystem.start stores) schedule =
        some final →
      final.phases () = .returned (.ok (some access)) →
      Replies daemon parsers stores request final.stores.content (.ok access)
  | failed {call : AccessCall} {schedule : List (AccessStep Unit)} {final : AccessSystem Unit}
      {error : Error} : request.call daemon = .ok call →
      run (AccessSystem.step parsers fun _ => call) (AccessSystem.start stores) schedule =
        some final →
      final.phases () = .returned (.error error) →
      Replies daemon parsers stores request final.stores.content
        (.error (.ofAttach error))

/-- The record and the rule of an entry are at the port: the ones the attach has left, and all of
them where the entry had at most one before. -/
structure AtPort (localPort : Int32) (identity : String × String × String)
    (before after : AccessContent) : Prop where
  record : ∃ record ∈ after.records, record.identity = identity ∧
    record.localPort.toNat = localPort.toInt
  records : (before.records.map (·.identity)).Nodup →
    ∀ record ∈ after.records, record.identity = identity → record.localPort.toNat = localPort.toInt
  rule : ∃ ruleId rule, after.rules ruleId = some rule ∧ rule.IsFor identity ∧
    rule.localPort.toNat = localPort.toInt
  rules : before.rules.OneEach → ∀ ruleId rule, after.rules ruleId = some rule →
    rule.IsFor identity → rule.localPort.toNat = localPort.toInt

/-- Every endpoint that a successful request for the port attaches is reported, recorded and
listening at it, and a number that is no port is refused before anything changes. -/
def PortHonoured (localPort : Int32) : Prop :=
  ∀ daemon parsers stores request after reply, stores.rules.Built parsers →
    request.localPort = localPort → Replies daemon parsers stores request after reply →
    (∀ access, reply = .ok access → 0 < localPort → ∀ endpoint ∈ access.endpoints,
      endpoint.localPort.toNat = localPort.toInt ∧
      AtPort localPort (access.peerId, access.serviceName, endpoint.name) stores.content after) ∧
    (65535 < localPort → (∃ status, reply = .error status) ∧ after = stores.content)

/-! ## Ports in range -/

theorem toNat_narrowed {localPort : Int32} (positive : 0 < localPort) :
    (localPort.toUInt32.toUInt16.toNat : Int) = localPort.toInt % 65536 := by
  have nonneg := Int32.le_of_lt positive
  rw [UInt32.toNat_toUInt16, Int32.toNat_toUInt32_of_le nonneg, Int32.toNatClampNeg]
  have isNat := Int.toNat_of_nonneg (Int32.le_iff_toInt_le.mp nonneg)
  omega

theorem Replies.call_eq {daemon : DaemonSide} {request : AttachServiceAccessRequest}
    {call : AccessCall} (accepted : request.call daemon = .ok call) :
    ∃ peerId service, call =
      .attach peerId service (emptyToNone request.entry) request.requestedPort := by
  unfold AttachServiceAccessRequest.call at accepted
  split at accepted
  · cases accepted
  · next peerId parsed =>
      split at accepted
      · cases accepted
      · next attached =>
          cases accepted
          unfold DaemonSide.attachServiceAccess at attached
          split at attached
          · cases attached
          · split at attached
            · cases attached
            · next service inspected =>
                cases attached
                exact ⟨peerId, service, rfl⟩

/-- A port that fits is honoured. -/
theorem portHonoured_of_le {localPort : Int32} (isPort : localPort ≤ 65535) :
    PortHonoured localPort := by
  intro daemon parsers stores request after reply built asked replied
  refine ⟨?_, fun tooLarge => absurd isPort (Int32.not_le.mpr tooLarge)⟩
  intro access succeeded positive
  cases replied with
  | refused refused => cases succeeded
  | failed accepted reached returned => cases succeeded
  | @attached call schedule final access accepted reached returned =>
      cases succeeded
      obtain ⟨peerId, service, rfl⟩ := Replies.call_eq accepted
      have port : request.requestedPort = some localPort.toUInt32.toUInt16 := by
        rw [AttachServiceAccessRequest.requestedPort, asked, if_pos positive]
      have kept : (localPort.toUInt32.toUInt16.toNat : Int) = localPort.toInt := by
        rw [toNat_narrowed positive]
        have small := Int32.le_iff_toInt_le.mp isPort
        have nonneg := Int32.lt_iff_toInt_lt.mp positive
        apply Int.emod_eq_of_lt
        · exact Int.le_of_lt nonneg
        · exact Int.lt_of_le_of_lt small (by decide)
      have outcome := AttachOutcome.of_run
        { origin := stores.content, peerId, service, entry := emptyToNone request.entry
          localPort := request.requestedPort } built rfl reached
      rw [returned] at outcome
      intro endpoint member
      have atPort : ∀ port : UInt16, port = localPort.toUInt32.toUInt16 →
          (port.toNat : Int) = localPort.toInt := fun port same => same ▸ kept
      refine ⟨atPort _ (outcome.ports endpoint member _ port), ?_⟩
      obtain ⟨record, saved, identity, recordPort, ruleId, rule, listed, isFor, address⟩ :=
        outcome.entry member
      have recordAt := atPort _ (recordPort _ port)
      have ruleAt : (rule.localPort.toNat : Int) = localPort.toInt := by
        rw [show rule.localPort = record.localPort from congrArg Prod.snd address]
        exact recordAt
      obtain ⟨attached, upTo, rules, preferences⟩ := outcome.upTo
      constructor
      · exact ⟨record, saved, identity, recordAt⟩
      · intro apart other otherSaved same
        have apartAfter : (final.stores.content.records.map (·.identity)).Nodup := by
          have identities := upTo.identities apart
          unfold AccessContent.records at identities ⊢
          rwa [preferences]
        rw [List.inj_on_of_nodup_map apartAfter otherSaved saved (same.trans identity.symm)]
        exact recordAt
      · exact ⟨ruleId, rule, listed, isFor, ruleAt⟩
      · intro one otherId other otherListed otherFor
        have oneAfter : final.stores.content.rules.OneEach := by
          rw [rules]
          exact upTo.one one
        have sameId := oneAfter _ _ _ _ _ otherListed listed otherFor isFor
        rw [sameId, listed] at otherListed
        cases otherListed
        exact ruleAt

/-! ## Port 0 -/

/-- An attach at port 0 changes nothing and does not succeed. -/
def RefusesZero (origin stores : AccessContent) : AccessPhase → Prop
  | .ready | .locked | .preferencesRead _ => stores = origin
  | .attaching loop => stores = origin ∧ loop.localPort = some 0 ∧ loop.endpoints ≠ []
  | .unlocking result | .returned result => stores = origin ∧ ∃ error, result = .error error
  | _ => False

theorem planEndpoint_zero (loop : AttachLoop) (zero : loop.localPort = some 0)
    (endpoint : DeviceServiceEndpoint) (answer : AccessAnswer) :
    ∃ error, planEndpoint loop endpoint answer = .error error := by
  cases planned : planEndpoint loop endpoint answer with
  | error error => exact ⟨error, rfl⟩
  | ok plan =>
      have isZero := planEndpoint_localPort planned 0 zero
      obtain ⟨valid, -⟩ := withUpsertedRecord_spec (planEndpoint_eq_ok planned).upserted
      obtain ⟨-, -, valid⟩ := bind_eq_ok.mp valid
      obtain ⟨-, -, valid⟩ := bind_eq_ok.mp valid
      obtain ⟨-, -, valid⟩ := bind_eq_ok.mp valid
      obtain ⟨-, -, valid⟩ := bind_eq_ok.mp valid
      rw [if_pos isZero] at valid
      cases valid

theorem RefusesZero.advance {origin : AccessContent} {parsers : AddressParsers} {peerId : String}
    {service : DeviceService} {entry : Option String} {self next : AccessStores}
    {answer : AccessAnswer} {phase phase' : AccessPhase}
    (refuses : RefusesZero origin self.content phase)
    (taken : self.advance parsers (.attach peerId service entry (some 0)) answer phase =
      some (next, phase')) :
    RefusesZero origin next.content phase' := by
  cases phase with
  | ready =>
      dsimp only [AccessStores.advance, AccessStores.enter] at taken
      split at taken
      · cases taken
        exact ⟨refuses, _, rfl⟩
      · split at taken
        · cases taken
          exact ⟨refuses, _, rfl⟩
        · unfold AccessStores.lock at taken
          split at taken
          · cases taken
          · cases taken
            exact refuses
  | locked =>
      dsimp only [AccessStores.advance, AccessStores.enterLocked] at taken
      split at taken
      · cases taken
        exact ⟨refuses, _, rfl⟩
      · cases taken
        exact refuses
  | preferencesRead preferences =>
      dsimp only [AccessStores.advance, AccessStores.withPreferences] at taken
      split at taken
      · cases taken
        exact ⟨refuses, _, rfl⟩
      · next ahead =>
          cases taken
          exact ⟨refuses, rfl, ahead⟩
  | attaching loop =>
      obtain ⟨same, zero, ahead⟩ := refuses
      dsimp only [AccessStores.advance] at taken
      unfold AccessStores.attachNext at taken
      split at taken
      · next finished => exact absurd finished ahead
      · next endpoint rest _ =>
          obtain ⟨error, refused⟩ :=
            planEndpoint_zero { loop with endpoints := rest } zero endpoint answer
          dsimp only at taken
          rw [refused] at taken
          cases taken
          exact ⟨same, error, rfl⟩
  | unlocking result =>
      cases taken
      exact refuses
  | returned result => cases taken
  | _ => cases refuses

theorem RefusesZero.of_run {parsers : AddressParsers} {peerId : String} {service : DeviceService}
    {entry : Option String} {stores : AccessStores} {schedule : List (AccessStep Unit)}
    {final : AccessSystem Unit}
    (reached : run (AccessSystem.step parsers fun _ => .attach peerId service entry (some 0))
      (AccessSystem.start stores) schedule = some final) :
    RefusesZero stores.content final.stores.content (final.phases ()) := by
  refine run_induction (motive := fun _ state =>
    RefusesZero stores.content state.stores.content (state.phases ())) ?_ ?_ reached
  · exact rfl
  · intro earlier state action after _ refuses taken
    cases action with
    | advance id answer => exact refuses.advance (AccessSystem.step_advance taken).1
    | bind ruleId succeeds =>
        cases taken
        rw [AccessStores.content_bind]
        exact refuses

/-- A number whose low bits are 0 is refused before anything changes. -/
theorem portHonoured_of_zero {localPort : Int32} (tooLarge : 65535 < localPort)
    (zero : localPort.toInt % 65536 = 0) : PortHonoured localPort := by
  intro daemon parsers stores request after reply built asked replied
  have positive : 0 < localPort := Int32.lt_trans (by decide) tooLarge
  have port : request.requestedPort = some 0 := by
    rw [AttachServiceAccessRequest.requestedPort, asked, if_pos positive]
    congr 1
    apply UInt16.toNat_inj.mp
    exact_mod_cast (toNat_narrowed positive).trans zero
  suffices refused : (∃ status, reply = .error status) ∧ after = stores.content by
    refine ⟨?_, fun _ => refused⟩
    intro access succeeded
    obtain ⟨⟨status, failed⟩, -⟩ := refused
    cases succeeded.symm.trans failed
  cases replied with
  | refused refused => exact ⟨⟨_, rfl⟩, rfl⟩
  | attached accepted reached returned =>
      obtain ⟨peerId, service, rfl⟩ := Replies.call_eq accepted
      rw [port] at reached
      have refuses := RefusesZero.of_run reached
      rw [returned] at refuses
      obtain ⟨-, error, isError⟩ := refuses
      cases isError
  | failed accepted reached returned =>
      obtain ⟨peerId, service, rfl⟩ := Replies.call_eq accepted
      rw [port] at reached
      have refuses := RefusesZero.of_run reached
      rw [returned] at refuses
      exact ⟨⟨_, rfl⟩, refuses.1⟩

/-! ## An attach at any other port -/

/-- The entry that is asked for. -/
def httpEndpoint : DeviceServiceEndpoint := { name := "http", protocol := "/web/http" }

/-- The record of the entry `http` at a port that was asked for. -/
def httpAt (port : UInt16) : LocalServicePreference :=
  { webRecord "http" port with localPortSource := .user }

/-- The table with the rule of the entry alone. -/
def httpRules (port : UInt16) : ForwardingRules :=
  let rule := recordRule (httpAt port) httpEndpoint.protocol
  (∅ : ForwardingRules).insert (generateForwardingRuleId rule) { rule, task := .starting }

/-- The access to the entry. -/
def httpAccess (port : UInt16) : ServiceAccess :=
  { peerId := webPeer
    serviceName := "web"
    endpoints :=
      [{ name := httpEndpoint.name
         protocol := httpEndpoint.protocol
         localHost := "127.0.0.1"
         localPort := port }] }

/-- The entry `http` is attached at the port, and nothing else. -/
def httpAttached (port : UInt16) : AccessStores :=
  { rules := httpRules port
    preferences := some [httpAt port]
    detachedServices := Function.update (fun _ => false) (webPeer, "web") false
    operations := false }

/-- The attach once it has read the stores. -/
def httpLoop (port : UInt16) : AttachLoop :=
  AttachLoop.begin webPeer webService (some "http") (some port) [] []

/-- What the attach does for the entry. -/
def httpPlan (port : UInt16) : AttachPlan :=
  { endpoint := httpEndpoint
    existingActiveRule := none
    activeRuleMatches := false
    record := httpAt port
    updatedLocalPreferences := [httpAt port]
    reservedLocalPorts := [] }

theorem httpAt_upserted {port : UInt16} (nonzero : port ≠ 0) :
    LocalPreferenceCache.withUpsertedRecord [] (httpAt port) = .ok [httpAt port] := by
  have filled : ∀ field value, ¬ value.toList.all isWhitespace →
      LocalServicePreference.validateNonEmpty field value = .ok () :=
    fun field value filled => if_neg filled
  have valid : (httpAt port).validate = .ok () := by
    unfold LocalServicePreference.validate
    dsimp only [httpAt, webRecord]
    rw [filled _ _ (by decide), filled _ _ (by decide), filled _ _ (by decide),
      filled _ _ (by decide)]
    exact if_neg nonzero
  rw [LocalPreferenceCache.withUpsertedRecord, valid]
  rfl

theorem advance_httpLoop {port : UInt16} (nonzero : port ≠ 0) (stores : AccessStores)
    (parsers : AddressParsers) (call : AccessCall) :
    stores.advance parsers call .calm (.attaching (httpLoop port)) =
      some (stores, .starting { httpLoop port with endpoints := [] } (httpPlan port) none) := by
  have endpoints : (httpLoop port).endpoints = [httpEndpoint] := by
    change webService.endpoints.filter (fun endpoint => (some "http").all (endpoint.name = ·)) = _
    decide
  have planned : planEndpoint { httpLoop port with endpoints := [] } httpEndpoint .calm =
      (LocalPreferenceCache.withUpsertedRecord [] (httpAt port)).bind fun updated =>
        .ok { httpPlan port with updatedLocalPreferences := updated } := rfl
  rw [AccessStores.advance, AccessStores.attachNext, endpoints]
  dsimp only
  rw [planned, httpAt_upserted nonzero]
  rfl

/-- Every port of a loopback address gives a socket address that parses. -/
theorem loopback_socketAddr {host : String} (loopback : host = "127.0.0.1") (port : UInt16) :
    AddressParsers.loopback.socketAddr s!"{host}:{port}" = .ok () := by
  have text : (s!"{host}:{port}").toList =
      "127.0.0.1:".toList ++ (toString port.toNat).toList := by
    rw [loopback]
    exact String.toList_append
  have digits : (toString port.toNat).toList.all Char.isDigit = true :=
    List.all_eq_true.mpr fun _ member => isDigit_of_mem_toString member
  dsimp only [AddressParsers.loopback]
  rw [text]
  exact if_pos ⟨List.prefix_append _ _, toString_nat_ne_nil port.toNat, digits⟩

theorem httpRules_started (port : UInt16) :
    startForwardingRule ∅ .loopback (httpAt port) httpEndpoint.protocol =
      .ok (generateForwardingRuleId (recordRule (httpAt port) httpEndpoint.protocol),
        httpRules port) := by
  have checked : Daemon.checkForwardingRule .loopback
      (recordRule (httpAt port) httpEndpoint.protocol) = .ok () := by
    have host : (recordRule (httpAt port) httpEndpoint.protocol).localHost = "127.0.0.1" := rfl
    have peer : AddressParsers.loopback.peerId
        (recordRule (httpAt port) httpEndpoint.protocol).remotePeerId = .ok () := by
      change AddressParsers.loopback.peerId webPeer = .ok ()
      decide
    rw [Daemon.checkForwardingRule, loopback_socketAddr host]
    dsimp only
    rw [peer]
    rfl
  rw [startForwardingRule, ForwardingRules.addForwardingRule, if_neg (by simp), checked]
  rfl

/-- An attach that no other call interferes with takes its next step. -/
theorem run_advance {parsers : AddressParsers} {call : AccessCall} {answer : AccessAnswer}
    {stores next : AccessStores} {phase phase' : AccessPhase} {rest : List (AccessStep Unit)}
    (taken : stores.advance parsers call answer phase = some (next, phase')) :
    run (AccessSystem.step parsers fun _ => call) { stores, phases := fun _ => phase }
        (.advance () answer :: rest) =
      run (AccessSystem.step parsers fun _ => call) { stores := next, phases := fun _ => phase' }
        rest := by
  rw [run_cons, AccessSystem.step]
  dsimp only
  rw [taken]
  dsimp only [Option.bind_eq_bind, Option.bind]
  congr 2

theorem run_attach_http {port : UInt16} (nonzero : port ≠ 0) :
    run (AccessSystem.step .loopback fun _ : Unit =>
        .attach webPeer webService (some "http") (some port)) (AccessSystem.start nothingSaved)
        (List.replicate 10 (.advance () .calm)) =
      some { stores := httpAttached port
             phases := fun _ => .returned (.ok (some (httpAccess port))) } := by
  let locked : AccessStores := { nothingSaved with operations := true }
  have starts : locked.advance .loopback
      (.attach webPeer webService (some "http") (some port)) .calm
      (.starting { httpLoop port with endpoints := [] } (httpPlan port) none) =
      some ({ locked with rules := httpRules port },
        .saving { httpLoop port with endpoints := [] } (httpPlan port) none
          (some (generateForwardingRuleId (recordRule (httpAt port) httpEndpoint.protocol)))) := by
    dsimp only [AccessStores.advance]
    have started : startForwardingRule locked.rules .loopback (httpPlan port).record
        (httpPlan port).endpoint.protocol = _ := httpRules_started port
    rw [started]
  dsimp only [List.replicate]
  rw [AccessSystem.start, run_advance rfl]
  have reads : locked.advance .loopback (.attach webPeer webService (some "http") (some port)) .calm
      (.preferencesRead []) = some (locked, .attaching (httpLoop port)) := rfl
  rw [run_advance rfl, run_advance reads]
  rw [run_advance (advance_httpLoop nonzero _ _ _)]
  rw [run_advance starts, run_advance rfl, run_advance rfl, run_advance rfl, run_advance rfl,
    run_advance rfl]
  rfl

/-- A request for the entry `http` of the service `web` at a port. -/
def httpRequest (localPort : Int32) : AttachServiceAccessRequest :=
  { peerId := webPeer, serviceName := "web", entry := "http", localPort }

/-- The daemon knows the service `web`. -/
def webDaemon : DaemonSide :=
  { parsePeerId := .ok, localPeerId := "self", inspect := fun _ _ => .ok webService }

theorem httpRequest_replies (localPort : Int32) (positive : 0 < localPort)
    (nonzero : localPort.toUInt32.toUInt16 ≠ 0) :
    Replies webDaemon .loopback nothingSaved (httpRequest localPort)
      (httpAttached localPort.toUInt32.toUInt16).content
      (.ok (httpAccess localPort.toUInt32.toUInt16)) := by
  have port : (httpRequest localPort).requestedPort = some localPort.toUInt32.toUInt16 :=
    if_pos positive
  have entry : emptyToNone "http" = some "http" := by decide
  have call : (httpRequest localPort).call webDaemon =
      .ok (.attach webPeer webService (some "http") (some localPort.toUInt32.toUInt16)) := by
    unfold AttachServiceAccessRequest.call
    rw [port, show (httpRequest localPort).entry = "http" from rfl, entry]
    rfl
  exact .attached call (run_attach_http nonzero) rfl

/-- The port is honoured exactly where it fits into 16 bits or its low 16 bits are 0. -/
theorem portHonoured_iff (localPort : Int32) :
    PortHonoured localPort ↔ localPort ≤ 65535 ∨ localPort.toInt % 65536 = 0 := by
  constructor
  · intro honoured
    by_contra neither
    rw [not_or, Int32.not_le] at neither
    obtain ⟨tooLarge, nonzero⟩ := neither
    have positive : 0 < localPort := Int32.lt_trans (by decide) tooLarge
    have narrowed : localPort.toUInt32.toUInt16 ≠ 0 := by
      intro zero
      apply nonzero
      rw [← toNat_narrowed positive, zero]
      rfl
    obtain ⟨⟨status, refused⟩, -⟩ := (honoured webDaemon .loopback nothingSaved
      (httpRequest localPort) _ _ .empty rfl
      (httpRequest_replies localPort positive narrowed)).2 tooLarge
    cases refused
  · intro either
    by_cases isPort : localPort ≤ 65535
    · exact portHonoured_of_le isPort
    · exact portHonoured_of_zero (Int32.not_le.mp isPort) (either.resolve_left isPort)

/-- A request for port 73616 attaches the entry at port 8080. -/
theorem port_narrowed :
    Replies webDaemon .loopback nothingSaved (httpRequest 73616) (httpAttached 8080).content
      (.ok (httpAccess 8080)) ∧ ¬ PortHonoured 73616 := by
  have replies : Replies webDaemon .loopback nothingSaved (httpRequest 73616)
      (httpAttached 8080).content (.ok (httpAccess 8080)) :=
    httpRequest_replies 73616 (by decide) (by decide)
  refine ⟨replies, fun honoured => ?_⟩
  obtain ⟨⟨status, refused⟩, -⟩ :=
    (honoured webDaemon .loopback nothingSaved _ _ _ .empty rfl replies).2 (by decide)
  cases refused

end Fungi.DaemonGrpc
