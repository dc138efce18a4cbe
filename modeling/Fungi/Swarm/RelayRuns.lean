import Fungi.Swarm.RelayEndpoints

/-!
# Relay events and reconcile tasks

The event handlers and the reconcile tasks of `crates/swarm/src/libp2p/relay.rs`.  One loop
handles the swarm's events one after another, in steps between which the tasks, which run on
threads of their own, may do anything.  A task holds the guard of its peer from its spawn until it
has found an endpoint ready and has cleared the running flags.
-/

namespace Fungi.Swarm

open Fungi.Lib ConnectionIndexes

variable {PeerId : Type}

/-- Where a reconcile task stands; the endpoint is the one its last readiness check has found. -/
inductive ReconcilePhase (PeerId : Type) where
  | working
  | checked (readyEndpoint : RelayEndpoint PeerId)
  | cleared

/-- What is left to do of the event that is being handled. -/
inductive HandlerStep (PeerId : Type) where
  | listenerGone (address : Multiaddr PeerId) (error : Option String)
  | managementError (endpoint : RelayEndpoint PeerId) (error : String)
  | trigger (endpoint : RelayEndpoint PeerId) (action : RelayManagementAction)
  | spawn (group : RelayPeerGroup PeerId)
  | remove (connectionId : ConnectionId)

/-- `tasks` are the guards that are held; `lost` marks the peers that an event has made not ready
and that have not been ready since. -/
structure RelaySystem (PeerId : Type) where
  indexes : ConnectionIndexes PeerId
  used : ConnectionId → Bool
  connectivity : ConnectivityState PeerId
  now : SystemTime
  pending : List (HandlerStep PeerId)
  tasks : PeerId → Option (ReconcilePhase PeerId)
  lost : PeerId → Bool

/-- An event of the swarm, or a step of the handlers, the tasks, the audit or the clock. -/
inductive RelayStep (PeerId : Type) where
  | connectionEstablished (record : ConnectionRecord PeerId)
  | connectionClosed (connectionId : ConnectionId) (remoteAddr : Multiaddr PeerId)
      (cause : Option String)
  | reservationAccepted (relayPeerId : PeerId) (renewal : Bool)
  | newListenAddr (addr : Multiaddr PeerId)
  | expiredListenAddr (addr : Multiaddr PeerId)
  | listenerClosed (addresses : List (Multiaddr PeerId)) (reason : Option String)
  | handle
  | taskCheck (peerId : PeerId) (endpoint : RelayEndpoint PeerId)
  | taskListenerCheck (peerId : PeerId) (endpoint : RelayEndpoint PeerId) (registered : Bool)
  | taskError (peerId : PeerId) (endpoint : RelayEndpoint PeerId) (error : String)
  | taskClear (peerId : PeerId)
  | taskDrop (peerId : PeerId)
  | auditListenerCheck (endpoint : RelayEndpoint PeerId) (registered : Except String Bool)
  | auditReconcile (peerId : PeerId) (registered : RelayEndpoint PeerId → Bool)
  | setClock (now : SystemTime)

/-- The steps of the event loop, not those of the tasks and the audit. -/
def RelayStep.byEvent : RelayStep PeerId → Bool
  | .connectionEstablished _ => true
  | .connectionClosed _ _ _ => true
  | .reservationAccepted _ _ => true
  | .newListenAddr _ => true
  | .expiredListenAddr _ => true
  | .listenerClosed _ _ => true
  | .handle => true
  | _ => false

namespace RelaySystem

variable [DecidableEq PeerId] (relayPeers : RelayPeers PeerId)

/-- No connection, and all endpoints registered. -/
def start (now : SystemTime) : RelaySystem PeerId :=
  { indexes := .empty
    used := fun _ => false
    connectivity := .register relayPeers
    now
    pending := []
    tasks := fun _ => none
    lost := fun _ => false }

/-- `record_matching_relay_listener_state`. -/
def recordMatchingRelayListenerState (self : RelaySystem PeerId) (listenerAddr : Multiaddr PeerId)
    (listenerRegistered : Bool) : List (RelayEndpoint PeerId) × RelaySystem PeerId :=
  let matched := relayPeers.allEndpoints.filter fun endpoint =>
    endpoint.matchesListener listenerAddr
  (matched,
    { self with
      connectivity := matched.foldl
        (fun connectivity endpoint =>
          connectivity.recordRelayListenerCheck self.now endpoint.addr listenerRegistered)
        self.connectivity })

/-- A guard that is held already is left with its task. -/
def spawnRelayReconcileTask (self : RelaySystem PeerId) (group : RelayPeerGroup PeerId) :
    RelaySystem PeerId :=
  match self.tasks group.peerId with
  | some _ => self
  | none =>
      { self with
        connectivity := group.endpoints.foldl
          (fun connectivity endpoint =>
            (connectivity.setRelayTaskRunning endpoint.addr true).recordRelayManagementAction
              endpoint.addr .reconcileTaskStarted)
          self.connectivity
        tasks := Function.update self.tasks group.peerId (some .working) }

/-- What a step of a handler does, before the rest of its steps. -/
def handle (self : RelaySystem PeerId) (rest : List (HandlerStep PeerId)) :
    HandlerStep PeerId → RelaySystem PeerId
  | .listenerGone address error =>
      let (matched, self) := self.recordMatchingRelayListenerState relayPeers address false
      let triggers := matched.flatMap fun endpoint =>
        (error.toList.map fun text => HandlerStep.managementError endpoint text) ++
          [.trigger endpoint .listenerMissingReconcile]
      { self with pending := triggers ++ rest }
  | .managementError endpoint text =>
      { self with
        connectivity := self.connectivity.recordRelayManagementError endpoint.addr text
        pending := rest }
  | .trigger endpoint action =>
      -- another endpoint of the same peer may be healthy
      if endpoint.peerId.any fun peerId => self.connectivity.relayPeerReady peerId then
        { self with pending := rest }
      else
        { self with
          connectivity := self.connectivity.recordRelayManagementAction endpoint.addr action
          pending := (relayPeers.groupForEndpoint endpoint).toList.map .spawn ++ rest }
  | .spawn group => { self.spawnRelayReconcileTask group with pending := rest }
  | .remove connectionId =>
      { self with indexes := self.indexes.remove connectionId, pending := rest }

/-- The rest of the handler of a closed connection, once its status updates are made. -/
def closedSteps (endpoint : RelayEndpoint PeerId) (closedActive : Bool) (cause : Option String) :
    List (HandlerStep PeerId) :=
  if closedActive then
    (cause.toList.map fun text => HandlerStep.managementError endpoint text) ++
      [.trigger endpoint .directConnectionMissingReconcile]
  else []

/-- `reason_text`. -/
def reasonText (reason : Option String) : String := reason.getD "listener closed"

/-- An event arrives when the one before has been handled. -/
def onEvent (self : RelaySystem PeerId) : RelayStep PeerId → Option (RelaySystem PeerId)
  | .connectionEstablished record =>
      if self.used record.connectionId then none
      else
        let record := { record with establishedAt := self.now, governance := {} }
        let self :=
          { self with
            indexes := self.indexes.insert record
            used := Function.update self.used record.connectionId true }
        if isCircuitAddr record.remoteAddr then some self
        else
          match relayPeers.endpointFor record.peerId record.remoteAddr with
          | some _ =>
              some
                { self with
                  connectivity := self.connectivity.recordRelayConnectionEstablished self.now
                    record.peerId record.connectionId record.remoteAddr }
          | none => some self
  | .connectionClosed connectionId remoteAddr cause =>
      match self.indexes.byId connectionId with
      | none => none
      | some record =>
          -- a connection closes with the transport it was established with
          if addressTransportKind remoteAddr ≠ addressTransportKind record.remoteAddr then none
          else if isCircuitAddr remoteAddr then
            some { self with pending := [.remove connectionId] }
          else
            match relayPeers.endpointFor record.peerId remoteAddr with
            | some endpoint =>
                let (closedActive, connectivity) := self.connectivity.recordRelayConnectionClosed
                  self.now record.peerId connectionId remoteAddr
                some
                  { self with
                    connectivity
                    pending := closedSteps endpoint closedActive cause ++ [.remove connectionId] }
            | none => some { self with pending := [.remove connectionId] }
  | .reservationAccepted relayPeerId renewal =>
      let change := if renewal then .reservationRenewed else .reservationEstablished
      some
        { self with
          connectivity := self.connectivity.recordRelayReservationAccepted self.now relayPeerId
            change (self.indexes.currentDirectRelayConnections relayPeerId) }
  | .newListenAddr addr =>
      if isCircuitAddr addr then
        some (self.recordMatchingRelayListenerState relayPeers addr true).2
      else if isPublicListenAddr addr then
        match relayTransportKind addr with
        | some kind =>
            some { self with pending := (relayPeers.groupsForTransport kind).map .spawn }
        | none => some self
      else some self
  | .expiredListenAddr addr => some (self.handle relayPeers [] (.listenerGone addr none))
  | .listenerClosed addresses reason =>
      some
        { self with
          pending := addresses.map fun address =>
            .listenerGone address (some (reasonText reason)) }
  | _ => none

/-- A step of the event loop, of a reconcile task or of the periodic audit. -/
def act (self : RelaySystem PeerId) : RelayStep PeerId → Option (RelaySystem PeerId)
  | .handle =>
      match self.pending with
      | [] => none
      | next :: rest => some (self.handle relayPeers rest next)
  | .taskCheck peerId endpoint =>
      match self.tasks peerId, relayPeers.groupForPeer peerId with
      | some .working, some group =>
          if endpoint ∈ group.endpoints ∧ self.connectivity.relayEndpointReady endpoint.addr then
            some { self with tasks := Function.update self.tasks peerId (some (.checked endpoint)) }
          else none
      | _, _ => none
  | .taskListenerCheck peerId endpoint registered =>
      match self.tasks peerId with
      | some .working =>
          some
            { self with
              connectivity := self.connectivity.recordRelayListenerCheck self.now endpoint.addr
                registered }
      | _ => none
  | .taskError peerId endpoint error =>
      match self.tasks peerId with
      | some .working =>
          some
            { self with
              connectivity := self.connectivity.recordRelayManagementError endpoint.addr error }
      | _ => none
  | .taskClear peerId =>
      match self.tasks peerId, relayPeers.groupForPeer peerId with
      | some (.checked readyEndpoint), some group =>
          let cleared := group.endpoints.foldl
            (fun connectivity endpoint => connectivity.setRelayTaskRunning endpoint.addr false)
            self.connectivity
          some
            { self with
              connectivity := cleared.recordRelayManagementAction readyEndpoint.addr
                .reconcileTaskSucceeded
              tasks := Function.update self.tasks peerId (some .cleared) }
      | _, _ => none
  | .taskDrop peerId =>
      match self.tasks peerId with
      | some .cleared => some { self with tasks := Function.update self.tasks peerId none }
      | _ => none
  | .auditListenerCheck endpoint (.ok registered) =>
      some
        { self with
          connectivity := self.connectivity.recordRelayListenerCheck self.now endpoint.addr
            registered }
  | .auditListenerCheck endpoint (.error error) =>
      let failed := self.connectivity.recordRelayManagementError endpoint.addr error
      some
        { self with
          connectivity := failed.recordRelayListenerCheck self.now endpoint.addr false }
  | .auditReconcile peerId registered =>
      match relayPeers.groupForPeer peerId with
      | some group =>
          if self.connectivity.relayPeerReady peerId then none
          else
            let connectivity := group.endpoints.foldl
              (fun connectivity endpoint =>
                connectivity.recordRelayManagementAction endpoint.addr
                  (if registered endpoint then .directConnectionMissingReconcile
                    else .listenerMissingReconcile))
              self.connectivity
            some ({ self with connectivity }.spawnRelayReconcileTask group)
      | none => none
  | .setClock now => some { self with now }
  | event => if self.pending.isEmpty then self.onEvent relayPeers event else none

/-- A step, with what it does to the readiness of the peers. -/
def step (self : RelaySystem PeerId) (action : RelayStep PeerId) : Option (RelaySystem PeerId) :=
  (self.act relayPeers action).map fun next =>
    { next with
      lost := fun peerId =>
        !next.connectivity.relayPeerReady peerId &&
          (self.lost peerId || self.connectivity.relayPeerReady peerId && action.byEvent) }

end RelaySystem

/-! ## Marks that leave the connections alone -/

/-- The two statuses are of one endpoint and have the same current connection. -/
structure SameConnection (before after : RelayEndpointStatusRecord PeerId) : Prop where
  relayAddr : after.relayAddr = before.relayAddr
  relayPeerId : after.relayPeerId = before.relayPeerId
  transportKind : after.transportKind = before.transportKind
  current : after.currentDirectConnectionId = before.currentDirectConnectionId

theorem SameConnection.refl (status : RelayEndpointStatusRecord PeerId) :
    SameConnection status status := ⟨rfl, rfl, rfl, rfl⟩

namespace ConnectivityState

/-- Every status is that of an endpoint before, with the same current connection. -/
def Marks (before after : ConnectivityState PeerId) : Prop :=
  ∀ status ∈ after.relayEndpointStatuses, ∃ old ∈ before.relayEndpointStatuses,
    SameConnection old status

theorem Marks.refl (state : ConnectivityState PeerId) : Marks state state :=
  fun status member => ⟨status, member, SameConnection.refl status⟩

theorem Marks.trans {first second third : ConnectivityState PeerId} (before : Marks first second)
    (after : Marks second third) : Marks first third := by
  intro status member
  obtain ⟨middle, middleMember, same⟩ := after status member
  obtain ⟨old, oldMember, sameBefore⟩ := before middle middleMember
  exact ⟨old, oldMember, same.relayAddr.trans sameBefore.relayAddr,
    same.relayPeerId.trans sameBefore.relayPeerId,
    same.transportKind.trans sameBefore.transportKind, same.current.trans sameBefore.current⟩

variable [DecidableEq PeerId]

theorem marks_modifyAt (self : ConnectivityState PeerId) (relayAddr : Multiaddr PeerId)
    {change : RelayEndpointStatusRecord PeerId → RelayEndpointStatusRecord PeerId}
    (same : ∀ status, SameConnection status (change status)) :
    Marks self (self.modifyAt relayAddr change) := by
  intro status member
  obtain ⟨old, oldMember, rfl⟩ := List.mem_map.mp member
  refine ⟨old, oldMember, ?_⟩
  split
  · exact same old
  · exact SameConnection.refl old

theorem marks_setRelayTaskRunning (self : ConnectivityState PeerId) (relayAddr : Multiaddr PeerId)
    (taskRunning : Bool) : Marks self (self.setRelayTaskRunning relayAddr taskRunning) :=
  marks_modifyAt _ _ fun _ => ⟨rfl, rfl, rfl, rfl⟩

theorem marks_recordRelayListenerCheck (self : ConnectivityState PeerId) (now : SystemTime)
    (relayAddr : Multiaddr PeerId) (listenerRegistered : Bool) :
    Marks self (self.recordRelayListenerCheck now relayAddr listenerRegistered) := by
  apply marks_modifyAt
  intro status
  cases listenerRegistered <;> exact ⟨rfl, rfl, rfl, rfl⟩

theorem marks_recordRelayManagementAction (self : ConnectivityState PeerId)
    (relayAddr : Multiaddr PeerId) (action : RelayManagementAction) :
    Marks self (self.recordRelayManagementAction relayAddr action) :=
  marks_modifyAt _ _ fun _ => ⟨rfl, rfl, rfl, rfl⟩

theorem marks_recordRelayManagementError (self : ConnectivityState PeerId)
    (relayAddr : Multiaddr PeerId) (error : String) :
    Marks self (self.recordRelayManagementError relayAddr error) :=
  marks_modifyAt _ _ fun _ => ⟨rfl, rfl, rfl, rfl⟩

omit [DecidableEq PeerId] in
theorem marks_foldl {Item : Type} (items : List Item) (self : ConnectivityState PeerId)
    {mark : ConnectivityState PeerId → Item → ConnectivityState PeerId}
    (each : ∀ state item, Marks state (mark state item)) : Marks self (items.foldl mark self) := by
  induction items generalizing self with
  | nil => exact Marks.refl self
  | cons item rest inductionHypothesis =>
      exact (each self item).trans (inductionHypothesis (mark self item))

end ConnectivityState

/-! ## The current connection of an endpoint -/

namespace RelaySystem

variable [DecidableEq PeerId] {relayPeers : RelayPeers PeerId}

/-- The connection is in the registry, one to the relay's peer over the endpoint's transport. -/
def Carries (indexes : ConnectionIndexes PeerId) (status : RelayEndpointStatusRecord PeerId)
    (connectionId : ConnectionId) : Prop :=
  ∃ record kind, indexes.byId connectionId = some record ∧
    status.relayPeerId = some record.peerId ∧
      addressTransportKind record.remoteAddr = status.transportKind ∧
        status.transportKind = RelayTransportKind.toAddressKind kind

/-- The status is that of a configured endpoint, and its current connection is there to stay. -/
structure StatusSound (relayPeers : RelayPeers PeerId) (indexes : ConnectionIndexes PeerId)
    (pending : List (HandlerStep PeerId)) (status : RelayEndpointStatusRecord PeerId) : Prop where
  relayPeerId : status.relayPeerId = peerIdFromAddr status.relayAddr
  transportKind : status.transportKind = addressTransportKind status.relayAddr
  configured : RelayEndpoint.new status.relayAddr ∈ relayPeers.allEndpoints
  current : ∀ connectionId, status.currentDirectConnectionId = some connectionId →
    Carries indexes status connectionId ∧ .remove connectionId ∉ pending

/-- What holds of the relays in every run. -/
structure Sound (relayPeers : RelayPeers PeerId) (system : RelaySystem PeerId) : Prop where
  coherent : system.indexes.Coherent system.used
  statuses : ∀ status ∈ system.connectivity.relayEndpointStatuses,
    StatusSound relayPeers system.indexes system.pending status

omit [DecidableEq PeerId] in
theorem StatusSound.of_sameConnection {indexes : ConnectionIndexes PeerId}
    {pending : List (HandlerStep PeerId)} {before after : RelayEndpointStatusRecord PeerId}
    (sound : StatusSound relayPeers indexes pending before) (same : SameConnection before after) :
    StatusSound relayPeers indexes pending after where
  relayPeerId := by rw [same.relayPeerId, same.relayAddr, sound.relayPeerId]
  transportKind := by rw [same.transportKind, same.relayAddr, sound.transportKind]
  configured := by
    rw [same.relayAddr]
    exact sound.configured
  current connectionId isCurrent := by
    rw [same.current] at isCurrent
    obtain ⟨carries, stays⟩ := sound.current connectionId isCurrent
    refine ⟨?_, stays⟩
    unfold Carries at carries ⊢
    rw [same.relayPeerId, same.transportKind]
    exact carries

omit [DecidableEq PeerId] in
/-- A step that leaves the registry and the current connections alone. -/
theorem Sound.of_marks {self next : RelaySystem PeerId} (sound : Sound relayPeers self)
    (sameIndexes : next.indexes = self.indexes) (sameUsed : next.used = self.used)
    (marks : self.connectivity.Marks next.connectivity)
    (removals : ∀ connectionId, HandlerStep.remove connectionId ∈ next.pending →
      HandlerStep.remove connectionId ∈ self.pending) : Sound relayPeers next where
  coherent := by
    rw [sameIndexes, sameUsed]
    exact sound.coherent
  statuses status member := by
    obtain ⟨old, oldMember, same⟩ := marks status member
    have after := (sound.statuses old oldMember).of_sameConnection same
    refine ⟨after.relayPeerId, after.transportKind, after.configured, ?_⟩
    intro connectionId isCurrent
    obtain ⟨carries, stays⟩ := after.current connectionId isCurrent
    rw [sameIndexes]
    exact ⟨carries, fun removed => stays (removals connectionId removed)⟩

theorem marks_recordMatching (self : RelaySystem PeerId) (listenerAddr : Multiaddr PeerId)
    (listenerRegistered : Bool) :
    self.connectivity.Marks
      (self.recordMatchingRelayListenerState relayPeers listenerAddr
        listenerRegistered).2.connectivity :=
  ConnectivityState.marks_foldl _ _ fun state _ =>
    state.marks_recordRelayListenerCheck _ _ _

theorem Sound.spawn {self : RelaySystem PeerId} (sound : Sound relayPeers self)
    (group : RelayPeerGroup PeerId) : Sound relayPeers (self.spawnRelayReconcileTask group) := by
  unfold spawnRelayReconcileTask
  split
  · exact sound
  · apply sound.of_marks
    · rfl
    · rfl
    · apply ConnectivityState.marks_foldl
      intro state _
      exact (state.marks_setRelayTaskRunning _ _).trans
        (ConnectivityState.marks_recordRelayManagementAction _ _ _)
    · exact fun _ removed => removed

/-- The connection that is removed is the current one of no endpoint any more. -/
theorem Sound.remove {self : RelaySystem PeerId} {connectionId : ConnectionId}
    {rest : List (HandlerStep PeerId)} (sound : Sound relayPeers self)
    (isPending : self.pending = .remove connectionId :: rest) :
    Sound relayPeers
      { self with indexes := self.indexes.remove connectionId, pending := rest } where
  coherent := coherent_remove sound.coherent connectionId
  statuses status member := by
    have before := sound.statuses status member
    refine ⟨before.relayPeerId, before.transportKind, before.configured, ?_⟩
    intro current isCurrent
    obtain ⟨⟨record, kind, found, rest_⟩, stays⟩ := before.current current isCurrent
    rw [isPending, List.mem_cons, not_or] at stays
    refine ⟨⟨record, kind, ?_, rest_⟩, stays.2⟩
    rw [byId_remove, if_neg fun same => stays.1 (congrArg _ same), found]

theorem Sound.handle {self : RelaySystem PeerId} {next : HandlerStep PeerId}
    {rest : List (HandlerStep PeerId)} (sound : Sound relayPeers self)
    (isPending : self.pending = next :: rest) :
    Sound relayPeers (self.handle relayPeers rest next) := by
  have fewer : ∀ connectionId, HandlerStep.remove connectionId ∈ rest →
      HandlerStep.remove connectionId ∈ self.pending := by
    intro connectionId removed
    rw [isPending]
    exact List.mem_cons_of_mem _ removed
  cases next with
  | listenerGone address error =>
      apply sound.of_marks
      · rfl
      · rfl
      · exact self.marks_recordMatching address false
      · intro connectionId removed
        apply fewer
        simpa [RelaySystem.handle, recordMatchingRelayListenerState] using removed
  | managementError endpoint text =>
      exact sound.of_marks rfl rfl (self.connectivity.marks_recordRelayManagementError _ _) fewer
  | trigger endpoint action =>
      unfold RelaySystem.handle
      dsimp only
      split
      · exact sound.of_marks rfl rfl (ConnectivityState.Marks.refl _) fewer
      · apply sound.of_marks
        · rfl
        · rfl
        · exact self.connectivity.marks_recordRelayManagementAction _ _
        · intro connectionId removed
          apply fewer
          simpa using removed
  | spawn group =>
      have spawned := sound.spawn group
      have samePending : (self.spawnRelayReconcileTask group).pending = self.pending := by
        unfold spawnRelayReconcileTask
        split <;> rfl
      apply spawned.of_marks
      · rfl
      · rfl
      · exact ConnectivityState.Marks.refl _
      · intro connectionId removed
        rw [samePending]
        exact fewer connectionId removed
  | remove connectionId => exact sound.remove isPending

/-- A new connection, which may become the current one of the endpoints it belongs to. -/
theorem Sound.connectionEstablished {self next : RelaySystem PeerId}
    {record : ConnectionRecord PeerId} (sound : Sound relayPeers self) (idle : self.pending = [])
    (taken : self.onEvent relayPeers (.connectionEstablished record) = some next) :
    Sound relayPeers next := by
  dsimp only [onEvent] at taken
  split at taken
  · cases taken
  · next fresh =>
      let inserted : ConnectionRecord PeerId :=
        { record with establishedAt := self.now, governance := {} }
      have notUsed : self.used inserted.connectionId = false := by simpa using fresh
      have coherent := coherent_insert sound.coherent notUsed
      have older : ∀ status ∈ self.connectivity.relayEndpointStatuses,
          StatusSound relayPeers (self.indexes.insert inserted) self.pending status := by
        intro status member
        have before := sound.statuses status member
        refine ⟨before.relayPeerId, before.transportKind, before.configured, ?_⟩
        intro current isCurrent
        obtain ⟨⟨other, kind, found, rest⟩, stays⟩ := before.current current isCurrent
        refine ⟨⟨other, kind, ?_, rest⟩, stays⟩
        have apart : current ≠ inserted.connectionId := by
          rintro rfl
          rw [(sound.coherent.byId found).2.2] at notUsed
          cases notUsed
        simpa [ConnectionIndexes.insert, apart] using found
      split at taken
      · cases taken
        exact ⟨coherent, older⟩
      · next direct =>
          split at taken
          · next endpoint found =>
              cases taken
              refine ⟨coherent, ?_⟩
              intro status member
              obtain ⟨before, beforeMember, rfl⟩ := List.mem_map.mp member
              have was := older before beforeMember
              split
              · next belongs =>
                  refine ⟨was.relayPeerId, was.transportKind, was.configured, ?_⟩
                  rintro connectionId ⟨⟩
                  refine ⟨?_, by simp [idle]⟩
                  obtain ⟨_, kind, isKind⟩ :=
                    RelayPeers.exists_relayTransportKind_of_endpointFor found
                  refine ⟨inserted, kind, by simp [ConnectionIndexes.insert, inserted], belongs.1,
                    belongs.2.symm, ?_⟩
                  rw [belongs.2]
                  exact addressTransportKind_eq_iff.mpr ⟨by simpa using direct, isKind⟩
              · exact was
          · cases taken
            exact ⟨coherent, older⟩

/-- A connection whose id an endpoint names as its current one leaves only through the handler
that clears it: the endpoint is found by the peer and the transport of the connection. -/
theorem StatusSound.endpointFor {indexes : ConnectionIndexes PeerId}
    {pending : List (HandlerStep PeerId)} {status : RelayEndpointStatusRecord PeerId}
    (sound : StatusSound relayPeers indexes pending status) {record : ConnectionRecord PeerId}
    (ofPeer : status.relayPeerId = some record.peerId) {remoteAddr : Multiaddr PeerId}
    {kind : RelayTransportKind} (sameKind : status.transportKind = addressTransportKind remoteAddr)
    (isKind : status.transportKind = kind.toAddressKind) :
    isCircuitAddr remoteAddr = false ∧
      ∃ endpoint, relayPeers.endpointFor record.peerId remoteAddr = some endpoint := by
  obtain ⟨direct, remoteKind⟩ := addressTransportKind_eq_iff.mp (sameKind.symm.trans isKind)
  obtain ⟨_, ownKind⟩ := addressTransportKind_eq_iff.mp (sound.transportKind.symm.trans isKind)
  refine ⟨direct, Option.isSome_iff_exists.mp ?_⟩
  apply List.find?_isSome.mpr
  refine ⟨RelayEndpoint.new status.relayAddr, sound.configured, ?_⟩
  have matched : (RelayEndpoint.new status.relayAddr).matchesTransport remoteAddr = true :=
    RelayEndpoint.matchesTransport_iff.mpr ⟨kind, ownKind, remoteKind⟩
  have samePeer : (RelayEndpoint.new status.relayAddr).peerId = some record.peerId :=
    sound.relayPeerId.symm.trans ofPeer
  simp [matched, samePeer]

/-- The statuses that lose the connection are cleared before it leaves the registry. -/
theorem Sound.connectionClosed {self next : RelaySystem PeerId} {connectionId : ConnectionId}
    {remoteAddr : Multiaddr PeerId} {cause : Option String} (sound : Sound relayPeers self)
    (taken : self.onEvent relayPeers (.connectionClosed connectionId remoteAddr cause) =
      some next) : Sound relayPeers next := by
  dsimp only [onEvent] at taken
  cases found : self.indexes.byId connectionId with
  | none => simp [found] at taken
  | some record =>
      simp only [found] at taken
      split at taken
      · cases taken
      · next sameTransport =>
          rw [not_not] at sameTransport
          -- what a status needs that has the connection as its current one
          have tracked : ∀ status ∈ self.connectivity.relayEndpointStatuses,
              status.currentDirectConnectionId = some connectionId →
                ConnectivityState.Loses record.peerId connectionId remoteAddr status ∧
                  isCircuitAddr remoteAddr = false ∧
                    ∃ endpoint, relayPeers.endpointFor record.peerId remoteAddr =
                      some endpoint := by
            intro status member isCurrent
            have statusSound := sound.statuses status member
            obtain ⟨⟨other, kind, foundAgain, ofPeer, ofTransport, isKind⟩, _⟩ :=
              statusSound.current connectionId isCurrent
            rw [found] at foundAgain
            cases foundAgain
            have sameKind := ofTransport.symm.trans sameTransport.symm
            exact ⟨⟨ofPeer, sameKind, isCurrent⟩, statusSound.endpointFor ofPeer sameKind isKind⟩
          -- without a current connection that is removed, the statuses are as they were
          have untouched : ∀ pending : List (HandlerStep PeerId),
              (∀ id, HandlerStep.remove id ∈ pending → id = connectionId) →
              ∀ status ∈ self.connectivity.relayEndpointStatuses,
                status.currentDirectConnectionId ≠ some connectionId →
                  StatusSound relayPeers self.indexes pending status := by
            intro pending removals status member notCurrent
            have before := sound.statuses status member
            refine ⟨before.relayPeerId, before.transportKind, before.configured, ?_⟩
            intro current isCurrent
            refine ⟨(before.current current isCurrent).1, ?_⟩
            intro removed
            rw [removals current removed] at isCurrent
            exact notCurrent isCurrent
          split at taken
          · next circuit =>
              cases taken
              refine ⟨sound.coherent, fun status member => ?_⟩
              apply untouched _ (by simp) status member
              intro isCurrent
              have direct := (tracked status member isCurrent).2.1
              rw [circuit] at direct
              cases direct
          · split at taken
            · next endpoint isEndpoint =>
                cases taken
                refine ⟨sound.coherent, ?_⟩
                intro status member
                obtain ⟨before, beforeMember, rfl⟩ := List.mem_map.mp member
                split
                · have was := sound.statuses before beforeMember
                  exact ⟨was.relayPeerId, was.transportKind, was.configured, nofun⟩
                · next keeps =>
                    apply untouched _ ?_ before beforeMember
                    · intro isCurrent
                      exact keeps (tracked before beforeMember isCurrent).1
                    · intro id removed
                      unfold closedSteps at removed
                      split at removed
                      · cases cause <;> simpa using removed
                      · simpa using removed
            · next noEndpoint =>
                cases taken
                refine ⟨sound.coherent, fun status member => ?_⟩
                apply untouched _ (by simp) status member
                intro isCurrent
                obtain ⟨_, _, endpoint, isEndpoint⟩ := tracked status member isCurrent
                rw [noEndpoint] at isEndpoint
                cases isEndpoint

/-- The connection of an accepted reservation is one of the peer in the registry. -/
theorem Sound.reservationAccepted {self : RelaySystem PeerId} (sound : Sound relayPeers self)
    (idle : self.pending = []) (relayPeerId : PeerId) (change : RelayManagementAction) :
    Sound relayPeers
      { self with
        connectivity := self.connectivity.recordRelayReservationAccepted self.now relayPeerId
          change (self.indexes.currentDirectRelayConnections relayPeerId) } where
  coherent := sound.coherent
  statuses status member := by
    obtain ⟨before, beforeMember, rfl⟩ := List.mem_map.mp member
    have was := sound.statuses before beforeMember
    split
    · next ofPeer =>
        split
        · next snapshot isFound =>
            have same : SameConnection
                { before with currentDirectConnectionId := some snapshot.connectionId }
                (ConnectivityState.acceptReservation self.now change snapshot.connectionId
                  before) := by
              cases change <;> exact ⟨rfl, rfl, rfl, rfl⟩
            refine StatusSound.of_sameConnection ?_ same
            refine ⟨was.relayPeerId, was.transportKind, was.configured, ?_⟩
            rintro connectionId ⟨⟩
            refine ⟨?_, by simp [idle]⟩
            obtain ⟨record, listed, sameId, ofTransport, kind, isKind⟩ :=
              mem_currentDirectRelayConnections (List.mem_of_find?_eq_some isFound)
            obtain ⟨found, recordPeer⟩ := (mem_recordsForPeer sound.coherent).mp listed
            have sameTransport : snapshot.transportKind = before.transportKind := by
              simpa using List.find?_some isFound
            refine ⟨record, kind, sameId ▸ found, ?_, ofTransport.trans sameTransport,
              sameTransport ▸ isKind⟩
            rw [recordPeer]
            exact ofPeer
        · exact was
    · exact was

theorem Sound.event {self next : RelaySystem PeerId} {event : RelayStep PeerId}
    (sound : Sound relayPeers self) (idle : self.pending = [])
    (taken : self.onEvent relayPeers event = some next) : Sound relayPeers next := by
  cases event with
  | connectionEstablished record => exact sound.connectionEstablished idle taken
  | connectionClosed connectionId remoteAddr cause => exact sound.connectionClosed taken
  | reservationAccepted relayPeerId renewal =>
      cases taken
      exact sound.reservationAccepted idle relayPeerId _
  | newListenAddr addr =>
      dsimp only [onEvent] at taken
      split at taken
      · cases taken
        exact sound.of_marks rfl rfl (self.marks_recordMatching addr true) fun _ removed => removed
      · split at taken
        · split at taken
          · cases taken
            exact sound.of_marks rfl rfl (ConnectivityState.Marks.refl _) (by simp)
          · cases taken
            exact sound
        · cases taken
          exact sound
  | expiredListenAddr addr =>
      cases taken
      apply sound.of_marks
      · rfl
      · rfl
      · exact self.marks_recordMatching addr false
      · intro connectionId removed
        simp [RelaySystem.handle] at removed
  | listenerClosed addresses reason =>
      cases taken
      exact sound.of_marks rfl rfl (ConnectivityState.Marks.refl _) (by simp)
  | _ => cases taken

theorem Sound.act {self next : RelaySystem PeerId} {action : RelayStep PeerId}
    (sound : Sound relayPeers self) (taken : self.act relayPeers action = some next) :
    Sound relayPeers next := by
  have ofEvent : ∀ event, (if self.pending.isEmpty then self.onEvent relayPeers event else none) =
      some next → Sound relayPeers next := by
    intro event arrived
    split at arrived
    · next idle => exact sound.event (List.isEmpty_iff.mp idle) arrived
    · cases arrived
  have marked : ∀ {connectivity tasks}, self.connectivity.Marks connectivity →
      Sound relayPeers { self with connectivity, tasks } :=
    fun marks => sound.of_marks rfl rfl marks fun _ removed => removed
  cases action with
  | handle =>
      dsimp only [RelaySystem.act] at taken
      split at taken
      · cases taken
      · next isPending =>
          cases taken
          exact sound.handle isPending
  | taskCheck peerId endpoint =>
      dsimp only [RelaySystem.act] at taken
      split at taken
      · split at taken
        · cases taken
          exact marked (ConnectivityState.Marks.refl _)
        · cases taken
      · cases taken
  | taskListenerCheck peerId endpoint registered =>
      dsimp only [RelaySystem.act] at taken
      split at taken
      · cases taken
        exact marked (self.connectivity.marks_recordRelayListenerCheck _ _ _)
      · cases taken
  | taskError peerId endpoint error =>
      dsimp only [RelaySystem.act] at taken
      split at taken
      · cases taken
        exact marked (self.connectivity.marks_recordRelayManagementError _ _)
      · cases taken
  | taskClear peerId =>
      dsimp only [RelaySystem.act] at taken
      split at taken
      · cases taken
        apply marked
        refine (ConnectivityState.marks_foldl _ _ ?_).trans
          (ConnectivityState.marks_recordRelayManagementAction _ _ _)
        exact fun state endpoint => state.marks_setRelayTaskRunning _ _
      · cases taken
  | taskDrop peerId =>
      dsimp only [RelaySystem.act] at taken
      split at taken
      · cases taken
        exact marked (ConnectivityState.Marks.refl _)
      · cases taken
  | auditListenerCheck endpoint registered =>
      cases registered with
      | ok registered =>
          cases taken
          exact marked (self.connectivity.marks_recordRelayListenerCheck _ _ _)
      | error error =>
          cases taken
          exact marked ((self.connectivity.marks_recordRelayManagementError _ _).trans
            (ConnectivityState.marks_recordRelayListenerCheck _ _ _ _))
  | auditReconcile peerId registered =>
      dsimp only [RelaySystem.act] at taken
      split at taken
      · split at taken
        · cases taken
        · cases taken
          apply Sound.spawn
          apply marked
          exact ConnectivityState.marks_foldl _ _ fun state endpoint =>
            state.marks_recordRelayManagementAction _ _
      · cases taken
  | setClock now =>
      cases taken
      exact sound.of_marks rfl rfl (ConnectivityState.Marks.refl _) fun _ removed => removed
  | _ => exact ofEvent _ taken

theorem Sound.step {self next : RelaySystem PeerId} {action : RelayStep PeerId}
    (sound : Sound relayPeers self) (taken : self.step relayPeers action = some next) :
    Sound relayPeers next := by
  obtain ⟨acted, isActed, rfl⟩ := Option.map_eq_some_iff.mp taken
  have after := sound.act isActed
  exact ⟨after.coherent, after.statuses⟩

/-- The endpoint of a status has just been registered. -/
structure Registered (relayPeers : RelayPeers PeerId) (status : RelayEndpointStatusRecord PeerId) :
    Prop where
  relayPeerId : status.relayPeerId = peerIdFromAddr status.relayAddr
  transportKind : status.transportKind = addressTransportKind status.relayAddr
  configured : RelayEndpoint.new status.relayAddr ∈ relayPeers.allEndpoints
  current : status.currentDirectConnectionId = none

theorem registered_foldl {addresses : List (Multiaddr PeerId)} (rest : List (Multiaddr PeerId))
    (state : ConnectivityState PeerId) (among : rest ⊆ addresses)
    (registered : ∀ status ∈ state.relayEndpointStatuses,
      Registered (RelayPeers.new addresses) status) :
    ∀ status ∈ (rest.foldl ConnectivityState.registerRelayEndpoint state).relayEndpointStatuses,
      Registered (RelayPeers.new addresses) status := by
  induction rest generalizing state with
  | nil => exact registered
  | cons address others inductionHypothesis =>
      rw [List.cons_subset] at among
      apply inductionHypothesis _ among.2
      intro status isStatus
      unfold ConnectivityState.registerRelayEndpoint at isStatus
      split at isStatus
      · exact registered status isStatus
      · rw [List.mem_append, List.mem_singleton] at isStatus
        rcases isStatus with before | rfl
        · exact registered status before
        · exact ⟨rfl, rfl, List.mem_map_of_mem among.1, rfl⟩

theorem registered_of_mem {addresses : List (Multiaddr PeerId)}
    {status : RelayEndpointStatusRecord PeerId}
    (member : status ∈
      (ConnectivityState.register (RelayPeers.new addresses)).relayEndpointStatuses) :
    Registered (RelayPeers.new addresses) status := by
  have folded : ConnectivityState.register (RelayPeers.new addresses) =
      addresses.foldl ConnectivityState.registerRelayEndpoint { relayEndpointStatuses := [] } := by
    simp [ConnectivityState.register, RelayPeers.new, List.foldl_map, RelayEndpoint.new]
  rw [folded] at member
  apply registered_foldl addresses _ (List.Subset.refl _) _ status member
  intro old isOld
  cases isOld

theorem sound_start (addresses : List (Multiaddr PeerId)) (now : SystemTime) :
    Sound (RelayPeers.new addresses) (start (RelayPeers.new addresses) now) where
  coherent := coherent_empty _
  statuses status member := by
    have registered := registered_of_mem member
    refine ⟨registered.relayPeerId, registered.transportKind, registered.configured, ?_⟩
    intro connectionId isCurrent
    rw [registered.current] at isCurrent
    cases isCurrent

/-- Whatever the events, the tasks and the audit do, the current connection of an endpoint is
one in the registry: to the relay's peer, not relayed itself, over the endpoint's transport. -/
theorem current_connection_registered (addresses : List (Multiaddr PeerId)) (now : SystemTime)
    {actions : List (RelayStep PeerId)} {final : RelaySystem PeerId}
    (reached : run (step (RelayPeers.new addresses)) (start (RelayPeers.new addresses) now)
      actions = some final) :
    ∀ status ∈ final.connectivity.relayEndpointStatuses, ∀ connectionId,
      status.currentDirectConnectionId = some connectionId →
        ∃ record, final.indexes.byId connectionId = some record ∧
          record.connectionId = connectionId ∧ status.relayPeerId = some record.peerId ∧
            record.isRelay = false ∧
              addressTransportKind record.remoteAddr = status.transportKind := by
  have sound : Sound (RelayPeers.new addresses) final := by
    refine run_induction (motive := fun _ system => Sound (RelayPeers.new addresses) system)
      (sound_start addresses now) ?_ reached
    intro _ state action next _ before taken
    exact Sound.step before taken
  intro status member connectionId isCurrent
  obtain ⟨⟨record, kind, found, ofPeer, ofTransport, isKind⟩, _⟩ :=
    (sound.statuses status member).current connectionId isCurrent
  have direct := (addressTransportKind_eq_iff.mp (ofTransport.trans isKind)).1
  exact ⟨record, found, (sound.coherent.byId found).1, ofPeer, direct, ofTransport⟩

/-- The relay 7 over one transport. -/
def relayAddress (transport : Protocol Nat) : Multiaddr Nat :=
  [.ip4 0x08080808, transport, .p2p 7]

/-- A connection to the relay. -/
def relayRecord (connectionId : ConnectionId) (transport : Protocol Nat) : ConnectionRecord Nat :=
  { peerId := 7
    connectionId
    direction := .outbound
    remoteAddr := relayAddress transport
    establishedAt := 0
    governance := {} }

/-- The second TCP connection closes, and the next reservation names the first one again. -/
theorem current_connection_registered_demo :
    let relayPeers := RelayPeers.new [relayAddress (.udp 4001), relayAddress (.tcp 4001)]
    ∃ final,
      run (step relayPeers) (start relayPeers 0)
          [.connectionEstablished (relayRecord 1 (.tcp 4001)),
            .connectionEstablished (relayRecord 2 (.udp 4001)),
            .connectionEstablished (relayRecord 3 (.tcp 4001)),
            .connectionClosed 3 (relayAddress (.tcp 4001)) (some "timeout"),
            .handle, .handle, .handle, .handle, .reservationAccepted 7 false] = some final ∧
        final.connectivity.relayEndpointStatuses.map
            (fun status => status.currentDirectConnectionId) = [some 2, some 1] ∧
          ∀ status ∈ final.connectivity.relayEndpointStatuses, ∀ connectionId,
            status.currentDirectConnectionId = some connectionId →
              ∃ record, final.indexes.byId connectionId = some record ∧
                record.connectionId = connectionId ∧ status.relayPeerId = some record.peerId ∧
                  record.isRelay = false ∧
                    addressTransportKind record.remoteAddr = status.transportKind := by
  intro relayPeers
  have evaluated : ((run (step relayPeers) (start relayPeers 0)
      [.connectionEstablished (relayRecord 1 (.tcp 4001)),
        .connectionEstablished (relayRecord 2 (.udp 4001)),
        .connectionEstablished (relayRecord 3 (.tcp 4001)),
        .connectionClosed 3 (relayAddress (.tcp 4001)) (some "timeout"),
        .handle, .handle, .handle, .handle, .reservationAccepted 7 false]).map fun final =>
          decide (final.connectivity.relayEndpointStatuses.map
            (fun status => status.currentDirectConnectionId) = [some 2, some 1])) =
        some true := by
    decide +kernel
  obtain ⟨final, reached, facts⟩ := Option.map_eq_some_iff.mp evaluated
  exact ⟨final, reached, of_decide_eq_true facts, current_connection_registered _ 0 reached⟩

end RelaySystem

end Fungi.Swarm
