import Fungi.Swarm.ConnectionIndexes

/-!
# Relay endpoints

The configured relays of `crates/swarm/src/libp2p/relay.rs`, grouped by peer, and the status that
`crates/swarm/src/state/connectivity.rs` keeps for each of their addresses.
-/

namespace Fungi.Swarm

variable {PeerId : Type} [DecidableEq PeerId]

/-! ## Configured endpoints -/

/-- An address of a relay, with what it says of peer and transport. -/
structure RelayEndpoint (PeerId : Type) where
  addr : Multiaddr PeerId
  peerId : Option PeerId
  transportKind : Option RelayTransportKind
  deriving DecidableEq

namespace RelayEndpoint

/-- The endpoint of an address. -/
def new (addr : Multiaddr PeerId) : RelayEndpoint PeerId :=
  { addr, peerId := peerIdFromAddr addr, transportKind := relayTransportKind addr }

/-- What the listeners over a relay begin with. -/
def listenerPrefix (self : RelayEndpoint PeerId) : Multiaddr PeerId := self.addr ++ [.p2pCircuit]

/-- Whether a listener is one over this endpoint. -/
def matchesListener (self : RelayEndpoint PeerId) (listenerAddr : Multiaddr PeerId) : Bool :=
  multiaddrStartsWith listenerAddr self.listenerPrefix

/-- Whether a connection uses the transport of this endpoint. -/
def matchesTransport (self : RelayEndpoint PeerId) (remoteAddr : Multiaddr PeerId) : Bool :=
  match self.transportKind, relayTransportKind remoteAddr with
  | some left, some right => left = right
  | _, _ => false

omit [DecidableEq PeerId] in
theorem matchesTransport_iff {endpoint : RelayEndpoint PeerId} {remoteAddr : Multiaddr PeerId} :
    endpoint.matchesTransport remoteAddr = true ↔
      ∃ kind, endpoint.transportKind = some kind ∧ relayTransportKind remoteAddr = some kind := by
  unfold matchesTransport
  cases endpoint.transportKind <;> cases relayTransportKind remoteAddr <;> simp [eq_comm]

end RelayEndpoint

/-- The endpoints of one relay. -/
structure RelayPeerGroup (PeerId : Type) where
  peerId : PeerId
  endpoints : List (RelayEndpoint PeerId)

/-- The relays in use. -/
structure RelayPeers (PeerId : Type) where
  groups : List (RelayPeerGroup PeerId)
  allEndpoints : List (RelayEndpoint PeerId)

namespace RelayPeers

/-- A group has the endpoints of one peer that have a transport, those over UDP first. -/
def new (relayAddresses : List (Multiaddr PeerId)) : RelayPeers PeerId :=
  let allEndpoints := relayAddresses.map RelayEndpoint.new
  let usable := allEndpoints.filter fun endpoint => endpoint.transportKind.isSome
  let peerOrder := (usable.filterMap fun endpoint => endpoint.peerId).eraseDups
  let ofPeer (peerId : PeerId) (kind : RelayTransportKind) := usable.filter fun endpoint =>
    endpoint.peerId = some peerId && endpoint.transportKind = some kind
  { groups := peerOrder.map fun peerId =>
      { peerId, endpoints := ofPeer peerId .udp ++ ofPeer peerId .tcp }
    allEndpoints }

/-- The endpoints of a relay. -/
def groupForPeer (self : RelayPeers PeerId) (relayPeerId : PeerId) :
    Option (RelayPeerGroup PeerId) :=
  self.groups.find? fun group => group.peerId = relayPeerId

/-- The endpoints beside the given one. -/
def groupForEndpoint (self : RelayPeers PeerId) (endpoint : RelayEndpoint PeerId) :
    Option (RelayPeerGroup PeerId) :=
  endpoint.peerId.bind self.groupForPeer

/-- The relays that can be reached over a transport. -/
def groupsForTransport (self : RelayPeers PeerId) (transportKind : RelayTransportKind) :
    List (RelayPeerGroup PeerId) :=
  self.groups.filter fun group =>
    group.endpoints.any fun endpoint => endpoint.transportKind = some transportKind

/-- The loops of `record_relay_connection_established` and `record_relay_connection_closed`,
which stop at the first endpoint of the peer with the transport. -/
def endpointFor (self : RelayPeers PeerId) (peerId : PeerId) (remoteAddr : Multiaddr PeerId) :
    Option (RelayEndpoint PeerId) :=
  self.allEndpoints.find? fun endpoint =>
    endpoint.peerId = some peerId && endpoint.matchesTransport remoteAddr

theorem exists_groupForPeer {self : RelayPeers PeerId} {group : RelayPeerGroup PeerId}
    (member : group ∈ self.groups) :
    ∃ found, self.groupForPeer group.peerId = some found ∧ found.peerId = group.peerId := by
  cases found : self.groupForPeer group.peerId with
  | none =>
      have notFound := List.find?_eq_none.mp found group member
      simp at notFound
  | some other => exact ⟨other, rfl, by simpa using List.find?_some found⟩

theorem exists_relayTransportKind_of_endpointFor {self : RelayPeers PeerId} {peerId : PeerId}
    {remoteAddr : Multiaddr PeerId} {endpoint : RelayEndpoint PeerId}
    (found : self.endpointFor peerId remoteAddr = some endpoint) :
    endpoint.peerId = some peerId ∧ ∃ kind, relayTransportKind remoteAddr = some kind := by
  have holds := List.find?_some found
  simp only [Bool.and_eq_true, decide_eq_true_eq, RelayEndpoint.matchesTransport_iff] at holds
  obtain ⟨ofPeer, kind, _, isKind⟩ := holds
  exact ⟨ofPeer, kind, isKind⟩

end RelayPeers

/-! ## Endpoint statuses -/

/-- What was done about a relay. -/
inductive RelayManagementAction where
  | reconcileTaskStarted
  | reconcileTaskSucceeded
  | listenerMissingReconcile
  | directConnectionMissingReconcile
  | reservationEstablished
  | reservationRenewed
  | directConnectionClosed
  deriving DecidableEq

/-- What is known of the state of an endpoint. -/
structure RelayEndpointStatusRecord (PeerId : Type) where
  relayAddr : Multiaddr PeerId
  relayPeerId : Option PeerId
  transportKind : AddressTransportKind
  listenerRegistered : Bool := false
  taskRunning : Bool := false
  currentDirectConnectionId : Option ConnectionId := none
  lastDirectConnectionEstablishedAt : Option SystemTime := none
  lastListenerSeenAt : Option SystemTime := none
  lastListenerMissingAt : Option SystemTime := none
  lastReservationAcceptedAt : Option SystemTime := none
  lastReservationEstablishedAt : Option SystemTime := none
  lastReservationRenewedAt : Option SystemTime := none
  lastDirectConnectionClosedAt : Option SystemTime := none
  lastManagementAction : Option RelayManagementAction := none
  lastError : Option String := none

/-- A direct connection to a relay. -/
structure RelayDirectConnectionSnapshot where
  transportKind : AddressTransportKind
  connectionId : ConnectionId

/-- The statuses, one for each address. -/
structure ConnectivityState (PeerId : Type) where
  relayEndpointStatuses : List (RelayEndpointStatusRecord PeerId)

/-- A listener and a direct connection make an endpoint ready. -/
def relayEndpointStatusReady (status : RelayEndpointStatusRecord PeerId) : Bool :=
  status.listenerRegistered && status.currentDirectConnectionId.isSome

namespace ConnectivityState

/-- An endpoint has one status. -/
def registerRelayEndpoint (self : ConnectivityState PeerId) (relayAddr : Multiaddr PeerId) :
    ConnectivityState PeerId :=
  if self.relayEndpointStatuses.any fun status => status.relayAddr = relayAddr then self
  else
    let status :=
      { relayAddr
        relayPeerId := peerIdFromAddr relayAddr
        transportKind := addressTransportKind relayAddr }
    { self with relayEndpointStatuses := self.relayEndpointStatuses ++ [status] }

/-- `get_mut` of the status of one address. -/
def modifyAt (self : ConnectivityState PeerId) (relayAddr : Multiaddr PeerId)
    (change : RelayEndpointStatusRecord PeerId → RelayEndpointStatusRecord PeerId) :
    ConnectivityState PeerId :=
  { self with
    relayEndpointStatuses := self.relayEndpointStatuses.map fun status =>
      if status.relayAddr = relayAddr then change status else status }

/-- Note whether a task works on the endpoint. -/
def setRelayTaskRunning (self : ConnectivityState PeerId) (relayAddr : Multiaddr PeerId)
    (taskRunning : Bool) : ConnectivityState PeerId :=
  self.modifyAt relayAddr fun status => { status with taskRunning }

/-- Note whether the listener was there when it was looked for. -/
def recordRelayListenerCheck (self : ConnectivityState PeerId) (now : SystemTime)
    (relayAddr : Multiaddr PeerId) (listenerRegistered : Bool) : ConnectivityState PeerId :=
  self.modifyAt relayAddr fun status =>
    if listenerRegistered then
      { status with listenerRegistered, lastListenerSeenAt := some now }
    else { status with listenerRegistered, lastListenerMissingAt := some now }

/-- Note what was done about the endpoint. -/
def recordRelayManagementAction (self : ConnectivityState PeerId) (relayAddr : Multiaddr PeerId)
    (action : RelayManagementAction) : ConnectivityState PeerId :=
  self.modifyAt relayAddr fun status => { status with lastManagementAction := some action }

/-- Note what went wrong with the endpoint. -/
def recordRelayManagementError (self : ConnectivityState PeerId) (relayAddr : Multiaddr PeerId)
    (error : String) : ConnectivityState PeerId :=
  self.modifyAt relayAddr fun status => { status with lastError := some error }

/-- The reservation of one endpoint was accepted over a connection. -/
def acceptReservation (now : SystemTime) (change : RelayManagementAction)
    (connectionId : ConnectionId) (status : RelayEndpointStatusRecord PeerId) :
    RelayEndpointStatusRecord PeerId :=
  let status :=
    { status with
      currentDirectConnectionId := some connectionId
      lastReservationAcceptedAt := some now
      lastManagementAction := some change }
  match change with
  | .reservationEstablished => { status with lastReservationEstablishedAt := some now }
  | .reservationRenewed => { status with lastReservationRenewedAt := some now }
  | _ => status

/-- An accepted reservation gives the endpoints of the relay a direct connection of their
transport. -/
def recordRelayReservationAccepted (self : ConnectivityState PeerId) (now : SystemTime)
    (relayPeerId : PeerId) (change : RelayManagementAction)
    (directConnections : List RelayDirectConnectionSnapshot) : ConnectivityState PeerId :=
  { self with
    relayEndpointStatuses := self.relayEndpointStatuses.map fun status =>
      if status.relayPeerId = some relayPeerId then
        match directConnections.find? fun snapshot =>
          snapshot.transportKind = status.transportKind with
        | some snapshot => acceptReservation now change snapshot.connectionId status
        | none => status
      else status }

/-- A new connection to a relay is the current one of the endpoints of its transport. -/
def recordRelayConnectionEstablished (self : ConnectivityState PeerId) (now : SystemTime)
    (relayPeerId : PeerId) (connectionId : ConnectionId) (remoteAddr : Multiaddr PeerId) :
    ConnectivityState PeerId :=
  { self with
    relayEndpointStatuses := self.relayEndpointStatuses.map fun status =>
      if status.relayPeerId = some relayPeerId ∧
          status.transportKind = addressTransportKind remoteAddr then
        { status with
          currentDirectConnectionId := some connectionId
          lastDirectConnectionEstablishedAt := some now }
      else status }

/-- The status has lost the connection that closes. -/
def Loses (relayPeerId : PeerId) (connectionId : ConnectionId) (remoteAddr : Multiaddr PeerId)
    (status : RelayEndpointStatusRecord PeerId) : Prop :=
  status.relayPeerId = some relayPeerId ∧
    status.transportKind = addressTransportKind remoteAddr ∧
      status.currentDirectConnectionId = some connectionId

instance (relayPeerId : PeerId) (connectionId : ConnectionId) (remoteAddr : Multiaddr PeerId) :
    DecidablePred (Loses relayPeerId connectionId remoteAddr) :=
  fun _ => inferInstanceAs (Decidable (_ ∧ _ ∧ _))

/-- Also answers whether the connection was the current one of an endpoint. -/
def recordRelayConnectionClosed (self : ConnectivityState PeerId) (now : SystemTime)
    (relayPeerId : PeerId) (connectionId : ConnectionId) (remoteAddr : Multiaddr PeerId) :
    Bool × ConnectivityState PeerId :=
  (self.relayEndpointStatuses.any fun status => Loses relayPeerId connectionId remoteAddr status,
    { self with
      relayEndpointStatuses := self.relayEndpointStatuses.map fun status =>
        if Loses relayPeerId connectionId remoteAddr status then
          { status with
            currentDirectConnectionId := none
            lastDirectConnectionClosedAt := some now
            lastManagementAction := some .directConnectionClosed }
        else status })

/-- Whether an endpoint is ready. -/
def relayEndpointReady (self : ConnectivityState PeerId) (relayAddr : Multiaddr PeerId) : Bool :=
  self.relayEndpointStatuses.any fun status =>
    status.relayAddr = relayAddr && relayEndpointStatusReady status

/-- Whether any endpoint of a relay is ready. -/
def relayPeerReady (self : ConnectivityState PeerId) (relayPeerId : PeerId) : Bool :=
  self.relayEndpointStatuses.any fun status =>
    status.relayPeerId = some relayPeerId && relayEndpointStatusReady status

/-- `register_with_state`. -/
def register (relayPeers : RelayPeers PeerId) : ConnectivityState PeerId :=
  relayPeers.allEndpoints.foldl (fun state endpoint => state.registerRelayEndpoint endpoint.addr)
    { relayEndpointStatuses := [] }

end ConnectivityState

/-- `current_direct_relay_connections`: the first outbound connection over each transport. -/
def ConnectionIndexes.currentDirectRelayConnections (self : ConnectionIndexes PeerId)
    (peerId : PeerId) : List RelayDirectConnectionSnapshot :=
  (self.recordsForPeer peerId).foldl
    (fun directConnections connection =>
      let transportKind := addressTransportKind connection.remoteAddr
      if connection.direction ≠ .outbound then directConnections
      else if (transportKind = .tcp ∨ transportKind = .udp) ∧
          ¬ directConnections.any fun snapshot => snapshot.transportKind = transportKind then
        directConnections ++ [{ transportKind, connectionId := connection.connectionId }]
      else directConnections)
    []

omit [DecidableEq PeerId] in
/-- Every snapshot is of a connection to the peer, over the transport it names. -/
theorem ConnectionIndexes.mem_currentDirectRelayConnections {self : ConnectionIndexes PeerId}
    {peerId : PeerId} {snapshot : RelayDirectConnectionSnapshot}
    (member : snapshot ∈ self.currentDirectRelayConnections peerId) :
    ∃ connection ∈ self.recordsForPeer peerId,
      connection.connectionId = snapshot.connectionId ∧
        addressTransportKind connection.remoteAddr = snapshot.transportKind ∧
          ∃ kind, snapshot.transportKind = RelayTransportKind.toAddressKind kind := by
  unfold currentDirectRelayConnections at member
  generalize listed : self.recordsForPeer peerId = connections at member ⊢
  clear listed
  -- what holds of the snapshots taken so far holds of one more
  suffices every : ∀ taken : List RelayDirectConnectionSnapshot,
      (snapshot ∈ taken → ∃ connection ∈ connections,
        connection.connectionId = snapshot.connectionId ∧
          addressTransportKind connection.remoteAddr = snapshot.transportKind ∧
            ∃ kind, snapshot.transportKind = RelayTransportKind.toAddressKind kind) →
      ∀ rest : List (ConnectionRecord PeerId), rest ⊆ connections →
        snapshot ∈ rest.foldl _ taken → _ from
    every [] nofun connections (List.Subset.refl _) member
  intro taken sound rest
  induction rest generalizing taken with
  | nil =>
      intro _ inTaken
      exact sound inTaken
  | cons connection others inductionHypothesis =>
      intro among inFold
      rw [List.cons_subset] at among
      apply inductionHypothesis _ _ among.2 inFold
      dsimp only
      intro inNext
      split at inNext
      · exact sound inNext
      · split at inNext
        · next isNew =>
            rw [List.mem_append, List.mem_singleton] at inNext
            rcases inNext with before | rfl
            · exact sound before
            · refine ⟨connection, among.1, rfl, rfl, ?_⟩
              rcases isNew.1 with isTcp | isUdp
              · exact ⟨.tcp, isTcp⟩
              · exact ⟨.udp, isUdp⟩
        · exact sound inNext

end Fungi.Swarm
