import Mathlib.Data.Prod.Lex
import Mathlib.Data.Set.Function
import Mathlib.Data.List.Induction
import Fungi.Lib.FirstIndex
import Fungi.Swarm.RelayEndpoints

/-!
# Circuit addresses

The addresses over which `circuit_addresses_for_target` of `crates/swarm/src/libp2p/relay.rs` dials
a peer through the configured relays.  The ready endpoint of each group comes first, and then every
other endpoint in the order of the groups.
-/

namespace Fungi.Swarm

open Fungi.Lib

variable {PeerId : Type} [DecidableEq PeerId]

/-- The first endpoint of a relay that is ready. -/
def RelayPeerGroup.activeEndpoint (self : RelayPeerGroup PeerId)
    (state : ConnectivityState PeerId) : Option (RelayEndpoint PeerId) :=
  self.endpoints.find? fun endpoint => state.relayEndpointReady endpoint.addr

/-- The address of a peer over a relay. -/
def peerAddrWithRelay (peerId : PeerId) (relay : Multiaddr PeerId) : Multiaddr PeerId :=
  relay ++ [.p2pCircuit] ++ [.p2p peerId]

/-- The relays pushed so far, and the texts seen. -/
abbrev PushedRelays (PeerId : Type) := List (Multiaddr PeerId) × List String

/-- A relay address is pushed once. -/
def pushRelayAddrOnce (text : Multiaddr PeerId → String) (pushed : PushedRelays PeerId)
    (relayAddr : Multiaddr PeerId) : PushedRelays PeerId :=
  if text relayAddr ∈ pushed.2 then pushed
  else (pushed.1 ++ [relayAddr], pushed.2 ++ [text relayAddr])

/-- `text` is how a multiaddress is written. -/
def RelayPeers.circuitAddressesForTarget (text : Multiaddr PeerId → String)
    (self : RelayPeers PeerId) (targetPeer : PeerId) (state : ConnectivityState PeerId) :
    List (Multiaddr PeerId) :=
  let active := self.groups.foldl
    (fun pushed group =>
      match group.activeEndpoint state with
      | some activeEndpoint => pushRelayAddrOnce text pushed activeEndpoint.addr
      | none => pushed)
    ([], [])
  let relays := self.groups.foldl
    (fun pushed group =>
      group.endpoints.foldl
        (fun pushed endpoint => pushRelayAddrOnce text pushed endpoint.addr) pushed)
    active
  relays.1.map (peerAddrWithRelay targetPeer)

/-! ## The loop that groups the endpoints -/

/-- What `RelayPeers::new` has collected from the endpoints it has read. -/
structure CollectedEndpoints (PeerId : Type) where
  peerOrder : List PeerId
  endpointsByPeer : PeerId → Option (List (RelayEndpoint PeerId))

namespace CollectedEndpoints

/-- Nothing has been collected. -/
def empty : CollectedEndpoints PeerId := { peerOrder := [], endpointsByPeer := fun _ => none }

/-- An endpoint without a transport or a peer is dropped. -/
def add (self : CollectedEndpoints PeerId) (relayEndpoint : RelayEndpoint PeerId) :
    CollectedEndpoints PeerId :=
  match relayEndpoint.transportKind, relayEndpoint.peerId with
  | some _, some peerId =>
      let isNew := (self.endpointsByPeer peerId).isNone
      let endpoints := (self.endpointsByPeer peerId).getD []
      { peerOrder := if isNew then self.peerOrder ++ [peerId] else self.peerOrder
        endpointsByPeer :=
          Function.update self.endpointsByPeer peerId (some (endpoints ++ [relayEndpoint])) }
  | _, _ => self

/-- One group for each relay, UDP before TCP. -/
def groups (self : CollectedEndpoints PeerId) : List (RelayPeerGroup PeerId) :=
  self.peerOrder.filterMap fun peerId =>
    (self.endpointsByPeer peerId).map fun endpoints =>
      { peerId
        endpoints :=
          (endpoints.filter fun endpoint => endpoint.transportKind = some .udp) ++
            endpoints.filter fun endpoint => endpoint.transportKind = some .tcp }

/-- The endpoints that name a transport. -/
def usable (endpoints : List (RelayEndpoint PeerId)) : List (RelayEndpoint PeerId) :=
  endpoints.filter fun endpoint => endpoint.transportKind.isSome

/-- The endpoints of one relay. -/
def usableOf (endpoints : List (RelayEndpoint PeerId)) (peerId : PeerId) :
    List (RelayEndpoint PeerId) :=
  (usable endpoints).filter fun endpoint => endpoint.peerId = some peerId

theorem usableOf_eq_nil_iff {endpoints : List (RelayEndpoint PeerId)} {peerId : PeerId} :
    usableOf endpoints peerId = [] ↔
      peerId ∉ (usable endpoints).filterMap fun endpoint => endpoint.peerId := by
  simp only [usableOf, List.filter_eq_nil_iff, decide_eq_true_eq, List.mem_filterMap, not_exists,
    not_and]

/-- The order holds each peer once, and the map the endpoints of the peers in the order. -/
theorem collected (endpoints : List (RelayEndpoint PeerId)) :
    (endpoints.foldl add empty).peerOrder =
        ((usable endpoints).filterMap fun endpoint => endpoint.peerId).eraseDups ∧
      ∀ peerId, (endpoints.foldl add empty).endpointsByPeer peerId =
        if usableOf endpoints peerId = [] then none else some (usableOf endpoints peerId) := by
  induction endpoints using List.reverseRecOn with
  | nil => exact ⟨rfl, fun _ => rfl⟩
  | append_singleton read endpoint inductionHypothesis =>
      obtain ⟨order, byPeer⟩ := inductionHypothesis
      rw [List.foldl_append, List.foldl_cons, List.foldl_nil]
      generalize read.foldl add empty = before at order byPeer
      unfold add
      cases kind : endpoint.transportKind with
      | none => simpa [usable, usableOf, kind, order] using byPeer
      | some transport =>
          cases peer : endpoint.peerId with
          | none => simpa [usable, usableOf, kind, peer, order] using byPeer
          | some peerId =>
              have isNew : (before.endpointsByPeer peerId).isNone = true ↔
                  peerId ∉ (usable read).filterMap fun endpoint => endpoint.peerId := by
                rw [byPeer, ← usableOf_eq_nil_iff]
                split
                · next isNil => simp [isNil]
                · next notNil => simp [notNil]
              have before : (before.endpointsByPeer peerId).getD [] = usableOf read peerId := by
                rw [byPeer]
                split
                · next isNil => simp [isNil]
                · rfl
              have added : usable (read ++ [endpoint]) = usable read ++ [endpoint] := by
                simp [usable, kind]
              constructor
              · simp only [isNew, added, List.filterMap_append, List.filterMap_cons, peer,
                  List.filterMap_nil, eraseDups_snoc, order, ite_not]
              · intro other
                simp only [before, usableOf, added, List.filter_append]
                by_cases same : peerId = other
                · subst same
                  simp [peer]
                · simpa [Function.update_of_ne (Ne.symm same), peer, same, usableOf] using
                    byPeer other

end CollectedEndpoints

/-- The loop of `RelayPeers::new` and its maps come to the same groups. -/
theorem groups_eq_collected (relayAddresses : List (Multiaddr PeerId)) :
    (((relayAddresses.map RelayEndpoint.new).foldl CollectedEndpoints.add
      CollectedEndpoints.empty).groups) = (RelayPeers.new relayAddresses).groups := by
  obtain ⟨order, byPeer⟩ :=
    CollectedEndpoints.collected (relayAddresses.map RelayEndpoint.new)
  unfold CollectedEndpoints.groups
  rw [order]
  refine Eq.trans (List.filterMap_congr ?_) (congrFun List.filterMap_eq_map _)
  intro peerId member
  rw [List.mem_eraseDups] at member
  have notNil := mt CollectedEndpoints.usableOf_eq_nil_iff.mp (not_not_intro member)
  simp only [byPeer, if_neg notNil, Option.map_some, Function.comp]
  simp [CollectedEndpoints.usableOf, CollectedEndpoints.usable, List.filter_filter, Bool.and_comm,
    Bool.and_assoc]

/-! ## Groups of addresses -/

/-- The peers of the usable relays, as often as they appear. -/
def appearingPeers (relayAddresses : List (Multiaddr PeerId)) : List PeerId :=
  (relayAddresses.filter fun addr => (relayTransportKind addr).isSome).filterMap peerIdFromAddr

/-- The relay addresses of a peer over one transport. -/
def addressesOver (relayAddresses : List (Multiaddr PeerId)) (kind : RelayTransportKind)
    (peerId : PeerId) : List (Multiaddr PeerId) :=
  relayAddresses.filter fun addr =>
    peerIdFromAddr addr = some peerId && relayTransportKind addr = some kind

/-- The addresses of one group. -/
def addressesOf (relayAddresses : List (Multiaddr PeerId)) (peerId : PeerId) :
    List (Multiaddr PeerId) :=
  addressesOver relayAddresses .udp peerId ++ addressesOver relayAddresses .tcp peerId

theorem groups_new (relayAddresses : List (Multiaddr PeerId)) :
    (RelayPeers.new relayAddresses).groups =
      (appearingPeers relayAddresses).eraseDups.map fun peerId =>
        { peerId, endpoints := (addressesOf relayAddresses peerId).map RelayEndpoint.new } := by
  have usesKind : ∀ peerId kind,
      ((relayAddresses.map RelayEndpoint.new).filter fun endpoint =>
          endpoint.transportKind.isSome).filter (fun endpoint =>
            endpoint.peerId = some peerId && endpoint.transportKind = some kind) =
        (addressesOver relayAddresses kind peerId).map RelayEndpoint.new := by
    intro peerId kind
    rw [List.filter_filter, List.filter_map, addressesOver]
    congr 1
    apply List.filter_congr
    intro addr _
    rw [Bool.eq_iff_iff]
    simp only [Function.comp, Bool.and_eq_true, decide_eq_true_eq]
    exact ⟨And.left, fun both => ⟨both, Option.isSome_iff_exists.mpr ⟨_, both.2⟩⟩⟩
  have peers : ((relayAddresses.map RelayEndpoint.new).filter fun endpoint =>
      endpoint.transportKind.isSome).filterMap (fun endpoint => endpoint.peerId) =
        appearingPeers relayAddresses := by
    rw [List.filter_map, List.filterMap_map, appearingPeers]
    rfl
  simp only [RelayPeers.new, usesKind, peers, addressesOf, List.map_append]

theorem mem_addressesOf {relayAddresses : List (Multiaddr PeerId)} {peerId : PeerId}
    {addr : Multiaddr PeerId} :
    addr ∈ addressesOf relayAddresses peerId ↔
      addr ∈ relayAddresses ∧ peerIdFromAddr addr = some peerId ∧
        (relayTransportKind addr).isSome = true := by
  simp only [addressesOf, addressesOver, List.mem_append, List.mem_filter, Bool.and_eq_true,
    decide_eq_true_eq, ← and_or_left, Option.isSome_iff_exists]
  refine and_congr_right fun _ => and_congr_right fun _ => ⟨?_, ?_⟩
  · rintro (overUdp | overTcp)
    · exact ⟨_, overUdp⟩
    · exact ⟨_, overTcp⟩
  · rintro ⟨kind, usesKind⟩
    cases kind with
    | udp => exact Or.inl usesKind
    | tcp => exact Or.inr usesKind

/-- The relay is known, and so is the transport. -/
def IsUsableRelay (addr : Multiaddr PeerId) : Prop :=
  (peerIdFromAddr addr).isSome = true ∧ (relayTransportKind addr).isSome = true

omit [DecidableEq PeerId] in
theorem mem_appearingPeers {relayAddresses : List (Multiaddr PeerId)} {peerId : PeerId} :
    peerId ∈ appearingPeers relayAddresses ↔
      ∃ addr ∈ relayAddresses, peerIdFromAddr addr = some peerId ∧
        (relayTransportKind addr).isSome = true := by
  simp only [appearingPeers, List.mem_filterMap, List.mem_filter]
  constructor
  · rintro ⟨addr, ⟨member, usesKind⟩, ofPeer⟩
    exact ⟨addr, member, ofPeer, usesKind⟩
  · rintro ⟨addr, member, ofPeer, usesKind⟩
    exact ⟨addr, ⟨member, usesKind⟩, ofPeer⟩

/-! ## Places -/

/-- UDP comes before TCP. -/
def transportRank (addr : Multiaddr PeerId) : Nat :=
  if relayTransportKind addr = some .udp then 0 else 1

/-- Where the peer of the relay first appears as one that is usable. -/
def peerPlace (relayAddresses : List (Multiaddr PeerId)) (addr : Multiaddr PeerId) : Nat :=
  ((appearingPeers relayAddresses).map some).idxOf (peerIdFromAddr addr)

/-- The groups in the order their peers appear, UDP before TCP in a group, and otherwise the order
of the configuration. -/
def place (relayAddresses : List (Multiaddr PeerId)) (addr : Multiaddr PeerId) : ℕ ×ₗ ℕ ×ₗ ℕ :=
  toLex (peerPlace relayAddresses addr,
    toLex (transportRank addr, relayAddresses.idxOf addr))

theorem peerPlace_of_eq_some {relayAddresses : List (Multiaddr PeerId)} {addr : Multiaddr PeerId}
    {peerId : PeerId} (ofPeer : peerIdFromAddr addr = some peerId) :
    peerPlace relayAddresses addr = (appearingPeers relayAddresses).idxOf peerId := by
  rw [peerPlace, ofPeer]
  induction appearingPeers relayAddresses with
  | nil => rfl
  | cons first peers inductionHypothesis => simp [List.idxOf_cons, inductionHypothesis]

theorem place_injective {relayAddresses : List (Multiaddr PeerId)} {left right : Multiaddr PeerId}
    (member : left ∈ relayAddresses)
    (same : place relayAddresses left = place relayAddresses right) :
    left = right := by
  have sameIndex := congrArg (fun key => (ofLex (ofLex key).2).2) same
  exact (List.idxOf_inj member).mp sameIndex

theorem filter_addressesOver (relayAddresses : List (Multiaddr PeerId)) (peerId : PeerId)
    (kind wanted : RelayTransportKind) :
    (addressesOver relayAddresses kind peerId).filter
        (fun addr => relayTransportKind addr = some wanted) =
      if kind = wanted then addressesOver relayAddresses kind peerId else [] := by
  have usesKind : ∀ addr ∈ addressesOver relayAddresses kind peerId,
      relayTransportKind addr = some kind := by
    intro addr member
    simp only [addressesOver, List.mem_filter, Bool.and_eq_true, decide_eq_true_eq] at member
    exact member.2.2
  split
  · next same =>
      subst same
      exact List.filter_eq_self.mpr fun addr member => decide_eq_true (usesKind addr member)
  · next apart =>
      apply List.filter_eq_nil_iff.mpr
      intro addr member
      simpa [usesKind addr member] using apart

/-- In a group the addresses first occur in the order of their places. -/
theorem place_lt_of_idxOf_addressesOf_lt {relayAddresses : List (Multiaddr PeerId)}
    {peerId : PeerId} {left right : Multiaddr PeerId}
    (leftMember : left ∈ addressesOf relayAddresses peerId)
    (rightMember : right ∈ addressesOf relayAddresses peerId)
    (before : (addressesOf relayAddresses peerId).idxOf left <
      (addressesOf relayAddresses peerId).idxOf right) :
    place relayAddresses left < place relayAddresses right := by
  have ranks : (addressesOf relayAddresses peerId).Pairwise fun left right =>
      transportRank left ≤ transportRank right := by
    apply List.pairwise_append.mpr
    have constant : ∀ kind, (addressesOver relayAddresses kind peerId).Pairwise fun left right =>
        transportRank left ≤ transportRank right := by
      intro kind
      apply List.pairwise_of_forall_mem_list
      intro left leftOver right rightOver
      simp only [addressesOver, List.mem_filter, Bool.and_eq_true, decide_eq_true_eq]
        at leftOver rightOver
      rw [transportRank, transportRank, leftOver.2.2, rightOver.2.2]
    refine ⟨constant .udp, constant .tcp, fun left leftOver right _ => ?_⟩
    simp only [addressesOver, List.mem_filter, Bool.and_eq_true, decide_eq_true_eq] at leftOver
    rw [transportRank, if_pos leftOver.2.2]
    exact Nat.zero_le _
  have leftOf := mem_addressesOf.mp leftMember
  have rightOf := mem_addressesOf.mp rightMember
  have samePeer : peerPlace relayAddresses left = peerPlace relayAddresses right := by
    rw [peerPlace, peerPlace, leftOf.2.1, rightOf.2.1]
  have inOrder := of_idxOf_lt ranks rightMember before
  rw [place, place, Prod.Lex.toLex_lt_toLex, Prod.Lex.toLex_lt_toLex]
  refine Or.inr ⟨samePeer, ?_⟩
  rcases Nat.lt_or_eq_of_le inOrder with earlier | sameRank
  · exact Or.inl earlier
  · refine Or.inr ⟨sameRank, ?_⟩
    -- among the addresses of one rank the order is that of the configuration
    obtain ⟨kind, leftKind⟩ := Option.isSome_iff_exists.mp leftOf.2.2
    obtain ⟨rightKind, isRight⟩ := Option.isSome_iff_exists.mp rightOf.2.2
    obtain rfl : kind = rightKind := by
      cases kind <;> cases rightKind <;> simp [transportRank, leftKind, isRight] at sameRank ⊢
    have isOver : (addressesOf relayAddresses peerId).filter
        (fun addr => relayTransportKind addr = some kind) =
          addressesOver relayAddresses kind peerId := by
      rw [addressesOf, List.filter_append, filter_addressesOver, filter_addressesOver]
      cases kind <;> simp
    rw [← idxOf_filter_lt_iff (fun addr => relayTransportKind addr = some kind)
        (addressesOf relayAddresses peerId) (decide_eq_true leftKind) (decide_eq_true isRight),
      isOver, addressesOver, idxOf_filter_lt_iff] at before
    · exact before
    · simp [leftOf.2.1, leftKind]
    · simp [rightOf.2.1, isRight]

/-- The addresses of all groups, with the repetitions of the configuration. -/
def groupedAddresses (relayAddresses : List (Multiaddr PeerId)) : List (Multiaddr PeerId) :=
  (appearingPeers relayAddresses).eraseDups.flatMap (addressesOf relayAddresses)

theorem mem_groupedAddresses {relayAddresses : List (Multiaddr PeerId)}
    {addr : Multiaddr PeerId} :
    addr ∈ groupedAddresses relayAddresses ↔ addr ∈ relayAddresses ∧ IsUsableRelay addr := by
  simp only [groupedAddresses, List.mem_flatMap, List.mem_eraseDups, mem_addressesOf]
  constructor
  · rintro ⟨peerId, -, member, ofPeer, usesKind⟩
    exact ⟨member, by simp [ofPeer], usesKind⟩
  · rintro ⟨member, known, usesKind⟩
    obtain ⟨peerId, ofPeer⟩ := Option.isSome_iff_exists.mp known
    exact ⟨peerId, mem_appearingPeers.mpr ⟨addr, member, ofPeer, usesKind⟩, member, ofPeer,
      usesKind⟩

/-- The addresses of one peer among those of all groups are the ones of its group. -/
theorem filter_groupedAddresses (relayAddresses : List (Multiaddr PeerId)) {peerId : PeerId}
    (appears : peerId ∈ appearingPeers relayAddresses) :
    (groupedAddresses relayAddresses).filter (fun addr => peerIdFromAddr addr = some peerId) =
      addressesOf relayAddresses peerId := by
  have ofGroup : ∀ other, (addressesOf relayAddresses other).filter
      (fun addr => peerIdFromAddr addr = some peerId) =
        if other = peerId then addressesOf relayAddresses other else [] := by
    intro other
    split
    · next same =>
        subst same
        exact List.filter_eq_self.mpr fun addr member =>
          decide_eq_true (mem_addressesOf.mp member).2.1
    · next apart =>
        apply List.filter_eq_nil_iff.mpr
        intro addr member
        simpa [(mem_addressesOf.mp member).2.1] using apart
  have skipped : ∀ others : List PeerId, peerId ∉ others →
      (others.flatMap fun other =>
        if other = peerId then addressesOf relayAddresses other else []) = [] := by
    intro others notIn
    apply List.flatMap_eq_nil_iff.mpr
    intro other member
    apply if_neg
    rintro rfl
    exact notIn member
  have nodup := nodup_eraseDups (appearingPeers relayAddresses)
  obtain ⟨before, after, split⟩ := List.append_of_mem (List.mem_eraseDups.mpr appears)
  rw [split, List.nodup_middle, List.nodup_cons, List.mem_append, not_or] at nodup
  rw [groupedAddresses, List.filter_flatMap, split]
  simp only [ofGroup]
  rw [List.flatMap_append, List.flatMap_cons, skipped before nodup.1.1, skipped after nodup.1.2,
    if_pos rfl, List.nil_append, List.append_nil]

/-- The addresses of all groups first occur in the order of their places. -/
theorem place_lt_of_idxOf_lt {relayAddresses : List (Multiaddr PeerId)}
    {left right : Multiaddr PeerId} (leftMember : left ∈ groupedAddresses relayAddresses)
    (rightMember : right ∈ groupedAddresses relayAddresses)
    (before : (groupedAddresses relayAddresses).idxOf left <
      (groupedAddresses relayAddresses).idxOf right) :
    place relayAddresses left < place relayAddresses right := by
  have places : (groupedAddresses relayAddresses).Pairwise fun left right =>
      peerPlace relayAddresses left ≤ peerPlace relayAddresses right := by
    apply List.pairwise_flatMap.mpr
    refine ⟨fun peerId _ => ?_, (pairwise_eraseDups _).imp ?_⟩
    · apply List.pairwise_of_forall_mem_list
      intro left leftOf right rightOf
      rw [peerPlace, peerPlace, (mem_addressesOf.mp leftOf).2.1, (mem_addressesOf.mp rightOf).2.1]
    · intro earlier later appears left leftOf right rightOf
      rw [peerPlace_of_eq_some (mem_addressesOf.mp leftOf).2.1,
        peerPlace_of_eq_some (mem_addressesOf.mp rightOf).2.1]
      exact appears.le
  rcases Nat.lt_or_eq_of_le (of_idxOf_lt places rightMember before) with earlier | samePlace
  · rw [place, place, Prod.Lex.toLex_lt_toLex]
    exact Or.inl earlier
  · have leftOf := mem_groupedAddresses.mp leftMember
    have rightOf := mem_groupedAddresses.mp rightMember
    obtain ⟨peerId, ofPeer⟩ := Option.isSome_iff_exists.mp leftOf.2.1
    obtain ⟨otherId, ofOther⟩ := Option.isSome_iff_exists.mp rightOf.2.1
    have appears : peerId ∈ appearingPeers relayAddresses :=
      mem_appearingPeers.mpr ⟨left, leftOf.1, ofPeer, leftOf.2.2⟩
    rw [peerPlace_of_eq_some ofPeer, peerPlace_of_eq_some ofOther, List.idxOf_inj appears]
      at samePlace
    subst samePlace
    apply place_lt_of_idxOf_addressesOf_lt
    · exact mem_addressesOf.mpr ⟨leftOf.1, ofPeer, leftOf.2.2⟩
    · exact mem_addressesOf.mpr ⟨rightOf.1, ofOther, rightOf.2.2⟩
    · rw [← filter_groupedAddresses relayAddresses appears, idxOf_filter_lt_iff]
      · exact before
      · exact decide_eq_true ofPeer
      · exact decide_eq_true ofOther

/-! ## The addresses of a target -/

/-- The first ready address of each group. -/
def activeAddresses (relayAddresses : List (Multiaddr PeerId)) (state : ConnectivityState PeerId) :
    List (Multiaddr PeerId) :=
  (appearingPeers relayAddresses).eraseDups.filterMap fun peerId =>
    (addressesOf relayAddresses peerId).find? state.relayEndpointReady

theorem foldl_pushRelayAddrOnce {text : Multiaddr PeerId → String}
    (relays : List (Multiaddr PeerId)) (lossless : Set.InjOn text {addr | addr ∈ relays}) :
    relays.foldl (pushRelayAddrOnce text) ([], []) =
      (relays.eraseDups, relays.eraseDups.map text) := by
  induction relays using List.reverseRecOn with
  | nil => rfl
  | append_singleton relays relayAddr inductionHypothesis =>
      have before : Set.InjOn text {addr | addr ∈ relays} :=
        lossless.mono fun addr member => List.mem_append_left _ member
      have seen : text relayAddr ∈ relays.eraseDups.map text ↔ relayAddr ∈ relays := by
        simp only [List.mem_map, List.mem_eraseDups]
        constructor
        · rintro ⟨addr, member, sameText⟩
          have same := lossless (List.mem_append_left _ member)
            (List.mem_append_right _ List.mem_cons_self) sameText
          rwa [← same]
        · intro member
          exact ⟨relayAddr, member, rfl⟩
      rw [List.foldl_append, inductionHypothesis before, List.foldl_cons, List.foldl_nil,
        pushRelayAddrOnce, eraseDups_snoc]
      simp only [seen]
      split
      · rfl
      · simp

theorem circuitAddressesForTarget_new {text : Multiaddr PeerId → String}
    (relayAddresses : List (Multiaddr PeerId)) (targetPeer : PeerId)
    (state : ConnectivityState PeerId) :
    (RelayPeers.new relayAddresses).circuitAddressesForTarget text targetPeer state =
      ((activeAddresses relayAddresses state ++ groupedAddresses relayAddresses).foldl
        (pushRelayAddrOnce text) ([], [])).1.map (peerAddrWithRelay targetPeer) := by
  rw [RelayPeers.circuitAddressesForTarget, groups_new, List.foldl_append, activeAddresses,
    groupedAddresses, List.foldl_flatMap, List.foldl_filterMap]
  have active : ∀ peerId,
      (((addressesOf relayAddresses peerId).map RelayEndpoint.new).find? fun endpoint =>
        state.relayEndpointReady endpoint.addr) =
          ((addressesOf relayAddresses peerId).find? state.relayEndpointReady).map
            RelayEndpoint.new :=
    fun peerId => List.find?_map
  simp only [List.foldl_map, RelayPeerGroup.activeEndpoint, active]
  congr 4
  funext pushed peerId
  cases (addressesOf relayAddresses peerId).find? state.relayEndpointReady <;> rfl

/-- The order of the relays: the ready one of each group, and then every other one. -/
structure RelayOrder (relayAddresses : List (Multiaddr PeerId)) (ready : Multiaddr PeerId → Bool)
    (leading remaining : List (Multiaddr PeerId)) : Prop where
  leads : ∀ addr, addr ∈ leading ↔ addr ∈ relayAddresses ∧ IsUsableRelay addr ∧ ready addr = true ∧
    ∀ other ∈ relayAddresses, IsUsableRelay other → peerIdFromAddr other = peerIdFromAddr addr →
      ready other = true → place relayAddresses addr ≤ place relayAddresses other
  leadingInOrder : leading.Pairwise fun left right =>
    peerPlace relayAddresses left < peerPlace relayAddresses right
  remains : ∀ addr, addr ∈ remaining ↔
    addr ∈ relayAddresses ∧ IsUsableRelay addr ∧ addr ∉ leading
  remainingInOrder : remaining.Pairwise fun left right =>
    place relayAddresses left < place relayAddresses right

theorem RelayOrder.nodup {relayAddresses leading remaining : List (Multiaddr PeerId)}
    {ready : Multiaddr PeerId → Bool}
    (order : RelayOrder relayAddresses ready leading remaining) :
    (leading ++ remaining).Nodup := by
  apply List.nodup_append.mpr
  refine ⟨order.leadingInOrder.imp ?_, order.remainingInOrder.imp ?_, ?_⟩
  · rintro left right before rfl
    exact Nat.lt_irrefl _ before
  · rintro left right before rfl
    exact lt_irrefl _ before
  · rintro addr leads other remains rfl
    exact ((order.remains addr).mp remains).2.2 leads

theorem find?_ready_eq_some_iff {relayAddresses : List (Multiaddr PeerId)} {peerId : PeerId}
    {ready : Multiaddr PeerId → Bool} {addr : Multiaddr PeerId} :
    (addressesOf relayAddresses peerId).find? ready = some addr ↔
      addr ∈ addressesOf relayAddresses peerId ∧ ready addr = true ∧
        ∀ other ∈ addressesOf relayAddresses peerId, ready other = true →
          place relayAddresses addr ≤ place relayAddresses other := by
  have first : ∀ found, (addressesOf relayAddresses peerId).find? ready = some found →
      ∀ other ∈ addressesOf relayAddresses peerId, ready other = true →
        place relayAddresses found ≤ place relayAddresses other := by
    intro found isFound other member isReady
    rcases Nat.lt_or_eq_of_le (idxOf_le_of_find?_eq_some isFound isReady) with before | same
    · exact (place_lt_of_idxOf_addressesOf_lt (List.mem_of_find?_eq_some isFound) member
        before).le
    · rw [(List.idxOf_inj (List.mem_of_find?_eq_some isFound)).mp same]
  constructor
  · intro isFound
    exact ⟨List.mem_of_find?_eq_some isFound, List.find?_some isFound, first addr isFound⟩
  · rintro ⟨member, isReady, least⟩
    obtain ⟨found, isFound⟩ := Option.isSome_iff_exists.mp
      (List.find?_isSome.mpr ⟨addr, member, isReady⟩)
    have foundMember := List.mem_of_find?_eq_some isFound
    have same := le_antisymm (first found isFound addr member isReady)
      (least found foundMember (List.find?_some isFound))
    rw [isFound, place_injective (mem_addressesOf.mp foundMember).1 same]

theorem mem_activeAddresses {relayAddresses : List (Multiaddr PeerId)}
    {state : ConnectivityState PeerId} {addr : Multiaddr PeerId} :
    addr ∈ activeAddresses relayAddresses state ↔
      addr ∈ relayAddresses ∧ IsUsableRelay addr ∧ state.relayEndpointReady addr = true ∧
        ∀ other ∈ relayAddresses, IsUsableRelay other →
          peerIdFromAddr other = peerIdFromAddr addr → state.relayEndpointReady other = true →
            place relayAddresses addr ≤ place relayAddresses other := by
  simp only [activeAddresses, List.mem_filterMap, List.mem_eraseDups, find?_ready_eq_some_iff]
  constructor
  · rintro ⟨peerId, -, member, isReady, least⟩
    obtain ⟨inConfiguration, ofPeer, usesKind⟩ := mem_addressesOf.mp member
    refine ⟨inConfiguration, ⟨by simp [ofPeer], usesKind⟩, isReady, ?_⟩
    intro other otherMember usable samePeer otherReady
    exact least other (mem_addressesOf.mpr ⟨otherMember, samePeer.trans ofPeer, usable.2⟩)
      otherReady
  · rintro ⟨inConfiguration, ⟨known, usesKind⟩, isReady, least⟩
    obtain ⟨peerId, ofPeer⟩ := Option.isSome_iff_exists.mp known
    refine ⟨peerId, mem_appearingPeers.mpr ⟨addr, inConfiguration, ofPeer, usesKind⟩,
      mem_addressesOf.mpr ⟨inConfiguration, ofPeer, usesKind⟩, isReady, ?_⟩
    intro other member otherReady
    obtain ⟨otherMember, ofOther, otherOver⟩ := mem_addressesOf.mp member
    exact least other otherMember ⟨by simp [ofOther], otherOver⟩ (ofOther.trans ofPeer.symm)
      otherReady

theorem relayOrder_of_configuration (relayAddresses : List (Multiaddr PeerId))
    (state : ConnectivityState PeerId) :
    RelayOrder relayAddresses state.relayEndpointReady (activeAddresses relayAddresses state)
      ((groupedAddresses relayAddresses).removeAll
        (activeAddresses relayAddresses state)).eraseDups where
  leads := fun _ => mem_activeAddresses
  leadingInOrder := by
    apply List.pairwise_filterMap.mpr
    refine (pairwise_eraseDups _).imp ?_
    intro earlier later before left isLeft right isRight
    rw [peerPlace_of_eq_some (mem_addressesOf.mp (List.mem_of_find?_eq_some isLeft)).2.1,
      peerPlace_of_eq_some (mem_addressesOf.mp (List.mem_of_find?_eq_some isRight)).2.1]
    exact before
  remains := fun addr => by
    simp [List.removeAll, mem_groupedAddresses, and_assoc]
  remainingInOrder := by
    refine (pairwise_eraseDups _).imp_of_mem ?_
    intro left right leftMember rightMember before
    rw [List.mem_eraseDups, List.removeAll, List.mem_filter] at leftMember rightMember
    rw [List.removeAll, idxOf_filter_lt_iff
      (fun addr => !(activeAddresses relayAddresses state).elem addr) _ leftMember.2
        rightMember.2] at before
    exact place_lt_of_idxOf_lt leftMember.1 rightMember.1 before

/-- Every usable relay is dialled exactly once, over its circuit to the target: the first ready one
of each group first, and then the others in the order of the groups.  A multiaddress is to be told
by its text. -/
theorem circuitAddresses_inOrder (text : Multiaddr PeerId → String)
    (relayAddresses : List (Multiaddr PeerId)) (targetPeer : PeerId)
    (state : ConnectivityState PeerId) (lossless : Set.InjOn text {addr | addr ∈ relayAddresses}) :
    ∃ leading remaining,
      RelayOrder relayAddresses state.relayEndpointReady leading remaining ∧
        (leading ++ remaining).Nodup ∧
          (RelayPeers.new relayAddresses).circuitAddressesForTarget text targetPeer state =
            (leading ++ remaining).map fun relay => relay ++ [.p2pCircuit, .p2p targetPeer] := by
  have order := relayOrder_of_configuration relayAddresses state
  refine ⟨_, _, order, order.nodup, ?_⟩
  have known : Set.InjOn text
      {addr | addr ∈ activeAddresses relayAddresses state ++ groupedAddresses relayAddresses} := by
    apply lossless.mono
    intro addr member
    rcases List.mem_append.mp member with isActive | grouped
    · exact (mem_activeAddresses.mp isActive).1
    · exact (mem_groupedAddresses.mp grouped).1
  have once : (activeAddresses relayAddresses state).Nodup := order.nodup.of_append_left
  rw [circuitAddressesForTarget_new, foldl_pushRelayAddrOnce _ known, List.eraseDups_append,
    eraseDups_of_nodup once]
  apply List.map_congr_left
  intro relay _
  simp [peerAddrWithRelay]

/-! ## A relay over both transports -/

/-- How the protocols of an address over IPv4 are written. -/
def protocolText : Protocol String → String
  | .ip4 bits =>
      s!"/ip4/{bits / 2 ^ 24}.{bits / 2 ^ 16 % 256}.{bits / 2 ^ 8 % 256}.{bits % 256}"
  | .tcp port => s!"/tcp/{port}"
  | .udp port => s!"/udp/{port}"
  | .quicV1 => "/quic-v1"
  | .p2p peerId => s!"/p2p/{peerId}"
  | _ => ""

/-- An address in its usual spelling. -/
def addressText (addr : Multiaddr String) : String := String.join (addr.map protocolText)

/-- A relay over TCP. -/
def tcpRelay : Multiaddr String := [.ip4 0x7F000001, .tcp 30001, .p2p "relay"]

/-- The same relay over UDP. -/
def udpRelay : Multiaddr String := [.ip4 0x7F000001, .udp 30001, .quicV1, .p2p "relay"]

/-- The relay is ready over TCP only. -/
def tcpReady : ConnectivityState String :=
  { relayEndpointStatuses :=
      [{ relayAddr := tcpRelay
         relayPeerId := some "relay"
         transportKind := .tcp
         listenerRegistered := true
         currentDirectConnectionId := some 8 }] }

theorem circuitAddresses_inOrder_tcpReady : ∃ leading remaining,
    RelayOrder [udpRelay, tcpRelay, udpRelay] tcpReady.relayEndpointReady leading remaining ∧
      (leading ++ remaining).Nodup ∧
        (RelayPeers.new [udpRelay, tcpRelay, udpRelay]).circuitAddressesForTarget addressText
          "target" tcpReady =
            (leading ++ remaining).map fun relay => relay ++ [.p2pCircuit, .p2p "target"] := by
  apply circuitAddresses_inOrder addressText _ "target" tcpReady
  have apart : addressText udpRelay ≠ addressText tcpRelay := by decide +kernel
  intro left leftMember right rightMember sameText
  simp only [Set.mem_ofPred_eq, List.mem_cons, List.not_mem_nil, or_false] at leftMember rightMember
  rcases leftMember with rfl | rfl | rfl <;> rcases rightMember with rfl | rfl | rfl <;>
    first | rfl | exact absurd sameText apart | exact absurd sameText.symm apart

example : (RelayPeers.new [udpRelay, tcpRelay, udpRelay]).circuitAddressesForTarget addressText
    "target" tcpReady =
      [tcpRelay ++ [.p2pCircuit, .p2p "target"], udpRelay ++ [.p2pCircuit, .p2p "target"]] := by
  decide +kernel

end Fungi.Swarm
