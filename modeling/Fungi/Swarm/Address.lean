import Mathlib.Algebra.GroupWithZero.Nat
import Mathlib.Data.List.Basic

/-!
# Addresses of peers

The multiaddresses of `crates/swarm` as lists of protocols, as far as the connection registry
and the relay management tell them apart.  `crates/swarm/src/state/connectivity.rs` and
`crates/swarm/src/libp2p/relay.rs` each classify an address on their own.
-/

namespace Fungi.Swarm

variable {PeerId : Type}

/-- Addresses are given by their bits, and `other` stands for the protocols that no function tells
apart, such as `ws`. -/
inductive Protocol (PeerId : Type) where
  | ip4 (bits : Nat)
  | ip6 (bits : Nat)
  | dns (name : String)
  | dns4 (name : String)
  | dns6 (name : String)
  | dnsaddr (name : String)
  | tcp (port : Nat)
  | udp (port : Nat)
  | quicV1
  | p2p (peerId : PeerId)
  | p2pCircuit
  | other (text : String)
  deriving DecidableEq

/-- An address as its components. -/
abbrev Multiaddr (PeerId : Type) := List (Protocol PeerId)

/-- The transport of an address, relayed before all else. -/
inductive AddressTransportKind where
  | tcp
  | udp
  | relayed
  | other
  deriving DecidableEq

/-- The transport to a relay. -/
inductive RelayTransportKind where
  | tcp
  | udp
  deriving DecidableEq

/-- Whether a component is the step over a relay. -/
def Protocol.isP2pCircuit : Protocol PeerId → Bool
  | .p2pCircuit => true
  | _ => false

/-- Whether an address leads over a relay. -/
def isCircuitAddr (addr : Multiaddr PeerId) : Bool := addr.any Protocol.isP2pCircuit

/-- The first transport in an address. -/
def relayTransportKind : Multiaddr PeerId → Option RelayTransportKind
  | [] => none
  | .tcp _ :: _ => some .tcp
  | .udp _ :: _ => some .udp
  | _ :: rest => relayTransportKind rest

/-- The loop of `address_transport_kind`. -/
def firstTransportKind : Multiaddr PeerId → AddressTransportKind
  | [] => .other
  | .tcp _ :: _ => .tcp
  | .udp _ :: _ => .udp
  | _ :: rest => firstTransportKind rest

/-- The transport that an address is counted by. -/
def addressTransportKind (addr : Multiaddr PeerId) : AddressTransportKind :=
  if addr.any Protocol.isP2pCircuit then .relayed else firstTransportKind addr

/-- The first peer in an address. -/
def peerIdFromAddr : Multiaddr PeerId → Option PeerId
  | [] => none
  | .p2p peerId :: _ => some peerId
  | _ :: rest => peerIdFromAddr rest

/-- Not loopback, broadcast, multicast or unspecified; of the unicast addresses of IPv6 neither
link local nor unique local. -/
def isPublicListenAddr : Multiaddr PeerId → Bool
  | .ip4 bits :: _ =>
      bits / 2 ^ 24 ≠ 127 && bits ≠ 2 ^ 32 - 1 && bits / 2 ^ 28 ≠ 14 && bits ≠ 0
  | .ip6 bits :: _ =>
      bits ≠ 1 && bits / 2 ^ 118 ≠ 0x3FA && bits / 2 ^ 121 ≠ 0x7E && bits / 2 ^ 120 ≠ 0xFF &&
        bits ≠ 0
  | _ => false

/-- Whether an address begins with another. -/
def multiaddrStartsWith [DecidableEq PeerId] (addr pre : Multiaddr PeerId) : Bool :=
  pre.isPrefixOf addr

/-- The transport to a relay as the transport of an address. -/
def RelayTransportKind.toAddressKind : RelayTransportKind → AddressTransportKind
  | .tcp => .tcp
  | .udp => .udp

theorem firstTransportKind_eq (addr : Multiaddr PeerId) :
    firstTransportKind addr =
      (relayTransportKind addr).elim .other RelayTransportKind.toAddressKind := by
  fun_induction relayTransportKind addr with
  | case1 => rfl
  | case2 => rfl
  | case3 => rfl
  | case4 protocol rest notTcp notUdp inductionHypothesis =>
      cases protocol with
      | ip4 bits => exact inductionHypothesis
      | ip6 bits => exact inductionHypothesis
      | dns name => exact inductionHypothesis
      | dns4 name => exact inductionHypothesis
      | dns6 name => exact inductionHypothesis
      | dnsaddr name => exact inductionHypothesis
      | tcp port => exact absurd rfl (notTcp port)
      | udp port => exact absurd rfl (notUdp port)
      | quicV1 => exact inductionHypothesis
      | p2p peerId => exact inductionHypothesis
      | p2pCircuit => exact inductionHypothesis
      | other text => exact inductionHypothesis

/-- The two classifications agree on addresses that are not relayed. -/
theorem addressTransportKind_eq_iff {addr : Multiaddr PeerId} {kind : RelayTransportKind} :
    addressTransportKind addr = kind.toAddressKind ↔
      isCircuitAddr addr = false ∧ relayTransportKind addr = some kind := by
  unfold addressTransportKind isCircuitAddr
  rw [firstTransportKind_eq]
  cases circuit : addr.any Protocol.isP2pCircuit with
  | true => cases kind <;> simp [RelayTransportKind.toAddressKind]
  | false =>
      cases found : relayTransportKind addr with
      | none => cases kind <;> simp [RelayTransportKind.toAddressKind]
      | some other => cases kind <;> cases other <;> simp [RelayTransportKind.toAddressKind]

end Fungi.Swarm
