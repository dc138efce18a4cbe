import Fungi.Lib.Fallible
import Fungi.Runtime.Model
import Mathlib.Data.String.Basic

/-!
# Listening rules

The listening half of `crates/daemon/src/controls/tcp_tunneling` and the registry of
`crates/stream/src/registry.rs` behind it.  A rule makes the node accept the streams
of one protocol and forward them to one local address; the registry admits one
listener for each protocol.
-/

namespace Fungi.Daemon

open Fungi.Runtime

/-- The protocol of tunnels to a port. -/
def fungiTunnelProtocol : String := "/fungi/tunnel/0.1.0"

/-- A local address that streams of a protocol are forwarded to. -/
structure ListeningRule where
  host : String
  port : UInt16
  protocol : Option String
  deriving DecidableEq

/-- The listening rules, and the registered protocols. -/
structure TcpTunnelingControl where
  listeningRules : BTreeMap String ListeningRule
  /-- For each registered protocol, the address its streams are forwarded to. -/
  listeners : BTreeMap String (String × UInt16)
  deriving DecidableEq

/-- Other characters become underscores. -/
def sanitizeRuleComponent (value : String) : String :=
  String.ofList <| value.toList.map fun character =>
    if character.isAlphanum ∨ character = '-' ∨ character = '_' ∨ character = '.' then character
    else '_'

/-- Rules with one id listen at one address for one protocol. -/
def generateListeningRuleId (rule : ListeningRule) : String :=
  match rule.protocol with
  | some protocol => s!"listen_{rule.host}:{rule.port}_{sanitizeRuleComponent protocol}"
  | none => s!"listen_{rule.host}:{rule.port}"

/-- `StreamProtocol` only asks for a leading separator. -/
def listeningProtocol (rule : ListeningRule) : Except Error String :=
  let protocol := rule.protocol.getD s!"{fungiTunnelProtocol}/{rule.port}"
  if protocol.toList.head? ≠ some '/' then
    .error (.message
      "Invalid protocol: invalid protocol: string does not start with a forward slash")
  else .ok protocol

/-- The error for a protocol that has a listener. -/
def alreadyRegistered : Error :=
  .message "Failed to accept incoming streams: The protocol is already registered"

namespace TcpTunnelingControl

/-- No rules yet. -/
def new : TcpTunnelingControl := { listeningRules := ∅, listeners := ∅ }

/-- Add the listening rule of a local address.  A refused rule changes nothing. -/
def addListeningRule (self : TcpTunnelingControl) (rule : ListeningRule) :
    Except Error TcpTunnelingControl :=
  let ruleId := generateListeningRuleId rule
  if ruleId ∈ self.listeningRules then
    .error (.message s!"Listening rule already exists: {ruleId}")
  else
    match listeningProtocol rule with
    | .error error => .error error
    | .ok protocol =>
        if protocol ∈ self.listeners then .error alreadyRegistered
        else .ok
          { listeningRules := self.listeningRules.insert ruleId rule
            listeners := self.listeners.insert protocol (rule.host, rule.port) }

/-- Remove a rule.  The rule is gone even when its protocol is not valid. -/
def removeListeningRule (self : TcpTunnelingControl) (ruleId : String) :
    TcpTunnelingControl × Except Error Unit :=
  match self.listeningRules[ruleId]? with
  | none => (self, .error (.message s!"Listening rule not found: {ruleId}"))
  | some rule =>
      let listeningRules := self.listeningRules.erase ruleId
      match listeningProtocol rule with
      | .error error => ({ self with listeningRules }, .error error)
      | .ok protocol =>
          ({ listeningRules, listeners := self.listeners.erase protocol }, .ok ())

end TcpTunnelingControl

end Fungi.Daemon
