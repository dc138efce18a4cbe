import Fungi.Config.RuntimeConfig
import Fungi.Swarm.Address

/-!
# Settings

`crates/config/src/lib.rs` and `libp2p.rs`: the settings that can be changed while the daemon runs,
up to the write of the file.
-/

namespace Fungi.Config

open Fungi.Lib Fungi.Runtime Fungi.Swarm

variable {PeerId : Type}

/-- Where a relay address comes from. -/
inductive RelayAddressSource where
  | community
  | custom
  deriving DecidableEq

/-- A relay address that is in use, with its source. -/
structure EffectiveRelayAddress (PeerId : Type) where
  address : Multiaddr PeerId
  source : RelayAddressSource
  deriving DecidableEq

/-- The settings of the network. -/
structure Network (PeerId : Type) where
  relayEnabled : Bool
  useCommunityRelays : Bool
  customRelayAddresses : List (Multiaddr PeerId)
  deriving DecidableEq

/-- The part of the configuration that can be changed while the daemon runs. -/
structure FungiConfig (PeerId : Type) where
  network : Network PeerId
  runtime : RuntimeConfig

/-! ## Effective relay addresses -/

section Effective

variable [DecidableEq PeerId]

/-- One of the loops of `effective_relay_addresses`. -/
def pushNew (source : RelayAddressSource) (effective : List (EffectiveRelayAddress PeerId)) :
    List (Multiaddr PeerId) → List (EffectiveRelayAddress PeerId)
  | [] => effective
  | address :: rest =>
      if effective.any fun entry => entry.address = address then pushNew source effective rest
      else pushNew source (effective ++ [{ address, source }]) rest

/-- The relay addresses in use: those of the community before those of the user, none twice. -/
def Network.effectiveRelayAddresses (self : Network PeerId)
    (communityRelays : List (Multiaddr PeerId)) : List (EffectiveRelayAddress PeerId) :=
  if !self.relayEnabled then []
  else
    let effective := if self.useCommunityRelays then pushNew .community [] communityRelays else []
    pushNew .custom effective self.customRelayAddresses

theorem nodup_pushNew {source : RelayAddressSource}
    {effective : List (EffectiveRelayAddress PeerId)} {addresses : List (Multiaddr PeerId)}
    (distinct : (effective.map (·.address)).Nodup) :
    ((pushNew source effective addresses).map (·.address)).Nodup := by
  induction addresses generalizing effective with
  | nil => exact distinct
  | cons address rest inductionHypothesis =>
      unfold pushNew
      split
      · exact inductionHypothesis distinct
      · next absent =>
          apply inductionHypothesis
          rw [List.map_append, List.nodup_append]
          refine ⟨distinct, by simp, ?_⟩
          rintro listed isListed other isOther rfl
          obtain ⟨entry, member, same⟩ := List.mem_map.mp isListed
          apply absent
          simp only [List.map_singleton, List.mem_singleton] at isOther
          simp only [List.any_eq_true, decide_eq_true_eq]
          exact ⟨entry, member, same.trans isOther⟩

/-- An address that is not listed yet is listed with the source. -/
theorem mem_pushNew {source : RelayAddressSource}
    {effective : List (EffectiveRelayAddress PeerId)} {addresses : List (Multiaddr PeerId)}
    {entry : EffectiveRelayAddress PeerId} :
    entry ∈ pushNew source effective addresses ↔
      entry ∈ effective ∨
        entry.source = source ∧ entry.address ∈ addresses ∧
          entry.address ∉ effective.map (·.address) := by
  induction addresses generalizing effective with
  | nil => simp [pushNew]
  | cons address rest inductionHypothesis =>
      unfold pushNew
      split
      · next listed =>
          rw [inductionHypothesis]
          have known : address ∈ effective.map (·.address) := by simpa using listed
          constructor
          · rintro (old | ⟨isSource, member, fresh⟩)
            · exact Or.inl old
            · exact Or.inr ⟨isSource, List.mem_cons_of_mem _ member, fresh⟩
          · rintro (old | ⟨isSource, member, fresh⟩)
            · exact Or.inl old
            · refine Or.inr ⟨isSource, List.mem_of_ne_of_mem ?_ member, fresh⟩
              rintro same
              exact fresh (same ▸ known)
      · next unlisted =>
          rw [inductionHypothesis]
          have absent : address ∉ effective.map (·.address) := by simpa using unlisted
          simp only [List.mem_append, List.mem_cons, List.not_mem_nil, or_false, List.map_append,
            List.map_cons, List.map_nil, not_or]
          constructor
          · rintro ((old | rfl) | ⟨isSource, member, fresh, -⟩)
            · exact Or.inl old
            · exact Or.inr ⟨rfl, Or.inl rfl, absent⟩
            · exact Or.inr ⟨isSource, Or.inr member, fresh⟩
          · rintro (old | ⟨rfl, here | member, fresh⟩)
            · exact Or.inl (Or.inl old)
            · exact Or.inl (Or.inr (by rw [← here]))
            · by_cases same : entry.address = address
              · exact Or.inl (Or.inr (by rw [← same]))
              · exact Or.inr ⟨rfl, member, fresh, same⟩

variable (network : Network PeerId) (communityRelays : List (Multiaddr PeerId))

/-- No address is tried twice. -/
theorem nodup_effectiveRelayAddresses :
    ((network.effectiveRelayAddresses communityRelays).map (·.address)).Nodup := by
  unfold Network.effectiveRelayAddresses
  split
  · exact List.nodup_nil
  · apply nodup_pushNew
    split
    · exact nodup_pushNew List.nodup_nil
    · exact List.nodup_nil

theorem mem_effectiveRelayAddresses_iff (entry : EffectiveRelayAddress PeerId) :
    entry ∈ network.effectiveRelayAddresses communityRelays ↔
      network.relayEnabled ∧
        ((entry.source = .community ∧ network.useCommunityRelays ∧
            entry.address ∈ communityRelays) ∨
          (entry.source = .custom ∧ entry.address ∈ network.customRelayAddresses ∧
            ¬ (network.useCommunityRelays ∧ entry.address ∈ communityRelays))) := by
  have listed : ∀ address : Multiaddr PeerId,
      address ∈ (pushNew .community [] communityRelays).map (·.address) ↔
        address ∈ communityRelays := by
    intro address
    simp only [List.mem_map, mem_pushNew, List.map_nil, List.not_mem_nil, false_or,
      not_false_eq_true, and_true]
    constructor
    · rintro ⟨listed, ⟨-, member⟩, rfl⟩
      exact member
    · exact fun member => ⟨{ address, source := .community }, ⟨rfl, member⟩, rfl⟩
  unfold Network.effectiveRelayAddresses
  cases network.relayEnabled with
  | false => simp
  | true =>
      cases network.useCommunityRelays with
      | false => simp [mem_pushNew]
      | true => simp [mem_pushNew, listed]

end Effective

/-! ## Allowed host paths -/

namespace RuntimeConfig

variable {channel : DistChannel} {fungiDir path : String} {config next : RuntimeConfig}
  {components : List Path.Component}

/-- The allowed paths after an addition, told apart as the source compares them. -/
theorem mem_addAllowedHostPath
    (added : addAllowedHostPath channel fungiDir config path = .ok next) :
    components ∈ next.allowedHostPaths.map Path.components ↔
      Path.components (Path.display (Path.resolve path)) = components ∨
        components ∈ config.allowedHostPaths.map Path.components := by
  obtain ⟨normalized, valid, stored⟩ := bind_eq_ok.mp added
  obtain ⟨-, -, -, rfl⟩ := validateAllowedHostPath_eq_ok.mp valid
  dsimp only at stored
  split at stored
  · next listed =>
      obtain rfl := pure_eq_ok.mp stored
      have known : Path.components (Path.display (Path.resolve path)) ∈
          config.allowedHostPaths.map Path.components := by simpa using listed
      constructor
      · exact Or.inr
      · rintro (rfl | member)
        · exact known
        · exact member
  · obtain rfl := pure_eq_ok.mp stored
    simp [or_comm, eq_comm, or_and_right, exists_or]

theorem mem_removeAllowedHostPath :
    components ∈ (config.removeAllowedHostPath path).allowedHostPaths.map Path.components ↔
      components ∈ config.allowedHostPaths.map Path.components ∧
        Path.components path ≠ components := by
  simp only [removeAllowedHostPath, List.mem_map, List.mem_filter, decide_not, Bool.not_eq_true',
    decide_eq_false_iff_not]
  constructor
  · rintro ⟨entry, ⟨member, other⟩, rfl⟩
    exact ⟨⟨entry, member, rfl⟩, fun same => other same.symm⟩
  · rintro ⟨⟨entry, member, rfl⟩, other⟩
    exact ⟨entry, ⟨member, fun same => other same.symm⟩, rfl⟩

end RuntimeConfig

/-! ## Updates -/

section Updates

variable [DecidableEq PeerId]

namespace FungiConfig

/-- Let services mount a host directory. -/
def addRuntimeAllowedHostPath (channel : DistChannel) (fungiDir : String)
    (self : FungiConfig PeerId) (path : String) : Except Error (FungiConfig PeerId) := do
  let runtime ← self.runtime.addAllowedHostPath channel fungiDir path
  return { self with runtime }

/-- Take a host directory off the list again. -/
def removeRuntimeAllowedHostPath (self : FungiConfig PeerId) (path : String) :
    FungiConfig PeerId :=
  { self with runtime := self.runtime.removeAllowedHostPath path }

/-- Switch the use of relays on or off. -/
def setRelayEnabled (self : FungiConfig PeerId) (enabled : Bool) : FungiConfig PeerId :=
  { self with network := { self.network with relayEnabled := enabled } }

/-- Switch the use of the community's relays on or off. -/
def setUseCommunityRelays (self : FungiConfig PeerId) (enabled : Bool) : FungiConfig PeerId :=
  { self with network := { self.network with useCommunityRelays := enabled } }

/-- An address that is there already is not added again. -/
def addCustomRelayAddress (self : FungiConfig PeerId) (address : Multiaddr PeerId) :
    FungiConfig PeerId :=
  if self.network.customRelayAddresses.contains address then self
  else
    { self with
      network := { self.network with
        customRelayAddresses := self.network.customRelayAddresses ++ [address] } }

/-- Remove every entry with the address. -/
def removeCustomRelayAddress (self : FungiConfig PeerId) (address : Multiaddr PeerId) :
    FungiConfig PeerId :=
  { self with
    network := { self.network with
      customRelayAddresses :=
        self.network.customRelayAddresses.filter fun entry => entry ≠ address } }

end FungiConfig

/-- The changes that the settings allow while the daemon runs. -/
inductive ConfigUpdate (PeerId : Type) where
  | setRelayEnabled (enabled : Bool)
  | setUseCommunityRelays (enabled : Bool)
  | addCustomRelayAddress (address : Multiaddr PeerId)
  | removeCustomRelayAddress (address : Multiaddr PeerId)
  | addRuntimeAllowedHostPath (path : String)
  | removeRuntimeAllowedHostPath (path : String)
  deriving DecidableEq

namespace ConfigUpdate

/-- Whether the change is about the roots of the runtimes. -/
def isRuntime : ConfigUpdate PeerId → Bool
  | addRuntimeAllowedHostPath _ | removeRuntimeAllowedHostPath _ => true
  | _ => false

/-- The configuration that the update writes. -/
def perform (channel : DistChannel) (fungiDir : String) (config : FungiConfig PeerId) :
    ConfigUpdate PeerId → Except Error (FungiConfig PeerId)
  | setRelayEnabled enabled => .ok (config.setRelayEnabled enabled)
  | setUseCommunityRelays enabled => .ok (config.setUseCommunityRelays enabled)
  | addCustomRelayAddress address => .ok (config.addCustomRelayAddress address)
  | removeCustomRelayAddress address => .ok (config.removeCustomRelayAddress address)
  | addRuntimeAllowedHostPath path => config.addRuntimeAllowedHostPath channel fungiDir path
  | removeRuntimeAllowedHostPath path => .ok (config.removeRuntimeAllowedHostPath path)

/-- The update allows the path of these components, which an accepted path is normalized to. -/
def Allows : ConfigUpdate PeerId → List Path.Component → Prop
  | addRuntimeAllowedHostPath path, components =>
      Path.components (Path.display (Path.resolve path)) = components
  | _, _ => False

/-- The update disallows the path of these components, which is not normalized. -/
def Disallows : ConfigUpdate PeerId → List Path.Component → Prop
  | removeRuntimeAllowedHostPath path, components => Path.components path = components
  | _, _ => False

/-! What an update does to one fact about the settings. -/

variable {channel : DistChannel} {fungiDir : String} {config next : FungiConfig PeerId}
  {update : ConfigUpdate PeerId}

theorem relayEnabled_perform (performed : update.perform channel fungiDir config = .ok next) :
    next.network.relayEnabled ↔
      update = setRelayEnabled true ∨
        config.network.relayEnabled ∧ update ≠ setRelayEnabled false := by
  cases update with
  | setRelayEnabled enabled =>
      cases performed
      cases enabled <;> simp [FungiConfig.setRelayEnabled]
  | setUseCommunityRelays enabled =>
      cases performed
      simp [FungiConfig.setUseCommunityRelays]
  | addCustomRelayAddress address =>
      cases performed
      unfold FungiConfig.addCustomRelayAddress
      split <;> simp
  | removeCustomRelayAddress address =>
      cases performed
      simp [FungiConfig.removeCustomRelayAddress]
  | addRuntimeAllowedHostPath path =>
      obtain ⟨runtime, -, same⟩ := bind_eq_ok.mp performed
      obtain rfl := pure_eq_ok.mp same
      simp
  | removeRuntimeAllowedHostPath path =>
      cases performed
      simp [FungiConfig.removeRuntimeAllowedHostPath]

theorem useCommunityRelays_perform
    (performed : update.perform channel fungiDir config = .ok next) :
    next.network.useCommunityRelays ↔
      update = setUseCommunityRelays true ∨
        config.network.useCommunityRelays ∧ update ≠ setUseCommunityRelays false := by
  cases update with
  | setRelayEnabled enabled =>
      cases performed
      simp [FungiConfig.setRelayEnabled]
  | setUseCommunityRelays enabled =>
      cases performed
      cases enabled <;> simp [FungiConfig.setUseCommunityRelays]
  | addCustomRelayAddress address =>
      cases performed
      unfold FungiConfig.addCustomRelayAddress
      split <;> simp
  | removeCustomRelayAddress address =>
      cases performed
      simp [FungiConfig.removeCustomRelayAddress]
  | addRuntimeAllowedHostPath path =>
      obtain ⟨runtime, -, same⟩ := bind_eq_ok.mp performed
      obtain rfl := pure_eq_ok.mp same
      simp
  | removeRuntimeAllowedHostPath path =>
      cases performed
      simp [FungiConfig.removeRuntimeAllowedHostPath]

theorem mem_customRelayAddresses_perform (address : Multiaddr PeerId)
    (performed : update.perform channel fungiDir config = .ok next) :
    address ∈ next.network.customRelayAddresses ↔
      update = addCustomRelayAddress address ∨
        address ∈ config.network.customRelayAddresses ∧
          update ≠ removeCustomRelayAddress address := by
  cases update with
  | setRelayEnabled enabled =>
      cases performed
      simp [FungiConfig.setRelayEnabled]
  | setUseCommunityRelays enabled =>
      cases performed
      simp [FungiConfig.setUseCommunityRelays]
  | addCustomRelayAddress added =>
      cases performed
      unfold FungiConfig.addCustomRelayAddress
      split
      · next listed =>
          have known := List.contains_iff_mem.mp listed
          simp only [addCustomRelayAddress.injEq, ne_eq, reduceCtorEq, not_false_eq_true, and_true]
          constructor
          · exact Or.inr
          · rintro (rfl | member)
            · exact known
            · exact member
      · simp [or_comm, eq_comm]
  | removeCustomRelayAddress removed =>
      cases performed
      simp [FungiConfig.removeCustomRelayAddress, @eq_comm _ removed]
  | addRuntimeAllowedHostPath path =>
      obtain ⟨runtime, -, same⟩ := bind_eq_ok.mp performed
      obtain rfl := pure_eq_ok.mp same
      simp
  | removeRuntimeAllowedHostPath path =>
      cases performed
      simp [FungiConfig.removeRuntimeAllowedHostPath]

/-- The updates of relays leave the mount roots alone. -/
theorem runtime_perform (performed : update.perform channel fungiDir config = .ok next)
    (relay : update.isRuntime = false) : next.runtime = config.runtime := by
  cases update with
  | setRelayEnabled enabled =>
      cases performed
      rfl
  | setUseCommunityRelays enabled =>
      cases performed
      rfl
  | addCustomRelayAddress added =>
      cases performed
      unfold FungiConfig.addCustomRelayAddress
      split <;> rfl
  | removeCustomRelayAddress removed =>
      cases performed
      rfl
  | addRuntimeAllowedHostPath path => cases relay
  | removeRuntimeAllowedHostPath path => cases relay

theorem mem_allowedHostPaths_perform (components : List Path.Component)
    (performed : update.perform channel fungiDir config = .ok next) :
    components ∈ next.runtime.allowedHostPaths.map Path.components ↔
      update.Allows components ∨
        components ∈ config.runtime.allowedHostPaths.map Path.components ∧
          ¬ update.Disallows components := by
  cases update with
  | setRelayEnabled enabled =>
      cases performed
      simp [FungiConfig.setRelayEnabled, Allows, Disallows]
  | setUseCommunityRelays enabled =>
      cases performed
      simp [FungiConfig.setUseCommunityRelays, Allows, Disallows]
  | addCustomRelayAddress added =>
      cases performed
      unfold FungiConfig.addCustomRelayAddress
      split <;> simp [Allows, Disallows]
  | removeCustomRelayAddress removed =>
      cases performed
      simp [FungiConfig.removeCustomRelayAddress, Allows, Disallows]
  | addRuntimeAllowedHostPath path =>
      obtain ⟨runtime, added, same⟩ := bind_eq_ok.mp performed
      obtain rfl := pure_eq_ok.mp same
      rw [RuntimeConfig.mem_addAllowedHostPath added]
      simp [Allows, Disallows]
  | removeRuntimeAllowedHostPath path =>
      cases performed
      refine RuntimeConfig.mem_removeAllowedHostPath.trans ?_
      simp [Allows, Disallows]

end ConfigUpdate

end Updates

end Fungi.Config
