import Fungi.Daemon.EndpointListeners
import Fungi.Lib.Run
import Fungi.Runtime.FailedApply
import Fungi.Runtime.HostPorts
import Fungi.Runtime.ServiceStateAtomicity

/-!
# Local services

The local branches of `apply_manifest_yaml`, `start`, `stop` and `remove` in
`crates/daemon/src/services.rs`: each changes a service through `RuntimeControl` and then
synchronises the listeners of its endpoints.  One operation runs at a time, and any of them may
fail.
-/

namespace Fungi.Daemon.ServiceRuns

open Fungi.Lib Fungi.Runtime Fungi.Runtime.RuntimeControl

/-- The machine with its services, and the listeners of their endpoints. -/
structure LocalServices where
  host : Host
  tunneling : TcpTunnelingControl

/-- A program that works on the services and their listeners. -/
abbrev LocalAction := Program LocalServices Error

/-- Run an action of the runtime. -/
def onRuntime {Value : Type} (action : Action Value) : LocalAction Value := fun state =>
  ((action state.host).1, { state with host := (action state.host).2 })

/-- Listen for the endpoints of a manifest, or stop listening for them. -/
def syncForManifest (manifest : Option ServiceManifest) (enabled : Bool) : LocalAction Unit :=
  fun state =>
    ((syncServiceEndpointListenersForManifest state.tunneling manifest enabled).2,
      { state with tunneling :=
          (syncServiceEndpointListenersForManifest state.tunneling manifest enabled).1 })

/-- The manifest of a service in memory. -/
def getServiceManifest (name : String) : LocalAction (Option ServiceManifest) :=
  Program.gets (·.host.serviceManifests[name]?)

/-- Listen for the endpoints of a service, or stop listening for them. -/
def syncByName (name : String) (enabled : Bool) : LocalAction Unit := do
  let manifest ← getServiceManifest name
  syncForManifest manifest enabled

/-- The operations on the services of this device. -/
inductive LocalOperation where
  | apply (manifestYaml baseDir : String)
  | start (name : String)
  | stop (name : String)
  | remove (name : String)

/-- What an operation does to services and listeners. -/
def LocalOperation.perform (setup : RuntimeSetup) : LocalOperation → LocalAction Unit
  | .apply manifestYaml baseDir => do
      let applied ← onRuntime (applyManifestYaml setup manifestYaml baseDir)
      Program.when (applied.desiredState = .running) do
        syncForManifest applied.previousManifest false
        syncByName applied.name true
  | .start name => do
      onRuntime (startByName setup name)
      syncByName name true
  | .stop name => do
      onRuntime (stopByName setup name)
      syncByName name false
  | .remove name => do
      let manifest ← getServiceManifest name
      onRuntime (removeByName setup name)
      syncForManifest manifest false

/-- An operation runs to its end, whether it succeeds or fails. -/
def LocalServices.step (setup : RuntimeSetup) (state : LocalServices)
    (operation : LocalOperation) : Option LocalServices :=
  some (operation.perform setup state).2

/-- The listening rules are those of the endpoints of the services that are to be running. -/
def ListenersFollow (state : LocalServices) : Prop :=
  ∀ protocol port, Listens state.tunneling protocol port ↔
    ∃ (name : String) (manifest : ServiceManifest),
      state.host.serviceManifests[name]? = some manifest ∧
        desiredStateOf state.host name = .running ∧ Exposes manifest protocol port

/-! ## Endpoints of the services -/

/-- A stored service that is to be running exposes the port. -/
def Opened (host : Host) (name protocol : String) (port : UInt16) : Prop :=
  ∃ record, host.serviceState.persistedService name = some record ∧
    record.desiredState = .running ∧ Exposes record.manifest protocol port

/-- A service of another name does. -/
def OpenedElsewhere (host : Host) (name protocol : String) (port : UInt16) : Prop :=
  ∃ other, other ≠ name ∧ Opened host other protocol port

/-- No other service that is to be running exposes a port of the manifest. -/
def Unshared (host : Host) (name : String) (manifest : ServiceManifest) : Prop :=
  ∀ protocol port, Exposes manifest protocol port → ¬ OpenedElsewhere host name protocol port

/-- The manifests expose the same protocols and host ports. -/
def SamePorts (left right : ServiceManifest) : Prop :=
  ∀ protocol port, Exposes left protocol port ↔ Exposes right protocol port

instance (host : Host) (name protocol : String) (port : UInt16) :
    Decidable (Opened host name protocol port) :=
  inferInstanceAs (Decidable (∃ record ∈ host.serviceState.persistedService name,
    record.desiredState = .running ∧ Exposes record.manifest protocol port))

theorem openedElsewhere_iff {host : Host} {name protocol : String} {port : UInt16} :
    OpenedElsewhere host name protocol port ↔ ∃ entry ∈ host.serviceState.nameIndex.toList,
      entry.1 ≠ name ∧ Opened host entry.1 protocol port := by
  constructor
  · intro elsewhere
    obtain ⟨other, different, record, persisted, opened⟩ := elsewhere
    obtain ⟨id, listed, -⟩ := ServiceStateStore.persistedService_eq_some.mp persisted
    exact ⟨(other, id), Std.ExtTreeMap.mem_toList_iff_getElem?_eq_some.mpr listed, different,
      record, persisted, opened⟩
  · intro entry
    obtain ⟨entry, -, different, opened⟩ := entry
    exact ⟨entry.1, different, opened⟩

instance (host : Host) (name protocol : String) (port : UInt16) :
    Decidable (OpenedElsewhere host name protocol port) :=
  decidable_of_iff _ openedElsewhere_iff.symm

theorem unshared_iff {host : Host} {name : String} {manifest : ServiceManifest} :
    Unshared host name manifest ↔ ∀ endpoint ∈ serviceExposeEndpointBindings manifest,
      ¬ OpenedElsewhere host name endpoint.protocol endpoint.hostPort := by
  constructor
  · intro unshared endpoint membership
    exact unshared _ _ ⟨endpoint, membership, rfl, rfl⟩
  · intro each protocol port exposes
    obtain ⟨endpoint, membership, rfl, rfl⟩ := exposes
    exact each endpoint membership

instance (host : Host) (name : String) (manifest : ServiceManifest) :
    Decidable (Unshared host name manifest) :=
  decidable_of_iff _ unshared_iff.symm

theorem samePorts_iff {left right : ServiceManifest} : SamePorts left right ↔
    (∀ endpoint ∈ serviceExposeEndpointBindings left,
      Exposes right endpoint.protocol endpoint.hostPort) ∧
    ∀ endpoint ∈ serviceExposeEndpointBindings right,
      Exposes left endpoint.protocol endpoint.hostPort := by
  constructor
  · intro same
    constructor
    · intro endpoint membership
      exact (same _ _).mp ⟨endpoint, membership, rfl, rfl⟩
    · intro endpoint membership
      exact (same _ _).mpr ⟨endpoint, membership, rfl, rfl⟩
  · intro both protocol port
    constructor
    · intro exposes
      obtain ⟨endpoint, membership, rfl, rfl⟩ := exposes
      exact both.1 endpoint membership
    · intro exposes
      obtain ⟨endpoint, membership, rfl, rfl⟩ := exposes
      exact both.2 endpoint membership

instance (left right : ServiceManifest) : Decidable (SamePorts left right) :=
  decidable_of_iff _ samePorts_iff.symm

/-! ## The condition on an operation -/

/-- The new desired state of the record makes no difference for the listeners. -/
def MakesNoDifference (record : PersistedService) (desiredState : DesiredServiceState) : Prop :=
  record.desiredState = desiredState ∨ serviceExposeEndpointBindings record.manifest = []

instance (record : PersistedService) (desiredState : DesiredServiceState) :
    Decidable (MakesNoDifference record desiredState) :=
  inferInstanceAs (Decidable (_ ∨ _))

/-- An apply that has replaced the runtime stores the service and starts it without a failure. -/
def Completes (setup : RuntimeSetup) (manifest : ServiceManifest) (prepared : Prepared)
    (replaced : Host) : Prop :=
  (recordService setup manifest prepared replaced).1 = .ok () ∧
    (reconcile setup manifest prepared (recordService setup manifest prepared replaced).2).1 =
      .ok ()

instance (setup : RuntimeSetup) (manifest : ServiceManifest) (prepared : Prepared)
    (replaced : Host) : Decidable (Completes setup manifest prepared replaced) :=
  inferInstanceAs (Decidable (_ ∧ _))

/-- The condition on an apply that has replaced the runtime of a service which is to be running:
when it completes, the old listeners can be closed and the new ones opened; when it does not, the
new manifest exposes what the old one did. -/
def CarriesOn (setup : RuntimeSetup) (state : LocalServices) (manifest : ServiceManifest)
    (prepared : Prepared) (replaced : Host) : Prop :=
  ∀ previous ∈ state.host.serviceState.persistedService manifest.name,
    previous.desiredState = .running →
      (Completes setup manifest prepared replaced →
        Unshared state.host manifest.name previous.manifest ∧
          HasRoom (syncServiceEndpointListenersForManifest state.tunneling
            (some previous.manifest) false).1 manifest) ∧
      (¬ Completes setup manifest prepared replaced → SamePorts previous.manifest manifest)

/-- The condition on an apply that has resolved the manifest. -/
def Replaces (setup : RuntimeSetup) (state : LocalServices) (parsed : ServiceManifest × String)
    (resolved : Host) : Prop :=
  Program.OnSuccess (replaceRuntime setup parsed.1 (some parsed.2) resolved)
    (CarriesOn setup state parsed.1)

/-- The condition on an operation, in the state before it and in those its provider's part
leads to. -/
def LocalOperation.Meets (setup : RuntimeSetup) (state : LocalServices) : LocalOperation → Prop
  | .start name =>
      ∀ runtime ∈ state.host.serviceIndex[name]?,
        Program.OnSuccess (bringUp setup runtime name state.host) fun _ up =>
          ∀ record ∈ state.host.serviceState.persistedService name,
            (SavesRecord setup.toPlatform up { record with desiredState := .running } →
              HasRoom state.tunneling record.manifest) ∧
            (¬ SavesRecord setup.toPlatform up { record with desiredState := .running } →
              MakesNoDifference record .running)
  | .stop name =>
      ∀ runtime ∈ state.host.serviceIndex[name]?,
        Program.OnSuccess (bringDown setup runtime name state.host) fun _ down =>
          ∀ record ∈ state.host.serviceState.persistedService name,
            (SavesRecord setup.toPlatform down { record with desiredState := .stopped } →
              Unshared state.host name record.manifest) ∧
            (¬ SavesRecord setup.toPlatform down { record with desiredState := .stopped } →
              MakesNoDifference record .stopped)
  | .remove name =>
      ∀ runtime ∈ state.host.serviceIndex[name]?,
        Program.OnSuccess (ignoreMissingContainer runtime (removeRuntime setup runtime name)
            state.host) fun _ removed =>
          ∀ manifest ∈ state.host.serviceManifests[name]?,
            ((forget name removed).1 = .ok () → Unshared state.host name manifest) ∧
            ((forget name removed).1 ≠ .ok () →
              desiredStateOf state.host name = .stopped ∨
                serviceExposeEndpointBindings manifest = [])
  | .apply manifestYaml baseDir =>
      Program.OnSuccess (resolveYaml setup manifestYaml baseDir state.host) (Replaces setup state)

instance (setup : RuntimeSetup) (state : LocalServices) (manifest : ServiceManifest)
    (prepared : Prepared) (replaced : Host) :
    Decidable (CarriesOn setup state manifest prepared replaced) :=
  inferInstanceAs (Decidable (∀ previous ∈ state.host.serviceState.persistedService
    manifest.name, _ → _))

instance (setup : RuntimeSetup) (state : LocalServices) (parsed : ServiceManifest × String)
    (resolved : Host) : Decidable (Replaces setup state parsed resolved) :=
  inferInstanceAs (Decidable (Program.OnSuccess _ _))

instance decidableMeets (setup : RuntimeSetup) (state : LocalServices) :
    (operation : LocalOperation) → Decidable (operation.Meets setup state)
  | .apply _ _ => inferInstanceAs (Decidable (Program.OnSuccess _ _))
  | .start name =>
      inferInstanceAs (Decidable (∀ runtime ∈ state.host.serviceIndex[name]?, _))
  | .stop name =>
      inferInstanceAs (Decidable (∀ runtime ∈ state.host.serviceIndex[name]?, _))
  | .remove name =>
      inferInstanceAs (Decidable (∀ runtime ∈ state.host.serviceIndex[name]?, _))

/-! ## The invariant -/

/-- The records fit together, each running service has distinct endpoints, and the rules are
those of the running services. -/
structure Settled (state : LocalServices) : Prop where
  sound : state.host.serviceState.Sound
  manifests : ∀ (name : String) record,
    state.host.serviceState.persistedService name = some record →
    state.host.serviceManifests[name]? = some record.manifest
  one : OneListenerEach state.tunneling
  distinct : ∀ name record, state.host.serviceState.persistedService name = some record →
    record.desiredState = .running → Distinct (serviceExposeEndpointBindings record.manifest)
  opened : ∀ protocol port, Listens state.tunneling protocol port ↔
    ∃ name, Opened state.host name protocol port

theorem desiredStateOf_eq_running {host : Host} {name : String} :
    desiredStateOf host name = .running ↔ ∃ record,
      host.serviceState.persistedService name = some record ∧ record.desiredState = .running := by
  unfold desiredStateOf
  cases host.serviceState.persistedService name with
  | none => simp
  | some record => simp

theorem Settled.listenersFollow {state : LocalServices} (settled : Settled state) :
    ListenersFollow state := by
  intro protocol port
  rw [settled.opened]
  constructor
  · intro opened
    obtain ⟨name, record, persisted, running, exposes⟩ := opened
    exact ⟨name, record.manifest, settled.manifests name record persisted,
      desiredStateOf_eq_running.mpr ⟨record, persisted, running⟩, exposes⟩
  · intro exposed
    obtain ⟨name, manifest, known, running, exposes⟩ := exposed
    obtain ⟨record, persisted, running⟩ := desiredStateOf_eq_running.mp running
    rw [settled.manifests name record persisted] at known
    cases known
    exact ⟨name, record, persisted, running, exposes⟩

section Changes

variable {host host' : Host} {name protocol : String} {port : UInt16}
  {record : PersistedService} {state : LocalServices} {tunneling : TcpTunnelingControl}

theorem opened_iff (name : String) :
    (∃ other, Opened host other protocol port) ↔
      Opened host name protocol port ∨ OpenedElsewhere host name protocol port := by
  constructor
  · intro opened
    obtain ⟨other, opened⟩ := opened
    by_cases own : other = name
    · exact Or.inl (own ▸ opened)
    · exact Or.inr ⟨other, own, opened⟩
  · intro either
    rcases either with own | ⟨other, -, opened⟩
    · exact ⟨name, own⟩
    · exact ⟨other, opened⟩

theorem opened_of_persisted (persisted : host.serviceState.persistedService name = some record) :
    Opened host name protocol port ↔
      record.desiredState = .running ∧ Exposes record.manifest protocol port := by
  unfold Opened
  rw [persisted]
  simp

theorem openedElsewhere_congr (others : ∀ other, other ≠ name →
      host'.serviceState.persistedService other = host.serviceState.persistedService other) :
    OpenedElsewhere host' name protocol port ↔ OpenedElsewhere host name protocol port := by
  unfold OpenedElsewhere Opened
  apply exists_congr
  intro other
  apply and_congr_right
  intro different
  rw [others other different]

theorem Settled.of_same (settled : Settled state) (same : SameRecords state.host host) :
    Settled { state with host } where
  sound := same.state ▸ settled.sound
  manifests := by
    intro name record persisted
    rw [same.state] at persisted
    rw [same.manifests]
    exact settled.manifests name record persisted
  one := settled.one
  distinct := by
    intro name record persisted
    rw [same.state] at persisted
    exact settled.distinct name record persisted
  opened := by
    intro protocol port
    rw [settled.opened]
    unfold Opened
    rw [same.state]

/-- One service has a new record, and the manifest of that record in memory. -/
structure Recorded (record : PersistedService) (before after : Host) : Prop where
  manifest : after.serviceManifests[record.manifest.name]? = some record.manifest
  others : ∀ other, other ≠ record.manifest.name →
    after.serviceManifests[other]? = before.serviceManifests[other]?
  state : ∀ name, after.serviceState.persistedService name =
    if record.manifest.name = name then some record else before.serviceState.persistedService name
  sound : after.serviceState.Sound

theorem Recorded.of_stored {desiredState : DesiredServiceState} (settled : Settled state)
    (persisted : state.host.serviceState.persistedService name = some record)
    (stored : Stored { record with desiredState } state.host host) :
    Recorded { record with desiredState } state.host host where
  manifest := by
    have known := settled.manifests name record persisted
    rw [stored.manifests, settled.sound.indexed.named persisted]
    exact known
  others := by
    intro other _
    rw [stored.manifests]
  state := stored.state
  sound := stored.sound

theorem Recorded.of_replaced (replaced : Replaced record host host') :
    Recorded record host host' where
  manifest := by
    rw [replaced.manifests]
    exact Std.ExtTreeMap.getElem?_insert_self
  others := by
    intro other different
    rw [replaced.manifests, getElem?_insert, if_neg (Ne.symm different)]
  state := replaced.state
  sound := replaced.sound

theorem Recorded.then_stored {last : Host} (recorded : Recorded record host host')
    (stored : Stored record host' last) : Recorded record host last where
  manifest := by
    rw [stored.manifests]
    exact recorded.manifest
  others := by
    intro other different
    rw [stored.manifests]
    exact recorded.others other different
  state := by
    intro name
    rw [stored.state, recorded.state]
    split
    · rfl
    · rfl
  sound := stored.sound

theorem Recorded.persisted (recorded : Recorded record host host') :
    host'.serviceState.persistedService record.manifest.name = some record := by
  rw [recorded.state, if_pos rfl]

theorem Recorded.elsewhere (recorded : Recorded record host host') :
    OpenedElsewhere host' record.manifest.name protocol port ↔
      OpenedElsewhere host record.manifest.name protocol port := by
  apply openedElsewhere_congr
  intro other different
  rw [recorded.state, if_neg (Ne.symm different)]

/-- The services are settled when the rules are those of the new record and of the other
services. -/
theorem Settled.of_recorded (settled : Settled state) (recorded : Recorded record state.host host)
    (one : OneListenerEach tunneling)
    (distinct : record.desiredState = .running →
      Distinct (serviceExposeEndpointBindings record.manifest))
    (listens : ∀ protocol port, Listens tunneling protocol port ↔
      (record.desiredState = .running ∧ Exposes record.manifest protocol port) ∨
        OpenedElsewhere state.host record.manifest.name protocol port) :
    Settled { host, tunneling } where
  sound := recorded.sound
  manifests := by
    intro name found persisted
    rw [recorded.state] at persisted
    split at persisted
    · next own =>
        cases persisted
        rw [← own]
        exact recorded.manifest
    · next other =>
        rw [recorded.others name (Ne.symm other)]
        exact settled.manifests name found persisted
  one := one
  distinct := by
    intro name found persisted
    rw [recorded.state] at persisted
    split at persisted
    · cases persisted
      exact distinct
    · exact settled.distinct name found persisted
  opened := by
    intro protocol port
    rw [listens, opened_iff record.manifest.name, opened_of_persisted recorded.persisted,
      recorded.elsewhere]

theorem Settled.listens_iff (settled : Settled state)
    (persisted : state.host.serviceState.persistedService name = some record) :
    Listens state.tunneling protocol port ↔
      (record.desiredState = .running ∧ Exposes record.manifest protocol port) ∨
        OpenedElsewhere state.host name protocol port := by
  rw [settled.opened, opened_iff name, opened_of_persisted persisted]

end Changes

/-! ## Synchronisations -/

section Operations

variable {setup : RuntimeSetup} {state : LocalServices} {name : String}
  {manifest : ServiceManifest} {record : PersistedService} {host : Host}

theorem onRuntime_ok {Value Result : Type} {action : Action Value} {value : Value}
    (next : Value → LocalAction Result) (ran : action state.host = (.ok value, host)) :
    (onRuntime action >>= next) state = next value { state with host } := by
  rw [Program.bind_apply, onRuntime, ran]

theorem onRuntime_error {Value Result : Type} {action : Action Value} {error : Error}
    (next : Value → LocalAction Result) (ran : action state.host = (.error error, host)) :
    (onRuntime action >>= next) state = (.error error, { state with host }) := by
  rw [Program.bind_apply, onRuntime, ran]

theorem syncByName_apply (name : String) (enabled : Bool) (state : LocalServices) :
    syncByName name enabled state =
      syncForManifest state.host.serviceManifests[name]? enabled state := rfl

/-- A name has the manifest of one record only. -/
theorem manifest_of_persisted (persisted : host.serviceState.persistedService name = some record)
    (found : PersistedService) (present : host.serviceState.persistedService name = some found) :
    found.manifest = record.manifest := by
  rw [persisted] at present
  cases present
  rfl

/-- Saving a desired state keeps the manifest that a synchronisation by name finds. -/
theorem Settled.known_of_stored {desiredState : DesiredServiceState} (settled : Settled state)
    (persisted : state.host.serviceState.persistedService name = some record)
    (stored : Stored { record with desiredState } state.host host) :
    host.serviceManifests[name]? = some record.manifest := by
  rw [stored.manifests]
  exact settled.manifests name record persisted

/-- Closing the listeners of a service leaves those of the others. -/
theorem Settled.disable (settled : Settled state)
    (known : ∀ record, state.host.serviceState.persistedService name = some record →
      record.manifest = manifest) (unshared : Unshared state.host name manifest) :
    ∃ tunneling, syncServiceEndpointListenersForManifest state.tunneling (some manifest) false =
        (tunneling, .ok ()) ∧ OneListenerEach tunneling ∧
      ∀ protocol port, Listens tunneling protocol port ↔
        OpenedElsewhere state.host name protocol port := by
  have own {protocol : String} {port : UInt16} (opened : Opened state.host name protocol port) :
      Exposes manifest protocol port := by
    obtain ⟨record, persisted, -, exposes⟩ := opened
    exact known record persisted ▸ exposes
  have succeeds : (syncServiceEndpointListenersForManifest state.tunneling (some manifest)
      false).2 = .ok () := by
    apply sync_disabled_succeeds settled.one
    by_cases running : ∃ record, state.host.serviceState.persistedService name = some record ∧
        record.desiredState = .running
    · obtain ⟨record, persisted, running⟩ := running
      have distinct := settled.distinct name record persisted running
      rw [known record persisted] at distinct
      exact distinct.imp fun apart _ => apart.1
    · rw [List.pairwise_iff_forall_sublist]
      intro left right ordered listens
      have membership : left ∈ serviceExposeEndpointBindings manifest :=
        ordered.subset List.mem_cons_self
      rcases (opened_iff name).mp ((settled.opened _ _).mp listens) with
        ⟨record, persisted, isRunning, -⟩ | elsewhere
      · exact absurd ⟨record, persisted, isRunning⟩ running
      · exact absurd elsewhere (unshared _ _ ⟨left, membership, rfl, rfl⟩)
  obtain ⟨one, listens⟩ := sync_disabled settled.one (Prod.ext rfl succeeds)
  refine ⟨_, Prod.ext rfl succeeds, one, ?_⟩
  intro protocol port
  rw [listens, settled.opened, opened_iff name]
  constructor
  · intro both
    rcases both.1 with opened | elsewhere
    · exact absurd (own opened) both.2
    · exact elsewhere
  · intro elsewhere
    exact ⟨Or.inr elsewhere, fun exposes => unshared protocol port exposes elsewhere⟩

theorem not_exposes (nothing : serviceExposeEndpointBindings manifest = []) (protocol : String)
    (port : UInt16) : ¬ Exposes manifest protocol port := by
  intro exposes
  obtain ⟨endpoint, membership, -⟩ := exposes
  rw [nothing] at membership
  cases membership

/-! ## The operations -/

/-- Saving a desired state that makes no difference for the listeners. -/
theorem Settled.unsaved {desiredState : DesiredServiceState} (settled : Settled state)
    (persisted : state.host.serviceState.persistedService name = some record)
    (stored : Stored { record with desiredState } state.host host)
    (same : MakesNoDifference record desiredState) : Settled { state with host } := by
  have named := settled.sound.indexed.named persisted
  apply settled.of_recorded (Recorded.of_stored settled persisted stored) settled.one
  · intro running
    rcases same with already | nothing
    · exact settled.distinct name record persisted (already.trans running)
    · dsimp only
      rw [nothing]
      exact List.Pairwise.nil
  · intro protocol port
    dsimp only
    rw [settled.listens_iff persisted, named]
    apply or_congr_left
    rcases same with already | nothing
    · rw [already]
    · have never := not_exposes nothing protocol port
      exact iff_of_false (fun both => never both.2) fun both => never both.2

theorem Settled.start (settled : Settled state)
    (meets : (LocalOperation.start name).Meets setup state) :
    Settled ((LocalOperation.start name).perform setup state).2 := by
  rw [LocalOperation.perform]
  cases ran : startByName setup name state.host with
  | mk outcome host =>
      rcases startByName_cases settled.sound ran with
        ⟨error, rfl, same⟩ | ⟨runtime, middle, record, listed, up, persisted, stored, saves⟩
      · rw [onRuntime_error _ ran]
        exact settled.of_same same
      · obtain ⟨saved, unsaved⟩ := meets runtime listed _ middle up record persisted
        cases outcome with
        | error error =>
            rw [onRuntime_error _ ran]
            exact settled.unsaved persisted stored (unsaved (mt saves.mpr nofun))
        | ok _ =>
            have room := saved (saves.mp rfl)
            have recorded := Recorded.of_stored settled persisted stored
            have named := settled.sound.indexed.named persisted
            have known := settled.known_of_stored persisted stored
            obtain ⟨one, listens⟩ := sync_enabled settled.one
              (Prod.ext rfl (sync_enabled_succeeds room))
            rw [onRuntime_ok _ ran, syncByName_apply, syncForManifest, known]
            apply settled.of_recorded recorded one fun _ => room.distinct
            intro protocol port
            dsimp only
            rw [listens, settled.listens_iff persisted, named]
            constructor
            · intro either
              rcases either with (own | elsewhere) | exposes
              · exact Or.inl ⟨rfl, own.2⟩
              · exact Or.inr elsewhere
              · exact Or.inl ⟨rfl, exposes⟩
            · intro either
              rcases either with own | elsewhere
              · exact Or.inr own.2
              · exact Or.inl (Or.inr elsewhere)

theorem Settled.stop (settled : Settled state)
    (meets : (LocalOperation.stop name).Meets setup state) :
    Settled ((LocalOperation.stop name).perform setup state).2 := by
  rw [LocalOperation.perform]
  cases ran : stopByName setup name state.host with
  | mk outcome host =>
      rcases stopByName_cases settled.sound ran with
        ⟨error, rfl, same⟩ | ⟨runtime, middle, record, listed, down, persisted, stored, saves⟩
      · rw [onRuntime_error _ ran]
        exact settled.of_same same
      · obtain ⟨saved, unsaved⟩ := meets runtime listed _ middle down record persisted
        cases outcome with
        | error error =>
            rw [onRuntime_error _ ran]
            exact settled.unsaved persisted stored (unsaved (mt saves.mpr nofun))
        | ok _ =>
            have unshared := saved (saves.mp rfl)
            have recorded := Recorded.of_stored settled persisted stored
            have named := settled.sound.indexed.named persisted
            have known := settled.known_of_stored persisted stored
            obtain ⟨tunneling, synced, one, listens⟩ :=
              settled.disable (manifest_of_persisted persisted) unshared
            rw [onRuntime_ok _ ran, syncByName_apply, syncForManifest, known]
            dsimp only
            rw [synced]
            apply settled.of_recorded recorded one nofun
            intro protocol port
            dsimp only
            rw [listens, named]
            simp

theorem Settled.of_forgotten {tunneling : TcpTunnelingControl} (settled : Settled state)
    (forgotten : Forgotten name state.host host) (one : OneListenerEach tunneling)
    (listens : ∀ protocol port, Listens tunneling protocol port ↔
      OpenedElsewhere state.host name protocol port) : Settled { host, tunneling } where
  sound := forgotten.sound
  manifests := by
    intro other record persisted
    rw [forgotten.state] at persisted
    split at persisted
    · cases persisted
    · next different =>
        dsimp only
        rw [forgotten.manifests, getElem?_erase, if_neg different]
        exact settled.manifests other record persisted
  one := one
  distinct := by
    intro other record persisted
    rw [forgotten.state] at persisted
    split at persisted
    · cases persisted
    · exact settled.distinct other record persisted
  opened := by
    intro protocol port
    have gone : ¬ Opened host name protocol port := by
      intro opened
      obtain ⟨record, persisted, -⟩ := opened
      rw [forgotten.state, if_pos rfl] at persisted
      cases persisted
    have others : OpenedElsewhere host name protocol port ↔
        OpenedElsewhere state.host name protocol port := by
      apply openedElsewhere_congr
      intro other different
      rw [forgotten.state, if_neg (Ne.symm different)]
    rw [listens, opened_iff name, others]
    exact (or_iff_right gone).symm

theorem Settled.remove (settled : Settled state)
    (meets : (LocalOperation.remove name).Meets setup state) :
    Settled ((LocalOperation.remove name).perform setup state).2 := by
  rw [LocalOperation.perform, getServiceManifest, Program.bind_of_ok (Program.gets_apply _ _)]
  cases ran : removeByName setup name state.host with
  | mk outcome host =>
      rcases removeByName_cases settled.sound ran with
        ⟨error, rfl, same⟩ | ⟨runtime, middle, listed, removed, forgotten, isOutcome⟩
      · rw [onRuntime_error _ ran]
        exact settled.of_same same
      · -- what is left open when the service itself opens nothing
        have unopened (closed : ∀ protocol port, ¬ Opened state.host name protocol port) :
            Settled { state with host } := by
          apply settled.of_forgotten forgotten settled.one
          intro protocol port
          rw [settled.opened, opened_iff name]
          exact or_iff_right (closed protocol port)
        cases known : state.host.serviceManifests[name]? with
        | none =>
            have closed : ∀ protocol port, ¬ Opened state.host name protocol port := by
              intro protocol port opened
              obtain ⟨record, persisted, -⟩ := opened
              rw [settled.manifests name record persisted] at known
              cases known
            cases outcome with
            | error error =>
                rw [onRuntime_error _ ran]
                exact unopened closed
            | ok _ =>
                rw [onRuntime_ok _ ran]
                exact unopened closed
        | some manifest =>
            obtain ⟨forgets, remains⟩ := meets runtime listed _ middle removed manifest known
            rw [isOutcome] at forgets remains
            have only : ∀ found, state.host.serviceState.persistedService name = some found →
                found.manifest = manifest := by
              intro found persisted
              rw [settled.manifests name found persisted] at known
              exact Option.some.inj known
            cases outcome with
            | error error =>
                rw [onRuntime_error _ ran]
                apply unopened
                intro protocol port opened
                obtain ⟨record, persisted, running, exposes⟩ := opened
                rcases remains nofun with stopped | nothing
                · have isRunning := desiredStateOf_eq_running.mpr ⟨record, persisted, running⟩
                  rw [stopped] at isRunning
                  cases isRunning
                · rw [only record persisted] at exposes
                  exact not_exposes nothing protocol port exposes
            | ok _ =>
                obtain ⟨tunneling, synced, one, listens⟩ := settled.disable only (forgets rfl)
                rw [onRuntime_ok _ ran, syncForManifest]
                dsimp only
                rw [synced]
                exact settled.of_forgotten forgotten one listens

theorem nodup_hostPorts (distinct : (manifest.ports.map (·.hostPort)).Nodup) :
    ((serviceExposeEndpointBindings manifest).map (·.hostPort)).Nodup := by
  unfold serviceExposeEndpointBindings
  split
  · exact List.nodup_nil
  · split
    · exact List.nodup_nil
    · rw [((List.perm_insertionSort _ _).map _).nodup_iff]
      rw [List.Nodup, List.pairwise_map] at distinct ⊢
      rw [List.pairwise_filterMap]
      apply (distinct.sublist List.filter_sublist).imp
      intro left right apart endpoint isLeft other isRight
      obtain ⟨_, -, madeLeft⟩ := Option.bind_eq_some_iff.mp isLeft
      obtain ⟨_, -, madeRight⟩ := Option.bind_eq_some_iff.mp isRight
      dsimp only at madeLeft madeRight
      split at madeLeft
      · cases madeLeft
      · split at madeRight
        · cases madeRight
        · cases madeLeft
          cases madeRight
          exact apart

/-- Endpoints with host ports of their own are distinct when endpoints that expose the same are. -/
theorem distinct_of_samePorts {left right : ServiceManifest} (same : SamePorts left right)
    (ports : (right.ports.map (·.hostPort)).Nodup)
    (distinct : Distinct (serviceExposeEndpointBindings left)) :
    Distinct (serviceExposeEndpointBindings right) := by
  have symmetric : Std.Symm fun endpoint other : ServiceExposeEndpointBinding =>
      endpoint.protocol ≠ other.protocol ∧ generateListeningRuleId (endpointRule endpoint) ≠
        generateListeningRuleId (endpointRule other) :=
    ⟨fun _ _ apart => ⟨apart.1.symm, apart.2.symm⟩⟩
  have sameRule : ∀ endpoint ∈ serviceExposeEndpointBindings right,
      ∃ found ∈ serviceExposeEndpointBindings left, found.protocol = endpoint.protocol ∧
        endpointRule found = endpointRule endpoint := by
    intro endpoint membership
    obtain ⟨found, isFound, protocol, port⟩ := (same _ _).mpr ⟨endpoint, membership, rfl, rfl⟩
    refine ⟨found, isFound, protocol, ?_⟩
    rw [endpointRule, endpointRule, protocol, port]
  have apart := List.pairwise_map.mp (nodup_hostPorts ports)
  apply apart.imp_of_mem
  intro endpoint other membership membership' different
  obtain ⟨found, isFound, protocol, rule⟩ := sameRule endpoint membership
  obtain ⟨found', isFound', protocol', rule'⟩ := sameRule other membership'
  rw [← protocol, ← protocol', ← rule, ← rule']
  apply List.Pairwise.forall distinct isFound isFound'
  intro isSame
  rw [isSame, rule'] at rule
  exact different (congrArg (·.port) rule).symm

/-- The services after an apply that has stored a record which is not to be running. -/
theorem Settled.stored_stopped (settled : Settled state)
    (recorded : Recorded record state.host host) (stopped : record.desiredState ≠ .running)
    (closed : desiredStateOf state.host record.manifest.name ≠ .running) :
    Settled { state with host } := by
  apply settled.of_recorded recorded settled.one fun running => absurd running stopped
  intro protocol port
  rw [settled.opened, opened_iff record.manifest.name]
  apply or_congr_left
  apply iff_of_false
  · intro opened
    obtain ⟨found, persisted, running, -⟩ := opened
    exact closed (desiredStateOf_eq_running.mpr ⟨found, persisted, running⟩)
  · intro both
    exact stopped both.1

/-- The listeners of the old manifest are closed and those of the new one opened. -/
theorem Settled.reopened {previous : PersistedService} (settled : Settled state)
    (recorded : Recorded record state.host host) (running : record.desiredState = .running)
    (persisted : state.host.serviceState.persistedService record.manifest.name = some previous)
    (unshared : Unshared state.host record.manifest.name previous.manifest)
    (room : HasRoom (syncServiceEndpointListenersForManifest state.tunneling
      (some previous.manifest) false).1 record.manifest) :
    Settled ((syncForManifest (some previous.manifest) false >>= fun _ =>
      syncByName record.manifest.name true) { state with host }).2 := by
  obtain ⟨tunneling, synced, one, listens⟩ :=
    settled.disable (manifest_of_persisted persisted) unshared
  rw [synced] at room
  obtain ⟨oneAfter, listensAfter⟩ := sync_enabled one
    (Prod.ext rfl (sync_enabled_succeeds room))
  rw [Program.bind_apply, syncForManifest]
  dsimp only
  rw [synced]
  dsimp only
  rw [syncByName_apply, syncForManifest]
  dsimp only
  rw [recorded.manifest]
  apply settled.of_recorded recorded oneAfter fun _ => room.distinct
  intro protocol port
  rw [listensAfter, listens, or_comm]
  apply or_congr_left
  exact (and_iff_right running).symm

/-- Recording a service replaces its record; only a service without one may be refused. -/
theorem recordService_recorded {id : String} {resolved replaced : Host} {prepared : Prepared}
    {outcome : Except Error Unit} (settled : Settled state)
    (same : SameRecords state.host resolved)
    (replaces : replaceRuntime setup manifest (some id) resolved = (.ok prepared, replaced))
    (ran : recordService setup manifest prepared replaced = (outcome, host)) :
    (∃ localServiceId, Recorded
      { localServiceId, manifest, desiredState := prepared.desiredState } state.host host) ∨
    (∃ error, outcome = .error error) ∧
      state.host.serviceState.persistedService manifest.name = none ∧
      host.serviceState = state.host.serviceState ∧
      host.serviceManifests = state.host.serviceManifests.insert manifest.name manifest := by
  have replacing := @replaceRuntime_records setup manifest (some id) resolved
  rw [replaces] at replacing
  have unchanged : SameRecords state.host replaced := recordsFrame.trans same replacing
  have sound : replaced.serviceState.Sound := unchanged.state ▸ settled.sound
  obtain ⟨-, manifests, refused | ⟨localServiceId, -, isReplaced⟩⟩ := recordService_cases sound ran
  · obtain ⟨error, _, failed, -, -, store⟩ := refused
    cases persisted : state.host.serviceState.persistedService manifest.name with
    | none =>
        refine Or.inr ⟨⟨error, failed⟩, rfl, store.trans unchanged.state, ?_⟩
        rw [manifests, unchanged.manifests]
    | some previous =>
        obtain ⟨-, sameId, desired⟩ := replaceRuntime_keeps (same.state ▸ persisted) replaces
        obtain ⟨-, isReplaced⟩ := recordService_replaces sound (unchanged.state ▸ persisted)
          sameId desired ran
        refine Or.inl ⟨previous.localServiceId, ?_⟩
        rw [desired]
        exact Recorded.of_replaced (isReplaced.of_same unchanged)
  · exact Or.inl ⟨localServiceId, Recorded.of_replaced (isReplaced.of_same unchanged)⟩

/-- A manifest in memory that no record belongs to. -/
theorem Settled.unrecorded (settled : Settled state)
    (unknown : state.host.serviceState.persistedService manifest.name = none)
    (store : host.serviceState = state.host.serviceState)
    (manifests : host.serviceManifests =
      state.host.serviceManifests.insert manifest.name manifest) :
    Settled { state with host } where
  sound := store ▸ settled.sound
  manifests := by
    intro name record persisted
    dsimp only at persisted ⊢
    rw [store] at persisted
    rw [manifests, getElem?_insert, if_neg]
    · exact settled.manifests name record persisted
    · intro isName
      rw [isName, persisted] at unknown
      cases unknown
  one := settled.one
  distinct := by
    intro name record persisted
    dsimp only at persisted
    rw [store] at persisted
    exact settled.distinct name record persisted
  opened := by
    intro protocol port
    rw [settled.opened]
    unfold Opened
    rw [store]

/-- An apply that fails after it has stored the record. -/
theorem Settled.unfinished (settled : Settled state) (recorded : Recorded record state.host host)
    (desired : record.desiredState = desiredStateOf state.host record.manifest.name)
    (ports : (record.manifest.ports.map (·.hostPort)).Nodup)
    (samePorts : ∀ previous ∈ state.host.serviceState.persistedService record.manifest.name,
      previous.desiredState = .running → SamePorts previous.manifest record.manifest) :
    Settled { state with host } := by
  by_cases running : record.desiredState = .running
  · obtain ⟨previous, persisted, wasRunning⟩ :=
      desiredStateOf_eq_running.mp (desired.symm.trans running)
    have same := samePorts previous persisted wasRunning
    apply settled.of_recorded recorded settled.one
    · intro _
      exact distinct_of_samePorts same ports (settled.distinct _ previous persisted wasRunning)
    · intro protocol port
      rw [settled.listens_iff persisted, same, wasRunning, running]
  · exact settled.stored_stopped recorded running (desired ▸ running)

theorem Settled.apply {manifestYaml baseDir : String} (settled : Settled state)
    (meets : (LocalOperation.apply manifestYaml baseDir).Meets setup state) :
    Settled ((LocalOperation.apply manifestYaml baseDir).perform setup state).2 := by
  rw [LocalOperation.perform]
  cases ran : applyManifestYaml setup manifestYaml baseDir state.host with
  | mk outcome host =>
      rcases applyManifestYaml_cases ran with
        ⟨error, rfl, same⟩ | ⟨manifest, id, resolved, prepared, replaced, resolves, replaces, same,
          previousManifest, desired, last⟩
      · rw [onRuntime_error _ ran]
        exact settled.of_same same
      · have carriesOn : CarriesOn setup state manifest prepared replaced :=
          meets _ resolved resolves prepared replaced replaces
        have ports := (resolveYaml_free resolves).distinct
        have resolving := @resolveYaml_records setup manifestYaml baseDir state.host
        rw [resolves] at resolving
        unfold CarriesOn Completes at carriesOn
        rcases Program.bind_cases _ last with
          ⟨error, rfl, unstored⟩ | ⟨_, middle, stored, restarting⟩
        · rw [onRuntime_error _ ran]
          rcases recordService_recorded settled resolving replaces unstored with
            ⟨localServiceId, recorded⟩ | ⟨-, unknown, store, manifests⟩
          · apply settled.unfinished recorded desired ports
            intro previous persisted wasRunning
            apply (carriesOn previous persisted wasRunning).2
            rw [unstored]
            exact fun completes => nomatch completes.1
          · exact settled.unrecorded unknown store manifests
        · rcases recordService_recorded settled resolving replaces stored with
            ⟨localServiceId, recorded⟩ | ⟨⟨_, impossible⟩, -⟩
          · rw [stored] at carriesOn
            by_cases running : prepared.desiredState = .running
            · obtain ⟨previous, persisted, wasRunning⟩ :=
                desiredStateOf_eq_running.mp (desired.symm.trans running)
              have reconciled {outcome : Except Error Unit} {after : Host}
                  (ran : reconcile setup manifest prepared middle = (outcome, after)) :=
                recorded.then_stored
                  (reconcile_stored recorded.sound recorded.persisted running ran)
              rcases Program.bind_cases _ restarting with
                ⟨error, rfl, failed⟩ | ⟨_, after, started, returned⟩
              · rw [onRuntime_error _ ran]
                apply settled.unfinished (reconciled failed) desired ports
                intro previous persisted wasRunning
                apply (carriesOn previous persisted wasRunning).2
                rw [failed]
                exact fun completes => nomatch completes.2
              · cases returned
                have known : previousManifestOf state.host manifest.name =
                    some previous.manifest := by
                  unfold previousManifestOf
                  rw [persisted]
                  rfl
                rw [onRuntime_ok _ ran]
                dsimp only
                rw [Program.when, if_pos running, previousManifest, known]
                obtain ⟨unshared, room⟩ := (carriesOn previous persisted wasRunning).1
                  ⟨rfl, congrArg Prod.fst started⟩
                exact settled.reopened (reconciled started) running persisted unshared room
            · rw [reconcile, Program.when, if_neg running] at restarting
              cases restarting
              rw [onRuntime_ok _ ran]
              dsimp only
              rw [Program.when, if_neg running]
              exact settled.stored_stopped recorded running (desired ▸ running)
          · cases impossible

end Operations

/-! ## Runs -/

theorem Settled.step {setup : RuntimeSetup} {state next : LocalServices}
    {operation : LocalOperation} (settled : Settled state) (meets : operation.Meets setup state)
    (taken : state.step setup operation = some next) : Settled next := by
  cases taken
  cases operation with
  | apply manifestYaml baseDir => exact settled.apply meets
  | start name => exact settled.start meets
  | stop name => exact settled.stop meets
  | remove name => exact settled.remove meets

/-- Without services and listeners all is settled. -/
theorem settled_of_empty {host : Host} {servicesRoot : String}
    (empty : host.serviceState = emptyStore servicesRoot) :
    Settled { host, tunneling := .new } := by
  have nothing (name : String) : host.serviceState.persistedService name = none := by
    rw [empty]
    simp [emptyStore, ServiceStateStore.persistedService]
  constructor
  · refine ⟨empty ▸ ServiceStateStore.Indexed.empty servicesRoot, ?_⟩
    intro id record found
    dsimp only at found
    rw [empty] at found
    simp [emptyStore] at found
  · intro name record persisted
    rw [nothing] at persisted
    cases persisted
  · exact oneListenerEach_new
  · intro name record persisted
    rw [nothing] at persisted
    cases persisted
  · intro protocol port
    apply iff_of_false
    · intro listens
      obtain ⟨ruleId, rule, present, -⟩ := listens
      simp [TcpTunnelingControl.new] at present
    · intro opened
      obtain ⟨name, record, persisted, -⟩ := opened
      rw [nothing] at persisted
      cases persisted

/-- In a run of operations that meet their conditions, the listening rules follow the desired
states after each operation. -/
theorem listenersFollow_of_run (setup : RuntimeSetup) (start : LocalServices)
    (operations : List LocalOperation) (settled : Settled start)
    (met : EveryStep (LocalServices.step setup) (fun state operation => operation.Meets setup state)
      start operations) :
    EveryState (LocalServices.step setup) ListenersFollow start operations :=
  met.everyState (fun _ _ _ settled meets taken => settled.step meets taken)
    (fun _ settled => settled.listenersFollow) settled

/-! ## A service that moves to another port -/

/-- The documents of a service before and after its port is moved. -/
def movedPlatform : Platform :=
  { yaml := .ofTable
      [("fungi: old", publishingDocument "demo" [("main", 8080)]),
        ("fungi: new", publishingDocument "demo" [("main", 9090)]),
        ("fungi: old, written", manifestDocument (publishingManifest "demo" [("main", 8080)])),
        ("fungi: new, written", manifestDocument (publishingManifest "demo" [("main", 9090)]))]
      (by decide +kernel) (by decide +kernel)
    json := .unary
    channel := .stable }

/-- A daemon with Wasmtime alone. -/
def movedSetup : RuntimeSetup :=
  { toPlatform := movedPlatform, fungiHome := "/f", docker := none, wasmtimeEnabled := true }

/-- A machine without services or listeners. -/
def withoutServices (outcomes : List (Option Fault)) : LocalServices :=
  { host := { Host.fresh (.ofList [([], .directory), (["f".toList], .directory)]) outcomes with
              serviceState := emptyStore "/f/services" }
    tunneling := .new }

/-- The port of a running service is moved. -/
private def moving : List LocalOperation :=
  [.apply "fungi: old" "/base", .start "demo", .apply "fungi: new" "/base"]

/-- The new process cannot be spawned. -/
private def spawnFails : List (Option Fault) :=
  List.replicate 60 none ++
    [some { made := 0, deleted := [], left := none, carriedOut := false, reply := .message "" }]

/-- The second apply has stored the new manifest when the start fails, and returns without
closing the old listener and opening the new one. -/
theorem listeners_stay_behind :
    Settled (withoutServices spawnFails) ∧
      ¬ EveryState (LocalServices.step movedSetup) ListenersFollow (withoutServices spawnFails)
        moving := by
  refine ⟨settled_of_empty rfl, ?_⟩
  intro every
  have evaluated : ((run (LocalServices.step movedSetup) (withoutServices spawnFails)
      moving).map fun final => decide (
        ∃ rule ∈ final.tunneling.listeningRules.toList, ∃ protocol ∈ rule.2.protocol,
          ∀ entry ∈ final.host.serviceManifests.toList,
            ¬ Exposes entry.2 protocol rule.2.port)) = some true := by
    decide +kernel
  obtain ⟨final, reached, facts⟩ := Option.map_eq_some_iff.mp evaluated
  obtain ⟨rule, listed, protocol, named, unexposed⟩ := of_decide_eq_true facts
  have listens : Listens final.tunneling protocol rule.2.port :=
    ⟨rule.1, rule.2, Std.ExtTreeMap.mem_toList_iff_getElem?_eq_some.mp listed, rfl, named⟩
  obtain ⟨name, manifest, known, -, exposes⟩ := (every.finally reached _ _).mp listens
  exact unexposed (name, manifest) (Std.ExtTreeMap.mem_toList_iff_getElem?_eq_some.mpr known)
    exposes

theorem listenersFollow_of_run_demo :
    EveryState (LocalServices.step movedSetup) ListenersFollow (withoutServices [])
      (moving ++ [.stop "demo", .start "demo", .remove "demo"]) :=
  listenersFollow_of_run movedSetup (withoutServices []) (moving ++ [.stop "demo", .start "demo",
    .remove "demo"]) (settled_of_empty rfl) (by decide +kernel)

end Fungi.Daemon.ServiceRuns
