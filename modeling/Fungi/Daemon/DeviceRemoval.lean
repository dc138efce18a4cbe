import Fungi.Config.Devices
import Fungi.Daemon.AttachedEntries
import Fungi.Daemon.InboundAccess

/-!
# Removing a device

`devices_remove` of `crates/daemon/src/api/devices.rs`: the device goes from the saved devices and
its snapshot from the cache, its service accesses are forgotten, and last its authorization is
revoked.  Each of the steps can fail, and the call ends at the first that does.
-/

namespace Fungi.Daemon

open Fungi.Config Fungi.Lib Fungi.Runtime

/-! ## Forgetting the accesses -/

namespace ServiceAccesses

/-- What `forget_device` has made of the stores at each of its phases. -/
def ForgetOutcome (peerId : String) (stores : AccessContent) : AccessPhase → Prop
  | .ready | .locked | .preferencesRead _ => True
  | .listing purpose => ∃ preferences, purpose = .forgetDevice peerId preferences
  | .removing purpose ruleIds => (∃ preferences, purpose = .forgetDevice peerId preferences) ∧
      ∀ ruleId rule, stores.rules ruleId = some rule → rule.remotePeerId = peerId →
        ruleId ∈ ruleIds
  | .forgetSaving updated => (∀ record ∈ updated, record.remotePeerId ≠ peerId) ∧
      ∀ ruleId rule, stores.rules ruleId = some rule → rule.remotePeerId ≠ peerId
  | .unlocking result | .returned result => ∀ access, result = .ok access →
      (∀ record ∈ stores.records, record.remotePeerId ≠ peerId) ∧
      ∀ ruleId rule, stores.rules ruleId = some rule → rule.remotePeerId ≠ peerId
  | _ => False

theorem ForgetOutcome.advance {peerId : String} {parsers : AddressParsers}
    {self next : AccessStores} {answer : AccessAnswer} {phase phase' : AccessPhase}
    (outcome : ForgetOutcome peerId self.content phase)
    (taken : self.advance parsers (.forgetDevice peerId) answer phase = some (next, phase')) :
    ForgetOutcome peerId next.content phase' := by
  cases phase with
  | ready =>
      dsimp only [AccessStores.advance, AccessStores.enter] at taken
      unfold AccessStores.lock at taken
      split at taken
      · cases taken
      · cases taken
        trivial
  | locked =>
      dsimp only [AccessStores.advance, AccessStores.enterLocked] at taken
      split at taken
      · cases taken
        exact nofun
      · cases taken
        trivial
  | preferencesRead preferences =>
      cases taken
      exact ⟨preferences, rfl⟩
  | listing purpose =>
      obtain ⟨preferences, rfl⟩ := outcome
      cases taken
      refine ⟨⟨preferences, rfl⟩, ?_⟩
      intro ruleId rule listed ofPeer
      apply List.mem_map.mpr
      refine ⟨(ruleId, rule), List.mem_filter.mpr ⟨?_, decide_eq_true ofPeer⟩, rfl⟩
      exact ForwardingRules.mem_getForwardingRules_iff.mpr listed
  | removing purpose ruleIds =>
      obtain ⟨⟨preferences, rfl⟩, accounted⟩ := outcome
      cases ruleIds with
      | nil =>
          cases taken
          refine ⟨?_, fun ruleId rule listed ofPeer => ?_⟩
          · intro record member
            exact of_decide_eq_true (List.mem_filter.mp member).2
          · exact absurd (accounted ruleId rule listed ofPeer) List.not_mem_nil
      | cons ruleId rest =>
          dsimp only [AccessStores.advance] at taken
          split at taken
          · cases taken
            exact nofun
          · next removed =>
              cases taken
              obtain ⟨-, rfl⟩ := AccessStores.takeOut_eq_ok removed
              refine ⟨⟨preferences, rfl⟩, ?_⟩
              intro found rule listed ofPeer
              unfold AccessStores.content at listed
              dsimp only at listed
              rw [ForwardingRules.ruleAt_erase, Function.update_apply] at listed
              split at listed
              · cases listed
              · next different =>
                  exact (List.mem_cons.mp (accounted found rule listed ofPeer)).resolve_left
                    different
  | forgetSaving updated =>
      obtain ⟨forgotten, unruled⟩ := outcome
      dsimp only [AccessStores.advance] at taken
      cases taken
      intro access succeeded
      refine ⟨?_, unruled⟩
      cases saved : answer.saved with
      | written => exact forgotten
      | refused => simp [LocalPreferenceCache.saveToFile, saved] at succeeded
      | cutShort => simp [LocalPreferenceCache.saveToFile, saved] at succeeded
  | unlocking result =>
      cases taken
      exact outcome
  | returned result => cases taken
  | _ => cases outcome

/-- A forget that has succeeded leaves no record and no rule of the device. -/
theorem ForgetOutcome.of_run {peerId : String} {parsers : AddressParsers} {stores : AccessStores}
    {schedule : List (AccessStep Unit)} {final : AccessSystem Unit}
    (reached : run (AccessSystem.step parsers fun _ => .forgetDevice peerId)
      (AccessSystem.start stores) schedule = some final) :
    ForgetOutcome peerId final.stores.content (final.phases ()) := by
  refine run_induction (motive := fun _ state =>
    ForgetOutcome peerId state.stores.content (state.phases ())) ?_ ?_ reached
  · trivial
  · intro earlier state action after _ outcome taken
    cases action with
    | advance id answer => exact outcome.advance (AccessSystem.step_advance taken).1
    | bind ruleId succeeds =>
        cases taken
        rw [AccessStores.content_bind]
        exact outcome

end ServiceAccesses

/-! ## The whole call -/

/-- The five stores that a removal goes through, and the file of the saved devices. -/
structure DaemonStores (PeerId : Type) where
  devices : DevicesConfig PeerId
  /-- What `devices.toml` decodes to. -/
  devicesFile : DevicesConfig PeerId
  snapshots : DeviceServiceSnapshots PeerId
  accesses : ServiceAccesses.AccessStores
  inboundAccess : InboundAccessPolicy PeerId

/-- What a removal finds outside: the outcomes of its writes and of the removal of the snapshot,
the steps of `forget_device`, and what a failing file operation reports. -/
structure RemovalAnswers (PeerId : Type) where
  devices : SaveOutcome (DeviceInfo PeerId)
  snapshot : RemoveOutcome
  forgetting : List (ServiceAccesses.AccessStep Unit)
  trustedDevices : SaveOutcome PeerId
  error : Error

variable {PeerId : Type} [LinearOrder PeerId]

namespace DaemonStores

/-- `Devices::remove`. -/
def remove (self : DaemonStores PeerId) (localDevice peerId : PeerId)
    (answers : RemovalAnswers PeerId) : Except Error Unit × DaemonStores PeerId :=
  if peerId = localDevice then (.error (.message "cannot remove the local device"), self)
  else
    let (removed, devicesFile) := self.devices.removeDevice peerId answers.devices
    match removed with
    | none => (.error answers.error, { self with devicesFile })
    | some devices =>
        let (deleted, snapshots) := self.snapshots.remove peerId answers.snapshot
        (if deleted.isSome then .ok () else .error answers.error,
          { self with devices, devicesFile, snapshots })

/-- `ServiceAccesses::forget_device`, or `none` where its steps do not come to an end. -/
def forgetDevice (self : DaemonStores PeerId) (parsers : AddressParsers) (peerId : String)
    (answers : RemovalAnswers PeerId) : Option (Except Error Unit × DaemonStores PeerId) := do
  let system ← run (ServiceAccesses.AccessSystem.step parsers fun _ => .forgetDevice peerId)
    (ServiceAccesses.AccessSystem.start self.accesses) answers.forgetting
  let next := { self with accesses := system.stores }
  match system.phases () with
  | .returned (.ok _) => some (.ok (), next)
  | .returned (.error error) => some (.error error, next)
  | _ => none

/-- `untrust_device`. -/
def untrustDevice (self : DaemonStores PeerId) (peerId : PeerId)
    (answers : RemovalAnswers PeerId) : Except Error Unit × DaemonStores PeerId :=
  let (revoked, inboundAccess) := self.inboundAccess.revoke peerId answers.trustedDevices
  (if revoked then .ok () else .error answers.error, { self with inboundAccess })

/-- `devices_remove`.  The text of a peer id is what the service accesses know it by. -/
def devicesRemove (self : DaemonStores PeerId) (parsers : AddressParsers)
    (text : PeerId → String) (localDevice peerId : PeerId) (answers : RemovalAnswers PeerId) :
    Option (Except Error Unit × DaemonStores PeerId) :=
  match self.remove localDevice peerId answers with
  | (.error error, next) => some (.error error, next)
  | (.ok (), next) =>
      match next.forgetDevice parsers (text peerId) answers with
      | none => none
      | some (.error error, next) => some (.error error, next)
      | some (.ok (), next) => some (next.untrustDevice peerId answers)

end DaemonStores

/-- Nothing is left of the device. -/
structure Removed (text : PeerId → String) (peerId : PeerId) (stores : DaemonStores PeerId) :
    Prop where
  devices : peerId ∉ stores.devices.map (·.peerId)
  devicesFile : peerId ∉ stores.devicesFile.map (·.peerId)
  snapshots : stores.snapshots.cache peerId = none
  records : ∀ record ∈ stores.accesses.content.records, record.remotePeerId ≠ text peerId
  rules : ∀ ruleId rule, stores.accesses.content.rules ruleId = some rule →
    rule.remotePeerId ≠ text peerId
  trustedDevices : peerId ∉ stores.inboundAccess.trustedPeers.trustedDevices
  persisted : peerId ∉ stores.inboundAccess.persisted
  incomingAllowList : peerId ∉ stores.inboundAccess.incomingAllowList

section Specs

variable {parsers : AddressParsers} {text : PeerId → String} {localDevice peerId : PeerId}
  {answers : RemovalAnswers PeerId} {before after : DaemonStores PeerId}
  {policy next : InboundAccessPolicy PeerId} {outcome : SaveOutcome PeerId}

theorem mem_filter_peerIds (devices : DevicesConfig PeerId) :
    peerId ∉ (devices.filter (·.peerId ≠ peerId)).map (·.peerId) := by
  intro member
  obtain ⟨device, kept, same⟩ := List.mem_map.mp member
  exact of_decide_eq_true (List.mem_filter.mp kept).2 same

/-- The device list is written or all is as it was; the snapshot is gone if the step succeeds. -/
theorem DaemonStores.remove_cases (before : DaemonStores PeerId)
    (answers : RemovalAnswers PeerId) (remote : peerId ≠ localDevice) :
    (∃ error devicesFile,
      before.remove localDevice peerId answers = (.error error, { before with devicesFile })) ∨
    ∃ result devices snapshots, before.remove localDevice peerId answers =
        (result, { before with devices, devicesFile := devices, snapshots }) ∧
      peerId ∉ devices.map (·.peerId) ∧ (result = .ok () → snapshots.cache peerId = none) := by
  cases written : answers.devices with
  | failed left =>
      left
      refine ⟨answers.error, left, ?_⟩
      rw [remove, if_neg remote, written]
      rfl
  | written =>
      right
      have step : before.remove localDevice peerId answers =
          (if (before.snapshots.remove peerId answers.snapshot).1.isSome then .ok ()
            else .error answers.error,
            { before with
              devices := before.devices.filter (·.peerId ≠ peerId)
              devicesFile := before.devices.filter (·.peerId ≠ peerId)
              snapshots := (before.snapshots.remove peerId answers.snapshot).2 }) := by
        rw [remove, if_neg remote, written]
        rfl
      refine ⟨_, _, _, step, mem_filter_peerIds _, ?_⟩
      rcases before.snapshots.remove_cases peerId answers.snapshot with
        refused | ⟨-, failed | ⟨found, removed⟩⟩
      · rw [refused]
        nofun
      · rw [failed]
        nofun
      · rw [removed]
        exact fun _ => Function.update_self _ _ _

theorem InboundAccessPolicy.revoke_true (revoked : policy.revoke peerId outcome = (true, next)) :
    peerId ∉ next.trustedPeers.trustedDevices ∧ peerId ∉ next.persisted ∧
      peerId ∉ next.incomingAllowList := by
  unfold revoke perform at revoked
  split at revoked
  · next persisted saved =>
      cases revoked
      refine ⟨?_, ?_, ?_⟩
      · change peerId ∉ persisted.trustedPeers.trustedDevices
        rw [(persist_true saved).2.2 peerId, if_pos rfl]
        nofun
      · unfold persist at saved
        dsimp only at saved
        split at saved
        · next trustedPeers replaced =>
            cases saved
            obtain ⟨inStep, members⟩ :=
              TrustedDevicesConfig.removeTrustedDevice_spec (Prod.ext replaced rfl)
            intro member
            change peerId ∈ trustedPeers.persisted
              (policy.trustedPeers.removeTrustedDevice peerId policy.trustedDevicesFile outcome).2
              at member
            rw [inStep] at member
            exact ((members peerId).mp member).1 rfl
        · cases saved
      · rw [mem_updateAllowList, if_pos rfl]
        nofun
  · cases revoked

theorem InboundAccessPolicy.revoke_false (failed : policy.revoke peerId outcome = (false, next)) :
    next.trustedPeers = policy.trustedPeers ∧
      next.incomingAllowList = policy.incomingAllowList := by
  unfold revoke perform at failed
  split at failed
  · cases failed
  · next persisted notSaved =>
      cases failed
      exact persist_false notSaved

omit [LinearOrder PeerId] in
/-- Only the service accesses change when they are forgotten. -/
theorem DaemonStores.forgetDevice_eq_some {device : String} {result : Except Error Unit}
    (forgotten : before.forgetDevice parsers device answers = some (result, after)) :
    ∃ accesses, after = { before with accesses } ∧ (result = .ok () →
      (∀ record ∈ accesses.content.records, record.remotePeerId ≠ device) ∧
      ∀ ruleId rule, accesses.content.rules ruleId = some rule → rule.remotePeerId ≠ device) := by
  obtain ⟨system, reached, answered⟩ := Option.bind_eq_some_iff.mp forgotten
  have outcome := ServiceAccesses.ForgetOutcome.of_run reached
  refine ⟨system.stores, ?_⟩
  dsimp only at answered
  split at answered
  · next access returned =>
      cases answered
      rw [returned] at outcome
      exact ⟨rfl, fun _ => outcome access rfl⟩
  · cases answered
    exact ⟨rfl, nofun⟩
  · cases answered

end Specs

/-- A removal that succeeds leaves nothing of the device.  One that fails either finds that the
device list cannot be written, and changes nothing else, or leaves the device out of the list with
its authorization as it was. -/
theorem devicesRemove_spec (parsers : AddressParsers) (text : PeerId → String)
    (localDevice peerId : PeerId) (answers : RemovalAnswers PeerId)
    (before after : DaemonStores PeerId) (result : Except Error Unit)
    (remote : peerId ≠ localDevice)
    (completed : before.devicesRemove parsers text localDevice peerId answers =
      some (result, after)) :
    (result = .ok () → Removed text peerId after) ∧
    ∀ error, result = .error error →
      after = { before with devicesFile := after.devicesFile } ∨
      peerId ∉ after.devices.map (·.peerId) ∧
        after.inboundAccess.trustedPeers = before.inboundAccess.trustedPeers ∧
        after.inboundAccess.incomingAllowList = before.inboundAccess.incomingAllowList := by
  unfold DaemonStores.devicesRemove at completed
  rcases before.remove_cases answers remote with
    ⟨error, devicesFile, refused⟩ | ⟨removed, devices, snapshots, same, absent, deleted⟩
  · rw [refused] at completed
    cases completed
    exact ⟨nofun, fun _ _ => Or.inl rfl⟩
  · rw [same] at completed
    cases removed with
    | error error =>
        cases completed
        exact ⟨nofun, fun _ _ => Or.inr ⟨absent, rfl, rfl⟩⟩
    | ok _ =>
        dsimp only at completed
        split at completed
        · cases completed
        · next error next forgotten =>
            cases completed
            obtain ⟨accesses, rfl, -⟩ := DaemonStores.forgetDevice_eq_some forgotten
            exact ⟨nofun, fun _ _ => Or.inr ⟨absent, rfl, rfl⟩⟩
        · next next forgotten =>
            obtain ⟨accesses, rfl, gone⟩ := DaemonStores.forgetDevice_eq_some forgotten
            obtain ⟨records, rules⟩ := gone rfl
            unfold DaemonStores.untrustDevice at completed
            cases revoked : before.inboundAccess.revoke peerId answers.trustedDevices with
            | mk succeeded policy =>
                dsimp only at completed
                rw [revoked] at completed
                cases completed
                cases succeeded with
                | true =>
                    obtain ⟨trusted, persisted, allowed⟩ :=
                      InboundAccessPolicy.revoke_true revoked
                    refine ⟨fun _ => ?_, nofun⟩
                    exact ⟨absent, absent, deleted rfl, records, rules, trusted, persisted,
                      allowed⟩
                | false =>
                    exact ⟨nofun, fun _ _ => Or.inr
                      ⟨absent, InboundAccessPolicy.revoke_false revoked⟩⟩

/-! ## A trusted device -/

/-- The device 7 is saved and trusted, and its service `web` is cached and attached to. -/
def trustedDevice : DaemonStores Nat :=
  let laptop : DeviceInfo Nat :=
    { peerId := 7, name := some "laptop", hostname := none, multiaddrs := [], privateIps := []
      os := .linux, version := "0.1.0", publicIp := none, createdAt := 0, lastConnected := 0 }
  { devices := [laptop]
    devicesFile := [laptop]
    snapshots := .new fun peerId =>
      if peerId = 7 then some { services := [ServiceAccesses.webService] } else none
    accesses := ServiceAccesses.webSaved
    inboundAccess := .new { trustedDevices := [7], configFile := "trusted_devices.toml" } }

/-- The device 7 is the one of the service accesses. -/
def peerText (peerId : Nat) : String :=
  if peerId = 7 then ServiceAccesses.webPeer
  else "12D3KooWQW1nMmgC9R2j8uF1pL7dV7cP8xN3d8X7p4hYt3QwD8YV"

/-- Every step of the removal succeeds. -/
def removalSucceeds : RemovalAnswers Nat :=
  { devices := .written
    snapshot := .removed
    forgetting := List.replicate 7 (.advance () .calm)
    trustedDevices := .written
    error := .message "No space left on device" }

theorem devicesRemove_trustedDevice :
    ∃ after, trustedDevice.devicesRemove .loopback peerText 1 7 removalSucceeds =
        some (.ok (), after) ∧ Removed peerText 7 after := by
  have evaluated : (trustedDevice.devicesRemove .loopback peerText 1 7 removalSucceeds).map
      (fun answered => answered.1.toOption) = some (some ()) := by
    decide +kernel
  obtain ⟨⟨result, after⟩, completed, succeeded⟩ := Option.map_eq_some_iff.mp evaluated
  cases result with
  | error error => cases succeeded
  | ok _ =>
      exact ⟨after, completed, (devicesRemove_spec .loopback peerText 1 7 removalSucceeds
        trustedDevice after (.ok ()) (by decide) completed).1 rfl⟩

/-- The snapshot cannot be removed, the preferences cannot be read, or the trusted devices cannot be
written: each time the call fails, and the device is out of the list and still trusted. -/
theorem devicesRemove_leaves_authorized :
    7 ∈ trustedDevice.devices.map (·.peerId) ∧
    ∀ answers ∈ [{ removalSucceeds with snapshot := .failedToDelete },
        { removalSucceeds with
          forgetting := [.advance () .calm,
            .advance () { ServiceAccesses.AccessAnswer.calm with readable := false },
            .advance () .calm] },
        { removalSucceeds with trustedDevices := .failed [] }],
      ∃ error after, trustedDevice.devicesRemove .loopback peerText 1 7 answers =
          some (.error error, after) ∧
        7 ∉ after.devices.map (·.peerId) ∧
        7 ∈ after.inboundAccess.trustedPeers.trustedDevices ∧
        7 ∈ after.inboundAccess.incomingAllowList := by
  refine ⟨by decide, ?_⟩
  intro answers member
  have evaluated : (trustedDevice.devicesRemove .loopback peerText 1 7 answers).map
      (fun answered => decide (answered.1.toOption = none ∧
        7 ∉ answered.2.devices.map (·.peerId) ∧
        7 ∈ answered.2.inboundAccess.trustedPeers.trustedDevices ∧
        7 ∈ answered.2.inboundAccess.incomingAllowList)) = some true := by
    revert answers
    simp only [List.forall_mem_cons, List.not_mem_nil, false_imp_iff, implies_true, and_true]
    decide +kernel
  obtain ⟨⟨result, after⟩, completed, facts⟩ := Option.map_eq_some_iff.mp evaluated
  obtain ⟨failed, kept⟩ := of_decide_eq_true facts
  cases result with
  | ok _ => cases failed
  | error error => exact ⟨error, after, completed, kept⟩

end Fungi.Daemon
