import Fungi.Config.Devices
import Fungi.Lib.Run

/-!
# Names of saved devices

Runs of `add_or_update_device` and `remove_device`, each with the save that ends it.  A device has
two keys, its peer id and its normalized name; both stay unique, and a name finds its device.
-/

namespace Fungi.Config

open Fungi.Lib Fungi.Runtime

variable {PeerId : Type}

/-! ## Operations -/

/-- `add_or_update_device` with its save: the devices that replace the old ones, unless it fails,
and the file after it. -/
def DevicesConfig.addOrUpdateAndSave [DecidableEq PeerId] (lowercase : Lowercase)
    (self file : DevicesConfig PeerId) (info : DeviceInfo PeerId) (now : SystemTime)
    (outcome : SaveOutcome (DeviceInfo PeerId)) :
    Option (DevicesConfig PeerId) × DevicesConfig PeerId :=
  match addOrUpdateDevice lowercase self info now with
  | .error _ => (none, file)
  | .ok newConfig =>
      match outcome with
      | .written => (some newConfig, newConfig)
      | .failed left => (none, left)

/-- The operations on the saved devices, each with the outcome of its save. -/
inductive DeviceOperation (PeerId : Type) where
  | addOrUpdate (info : DeviceInfo PeerId) (now : SystemTime)
      (outcome : SaveOutcome (DeviceInfo PeerId))
  | remove (peerId : PeerId) (outcome : SaveOutcome (DeviceInfo PeerId))

/-- The configuration in use and the file it is saved to. -/
structure SavedDevices (PeerId : Type) where
  config : DevicesConfig PeerId
  file : DevicesConfig PeerId

namespace SavedDevices

/-- The configuration in use is replaced by the one an operation returns, if it returns one. -/
def replace (self : SavedDevices PeerId) :
    Option (DevicesConfig PeerId) × DevicesConfig PeerId → Bool × SavedDevices PeerId
  | (some newConfig, file) => (true, { config := newConfig, file := file })
  | (none, file) => (false, { self with file := file })

variable [DecidableEq PeerId]

/-- An operation: whether it succeeds, and what is left. -/
def operate (lowercase : Lowercase) (self : SavedDevices PeerId) :
    DeviceOperation PeerId → Bool × SavedDevices PeerId
  | .addOrUpdate info now outcome =>
      self.replace (self.config.addOrUpdateAndSave lowercase self.file info now outcome)
  | .remove peerId outcome => self.replace (self.config.removeDevice peerId outcome)

/-- An operation is a step whether it succeeds or fails. -/
def step (lowercase : Lowercase) (self : SavedDevices PeerId)
    (operation : DeviceOperation PeerId) : Option (SavedDevices PeerId) :=
  some (self.operate lowercase operation).2

/-- The saved devices before the file has been read. -/
def init (file : DevicesConfig PeerId) : SavedDevices PeerId where
  config := []
  file := file

end SavedDevices

/-! ## The invariant -/

/-- The device is found by this name. -/
def DeviceInfo.HasName (lowercase : Lowercase) (self : DeviceInfo PeerId) (name : String) : Prop :=
  self.name.map (DevicesConfig.normalizeName lowercase) =
    some (DevicesConfig.normalizeName lowercase name)

instance (lowercase : Lowercase) (device : DeviceInfo PeerId) (name : String) :
    Decidable (device.HasName lowercase name) :=
  inferInstanceAs (Decidable (_ = _))

/-- Both keys are unique, every name is one that may be given, and a name finds the only device
that has it. -/
structure DevicesHold (lowercase : Lowercase) (devices : DevicesConfig PeerId) : Prop where
  peerIds : devices.Pairwise fun first second => first.peerId ≠ second.peerId
  names : devices.Pairwise fun first second =>
    first.name.map (DevicesConfig.normalizeName lowercase) ≠
      second.name.map (DevicesConfig.normalizeName lowercase)
  named : ∀ device ∈ devices, ∃ name, device.name = some name ∧
    DevicesConfig.normalizeName lowercase name ≠ "" ∧
    DevicesConfig.normalizeName lowercase name ≠ localDeviceName
  found : ∀ name device, devices.getDeviceByName lowercase name = some device ↔
    device ∈ devices ∧ device.HasName lowercase name ∧
      ∀ other ∈ devices, other.HasName lowercase name → other = device

section Invariant

variable {lowercase : Lowercase} {devices : DevicesConfig PeerId}

/-- Of the devices with one name there is one at most. -/
theorem DevicesConfig.Valid.eq_of_hasName (valid : DevicesConfig.Valid lowercase devices)
    {first second : DeviceInfo PeerId} {name : String} (firstAmong : first ∈ devices)
    (secondAmong : second ∈ devices) (firstNamed : first.HasName lowercase name)
    (secondNamed : second.HasName lowercase name) : first = second :=
  List.inj_on_of_nodup_map valid.names firstAmong secondAmong (firstNamed.trans secondNamed.symm)

/-- A name finds the only device that has it. -/
theorem DevicesConfig.Valid.getDeviceByName_eq_some_iff
    (valid : DevicesConfig.Valid lowercase devices) (name : String) (device : DeviceInfo PeerId) :
    devices.getDeviceByName lowercase name = some device ↔
      device ∈ devices ∧ device.HasName lowercase name ∧
        ∀ other ∈ devices, other.HasName lowercase name → other = device := by
  constructor
  · intro found
    unfold DevicesConfig.getDeviceByName at found
    have among := List.mem_of_find?_eq_some found
    have matching := List.find?_some found
    have named : device.HasName lowercase name := of_decide_eq_true matching
    exact ⟨among, named, fun other otherAmong otherNamed =>
      valid.eq_of_hasName otherAmong among otherNamed named⟩
  · rintro ⟨among, named, only⟩
    unfold DevicesConfig.getDeviceByName
    cases found : devices.find? _ with
    | none =>
        have missed := List.find?_eq_none.mp found device among
        exact absurd (decide_eq_true named) missed
    | some other =>
        have otherAmong := List.mem_of_find?_eq_some found
        have matching := List.find?_some found
        rw [only other otherAmong (of_decide_eq_true matching)]

theorem DevicesConfig.Valid.devicesHold
    (nonempty : ∀ text, text ≠ "" → lowercase.apply text ≠ "")
    (valid : DevicesConfig.Valid lowercase devices) : DevicesHold lowercase devices where
  peerIds := List.pairwise_map.mp valid.peerIds
  names := List.pairwise_map.mp valid.names
  named := by
    intro device member
    obtain ⟨name, isName, isValid⟩ := valid.named device member
    obtain ⟨isTrimmed, named, free⟩ := DevicesConfig.validateName_eq_ok.mp isValid
    refine ⟨name, isName, nonempty _ named, ?_⟩
    rw [isTrimmed]
    exact free
  found := valid.getDeviceByName_eq_some_iff

theorem SavedDevices.replace_of_failed {self : SavedDevices PeerId}
    {saved : Option (DevicesConfig PeerId) × DevicesConfig PeerId}
    (failed : (self.replace saved).1 = false) : (self.replace saved).2.config = self.config := by
  obtain ⟨_ | newConfig, file⟩ := saved
  · rfl
  · cases failed

variable [DecidableEq PeerId]

/-- An operation that fails leaves the configuration in use. -/
theorem SavedDevices.operate_of_failed {self : SavedDevices PeerId}
    {operation : DeviceOperation PeerId} (failed : (self.operate lowercase operation).1 = false) :
    (self.operate lowercase operation).2.config = self.config := by
  cases operation with
  | addOrUpdate info now outcome => exact replace_of_failed failed
  | remove peerId outcome => exact replace_of_failed failed

theorem DevicesConfig.Valid.operate {self : SavedDevices PeerId}
    (valid : DevicesConfig.Valid lowercase self.config) (operation : DeviceOperation PeerId) :
    DevicesConfig.Valid lowercase (self.operate lowercase operation).2.config := by
  cases operation with
  | addOrUpdate info now outcome =>
      rw [SavedDevices.operate, DevicesConfig.addOrUpdateAndSave]
      cases added : DevicesConfig.addOrUpdateDevice lowercase self.config info now with
      | error error => exact valid
      | ok newConfig =>
          cases outcome with
          | written => exact valid.addOrUpdateDevice added
          | failed left => exact valid
  | remove peerId outcome =>
      cases outcome with
      | written => exact valid.sublist List.filter_sublist
      | failed left => exact valid

/-- Every run of additions, updates and removals keeps the devices apart by both keys, and an
operation that fails changes nothing. -/
theorem device_list_invariant (lowercase : Lowercase)
    (nonempty : ∀ text, text ≠ "" → lowercase.apply text ≠ "")
    (file : DevicesConfig PeerId) (operations : List (DeviceOperation PeerId)) :
    EveryState (SavedDevices.step lowercase) (fun state => DevicesHold lowercase state.config)
        (.init file) operations ∧
      EveryStep (SavedDevices.step lowercase) (fun state operation =>
          (state.operate lowercase operation).1 = false →
            (state.operate lowercase operation).2.config = state.config)
        (.init file) operations := by
  have initially : DevicesConfig.Valid lowercase (SavedDevices.init file).config :=
    ⟨by simp [SavedDevices.init], List.nodup_nil, List.nodup_nil⟩
  have kept (state : SavedDevices PeerId) (operation : DeviceOperation PeerId)
      (next : SavedDevices PeerId) (valid : DevicesConfig.Valid lowercase state.config) (_ : True)
      (taken : state.step lowercase operation = some next) :
      DevicesConfig.Valid lowercase next.config := by
    cases taken
    exact valid.operate operation
  have every : EveryStep (SavedDevices.step lowercase) (fun _ _ => True) (.init file) operations :=
    everyStep_true _ _
  constructor
  · exact EveryStep.everyState kept (fun _ valid => valid.devicesHold nonempty) initially every
  · exact EveryStep.of_invariant kept (fun _ _ _ _ => SavedDevices.operate_of_failed) initially
      every

theorem asciiLowercase_ne_empty (text : String) (nonempty : text ≠ "") :
    asciiLowercase.apply text ≠ "" := by
  intro empty
  have lowered : text.toList.map Char.toLower = [] :=
    String.ofList_eq_empty_iff.mp empty
  rw [List.map_eq_nil_iff, String.toList_eq_nil_iff] at lowered
  exact nonempty lowered

/-- A device of this peer and name. -/
def namedDevice (peerId : Nat) (name : String) : DeviceInfo Nat where
  peerId := peerId
  name := some name
  hostname := none
  multiaddrs := []
  privateIps := []
  os := .linux
  version := "1.0.0"
  publicIp := none
  createdAt := 0
  lastConnected := 0

/-- A name that is taken and the reserved one are refused, and a peer may take another name. -/
def renamingOperations : List (DeviceOperation Nat) :=
  [.addOrUpdate (namedDevice 1 " Laptop ") 0 .written,
    .addOrUpdate (namedDevice 2 "laptop") 1 .written,
    .addOrUpdate (namedDevice 1 "LOCAL") 2 .written,
    .addOrUpdate (namedDevice 1 "Desk") 3 .written,
    .addOrUpdate (namedDevice 2 "laptop") 4 .written,
    .remove 1 (.failed [])]

theorem device_list_invariant_renaming :
    (run (SavedDevices.step asciiLowercase) (.init []) renamingOperations).map
        (fun state => state.config.map fun device => (device.peerId, device.name)) =
      some [(1, some "Desk"), (2, some "laptop")] ∧
    EveryState (SavedDevices.step asciiLowercase)
      (fun state => DevicesHold asciiLowercase state.config) (.init []) renamingOperations :=
  ⟨by decide +kernel, (device_list_invariant asciiLowercase asciiLowercase_ne_empty []
    renamingOperations).1⟩

end Invariant

end Fungi.Config
