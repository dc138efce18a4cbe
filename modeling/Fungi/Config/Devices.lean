import Fungi.Config.TrustedDevices
import Fungi.Lib.Fallible
import Fungi.Lib.Text
import Fungi.Runtime.Model
import Mathlib.Data.List.Nodup

/-!
# Saved devices

`DevicesConfig` of `crates/config/src/devices.rs`: the devices by their peer ids, each with a name
of its own.  The TOML file is modelled by the devices it decodes to.
-/

namespace Fungi.Config

open Fungi.Lib Fungi.Runtime

/-- `str::to_lowercase`.  Of the tables of Unicode only the part for ASCII is relied on. -/
structure Lowercase where
  apply : String → String
  ascii : ∀ text, text.toList.all (·.toNat < 128) → apply text = toAsciiLowercase text

/-- Lowering that leaves every character but the ASCII letters alone. -/
def asciiLowercase : Lowercase := ⟨toAsciiLowercase, fun _ _ => rfl⟩

/-- Nanoseconds since the epoch. -/
abbrev SystemTime := Nat

/-- The operating system of a device. -/
inductive Os where
  | windows
  | macOS
  | linux
  | android
  | iOS
  | unknown
  deriving DecidableEq

/-- What is saved about a device. -/
structure DeviceInfo (PeerId : Type) where
  peerId : PeerId
  name : Option String
  hostname : Option String
  multiaddrs : List String
  privateIps : List String
  os : Os
  version : String
  publicIp : Option String
  createdAt : SystemTime
  lastConnected : SystemTime
  deriving DecidableEq

/-- The devices of `DevicesConfig`. -/
abbrev DevicesConfig (PeerId : Type) := List (DeviceInfo PeerId)

/-- The name that stands for the local device and that no other device may have. -/
def localDeviceName : String := "local"

variable {PeerId : Type}

/-- A newer record of the device, which keeps the older name and creation time. -/
def DeviceInfo.updateFrom (self other : DeviceInfo PeerId) (now : SystemTime) :
    DeviceInfo PeerId :=
  { other with
    name := other.name.or self.name
    createdAt := self.createdAt
    lastConnected := now }

namespace DevicesConfig

variable (lowercase : Lowercase)

/-- Names are compared trimmed and in lowercase. -/
def normalizeName (name : String) : String := lowercase.apply (trim name)

/-- A name that can be given to a device, trimmed. -/
def validateName (name : String) : Except Error String :=
  let trimmed := trim name
  if trimmed = "" then .error (.message "Name cannot be empty")
  else if normalizeName lowercase trimmed = localDeviceName then
    .error (.message s!"Device name `{localDeviceName}` is reserved for the local device")
  else .ok trimmed

/-- The first device whose name is the given one. -/
def getDeviceByName (self : DevicesConfig PeerId) (name : String) : Option (DeviceInfo PeerId) :=
  self.find? fun device =>
    device.name.map (normalizeName lowercase) = some (normalizeName lowercase name)

variable [DecidableEq PeerId]

/-- Whether a device other than the excepted one has the name. -/
def nameExists (self : DevicesConfig PeerId) (name : String) (exceptPeerId : Option PeerId) :
    Bool :=
  self.any fun peer =>
    exceptPeerId ≠ some peer.peerId ∧
      peer.name.map (normalizeName lowercase) = some (normalizeName lowercase name)

/-- Update the first device of the peer, or append a new one. -/
def updateOrPush (info : DeviceInfo PeerId) (now : SystemTime) :
    DevicesConfig PeerId → DevicesConfig PeerId
  | [] => [info]
  | existing :: rest =>
      if existing.peerId = info.peerId then existing.updateFrom info now :: rest
      else existing :: updateOrPush info now rest

/-- The devices that `add_or_update_device` saves. -/
def addOrUpdateDevice (self : DevicesConfig PeerId) (info : DeviceInfo PeerId)
    (now : SystemTime) : Except Error (DevicesConfig PeerId) := do
  let validatedName ←
    match info.name with
    | some name => validateName lowercase name
    | none => .error (.message "Device name is required for managed devices")
  if nameExists lowercase self validatedName (some info.peerId) then
    .error (.message s!"Device name already exists: {validatedName}")
  else .ok (updateOrPush { info with name := some validatedName } now self)

/-- `remove_device`: the devices that replace the old ones, unless the save fails, and the file
after it. -/
def removeDevice (self : DevicesConfig PeerId) (peerId : PeerId)
    (outcome : SaveOutcome (DeviceInfo PeerId)) :
    Option (DevicesConfig PeerId) × DevicesConfig PeerId :=
  let newConfig := self.filter (·.peerId ≠ peerId)
  match outcome with
  | .written => (some newConfig, newConfig)
  | .failed left => (none, left)

/-- A device list that the add-or-update operation built from the empty one. -/
inductive Built : DevicesConfig PeerId → Prop where
  | empty : Built []
  | added {devices next : DevicesConfig PeerId} {info : DeviceInfo PeerId} {now : SystemTime} :
      Built devices → addOrUpdateDevice lowercase devices info now = .ok next → Built next

/-! ## What the operation builds -/

/-- The device has a name as `validate_name` answers it. -/
def Named (device : DeviceInfo PeerId) : Prop :=
  ∃ name, device.name = some name ∧ validateName lowercase name = .ok name

/-- Every device has a valid name, and no two have the same peer or the same name. -/
structure Valid (devices : DevicesConfig PeerId) : Prop where
  named : ∀ device ∈ devices, Named lowercase device
  peerIds : (devices.map (·.peerId)).Nodup
  names : (devices.map fun device => device.name.map (normalizeName lowercase)).Nodup

section Specs

variable {lowercase : Lowercase} {self next : DevicesConfig PeerId} {info : DeviceInfo PeerId}
  {now : SystemTime} {name validated : String}

omit [DecidableEq PeerId] in
theorem validateName_eq_ok : validateName lowercase name = .ok validated ↔
    validated = trim name ∧ trim name ≠ "" ∧
      normalizeName lowercase (trim name) ≠ localDeviceName := by
  unfold validateName
  dsimp only
  split
  · next blank => exact iff_of_false nofun fun both => both.2.1 blank
  · next named =>
      split
      · next reserved => exact iff_of_false nofun fun both => both.2.2 reserved
      · next free =>
          rw [Except.ok.injEq]
          exact ⟨fun same => ⟨same.symm, named, free⟩, fun all => all.1.symm⟩

/-- A validated name is valid as it is. -/
theorem validateName_idem (valid : validateName lowercase name = .ok validated) :
    validateName lowercase validated = .ok validated := by
  obtain ⟨rfl, named, free⟩ := validateName_eq_ok.mp valid
  rw [validateName_eq_ok, trim_trim]
  exact ⟨rfl, named, free⟩

theorem nameExists_eq_false : nameExists lowercase self name (some info.peerId) = false ↔
    ∀ peer ∈ self, peer.peerId ≠ info.peerId →
      peer.name.map (normalizeName lowercase) ≠ some (normalizeName lowercase name) := by
  unfold nameExists
  rw [List.any_eq_false]
  constructor
  · intro free peer member other taken
    exact free peer member
      (decide_eq_true ⟨fun same => other (Option.some.inj same).symm, taken⟩)
  · intro free peer member found
    obtain ⟨other, taken⟩ := of_decide_eq_true found
    exact free peer member (fun same => other (congrArg some same.symm)) taken

theorem addOrUpdateDevice_eq_ok : addOrUpdateDevice lowercase self info now = .ok next ↔
    ∃ name validated, info.name = some name ∧ validateName lowercase name = .ok validated ∧
      nameExists lowercase self validated (some info.peerId) = false ∧
      next = updateOrPush { info with name := some validated } now self := by
  unfold addOrUpdateDevice
  cases info.name with
  | none => exact iff_of_false nofun (by simp)
  | some name =>
      dsimp only
      rw [bind_eq_ok]
      constructor
      · rintro ⟨validated, valid, added⟩
        split at added
        · cases added
        · next free =>
            exact ⟨name, validated, rfl, valid, eq_false_of_ne_true free,
              (Except.ok.inj added).symm⟩
      · rintro ⟨_, validated, same, valid, free, rfl⟩
        obtain rfl := Option.some.inj same
        exact ⟨validated, valid, by rw [free]; rfl⟩

omit [DecidableEq PeerId] in
theorem Valid.sublist (valid : Valid lowercase self) (fewer : next.Sublist self) :
    Valid lowercase next :=
  ⟨fun device member => valid.named device (fewer.subset member),
    valid.peerIds.sublist (fewer.map _), valid.names.sublist (fewer.map _)⟩

omit [DecidableEq PeerId] in
/-- The name of a saved device finds that device. -/
theorem getDeviceByName_of_mem (valid : Valid lowercase self) (member : info ∈ self)
    (isName : info.name = some name) :
    self.getDeviceByName lowercase name = some info := by
  cases found : self.getDeviceByName lowercase name with
  | none =>
      rw [getDeviceByName, List.find?_eq_none] at found
      simpa [isName] using found info member
  | some other =>
      rw [getDeviceByName] at found
      have among := List.mem_of_find?_eq_some found
      have same := List.find?_some found
      rw [decide_eq_true_iff] at same
      have images : other.name.map (normalizeName lowercase) =
          info.name.map (normalizeName lowercase) := by rw [same, isName]; rfl
      rw [List.inj_on_of_nodup_map valid.names among member images]

/-- The updated or new device takes the place of the one of its peer. -/
theorem updateOrPush_perm (info : DeviceInfo PeerId) (now : SystemTime)
    (peerIds : (self.map (·.peerId)).Nodup) :
    ∃ stored, stored.peerId = info.peerId ∧ (info.name.isSome → stored.name = info.name) ∧
      (updateOrPush info now self).Perm
        (stored :: self.filter (·.peerId ≠ info.peerId)) := by
  induction self with
  | nil => exact ⟨info, rfl, fun _ => rfl, List.Perm.refl _⟩
  | cons existing rest inductionHypothesis =>
      rw [List.map_cons, List.nodup_cons] at peerIds
      unfold updateOrPush
      split
      · next same =>
          have others : rest.filter (·.peerId ≠ info.peerId) = rest := by
            rw [List.filter_eq_self]
            intro other member
            apply decide_eq_true
            intro equal
            apply peerIds.1
            rw [same, ← equal]
            exact List.mem_map_of_mem member
          rw [List.filter_cons_of_neg (by simpa using same), others]
          refine ⟨existing.updateFrom info now, rfl, fun isNamed => ?_, List.Perm.refl _⟩
          obtain ⟨name, isName⟩ := Option.isSome_iff_exists.mp isNamed
          simp [DeviceInfo.updateFrom, isName]
      · next different =>
          obtain ⟨stored, samePeer, sameName, perm⟩ := inductionHypothesis peerIds.2
          rw [List.filter_cons_of_pos (by simpa using different)]
          exact ⟨stored, samePeer, sameName, (perm.cons existing).trans (.swap _ _ _)⟩

/-- A device that is new is appended. -/
theorem updateOrPush_of_new (new : info.peerId ∉ self.map (·.peerId)) :
    updateOrPush info now self = self ++ [info] := by
  induction self with
  | nil => rfl
  | cons existing rest inductionHypothesis =>
      rw [List.map_cons, List.mem_cons, not_or] at new
      rw [updateOrPush, if_neg (Ne.symm new.1), inductionHypothesis new.2, List.cons_append]

theorem Valid.addOrUpdateDevice (valid : Valid lowercase self)
    (added : addOrUpdateDevice lowercase self info now = .ok next) : Valid lowercase next := by
  obtain ⟨name, validated, isName, isValid, free, rfl⟩ := addOrUpdateDevice_eq_ok.mp added
  rw [nameExists_eq_false] at free
  obtain ⟨stored, samePeer, sameName, perm⟩ :=
    updateOrPush_perm { info with name := some validated } now valid.peerIds
  replace sameName : stored.name = some validated := sameName rfl
  have others := valid.sublist (List.filter_sublist (p := (·.peerId ≠ info.peerId)))
  constructor
  · intro device member
    rcases List.mem_cons.mp (perm.mem_iff.mp member) with rfl | other
    · exact ⟨validated, sameName, validateName_idem isValid⟩
    · exact others.named device other
  · rw [(perm.map _).nodup_iff, List.map_cons, List.nodup_cons]
    refine ⟨fun member => ?_, others.peerIds⟩
    obtain ⟨device, kept, same⟩ := List.mem_map.mp member
    exact of_decide_eq_true (List.mem_filter.mp kept).2 (same.trans samePeer)
  · rw [(perm.map _).nodup_iff, List.map_cons, List.nodup_cons]
    refine ⟨fun member => ?_, others.names⟩
    obtain ⟨device, kept, same⟩ := List.mem_map.mp member
    obtain ⟨old, different⟩ := List.mem_filter.mp kept
    rw [sameName] at same
    exact free device old (of_decide_eq_true different) same

/-- The operation builds exactly the valid device lists. -/
theorem built_iff_valid : Built lowercase self ↔ Valid lowercase self := by
  constructor
  · intro built
    induction built with
    | empty => exact ⟨nofun, List.nodup_nil, List.nodup_nil⟩
    | added _ added valid => exact valid.addOrUpdateDevice added
  · intro valid
    induction self using List.reverseRecOn with
    | nil => exact .empty
    | append_singleton devices device inductionHypothesis =>
        have before := valid.sublist (List.sublist_append_left devices [device])
        obtain ⟨name, isName, isValid⟩ := valid.named device (by simp)
        have added : addOrUpdateDevice lowercase devices device 0 = .ok (devices ++ [device]) := by
          rw [addOrUpdateDevice_eq_ok]
          have peerIds := valid.peerIds
          have names := valid.names
          rw [List.map_append, List.map_singleton, List.nodup_append_comm, List.singleton_append,
            List.nodup_cons] at peerIds names
          refine ⟨name, name, isName, isValid, ?_, ?_⟩
          · rw [nameExists_eq_false]
            intro peer member _ taken
            apply names.1
            rw [isName, Option.map_some, ← taken]
            exact List.mem_map_of_mem member
          · rw [← isName, updateOrPush_of_new peerIds.1]
        exact (inductionHypothesis before).added added

end Specs

end DevicesConfig

end Fungi.Config
