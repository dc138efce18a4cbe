import Fungi.Config.Devices
import Fungi.Runtime.ManifestSpec

/-!
# Service references

`service@device/entry` as `fungi/src/commands/fungi_control` prints it, parses it and looks its
device up among the saved ones.  A reference is read back as what it was printed from exactly when
its names do not hold the separators and the name of the device is not the id of another one.
-/

namespace Fungi.Cli

open Fungi.Lib Fungi.Config Fungi.Runtime DevicesConfig

/-- The text of a peer id, from `libp2p`. -/
structure PeerIdText (PeerId : Type) where
  parse : String → Option PeerId
  print : PeerId → String
  parse_print : ∀ id, parse (print id) = some id

/-- A name as the manifest parser leaves it: trimmed and not blank. -/
structure ManifestName where
  text : String
  trimmed : trim text = text
  nonempty : text ≠ ""

variable {PeerId : Type}

/-! ## Devices -/

/-- A device as the user names it. -/
inductive PeerInput (PeerId : Type) where
  | peerId (id : PeerId)
  | name (text : String)

/-- The device that an input stands for. -/
structure ResolvedPeerTarget where
  peerId : String
  name : Option String
  hostname : Option String

variable (lowercase : Lowercase) (ids : PeerIdText PeerId)

/-- Whatever is not a peer id is taken for a name. -/
def PeerInput.fromStr (value : String) : Except String (PeerInput PeerId) :=
  let value := trim value
  if value = "" then .error "Device ID or name cannot be empty"
  else
    match ids.parse value with
    | some id => .ok (.peerId id)
    | none => .ok (.name value)

/-- A saved device as a target. -/
def savedTarget (device : DeviceInfo PeerId) : ResolvedPeerTarget :=
  { peerId := ids.print device.peerId, name := device.name, hostname := device.hostname }

/-- The saved device with a peer id. -/
def lookupDeviceInfo (devices : DevicesConfig PeerId) (peerId : String) :
    Option (DeviceInfo PeerId) :=
  devices.find? fun entry => ids.print entry.peerId = peerId

/-- The saved device that an input stands for; an id must have a name. -/
def resolvePeerInput (devices : DevicesConfig PeerId) :
    PeerInput PeerId → Except String ResolvedPeerTarget
  | .peerId id =>
      let deviceInfo := lookupDeviceInfo ids devices (ids.print id)
      match deviceInfo.bind (·.name) with
      | none =>
          .error <| s!"Device ID {ids.print id} is not saved yet. " ++
            s!"Add it first with `fungi device add <name> {ids.print id}`."
      | some name =>
          .ok
            { peerId := ids.print id
              name := some name
              hostname := deviceInfo.bind (·.hostname) }
  | .name name =>
      match devices.getDeviceByName lowercase name with
      | some entry => .ok (savedTarget ids entry)
      | none => .error s!"Unknown device name: {name}. Add or rename the device first."

/-! ## Parsing -/

/-- A reference to a service: its name, the device it is on, and one of its entries. -/
structure DynamicServiceTarget (PeerId : Type) where
  name : String
  isLocal : Bool
  device : Option (PeerInput PeerId)
  entry : Option String

/-- The part before the first `/`, and the entry after it. -/
def splitEntry (value : String) : Except String (String × Option String) :=
  match splitOnce '/' value with
  | some (head, tail) =>
      if trim tail = "" then .error "Entry name cannot be empty" else .ok (head, some tail)
  | none => .ok (value, none)

/-- The service before the first `@`, and the device after it. -/
def splitDevice (value nameAndDevice : String) (entry : Option String) :
    Except String (DynamicServiceTarget PeerId) :=
  match splitOnce '@' nameAndDevice with
  | some (name, device) =>
      let device := trim device
      if trim name = "" then .error "Service name cannot be empty"
      else if device = "" then .error "Device name cannot be empty"
      else if '@' ∈ device.toList then
        .error "Service target can only include one @device suffix"
      else if toAsciiLowercase device = toAsciiLowercase localDeviceName then
        .ok { name, isLocal := true, device := none, entry }
      else
        match PeerInput.fromStr ids device with
        | .error error => .error s!"Invalid device in service target {value}: {error}"
        | .ok device => .ok { name, isLocal := false, device := some device, entry }
  | none => .ok { name := nameAndDevice, isLocal := false, device := none, entry }

/-- Read a reference: `name`, `name@device`, and each of them with `/entry` behind it. -/
def parseDynamicServiceTarget (value : String) : Except String (DynamicServiceTarget PeerId) :=
  let value := trim value
  if value = "" then .error "Service name cannot be empty"
  else do
    let (nameAndDevice, entry) ← splitEntry value
    splitDevice ids value nameAndDevice entry

/-! ## Printing -/

/-- The name of a device, else its hostname, else its id. -/
def resolvedDeviceDisplayName (device : ResolvedPeerTarget) : String :=
  ((device.name.filter (trim · ≠ "")).or (device.hostname.filter (trim · ≠ ""))).getD device.peerId

/-- The entry behind a reference. -/
def entrySuffix : Option String → String
  | none => ""
  | some entry => "/" ++ entry

/-- The reference to a service, or to an entry of it. -/
def serviceReference (serviceName : String) (device : ResolvedPeerTarget) (entry : Option String) :
    String :=
  serviceName ++ ("@" ++ (resolvedDeviceDisplayName device ++ entrySuffix entry))

/-! ## Reading back -/

/-- The printed reference parses to the service and the entry, and its device resolves to the one
it was printed for. -/
def ReadsBack (devices : DevicesConfig PeerId) (device : DeviceInfo PeerId)
    (service : ManifestName) (entry : Option ManifestName) : Prop :=
  ∃ target input resolved,
    parseDynamicServiceTarget ids
        (serviceReference service.text (savedTarget ids device) (entry.map (·.text))) =
      .ok target ∧
    target.name = service.text ∧ target.isLocal = false ∧
    target.entry = entry.map (·.text) ∧ target.device = some input ∧
    resolvePeerInput lowercase ids devices input = .ok resolved ∧
    resolved.peerId = ids.print device.peerId

/-- Neither name holds a separator, and the name of the device is not the id of another one. -/
structure Referable (device : DeviceInfo PeerId) (service : ManifestName) : Prop where
  serviceName : '/' ∉ service.text.toList ∧ '@' ∉ service.text.toList
  deviceName : ∀ name, device.name = some name → '/' ∉ name.toList ∧ '@' ∉ name.toList
  id : ∀ name, device.name = some name → ∀ id, ids.parse name = some id → id = device.peerId

/-! ## Names in references -/

theorem PeerIdText.print_injective (ids : PeerIdText PeerId) : Function.Injective ids.print := by
  intro left right same
  have parsed := congrArg ids.parse same
  rw [ids.parse_print, ids.parse_print] at parsed
  exact Option.some.inj parsed

theorem ManifestName.named (name : ManifestName) : trim name.text ≠ "" := by
  rw [name.trimmed]
  exact name.nonempty

theorem ManifestName.bare (name : ManifestName) : Bare name.text.toList :=
  trim_eq_self_iff.mp name.trimmed

/-- The name of a saved device, which is not the local one's. -/
theorem validateName_not_local {lowercase : Lowercase} {name : String}
    (valid : validateName lowercase name = .ok name) :
    toAsciiLowercase name ≠ toAsciiLowercase localDeviceName := by
  obtain ⟨-, -, free⟩ := validateName_eq_ok.mp valid
  intro same
  apply free
  have ascii : (trim name).toList.all (·.toNat < 128) := by
    rw [← (validateName_eq_ok.mp valid).1]
    apply ascii_of_toAsciiLowercase
    rw [same]
    decide +kernel
  rw [normalizeName, trim_trim, lowercase.ascii _ ascii, ← (validateName_eq_ok.mp valid).1, same]
  decide +kernel

theorem displayName_savedTarget {lowercase : Lowercase} (ids : PeerIdText PeerId)
    {device : DeviceInfo PeerId} {name : String} (isName : device.name = some name)
    (valid : validateName lowercase name = .ok name) :
    resolvedDeviceDisplayName (savedTarget ids device) = name := by
  obtain ⟨trimmed, nonempty, -⟩ := validateName_eq_ok.mp valid
  have kept : (some name).filter (fun text => decide (trim text ≠ "")) = some name := by
    rw [Option.filter_some, if_pos (decide_eq_true nonempty)]
  rw [resolvedDeviceDisplayName, savedTarget, isName, kept]
  rfl

theorem trim_serviceReference {service : ManifestName} {name : String} (bare : Bare name.toList)
    (nonempty : name ≠ "") (entry : Option ManifestName) :
    trim (service.text ++ ("@" ++ (name ++ entrySuffix (entry.map (·.text))))) =
      service.text ++ ("@" ++ (name ++ entrySuffix (entry.map (·.text)))) := by
  rw [trim_eq_self_iff]
  have serviceNonempty : service.text.toList ≠ [] := by simpa using service.nonempty
  cases entry with
  | none =>
      have joined := service.bare.join bare serviceNonempty (by simpa using nonempty) "@".toList
      simpa [entrySuffix] using joined
  | some entry =>
      have joined := service.bare.join entry.bare serviceNonempty (by simpa using entry.nonempty)
        ("@".toList ++ name.toList ++ "/".toList)
      simpa [entrySuffix] using joined

/-! ## Splitting references -/

section Splitting

variable {ids : PeerIdText PeerId} {service name value : String} {entry : Option ManifestName}
  {target : DynamicServiceTarget PeerId}

theorem splitOnce_at (rest : String) : splitOnce '@' ("@" ++ rest) = some ("", rest) := by
  rw [splitOnce_eq_some]
  simp

theorem splitOnce_slash (rest : String) : splitOnce '/' ("/" ++ rest) = some ("", rest) := by
  rw [splitOnce_eq_some]
  simp

/-- Without a `/` in the names, the entry is split off. -/
theorem splitEntry_reference (serviceWhole : '/' ∉ service.toList) (nameWhole : '/' ∉ name.toList)
    (entry : Option ManifestName) :
    splitEntry (service ++ ("@" ++ (name ++ entrySuffix (entry.map (·.text))))) =
      .ok (service ++ ("@" ++ name), entry.map (·.text)) := by
  unfold splitEntry
  rw [splitOnce_append serviceWhole, splitOnce_append (by decide), splitOnce_append nameWhole]
  cases entry with
  | none =>
      have absent : splitOnce '/' "" = none := by rw [splitOnce_eq_none]; simp
      simp [entrySuffix, absent]
  | some entry =>
      simp [entrySuffix, splitOnce_slash, entry.named]

/-- The device that a name stands for. -/
def nameInput (ids : PeerIdText PeerId) (name : String) : PeerInput PeerId :=
  match ids.parse name with
  | some id => .peerId id
  | none => .name name

/-- Without an `@` in the names, the device is split off. -/
theorem splitDevice_reference {lowercase : Lowercase} (serviceWhole : '@' ∉ service.toList)
    (nameWhole : '@' ∉ name.toList) (named : trim service ≠ "")
    (valid : validateName lowercase name = .ok name) (entry : Option String) :
    splitDevice ids value (service ++ ("@" ++ name)) entry =
      .ok { name := service, isLocal := false, device := some (nameInput ids name), entry } := by
  obtain ⟨trimmed, nonempty, -⟩ := validateName_eq_ok.mp valid
  rw [← trimmed] at nonempty
  have notLocal := validateName_not_local valid
  have input : PeerInput.fromStr ids name = .ok (nameInput ids name) := by
    unfold PeerInput.fromStr nameInput
    rw [← trimmed, if_neg nonempty]
    cases ids.parse name <;> rfl
  unfold splitDevice
  rw [splitOnce_append serviceWhole, splitOnce_at]
  simp [← trimmed, named, nonempty, nameWhole, notLocal, input]

theorem splitDevice_eq_ok {nameAndDevice : String} {entry : Option String}
    (split : splitDevice ids value nameAndDevice entry = .ok target) :
    target.entry = entry ∧
      (splitOnce '@' nameAndDevice = none ∧ target.name = nameAndDevice ∨
        ∃ device, splitOnce '@' nameAndDevice = some (target.name, device) ∧
          '@' ∉ (trim device).toList) := by
  unfold splitDevice at split
  cases parts : splitOnce '@' nameAndDevice with
  | none =>
      rw [parts] at split
      cases split
      exact ⟨rfl, .inl ⟨rfl, rfl⟩⟩
  | some both =>
      obtain ⟨front, device⟩ := both
      rw [parts] at split
      obtain ⟨-, named⟩ := guard_eq_ok.mp split
      obtain ⟨-, given⟩ := guard_eq_ok.mp named
      obtain ⟨single, accepted⟩ := guard_eq_ok.mp given
      have kept : target.entry = entry ∧ target.name = front := by
        by_cases isLocal : toAsciiLowercase (trim device) = toAsciiLowercase localDeviceName
        · rw [if_pos isLocal] at accepted
          cases accepted
          exact ⟨rfl, rfl⟩
        · rw [if_neg isLocal] at accepted
          cases input : PeerInput.fromStr ids (trim device) with
          | error error =>
              rw [input] at accepted
              cases accepted
          | ok input' =>
              rw [input] at accepted
              cases accepted
              exact ⟨rfl, rfl⟩
      exact ⟨kept.1, .inr ⟨device, by rw [kept.2], single⟩⟩

/-- The name of a target is not longer than the text it is split off from. -/
theorem length_name_le {nameAndDevice : String} {entry : Option String}
    (split : splitDevice ids value nameAndDevice entry = .ok target) :
    target.name.length ≤ nameAndDevice.length := by
  rcases (splitDevice_eq_ok split).2 with ⟨-, whole⟩ | ⟨device, parts, -⟩
  · rw [whole]
  · obtain ⟨shape, -⟩ := splitOnce_eq_some.mp parts
    rw [← String.length_toList, ← String.length_toList, shape]
    simp

/-- A reference that is parsed to what it was printed from holds each separator once. -/
theorem separators_of_splits {head : String} {kept : Option String}
    (entries : splitEntry (service ++ ("@" ++ (name ++ entrySuffix (entry.map (·.text))))) =
      .ok (head, kept))
    (devices : splitDevice ids value head kept = .ok target) (sameName : target.name = service)
    (sameEntry : target.entry = entry.map (·.text)) (bare : trim name = name) :
    ('/' ∉ service.toList ∧ '@' ∉ service.toList) ∧ '/' ∉ name.toList ∧ '@' ∉ name.toList := by
  have noLonger := length_name_le devices
  rw [sameName] at noLonger
  rw [(splitDevice_eq_ok devices).1] at sameEntry
  have serviceSlash : '/' ∉ service.toList := by
    intro present
    obtain ⟨front, tail, parts, shorter⟩ := splitOnce_of_mem present
      ("@" ++ (name ++ entrySuffix (entry.map (·.text))))
    rw [splitEntry, parts] at entries
    obtain ⟨-, same⟩ := guard_eq_ok.mp entries
    cases same
    omega
  have serviceAt : '@' ∉ service.toList := by
    intro present
    have headed : ∃ rest, head = service ++ rest := by
      rw [splitEntry, splitOnce_append serviceSlash] at entries
      split at entries
      · next parts =>
          obtain ⟨-, same⟩ := guard_eq_ok.mp entries
          cases same
          obtain ⟨both, -, same⟩ := Option.map_eq_some_iff.mp parts
          cases same
          exact ⟨_, rfl⟩
      · cases entries
        exact ⟨_, rfl⟩
    obtain ⟨rest, rfl⟩ := headed
    obtain ⟨front, tail, parts, shorter⟩ := splitOnce_of_mem present rest
    rcases (splitDevice_eq_ok devices).2 with ⟨absent, -⟩ | ⟨device, others, -⟩
    · cases parts.symm.trans absent
    · cases parts.symm.trans others
      rw [sameName] at shorter
      omega
  have nameSlash : '/' ∉ name.toList := by
    intro present
    obtain ⟨front, tail, parts, -⟩ := splitOnce_of_mem present (entrySuffix (entry.map (·.text)))
    rw [splitEntry, splitOnce_append serviceSlash, splitOnce_append (by decide), parts] at entries
    obtain ⟨-, same⟩ := guard_eq_ok.mp entries
    cases same
    -- the entry read back would hold itself and the rest of the name
    cases entry with
    | none => cases sameEntry
    | some entry =>
        have longer := congrArg String.length (Option.some.inj sameEntry)
        have slash : "/".length = 1 := rfl
        simp only [entrySuffix, Option.map_some, String.length_append, slash] at longer
        omega
  refine ⟨⟨serviceSlash, serviceAt⟩, nameSlash, ?_⟩
  rw [splitEntry_reference serviceSlash nameSlash] at entries
  cases entries
  rcases (splitDevice_eq_ok devices).2 with ⟨absent, -⟩ | ⟨device, parts, single⟩
  · rw [splitOnce_append serviceAt, splitOnce_at] at absent
    cases absent
  · rw [splitOnce_append serviceAt, splitOnce_at] at parts
    rw [Option.map_some, Option.some.injEq, Prod.mk.injEq] at parts
    rwa [← parts.2, bare] at single

end Splitting

/-! ## Resolving devices -/

section Resolving

variable {lowercase : Lowercase} {ids : PeerIdText PeerId}
  {devices : DevicesConfig PeerId} {device : DeviceInfo PeerId} {name : String}

/-- What the name of a saved device resolves to. -/
theorem resolvePeerInput_nameInput (ids : PeerIdText PeerId) (valid : Valid lowercase devices)
    (member : device ∈ devices) (isName : device.name = some name) :
    (∃ resolved, resolvePeerInput lowercase ids devices (nameInput ids name) = .ok resolved ∧
        resolved.peerId = ids.print device.peerId) ↔
      ∀ id, ids.parse name = some id → id = device.peerId := by
  unfold nameInput
  cases parsed : ids.parse name with
  | none =>
      simp only [resolvePeerInput, getDeviceByName_of_mem valid member isName]
      exact iff_of_true ⟨_, rfl, rfl⟩ nofun
  | some id =>
      simp only [resolvePeerInput, Option.some.injEq, forall_eq']
      constructor
      · rintro ⟨resolved, found, same⟩
        split at found
        · cases found
        · cases found
          exact ids.print_injective same
      · rintro rfl
        have found : ∃ entry, lookupDeviceInfo ids devices (ids.print device.peerId) = some entry ∧
            entry ∈ devices := by
          cases lookup : lookupDeviceInfo ids devices (ids.print device.peerId) with
          | none =>
              rw [lookupDeviceInfo, List.find?_eq_none] at lookup
              simpa using lookup device member
          | some entry => exact ⟨entry, rfl, List.mem_of_find?_eq_some lookup⟩
        obtain ⟨entry, lookup, among⟩ := found
        obtain ⟨entryName, isEntryName, -⟩ := valid.named entry among
        simp [lookup, isEntryName]

/-- A reference is read back as what it was printed from exactly when it is referable. -/
theorem serviceReference_readsBack_iff [DecidableEq PeerId] (built : Built lowercase devices)
    (member : device ∈ devices) (service : ManifestName) (entry : Option ManifestName) :
    ReadsBack lowercase ids devices device service entry ↔ Referable ids device service := by
  have valid := built_iff_valid.mp built
  obtain ⟨name, isName, isValid⟩ := valid.named device member
  obtain ⟨trimmed, nonempty, -⟩ := validateName_eq_ok.mp isValid
  rw [← trimmed] at nonempty
  have bare : Bare name.toList := trim_eq_self_iff.mp trimmed.symm
  have printed := displayName_savedTarget ids isName isValid
  have resolves := resolvePeerInput_nameInput ids valid member isName
  have parses : ∀ target, parseDynamicServiceTarget ids
      (serviceReference service.text (savedTarget ids device) (entry.map (·.text))) = .ok target ↔
        ∃ head kept, splitEntry (service.text ++ ("@" ++ (name ++
          entrySuffix (entry.map (·.text))))) = .ok (head, kept) ∧
            splitDevice ids (service.text ++ ("@" ++ (name ++
              entrySuffix (entry.map (·.text))))) head kept = .ok target := by
    intro target
    have nonblank : service.text ++ ("@" ++ (name ++ entrySuffix (entry.map (·.text)))) ≠ "" := by
      simp
    rw [serviceReference, printed, parseDynamicServiceTarget, trim_serviceReference bare nonempty]
    dsimp only
    rw [if_neg nonblank, bind_eq_ok, Prod.exists]
  constructor
  · rintro ⟨target, input, resolved, parsed, sameName, -, sameEntry, isInput, found, samePeer⟩
    obtain ⟨head, kept, entries, split⟩ := (parses target).mp parsed
    obtain ⟨⟨serviceSlash, serviceAt⟩, nameSlash, nameAt⟩ :=
      separators_of_splits entries split sameName sameEntry trimmed.symm
    rw [splitEntry_reference serviceSlash nameSlash] at entries
    cases entries
    rw [splitDevice_reference serviceAt nameAt service.named isValid] at split
    cases split
    cases isInput
    constructor
    · exact ⟨serviceSlash, serviceAt⟩
    · intro other isOther
      cases isName.symm.trans isOther
      exact ⟨nameSlash, nameAt⟩
    · intro other isOther
      cases isName.symm.trans isOther
      exact resolves.mp ⟨resolved, found, samePeer⟩
  · intro referable
    obtain ⟨serviceSlash, serviceAt⟩ := referable.serviceName
    obtain ⟨nameSlash, nameAt⟩ := referable.deviceName name isName
    obtain ⟨resolved, found, samePeer⟩ := resolves.mpr (referable.id name isName)
    refine ⟨_, _, resolved, (parses _).mpr ⟨_, _, splitEntry_reference serviceSlash nameSlash entry,
      splitDevice_reference serviceAt nameAt service.named isValid _⟩, rfl, rfl, rfl, rfl, found,
        samePeer⟩

end Resolving

/-! ## Two devices -/

/-- The two devices of an example. -/
inductive Peer where
  | nas
  | laptop
  deriving DecidableEq

/-- The ids of the two devices. -/
def peerIdText : PeerIdText Peer where
  parse
    | "12D3A" => some .nas
    | "12D3B" => some .laptop
    | _ => none
  print
    | .nas => "12D3A"
    | .laptop => "12D3B"
  parse_print := by
    intro peer
    cases peer <;> rfl

/-- A saved device with nothing but its id and name. -/
def savedDevice (peerId : Peer) (name : String) : DeviceInfo Peer :=
  { peerId, name := some name, hostname := none, multiaddrs := [], privateIps := [],
    os := .unknown, version := "", publicIp := none, createdAt := 0, lastConnected := 0 }

/-- A service. -/
def filebrowser : ManifestName := ⟨"filebrowser", by decide +kernel, by decide⟩

/-- An entry of the service. -/
def admin : ManifestName := ⟨"admin", by decide +kernel, by decide⟩

theorem serviceReference_readsBack_iff_nas :
    ReadsBack asciiLowercase peerIdText [savedDevice .nas "nas"] (savedDevice .nas "nas")
      filebrowser (some admin) := by
  have built : Built asciiLowercase [savedDevice .nas "nas"] := by
    rw [built_iff_valid]
    refine ⟨fun device member => ?_, by decide, by decide +kernel⟩
    obtain rfl := List.mem_singleton.mp member
    exact ⟨"nas", rfl, by decide +kernel⟩
  apply (serviceReference_readsBack_iff built (List.mem_singleton_self _) _ _).mpr
  constructor
  · decide +kernel
  · intro name isName
    cases isName
    decide +kernel
  · intro name isName id parsed
    cases isName
    cases parsed

/-- A device name may hold an `@`, and no reference to the device is then read back. -/
theorem serviceReference_refused :
    Built asciiLowercase [savedDevice .nas "ann@home"] ∧
      ¬ ReadsBack asciiLowercase peerIdText [savedDevice .nas "ann@home"]
        (savedDevice .nas "ann@home") filebrowser none := by
  constructor
  · rw [built_iff_valid]
    refine ⟨fun device member => ?_, by decide, by decide +kernel⟩
    obtain rfl := List.mem_singleton.mp member
    exact ⟨"ann@home", rfl, by decide +kernel⟩
  · rintro ⟨target, input, resolved, parsed, -⟩
    have refused : (parseDynamicServiceTarget peerIdText (serviceReference filebrowser.text
        (savedTarget peerIdText (savedDevice .nas "ann@home")) none)).toOption.isNone := by
      decide +kernel
    rw [Option.map_none] at parsed
    rw [parsed] at refused
    cases refused

end Fungi.Cli
