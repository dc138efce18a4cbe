import Mathlib.Data.List.Sort
import Mathlib.Data.String.Basic
import Fungi.ConfigMigrate.Steps

/-!
# Migrating the TOML files

`crates/config-migrate/src/config_files.rs`: `config.toml` is brought to the current version, its
legacy allowlist goes to `trusted_devices.toml` and the address book to `devices.toml`.
-/

namespace Fungi.ConfigMigrate

open Fungi.Lib FileSystem Toml

/-! ## The configuration file -/

/-- The services directory of old versions needs no entry among the allowed paths any more. -/
def removeLegacyServicesAllowlist (fungiDir : String) (runtime : Table) : Table :=
  match (runtime.get "allowed_host_paths").bind Value.asArray with
  | none => runtime
  | some paths =>
      let kept := paths.filter fun value => ¬ isLegacyServicesPath fungiDir value
      if kept.isEmpty then runtime.remove "allowed_host_paths"
      else runtime.insert "allowed_host_paths" (.array kept)

/-- The fixed ports of old versions become a free one. -/
def normalizeRpc (rpc : Table) : Table :=
  if hasLegacyRpcAddress rpc then rpc.insert "listen_address" (.string "127.0.0.1:0") else rpc

/-- The settings of the runtimes without the keys of old versions. -/
def normalizeRuntime (fungiDir : String) (runtime : Table) : Table :=
  removeLegacyServicesAllowlist fungiDir
    ((runtime.remove "allowed_ports").remove "allowed_port_ranges")

/-- What `migrate_config_toml_to_current` makes of the table. -/
def normalizeConfig (fungiDir : String) (table : Table) : Table :=
  ((((((table.insert "version" (.integer currentFungiDirVersion.toNat)).remove
    "incoming_allowed_peers").remove "tcp_tunneling").remove "file_transfer").updateTable
      "rpc" normalizeRpc).updateTable "network" fun network =>
        network.remove "incoming_allowed_peers").updateTable "runtime" (normalizeRuntime fungiDir)

section Staged

variable (formats : Formats) (stagingRoot : String)

/-- The table in the staged `config.toml`. -/
def readStagedConfig : Migration Table := do
  let configPath := Path.join stagingRoot configFile
  let content ← readFile s!"Failed to read config.toml from staging directory: {configPath}"
    configPath
  Program.ofExcept <| rootTable formats "Failed to parse config.toml in staging"
    "config.toml root must be a TOML table" content

/-- Encode a table and write it. -/
def writeTable (encodeFailure writeFailure path : String) (table : Table) : Migration Unit := do
  let updated ← ofOption encodeFailure (formats.toml.toStringPretty (.table table))
  writeFile writeFailure path updated

/-- Rewrite the staged `config.toml` as the current version. -/
def migrateConfigTomlToCurrent (fungiDir : String) : Migration Unit := do
  let configPath := Path.join stagingRoot configFile
  let table ← readStagedConfig formats stagingRoot
  writeTable formats "Failed to encode migrated config.toml from staging"
    s!"Failed to write migrated config.toml into staging directory: {configPath}" configPath
    (normalizeConfig fungiDir table)

/-! ## Trusted devices -/

/-- The texts of an array, trimmed and without empty ones, behind those collected so far. -/
def appendTomlStringArray (fieldName : String) (output : List String) :
    Option Value → Except Error (List String)
  | none => .ok output
  | some value =>
      match value.asArray with
      | none => .error s!"{fieldName} must be an array of peer IDs"
      | some values => do
          let peers ← values.mapM fun item =>
            match item.asStr with
            | none => .error s!"{fieldName} must contain only peer ID strings"
            | some peerId => .ok (trim peerId)
          return output ++ peers.filter (· ≠ "")

/-- Both places where old versions kept the peers that may connect. -/
def legacyIncomingAllowedPeers (table : Table) : Except Error (List String) := do
  let peers ← appendTomlStringArray "incoming_allowed_peers" []
    (table.get "incoming_allowed_peers")
  appendTomlStringArray "network.incoming_allowed_peers" peers
    ((subtable table "network").bind fun network => network.get "incoming_allowed_peers")

/-- The table and the array at the key, which is made when it is missing. -/
def ensureTomlArrayField (value : Value) (key : String) : Except Error (Table × List Value) :=
  match value.asTable with
  | none => .error s!"expected TOML table while accessing '{key}'"
  | some table =>
      match table.get key with
      | none => .ok (table, [])
      | some found =>
          match found.asArray with
          | none => .error s!"expected TOML array for '{key}'"
          | some items => .ok (table, items)

/-- Texts come after everything else, and among themselves in their order. -/
def textBefore : Option String → Option String → Bool
  | none, _ => true
  | some _, none => false
  | some left, some right => left ≤ right

/-- Append the peers that are not listed yet, and sort. -/
def addTrustedDevices (devices : List Value) (peers : List String) : List Value :=
  let existing := devices.filterMap Value.asStr
  let added := (peers.mergeSort (· ≤ ·)).eraseReps.filter (· ∉ existing)
  (devices ++ added.map Value.string).mergeSort fun left right => textBefore left.asStr right.asStr

/-- A TOML file in the staging directory; an empty table when it is missing. -/
def readStagedToml (readFailure parseFailure path : String) : Migration Value := do
  let found ← Program.gets fun files => files.pathExists path
  if found then
    let existing ← readFile readFailure path
    ofOption parseFailure (formats.toml.fromStr existing)
  else return .table []

/-- Add the legacy peers to the staged `trusted_devices.toml`. -/
def migrateLegacyIncomingAllowedPeers : Migration Unit := do
  let table ← readStagedConfig formats stagingRoot
  let incomingPeers ← Program.ofExcept (legacyIncomingAllowedPeers table)
  let trustedDevicesPath := Path.join stagingRoot trustedDevicesFile
  let trustedDevicesValue ← readStagedToml formats
    s!"Failed to read existing trusted_devices.toml from staging directory: {trustedDevicesPath}"
    "Failed to parse existing trusted_devices.toml in staging" trustedDevicesPath
  let (table, devices) ←
    Program.ofExcept (ensureTomlArrayField trustedDevicesValue "trusted_devices")
  writeTable formats "Failed to encode migrated trusted_devices.toml from staging"
    s!"Failed to write migrated trusted_devices.toml into staging directory: {trustedDevicesPath}"
    trustedDevicesPath
    (table.insert "trusted_devices" (.array (addTrustedDevices devices incomingPeers)))

/-! ## Devices -/

/-- A field that every legacy peer has. -/
def requiredField (table : Table) (key : String) : Except Error Value :=
  match table.get key with
  | some value => .ok value
  | none => .error s!"legacy address_book peer is missing {key}"

/-- A text that every legacy peer has. -/
def requiredTomlString (table : Table) (key : String) : Except Error String :=
  match (table.get key).bind Value.asStr with
  | some text => .ok text
  | none => .error s!"expected string field '{key}' in legacy TOML table"

/-- Copy a field under a key, if it is there. -/
def copyField (peer : Table) (source target : String) (device : Table) : Table :=
  match peer.get source with
  | some value => device.insert target value
  | none => device

/-- The device that a peer of the address book becomes. -/
def legacyPeerToDeviceTable (peer : Table) : Except Error Table := do
  let peerId ← requiredField peer "peer_id"
  let device := copyField peer "hostname" "hostname" <|
    copyField peer "alias" "name" (Table.insert "peer_id" peerId [])
  let device := (((device.insert "multiaddrs" (.array [])).insert "private_ips"
    ((peer.get "private_ips").getD (.array []))).insert "os"
      ((peer.get "os").getD (.string "Unknown"))).insert "version"
        ((peer.get "version").getD (.string ""))
  let device := copyField peer "public_ip" "public_ip" device
  let createdAt ← requiredField peer "created_at"
  let lastConnected ← requiredField peer "last_connected"
  return (device.insert "created_at" createdAt).insert "last_connected" lastConnected

/-- The peers of an address book that no device has yet follow the devices. -/
def addDevices : List Value → List String → List Value → Except Error (List Value)
  | devices, _, [] => .ok devices
  | devices, existing, peer :: rest =>
      match peer.asTable with
      | none => .error "legacy address_book peers must be TOML tables"
      | some peer => do
          let peerId ← requiredTomlString peer "peer_id"
          if peerId ∈ existing then addDevices devices existing rest
          else
            let device ← legacyPeerToDeviceTable peer
            addDevices (devices ++ [.table device]) (peerId :: existing) rest

/-- The ids of the devices that are there already. -/
def existingPeerIds (devices : List Value) : List String :=
  devices.filterMap fun device =>
    (device.asTable.bind fun table => table.get "peer_id").bind Value.asStr

/-- The peers of an address book. -/
def legacyPeers (addressBook : Value) : List Value :=
  ((addressBook.asTable.bind fun table => table.get "peers").bind Value.asArray).getD []

/-- Write the devices of the staged address book, whose content is given. -/
def writeDevices (content : String) : Migration Unit := do
  let addressBook ← ofOption "Failed to parse legacy address_book.toml in staging"
    (formats.toml.fromStr content)
  let devicesPath := Path.join stagingRoot devicesFile
  let devicesValue ← readStagedToml formats
    s!"Failed to read existing devices.toml from staging directory: {devicesPath}"
    "Failed to parse existing devices.toml in staging" devicesPath
  let (table, devices) ← Program.ofExcept (ensureTomlArrayField devicesValue "devices")
  let devices ← Program.ofExcept
    (addDevices devices (existingPeerIds devices) (legacyPeers addressBook))
  writeTable formats "Failed to encode migrated devices.toml from staging"
    s!"Failed to write migrated devices.toml into staging directory: {devicesPath}" devicesPath
    (table.insert "devices" (.array devices))

/-- Turn the staged `address_book.toml` into devices, and remove it. -/
def migrateLegacyAddressBook : Migration Unit := do
  let addressBookPath := Path.join stagingRoot legacyAddressBookFile
  let found ← Program.gets fun files => files.pathExists addressBookPath
  if found then
    let content ← readFile
      s!"Failed to read legacy address_book.toml from staging directory: {addressBookPath}"
      addressBookPath
    writeDevices formats stagingRoot content
    removeFile
      s!"Failed to remove legacy address_book.toml from staging directory: {addressBookPath}"
      addressBookPath
  else pure ()

end Staged

end Fungi.ConfigMigrate
