import Fungi.Config.Devices
import Fungi.Config.LocalPreferences
import Fungi.ConfigMigrate.Idempotence

/-!
# Migrated devices and preferences

What the current stores make of the migrated `devices.toml` and `local_preferences.json`.  The
migration copies the entries of the old files that are new to these stores, and leaves it to the
stores' own operations to check names, ports and port sources.
-/

namespace Fungi.ConfigMigrate

open Fungi.Lib Fungi.Config FileSystem Toml

/-! ## Entries that are new -/

section FirstBy

variable {Item Key : Type} [DecidableEq Key]

/-- The first item of each key, where the key has not been seen before. -/
def firstBy (key : Item → Key) : List Key → List Item → List Item
  | _, [] => []
  | seen, item :: rest =>
      if key item ∈ seen then firstBy key seen rest
      else item :: firstBy key (key item :: seen) rest

end FirstBy

/-! ## Loading devices -/

/-- The decodings of other packages: a peer id from its text, and serde's of a `SystemTime`. -/
structure DeviceDecoder (PeerId : Type) where
  peerId : String → Option PeerId
  systemTime : Value → Option SystemTime

variable {PeerId : Type}

/-- The operating systems by the names that device files have for them. -/
def osFromStr : String → Option Os
  | "Windows" => some .windows
  | "MacOS" => some .macOS
  | "Linux" => some .linux
  | "Android" => some .android
  | "IOS" => some .iOS
  | "Unknown" => some .unknown
  | _ => none

/-- A field of type `Option<String>`. -/
def optionalText : Option Value → Option (Option String)
  | none => some none
  | some value => value.asStr.map some

/-- A field of type `Vec<String>`. -/
def textList (value : Value) : Option (List String) := value.asArray.bind (·.mapM Value.asStr)

/-- `DeviceInfo` as derived for `Deserialize`, from the values of its fields. -/
def DeviceDecoder.deviceInfo (decoder : DeviceDecoder PeerId) (field : String → Option Value) :
    Option (DeviceInfo PeerId) := do
  let peerId ← ((field "peer_id").bind Value.asStr).bind decoder.peerId
  let name ← optionalText (field "name")
  let hostname ← optionalText (field "hostname")
  let multiaddrs ← ((field "multiaddrs").map textList).getD (some [])
  let privateIps ← (field "private_ips").bind textList
  let os ← ((field "os").bind Value.asStr).bind osFromStr
  let version ← (field "version").bind Value.asStr
  let publicIp ← optionalText (field "public_ip")
  let createdAt ← (field "created_at").bind decoder.systemTime
  let lastConnected ← (field "last_connected").bind decoder.systemTime
  return { peerId, name, hostname, multiaddrs, privateIps, os, version, publicIp, createdAt,
           lastConnected }

/-- A device from the value of a table. -/
def DeviceDecoder.device (decoder : DeviceDecoder PeerId) (value : Value) :
    Option (DeviceInfo PeerId) :=
  value.asTable.bind fun table => decoder.deviceInfo table.get

/-- `DevicesConfig::parse_toml`, of the decoded document. -/
def DeviceDecoder.devices (decoder : DeviceDecoder PeerId) (document : Value) :
    Option (DevicesConfig PeerId) :=
  document.asTable.bind fun table =>
    match table.get "devices" with
    | none => some []
    | some devices => devices.asArray.bind (·.mapM decoder.device)

/-! ## Migrated devices -/

/-- What the migration takes as the field of a device from a peer of the address book. -/
def legacyField (peer : Table) : String → Option Value
  | "name" => peer.get "alias"
  | "multiaddrs" => some (.array [])
  | "private_ips" => some ((peer.get "private_ips").getD (.array []))
  | "os" => some ((peer.get "os").getD (.string "Unknown"))
  | "version" => some ((peer.get "version").getD (.string ""))
  | field => peer.get field

/-- The keys of a device table. -/
def deviceFields : List String :=
  ["peer_id", "name", "hostname", "multiaddrs", "private_ips", "os", "version", "public_ip",
    "created_at", "last_connected"]

theorem deviceInfo_congr (decoder : DeviceDecoder PeerId) {field other : String → Option Value}
    (same : ∀ key ∈ deviceFields, field key = other key) :
    decoder.deviceInfo field = decoder.deviceInfo other := by
  unfold DeviceDecoder.deviceInfo
  rw [same "peer_id" (by decide), same "name" (by decide), same "hostname" (by decide),
    same "multiaddrs" (by decide), same "private_ips" (by decide), same "os" (by decide),
    same "version" (by decide), same "public_ip" (by decide), same "created_at" (by decide),
    same "last_connected" (by decide)]

theorem get_copyField (peer device : Table) (source target key : String) :
    (copyField peer source target device).get key =
      if target = key then (peer.get source).or (device.get key) else device.get key := by
  unfold copyField
  cases found : peer.get source with
  | none => simp
  | some value =>
      rw [Option.some_or]
      exact Table.get_insert device target key value

theorem get_nil (key : String) : Table.get [] key = none := rfl

theorem get_legacyPeerToDeviceTable {peer device : Table}
    (made : legacyPeerToDeviceTable peer = .ok device) {key : String}
    (isField : key ∈ deviceFields) : device.get key = legacyField peer key := by
  unfold legacyPeerToDeviceTable requiredField at made
  cases peerId : peer.get "peer_id" with
  | none => simp [peerId, bind, Except.bind] at made
  | some peerIdValue =>
      cases createdAt : peer.get "created_at" with
      | none => simp [peerId, createdAt, bind, Except.bind] at made
      | some createdAtValue =>
          cases lastConnected : peer.get "last_connected" with
          | none => simp [peerId, createdAt, lastConnected, bind, Except.bind] at made
          | some lastConnectedValue =>
              simp only [peerId, createdAt, lastConnected, ok_bind, pure_eq_ok] at made
              subst made
              simp only [deviceFields, List.mem_cons, List.not_mem_nil, or_false] at isField
              rcases isField with rfl | rfl | rfl | rfl | rfl | rfl | rfl | rfl | rfl | rfl <;>
                simp [legacyField, get_copyField, Table.get_insert, get_nil, peerId, createdAt,
                  lastConnected]

/-- The peer id that tells the peers of an address book apart. -/
def legacyPeerId (peer : Table) : Option String := (peer.get "peer_id").bind Value.asStr

/-- The peers of an address book that become devices. -/
def newPeers (existing peers : List Value) : List Table :=
  firstBy legacyPeerId ((existingPeerIds existing).map some) (peers.filterMap Value.asTable)

theorem requiredTomlString_peer_id {peer : Table} {peerId : String} :
    requiredTomlString peer "peer_id" = .ok peerId ↔ legacyPeerId peer = some peerId := by
  unfold requiredTomlString legacyPeerId
  cases (peer.get "peer_id").bind Value.asStr <;> simp

theorem addDevices_eq_ok {devices result : List Value} {seen : List String} {peers : List Value}
    (accepted : addDevices devices seen peers = .ok result) :
    ∃ added, (firstBy legacyPeerId (seen.map some) (peers.filterMap Value.asTable)).mapM
        legacyPeerToDeviceTable = .ok added ∧ result = devices ++ added.map Value.table := by
  induction peers generalizing devices seen with
  | nil => exact ⟨[], rfl, by simpa [addDevices, eq_comm] using accepted⟩
  | cons peer rest inductionHypothesis =>
      unfold addDevices at accepted
      cases isTable : peer.asTable with
      | none => simp [isTable] at accepted
      | some table =>
          simp only [isTable] at accepted
          obtain ⟨peerId, hasId, accepted⟩ := bind_eq_ok.mp accepted
          rw [requiredTomlString_peer_id] at hasId
          rw [List.filterMap_cons_some isTable, firstBy, hasId]
          by_cases known : peerId ∈ seen
          · rw [if_pos known] at accepted
            rw [if_pos (List.mem_map_of_mem known)]
            exact inductionHypothesis accepted
          · rw [if_neg known] at accepted
            obtain ⟨device, made, accepted⟩ := bind_eq_ok.mp accepted
            obtain ⟨added, others, rfl⟩ := inductionHypothesis accepted
            rw [if_neg (by simpa using known), List.mapM_cons, made, ok_bind]
            refine ⟨device :: added, ?_, by simp⟩
            rw [← List.map_cons, others]
            rfl

/-- A device is loaded as the peer it was made from says. -/
theorem mapM_device_made (decoder : DeviceDecoder PeerId) {peers added : List Table}
    (made : peers.mapM legacyPeerToDeviceTable = .ok added) :
    (added.map Value.table).mapM decoder.device =
      peers.mapM fun peer => decoder.deviceInfo (legacyField peer) := by
  induction peers generalizing added with
  | nil =>
      cases made
      rfl
  | cons peer rest inductionHypothesis =>
      rw [List.mapM_cons] at made
      obtain ⟨device, isMade, made⟩ := bind_eq_ok.mp made
      obtain ⟨others, madeRest, made⟩ := bind_eq_ok.mp made
      obtain rfl := pure_eq_ok.mp made
      have same : decoder.device (.table device) = decoder.deviceInfo (legacyField peer) :=
        deviceInfo_congr decoder fun key isField => get_legacyPeerToDeviceTable isMade isField
      rw [List.map_cons, List.mapM_cons, List.mapM_cons, same, inductionHypothesis madeRest]

/-- The devices that the saved ones and the new peers stand for. -/
def DeviceDecoder.userDevices (decoder : DeviceDecoder PeerId) (existing peers : List Value) :
    Option (DevicesConfig PeerId) := do
  let old ← existing.mapM decoder.device
  let new ← (newPeers existing peers).mapM fun peer => decoder.deviceInfo (legacyField peer)
  return old ++ new

/-- The migrated devices are the saved ones and the new peers. -/
theorem mapM_device_addDevices (decoder : DeviceDecoder PeerId) {existing result peers : List Value}
    (accepted : addDevices existing (existingPeerIds existing) peers = .ok result) :
    result.mapM decoder.device = decoder.userDevices existing peers := by
  obtain ⟨added, made, rfl⟩ := addDevices_eq_ok accepted
  unfold DeviceDecoder.userDevices newPeers
  rw [List.mapM_append, mapM_device_made decoder made]

/-! ## Migrated preferences -/

/-- The port sources that serde reads, as `rename_all = "snake_case"` names them. -/
def readPortSource : String → Option LocalPortSource
  | "auto" => some .auto
  | "user" => some .user
  | _ => none

/-- A preference as the daemon reads it, with its source decoded. -/
def LocalPreference.withSource (preference : LocalPreference) (source : LocalPortSource) :
    LocalServicePreference :=
  { remotePeerId := preference.remotePeerId
    remoteServiceName := preference.remoteServiceName
    remoteServicePortName := preference.remoteServicePortName
    localHost := preference.localHost
    localPort := preference.localPort
    localPortSource := source }

/-- A preference as the current code reads it. -/
def LocalPreference.current (preference : LocalPreference) : Option LocalServicePreference :=
  (readPortSource preference.localPortSource).map preference.withSource

/-- The legacy records that become preferences. -/
def newRecords (preferences : List LocalPreference) (records : List LegacyLocalAccessRecord) :
    List LocalPreference :=
  firstBy LocalPreference.key (preferences.map LocalPreference.key)
    (records.map LegacyLocalAccessRecord.preference)

theorem foldl_addPreference {preferences : List LocalPreference}
    {seen : List (String × String × String)} {records : List LegacyLocalAccessRecord}
    (same : ∀ key, key ∈ seen ↔ key ∈ preferences.map LocalPreference.key) :
    records.foldl addPreference preferences = preferences ++
      firstBy LocalPreference.key seen (records.map LegacyLocalAccessRecord.preference) := by
  induction records generalizing preferences seen with
  | nil => simp [firstBy]
  | cons record rest inductionHypothesis =>
      have exists_iff : (preferences.any fun existing => existing.key = record.preference.key) =
          true ↔ record.preference.key ∈ seen := by
        rw [same, List.any_eq_true, List.mem_map]
        simp
      rw [List.foldl_cons, addPreference, List.map_cons, firstBy]
      by_cases known : record.preference.key ∈ seen
      · rw [if_pos (exists_iff.mpr known), if_pos known]
        exact inductionHypothesis same
      · have onward : ∀ key, key ∈ record.preference.key :: seen ↔
            key ∈ (preferences ++ [record.preference]).map LocalPreference.key := by
          intro key
          rw [List.mem_cons, same, List.map_append, List.mem_append, List.map_singleton,
            List.mem_singleton, or_comm]
        rw [if_neg (mt exists_iff.mp known), if_neg known, inductionHypothesis onward,
          List.append_assoc, List.singleton_append]

/-! ### The order of the keys -/

/-- The order by which the migration sorts. -/
def compareKeys : String × String × String → String × String × String → Ordering :=
  compareLex (compareOn (·.1)) <| compareLex (compareOn (·.2.1)) (compareOn (·.2.2))

instance : Std.TransCmp compareKeys :=
  inferInstanceAs <| Std.TransCmp <| compareLex _ <| compareLex _ _

theorem isLE_compare (left right : String) :
    (compare left right).isLE = decide (left ≤ right) := by
  rw [Bool.eq_iff_iff, decide_eq_true_iff, ← Ordering.ne_gt_iff_isLE]
  exact compare_le_iff_le

theorem isLE_compare_then (left right : String) (next : Ordering) :
    ((compare left right).then next).isLE = if left ≠ right then decide (left ≤ right)
      else next.isLE := by
  by_cases same : left = right
  · subst same
    simp
  · rw [if_pos same, ← isLE_compare]
    cases order : compare left right with
    | eq => exact absurd (Std.LawfulEqOrd.eq_of_compare order) same
    | lt => rfl
    | gt => rfl

theorem keyAtMost_eq (left right : String × String × String) :
    keyAtMost left right = (compareKeys left right).isLE := by
  have last := isLE_compare left.2.2 right.2.2
  unfold keyAtMost compareKeys compareLex compareOn
  rw [isLE_compare_then, isLE_compare_then, last]

/-- Preferences with different keys are in the current order if their keys are in order. -/
theorem compare_ne_gt_of_keyAtMost {left right : LocalServicePreference}
    (atMost : keyAtMost left.identity right.identity = true)
    (different : left.identity ≠ right.identity) : left.compare right ≠ .gt := by
  rw [keyAtMost_eq] at atMost
  unfold compareKeys compareLex compareOn LocalServicePreference.identity at atMost
  unfold LocalServicePreference.compare
  cases peers : compare left.remotePeerId right.remotePeerId with
  | gt => simp [peers] at atMost
  | lt => simp
  | eq =>
      cases services : compare left.remoteServiceName right.remoteServiceName with
      | gt => simp [peers, services] at atMost
      | lt => simp
      | eq =>
          cases ports : compare left.remoteServicePortName right.remoteServicePortName with
          | gt => simp [peers, services, ports] at atMost
          | lt => simp
          | eq =>
              apply absurd _ different
              unfold LocalServicePreference.identity
              rw [Std.LawfulEqOrd.eq_of_compare peers, Std.LawfulEqOrd.eq_of_compare services,
                Std.LawfulEqOrd.eq_of_compare ports]

/-! ### Loading what was merged -/

/-- A preference as it is read where its source can be read. -/
def LocalPreference.loaded (preference : LocalPreference) : LocalServicePreference :=
  preference.withSource ((readPortSource preference.localPortSource).getD .auto)

theorem current_eq_some {preference : LocalPreference} {record : LocalServicePreference} :
    preference.current = some record ↔
      (readPortSource preference.localPortSource).isSome ∧ record = preference.loaded := by
  unfold LocalPreference.current LocalPreference.loaded
  cases readPortSource preference.localPortSource with
  | none => exact iff_of_false nofun fun both => absurd both.1 nofun
  | some source =>
      rw [Option.map_some, Option.some.injEq, Option.getD_some]
      exact ⟨fun same => ⟨rfl, same.symm⟩, fun both => both.2.symm⟩

theorem mapM_current_eq_some {preferences : List LocalPreference} {loaded : LocalPreferenceCache} :
    preferences.mapM LocalPreference.current = some loaded ↔
      (∀ preference ∈ preferences, (readPortSource preference.localPortSource).isSome) ∧
        loaded = preferences.map LocalPreference.loaded := by
  induction preferences generalizing loaded with
  | nil =>
      constructor
      · intro loads
        exact ⟨nofun, (Option.some.inj loads).symm⟩
      · rintro ⟨-, rfl⟩
        rfl
  | cons preference rest inductionHypothesis =>
      simp only [List.mapM_cons, Option.bind_eq_bind, Option.bind_eq_some_iff, Option.pure_def,
        Option.some.injEq, current_eq_some, inductionHypothesis, List.forall_mem_cons,
        List.map_cons]
      constructor
      · rintro ⟨_, ⟨readable, rfl⟩, _, ⟨others, rfl⟩, rfl⟩
        exact ⟨⟨readable, others⟩, rfl⟩
      · rintro ⟨⟨readable, others⟩, rfl⟩
        exact ⟨_, ⟨readable, rfl⟩, _, ⟨others, rfl⟩, rfl⟩

theorem map_identity_loaded (preferences : List LocalPreference) :
    (preferences.map LocalPreference.loaded).map LocalServicePreference.identity =
      preferences.map LocalPreference.key := by
  rw [List.map_map]
  rfl

theorem map_address_loaded (preferences : List LocalPreference) :
    (preferences.map LocalPreference.loaded).map LocalServicePreference.address =
      preferences.map fun preference => (preference.localHost, preference.localPort) := by
  rw [List.map_map]
  rfl

/-- The check of a preference does not look at its source. -/
theorem validate_loaded (preference : LocalPreference) :
    preference.loaded.validate = (preference.withSource .auto).validate := rfl

/-- Preferences that the current store could have been given one by one. -/
structure PreferencesFit (preferences : List LocalPreference) : Prop where
  readable : ∀ preference ∈ preferences, (readPortSource preference.localPortSource).isSome
  checked : ∀ preference ∈ preferences, (preference.withSource .auto).validate = .ok ()
  keys : (preferences.map LocalPreference.key).Nodup
  addresses : (preferences.map fun preference =>
    (preference.localHost, preference.localPort)).Nodup

theorem PreferencesFit.perm {left right : List LocalPreference} (fit : PreferencesFit left)
    (perm : left.Perm right) : PreferencesFit right where
  readable := fun preference member => fit.readable preference (perm.mem_iff.mpr member)
  checked := fun preference member => fit.checked preference (perm.mem_iff.mpr member)
  keys := (perm.map _).nodup_iff.mp fit.keys
  addresses := (perm.map _).nodup_iff.mp fit.addresses

theorem mergePreferences_perm (preferences : List LocalPreference)
    (records : List LegacyLocalAccessRecord) :
    (mergePreferences preferences records).Perm
      (preferences ++ newRecords preferences records) := by
  unfold mergePreferences newRecords
  rw [foldl_addPreference fun key => Iff.rfl]
  exact List.mergeSort_perm _ _

theorem pairwise_mergePreferences (preferences : List LocalPreference)
    (records : List LegacyLocalAccessRecord) :
    (mergePreferences preferences records).Pairwise fun left right =>
      keyAtMost left.key right.key = true := by
  apply List.pairwise_mergeSort
  · intro left middle right
    rw [keyAtMost_eq, keyAtMost_eq, keyAtMost_eq]
    exact Std.TransCmp.isLE_trans
  · intro left right
    rw [keyAtMost_eq, keyAtMost_eq, Bool.or_eq_true, ← Std.OrientedCmp.isGE_iff_isLE]
    cases compareKeys right.key left.key <;> decide

/-- The merged preferences are ones that the current store builds exactly if the saved ones and
the new ones fit. -/
theorem built_mergePreferences_iff (preferences : List LocalPreference)
    (records : List LegacyLocalAccessRecord) :
    (∃ loaded, (mergePreferences preferences records).mapM LocalPreference.current = some loaded ∧
        LocalPreferenceCache.Built loaded) ↔
      PreferencesFit (preferences ++ newRecords preferences records) := by
  have perm := mergePreferences_perm preferences records
  have sorted := pairwise_mergePreferences preferences records
  generalize mergePreferences preferences records = merged at perm sorted ⊢
  constructor
  · rintro ⟨loaded, isLoaded, built⟩
    obtain ⟨readable, rfl⟩ := mapM_current_eq_some.mp isLoaded
    have valid := LocalPreferenceCache.built_iff_valid.mp built
    apply PreferencesFit.perm _ perm
    refine ⟨readable, ?_, ?_, ?_⟩
    · intro preference member
      rw [← validate_loaded]
      exact valid.validate _ (List.mem_map_of_mem member)
    · rw [← map_identity_loaded]
      exact valid.apart.identities
    · rw [← map_address_loaded]
      exact valid.apart.addresses
  · intro fit
    replace fit := fit.perm perm.symm
    refine ⟨_, mapM_current_eq_some.mpr ⟨fit.readable, rfl⟩, ?_⟩
    rw [LocalPreferenceCache.built_iff_valid]
    refine ⟨?_, ⟨?_, ?_⟩, ?_⟩
    · intro record member
      obtain ⟨preference, isMerged, rfl⟩ := List.mem_map.mp member
      rw [validate_loaded]
      exact fit.checked preference isMerged
    · rw [map_identity_loaded]
      exact fit.keys
    · rw [map_address_loaded]
      exact fit.addresses
    · rw [List.pairwise_map]
      have distinct := List.pairwise_map.mp (List.nodup_iff_pairwise_ne.mp fit.keys)
      exact sorted.imp₂ (fun _ _ atMost different => compare_ne_gt_of_keyAtMost atMost different)
        distinct

/-! ## The migrated files -/

section Staged

variable (formats : Formats) (stagingRoot : String)

/-- The document in a staged TOML file, as far as there is one. -/
def stagedToml (files : FileSystem) (file : String) : Value :=
  ((files.readToString (Path.join stagingRoot file)).bind formats.toml.fromStr).getD (.table [])

/-- The devices that were saved before the migration. -/
def stagedDevices (files : FileSystem) : List Value :=
  (((stagedToml formats stagingRoot files devicesFile).asTable.bind fun table =>
    table.get "devices").bind Value.asArray).getD []

/-- The peers of the staged address book. -/
def stagedPeers (files : FileSystem) : List Value :=
  legacyPeers (stagedToml formats stagingRoot files legacyAddressBookFile)

/-- The preferences that were saved before the migration. -/
def stagedPreferences (files : FileSystem) : List LocalPreference :=
  ((files.readToString (Path.join stagingRoot localPreferencesFile)).bind
    formats.localPreferences).getD []

/-- The records of the staged legacy file. -/
def stagedRecords (files : FileSystem) : List LegacyLocalAccessRecord :=
  ((files.readToString (Path.join stagingRoot legacyLocalAccessFile)).bind
    formats.legacyLocalAccess).getD []

end Staged

/-- `serde_json` at the type of the current preferences, which reads what is written at the type
of the migration. -/
structure PreferenceCodec (formats : Formats) where
  fromStr : String → Option LocalPreferenceCache
  fromStr_written : ∀ {preferences text},
    formats.localPreferencesToString preferences = some text →
      fromStr text = preferences.mapM LocalPreference.current

section Files

variable {formats : Formats} {stagingRoot : String} {files final : FileSystem}

theorem step_eq_ok {failure : Error} {effect : FileSystem → Option FileSystem} :
    step failure effect files = (.ok (), final) ↔ effect files = some final := by
  unfold step fileStep
  dsimp only
  cases effect files with
  | none => simp
  | some next => simp

theorem ofOption_eq_ok {Found : Type} {failure : Error} {found : Option Found} {value : Found} :
    ofOption failure found files = (.ok value, final) ↔ found = some value ∧ files = final := by
  cases found with
  | none => simp [ofOption]
  | some found => simp [ofOption]

theorem readFile_eq_ok {failure : Error} {path content : String} :
    readFile failure path files = (.ok content, final) ↔
      files.readToString path = some content ∧ files = final := by
  unfold readFile
  rw [Program.bind_eq_ok]
  simp only [Program.gets_apply, Prod.mk.injEq, Except.ok.injEq]
  constructor
  · rintro ⟨_, _, ⟨rfl, rfl⟩, answered⟩
    cases found : files.readToString path with
    | none => simp [found] at answered
    | some text => simpa [found] using answered
  · rintro ⟨found, rfl⟩
    exact ⟨_, _, ⟨rfl, rfl⟩, by rw [found]; rfl⟩

theorem readToString_of_absent {path : String} (absent : ¬ files.pathExists path = true) :
    files.readToString path = none := by
  unfold pathExists at absent
  rw [Bool.not_eq_true, Option.isSome_eq_false_iff, Option.isNone_iff_eq_none] at absent
  unfold readToString
  rw [absent]

theorem readToString_of_writeFile {path content : String}
    (written : files.writeFile path content = some final) :
    final.readToString path = some content := by
  obtain ⟨-, rfl⟩ := writeFile_eq_some written
  simp [readToString]

/-- Removing one file of the fungi directory leaves another one. -/
theorem readToString_of_removeFile {file other : String} (isFile : file ∈ touchablePaths)
    (isOther : other ∈ touchablePaths) (apart : ¬ Path.names file <+: Path.names other)
    (removed : files.removeFile (Path.join stagingRoot file) = some final) :
    final.readToString (Path.join stagingRoot other) =
      files.readToString (Path.join stagingRoot other) := by
  unfold FileSystem.removeFile at removed
  split at removed
  · obtain rfl := Option.some.inj removed
    have outside : ¬ Path.resolve (Path.join stagingRoot file) <+:
        Path.resolve (Path.join stagingRoot other) := by
      rwa [(headed_touchablePaths file isFile).resolve_join,
        (headed_touchablePaths other isOther).resolve_join, List.prefix_append_right_inj]
    unfold readToString
    rw [removed_apply_outside outside]
  · cases removed

theorem readStagedToml_eq_ok {readFailure parseFailure file : String} {value : Value}
    (ran : readStagedToml formats readFailure parseFailure (Path.join stagingRoot file) files =
      (.ok value, final)) :
    value = stagedToml formats stagingRoot files file ∧ files = final := by
  unfold readStagedToml at ran
  obtain ⟨_, _, asked, ran⟩ := (Program.bind_eq_ok _).mp ran
  cases asked
  unfold stagedToml
  split at ran
  · obtain ⟨content, _, isRead, ran⟩ := (Program.bind_eq_ok _).mp ran
    obtain ⟨found, rfl⟩ := readFile_eq_ok.mp isRead
    obtain ⟨parsed, rfl⟩ := ofOption_eq_ok.mp ran
    exact ⟨by simp [found, parsed], rfl⟩
  · next absent =>
      cases ran
      exact ⟨by simp [readToString_of_absent absent], rfl⟩

theorem ensureTomlArrayField_eq_ok {value : Value} {key : String} {table : Table}
    {items : List Value} (found : ensureTomlArrayField value key = .ok (table, items)) :
    items = ((value.asTable.bind fun table => table.get key).bind Value.asArray).getD [] := by
  unfold ensureTomlArrayField at found
  cases isTable : value.asTable with
  | none => simp [isTable] at found
  | some entries =>
      simp only [isTable] at found
      cases isField : entries.get key with
      | none =>
          simp only [isField, Except.ok.injEq, Prod.mk.injEq] at found
          simp [isField, found.2]
      | some field =>
          simp only [isField] at found
          cases isArray : field.asArray with
          | none => simp [isArray] at found
          | some elements =>
              simp only [isArray, Except.ok.injEq, Prod.mk.injEq] at found
              simp [isField, isArray, found.2]

/-- The staged devices and the new peers are what the migration leaves in the file. -/
theorem migrateLegacyAddressBook_eq_ok
    (found : files.pathExists (Path.join stagingRoot legacyAddressBookFile) = true)
    (ran : migrateLegacyAddressBook formats stagingRoot files = (.ok (), final)) :
    ∃ (table : Table) (devices : List Value) (text : String),
      addDevices (stagedDevices formats stagingRoot files)
          (existingPeerIds (stagedDevices formats stagingRoot files))
          (stagedPeers formats stagingRoot files) = .ok devices ∧
        formats.toml.fromStr text = some (.table (table.insert "devices" (.array devices))) ∧
          final.readToString (Path.join stagingRoot devicesFile) = some text := by
  unfold migrateLegacyAddressBook at ran
  obtain ⟨_, _, asked, ran⟩ := (Program.bind_eq_ok _).mp ran
  cases asked
  rw [if_pos found] at ran
  obtain ⟨content, _, isRead, ran⟩ := (Program.bind_eq_ok _).mp ran
  obtain ⟨hasContent, rfl⟩ := readFile_eq_ok.mp isRead
  obtain ⟨_, written, wrote, ran⟩ := (Program.bind_eq_ok _).mp ran
  unfold writeDevices at wrote
  obtain ⟨addressBook, _, parsed, wrote⟩ := (Program.bind_eq_ok _).mp wrote
  obtain ⟨isAddressBook, rfl⟩ := ofOption_eq_ok.mp parsed
  obtain ⟨document, _, isStaged, wrote⟩ := (Program.bind_eq_ok _).mp wrote
  obtain ⟨rfl, rfl⟩ := readStagedToml_eq_ok isStaged
  obtain ⟨⟨table, saved⟩, _, ranField, wrote⟩ := (Program.bind_eq_ok _).mp wrote
  obtain ⟨isField, rfl⟩ := (Program.ofExcept_eq_ok _).mp ranField
  obtain ⟨devices, _, ranAdd, wrote⟩ := (Program.bind_eq_ok _).mp wrote
  obtain ⟨added, rfl⟩ := (Program.ofExcept_eq_ok _).mp ranAdd
  unfold writeTable at wrote
  obtain ⟨text, _, ranEncode, wrote⟩ := (Program.bind_eq_ok _).mp wrote
  obtain ⟨encoded, rfl⟩ := ofOption_eq_ok.mp ranEncode
  have saved_eq : saved = stagedDevices formats stagingRoot files :=
    ensureTomlArrayField_eq_ok isField
  have peers_eq : legacyPeers addressBook = stagedPeers formats stagingRoot files := by
    simp [stagedPeers, stagedToml, hasContent, isAddressBook]
  refine ⟨table, devices, text, ?_, formats.toml.fromStr_toStringPretty encoded, ?_⟩
  · rw [← saved_eq, ← peers_eq]
    exact added
  · rw [readToString_of_removeFile (by decide) (by decide) (by decide) (step_eq_ok.mp ran)]
    exact readToString_of_writeFile (step_eq_ok.mp wrote)

theorem readStagedPreferences_eq_ok {preferences : List LocalPreference}
    (ran : readStagedPreferences formats stagingRoot files = (.ok preferences, final)) :
    preferences = stagedPreferences formats stagingRoot files ∧ files = final := by
  unfold readStagedPreferences at ran
  obtain ⟨_, _, asked, ran⟩ := (Program.bind_eq_ok _).mp ran
  cases asked
  unfold stagedPreferences
  split at ran
  · obtain ⟨content, _, isRead, ran⟩ := (Program.bind_eq_ok _).mp ran
    obtain ⟨found, rfl⟩ := readFile_eq_ok.mp isRead
    obtain ⟨parsed, rfl⟩ := ofOption_eq_ok.mp ran
    exact ⟨by simp [found, parsed], rfl⟩
  · next absent =>
      cases ran
      exact ⟨by simp [readToString_of_absent absent], rfl⟩

theorem migrateLegacyLocalAccess_eq_ok
    (ran : migrateLegacyLocalAccess formats stagingRoot files = (.ok (), final)) :
    ∃ text,
      formats.localPreferencesToString (mergePreferences
          (stagedPreferences formats stagingRoot files)
          (stagedRecords formats stagingRoot files)) = some text ∧
        final.readToString (Path.join stagingRoot localPreferencesFile) = some text := by
  unfold migrateLegacyLocalAccess at ran
  obtain ⟨content, _, isRead, ran⟩ := (Program.bind_eq_ok _).mp ran
  obtain ⟨hasContent, rfl⟩ := readFile_eq_ok.mp isRead
  obtain ⟨records, _, parsed, ran⟩ := (Program.bind_eq_ok _).mp ran
  obtain ⟨areRecords, rfl⟩ := ofOption_eq_ok.mp parsed
  obtain ⟨preferences, _, isStaged, ran⟩ := (Program.bind_eq_ok _).mp ran
  obtain ⟨rfl, rfl⟩ := readStagedPreferences_eq_ok isStaged
  obtain ⟨_, made, _, ran⟩ := (Program.bind_eq_ok _).mp ran
  obtain ⟨text, _, ranEncode, ran⟩ := (Program.bind_eq_ok _).mp ran
  obtain ⟨encoded, rfl⟩ := ofOption_eq_ok.mp ranEncode
  obtain ⟨_, written, wrote, ran⟩ := (Program.bind_eq_ok _).mp ran
  have records_eq : records = stagedRecords formats stagingRoot files := by
    simp [stagedRecords, hasContent, areRecords]
  refine ⟨text, ?_, ?_⟩
  · rw [← records_eq]
    exact encoded
  · rw [readToString_of_removeFile (by decide) (by decide) (by decide) (step_eq_ok.mp ran)]
    exact readToString_of_writeFile (step_eq_ok.mp wrote)

/-! ## What the current stores make of them -/

variable {lowercase : Lowercase}

/-- The current loader accepts the devices file, and its devices are ones that the add-or-update
operation could have built. -/
def DevicesFit (formats : Formats) (decoder : DeviceDecoder PeerId) (lowercase : Lowercase)
    [DecidableEq PeerId] (files : FileSystem) (root : String) : Prop :=
  ∃ devices, ((files.readToString (Path.join root devicesFile)).bind formats.toml.fromStr).bind
      decoder.devices = some devices ∧ DevicesConfig.Built lowercase devices

/-- The current loader accepts the preferences file, and its records are ones that the upsert
operation could have built. -/
def LocalPreferencesFit (codec : PreferenceCodec formats) (files : FileSystem) (root : String) :
    Prop :=
  ∃ records, (files.readToString (Path.join root localPreferencesFile)).bind codec.fromStr =
      some records ∧ LocalPreferenceCache.Built records

/-- The saved devices and the peers that are new to them can be read as devices, with valid names
as they are, and no two have the same peer id or the same name. -/
def AddressBookFits (decoder : DeviceDecoder PeerId) (lowercase : Lowercase)
    (existing peers : List Value) : Prop :=
  ∃ devices, decoder.userDevices existing peers = some devices ∧
    DevicesConfig.Valid lowercase devices

theorem devicesFit_iff [DecidableEq PeerId] (decoder : DeviceDecoder PeerId)
    (found : files.pathExists (Path.join stagingRoot legacyAddressBookFile) = true)
    (ran : migrateLegacyAddressBook formats stagingRoot files = (.ok (), final)) :
    DevicesFit formats decoder lowercase final stagingRoot ↔
      AddressBookFits decoder lowercase (stagedDevices formats stagingRoot files)
        (stagedPeers formats stagingRoot files) := by
  obtain ⟨table, devices, text, added, parses, isFile⟩ := migrateLegacyAddressBook_eq_ok found ran
  have loads : ((final.readToString (Path.join stagingRoot devicesFile)).bind
      formats.toml.fromStr).bind decoder.devices =
        decoder.userDevices (stagedDevices formats stagingRoot files)
          (stagedPeers formats stagingRoot files) := by
    rw [isFile, Option.bind_some, parses, Option.bind_some, ← mapM_device_addDevices decoder added]
    simp [DeviceDecoder.devices, Value.asTable, Value.asArray]
  unfold DevicesFit AddressBookFits
  rw [loads]
  simp only [DevicesConfig.built_iff_valid]

theorem localPreferencesFit_iff (codec : PreferenceCodec formats)
    (ran : migrateLegacyLocalAccess formats stagingRoot files = (.ok (), final)) :
    LocalPreferencesFit codec final stagingRoot ↔
      PreferencesFit (stagedPreferences formats stagingRoot files ++
        newRecords (stagedPreferences formats stagingRoot files)
          (stagedRecords formats stagingRoot files)) := by
  obtain ⟨text, encoded, isFile⟩ := migrateLegacyLocalAccess_eq_ok ran
  unfold LocalPreferencesFit
  rw [isFile, Option.bind_some, codec.fromStr_written encoded]
  exact built_mergePreferences_iff _ _

/-- The migrated devices and preferences are states of the current stores exactly if the devices
and the preferences that go into them already keep the stores' rules. -/
theorem migrated_user_data_fits_iff [DecidableEq PeerId] (decoder : DeviceDecoder PeerId)
    (codec : PreferenceCodec formats) {prepared migrated : FileSystem}
    (found : files.pathExists (Path.join stagingRoot legacyAddressBookFile) = true)
    (ranAddressBook : migrateLegacyAddressBook formats stagingRoot files = (.ok (), final))
    (ranLocalAccess :
      migrateLegacyLocalAccess formats stagingRoot prepared = (.ok (), migrated)) :
    DevicesFit formats decoder lowercase final stagingRoot ∧
        LocalPreferencesFit codec migrated stagingRoot ↔
      AddressBookFits decoder lowercase (stagedDevices formats stagingRoot files)
          (stagedPeers formats stagingRoot files) ∧
        PreferencesFit (stagedPreferences formats stagingRoot prepared ++
          newRecords (stagedPreferences formats stagingRoot prepared)
            (stagedRecords formats stagingRoot prepared)) :=
  and_congr (devicesFit_iff decoder found ranAddressBook)
    (localPreferencesFit_iff codec ranLocalAccess)

end Files

/-! ## Two address books -/

/-- A `SystemTime` one second after the epoch, as serde writes it. -/
@[match_pattern] abbrev epochSecond : Value :=
  .table [("nanos_since_epoch", .integer 0), ("secs_since_epoch", .integer 1)]

/-- A peer of an address book, with nothing but its id and name. -/
@[match_pattern] abbrev addressBookPeer (peerId name : String) : Value :=
  .table [("alias", .string name), ("created_at", epochSecond), ("last_connected", epochSecond),
    ("peer_id", .string peerId)]

/-- The table that such a peer becomes. -/
@[match_pattern] abbrev migratedPeer (peerId name : String) : Value :=
  .table [("created_at", epochSecond), ("last_connected", epochSecond), ("multiaddrs", .array []),
    ("name", .string name), ("os", .string "Unknown"), ("peer_id", .string peerId),
    ("private_ips", .array []), ("version", .string "")]

/-- Such a peer as it stands in `address_book.toml`. -/
def peerText (peerId name : String) : String :=
  s!"[[peers]]\npeer_id = '{peerId}'\nalias = '{name}'\n" ++
    "created_at = \x7b secs_since_epoch = 1, nanos_since_epoch = 0 \x7d\n" ++
    "last_connected = \x7b secs_since_epoch = 1, nanos_since_epoch = 0 \x7d\n"

/-- The migrated peer as it stands in `devices.toml`. -/
def deviceText (peerId name : String) : String :=
  s!"[[devices]]\npeer_id = '{peerId}'\nname = '{name}'\n" ++
    "multiaddrs = []\nprivate_ips = []\nos = 'Unknown'\nversion = ''\n" ++
    "created_at = \x7b secs_since_epoch = 1, nanos_since_epoch = 0 \x7d\n" ++
    "last_connected = \x7b secs_since_epoch = 1, nanos_since_epoch = 0 \x7d\n"

/-- The codec of two peers, of two peers with names alike, and of the devices made from them. -/
def nasCodec : Toml.Codec where
  fromStr text :=
    if text = peerText "12D3A" "nas" ++ peerText "12D3B" "desk" then
      some (.table [("peers",
        .array [addressBookPeer "12D3A" "nas", addressBookPeer "12D3B" "desk"])])
    else if text = peerText "12D3A" "NAS" ++ peerText "12D3B" "nas" then
      some (.table [("peers",
        .array [addressBookPeer "12D3A" "NAS", addressBookPeer "12D3B" "nas"])])
    else if text = deviceText "12D3A" "nas" ++ deviceText "12D3B" "desk" then
      some (.table [("devices", .array [migratedPeer "12D3A" "nas", migratedPeer "12D3B" "desk"])])
    else if text = deviceText "12D3A" "NAS" ++ deviceText "12D3B" "nas" then
      some (.table [("devices", .array [migratedPeer "12D3A" "NAS", migratedPeer "12D3B" "nas"])])
    else none
  toStringPretty
    | .table [("devices", .array [migratedPeer "12D3A" "nas", migratedPeer "12D3B" "desk"])] =>
        some (deviceText "12D3A" "nas" ++ deviceText "12D3B" "desk")
    | .table [("devices", .array [migratedPeer "12D3A" "NAS", migratedPeer "12D3B" "nas"])] =>
        some (deviceText "12D3A" "NAS" ++ deviceText "12D3B" "nas")
    | _ => none
  fromStr_toStringPretty := by
    intro value text encoded
    split at encoded
    · cases encoded
      rw [if_neg (by decide +kernel), if_neg (by decide +kernel), if_pos rfl]
    · cases encoded
      rw [if_neg (by decide +kernel), if_neg (by decide +kernel), if_neg (by decide +kernel),
        if_pos rfl]
    · cases encoded

/-- The address of an ssh service. -/
def sshRecord : LegacyLocalAccessRecord :=
  { remotePeerId := "12D3A", remoteServiceName := "ssh", remoteServicePortName := "main"
    localHost := "127.0.0.1", localPort := 2222, localPortSource := "user" }

/-- The address of a web service. -/
def webRecord : LegacyLocalAccessRecord :=
  { remotePeerId := "12D3B", remoteServiceName := "web", remoteServicePortName := "main"
    localHost := "127.0.0.1", localPort := 8080, localPortSource := "user" }

/-- A record as it stands in a file of local addresses. -/
def recordText (peerId serviceName port : String) : String :=
  "\x7b\"remote_peer_id\":\"" ++ peerId ++ "\",\"remote_service_name\":\"" ++ serviceName ++
    "\",\"remote_service_port_name\":\"main\",\"local_host\":\"127.0.0.1\"," ++
    "\"local_port\":" ++ port ++ ",\"local_port_source\":\"user\"\x7d"

/-- The two records in the order they are written. -/
def recordsText : String :=
  "[" ++ recordText "12D3A" "ssh" "2222" ++ "," ++ recordText "12D3B" "web" "8080" ++ "]"

/-- Formats that read and write the two peers and the two records. -/
def nasFormats : Formats :=
  { configFormats with
    toml := nasCodec
    legacyLocalAccess := fun text =>
      if text = "\x7b\"records\":" ++ recordsText ++ "\x7d" then some [sshRecord, webRecord]
      else none
    localPreferencesToString := fun preferences =>
      if preferences = [sshRecord.preference, webRecord.preference] then some recordsText
      else none }

/-- The daemon reads the two records as they are written. -/
def nasPreferences : PreferenceCodec nasFormats where
  fromStr text := if text = recordsText then
      [sshRecord.preference, webRecord.preference].mapM LocalPreference.current
    else none
  fromStr_written := by
    intro preferences text written
    simp only [nasFormats, Option.ite_none_right_eq_some, Option.some.injEq] at written
    rw [if_pos written.2.symm, written.1]

/-- The daemon reads the two ids and the one time of the examples. -/
def nasDecoder : DeviceDecoder String where
  peerId text := if text = "12D3A" ∨ text = "12D3B" then some text else none
  systemTime
    | epochSecond => some 1000000000
    | _ => none

/-- The device that the daemon reads from a migrated peer. -/
def migratedDevice (peerId name : String) : DeviceInfo String :=
  { peerId, name := some name, hostname := none, multiaddrs := [], privateIps := [],
    os := .unknown, version := "", publicIp := none, createdAt := 1000000000,
    lastConnected := 1000000000 }

/-- A staging directory with an address book and local access records. -/
def stagedUserData (addressBook : String) : FileSystem :=
  FileSystem.ofList
    [([], .directory), (["s".toList], .directory),
      (["s".toList, "address_book.toml".toList], .file addressBook),
      (["s".toList, "access".toList], .directory),
      (["s".toList, "access".toList, "local_access.json".toList],
        .file ("\x7b\"records\":" ++ recordsText ++ "\x7d"))]

/-- Staging with two peers of different names and two local addresses. -/
def nasUserData : FileSystem :=
  stagedUserData (peerText "12D3A" "nas" ++ peerText "12D3B" "desk")

private theorem merged_nas : mergePreferences [] [sshRecord, webRecord] =
    [sshRecord.preference, webRecord.preference] :=
  List.mergeSort_of_pairwise (by decide +kernel)

private theorem migrateLegacyLocalAccess_nas :
    (migrateLegacyLocalAccess nasFormats "/s" nasUserData).1.toOption = some () := by
  have content : nasUserData.readToString (Path.join "/s" legacyLocalAccessFile) =
      some ("\x7b\"records\":" ++ recordsText ++ "\x7d") := by
    decide +kernel
  have records : nasFormats.legacyLocalAccess ("\x7b\"records\":" ++ recordsText ++ "\x7d") =
      some [sshRecord, webRecord] := by
    simp [nasFormats]
  have noPreferences : readStagedPreferences nasFormats "/s" nasUserData =
      (.ok [], nasUserData) := by
    unfold readStagedPreferences
    rw [Program.bind_of_ok (Program.gets_apply _ _), if_neg (by decide +kernel)]
    rfl
  unfold migrateLegacyLocalAccess
  rw [Program.bind_of_ok (readFile_eq_ok.mpr ⟨content, rfl⟩),
    Program.bind_of_ok (ofOption_eq_ok.mpr ⟨records, rfl⟩),
    Program.bind_of_ok noPreferences, merged_nas]
  decide +kernel

/-- Two peers and a record of each are migrated. -/
theorem migrated_user_data_fits_iff_nas :
    DevicesFit nasFormats nasDecoder asciiLowercase
        (migrateLegacyAddressBook nasFormats "/s" nasUserData).2 "/s" ∧
      LocalPreferencesFit nasPreferences
        (migrateLegacyLocalAccess nasFormats "/s" nasUserData).2 "/s" := by
  have ranAddressBook :
      (migrateLegacyAddressBook nasFormats "/s" nasUserData).1.toOption = some () := by
    decide +kernel
  apply (migrated_user_data_fits_iff nasDecoder nasPreferences (by decide +kernel)
    (eq_ok_of_toOption ranAddressBook) (eq_ok_of_toOption migrateLegacyLocalAccess_nas)).mpr
  constructor
  · have devices : nasDecoder.userDevices (stagedDevices nasFormats "/s" nasUserData)
        (stagedPeers nasFormats "/s" nasUserData) =
          some [migratedDevice "12D3A" "nas", migratedDevice "12D3B" "desk"] := by
      decide +kernel
    refine ⟨_, devices, fun device member => ?_, by decide, by decide +kernel⟩
    rcases List.mem_cons.mp member with rfl | member
    · exact ⟨"nas", rfl, by decide +kernel⟩
    · obtain rfl := List.mem_singleton.mp member
      exact ⟨"desk", rfl, by decide +kernel⟩
  · have preferences : stagedPreferences nasFormats "/s" nasUserData ++
        newRecords (stagedPreferences nasFormats "/s" nasUserData)
          (stagedRecords nasFormats "/s" nasUserData) =
            [sshRecord.preference, webRecord.preference] := by
      decide +kernel
    rw [preferences]
    exact ⟨by decide +kernel, by decide +kernel, by decide, by decide⟩

/-- Two peers of the address book whose aliases differ in case become devices of one name. -/
theorem migrated_devices_share_name : ∃ final,
    migrateLegacyAddressBook nasFormats "/s"
        (stagedUserData (peerText "12D3A" "NAS" ++ peerText "12D3B" "nas")) = (.ok (), final) ∧
      ¬ DevicesFit nasFormats nasDecoder asciiLowercase final "/s" := by
  have ran : (migrateLegacyAddressBook nasFormats "/s"
      (stagedUserData (peerText "12D3A" "NAS" ++ peerText "12D3B" "nas"))).1.toOption =
        some () := by decide +kernel
  refine ⟨_, eq_ok_of_toOption ran, ?_⟩
  rw [devicesFit_iff nasDecoder (by decide +kernel) (eq_ok_of_toOption ran)]
  rintro ⟨devices, loads, valid⟩
  have both : nasDecoder.userDevices (stagedDevices nasFormats "/s" (stagedUserData
      (peerText "12D3A" "NAS" ++ peerText "12D3B" "nas"))) (stagedPeers nasFormats "/s"
        (stagedUserData (peerText "12D3A" "NAS" ++ peerText "12D3B" "nas"))) =
          some [migratedDevice "12D3A" "NAS", migratedDevice "12D3B" "nas"] := by decide +kernel
  obtain rfl := Option.some.inj (both.symm.trans loads)
  exact absurd valid.names (by decide +kernel)

end Fungi.ConfigMigrate
