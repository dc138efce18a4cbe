import Fungi.Runtime.ControlRuns
import Fungi.Runtime.CreateBody

/-!
# Host ports of the services

An apply reserves the host ports of all other services before it parses a manifest.  So no two
services of one process share a host port, whether their ports are fixed or allocated.
-/

namespace Fungi.Runtime

open Fungi.Lib RuntimeControl

/-- The values of a map are those of its entries. -/
theorem values_eq {Key Value : Type} {cmp : Key → Key → Ordering} [Std.TransCmp cmp]
    (map : Std.ExtTreeMap Key Value cmp) : map.values = map.toList.map Prod.snd := by
  obtain ⟨⟨inner⟩⟩ := map
  induction inner using Quotient.ind with
  | _ tree =>
      obtain ⟨impl, _⟩ := tree
      show Std.DTreeMap.Internal.Impl.values impl =
        (Std.DTreeMap.Internal.Impl.Const.toList impl).map Prod.snd
      rw [Std.DTreeMap.Internal.Impl.values_eq_map_snd,
        Std.DTreeMap.Internal.Impl.Const.toList_eq_toListModel_map, List.map_map]
      rfl

/-! ## What the parser reserves -/

section Parsing

variable {name : String} {entry : FungiServicePublishEntry} {runtime : RuntimeKind}
  {pool pool' : PortPool} {port : ServicePort}

/-- A port is taken that was free, and no port is freed. -/
theorem parseFungiPublishEntry_reserves
    (parsed : parseFungiPublishEntry name entry runtime pool = .ok (port, pool')) :
    port.hostPort ∉ pool.reserved ∧ pool'.reserved = insert port.hostPort pool.reserved := by
  by_cases docker : runtime = .docker
  · rw [docker] at parsed
    obtain ⟨-, hostPort, allocated, rfl⟩ := parseFungiPublishEntry_auto_eq_ok.mp parsed
    exact allocateAutoHostPort_free allocated
  · obtain ⟨-, free, rfl, rfl⟩ := (parseFungiPublishEntry_fixed_eq_ok docker).mp parsed
    exact ⟨free, rfl⟩

theorem parseFungiPublishEntries_reserves {items : List (String × FungiServicePublishEntry)}
    {ports : List ServicePort}
    (parsed : parseFungiPublishEntries runtime items pool = .ok (ports, pool')) :
    (∀ port ∈ ports, port.hostPort ∉ pool.reserved) ∧ (ports.map (·.hostPort)).Nodup := by
  induction items generalizing pool ports with
  | nil =>
      cases parsed
      exact ⟨nofun, List.nodup_nil⟩
  | cons item items inductionHypothesis =>
      obtain ⟨port, middle, others, first, remaining, rfl⟩ :=
        parseFungiPublishEntries_cons_eq_ok.mp parsed
      obtain ⟨free, reserved⟩ := parseFungiPublishEntry_reserves first
      obtain ⟨othersFree, distinct⟩ := inductionHypothesis remaining
      rw [reserved] at othersFree
      constructor
      · rw [List.forall_mem_cons]
        refine ⟨free, fun other member taken => ?_⟩
        exact othersFree other member (Finset.mem_insert_of_mem taken)
      · rw [List.map_cons, List.nodup_cons]
        refine ⟨fun member => ?_, distinct⟩
        obtain ⟨other, isOther, same⟩ := List.mem_map.mp member
        exact othersFree other isOther (same ▸ Finset.mem_insert_self _ _)

/-- A parsed manifest has the name that is peeked, and host ports that were free. -/
theorem parsed_ports {yaml : SerdeYaml} {content baseDir : String} {roots : ManifestPathRoots}
    {usedHostPorts : Finset UInt16} {answers rest : List UInt16} {manifest : ServiceManifest}
    (parsed : parseServiceManifestYamlForServicePaths yaml content baseDir roots usedHostPorts
      answers = .ok (manifest, rest)) :
    peekServiceManifestName yaml content = .ok manifest.name ∧
      (∀ port ∈ manifest.ports, port.hostPort ∉ usedHostPorts) ∧
      (manifest.ports.map (·.hostPort)).Nodup := by
  obtain ⟨document, read, converted⟩ := bind_eq_ok.mp parsed
  obtain ⟨header, run, ports, reserved, expose, -, parsedPorts, -, rfl⟩ :=
    FungiServiceDocument.intoServiceManifest_eq_ok.mp converted
  refine ⟨?_, parseFungiPublishEntries_reserves parsedPorts⟩
  rw [peekServiceManifestName, read]
  exact FungiServiceDocument.serviceName_eq_ok.mpr ⟨header.name, rfl⟩

end Parsing

/-! ## The services of a process -/

/-- No host port is used twice, neither by two services nor by one. -/
structure PortsExclusive (manifests : BTreeMap String ServiceManifest) : Prop where
  named : ∀ (name : String) (manifest : ServiceManifest), manifests[name]? = some manifest →
    manifest.name = name
  distinct : ∀ (name : String) (manifest : ServiceManifest), manifests[name]? = some manifest →
    (manifest.ports.map (·.hostPort)).Nodup
  apart : ∀ (left right : String) (leftManifest rightManifest : ServiceManifest),
    manifests[left]? = some leftManifest → manifests[right]? = some rightManifest →
    left ≠ right → ∀ leftPort ∈ leftManifest.ports, ∀ rightPort ∈ rightManifest.ports,
      leftPort.hostPort ≠ rightPort.hostPort

/-- The manifest uses host ports that the other services leave free. -/
structure PortsFree (host : Host) (manifest : ServiceManifest) : Prop where
  distinct : (manifest.ports.map (·.hostPort)).Nodup
  unreserved : ∀ port ∈ manifest.ports,
    port.hostPort ∉ reservedHostPortsExcept host manifest.name

section Exclusive

variable {host next final : Host} {manifests : BTreeMap String ServiceManifest}
  {manifest : ServiceManifest} {setup : RuntimeSetup}

theorem mem_reservedHostPortsExcept {name : String} {hostPort : UInt16} :
    hostPort ∈ reservedHostPortsExcept host name ↔
      ∃ (other : String) (manifest : ServiceManifest),
        host.serviceManifests[other]? = some manifest ∧ manifest.name ≠ name ∧
          ∃ port ∈ manifest.ports, port.hostPort = hostPort := by
  unfold reservedHostPortsExcept
  rw [List.mem_toFinset, List.mem_flatMap, values_eq]
  constructor
  · rintro ⟨manifest, member, used⟩
    obtain ⟨listed, different⟩ := List.mem_filter.mp member
    obtain ⟨⟨other, _⟩, entry, rfl⟩ := List.mem_map.mp listed
    exact ⟨other, _, Std.ExtTreeMap.mem_toList_iff_getElem?_eq_some.mp entry,
      of_decide_eq_true different, List.mem_map.mp used⟩
  · rintro ⟨other, manifest, known, different, used⟩
    refine ⟨manifest, List.mem_filter.mpr ⟨?_, decide_eq_true different⟩, List.mem_map.mpr used⟩
    exact List.mem_map.mpr ⟨(other, manifest),
      Std.ExtTreeMap.mem_toList_iff_getElem?_eq_some.mpr known, rfl⟩

theorem PortsExclusive.insert (exclusive : PortsExclusive host.serviceManifests)
    (free : PortsFree host manifest) :
    PortsExclusive (host.serviceManifests.insert manifest.name manifest) := by
  have unused : ∀ other otherManifest, host.serviceManifests[other]? = some otherManifest →
      manifest.name ≠ other → ∀ port ∈ manifest.ports, ∀ otherPort ∈ otherManifest.ports,
        port.hostPort ≠ otherPort.hostPort := by
    intro other otherManifest known different port member otherPort otherMember same
    apply free.unreserved port member
    apply mem_reservedHostPortsExcept.mpr
    refine ⟨other, otherManifest, known, ?_, otherPort, otherMember, same.symm⟩
    rw [exclusive.named other otherManifest known]
    exact different.symm
  constructor
  · intro name found present
    rw [getElem?_insert] at present
    split at present
    · next same => exact Option.some.inj present ▸ same
    · exact exclusive.named name found present
  · intro name found present
    rw [getElem?_insert] at present
    split at present
    · exact Option.some.inj present ▸ free.distinct
    · exact exclusive.distinct name found present
  · intro left right leftManifest rightManifest isLeft isRight different
    rw [getElem?_insert] at isLeft isRight
    split at isLeft
    · next ofLeft =>
        rw [if_neg (ofLeft ▸ different)] at isRight
        cases isLeft
        exact unused right rightManifest isRight (ofLeft ▸ different)
    · split at isRight
      · next ofRight =>
          cases isRight
          intro leftPort leftMember rightPort rightMember same
          exact unused left leftManifest isLeft (ofRight ▸ different.symm) rightPort rightMember
            leftPort leftMember same.symm
      · exact exclusive.apart left right leftManifest rightManifest isLeft isRight different

theorem PortsExclusive.erase (exclusive : PortsExclusive manifests) (name : String) :
    PortsExclusive (manifests.erase name) := by
  have kept : ∀ (other : String) (found : ServiceManifest),
      (manifests.erase name)[other]? = some found → manifests[other]? = some found := by
    intro other found present
    rw [getElem?_erase] at present
    split at present
    · cases present
    · exact present
  constructor
  · exact fun other found present => exclusive.named other found (kept other found present)
  · exact fun other found present => exclusive.distinct other found (kept other found present)
  · intro left right leftManifest rightManifest isLeft isRight
    exact exclusive.apart left right leftManifest rightManifest (kept _ _ isLeft) (kept _ _ isRight)

/-- An apply takes no port of its own service. -/
theorem PortsFree.insert (free : PortsFree host manifest) :
    PortsFree { host with serviceManifests :=
      host.serviceManifests.insert manifest.name manifest } manifest where
  distinct := free.distinct
  unreserved := by
    intro port member reserved
    obtain ⟨other, found, known, different, used⟩ := mem_reservedHostPortsExcept.mp reserved
    rw [getElem?_insert] at known
    split at known
    · exact different (Option.some.inj known ▸ rfl)
    · exact free.unreserved port member
        (mem_reservedHostPortsExcept.mpr ⟨other, found, known, different, used⟩)

theorem PortsFree.of_manifests (free : PortsFree host manifest)
    (same : next.serviceManifests = host.serviceManifests) : PortsFree next manifest where
  distinct := free.distinct
  unreserved := by
    unfold reservedHostPortsExcept
    rw [same]
    exact free.unreserved

end Exclusive

/-! ## Calls -/

/-- The manifests in memory stay as they are. -/
def manifestsFrame : Program.Frame Host where
  Allows before after := after.serviceManifests = before.serviceManifests
  refl _ := rfl
  trans first second := second.trans first

/-- The ports are exclusive, and those of the manifest are free. -/
def HasPorts (manifest : ServiceManifest) (host : Host) : Prop :=
  PortsExclusive host.serviceManifests ∧ PortsFree host manifest

section Calls

variable {setup : RuntimeSetup} {manifest : ServiceManifest} {Value : Type}
  {action : Action Value} {host final : Host}

theorem manifests_of_records (within : Program.Within recordsFrame action) :
    Program.Within manifestsFrame action :=
  within.mono fun _ _ same => same.manifests

theorem setDesiredState_manifests (platform : Platform) (name : String)
    (desiredState : DesiredServiceState) :
    Program.Within manifestsFrame (setDesiredState platform name desiredState) := by
  unfold setDesiredState
  apply (Program.within_gets _).bind
  intro store
  apply (Program.within_ofExcept _).bind
  intro localServiceId
  split
  · exact Program.within_fail _
  · apply (Program.within_modify fun _ => rfl).bind
    intro _
    exact manifests_of_records (saveService_records platform localServiceId)

theorem start_manifests (runtime : RuntimeKind) (name : String) :
    Program.Within manifestsFrame (start setup runtime name) := by
  rw [start_eq]
  apply (manifests_of_records (records_of_provider (bringUp_within runtime name))).bind
  intro _
  exact setDesiredState_manifests _ _ _

theorem stop_manifests (runtime : RuntimeKind) (name : String) :
    Program.Within manifestsFrame (stop setup runtime name) := by
  rw [stop_eq]
  apply (manifests_of_records (records_of_provider (bringDown_within runtime name))).bind
  intro _
  exact setDesiredState_manifests _ _ _

theorem removeService_manifests (name : String) :
    Program.Within manifestsFrame (removeService name) := by
  unfold removeService
  apply (Program.within_gets _).bind
  intro store
  split
  · exact Program.within_pure _
  · apply (Program.within_modify fun _ => rfl).bind
    intro _
    exact manifests_of_records (removeServiceDir_records _)

theorem persistService_manifests (prepared : Prepared) :
    Program.Within manifestsFrame (persistService setup manifest prepared) := by
  unfold persistService upsertServiceWithLocalServiceId
  apply Program.Within.bind
  · apply (manifests_of_records
      (records_of_ulids (resolveUpsertLocalServiceId_within _ _))).bind
    intro localServiceId
    apply (Program.within_modify fun _ => rfl).bind
    intro _
    apply (manifests_of_records (saveService_records _ localServiceId)).bind
    intro _
    exact Program.within_pure _
  · intro _
    exact Program.within_pure _

theorem reconcile_manifests (prepared : Prepared) :
    Program.Within manifestsFrame (reconcile setup manifest prepared) := by
  apply Program.Within.when
  intro _
  apply (start_manifests _ _).bind
  intro _
  exact manifests_of_records (inspect_records _ _)

/-- A program that leaves the manifests alone keeps what is known of their ports. -/
theorem hasPorts_of_manifests (within : Program.Within manifestsFrame action) :
    Program.Keeps (HasPorts manifest) action := by
  intro host
  rintro ⟨exclusive, free⟩
  have same := within host
  exact ⟨show PortsExclusive (action host).2.serviceManifests from same ▸ exclusive,
    free.of_manifests same⟩

theorem applyWithLocalServiceId_hasPorts (localServiceId : Option String) :
    Program.Keeps (HasPorts manifest)
      (applyWithLocalServiceId setup manifest localServiceId) := by
  rw [applyWithLocalServiceId_eq]
  apply (hasPorts_of_manifests (manifests_of_records (replaceRuntime_records localServiceId))).bind
  intro prepared
  apply Program.Within.bind
  · apply Program.Within.bind
    · apply Program.within_modify
      rintro host ⟨exclusive, free⟩
      exact ⟨exclusive.insert free, free.insert.of_manifests rfl⟩
    · intro _
      exact hasPorts_of_manifests (persistService_manifests prepared)
  · intro _
    apply (hasPorts_of_manifests (reconcile_manifests prepared)).bind
    intro _
    exact Program.within_pure _

/-- The manifest of a text uses host ports that the other services leave free. -/
theorem resolveYaml_free {content baseDir localServiceId : String}
    (ran : resolveYaml setup content baseDir host = (.ok (manifest, localServiceId), final)) :
    PortsFree final manifest := by
  unfold resolveYaml at ran
  obtain ⟨name, _, peeks, ran⟩ := (Program.bind_eq_ok _).mp ran
  obtain ⟨peeked, rfl⟩ := (Program.ofExcept_eq_ok _).mp peeks
  obtain ⟨id, previewed, -, ran⟩ := (Program.bind_eq_ok _).mp ran
  rw [Program.bind_of_ok (Program.gets_apply _ _)] at ran
  obtain ⟨resolved, _, resolves, ran⟩ := (Program.bind_eq_ok _).mp ran
  cases ran
  unfold resolveManifest at resolves
  split at resolves
  · next parsed =>
      cases resolves
      obtain ⟨named, free, distinct⟩ := parsed_ports parsed
      rw [peeked] at named
      cases named
      refine ⟨distinct, ?_⟩
      exact free
  · cases resolves

theorem applyManifestYaml_ports (content baseDir : String)
    (exclusive : PortsExclusive host.serviceManifests) :
    PortsExclusive (applyManifestYaml setup content baseDir host).2.serviceManifests := by
  rw [applyManifestYaml_eq]
  have same := @resolveYaml_records setup content baseDir host
  cases resolves : resolveYaml setup content baseDir host with
  | mk outcome resolved =>
      rw [resolves] at same
      have kept : PortsExclusive resolved.serviceManifests :=
        (show SameRecords host resolved from same).manifests ▸ exclusive
      rw [Program.bind_apply, resolves]
      cases outcome with
      | error error => exact kept
      | ok value =>
          exact (applyWithLocalServiceId_hasPorts (some value.2) resolved
            ⟨kept, resolveYaml_free resolves⟩).1

theorem remove_ports (runtime : RuntimeKind) (name : String) :
    Program.Keeps (fun host => PortsExclusive host.serviceManifests)
      (remove setup runtime name) := by
  have kept : ∀ {Value : Type} {action : Action Value}, Program.Within manifestsFrame action →
      Program.Keeps (fun host => PortsExclusive host.serviceManifests) action := by
    intro _ action within host exclusive
    have same := within host
    exact show PortsExclusive (action host).2.serviceManifests from same ▸ exclusive
  unfold remove
  apply (kept (manifests_of_records (records_of_provider
    (ignoreMissingContainer_within (removeRuntime_within runtime name))))).bind
  intro _
  apply (Program.within_modify fun _ exclusive => exclusive).bind
  intro _
  apply (Program.within_modify fun _ exclusive => exclusive.erase name).bind
  intro _
  exact kept (removeService_manifests name)

end Calls

/-! ## Runs -/

/-- The call does not restart the daemon, and a manifest that is given as a value uses free host
ports. -/
def ControlCall.TakesFreePorts (host : Host) : ControlCall → Prop
  | .restart _ _ => False
  | .apply manifest => PortsFree host manifest
  | _ => True

section Runs

variable {setup : RuntimeSetup} {start host next final : Host} {calls : List ControlCall}

theorem controlStep_ports {call : ControlCall} (exclusive : PortsExclusive host.serviceManifests)
    (takes : call.TakesFreePorts host) (taken : controlStep setup host call = some next) :
    PortsExclusive next.serviceManifests := by
  cases call with
  | restart entries answers => exact takes.elim
  | apply manifest =>
      cases taken
      exact (applyWithLocalServiceId_hasPorts none host ⟨exclusive, takes⟩).1
  | applyYaml content baseDir answers =>
      cases taken
      exact @applyManifestYaml_ports setup { host with freePorts := answers } content baseDir
        exclusive
  | start runtime name =>
      cases taken
      have same := @start_manifests setup runtime name host
      exact show PortsExclusive (RuntimeControl.start setup runtime name host).2.serviceManifests
        from same ▸ exclusive
  | stop runtime name =>
      cases taken
      have same := @stop_manifests setup runtime name host
      exact show PortsExclusive (stop setup runtime name host).2.serviceManifests
        from same ▸ exclusive
  | remove runtime name =>
      cases taken
      exact remove_ports runtime name host exclusive
  | outside files containers =>
      cases taken
      exact exclusive
  | exits handle code =>
      cases taken
      unfold Host.childExits
      split
      · exact exclusive
      · exact exclusive

/-- Until the daemon is restarted, no two services hold one host port and no service holds one
twice, whatever ports the operating system offers and whichever calls fail. -/
theorem portsExclusive_of_run (exclusive : PortsExclusive start.serviceManifests)
    (takes : EveryStep (controlStep setup) (fun host call => call.TakesFreePorts host) start calls)
    (reached : run (controlStep setup) start calls = some final) :
    PortsExclusive final.serviceManifests :=
  invariant_of_everyStep
    (fun _ _ _ exclusive takes taken => controlStep_ports exclusive takes taken)
    exclusive takes reached

end Runs

theorem portsExclusive_empty : PortsExclusive ∅ := by
  constructor <;> simp

/-- Two services with a port each, and a third one that wants the port of the first. -/
def clashingPlatform : Platform :=
  { yaml := .ofTable
      [("fungi: notes", publishingDocument "notes" [("main", 8080)]),
        ("fungi: photos", publishingDocument "photos" [("main", 9090)]),
        ("fungi: mail", publishingDocument "mail" [("main", 8080)]),
        ("fungi: notes, written", manifestDocument (publishingManifest "notes" [("main", 8080)])),
        ("fungi: photos, written", manifestDocument (publishingManifest "photos" [("main", 9090)]))]
      (by decide +kernel) (by decide +kernel)
    json := .unary
    channel := .stable }

/-- A daemon with Wasmtime alone. -/
def clashingSetup : RuntimeSetup :=
  { toPlatform := clashingPlatform, fungiHome := "/f", docker := none, wasmtimeEnabled := true }

private theorem one_alphanumeric : "1".toList.all Char.isAlphanum := by decide

/-- No services yet, and two identifiers to give out. -/
def withoutManifests : Host :=
  let fresh := Host.fresh (.ofList [([], .directory), (["f".toList], .directory)]) []
  { fresh with
    ulids := fun index =>
      if index = 0 then fresh.ulids 0 else { text := "1", alphanumeric := one_alphanumeric }
    serviceState := emptyStore "/f/services" }

/-- The third of the three applies fails. -/
private def clashing : List ControlCall :=
  [.applyYaml "fungi: notes" "/base" [], .applyYaml "fungi: photos" "/base" [],
    .applyYaml "fungi: mail" "/base" []]

theorem portsExclusive_of_run_clashing :
    ∃ final ∈ run (controlStep clashingSetup) withoutManifests clashing,
      final.serviceManifests.keys = ["notes", "photos"] ∧
        PortsExclusive final.serviceManifests := by
  have evaluated : (run (controlStep clashingSetup) withoutManifests clashing).map
      (·.serviceManifests.keys) = some ["notes", "photos"] := by decide +kernel
  obtain ⟨final, reached, names⟩ := Option.map_eq_some_iff.mp evaluated
  have takes : EveryStep (controlStep clashingSetup)
      (fun host call => call.TakesFreePorts host) withoutManifests clashing :=
    ⟨trivial, fun _ _ => ⟨trivial, fun _ _ => ⟨trivial, fun _ _ => trivial⟩⟩⟩
  exact ⟨final, reached, names, portsExclusive_of_run portsExclusive_empty takes reached⟩

/-- Two containers as a daemon finds them when it is started. -/
def storedContainer (id : String) : FungiServiceDocument :=
  { publishingContainer 80 8080 with id }

/-- Two stored services that ask for the same port. -/
def storedPlatform : Platform :=
  { yaml := .ofTable
      [("fungi: left", storedContainer "left"), ("fungi: right", storedContainer "right")]
      (by decide +kernel) (by decide +kernel)
    json := .unary
    channel := .stable }

/-- A daemon without a runtime. -/
def storedSetup : RuntimeSetup :=
  { toPlatform := storedPlatform, fungiHome := "/f", docker := none, wasmtimeEnabled := false }

/-- The files of the two stored services. -/
private def storedMachine : Host :=
  Host.fresh (.ofList
    [([], .directory),
      (["f".toList], .directory),
      (["f".toList, "services".toList], .directory),
      (["f".toList, "services".toList, "left".toList], .directory),
      (["f".toList, "services".toList, "left".toList, "service.yaml".toList],
        .file "fungi: left"),
      (["f".toList, "services".toList, "right".toList], .directory),
      (["f".toList, "services".toList, "right".toList, "service.yaml".toList],
        .file "fungi: right")]) []

/-- A restart reserves nothing: two services are given one host port when the system offers it
twice. -/
theorem restart_shares_ports :
    ∃ started ∈ controlStep storedSetup storedMachine
        (.restart ["left", "right"] [40001, 40002, 40001, 40002]),
      ¬ PortsExclusive started.serviceManifests := by
  have evaluated : (controlStep storedSetup storedMachine
      (.restart ["left", "right"] [40001, 40002, 40001, 40002])).map (fun started =>
        (started.serviceManifests["left"]?.map (·.ports.map (·.hostPort)),
          started.serviceManifests["right"]?.map (·.ports.map (·.hostPort)))) =
      some (some [40001, 40002], some [40001, 40002]) := by decide +kernel
  obtain ⟨started, taken, ports⟩ := Option.map_eq_some_iff.mp evaluated
  obtain ⟨leftPorts, rightPorts⟩ := Prod.mk.inj ports
  obtain ⟨left, isLeft, ofLeft⟩ := Option.map_eq_some_iff.mp leftPorts
  obtain ⟨right, isRight, ofRight⟩ := Option.map_eq_some_iff.mp rightPorts
  refine ⟨started, taken, fun exclusive => ?_⟩
  have inLeft : (40001 : UInt16) ∈ left.ports.map (·.hostPort) := by simp [ofLeft]
  have inRight : (40001 : UInt16) ∈ right.ports.map (·.hostPort) := by simp [ofRight]
  obtain ⟨leftPort, leftMember, sameLeft⟩ := List.mem_map.mp inLeft
  obtain ⟨rightPort, rightMember, sameRight⟩ := List.mem_map.mp inRight
  exact exclusive.apart "left" "right" left right isLeft isRight (by decide) leftPort leftMember
    rightPort rightMember (sameLeft.trans sameRight.symm)

end Fungi.Runtime
