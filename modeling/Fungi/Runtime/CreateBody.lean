import Fungi.Runtime.ManifestRoundTrip
import Fungi.Runtime.MountRoots

/-!
# The body of a create request

What `crates/docker-agent/src/agent.rs` sends to the engine for a container: its mounts as texts
that the engine splits again, and its ports in a map from the ports of the container.
-/

namespace Fungi.Runtime

open Fungi.Lib

/-- The host side of a port binding. -/
structure HostPortBinding where
  hostPort : String
  deriving DecidableEq

/-- The binds and the port bindings of a container. -/
structure HostConfig where
  binds : List String
  portBindings : BTreeMap String (List HostPortBinding)

/-- The request that creates a container. -/
structure CreateContainerBody where
  image : String
  env : List String
  cmd : List String
  entrypoint : List String
  workingDir : Option String
  labels : BTreeMap String String
  exposedPorts : BTreeMap String (BTreeMap String String)
  hostConfig : HostConfig

/-- The protocols by Docker's names. -/
def protocolName : ServicePortProtocol → String
  | .tcp => "tcp"
  | .udp => "udp"

/-- A port of the container, as the engine names it. -/
def containerPortKey (containerPort : UInt16) (protocol : ServicePortProtocol) : String :=
  toString containerPort.toNat ++ "/" ++ protocolName protocol

/-- A host port as Docker has it. -/
def hostPortBinding (hostPort : UInt16) : HostPortBinding := { hostPort := toString hostPort.toNat }

/-- A mount as Docker has it, with a colon between the two paths. -/
def mountBind (mount : BindMount) : String := mount.hostPath ++ ":" ++ mount.containerPath

/-- The entries that the loop over the ports inserts. -/
def portEntries (ports : List PortBinding) : List (String × List HostPortBinding) :=
  ports.map fun port =>
    (containerPortKey port.containerPort port.protocol, [hostPortBinding port.hostPort])

/-- The request for a container of the policy, with the label by which it is known again. -/
def toCreateBody (spec : ContainerSpec) (policy : AgentPolicy) : CreateContainerBody :=
  { image := spec.image
    env := spec.env.toList.map fun item => s!"{item.1}={item.2}"
    cmd := spec.command
    entrypoint := spec.entrypoint
    workingDir := spec.workingDir
    labels := spec.labels.insert policy.managedLabelKey policy.managedLabelValue
    exposedPorts := .ofList ((portEntries spec.ports).map fun item => (item.1, ∅)) compare
    hostConfig :=
      { binds := spec.mounts.map mountBind
        portBindings := .ofList (portEntries spec.ports) compare } }

/-! ## Binds -/

/-- What the engine mounts, where, and in which mode if one is given. -/
structure Bind where
  host : String
  container : String
  mode : Option String
  deriving DecidableEq

/-- `host:container[:mode]`. -/
def readBind (bind : String) : Option Bind := do
  let (host, rest) ← splitOnce ':' bind
  match splitOnce ':' rest with
  | none => return { host, container := rest, mode := none }
  | some (container, mode) =>
      if ':' ∈ mode.toList then none else return { host, container, mode := some mode }

/-- The engine mounts the host path that was admitted, where the spec says. -/
structure BindFaithful (policy : AgentPolicy) (mount : BindMount) (bind : String) : Prop where
  read : readBind bind = some { host := mount.hostPath, container := mount.containerPath,
                                mode := none }
  admitted : ∀ read, readBind bind = some read → Admitted policy.allowedHostPaths read.host

theorem readBind_mountBind {mount : BindMount} :
    readBind (mountBind mount) =
        some { host := mount.hostPath, container := mount.containerPath, mode := none } ↔
      ':' ∉ mount.hostPath.toList ∧ ':' ∉ mount.containerPath.toList := by
  constructor
  · intro read
    obtain ⟨⟨host, rest⟩, front, read⟩ := Option.bind_eq_some_iff.mp read
    obtain ⟨joined, noColon⟩ := splitOnce_eq_some.mp front
    dsimp only at read
    split at read
    · next alone =>
        cases read
        exact ⟨noColon, splitOnce_eq_none.mp alone⟩
    · split at read <;> cases read
  · rintro ⟨noColon, alone⟩
    have front : splitOnce ':' (mountBind mount) = some (mount.hostPath, mount.containerPath) := by
      rw [splitOnce_eq_some]
      exact ⟨by simp [mountBind], noColon⟩
    simp [readBind, front, splitOnce_eq_none.mpr alone]

/-- The engine reads a bind as it was meant exactly when neither of its paths has a colon. -/
theorem binds_faithful_iff {policy : AgentPolicy} {spec : ContainerSpec}
    (accepted : policy.validateCreateSpec spec = .ok ()) :
    (toCreateBody spec policy).hostConfig.binds = spec.mounts.map mountBind ∧
      ∀ mount ∈ spec.mounts, BindFaithful policy mount (mountBind mount) ↔
        ':' ∉ mount.hostPath.toList ∧ ':' ∉ mount.containerPath.toList := by
  refine ⟨rfl, fun mount member => ?_⟩
  rw [← readBind_mountBind]
  constructor
  · exact BindFaithful.read
  · intro same
    refine ⟨same, fun read isRead => ?_⟩
    rw [same, Option.some.injEq] at isRead
    rw [← isRead]
    exact AgentPolicy.admitted_of_validateCreateSpec accepted mount member

/-- A policy with one root, and a container that mounts a path below it. -/
def srvPolicy : AgentPolicy :=
  { managedLabelKey := "managed_by"
    managedLabelValue := "fungi"
    allowedHostPaths := ["/srv"]
    allowedPorts := [] }

/-- A container that mounts a host path. -/
def servingFiles (hostPath : String) : ContainerSpec :=
  { name := some "files"
    image := "files:latest"
    env := ∅
    mounts := [{ hostPath, containerPath := "/data" }]
    ports := []
    command := []
    entrypoint := []
    workingDir := none
    labels := ∅ }

theorem binds_faithful_iff_files :
    BindFaithful srvPolicy { hostPath := "/srv/files", containerPath := "/data" }
      "/srv/files:/data" := by
  have accepted : srvPolicy.validateCreateSpec (servingFiles "/srv/files") = .ok () := by
    decide +kernel
  exact ((binds_faithful_iff accepted).2 _ (List.mem_singleton_self _)).mpr (by decide)

/-- The part of a host path before its colon is mounted, at a path that is no path. -/
theorem bind_reads_other_path :
    srvPolicy.validateCreateSpec (servingFiles "/srv/a:b") = .ok () ∧
      readBind "/srv/a:b:/data" =
        some { host := "/srv/a", container := "b", mode := some "/data" } ∧
      ¬ BindFaithful srvPolicy { hostPath := "/srv/a:b", containerPath := "/data" }
        "/srv/a:b:/data" := by
  refine ⟨by decide +kernel, by decide, fun faithful => ?_⟩
  exact absurd faithful.read (by decide)

/-! ## Ports -/

/-- The port of the container is published on the host port. -/
def CreateContainerBody.Publishes (body : CreateContainerBody) (containerPort : UInt16)
    (protocol : ServicePortProtocol) (hostPort : UInt16) : Prop :=
  ∃ bindings, body.hostConfig.portBindings[containerPortKey containerPort protocol]? =
    some bindings ∧ hostPortBinding hostPort ∈ bindings

/-- Every port of the manifest is published, and with it every exposed endpoint. -/
structure KeepsPorts (manifest : ServiceManifest) (body : CreateContainerBody) : Prop where
  ports : ∀ port ∈ manifest.ports, body.Publishes port.servicePort port.protocol port.hostPort
  endpoints : ∀ endpoint ∈ serviceExposeEndpointBindings manifest,
    body.Publishes endpoint.servicePort .tcp endpoint.hostPort

theorem containerPortKey_tcp_injective {left right : UInt16}
    (same : containerPortKey left .tcp = containerPortKey right .tcp) : left = right := by
  have texts := congrArg String.toList same
  simp only [containerPortKey, String.toList_append, List.append_cancel_right_eq] at texts
  exact UInt16.toNat_inj.mp (toString_nat_injective (String.toList_inj.mp texts))

theorem hostPortBinding_injective {left right : UInt16}
    (same : hostPortBinding left = hostPortBinding right) : left = right :=
  UInt16.toNat_inj.mp (toString_nat_injective (HostPortBinding.mk.inj same))

theorem allocateAutoHostPort_free {protocol : ServicePortProtocol} {attempts : Nat}
    {pool pool' : PortPool} {port : UInt16}
    (allocated : allocateAutoHostPort protocol attempts pool = .ok (port, pool')) :
    port ∉ pool.reserved ∧ pool'.reserved = insert port pool.reserved := by
  induction attempts generalizing pool with
  | zero => cases allocated
  | succ attempts inductionHypothesis =>
      obtain ⟨⟨answer, asked⟩, answered, allocated⟩ := bind_eq_ok.mp allocated
      have untouched : asked.reserved = pool.reserved := by
        unfold reserveEphemeralHostPort at answered
        split at answered
        · cases answered
        · cases answered
          rfl
      dsimp only at allocated
      split at allocated
      · have later := inductionHypothesis allocated
        rwa [untouched] at later
      · next free =>
          cases allocated
          rw [untouched] at free ⊢
          exact ⟨free, rfl⟩

/-- No two ports of a Docker manifest are published on one host port. -/
theorem parseFungiPublishEntries_auto {items : List (String × FungiServicePublishEntry)}
    {ports : List ServicePort} {pool pool' : PortPool}
    (parsed : parseFungiPublishEntries .docker items pool = .ok (ports, pool')) :
    (∀ port ∈ ports, port.protocol = .tcp ∧ port.hostPort ∉ pool.reserved) ∧
      ports.Pairwise fun left right => left.hostPort ≠ right.hostPort := by
  induction items generalizing pool ports with
  | nil =>
      cases parsed
      simp
  | cons item rest inductionHypothesis =>
      obtain ⟨port, middle, others, first, remaining, rfl⟩ :=
        parseFungiPublishEntries_cons_eq_ok.mp parsed
      obtain ⟨-, hostPort, allocated, rfl⟩ := parseFungiPublishEntry_auto_eq_ok.mp first
      obtain ⟨free, reserved⟩ := allocateAutoHostPort_free allocated
      obtain ⟨othersFree, apart⟩ := inductionHypothesis remaining
      rw [reserved] at othersFree
      constructor
      · rw [List.forall_mem_cons]
        refine ⟨⟨rfl, free⟩, fun other member => ?_⟩
        obtain ⟨isTcp, unreserved⟩ := othersFree other member
        exact ⟨isTcp, fun taken => unreserved (Finset.mem_insert_of_mem taken)⟩
      · refine List.pairwise_cons.mpr ⟨fun other member same => ?_, apart⟩
        exact (othersFree other member).2 (same ▸ Finset.mem_insert_self _ _)

section Ports

variable {yaml : SerdeYaml} {content baseDir : String} {roots : ManifestPathRoots}
  {usedHostPorts : Finset UInt16} {answers rest : List UInt16} {manifest : ServiceManifest}
  {containerName : String} {spec : ContainerSpec}

/-- What the parser makes sure of about the ports of a Docker manifest. -/
theorem docker_ports_parsed
    (parsed : parseServiceManifestYamlForServicePaths yaml content baseDir roots usedHostPorts
      answers = .ok (manifest, rest)) (docker : manifest.runtime = .docker) :
    (∀ port ∈ manifest.ports, port.protocol = .tcp) ∧
      manifest.ports.Pairwise fun left right => left.hostPort ≠ right.hostPort := by
  obtain ⟨document, -, converted⟩ := bind_eq_ok.mp parsed
  obtain ⟨-, run, ports, reserved, expose, -, parsedPorts, -, rfl⟩ :=
    FungiServiceDocument.intoServiceManifest_eq_ok.mp converted
  rw [show run.runtimeAndSource.runtime = .docker from docker] at parsedPorts
  obtain ⟨each, apart⟩ := parseFungiPublishEntries_auto parsedPorts
  exact ⟨fun port member => (each port member).1, apart⟩

/-- What the daemon asks for of the ports of a manifest. -/
theorem dockerSpec_ports
    (converted : dockerSpecFromManifestWithName manifest containerName = .ok spec) :
    manifest.runtime = .docker ∧ spec.ports = manifest.ports.map fun port =>
      { hostPort := port.hostPort, containerPort := port.servicePort,
        protocol := port.protocol } := by
  unfold dockerSpecFromManifestWithName at converted
  obtain ⟨docker, converted⟩ := guard_eq_ok.mp converted
  split at converted
  · cases converted
    exact ⟨not_not.mp docker, rfl⟩
  · cases converted

/-- An exposed endpoint is a port of the manifest. -/
theorem exists_port_of_endpoint {endpoint : ServiceExposeEndpointBinding}
    (exposed : endpoint ∈ serviceExposeEndpointBindings manifest) :
    ∃ port ∈ manifest.ports, port.protocol = .tcp ∧ port.hostPort = endpoint.hostPort ∧
      port.servicePort = endpoint.servicePort := by
  unfold serviceExposeEndpointBindings at exposed
  split at exposed
  · cases exposed
  · split at exposed
    · cases exposed
    · rw [List.mem_insertionSort] at exposed
      obtain ⟨port, among, made⟩ := List.mem_filterMap.mp exposed
      obtain ⟨member, isTcp⟩ := List.mem_filter.mp among
      obtain ⟨name, -, made⟩ := Option.bind_eq_some_iff.mp made
      dsimp only at made
      split at made
      · cases made
      · cases made
        exact ⟨port, member, of_decide_eq_true isTcp, rfl, rfl⟩

variable {policy : AgentPolicy} {containerPort : UInt16} {protocol : ServicePortProtocol}

/-- The map has one host port for a port of the container. -/
theorem publishes_unique {left right : UInt16}
    (first : (toCreateBody spec policy).Publishes containerPort protocol left)
    (second : (toCreateBody spec policy).Publishes containerPort protocol right) :
    left = right := by
  obtain ⟨bindings, found, among⟩ := first
  obtain ⟨others, foundAgain, amongOthers⟩ := second
  cases found.symm.trans foundAgain
  have entry := mem_of_mem_toList_ofList (Std.ExtTreeMap.mem_toList_iff_getElem?_eq_some.mpr found)
  obtain ⟨port, -, made⟩ := List.mem_map.mp entry
  obtain ⟨-, rfl⟩ := Prod.mk.inj made
  rw [List.mem_singleton] at among amongOthers
  exact hostPortBinding_injective (among.trans amongOthers.symm)

theorem publishes_of_distinct {port : PortBinding} (member : port ∈ spec.ports)
    (distinct : (portEntries spec.ports).Pairwise fun left right => left.1 ≠ right.1) :
    (toCreateBody spec policy).Publishes port.containerPort port.protocol port.hostPort := by
  refine ⟨[hostPortBinding port.hostPort], ?_, List.mem_singleton_self _⟩
  apply Std.ExtTreeMap.getElem?_ofList_of_mem Std.ReflCmp.compare_self
  · apply distinct.imp
    intro left right different same
    exact different (Std.LawfulEqOrd.eq_of_compare same)
  · exact List.mem_map_of_mem member

/-- The created container publishes all the ports of a manifest exactly when no two of them are one
port of the container. -/
theorem create_keepsPorts_iff
    (parsed : parseServiceManifestYamlForServicePaths yaml content baseDir roots usedHostPorts
      answers = .ok (manifest, rest))
    (converted : dockerSpecFromManifestWithName manifest containerName = .ok spec) :
    KeepsPorts manifest (toCreateBody spec policy) ↔
      (manifest.ports.map fun port => port.servicePort).Nodup := by
  obtain ⟨docker, specPorts⟩ := dockerSpec_ports converted
  obtain ⟨isTcp, apart⟩ := docker_ports_parsed parsed docker
  constructor
  · intro keeps
    apply List.pairwise_map.mpr
    apply apart.imp_of_mem
    intro left right leftMember rightMember different same
    have first := keeps.ports left leftMember
    have second := keeps.ports right rightMember
    rw [isTcp left leftMember] at first
    rw [isTcp right rightMember, ← same] at second
    exact different (publishes_unique first second)
  · intro distinct
    have entries : (portEntries spec.ports).Pairwise fun left right => left.1 ≠ right.1 := by
      rw [specPorts, portEntries, List.map_map, List.pairwise_map]
      apply (List.pairwise_map.mp distinct).imp_of_mem
      intro left right leftMember rightMember different same
      simp only [Function.comp_apply, isTcp left leftMember, isTcp right rightMember] at same
      exact different (containerPortKey_tcp_injective same)
    have ports : ∀ port ∈ manifest.ports,
        (toCreateBody spec policy).Publishes port.servicePort port.protocol port.hostPort := by
      intro port member
      have asked : { hostPort := port.hostPort, containerPort := port.servicePort,
                     protocol := port.protocol } ∈ spec.ports := by
        rw [specPorts]
        exact List.mem_map_of_mem member
      have published : (toCreateBody spec policy).Publishes _ _ _ :=
        publishes_of_distinct asked entries
      exact published
    refine ⟨ports, fun endpoint exposed => ?_⟩
    obtain ⟨port, member, tcp, hostPort, servicePort⟩ := exists_port_of_endpoint exposed
    rw [← hostPort, ← servicePort, ← tcp]
    exact ports port member

end Ports

/-- A Docker service that publishes two ports of its container. -/
def publishingContainer (first second : UInt16) : FungiServiceDocument :=
  { publishingDocument "demo" [("admin", first), ("main", second)] with
    run := some
      { provider := .docker
        mode := none
        source := { url := none, file := none, image := some "demo" }
        args := []
        env := ∅
        mounts := [] } }

/-- The documents of two such services: one with two container ports, one with the same port
twice. -/
def publishingYaml : SerdeYaml :=
  .ofTable
    [("fungi: apart", publishingContainer 80 8080), ("fungi: twice", publishingContainer 80 80)]
    (by decide) (by decide)

/-- The manifest such a service is parsed to when the system offers two host ports. -/
def publishedContainer (first second : UInt16) : ServiceManifest :=
  { publishingManifest "demo" [("admin", first), ("main", second)] with
    runtime := .docker
    source := .docker "demo"
    ports :=
      [{ name := some "admin", hostPort := 40001, hostPortAllocation := .auto,
         servicePort := first, protocol := .tcp },
        { name := some "main", hostPort := 40002, hostPortAllocation := .auto,
          servicePort := second, protocol := .tcp }] }

/-- The paths of the service. -/
def demoRoots : ManifestPathRoots :=
  .forLocalServiceId (.fromFungiHomeForChannel "/f" .stable) "demo"

/-- The container of the published manifest. -/
def publishedSpec (first second : UInt16) : ContainerSpec :=
  { servingFiles "/srv" with
    image := "demo"
    mounts := []
    ports :=
      [{ hostPort := 40001, containerPort := first, protocol := .tcp },
        { hostPort := 40002, containerPort := second, protocol := .tcp }] }

theorem publishedSpec_eq (first second : UInt16) :
    dockerSpecFromManifestWithName (publishedContainer first second) "files" =
      .ok (publishedSpec first second) := rfl

theorem create_keepsPorts_iff_apart :
    KeepsPorts (publishedContainer 80 8080) (toCreateBody (publishedSpec 80 8080) srvPolicy) := by
  have parsed : parseServiceManifestYamlForServicePaths publishingYaml "fungi: apart" "/base"
      demoRoots ∅ [40001, 40002] = .ok (publishedContainer 80 8080, []) := by decide +kernel
  exact (create_keepsPorts_iff parsed (publishedSpec_eq 80 8080)).mpr (by decide)

/-- Two entries for one port of the container, of which the second one displaces the first. -/
theorem create_drops_port :
    parseServiceManifestYamlForServicePaths publishingYaml "fungi: twice" "/base" demoRoots ∅
        [40001, 40002] = .ok (publishedContainer 80 80, []) ∧
      dockerSpecFromManifestWithName (publishedContainer 80 80) "files" =
        .ok (publishedSpec 80 80) ∧
      (toCreateBody (publishedSpec 80 80) srvPolicy).hostConfig.portBindings["80/tcp"]? =
        some [{ hostPort := "40002" }] ∧
      ¬ KeepsPorts (publishedContainer 80 80) (toCreateBody (publishedSpec 80 80) srvPolicy) := by
  have bindings :
      (toCreateBody (publishedSpec 80 80) srvPolicy).hostConfig.portBindings["80/tcp"]? =
        some [{ hostPort := "40002" }] := by decide +kernel
  refine ⟨by decide +kernel, rfl, bindings, fun keeps => ?_⟩
  obtain ⟨others, found, among⟩ := keeps.ports
    { name := some "admin", hostPort := 40001, hostPortAllocation := .auto, servicePort := 80,
      protocol := .tcp } (by decide)
  cases bindings.symm.trans found
  exact absurd among (by decide)

end Fungi.Runtime
