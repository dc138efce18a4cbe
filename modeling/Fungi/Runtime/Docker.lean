import Fungi.Runtime.ServiceState

/-!
# The Docker provider

`DockerRuntimeProvider` over `crates/docker-agent`.  The engine keeps containers under
their names; each request is one external step that the engine may refuse.  Engine
replies and the details of a container that nothing reads are left out.
-/

namespace Fungi.Runtime

open Fungi.Lib Fungi.Config

/-! ## Lexical paths -/

/-- `normalize_absolute_path`. -/
def normalizeAbsolutePath (path : String) : Except Error (List Name) :=
  if Path.isAbsolute path then .ok (Path.resolve path)
  else .error (.message s!"host path must be absolute: {path}")

/-! ## The agent's policy -/

/-- A host port, or a range of them, that containers may publish. -/
inductive PortRule where
  | single (port : UInt16)
  | range (start stop : UInt16)

/-- Whether a rule allows a host port. -/
def PortRule.allows (self : PortRule) (port : UInt16) : Bool :=
  match self with
  | .single value => value = port
  | .range start stop => start ≤ port ∧ port ≤ stop

/-- What the agent lets containers do, and the label of those it manages. -/
structure AgentPolicy where
  managedLabelKey : String
  managedLabelValue : String
  allowedHostPaths : List String
  allowedPorts : List PortRule

/-- The error for a container that cannot be built. -/
def invalidSpec (text : String) : Error := .message s!"invalid container spec: {text}"

/-- The error for a container that the policy forbids. -/
def policyDenied (text : String) : Error := .message s!"policy denied: {text}"

namespace AgentPolicy

/-- Relative paths are refused, and `.` and `..` are resolved. -/
def normalizePath (path : String) : Except Error (List Name) :=
  if Path.isAbsolute path then .ok (Path.resolve path)
  else .error (invalidSpec s!"host path must be absolute: {path}")

/-- A mount needs an absolute container path, and a host path below one of the roots. -/
def validateMount (self : AgentPolicy) (mount : BindMount) : Except Error Unit :=
  if trim mount.containerPath = "" ∨ ¬ startsWith mount.containerPath "/" then
    .error (invalidSpec s!"container mount path must be absolute: {mount.containerPath}")
  else do
    let hostPath ← normalizePath mount.hostPath
    let allowedRoots ← self.allowedHostPaths.mapM normalizePath
    if allowedRoots.any (·.isPrefixOf hostPath) then return ()
    else throw (policyDenied s!"host path is outside allowed roots: {mount.hostPath}")

/-- A port needs both numbers, and a host port that is allowed; no rules allow every port. -/
def validatePort (self : AgentPolicy) (port : PortBinding) : Except Error Unit :=
  if port.hostPort = 0 ∨ port.containerPort = 0 then
    .error (invalidSpec "container and host ports must be greater than 0")
  else if ¬ self.allowedPorts.isEmpty ∧ ¬ self.allowedPorts.any (·.allows port.hostPort) then
    .error (policyDenied s!"host port is not allowed: {port.hostPort}")
  else .ok ()

/-- The checks that a container passes before the engine is asked for it. -/
def validateCreateSpec (self : AgentPolicy) (spec : ContainerSpec) : Except Error Unit :=
  if trim spec.image = "" then .error (invalidSpec "image must not be empty")
  else if spec.name.any (trim · = "") then .error (invalidSpec "name must not be empty")
  else do
    let _ ← spec.mounts.mapM self.validateMount
    let _ ← spec.ports.mapM self.validatePort
    return ()

end AgentPolicy

/-! ## Requests to the engine -/

/-- A request.  A failing request may have been carried out. -/
def engineStep
    (effect : BTreeMap String Container → Except Error (BTreeMap String Container)) :
    Action Unit :=
  externalStep
    (fun host => (effect host.containers).map fun containers => { host with containers })
    (fun fault host =>
      match fault.carriedOut, effect host.containers with
      | true, .ok containers => { host with containers }
      | _, _ => host)
    (·.reply)

/-- The answer of the engine for a name it does not know. -/
def noSuchContainer (name : String) : Error := .dockerApi 404 s!"No such container: {name}"

/-- Change an existing container. -/
def changeContainer (name : String) (change : Container → Except Error (Option Container)) :
    Action Unit :=
  engineStep fun containers =>
    match containers[name]? with
    | none => .error (noSuchContainer name)
    | some container =>
        match change container with
        | .ok (some container) => .ok (containers.insert name container)
        | .ok none => .ok (containers.erase name)
        | .error error => .error error

/-- `GET /containers/{name}/json`. -/
def inspectRequest (name : String) : Action Container := do
  changeContainer name fun container => .ok (some container)
  let host ← Program.gets id
  match host.containers[name]? with
  | some container => return container
  | none => Program.fail (noSuchContainer name)

/-- `POST /containers/create`.  Every spec of the daemon has a name. -/
def createRequest (policy : AgentPolicy) (spec : ContainerSpec) : Action Unit :=
  engineStep fun containers =>
    let name := spec.name.getD ""
    if name ∈ containers then
      .error (.dockerApi 409 s!"The container name {name} is already in use")
    else
      let labels := spec.labels.insert policy.managedLabelKey policy.managedLabelValue
      .ok (containers.insert name { spec := { spec with labels }, running := false })

/-- The engine is asked to start a container. -/
def startRequest (name : String) : Action Unit :=
  changeContainer name fun container => .ok (some { container with running := true })

/-- The engine is asked to stop a container. -/
def stopRequest (name : String) : Action Unit :=
  changeContainer name fun container => .ok (some { container with running := false })

/-- `DELETE /containers/{name}`, without force. -/
def removeRequest (name : String) : Action Unit :=
  changeContainer name fun container =>
    if container.running then .error (.dockerApi 409 s!"container {name} is running")
    else .ok none

/-- The engine is asked to pull an image. -/
def pullImage : Action Unit := engineStep .ok

/-! ## The agent -/

namespace DockerAgent

/-- The agent touches only containers with its label. -/
def ensureManagedLabels (policy : AgentPolicy) (name : String) (container : Container) :
    Action Unit :=
  if container.spec.labels[policy.managedLabelKey]? = some policy.managedLabelValue then
    return ()
  else Program.fail (policyDenied s!"container is not managed by fungi: {name}")

/-- The agent touches only containers with its label, which it looks up first. -/
def ensureManaged (policy : AgentPolicy) (name : String) : Action Unit := do
  let container ← inspectRequest name
  ensureManagedLabels policy name container

/-- Whether an error says that the image is not there. -/
def missingImageMessage (message image : String) : Bool :=
  decide ("no such image".toList <:+: (toAsciiLowercase message).toList) &&
    decide ((toAsciiLowercase image).toList <:+: (toAsciiLowercase message).toList)

/-- Only managed containers are shown. -/
def inspectContainer (policy : AgentPolicy) (name : String) : Action Unit :=
  ensureManaged policy name

/-- Create a container; pull its image when the engine does not have it. -/
def createOrPull (policy : AgentPolicy) (spec : ContainerSpec) : Action Unit := do
  match ← Program.attempt (createRequest policy spec) with
  | .ok () => return ()
  | .error (.dockerApi status message) =>
      if status = 404 ∧ missingImageMessage message spec.image then do
        pullImage
        createRequest policy spec
      else Program.fail (.dockerApi status message)
  | .error error => Program.fail error

/-- Create a container that passes the policy, and look at it. -/
def createContainer (policy : AgentPolicy) (spec : ContainerSpec) : Action Unit := do
  Program.ofExcept (policy.validateCreateSpec spec)
  createOrPull policy spec
  inspectContainer policy (spec.name.getD "")

/-- Start a managed container. -/
def startContainer (policy : AgentPolicy) (name : String) : Action Unit := do
  ensureManaged policy name
  startRequest name

/-- Stop a managed container. -/
def stopContainer (policy : AgentPolicy) (name : String) : Action Unit := do
  ensureManaged policy name
  stopRequest name

/-- Remove a managed container. -/
def removeContainer (policy : AgentPolicy) (name : String) : Action Unit := do
  ensureManaged policy name
  removeRequest name

end DockerAgent

/-! ## The provider -/

/-- The host directories of the mounts, created where they are missing. -/
def ensureManifestMountDirs (manifest : ServiceManifest) : Action Unit :=
  Program.forEach (fun mount =>
    createDirAll "Failed to create service host mount directory" mount.hostPath) manifest.mounts

/-- The container of a manifest. -/
def dockerSpecFromManifestWithName (manifest : ServiceManifest) (containerName : String) :
    Except Error ContainerSpec :=
  if manifest.runtime ≠ .docker then
    .error (.message "service manifest runtime does not match docker provider")
  else
    match manifest.source with
    | .docker image =>
        .ok
          { name := some containerName
            image
            env := manifest.env
            mounts := manifest.mounts.map fun mount =>
              { hostPath := mount.hostPath, containerPath := mount.runtimePath }
            ports := manifest.ports.map fun port =>
              { hostPort := port.hostPort, containerPort := port.servicePort,
                protocol := port.protocol }
            command := manifest.command
            entrypoint := manifest.entrypoint
            workingDir := manifest.workingDir
            labels := manifest.labels }
    | _ => .error (.message "docker runtime requires a docker image source")

/-- `is_missing_docker_container_error`. -/
def isMissingDockerContainerError : Error → Bool
  | .dockerApi status _ => status = 404
  | .message _ => false

namespace DockerRuntimeProvider

/-- Pull a service: its directories, its specification, and its container. -/
def pullWithContainerName (policy : AgentPolicy) (manifest : ServiceManifest)
    (containerName : String) : Action Unit := do
  ensureManifestMountDirs manifest
  let spec ← Program.ofExcept (dockerSpecFromManifestWithName manifest containerName)
  DockerAgent.createContainer policy spec

end DockerRuntimeProvider

end Fungi.Runtime
