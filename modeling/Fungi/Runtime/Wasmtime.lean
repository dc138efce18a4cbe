import Fungi.Runtime.Docker

/-!
# The Wasmtime provider

`WasmtimeRuntimeProvider` of `crates/daemon/src/runtime/providers.rs` and the helpers it
calls.  A service has an artifacts directory, a runtime directory, and a child process
while it runs.
-/

namespace Fungi.Runtime

open Fungi.Lib Fungi.Config

/-- What the daemon is built and started with. -/
structure RuntimeSetup extends Platform where
  fungiHome : String
  docker : Option AgentPolicy
  wasmtimeEnabled : Bool

namespace RuntimeSetup

/-- The paths of the fungi home. -/
def paths (self : RuntimeSetup) : FungiPaths :=
  .fromFungiHomeForChannel self.fungiHome self.channel

/-- The directory of a service's artifacts. -/
def serviceArtifactsDir (self : RuntimeSetup) (localServiceId : String) : String :=
  self.paths.serviceArtifactsDir localServiceId

/-- The runtime root `daemon.rs` passes. -/
def runtimeRoot (self : RuntimeSetup) : String := Path.join self.fungiHome "runtime"

/-- The directory a service runs in. -/
def runtimeDir (self : RuntimeSetup) (handle : String) : String :=
  Path.join (Path.join self.runtimeRoot "wasmtime") handle

end RuntimeSetup

/-! ## Building a service -/

/-- A manifest that Wasmtime can run. -/
def ensureWasmtimeManifest (manifest : ServiceManifest) : Except Error Unit :=
  if manifest.runtime ≠ .wasmtime then
    .error (.message "service manifest runtime does not match wasmtime provider")
  else
    match manifest.source with
    | .wasmtimeFile component =>
        if component = "" then .error (.message "wasmtime component path must not be empty")
        else .ok ()
    | .wasmtimeUrl url =>
        if trim url = "" then .error (.message "wasmtime source url must not be empty")
        else .ok ()
    | .docker _ => .error (.message "wasmtime runtime requires a wasm component source")
    | .existingTcp _ _ => .error (.message "wasmtime runtime requires a wasm component source")

/-- The loop of `validate_allowed_host_paths`. -/
def validateMounts (roots : List (List Name)) : List ServiceMount → Except Error Unit
  | [] => .ok ()
  | mount :: rest => do
      let hostPath ← normalizeAbsolutePath mount.hostPath
      if roots.any (·.isPrefixOf hostPath) then validateMounts roots rest
      else throw (.message s!"wasmtime host path is outside allowed roots: {mount.hostPath}")

/-- Every mount is below one of the roots. -/
def validateAllowedHostPaths (manifest : ServiceManifest) (allowedHostPaths : List String) :
    Except Error Unit := do
  let roots ← allowedHostPaths.mapM normalizeAbsolutePath
  validateMounts roots manifest.mounts

/-- Put the component into the service directory: a copy of the file, or what the URL answers. -/
def stageWasmtimeComponent (manifest : ServiceManifest) (serviceDir : String) :
    Action String := do
  let targetPath := Path.join serviceDir "component.wasm"
  match manifest.source with
  | .wasmtimeFile component => do
      copyFile s!"Failed to copy WASI component from {component} to {targetPath}" component
        targetPath
      return targetPath
  | .wasmtimeUrl url => do
      unseenStep s!"Failed to download WASI component from {url}"
      unseenStep s!"WASI component download returned error for {url}"
      unseenStep s!"Failed to read WASI download body from {url}"
      let bytes ← Program.gets fun host => host.downloads url
      writeFile s!"Failed to write staged WASI component: {targetPath}" targetPath bytes
      return targetPath
  | .docker _ => Program.fail (.message "invalid wasmtime source type")
  | .existingTcp _ _ => Program.fail (.message "invalid wasmtime source type")

/-- A source as it is shown. -/
def sourceDisplay : ServiceSource → String
  | .docker image => image
  | .wasmtimeFile component => component
  | .wasmtimeUrl url => url
  | .existingTcp host port => s!"{host}:{port}"

/-- Stage the component, unless it is there and need not be replaced. -/
def ensureStagedComponent (manifest : ServiceManifest) (serviceArtifactsDir : String)
    (restageComponent : Bool) : Action String := do
  let stagedComponentPath := Path.join serviceArtifactsDir "component.wasm"
  let existing ← Program.gets fun host => host.files.pathExists stagedComponentPath
  if restageComponent ∨ ¬ existing then stageWasmtimeComponent manifest serviceArtifactsDir
  else return stagedComponentPath

/-- Create the runtime directory and the log file in it. -/
def createRuntimeDir (runtimeDir : String) : Action String := do
  createDirAll "Failed to create runtime directory" runtimeDir
  let logFilePath := Path.join runtimeDir "runtime.log"
  let existing ← Program.gets fun host => host.files.pathExists logFilePath
  if existing then return logFilePath
  else do
    writeFile s!"Failed to create log file: {logFilePath}" logFilePath ""
    return logFilePath

/-- The state of a service in memory, with its directories made and its component in place. -/
def buildWasmtimeState (setup : RuntimeSetup) (serviceArtifactsDir : String)
    (allowedHostPaths : List String) (manifest : ServiceManifest) (restageComponent : Bool) :
    Action WasmtimeServiceState := do
  Program.ofExcept (ensureWasmtimeManifest manifest)
  Program.ofExcept (validateAllowedHostPaths manifest allowedHostPaths)
  createDirAll "Failed to create service artifacts directory" serviceArtifactsDir
  ensureManifestMountDirs manifest
  let stagedComponentPath ← ensureStagedComponent manifest serviceArtifactsDir restageComponent
  let logFilePath ← createRuntimeDir (setup.runtimeDir manifest.name)
  return { manifest
           sourceDisplay := sourceDisplay manifest.source
           stagedComponentPath
           serviceDir := serviceArtifactsDir
           runtimeDir := setup.runtimeDir manifest.name
           logFilePath
           child := none
           lastExitCode := none }

/-! ## The child process -/

/-- Whether the component answers HTTP requests itself. -/
def shouldServeWasmtimeHttp (manifest : ServiceManifest) : Bool := manifest.runMode = .http

/-- Whether something is published over TCP. -/
def hasTcpPorts (manifest : ServiceManifest) : Bool := manifest.ports.any (·.protocol = .tcp)

/-- `trim_start_matches('/')`. -/
def trimStartSlashes (text : String) : String :=
  String.ofList (text.toList.dropWhile (· = '/'))

/-- The guest sees the host path below its own root; the root itself needs no second part. -/
def mountArguments (mount : ServiceMount) : List String :=
  let guest := trimStartSlashes (trim mount.runtimePath)
  ["--dir", if guest = "" then mount.hostPath else s!"{mount.hostPath}::{guest}"]

/-- The arguments of `build_wasmtime_command`. -/
def buildWasmtimeCommand (setup : RuntimeSetup) (state : WasmtimeServiceState) :
    Except Error (List String) := do
  let mode ← if shouldServeWasmtimeHttp state.manifest then
      match state.manifest.ports.find? (·.protocol = .tcp) with
      | some port => .ok ["serve", s!"--addr=127.0.0.1:{port.hostPort}"]
      | none => .error (.message "wasmtime http mode requires at least one TCP port")
    else .ok ["run"]
  let network := if hasTcpPorts state.manifest then
      ["-Stcp", "-Sinherit-network", "-Sallow-ip-name-lookup"]
    else []
  return ["--fungi-dir", setup.fungiHome] ++ mode ++ ["-Scli"] ++ network ++
    state.manifest.mounts.flatMap mountArguments ++
    [state.stagedComponentPath] ++ state.manifest.command

namespace WasmtimeRuntimeProvider

/-- The error for a service that is not in memory. -/
def serviceNotFound (handle : String) : Error := .message s!"wasmtime service not found: {handle}"

/-- The state of a service, or an error. -/
def getService (handle : String) : Action WasmtimeServiceState := do
  let services ← Program.gets (·.wasmtimeServices)
  match services[handle]? with
  | some state => return state
  | none => Program.fail (serviceNotFound handle)

/-- Put a service into memory. -/
def putService (handle : String) (state : WasmtimeServiceState) : Action Unit :=
  Program.modify fun host =>
    { host with wasmtimeServices := host.wasmtimeServices.insert handle state }

/-- `refresh_child_state` on a service of the map. -/
def refreshChildState (handle : String) (state : WasmtimeServiceState) :
    Action WasmtimeServiceState :=
  match state.child with
  | none => return state
  | some child => do
      unseenStep "Failed to query fungi WASI process status"
      match child.exited with
      | none => return state
      | some code => do
          let refreshed := { state with lastExitCode := code, child := none }
          putService handle refreshed
          return refreshed

/-- Start the process of a service, unless it runs. -/
def start (setup : RuntimeSetup) (handle : String) : Action Unit := do
  let state ← getService handle
  let state ← refreshChildState handle state
  if state.child.isSome then
    Program.fail (.message s!"wasmtime service is already running: {handle}")
  else do
    let arguments ← Program.ofExcept (buildWasmtimeCommand setup state)
    openAppend s!"Failed to open stdout log: {state.logFilePath}" state.logFilePath
    openAppend s!"Failed to open stderr log: {state.logFilePath}" state.logFilePath
    unseenStep "Failed to spawn fungi WASI process"
    putService handle { state with child := some { arguments, exited := none }
                                   lastExitCode := none }

/-- Stop the process of a service, if it runs. -/
def stop (handle : String) : Action Unit := do
  let state ← getService handle
  let state ← refreshChildState handle state
  match state.child with
  | none => return ()
  | some _ => do
      putService handle { state with child := none }
      -- The child is killed on drop, so it is gone even when these steps fail.
      unseenStep "Failed to kill fungi WASI process"
      unseenStep "Failed to wait for fungi WASI process"
      putService handle { state with child := none, lastExitCode := none }

/-- Look at a service, which finds out whether its process still runs. -/
def inspect (handle : String) : Action Unit := do
  let state ← getService handle
  let _ ← refreshChildState handle state
  return ()

/-- Remove a directory that is there. -/
def removeDirIfExists (context path : String) : Action Unit := do
  let existing ← Program.gets fun host => host.files.pathExists path
  if existing then removeDirAll context path else return ()

/-- The directories of a service: those in its state, or the ones it would have. -/
def serviceDirs (setup : RuntimeSetup) (handle : String) (localServiceId : Option String)
    (state : Option WasmtimeServiceState) : String × String :=
  match state with
  | some state => (state.serviceDir, state.runtimeDir)
  | none => (setup.serviceArtifactsDir (localServiceId.getD handle), setup.runtimeDir handle)

/-- Stop a service, take it out of memory, and remove its directories. -/
def removeArtifactsAndRuntime (setup : RuntimeSetup) (handle : String)
    (localServiceId : Option String) : Action Unit := do
  Program.ignoring (stop handle)
  let state ← Program.gets fun host => host.wasmtimeServices[handle]?
  Program.modify fun host =>
    { host with wasmtimeServices := host.wasmtimeServices.erase handle }
  let dirs := serviceDirs setup handle localServiceId state
  removeDirIfExists "Failed to remove service artifacts directory" dirs.1
  removeDirIfExists "Failed to remove runtime directory" dirs.2

/-- Remove a service with the directories of its id. -/
def removeWithLocalServiceId (setup : RuntimeSetup) (handle localServiceId : String) :
    Action Unit :=
  removeArtifactsAndRuntime setup handle (some localServiceId)

/-- Put a stored service into memory, unless it is there. -/
def restore (setup : RuntimeSetup) (manifest : ServiceManifest) (localServiceId : String) :
    Action Unit := do
  let allowedHostPaths ← Program.gets (·.allowedHostPaths)
  let state ← buildWasmtimeState setup (setup.serviceArtifactsDir localServiceId)
    allowedHostPaths manifest false
  let services ← Program.gets (·.wasmtimeServices)
  if manifest.name ∈ services then return ()
  else putService manifest.name state

/-- Build a service and put it in the map. -/
def addService (setup : RuntimeSetup) (manifest : ServiceManifest) (localServiceId : String) :
    Action Unit := do
  let allowedHostPaths ← Program.gets (·.allowedHostPaths)
  let state ← buildWasmtimeState setup (setup.serviceArtifactsDir localServiceId)
    allowedHostPaths manifest true
  let services ← Program.gets (·.wasmtimeServices)
  if manifest.name ∈ services then
    Program.fail (.message s!"service already exists: {manifest.name}")
  else putService manifest.name state

/-- Put a service into memory with its files, instead of the old one if that is to be replaced. -/
def applyWithLocalServiceId (setup : RuntimeSetup) (manifest : ServiceManifest)
    (localServiceId : String) (replaceExisting : Bool) : Action Unit := do
  Program.when replaceExisting (removeWithLocalServiceId setup manifest.name localServiceId)
  addService setup manifest localServiceId
  inspect manifest.name

/-- Pull a service beside what is there. -/
def pullWithLocalServiceId (setup : RuntimeSetup) (manifest : ServiceManifest)
    (localServiceId : String) : Action Unit :=
  applyWithLocalServiceId setup manifest localServiceId false

/-- Pull a service in the place of the old one. -/
def replaceWithLocalServiceId (setup : RuntimeSetup) (manifest : ServiceManifest)
    (localServiceId : String) : Action Unit :=
  applyWithLocalServiceId setup manifest localServiceId true

end WasmtimeRuntimeProvider

end Fungi.Runtime
