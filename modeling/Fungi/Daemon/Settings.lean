import Fungi.Config.FungiConfig
import Fungi.Lib.Propagation
import Fungi.Lib.Standing
import Fungi.Runtime.MountRoots

/-!
# Settings of a running daemon

`crates/daemon/src/settings.rs`, the calls of `api/runtime.rs` that change the mount roots, and the
relay commands of `fungi/src/commands/fungi_control/relay_config.rs`, which change the file
themselves when no daemon runs.  A save that fails may leave anything in the file.
-/

namespace Fungi.Daemon

open Fungi.Lib Fungi.Config Fungi.Runtime

variable {PeerId : Type}

/-- A call that has saved its update and goes on to `apply_runtime_config`. -/
structure RuntimeCall where
  config : RuntimeConfig
  dockerUpdated : Bool

/-- The calls stand in the order of their updates. -/
structure RunningSettings (PeerId : Type) where
  config : FungiConfig PeerId
  docker : Option AgentPolicy
  wasmtimeRoots : List String
  calls : List RuntimeCall

/-- The file is given by what it is read as, if it can be read at all. -/
structure SettingsSystem (PeerId : Type) where
  file : Option (FungiConfig PeerId)
  daemon : Option (RunningSettings PeerId)

/-- How the save of the settings ends. -/
inductive SaveOutcome (PeerId : Type) where
  | saved
  | failed (left : Option (FungiConfig PeerId))
  | refused

/-- The actions on a call name its position among the calls. -/
inductive SettingsAction (PeerId : Type) where
  | start (dockerAvailable : Bool)
  | stop
  | update (update : ConfigUpdate PeerId) (outcome : SaveOutcome PeerId)
  | edit (update : ConfigUpdate PeerId) (outcome : SaveOutcome PeerId)
  | updateDocker (position : Nat)
  | updateWasmtime (position : Nat)

/-! ## Steps -/

section Steps

variable (channel : DistChannel) (fungiDir : String)

/-- The Docker policy that the settings ask for. -/
def dockerPolicyOf (config : RuntimeConfig) : AgentPolicy :=
  buildAgentPolicy config (RuntimeConfig.defaultAllowedHostPaths channel fungiDir)

/-- The mount roots that the settings ask for. -/
def wasmtimeRootsOf (config : RuntimeConfig) : List String :=
  withDefaultMountRoots channel fungiDir config.allowedHostPaths

/-- The daemon as it starts with the settings. -/
def RunningSettings.started (config : FungiConfig PeerId) (dockerAvailable : Bool) :
    RunningSettings PeerId :=
  { config
    docker :=
      if dockerAvailable then some (dockerPolicyOf channel fungiDir config.runtime) else none
    wasmtimeRoots := wasmtimeRootsOf channel fungiDir config.runtime
    calls := [] }

/-- The call goes on, if its update is one of the mount roots. -/
def RunningSettings.called (running : RunningSettings PeerId) (update : ConfigUpdate PeerId) :
    RunningSettings PeerId :=
  if update.isRuntime then
    { running with
      calls := running.calls ++ [{ config := running.config.runtime, dockerUpdated := false }] }
  else running

/-- The first half of `apply_runtime_config`. -/
def RunningSettings.updateDocker (running : RunningSettings PeerId) (position : Nat) :
    Option (RunningSettings PeerId) := do
  let call ← running.calls[position]?
  if call.dockerUpdated then none
  else
    some { running with
      docker := running.docker.map fun _ => dockerPolicyOf channel fungiDir call.config
      calls := running.calls.set position { call with dockerUpdated := true } }

/-- The second half of `apply_runtime_config`, with which the call returns. -/
def RunningSettings.updateWasmtime (running : RunningSettings PeerId) (position : Nat) :
    Option (RunningSettings PeerId) := do
  let call ← running.calls[position]?
  if call.dockerUpdated then
    some { running with
      wasmtimeRoots := wasmtimeRootsOf channel fungiDir call.config
      calls := running.calls.eraseIdx position }
  else none

variable [DecidableEq PeerId]

/-- A start reads the file, which must hold settings. -/
def SettingsSystem.start (system : SettingsSystem PeerId) (dockerAvailable : Bool) :
    Option (SettingsSystem PeerId) :=
  match system.daemon, system.file with
  | none, some config =>
      some { system with
        daemon := some (RunningSettings.started channel fungiDir config dockerAvailable) }
  | _, _ => none

/-- `Settings::update`, which holds the lock of the settings until the file is written. -/
def SettingsSystem.update (system : SettingsSystem PeerId) (update : ConfigUpdate PeerId)
    (outcome : SaveOutcome PeerId) : Option (SettingsSystem PeerId) := do
  let running ← system.daemon
  match update.perform channel fungiDir running.config, outcome with
  | .ok config, .saved =>
      some { file := some config, daemon := some ({ running with config }.called update) }
  | .ok _, .failed left => some { system with file := left }
  | .error _, .refused => some system
  | _, _ => none

/-- A relay command without a daemon. -/
def SettingsSystem.edit (system : SettingsSystem PeerId) (update : ConfigUpdate PeerId)
    (outcome : SaveOutcome PeerId) : Option (SettingsSystem PeerId) :=
  match system.daemon, system.file with
  | none, some config =>
      if update.isRuntime then none
      else
        match update.perform channel fungiDir config, outcome with
        | .ok config, .saved => some { system with file := some config }
        | .ok _, .failed left => some { system with file := left }
        | .error _, .refused => some system
        | _, _ => none
  | _, _ => none

/-- What an action does to the settings and the daemon. -/
def SettingsSystem.step (system : SettingsSystem PeerId) :
    SettingsAction PeerId → Option (SettingsSystem PeerId)
  | .start dockerAvailable => system.start channel fungiDir dockerAvailable
  | .stop => if system.daemon.isSome then some { system with daemon := none } else none
  | .update update outcome => system.update channel fungiDir update outcome
  | .edit update outcome => system.edit channel fungiDir update outcome
  | .updateDocker position => do
      let running ← system.daemon
      let running ← running.updateDocker channel fungiDir position
      some { system with daemon := some running }
  | .updateWasmtime position => do
      let running ← system.daemon
      let running ← running.updateWasmtime channel fungiDir position
      some { system with daemon := some running }

end Steps

/-! ## What is saved -/

/-- The action saves the update. -/
def SettingsAction.Saves (action : SettingsAction PeerId) (update : ConfigUpdate PeerId) : Prop :=
  action = .update update .saved ∨ action = .edit update .saved

/-- Whether an action reads the file. -/
def SettingsAction.ReadsFile : SettingsAction PeerId → Prop
  | .start _ | .edit _ _ => True
  | _ => False

/-- A save failed, and none has succeeded since. -/
def Damaged (actions : List (SettingsAction PeerId)) : Prop :=
  Stands (fun action => ∃ update left, action = .update update (.failed left) ∨
      action = .edit update (.failed left))
    (fun action => ∃ update, action.Saves update) False actions

/-- The file is read only where it is as it was saved. -/
def ReadsIntact (actions : List (SettingsAction PeerId)) : Prop :=
  ∀ before action after, actions = before ++ action :: after → action.ReadsFile → ¬ Damaged before

end Fungi.Daemon
