import Fungi.Daemon.SettingsRuns

/-!
# Mount roots of a running daemon

The roots of the two providers follow the saved settings.  A call copies its settings to the
providers after the lock of the settings is given back, so that the copies of two calls may be made
in either order.
-/

namespace Fungi.Daemon

open Fungi.Lib Fungi.Config Fungi.Runtime

variable {PeerId : Type} {channel : DistChannel} {fungiDir : String}
  {start config : FungiConfig PeerId} {system next final : SettingsSystem PeerId}
  {running : RunningSettings PeerId} {action : SettingsAction PeerId}
  {actions : List (SettingsAction PeerId)} {update : ConfigUpdate PeerId} {position : Nat}

/-- Each provider gets the settings of the calls in the order of the updates. -/
def InOrder (system : SettingsSystem PeerId) : SettingsAction PeerId → Prop
  | .updateDocker position => ∀ running, system.daemon = some running →
      ∀ earlier ∈ running.calls.take position, earlier.dockerUpdated = true
  | .updateWasmtime position => position = 0
  | _ => True

/-! ## Copies of the settings -/

section Copies

variable (channel fungiDir)

/-- The calls that have changed the settings but not yet the Docker policy. -/
def RunningSettings.outstanding (running : RunningSettings PeerId) : List RuntimeCall :=
  running.calls.filter fun call => !call.dockerUpdated

/-- The providers have the settings once the calls have made their copies. -/
structure Copied (running : RunningSettings PeerId) : Prop where
  docker : ∀ policy, running.docker = some policy →
    Propagates (dockerPolicyOf channel fungiDir running.config.runtime)
      (running.outstanding.map fun call => dockerPolicyOf channel fungiDir call.config) policy
  wasmtime : Propagates (wasmtimeRootsOf channel fungiDir running.config.runtime)
    (running.calls.map fun call => wasmtimeRootsOf channel fungiDir call.config)
    running.wasmtimeRoots

end Copies

theorem copied_started {dockerAvailable : Bool} :
    Copied channel fungiDir (RunningSettings.started channel fungiDir config dockerAvailable) where
  docker policy isPolicy := by
    simp only [RunningSettings.started] at isPolicy
    split at isPolicy
    · exact Option.some.inj isPolicy.symm ▸ Propagates.refl _
    · cases isPolicy
  wasmtime := Propagates.refl _

/-- A saved update is outstanding for both providers, if it is about the mount roots. -/
theorem Copied.called [DecidableEq PeerId] (copied : Copied channel fungiDir running)
    (performed : update.perform channel fungiDir running.config = .ok config) :
    Copied channel fungiDir ({ running with config }.called update) := by
  unfold RunningSettings.called
  split
  · constructor
    · intro policy isPolicy
      simp only [RunningSettings.outstanding, List.filter_append, List.map_append]
      exact Propagates.change _ _ _
    · simp only [List.map_append]
      exact Propagates.change _ _ _
  · next relay =>
      have same : config.runtime = running.config.runtime :=
        ConfigUpdate.runtime_perform performed (by simpa using relay)
      constructor
      · exact fun policy isPolicy => same ▸ copied.docker policy isPolicy
      · exact same ▸ copied.wasmtime

/-- A position splits the calls. -/
theorem calls_at {calls : List RuntimeCall} {call : RuntimeCall}
    (found : calls[position]? = some call) :
    calls = calls.take position ++ call :: calls.drop (position + 1) ∧
      ∀ other, calls.set position other =
        calls.take position ++ other :: calls.drop (position + 1) := by
  obtain ⟨bound, isCall⟩ := List.getElem?_eq_some_iff.mp found
  constructor
  · rw [← isCall, List.getElem_cons_drop, List.take_append_drop]
  · intro other
    rw [List.set_eq_take_append_cons_drop, if_pos bound]

/-- The copy of the oldest outstanding settings. -/
theorem Copied.updateDocker {after : RunningSettings PeerId}
    (copied : Copied channel fungiDir running)
    (inOrder : ∀ earlier ∈ running.calls.take position, earlier.dockerUpdated = true)
    (updated : running.updateDocker channel fungiDir position = some after) :
    Copied channel fungiDir after := by
  obtain ⟨call, found, fresh, rfl⟩ := RunningSettings.updateDocker_eq_some.mp updated
  obtain ⟨same, replaced⟩ := calls_at found
  have settled : (running.calls.take position).filter (fun call => !call.dockerUpdated) = [] := by
    rw [List.filter_eq_nil_iff]
    intro earlier member
    simp [inOrder earlier member]
  constructor
  · intro policy isPolicy
    obtain ⟨old, isOld, rfl⟩ := Option.map_eq_some_iff.mp isPolicy
    have propagates := copied.docker old isOld
    unfold RunningSettings.outstanding at propagates ⊢
    rw [same, List.filter_append, settled, List.nil_append,
      List.filter_cons_of_pos (by simp [fresh]), List.map_cons] at propagates
    rw [replaced, List.filter_append, settled, List.nil_append,
      List.filter_cons_of_neg (by simp)]
    exact propagates.advance
  · have propagates := copied.wasmtime
    rw [same, List.map_append, List.map_cons] at propagates
    rw [replaced, List.map_append, List.map_cons]
    exact propagates

theorem Copied.updateWasmtime {after : RunningSettings PeerId}
    (copied : Copied channel fungiDir running)
    (updated : running.updateWasmtime channel fungiDir 0 = some after) :
    Copied channel fungiDir after := by
  obtain ⟨call, found, done, rfl⟩ := RunningSettings.updateWasmtime_eq_some.mp updated
  obtain ⟨same, -⟩ := calls_at found
  rw [List.take_zero, List.nil_append] at same
  have docker := copied.docker
  have wasmtime := copied.wasmtime
  unfold RunningSettings.outstanding at docker
  rw [same] at docker wasmtime
  rw [List.filter_cons_of_neg (by simp [done])] at docker
  constructor
  · intro policy isPolicy
    unfold RunningSettings.outstanding
    rw [same, List.eraseIdx_cons_zero]
    exact docker policy isPolicy
  · rw [same, List.eraseIdx_cons_zero]
    exact wasmtime.advance

/-- The invariant of the runs whose copies are in order. -/
def SystemCopied (channel : DistChannel) (fungiDir : String) (system : SettingsSystem PeerId) :
    Prop :=
  ∀ running, system.daemon = some running → Copied channel fungiDir running

variable [DecidableEq PeerId]

theorem systemCopied_step (copied : SystemCopied channel fungiDir system)
    (inOrder : InOrder system action)
    (taken : system.step channel fungiDir action = some next) :
    SystemCopied channel fungiDir next := by
  cases action with
  | start dockerAvailable =>
      obtain ⟨-, config, -, rfl⟩ := SettingsSystem.start_eq_some.mp taken
      rintro _ ⟨⟩
      exact copied_started
  | stop =>
      obtain ⟨-, same⟩ := Option.ite_none_right_eq_some.mp taken
      obtain rfl := Option.some.inj same
      exact nofun
  | update update outcome =>
      obtain ⟨running, isRunning, cases⟩ := SettingsSystem.update_eq_some.mp taken
      rcases cases with ⟨config, performed, rfl, rfl⟩ | ⟨config, left, -, rfl, rfl⟩ |
        ⟨failure, -, rfl, rfl⟩
      · rintro _ ⟨⟩
        exact (copied running isRunning).called performed
      · exact copied
      · exact copied
  | edit update outcome =>
      obtain ⟨stopped, -, before, found, cases⟩ := SettingsSystem.edit_eq_some.mp taken
      rcases cases with ⟨config, performed, rfl, rfl⟩ | ⟨config, left, -, rfl, rfl⟩ |
        ⟨failure, -, rfl, rfl⟩
      · exact copied
      · exact copied
      · exact copied
  | updateDocker position =>
      simp only [SettingsSystem.step, Option.bind_eq_bind, Option.bind_eq_some_iff] at taken
      obtain ⟨running, isRunning, after, updated, same⟩ := taken
      obtain rfl := Option.some.inj same
      rintro _ ⟨⟩
      exact (copied running isRunning).updateDocker (inOrder running isRunning) updated
  | updateWasmtime position =>
      simp only [SettingsSystem.step, Option.bind_eq_bind, Option.bind_eq_some_iff] at taken
      obtain ⟨running, isRunning, after, updated, same⟩ := taken
      obtain rfl := Option.some.inj same
      obtain rfl : position = 0 := inOrder
      rintro _ ⟨⟩
      exact (copied running isRunning).updateWasmtime updated

/-! ## Allowed mounts -/

section Allowed

variable (channel fungiDir)

/-- The last saved update about the path allowed it. -/
def PathAfter (start : FungiConfig PeerId) (actions : List (SettingsAction PeerId))
    (components : List Path.Component) : Prop :=
  StandsSaved (fun update => update.Allows components) (fun update => update.Disallows components)
    (components ∈ start.runtime.allowedHostPaths.map Path.components) actions

/-- A default root, or a path whose last saved update allowed it. -/
def RootAfter (start : FungiConfig PeerId) (actions : List (SettingsAction PeerId))
    (root : String) : Prop :=
  root ∈ RuntimeConfig.defaultAllowedHostPaths channel fungiDir ∨
    PathAfter start actions (Path.components root)

/-- The mounts that the roots after the updates admit. -/
structure AllowedAfter (start : FungiConfig PeerId) (actions : List (SettingsAction PeerId))
    (hostPath : String) : Prop where
  rooted : ∀ root, RootAfter channel fungiDir start actions root → Path.isAbsolute root
  absolute : Path.isAbsolute hostPath
  below : ∃ root, RootAfter channel fungiDir start actions root ∧
    Path.resolve root <+: Path.resolve hostPath

end Allowed

omit [DecidableEq PeerId] in
/-- Roots are told apart by their components only. -/
theorem allowedAfter_iff {hostPath : String}
    (listed : ∀ components, components ∈ config.runtime.allowedHostPaths.map Path.components ↔
      PathAfter start actions components) :
    AllowedAfter channel fungiDir start actions hostPath ↔
      Admitted (RuntimeConfig.defaultAllowedHostPaths channel fungiDir ++
        config.runtime.allowedHostPaths) hostPath := by
  have isRoot : ∀ root, RootAfter channel fungiDir start actions root ↔
      root ∈ RuntimeConfig.defaultAllowedHostPaths channel fungiDir ∨
        ∃ entry ∈ config.runtime.allowedHostPaths,
          Path.components entry = Path.components root := by
    intro root
    unfold RootAfter
    rw [← listed, List.mem_map]
  constructor
  · rintro ⟨rooted, absolute, root, isAllowed, below⟩
    refine ⟨fun entry member => rooted entry ((isRoot entry).mpr ?_), absolute, ?_⟩
    · exact (List.mem_append.mp member).imp_right fun member => ⟨entry, member, rfl⟩
    · rcases (isRoot root).mp isAllowed with default | ⟨entry, member, same⟩
      · exact ⟨root, List.mem_append_left _ default, below⟩
      · refine ⟨entry, List.mem_append_right _ member, ?_⟩
        rw [Path.resolve_eq_of_components same]
        exact below
  · rintro ⟨rooted, absolute, root, member, below⟩
    refine ⟨fun other isAllowed => ?_, absolute, root, (isRoot root).mpr ?_, below⟩
    · rcases (isRoot other).mp isAllowed with default | ⟨entry, member, same⟩
      · exact rooted other (List.mem_append_left _ default)
      · rw [← Path.isAbsolute_eq_of_components same]
        exact rooted entry (List.mem_append_right _ member)
    · exact (List.mem_append.mp member).imp_right fun member => ⟨root, member, rfl⟩

/-- Once no call is under way, both providers admit a mount exactly below the default roots and the
paths whose last saved update allowed them. -/
theorem mounts_allowed_of_run
    (reached : run (SettingsSystem.step channel fungiDir) { file := some start, daemon := none }
      actions = some final)
    (intact : ReadsIntact actions)
    (inOrder : EveryStep (SettingsSystem.step channel fungiDir) InOrder
      { file := some start, daemon := none } actions)
    (isRunning : final.daemon = some running) (settled : running.calls = [])
    (hostPath : String) :
    (Admitted running.wasmtimeRoots hostPath ↔
        AllowedAfter channel fungiDir start actions hostPath) ∧
      ∀ policy, running.docker = some policy →
        (Admitted policy.allowedHostPaths hostPath ↔
          AllowedAfter channel fungiDir start actions hostPath) := by
  obtain ⟨current, recorded, holds⟩ := holds_of_run reached intact
  have same := holds.daemon running isRunning
  have listed : ∀ components, components ∈ running.config.runtime.allowedHostPaths.map
      Path.components ↔ PathAfter start actions components := by
    intro components
    rw [same]
    exact fact_of_record (ConfigUpdate.mem_allowedHostPaths_perform components) recorded
  rw [allowedAfter_iff listed]
  have initially : SystemCopied channel fungiDir
      ({ file := some start, daemon := none } : SettingsSystem PeerId) := nofun
  have copied := invariant_of_everyStep (fun _ _ _ => systemCopied_step) initially inOrder reached
    running isRunning
  constructor
  · have roots := copied.wasmtime
    rw [settled, List.map_nil, Propagates.nil_iff] at roots
    rw [roots]
    exact admitted_withDefaultMountRoots
  · intro policy isPolicy
    have propagates := copied.docker policy isPolicy
    rw [RunningSettings.outstanding, settled, List.filter_nil, List.map_nil,
      Propagates.nil_iff] at propagates
    rw [propagates]
    exact admitted_sortDedup

/-- A system without a daemon, relays or roots of its own. -/
def plainSystem : SettingsSystem Nat :=
  { file := some { network := { relayEnabled := false
                                useCommunityRelays := false
                                customRelayAddresses := [] }
                   runtime := { allowedHostPaths := [] } }
    daemon := none }

/-- A root is allowed and reaches both runtimes. -/
def allowingActions : List (SettingsAction Nat) :=
  [.start true, .update (.addRuntimeAllowedHostPath "/srv/data") .saved, .updateDocker 0,
    .updateWasmtime 0]

theorem mounts_allowed_of_run_data :
    ∃ final running policy,
      run (SettingsSystem.step .stable "/home/user/.fungi") plainSystem allowingActions =
          some final ∧
        final.daemon = some running ∧ running.docker = some policy ∧
        Admitted policy.allowedHostPaths "/srv/data/files" := by
  have ends : (run (SettingsSystem.step .stable "/home/user/.fungi") plainSystem
      allowingActions).any (fun system => system.daemon.any fun running =>
        running.calls.isEmpty && running.docker.isSome) = true := by decide +kernel
  obtain ⟨final, reached, ends⟩ := (Option.any_eq_true _ _).mp ends
  obtain ⟨running, isRunning, ends⟩ := (Option.any_eq_true _ _).mp ends
  obtain ⟨empty, hasDocker⟩ := Bool.and_eq_true_iff.mp ends
  obtain ⟨policy, isPolicy⟩ := Option.isSome_iff_exists.mp hasDocker
  have intact : ReadsIntact allowingActions :=
    readsIntact_of_no_failure (by simp [allowingActions])
  have inOrder : EveryStep (SettingsSystem.step .stable "/home/user/.fungi") InOrder plainSystem
      allowingActions :=
    ⟨trivial, fun _ _ => ⟨trivial, fun _ _ => ⟨fun _ _ => by simp, fun _ _ =>
      ⟨rfl, fun _ _ => trivial⟩⟩⟩⟩
  refine ⟨final, running, policy, reached, isRunning, isPolicy, ?_⟩
  refine ((mounts_allowed_of_run reached intact inOrder isRunning (List.isEmpty_iff.mp empty)
    "/srv/data/files").2 policy isPolicy).mpr ⟨?_, by decide +kernel, "/srv/data", Or.inr ?_, ?_⟩
  · rintro root (default | ⟨listed, -⟩ | ⟨before, action, after, same, ⟨update, saves, allows⟩, -⟩)
    · revert root
      decide +kernel
    · simp at listed
    · have member : action ∈ allowingActions := by simp [same]
      obtain rfl : update = .addRuntimeAllowedHostPath "/srv/data" := by
        rcases saves with rfl | rfl
        · simpa [allowingActions] using member
        · simp [allowingActions] at member
      rw [← Path.isAbsolute_eq_of_components allows]
      decide +kernel
  · have same : Path.components (Path.display (Path.resolve "/srv/data")) =
        Path.components "/srv/data" := by decide +kernel
    right
    exact ⟨[.start true], _, _, rfl, ⟨_, Or.inl rfl, same⟩,
      by simp [SettingsAction.Saves]⟩
  · decide +kernel

/-- Two calls make their copies in the other order: the second path is removed and stays allowed. -/
theorem removed_path_stays_allowed :
    ∃ final running,
      run (SettingsSystem.step .stable "/home/user/.fungi")
        ({ file := some { network := { relayEnabled := false
                                       useCommunityRelays := false
                                       customRelayAddresses := [] }
                          runtime := { allowedHostPaths := ["/srv/old", "/srv/data"] } }
           daemon := none } : SettingsSystem Nat)
        [.start true, .update (.removeRuntimeAllowedHostPath "/srv/old") .saved,
          .update (.removeRuntimeAllowedHostPath "/srv/data") .saved, .updateDocker 1,
          .updateWasmtime 1, .updateDocker 0, .updateWasmtime 0] = some final ∧
      final.daemon = some running ∧ running.calls = [] ∧
      running.config.runtime.allowedHostPaths = [] ∧
      Admitted running.wasmtimeRoots "/srv/data/files" := by
  refine ⟨_, _, rfl, rfl, rfl, by decide +kernel, ?_⟩
  exact admitted_withDefaultMountRoots.mpr
    ⟨by decide +kernel, by decide +kernel, by decide +kernel⟩

end Fungi.Daemon
