import Fungi.Daemon.Settings

/-!
# Runs of settings updates

The settings of a running daemon are what the saved updates made of the first ones, whichever of
them the daemon made and whichever a command made to the file, and however often the daemon was
started again in between.
-/

namespace Fungi.Daemon

open Fungi.Lib Fungi.Config Fungi.Runtime Fungi.Swarm

variable {PeerId : Type} {channel : DistChannel} {fungiDir : String}
  {start config current : FungiConfig PeerId} {system next final : SettingsSystem PeerId}
  {running : RunningSettings PeerId} {action : SettingsAction PeerId}
  {actions : List (SettingsAction PeerId)} {update : ConfigUpdate PeerId}
  {outcome : SaveOutcome PeerId}

/-! ## Saved updates -/

/-- Nothing that was saved has revoked the fact since something saved established it. -/
def StandsSaved (establishes revokes : ConfigUpdate PeerId → Prop) (initially : Prop)
    (actions : List (SettingsAction PeerId)) : Prop :=
  Stands (fun action => ∃ update, action.Saves update ∧ establishes update)
    (fun action => ∃ update, action.Saves update ∧ revokes update) initially actions

/-- The system holds the current settings. -/
structure Holds (actions : List (SettingsAction PeerId)) (system : SettingsSystem PeerId)
    (current : FungiConfig PeerId) : Prop where
  daemon : ∀ running, system.daemon = some running → running.config = current
  file : ¬ Damaged actions → system.file = some current

theorem damaged_snoc :
    Damaged (actions ++ [action]) ↔
      (∃ update left, action = .update update (.failed left) ∨
        action = .edit update (.failed left)) ∨
      Damaged actions ∧ ¬ ∃ update, action.Saves update :=
  Stands.snoc_iff

/-- An action that saves nothing leaves a damaged file damaged. -/
theorem Holds.stay (holds : Holds actions system current) (sameFile : next.file = system.file)
    (daemon : ∀ running, next.daemon = some running → running.config = current)
    (notSaved : ∀ update, ¬ action.Saves update) : Holds (actions ++ [action]) next current where
  daemon := daemon
  file intact := by
    rw [sameFile]
    apply holds.file
    intro damaged
    exact intact (damaged_snoc.mpr (Or.inr ⟨damaged, fun ⟨update, saves⟩ => notSaved update saves⟩))

theorem ReadsIntact.of_snoc (intact : ReadsIntact (actions ++ [action])) :
    ReadsIntact actions ∧ (action.ReadsFile → ¬ Damaged actions) := by
  constructor
  · intro before earlier after same
    exact intact before earlier (after ++ [action]) (by rw [same]; simp)
  · exact intact actions action [] rfl

/-- Where no save fails, the file is always as it was saved. -/
theorem readsIntact_of_no_failure
    (noFailure : ∀ action ∈ actions, ∀ update left, action ≠ .update update (.failed left) ∧
      action ≠ .edit update (.failed left)) : ReadsIntact actions := by
  rintro before action after rfl - damaged
  rcases damaged with ⟨impossible, -⟩ | ⟨earlier, failed, later, rfl, ⟨update, left, made⟩, -⟩
  · exact impossible
  · obtain ⟨notUpdate, notEdit⟩ := noFailure failed (by simp) update left
    exact made.elim notUpdate notEdit

@[simp] theorem config_called : (running.called update).config = running.config := by
  unfold RunningSettings.called
  split <;> rfl

theorem RunningSettings.updateDocker_eq_some {position : Nat} {after : RunningSettings PeerId} :
    running.updateDocker channel fungiDir position = some after ↔
      ∃ call, running.calls[position]? = some call ∧ call.dockerUpdated = false ∧
        after = { running with
          docker := running.docker.map fun _ => dockerPolicyOf channel fungiDir call.config
          calls := running.calls.set position { call with dockerUpdated := true } } := by
  unfold RunningSettings.updateDocker
  simp only [Option.bind_eq_bind, Option.bind_eq_some_iff]
  constructor
  · rintro ⟨call, found, taken⟩
    split at taken
    · cases taken
    · next fresh => exact ⟨call, found, by simpa using fresh, (Option.some.inj taken).symm⟩
  · rintro ⟨call, found, fresh, rfl⟩
    exact ⟨call, found, by simp [fresh]⟩

theorem RunningSettings.updateWasmtime_eq_some {position : Nat} {after : RunningSettings PeerId} :
    running.updateWasmtime channel fungiDir position = some after ↔
      ∃ call, running.calls[position]? = some call ∧ call.dockerUpdated = true ∧
        after = { running with
          wasmtimeRoots := wasmtimeRootsOf channel fungiDir call.config
          calls := running.calls.eraseIdx position } := by
  unfold RunningSettings.updateWasmtime
  simp only [Option.bind_eq_bind, Option.bind_eq_some_iff]
  constructor
  · rintro ⟨call, found, taken⟩
    split at taken
    · next updated => exact ⟨call, found, updated, (Option.some.inj taken).symm⟩
    · cases taken
  · rintro ⟨call, found, updated, rfl⟩
    exact ⟨call, found, by simp [updated]⟩

/-! ## What each action does -/

namespace SettingsSystem

theorem start_eq_some {dockerAvailable : Bool} :
    system.start channel fungiDir dockerAvailable = some next ↔
      system.daemon = none ∧ ∃ config, system.file = some config ∧
        next = { system with
          daemon := some (RunningSettings.started channel fungiDir config dockerAvailable) } := by
  unfold SettingsSystem.start
  split
  · next stopped readable => simp [stopped, readable, eq_comm]
  · next unable =>
      simp only [reduceCtorEq, false_iff, not_and, not_exists]
      intro stopped config readable
      exact (unable config stopped readable).elim

variable [DecidableEq PeerId]

theorem update_eq_some :
    system.update channel fungiDir update outcome = some next ↔
      ∃ running, system.daemon = some running ∧
        ((∃ config, update.perform channel fungiDir running.config = .ok config ∧
            outcome = .saved ∧
            next = { file := some config
                     daemon := some ({ running with config }.called update) }) ∨
          (∃ config left, update.perform channel fungiDir running.config = .ok config ∧
            outcome = .failed left ∧ next = { system with file := left }) ∨
          (∃ failure, update.perform channel fungiDir running.config = .error failure ∧
            outcome = .refused ∧ next = system)) := by
  unfold SettingsSystem.update
  simp only [Option.bind_eq_bind, Option.bind_eq_some_iff]
  refine exists_congr fun running => and_congr_right fun _ => ?_
  cases performed : update.perform channel fungiDir running.config with
  | ok config => cases outcome <;> simp [eq_comm]
  | error failure => cases outcome <;> simp [eq_comm]

theorem edit_eq_some :
    system.edit channel fungiDir update outcome = some next ↔
      system.daemon = none ∧ update.isRuntime = false ∧ ∃ before, system.file = some before ∧
        ((∃ config, update.perform channel fungiDir before = .ok config ∧
            outcome = .saved ∧ next = { system with file := some config }) ∨
          (∃ config left, update.perform channel fungiDir before = .ok config ∧
            outcome = .failed left ∧ next = { system with file := left }) ∨
          (∃ failure, update.perform channel fungiDir before = .error failure ∧
            outcome = .refused ∧ next = system)) := by
  unfold SettingsSystem.edit
  split
  · next config stopped readable =>
      rw [stopped, readable]
      cases update.isRuntime with
      | true => simp
      | false =>
          simp only [Bool.false_eq_true, if_false, true_and, Option.some.injEq, exists_eq_left']
          cases performed : update.perform channel fungiDir config with
          | ok config => cases outcome <;> simp [eq_comm]
          | error failure => cases outcome <;> simp [eq_comm]
  · next unable =>
      simp only [reduceCtorEq, false_iff, not_and, not_exists]
      intro stopped _ config readable
      exact (unable config stopped readable).elim

end SettingsSystem

theorem SettingsAction.Saves.unique {other : ConfigUpdate PeerId} (saves : action.Saves update)
    (alsoSaves : action.Saves other) : update = other := by
  rcases saves with rfl | rfl <;> rcases alsoSaves with same | same <;> cases same <;> rfl

/-! ## Runs -/

variable [DecidableEq PeerId]

/-- Settings without a file and without a daemon: each saved update takes effect. -/
def record (channel : DistChannel) (fungiDir : String) (config : FungiConfig PeerId) :
    SettingsAction PeerId → Option (FungiConfig PeerId)
  | .update update .saved | .edit update .saved =>
      (update.perform channel fungiDir config).toOption
  | _ => some config

theorem record_of_not_saves (notSaved : ∀ update, ¬ action.Saves update) :
    record channel fungiDir config action = some config := by
  cases action with
  | update update outcome =>
      cases outcome with
      | saved => exact absurd (Or.inl rfl) (notSaved update)
      | failed left => rfl
      | refused => rfl
  | edit update outcome =>
      cases outcome with
      | saved => exact absurd (Or.inr rfl) (notSaved update)
      | failed left => rfl
      | refused => rfl
  | start dockerAvailable => rfl
  | stop => rfl
  | updateDocker position => rfl
  | updateWasmtime position => rfl

theorem record_of_saves (saves : action.Saves update) :
    record channel fungiDir config action =
      (update.perform channel fungiDir config).toOption := by
  rcases saves with rfl | rfl
  · rfl
  · rfl

/-- Each action keeps the daemon and the file at the recorded settings. -/
theorem holds_step (holds : Holds actions system current)
    (readable : action.ReadsFile → ¬ Damaged actions)
    (taken : system.step channel fungiDir action = some next) :
    ∃ after, record channel fungiDir current action = some after ∧
      Holds (actions ++ [action]) next after := by
  cases action with
  | start dockerAvailable =>
      obtain ⟨-, config, found, rfl⟩ := SettingsSystem.start_eq_some.mp taken
      refine ⟨current, rfl, holds.stay rfl ?_ (by simp [SettingsAction.Saves])⟩
      rintro _ ⟨⟩
      exact Option.some.inj (found.symm.trans (holds.file (readable trivial)))
  | stop =>
      obtain ⟨-, same⟩ := Option.ite_none_right_eq_some.mp taken
      obtain rfl := Option.some.inj same
      exact ⟨current, rfl, holds.stay rfl nofun (by simp [SettingsAction.Saves])⟩
  | update update outcome =>
      obtain ⟨running, isRunning, cases⟩ := SettingsSystem.update_eq_some.mp taken
      have same := holds.daemon running isRunning
      rcases cases with ⟨config, performed, rfl, rfl⟩ | ⟨config, left, -, rfl, rfl⟩ |
        ⟨failure, -, rfl, rfl⟩
      · rw [same] at performed
        refine ⟨config, by rw [record_of_saves (Or.inl rfl), performed]; rfl, ?_, fun _ => rfl⟩
        rintro _ ⟨⟩
        simp
      · refine ⟨current, rfl, holds.daemon, fun intact => ?_⟩
        exact absurd (damaged_snoc.mpr (Or.inl ⟨update, left, Or.inl rfl⟩)) intact
      · exact ⟨current, rfl, holds.stay rfl holds.daemon (by simp [SettingsAction.Saves])⟩
  | edit update outcome =>
      obtain ⟨stopped, -, before, found, cases⟩ := SettingsSystem.edit_eq_some.mp taken
      have same := Option.some.inj (found.symm.trans (holds.file (readable trivial)))
      rcases cases with ⟨config, performed, rfl, rfl⟩ | ⟨config, left, -, rfl, rfl⟩ |
        ⟨failure, -, rfl, rfl⟩
      · rw [same] at performed
        refine ⟨config, by rw [record_of_saves (Or.inr rfl), performed]; rfl, ?_, fun _ => rfl⟩
        intro running isRunning
        simp [stopped] at isRunning
      · refine ⟨current, rfl, holds.daemon, fun intact => ?_⟩
        exact absurd (damaged_snoc.mpr (Or.inl ⟨update, left, Or.inr rfl⟩)) intact
      · exact ⟨current, rfl, holds.stay rfl holds.daemon (by simp [SettingsAction.Saves])⟩
  | updateDocker position =>
      simp only [SettingsSystem.step, Option.bind_eq_bind, Option.bind_eq_some_iff] at taken
      obtain ⟨running, isRunning, after, updated, same⟩ := taken
      obtain rfl := Option.some.inj same
      obtain ⟨call, -, -, rfl⟩ := RunningSettings.updateDocker_eq_some.mp updated
      refine ⟨current, rfl, holds.stay rfl ?_ (by simp [SettingsAction.Saves])⟩
      rintro _ ⟨⟩
      exact holds.daemon running isRunning
  | updateWasmtime position =>
      simp only [SettingsSystem.step, Option.bind_eq_bind, Option.bind_eq_some_iff] at taken
      obtain ⟨running, isRunning, after, updated, same⟩ := taken
      obtain rfl := Option.some.inj same
      obtain ⟨call, -, -, rfl⟩ := RunningSettings.updateWasmtime_eq_some.mp updated
      refine ⟨current, rfl, holds.stay rfl ?_ (by simp [SettingsAction.Saves])⟩
      rintro _ ⟨⟩
      exact holds.daemon running isRunning

/-- A run keeps to the record of what it saved. -/
theorem holds_of_run
    (reached : run (SettingsSystem.step channel fungiDir) { file := some start, daemon := none }
      actions = some final)
    (intact : ReadsIntact actions) :
    ∃ current, run (record channel fungiDir) start actions = some current ∧
      Holds actions final current := by
  refine run_induction (motive := fun actions final => ReadsIntact actions →
    ∃ current, run (record channel fungiDir) start actions = some current ∧
      Holds actions final current) ?_ ?_ reached intact
  · intro _
    exact ⟨start, rfl, nofun, fun _ => rfl⟩
  · intro actions system action next _ inductionHypothesis taken intact
    obtain ⟨earlier, readable⟩ := intact.of_snoc
    obtain ⟨current, recorded, holds⟩ := inductionHypothesis earlier
    obtain ⟨after, now, stillHolds⟩ := holds_step holds readable taken
    exact ⟨after, run_snoc_eq_some.mpr ⟨current, recorded, now⟩, stillHolds⟩

/-- A fact that the updates establish and revoke is as the saved updates left it. -/
theorem fact_of_record {fact : FungiConfig PeerId → Prop}
    {establishes revokes : ConfigUpdate PeerId → Prop}
    (performed : ∀ {update : ConfigUpdate PeerId} {config next : FungiConfig PeerId},
      update.perform channel fungiDir config = .ok next →
        (fact next ↔ establishes update ∨ fact config ∧ ¬ revokes update))
    (recorded : run (record channel fungiDir) start actions = some current) :
    fact current ↔ StandsSaved establishes revokes (fact start) actions := by
  refine Stands.of_run ?_ recorded
  intro config action next taken
  by_cases saves : ∃ update, action.Saves update
  · obtain ⟨update, saves⟩ := saves
    rw [record_of_saves saves] at taken
    have made : update.perform channel fungiDir config = .ok next := by
      cases result : update.perform channel fungiDir config with
      | ok config => rw [result] at taken; exact congrArg _ (Option.some.inj taken)
      | error failure => rw [result] at taken; cases taken
    have only : ∀ property : ConfigUpdate PeerId → Prop,
        (∃ other, action.Saves other ∧ property other) ↔ property update := by
      intro property
      constructor
      · rintro ⟨other, alsoSaves, holds⟩
        rw [saves.unique alsoSaves]
        exact holds
      · exact fun holds => ⟨update, saves, holds⟩
    rw [only, only, performed made]
  · have notSaved : ∀ update, ¬ action.Saves update := fun update one => saves ⟨update, one⟩
    rw [record_of_not_saves notSaved] at taken
    obtain rfl := Option.some.inj taken
    simp [notSaved]

/-- The effective relays of a running daemon's settings are listed once each, and a relay is listed
exactly if relays were last turned on and it is a community relay, where those were last turned on,
or was last added.  The swarm is given the list when the daemon starts. -/
theorem effective_relays_of_run
    (reached : run (SettingsSystem.step channel fungiDir) { file := some start, daemon := none }
      actions = some final)
    (intact : ReadsIntact actions) (isRunning : final.daemon = some running)
    (communityRelays : List (Multiaddr PeerId)) :
    let relays := running.config.network.effectiveRelayAddresses communityRelays
    let communityUsed := StandsSaved (· = .setUseCommunityRelays true)
      (· = .setUseCommunityRelays false) start.network.useCommunityRelays actions
    (relays.map (·.address)).Nodup ∧ ∀ entry, entry ∈ relays ↔
      StandsSaved (· = .setRelayEnabled true) (· = .setRelayEnabled false)
          start.network.relayEnabled actions ∧
        ((entry.source = .community ∧ communityUsed ∧ entry.address ∈ communityRelays) ∨
          (entry.source = .custom ∧
            StandsSaved (· = .addCustomRelayAddress entry.address)
              (· = .removeCustomRelayAddress entry.address)
              (entry.address ∈ start.network.customRelayAddresses) actions ∧
            ¬ (communityUsed ∧ entry.address ∈ communityRelays))) := by
  intro relays communityUsed
  obtain ⟨current, recorded, holds⟩ := holds_of_run reached intact
  have same := holds.daemon running isRunning
  refine ⟨nodup_effectiveRelayAddresses _ _, fun entry => ?_⟩
  have enabled := fact_of_record ConfigUpdate.relayEnabled_perform recorded
  have used := fact_of_record ConfigUpdate.useCommunityRelays_perform recorded
  have added := fact_of_record
    (ConfigUpdate.mem_customRelayAddresses_perform entry.address) recorded
  rw [mem_effectiveRelayAddresses_iff, same, enabled, used, added]

/-- A relay is added to the running daemon, and the community relays are given up while no daemon
runs. -/
def relayActions : List (SettingsAction Nat) :=
  [.start false, .update (.addCustomRelayAddress [.tcp 4001]) .saved, .stop,
    .edit (.setUseCommunityRelays false) .saved, .start true]

theorem effective_relays_of_run_restart :
    ∃ final running,
      run (SettingsSystem.step .stable "/home/user/.fungi")
        { file := some { network := { relayEnabled := true
                                      useCommunityRelays := true
                                      customRelayAddresses := [] }
                         runtime := { allowedHostPaths := [] } }
          daemon := none } relayActions = some final ∧
      final.daemon = some running ∧
      ({ address := [.tcp 4001], source := .custom } : EffectiveRelayAddress Nat) ∈
        running.config.network.effectiveRelayAddresses [[.udp 4002]] := by
  refine ⟨_, _, rfl, rfl, ?_⟩
  have intact : ReadsIntact relayActions := readsIntact_of_no_failure (by simp [relayActions])
  refine ((effective_relays_of_run rfl intact rfl _).2 _).mpr ⟨?_, Or.inr ⟨rfl, ?_, ?_⟩⟩
  · left
    simp [relayActions, SettingsAction.Saves]
  · right
    exact ⟨[.start false], _, _, rfl, ⟨_, Or.inl rfl, rfl⟩, by simp [SettingsAction.Saves]⟩
  · simp

end Fungi.Daemon
