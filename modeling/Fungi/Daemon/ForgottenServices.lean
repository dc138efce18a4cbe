import Fungi.Daemon.ServiceSnapshots

/-!
# Forgetting one cached service

`remove_cached_service` reads the epoch of a peer and its cached snapshot, and writes the
snapshot back without one service.  It raises no epoch, so neither a refresh under way nor
a second forgetting is told about it.
-/

namespace Fungi.Daemon

open Fungi.Lib

variable {PeerId RefreshId ForgetId : Type}

theorem DeviceServiceSnapshot.mem_without {snapshot : DeviceServiceSnapshot} {name : String}
    {service : DeviceService} :
    service ∈ (snapshot.without name).services ↔
      service ∈ snapshot.services ∧ service.name ≠ name := by
  unfold DeviceServiceSnapshot.without
  rw [List.mem_filter, decide_eq_true_iff]

section Calls

variable (calls : SnapshotCalls PeerId RefreshId ForgetId)
  (log : List (SnapshotEvent PeerId RefreshId ForgetId))

/-- A refresh that began after the service was forgotten has returned it, and is stored. -/
def ReturnedSince (id : ForgetId) : Prop :=
  ∃ refresh snapshot, calls.peerOf refresh = (calls.forget id).peerId ∧
    .stored refresh snapshot ∈ log ∧
    (∃ service ∈ snapshot.services, service.name = (calls.forget id).serviceName) ∧
    Before log (.forgot id) (.began refresh)

/-- The refresh a peer was last refreshed by, and what it returned. -/
def LastStored (peerId : PeerId) (id : RefreshId) (snapshot : DeviceServiceSnapshot) : Prop :=
  calls.peerOf id = peerId ∧ ∃ earlier later, log = earlier ++ .stored id snapshot :: later ∧
    ∀ other after, .stored other after ∈ later → calls.peerOf other ≠ peerId

/-- The service was forgotten after the refresh had read its epoch. -/
def ForgottenSince (id : RefreshId) (service : DeviceService) : Prop :=
  ∃ forget, (calls.forget forget).peerId = calls.peerOf id ∧
    (calls.forget forget).serviceName = service.name ∧ Before log (.began id) (.forgot forget)

end Calls

/-- What forgetting and refreshing are to leave in the cache. -/
structure CachedAsForgotten (calls : SnapshotCalls PeerId RefreshId ForgetId)
    (state : SnapshotSystem PeerId RefreshId ForgetId) : Prop where
  forgotten : ∀ id snapshot, .forgot id ∈ state.log →
    state.snapshots.cache (calls.forget id).peerId = some snapshot →
    (∃ service ∈ snapshot.services, service.name = (calls.forget id).serviceName) →
    ReturnedSince calls state.log id
  kept : ∀ peerId id snapshot, LastStored calls state.log peerId id snapshot →
    state.origins peerId = some id ∧
      ∃ cached, state.snapshots.cache peerId = some cached ∧
        ∀ service ∈ snapshot.services,
          service ∈ cached.services ∨ ForgottenSince calls state.log id service

section Steps

variable {calls : SnapshotCalls PeerId RefreshId ForgetId}
  {log : List (SnapshotEvent PeerId RefreshId ForgetId)}
  {event : SnapshotEvent PeerId RefreshId ForgetId} {peerId : PeerId} {id : RefreshId}
  {snapshot : DeviceServiceSnapshot}

theorem ReturnedSince.snoc {forget : ForgetId} (returned : ReturnedSince calls log forget)
    (event : SnapshotEvent PeerId RefreshId ForgetId) :
    ReturnedSince calls (log ++ [event]) forget := by
  obtain ⟨refresh, snapshot, peer, stored, named, after⟩ := returned
  exact ⟨refresh, snapshot, peer, List.mem_append_left _ stored, named, after.snoc event⟩

theorem ForgottenSince.snoc {service : DeviceService}
    (forgotten : ForgottenSince calls log id service)
    (event : SnapshotEvent PeerId RefreshId ForgetId) :
    ForgottenSince calls (log ++ [event]) id service := by
  obtain ⟨forget, peer, named, after⟩ := forgotten
  exact ⟨forget, peer, named, after.snoc event⟩

theorem LastStored.mem (last : LastStored calls log peerId id snapshot) :
    .stored id snapshot ∈ log := by
  obtain ⟨-, earlier, later, rfl, -⟩ := last
  exact List.mem_append_right _ List.mem_cons_self

/-- An event that stores no refresh of the peer leaves its last refresh as it was. -/
theorem LastStored.of_snoc (last : LastStored calls (log ++ [event]) peerId id snapshot)
    (other : ∀ id snapshot, calls.peerOf id = peerId → event ≠ .stored id snapshot) :
    LastStored calls log peerId id snapshot := by
  obtain ⟨peer, earlier, later, split, latest⟩ := last
  rcases later.eq_nil_or_concat with none | ⟨init, last, ends⟩
  · rw [none] at split
    have same := (List.append_inj' split rfl).2
    rw [List.singleton_inj] at same
    exact absurd same (other id snapshot peer)
  · rw [ends, List.concat_eq_append] at split latest
    rw [← List.cons_append, ← List.append_assoc] at split
    refine ⟨peer, earlier, init, (List.append_inj' split rfl).1, ?_⟩
    intro other after membership
    exact latest other after (List.mem_append_left _ membership)

/-- The last event is the last refresh of its peer. -/
theorem LastStored.of_snoc_stored {other : RefreshId} {after : DeviceServiceSnapshot}
    (last : LastStored calls (log ++ [.stored other after]) (calls.peerOf other) id snapshot) :
    id = other ∧ snapshot = after := by
  obtain ⟨peer, earlier, later, split, latest⟩ := last
  rcases later.eq_nil_or_concat with none | ⟨init, last, ends⟩
  · rw [none] at split
    have same := (List.append_inj' split rfl).2
    rw [List.singleton_inj, SnapshotEvent.stored.injEq] at same
    exact ⟨same.1.symm, same.2.symm⟩
  · rw [ends, List.concat_eq_append] at split latest
    rw [← List.cons_append, ← List.append_assoc] at split
    have same := (List.append_inj' split rfl).2
    rw [List.singleton_inj] at same
    exact absurd rfl (latest other after
      (List.mem_append_right _ (List.mem_singleton.mpr same)))

variable {state next : SnapshotSystem PeerId RefreshId ForgetId}

namespace CachedAsForgotten

/-- An event that stores and forgets nothing, with the cache left alone. -/
theorem of_quiet (settled : CachedAsForgotten calls state)
    (event : SnapshotEvent PeerId RefreshId ForgetId)
    (cache : next.snapshots.cache = state.snapshots.cache) (origins : next.origins = state.origins)
    (log : next.log = state.log ++ [event]) (forgets : ∀ id, event ≠ .forgot id)
    (stores : ∀ id snapshot, event ≠ .stored id snapshot) : CachedAsForgotten calls next := by
  constructor
  · intro id snapshot forgot cached named
    rw [log, List.mem_append, List.mem_singleton] at forgot
    rw [cache] at cached
    rw [log]
    exact (settled.forgotten id snapshot
      (forgot.resolve_right fun same => forgets id same.symm) cached named).snoc event
  · intro peerId id snapshot last
    rw [log] at last ⊢
    rw [origins, cache]
    obtain ⟨origin, cached, present, kept⟩ :=
      settled.kept peerId id snapshot (last.of_snoc fun id snapshot _ => stores id snapshot)
    refine ⟨origin, cached, present, ?_⟩
    intro service returned
    exact (kept service returned).imp_right fun forgotten => forgotten.snoc event

variable [DecidableEq PeerId]

/-- A refresh is stored that returned no service forgotten since it began. -/
theorem stored (settled : CachedAsForgotten calls state) (began : .began id ∈ state.log)
    (undisturbed : ∀ forget, (calls.forget forget).peerId = calls.peerOf id →
      Before state.log (.began id) (.forgot forget) →
      (∃ service ∈ snapshot.services, service.name = (calls.forget forget).serviceName) →
      ReturnedSince calls state.log forget)
    (cache : next.snapshots.cache =
      Function.update state.snapshots.cache (calls.peerOf id) (some snapshot))
    (origins : next.origins = Function.update state.origins (calls.peerOf id) (some id))
    (log : next.log = state.log ++ [.stored id snapshot]) : CachedAsForgotten calls next := by
  constructor
  · intro forget found forgot cached named
    have earlier : .forgot forget ∈ state.log := by simpa [log] using forgot
    rw [cache] at cached
    rcases of_update cached with same | different
    · obtain rfl := Option.some.inj same.2
      rcases before_or_before earlier began (by simp) with before | after
      · rw [log]
        exact ⟨id, snapshot, same.1.symm, List.mem_append_right _ (List.mem_singleton_self _),
          named, before.snoc _⟩
      · rw [log]
        exact (undisturbed forget same.1 after named).snoc _
    · rw [log]
      exact (settled.forgotten forget found earlier different.2 named).snoc _
  · intro peerId found after last
    rw [log] at last
    rw [origins, cache, log]
    by_cases same : peerId = calls.peerOf id
    · rw [same] at last ⊢
      obtain ⟨sameId, sameSnapshot⟩ := last.of_snoc_stored
      rw [Function.update_self, Function.update_self, sameId, sameSnapshot]
      refine ⟨rfl, snapshot, rfl, ?_⟩
      intro service returned
      exact Or.inl returned
    · rw [Function.update_of_ne same, Function.update_of_ne same]
      have other : ∀ found after, calls.peerOf found = peerId →
          (.stored id snapshot : SnapshotEvent PeerId RefreshId ForgetId) ≠
            .stored found after := by
        intro found after peer event
        rw [SnapshotEvent.stored.injEq] at event
        rw [event.1] at same
        exact same peer.symm
      obtain ⟨origin, cached, present, kept⟩ :=
        settled.kept peerId found after (last.of_snoc other)
      refine ⟨origin, cached, present, ?_⟩
      intro service returned
      exact (kept service returned).imp_right fun forgotten => forgotten.snoc _

/-- The cached snapshot is rewritten without one service. -/
theorem rewritten (settled : CachedAsForgotten calls state)
    (began : ∀ id snapshot, .stored id snapshot ∈ state.log → .began id ∈ state.log)
    {forget : ForgetId} {cached : DeviceServiceSnapshot}
    (present : state.snapshots.cache (calls.forget forget).peerId = some cached)
    (cache : next.snapshots.cache = Function.update state.snapshots.cache
      (calls.forget forget).peerId (some (cached.without (calls.forget forget).serviceName)))
    (origins : next.origins = state.origins)
    (log : next.log = state.log ++ [.forgot forget]) : CachedAsForgotten calls next := by
  constructor
  · intro id found forgot foundCached named
    rw [cache] at foundCached
    rw [log]
    rcases of_update foundCached with same | different
    · obtain rfl := Option.some.inj same.2
      obtain ⟨service, member, name⟩ := named
      rw [DeviceServiceSnapshot.mem_without] at member
      have other : id ≠ forget := by
        intro equal
        rw [equal] at name
        exact member.2 name
      have earlier : .forgot id ∈ state.log := by simpa [log, other] using forgot
      rw [← same.1] at present
      exact (settled.forgotten id cached earlier present ⟨service, member.1, name⟩).snoc _
    · have other : id ≠ forget := by
        intro equal
        rw [equal] at different
        exact different.1 rfl
      have earlier : .forgot id ∈ state.log := by simpa [log, other] using forgot
      exact (settled.forgotten id found earlier different.2 named).snoc _
  · intro peerId id snapshot last
    rw [log] at last
    have before := last.of_snoc (by simp)
    obtain ⟨origin, stored, storedPresent, kept⟩ := settled.kept peerId id snapshot before
    have peer := before.1
    have started := began id snapshot before.mem
    rw [origins, cache, log]
    refine ⟨origin, ?_⟩
    by_cases same : peerId = (calls.forget forget).peerId
    · rw [same, Function.update_self]
      rw [same, present] at storedPresent
      obtain rfl := Option.some.inj storedPresent
      refine ⟨_, rfl, ?_⟩
      intro service returned
      rcases kept service returned with still | gone
      · by_cases named : service.name = (calls.forget forget).serviceName
        · right
          exact ⟨forget, same.symm.trans peer.symm, named.symm,
            before_snoc.mpr (Or.inr ⟨started, rfl⟩)⟩
        · exact Or.inl (DeviceServiceSnapshot.mem_without.mpr ⟨still, named⟩)
      · exact Or.inr (gone.snoc _)
    · rw [Function.update_of_ne same]
      refine ⟨stored, storedPresent, ?_⟩
      intro service returned
      exact (kept service returned).imp_right fun forgotten => forgotten.snoc _

end CachedAsForgotten

end Steps

variable [DecidableEq PeerId] [DecidableEq RefreshId] [DecidableEq ForgetId]

/-- A refresh saves no service forgotten since it began, and a forgetting rewrites the
snapshot that is still the cached one. -/
def SnapshotSystem.Undisturbed (calls : SnapshotCalls PeerId RefreshId ForgetId)
    (state : SnapshotSystem PeerId RefreshId ForgetId) :
    SnapshotStep PeerId RefreshId ForgetId → Prop
  | .save id snapshot outcome => outcome ≠ .failed → ∀ forget,
      (calls.forget forget).peerId = calls.peerOf id →
      Before state.log (.began id) (.forgot forget) →
      (∃ service ∈ snapshot.services, service.name = (calls.forget forget).serviceName) →
      ReturnedSince calls state.log forget
  | .saveWithout id outcome => outcome ≠ .failed → ∀ epoch read,
      state.forgets id = .snapshotRead epoch read →
      state.readOrigins id = state.origins (calls.forget id).peerId ∧
        (state.snapshots.cache (calls.forget id).peerId).map
            (·.without (calls.forget id).serviceName) =
          some (read.without (calls.forget id).serviceName)
  | .remove _ _ => False
  | _ => True

/-- The cache of a run so far, and the log it is read against. -/
structure ForgetHistory (calls : SnapshotCalls PeerId RefreshId ForgetId)
    (state : SnapshotSystem PeerId RefreshId ForgetId) : Prop where
  history : SnapshotHistory calls state
  settled : CachedAsForgotten calls state
  began : ∀ id snapshot, .stored id snapshot ∈ state.log → .began id ∈ state.log

section Runs

variable {calls : SnapshotCalls PeerId RefreshId ForgetId}
  {state next : SnapshotSystem PeerId RefreshId ForgetId}

omit [DecidableEq PeerId] [DecidableEq RefreshId] [DecidableEq ForgetId] in
theorem CachedAsForgotten.start (calls : SnapshotCalls PeerId RefreshId ForgetId)
    (cache : PeerId → Option DeviceServiceSnapshot) :
    CachedAsForgotten calls (SnapshotSystem.start cache) := by
  constructor
  · intro id snapshot impossible
    cases impossible
  · intro peerId id snapshot last
    have impossible := last.mem
    cases impossible

/-- The cache is as it should be after a step that meets the condition. -/
private theorem CachedAsForgotten.step (past : ForgetHistory calls state)
    {action : SnapshotStep PeerId RefreshId ForgetId} (undisturbed : state.Undisturbed calls action)
    (taken : SnapshotSystem.step calls state action = some next) :
    CachedAsForgotten calls next := by
  cases action with
  | begin id =>
      dsimp only [SnapshotSystem.step] at taken
      split at taken
      · cases taken
        exact past.settled.of_quiet (.began id) rfl rfl rfl (by simp) (by simp)
      · cases taken
  | queryFails id =>
      dsimp only [SnapshotSystem.step] at taken
      split at taken
      · cases taken
        exact ⟨past.settled.forgotten, past.settled.kept⟩
      · cases taken
  | save id snapshot outcome =>
      dsimp only [SnapshotSystem.step] at taken
      split at taken
      · next epoch querying =>
          cases taken
          have began := (past.history.querying id epoch querying).1
          by_cases current : state.snapshots.epochs (calls.peerOf id) = epoch
          · by_cases replaced : outcome = .failed
            · rw [replaced, SnapshotSystem.settle_failed current]
              exact ⟨past.settled.forgotten, past.settled.kept⟩
            · rw [SnapshotSystem.settle_stored current replaced]
              exact past.settled.stored began (undisturbed replaced) rfl rfl rfl
          · rw [SnapshotSystem.settle_of_ne current]
            exact past.settled.of_quiet (.rejected id) rfl rfl rfl (by simp) (by simp)
      · cases taken
  | readEpoch id =>
      dsimp only [SnapshotSystem.step] at taken
      split at taken
      · cases taken
        exact ⟨past.settled.forgotten, past.settled.kept⟩
      · cases taken
  | readSnapshot id =>
      dsimp only [SnapshotSystem.step] at taken
      split at taken
      · cases taken
        exact ⟨past.settled.forgotten, past.settled.kept⟩
      · cases taken
  | saveWithout id outcome =>
      dsimp only [SnapshotSystem.step] at taken
      split at taken
      · next epoch read reading =>
          cases taken
          by_cases current : state.snapshots.epochs (calls.forget id).peerId = epoch
          · by_cases replaced : outcome = .failed
            · rw [replaced, SnapshotSystem.settle_failed current]
              exact ⟨past.settled.forgotten, past.settled.kept⟩
            · rw [SnapshotSystem.settle_stored current replaced]
              obtain ⟨origin, same⟩ := undisturbed replaced epoch read reading
              obtain ⟨cached, present, rewritten⟩ := Option.map_eq_some_iff.mp same
              apply past.settled.rewritten past.began present
              · rw [← rewritten]
              · dsimp only
                rw [origin]
                exact Function.update_eq_self _ _
              · rfl
          · rw [SnapshotSystem.settle_of_ne current, List.append_nil]
            exact ⟨past.settled.forgotten, past.settled.kept⟩
      · cases taken
  | remove peerId outcome => exact absurd undisturbed id

omit [DecidableEq RefreshId] [DecidableEq ForgetId] in
private theorem settle_log (peerId : PeerId) (origin : Option RefreshId)
    (stored : SnapshotEvent PeerId RefreshId ForgetId)
    (rejected : List (SnapshotEvent PeerId RefreshId ForgetId)) (epoch : UInt64)
    (snapshot : DeviceServiceSnapshot) (outcome : WriteOutcome) :
    ∃ events, (state.settle peerId origin stored rejected epoch snapshot outcome).log =
      state.log ++ events ∧ ∀ event ∈ events, event ∈ stored :: rejected := by
  by_cases current : state.snapshots.epochs peerId = epoch
  · by_cases replaced : outcome = .failed
    · rw [replaced, SnapshotSystem.settle_failed current]
      exact ⟨[], (List.append_nil _).symm, by simp⟩
    · rw [SnapshotSystem.settle_stored current replaced]
      exact ⟨[stored], rfl, by simp⟩
  · rw [SnapshotSystem.settle_of_ne current]
    exact ⟨rejected, rfl, fun _ => List.mem_cons_of_mem _⟩

/-- The log grows, and a snapshot is stored only by a refresh under way. -/
private theorem step_log {action : SnapshotStep PeerId RefreshId ForgetId}
    (taken : SnapshotSystem.step calls state action = some next) :
    ∃ events, next.log = state.log ++ events ∧ ∀ id snapshot, .stored id snapshot ∈ events →
      ∃ epoch, state.refreshes id = .querying epoch := by
  cases action with
  | begin id =>
      dsimp only [SnapshotSystem.step] at taken
      split at taken
      · cases taken
        exact ⟨[.began id], rfl, by simp⟩
      · cases taken
  | queryFails id =>
      dsimp only [SnapshotSystem.step] at taken
      split at taken
      · cases taken
        exact ⟨[], (List.append_nil _).symm, by simp⟩
      · cases taken
  | save id snapshot outcome =>
      dsimp only [SnapshotSystem.step] at taken
      split at taken
      · next epoch querying =>
          cases taken
          obtain ⟨events, log, only⟩ := settle_log (calls.peerOf id) (some id)
            (.stored id snapshot) [.rejected id] epoch snapshot outcome
          refine ⟨events, log, ?_⟩
          intro other found stored
          have same : other = id ∧ found = snapshot := by simpa using only _ stored
          rw [same.1]
          exact ⟨epoch, querying⟩
      · cases taken
  | readEpoch id =>
      dsimp only [SnapshotSystem.step] at taken
      split at taken
      · cases taken
        exact ⟨[], (List.append_nil _).symm, by simp⟩
      · cases taken
  | readSnapshot id =>
      dsimp only [SnapshotSystem.step] at taken
      split at taken
      · cases taken
        exact ⟨[], (List.append_nil _).symm, by simp⟩
      · cases taken
  | saveWithout id outcome =>
      dsimp only [SnapshotSystem.step] at taken
      split at taken
      · next epoch read reading =>
          cases taken
          obtain ⟨events, log, only⟩ := settle_log (calls.forget id).peerId
            (state.readOrigins id) (.forgot id) [] epoch
            (read.without (calls.forget id).serviceName) outcome
          refine ⟨events, log, ?_⟩
          intro other found stored
          have impossible := only _ stored
          simp at impossible
      · cases taken
  | remove peerId outcome =>
      cases taken
      exact ⟨[_], rfl, by simp⟩

namespace ForgetHistory

omit [DecidableEq PeerId] [DecidableEq RefreshId] [DecidableEq ForgetId] in
theorem start (calls : SnapshotCalls PeerId RefreshId ForgetId)
    (cache : PeerId → Option DeviceServiceSnapshot) :
    ForgetHistory calls (SnapshotSystem.start cache) := by
  refine ⟨SnapshotHistory.start calls cache, CachedAsForgotten.start calls cache, ?_⟩
  intro id snapshot impossible
  cases impossible

theorem step (past : ForgetHistory calls state)
    {action : SnapshotStep PeerId RefreshId ForgetId} (undisturbed : state.Undisturbed calls action)
    (taken : SnapshotSystem.step calls state action = some next) : ForgetHistory calls next := by
  refine ⟨past.history.step taken, CachedAsForgotten.step past undisturbed taken, ?_⟩
  intro id snapshot stored
  obtain ⟨events, log, only⟩ := step_log taken
  rw [log, List.mem_append] at stored ⊢
  rcases stored with before | now
  · exact Or.inl (past.began id snapshot before)
  · obtain ⟨epoch, querying⟩ := only id snapshot now
    exact Or.inl (past.history.querying id epoch querying).1

end ForgetHistory

end Runs

/-- In every run whose steps meet the condition, a forgotten service is cached only when a
refresh that began later returned it, and what the last refresh returned is cached, less
what was forgotten since it began. -/
theorem forgotten_services_stay_forgotten (calls : SnapshotCalls PeerId RefreshId ForgetId)
    (cache : PeerId → Option DeviceServiceSnapshot)
    (schedule : List (SnapshotStep PeerId RefreshId ForgetId))
    (state : SnapshotSystem PeerId RefreshId ForgetId)
    (undisturbed : EveryStep (SnapshotSystem.step calls)
      (fun state action => state.Undisturbed calls action) (SnapshotSystem.start cache) schedule)
    (reached : run (SnapshotSystem.step calls) (SnapshotSystem.start cache) schedule =
      some state) : CachedAsForgotten calls state := by
  apply ForgetHistory.settled
  apply invariant_of_everyStep _ (ForgetHistory.start calls cache) undisturbed reached
  intro before action after past condition taken
  exact past.step condition taken

/-- One peer is refreshed by one call, and another call forgets its service `web`. -/
def oneForget : SnapshotCalls Nat Unit Unit :=
  { peerOf := fun _ => 7, forget := fun _ => { peerId := 7, serviceName := "web" } }

/-- A snapshot with two services. -/
private def webAndMail : DeviceServiceSnapshot :=
  { services := [{ name := "web", endpoints := [] }, { name := "mail", endpoints := [] }] }

/-- A refresh that begins before the service is forgotten saves after it. -/
private def forgetThenRefresh : List (SnapshotStep Nat Unit Unit) :=
  [.readEpoch (), .readSnapshot (), .saveWithout () .written, .begin (),
    .save () webAndMail .written]

theorem forgotten_services_stay_forgotten_then_refreshed :
    ∃ state, run (SnapshotSystem.step oneForget) (SnapshotSystem.start fun _ => some webAndMail)
        forgetThenRefresh = some state ∧ CachedAsForgotten oneForget state := by
  refine ⟨_, rfl, ?_⟩
  apply forgotten_services_stay_forgotten oneForget (fun _ => some webAndMail)
    forgetThenRefresh _ _ rfl
  refine ⟨trivial, ?_⟩
  intro afterEpoch taken
  cases taken
  refine ⟨trivial, ?_⟩
  intro afterSnapshot taken
  cases taken
  refine ⟨?_, ?_⟩
  · intro _ epoch read reading
    cases reading
    exact ⟨rfl, rfl⟩
  intro afterSave taken
  cases taken
  refine ⟨trivial, ?_⟩
  intro afterBegin taken
  cases taken
  refine ⟨?_, ?_⟩
  · intro _ forget _ before
    cases forget
    exact absurd before (by decide)
  intro afterRefresh _
  trivial

/-- The forgotten service comes back with a refresh that began before it was forgotten, and
a forgetting that read its snapshot before a refresh was stored writes that refresh over. -/
theorem forgotten_service_comes_back :
    (∃ state, run (SnapshotSystem.step oneForget) (SnapshotSystem.start fun _ => some webAndMail)
        [.begin (), .readEpoch (), .readSnapshot (), .saveWithout () .written,
          .save () webAndMail .written] = some state ∧
      state.refreshes () = .returned ∧ state.forgets () = .returned ∧
      ¬ CachedAsForgotten oneForget state) ∧
    ∃ state, run (SnapshotSystem.step oneForget)
        (SnapshotSystem.start fun _ => some ⟨[⟨"web", []⟩]⟩)
        [.readEpoch (), .readSnapshot (), .begin (), .save () webAndMail .written,
          .saveWithout () .written] = some state ∧
      state.refreshes () = .returned ∧ state.forgets () = .returned ∧
      state.snapshots.cache 7 = some ⟨[]⟩ ∧ ¬ CachedAsForgotten oneForget state := by
  constructor
  · refine ⟨_, rfl, rfl, rfl, ?_⟩
    intro settled
    obtain ⟨refresh, _, _, _, _, after⟩ :=
      settled.forgotten () webAndMail (by decide) rfl ⟨⟨"web", []⟩, by decide, rfl⟩
    cases refresh
    exact absurd after (by decide)
  · refine ⟨_, rfl, rfl, rfl, rfl, ?_⟩
    intro settled
    obtain ⟨-, cached, present, kept⟩ := settled.kept 7 () webAndMail
      ⟨rfl, [.began ()], [.forgot ()], rfl, by simp⟩
    cases present
    rcases kept ⟨"mail", []⟩ (by decide) with still | ⟨forget, _, named, _⟩
    · cases still
    · cases forget
      exact absurd named (by decide)

end Fungi.Daemon
