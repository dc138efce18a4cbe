import Fungi.Swarm.RelayRuns

/-!
# Wake-ups of the reconcile tasks

An event that makes a relay's peer not ready triggers a reconcile task for it.  While a task of
that peer holds the guard the trigger is dropped, on the assumption that the task sees the new
state.  But a task that has found an endpoint ready looks at nothing any more before it drops the
guard: a peer made not ready in between is left without a task until the next audit.
-/

namespace Fungi.Swarm

open Fungi.Lib

variable {PeerId : Type} [DecidableEq PeerId]

/-! ## Readiness -/

namespace ConnectivityState

theorem relayPeerReady_iff {self : ConnectivityState PeerId} {relayPeerId : PeerId} :
    self.relayPeerReady relayPeerId = true ↔
      ∃ status ∈ self.relayEndpointStatuses,
        status.relayPeerId = some relayPeerId ∧ relayEndpointStatusReady status = true := by
  simp [relayPeerReady]

/-- Every endpoint that was ready still is. -/
def KeepsReady (before after : ConnectivityState PeerId) : Prop :=
  ∀ status ∈ before.relayEndpointStatuses, relayEndpointStatusReady status = true →
    ∃ new ∈ after.relayEndpointStatuses, new.relayPeerId = status.relayPeerId ∧
      relayEndpointStatusReady new = true

omit [DecidableEq PeerId] in
theorem KeepsReady.refl (state : ConnectivityState PeerId) : KeepsReady state state :=
  fun status member ready => ⟨status, member, rfl, ready⟩

omit [DecidableEq PeerId] in
theorem KeepsReady.trans {first second third : ConnectivityState PeerId}
    (before : KeepsReady first second) (after : KeepsReady second third) :
    KeepsReady first third := by
  intro status member ready
  obtain ⟨middle, middleMember, samePeer, middleReady⟩ := before status member ready
  obtain ⟨new, newMember, samePeerAgain, newReady⟩ := after middle middleMember middleReady
  exact ⟨new, newMember, samePeerAgain.trans samePeer, newReady⟩

theorem KeepsReady.relayPeerReady {before after : ConnectivityState PeerId}
    (keeps : KeepsReady before after) {relayPeerId : PeerId}
    (ready : before.relayPeerReady relayPeerId = true) :
    after.relayPeerReady relayPeerId = true := by
  obtain ⟨status, member, ofPeer, statusReady⟩ := relayPeerReady_iff.mp ready
  obtain ⟨new, newMember, samePeer, newReady⟩ := keeps status member statusReady
  exact relayPeerReady_iff.mpr ⟨new, newMember, samePeer.trans ofPeer, newReady⟩

omit [DecidableEq PeerId] in
/-- A change of the statuses one by one. -/
theorem keepsReady_map (self : ConnectivityState PeerId)
    {change : RelayEndpointStatusRecord PeerId → RelayEndpointStatusRecord PeerId}
    (samePeer : ∀ status, (change status).relayPeerId = status.relayPeerId)
    (ready : ∀ status, relayEndpointStatusReady status = true →
      relayEndpointStatusReady (change status) = true) :
    KeepsReady self
      { self with relayEndpointStatuses := self.relayEndpointStatuses.map change } :=
  fun status member statusReady =>
    ⟨change status, List.mem_map_of_mem member, samePeer status, ready status statusReady⟩

theorem keepsReady_modifyAt (self : ConnectivityState PeerId) (relayAddr : Multiaddr PeerId)
    {change : RelayEndpointStatusRecord PeerId → RelayEndpointStatusRecord PeerId}
    (samePeer : ∀ status, (change status).relayPeerId = status.relayPeerId)
    (ready : ∀ status, relayEndpointStatusReady status = true →
      relayEndpointStatusReady (change status) = true) :
    KeepsReady self (self.modifyAt relayAddr change) := by
  apply keepsReady_map
  · intro status
    split
    · exact samePeer status
    · rfl
  · intro status statusReady
    split
    · exact ready status statusReady
    · exact statusReady

omit [DecidableEq PeerId] in
theorem keepsReady_foldl {Item : Type} (items : List Item) (self : ConnectivityState PeerId)
    {change : ConnectivityState PeerId → Item → ConnectivityState PeerId}
    (each : ∀ state item, KeepsReady state (change state item)) :
    KeepsReady self (items.foldl change self) := by
  induction items generalizing self with
  | nil => exact KeepsReady.refl self
  | cons item rest inductionHypothesis =>
      exact (each self item).trans (inductionHypothesis (change self item))

theorem keepsReady_setRelayTaskRunning (self : ConnectivityState PeerId)
    (relayAddr : Multiaddr PeerId) (taskRunning : Bool) :
    KeepsReady self (self.setRelayTaskRunning relayAddr taskRunning) :=
  keepsReady_modifyAt _ _ (fun _ => rfl) fun _ ready => ready

theorem keepsReady_recordRelayManagementAction (self : ConnectivityState PeerId)
    (relayAddr : Multiaddr PeerId) (action : RelayManagementAction) :
    KeepsReady self (self.recordRelayManagementAction relayAddr action) :=
  keepsReady_modifyAt _ _ (fun _ => rfl) fun _ ready => ready

theorem keepsReady_recordRelayManagementError (self : ConnectivityState PeerId)
    (relayAddr : Multiaddr PeerId) (error : String) :
    KeepsReady self (self.recordRelayManagementError relayAddr error) :=
  keepsReady_modifyAt _ _ (fun _ => rfl) fun _ ready => ready

theorem keepsReady_recordRelayListenerCheck (self : ConnectivityState PeerId) (now : SystemTime)
    (relayAddr : Multiaddr PeerId) :
    KeepsReady self (self.recordRelayListenerCheck now relayAddr true) := by
  apply keepsReady_modifyAt
  · exact fun _ => rfl
  · intro status ready
    simp only [relayEndpointStatusReady, Bool.and_eq_true] at ready
    simp [relayEndpointStatusReady, ready.2]

theorem keepsReady_recordRelayConnectionEstablished (self : ConnectivityState PeerId)
    (now : SystemTime) (relayPeerId : PeerId) (connectionId : ConnectionId)
    (remoteAddr : Multiaddr PeerId) :
    KeepsReady self
      (self.recordRelayConnectionEstablished now relayPeerId connectionId remoteAddr) := by
  apply keepsReady_map
  · intro status
    split <;> rfl
  · intro status ready
    simp only [relayEndpointStatusReady, Bool.and_eq_true] at ready
    split
    · simp [relayEndpointStatusReady, ready.1]
    · simp [relayEndpointStatusReady, ready]

theorem keepsReady_recordRelayReservationAccepted (self : ConnectivityState PeerId)
    (now : SystemTime) (relayPeerId : PeerId) (change : RelayManagementAction)
    (directConnections : List RelayDirectConnectionSnapshot) :
    KeepsReady self
      (self.recordRelayReservationAccepted now relayPeerId change directConnections) := by
  have accepted : ∀ connectionId (status : RelayEndpointStatusRecord PeerId),
      (acceptReservation now change connectionId status).relayPeerId = status.relayPeerId ∧
        (relayEndpointStatusReady status = true →
          relayEndpointStatusReady (acceptReservation now change connectionId status) = true) := by
    intro connectionId status
    cases change <;> simp +contextual [acceptReservation, relayEndpointStatusReady]
  apply keepsReady_map
  · intro status
    split
    · split
      · exact (accepted _ status).1
      · rfl
    · rfl
  · intro status ready
    split
    · split
      · exact (accepted _ status).2 ready
      · exact ready
    · exact ready

/-- A status whose address is checked by none of the listener checks stays as it is. -/
theorem mem_foldl_recordRelayListenerCheck {self : ConnectivityState PeerId}
    {matched : List (RelayEndpoint PeerId)} (now : SystemTime) (registered : Bool)
    {status : RelayEndpointStatusRecord PeerId} (member : status ∈ self.relayEndpointStatuses)
    (unmatched : ∀ endpoint ∈ matched, endpoint.addr ≠ status.relayAddr) :
    status ∈ (matched.foldl
      (fun connectivity endpoint =>
        connectivity.recordRelayListenerCheck now endpoint.addr registered)
      self).relayEndpointStatuses := by
  induction matched generalizing self with
  | nil => exact member
  | cons endpoint rest inductionHypothesis =>
      apply inductionHypothesis
      · apply List.mem_map.mpr
        refine ⟨status, member, if_neg ?_⟩
        exact Ne.symm (unmatched endpoint List.mem_cons_self)
      · exact fun other isOther => unmatched other (List.mem_cons_of_mem _ isOther)

end ConnectivityState

/-! ## Wake-ups -/

/-- The task of the peer drops its guard. -/
def RelayStep.drops (peerId : PeerId) : RelayStep PeerId → Bool
  | .taskDrop dropped => dropped = peerId
  | _ => false

namespace RelaySystem

variable {relayPeers : RelayPeers PeerId}

/-- The step looks whether the peer needs a reconcile task. -/
def Wakes (peerId : PeerId) : HandlerStep PeerId → Prop
  | .trigger endpoint _ => endpoint.peerId = some peerId
  | .spawn group => group.peerId = peerId
  | _ => False

instance (peerId : PeerId) : DecidablePred (Wakes peerId)
  | .trigger endpoint _ => inferInstanceAs (Decidable (endpoint.peerId = some peerId))
  | .spawn group => inferInstanceAs (Decidable (group.peerId = peerId))
  | .listenerGone _ _ => isFalse id
  | .managementError _ _ => isFalse id
  | .remove _ => isFalse id

/-- A configured peer made not ready by an event has a task. -/
def Attended (relayPeers : RelayPeers PeerId) (system : RelaySystem PeerId) : Prop :=
  ∀ group ∈ relayPeers.groups, system.lost group.peerId = true →
    (system.tasks group.peerId).isSome = true

/-- Once no event is being handled, nothing waits for the audit. -/
def Awake (relayPeers : RelayPeers PeerId) (system : RelaySystem PeerId) : Prop :=
  system.pending = [] → Attended relayPeers system

/-- A configured peer made not ready by an event has a task or will be looked at. -/
def Covered (relayPeers : RelayPeers PeerId) (system : RelaySystem PeerId) : Prop :=
  ∀ group ∈ relayPeers.groups, system.lost group.peerId = true →
    (∃ step ∈ system.pending, Wakes group.peerId step) ∨
      (system.tasks group.peerId).isSome = true

/-- A task of a configured peer drops its guard only if no event has made the peer not ready
since it was ready last, or if the handler of that event still has to look at the peer. -/
def DropsCovered (relayPeers : RelayPeers PeerId) (system : RelaySystem PeerId)
    (action : RelayStep PeerId) : Prop :=
  ∀ group ∈ relayPeers.groups, action.drops group.peerId = true → system.lost group.peerId = true →
    ∃ step ∈ system.pending, Wakes group.peerId step

instance (system : RelaySystem PeerId) (action : RelayStep PeerId) :
    Decidable (DropsCovered relayPeers system action) :=
  inferInstanceAs (Decidable (∀ _ ∈ _, _))

omit [DecidableEq PeerId] in
theorem Covered.awake {system : RelaySystem PeerId} (covered : Covered relayPeers system) :
    Awake relayPeers system := by
  intro idle group member lost
  rcases covered group member lost with ⟨step, pending, _⟩ | task
  · simp [idle] at pending
  · exact task

/-- What a step other than a drop leaves behind: a peer it makes not ready is looked at, a wake-up
that was to come is still to come or has led to a task, and no task is gone. -/
structure Attends (relayPeers : RelayPeers PeerId) (before next : RelaySystem PeerId)
    (byEvent : Bool) : Prop where
  lost : ∀ group ∈ relayPeers.groups, byEvent = true →
    before.connectivity.relayPeerReady group.peerId = true →
      next.connectivity.relayPeerReady group.peerId = false →
        ∃ step ∈ next.pending, Wakes group.peerId step
  pending : ∀ group ∈ relayPeers.groups, ∀ step ∈ before.pending, Wakes group.peerId step →
    next.connectivity.relayPeerReady group.peerId = false →
      (∃ step ∈ next.pending, Wakes group.peerId step) ∨
        (next.tasks group.peerId).isSome = true
  tasks : ∀ peerId, (before.tasks peerId).isSome = true → (next.tasks peerId).isSome = true

theorem Attends.of_keepsReady {self next : RelaySystem PeerId} {byEvent : Bool}
    (keeps : self.connectivity.KeepsReady next.connectivity)
    (pending : ∀ peerId, ∀ step ∈ self.pending, Wakes peerId step → step ∈ next.pending)
    (tasks : ∀ peerId, (self.tasks peerId).isSome = true → (next.tasks peerId).isSome = true) :
    Attends relayPeers self next byEvent where
  lost group _ _ ready notReady := by
    rw [keeps.relayPeerReady ready] at notReady
    cases notReady
  pending group _ step isPending wakes _ :=
    Or.inl ⟨step, pending group.peerId step isPending wakes, wakes⟩
  tasks := tasks

/-- A step of a task or of the audit may make an endpoint not ready, but it is no event. -/
theorem Attends.of_task {self next : RelaySystem PeerId} (pending : next.pending = self.pending)
    (tasks : ∀ peerId, (self.tasks peerId).isSome = true → (next.tasks peerId).isSome = true) :
    Attends relayPeers self next false where
  lost _ _ byEvent := by cases byEvent
  pending group _ step isPending wakes _ := Or.inl ⟨step, pending ▸ isPending, wakes⟩
  tasks := tasks

theorem isSome_update {tasks : PeerId → Option (ReconcilePhase PeerId)}
    {phase : ReconcilePhase PeerId} (peerId : PeerId) (other : PeerId)
    (task : (tasks other).isSome = true) :
    (Function.update tasks peerId (some phase) other).isSome = true := by
  by_cases same : other = peerId
  · simp [same]
  · simpa [same] using task

@[simp] theorem pending_spawnRelayReconcileTask (self : RelaySystem PeerId)
    (group : RelayPeerGroup PeerId) :
    (self.spawnRelayReconcileTask group).pending = self.pending := by
  unfold spawnRelayReconcileTask
  split <;> rfl

theorem tasks_spawnRelayReconcileTask (self : RelaySystem PeerId)
    (group : RelayPeerGroup PeerId) (peerId : PeerId) :
    ((self.spawnRelayReconcileTask group).tasks peerId).isSome = true ↔
      peerId = group.peerId ∨ (self.tasks peerId).isSome = true := by
  unfold spawnRelayReconcileTask
  split
  · next held =>
      constructor
      · exact Or.inr
      · rintro (rfl | task)
        · simp [held]
        · exact task
  · by_cases same : peerId = group.peerId <;> simp [same]

theorem keepsReady_spawnRelayReconcileTask (self : RelaySystem PeerId)
    (group : RelayPeerGroup PeerId) :
    self.connectivity.KeepsReady (self.spawnRelayReconcileTask group).connectivity := by
  unfold spawnRelayReconcileTask
  split
  · exact ConnectivityState.KeepsReady.refl _
  · apply ConnectivityState.keepsReady_foldl
    intro state _
    exact (state.keepsReady_setRelayTaskRunning _ _).trans
      (ConnectivityState.keepsReady_recordRelayManagementAction _ _ _)

/-- A peer that is not ready without the listener has an endpoint that the listener belongs to. -/
theorem exists_matched {addresses : List (Multiaddr PeerId)} {self : RelaySystem PeerId}
    (sound : Sound (RelayPeers.new addresses) self) {address : Multiaddr PeerId} {peerId : PeerId}
    (ready : self.connectivity.relayPeerReady peerId = true)
    (notReady : (self.recordMatchingRelayListenerState (RelayPeers.new addresses) address
      false).2.connectivity.relayPeerReady peerId = false) :
    ∃ endpoint ∈ (self.recordMatchingRelayListenerState (RelayPeers.new addresses) address
      false).1, endpoint.peerId = some peerId := by
  obtain ⟨status, member, ofPeer, statusReady⟩ := ConnectivityState.relayPeerReady_iff.mp ready
  by_contra none
  have unmatched : ∀ endpoint ∈ (self.recordMatchingRelayListenerState
      (RelayPeers.new addresses) address false).1, endpoint.addr ≠ status.relayAddr := by
    intro endpoint isMatched sameAddr
    apply none
    refine ⟨endpoint, isMatched, ?_⟩
    obtain ⟨configured, _, rfl⟩ := List.mem_map.mp (List.mem_filter.mp isMatched).1
    have same : configured = status.relayAddr := sameAddr
    rw [RelayEndpoint.new, same, ← (sound.statuses status member).relayPeerId, ofPeer]
  have stays := ConnectivityState.mem_foldl_recordRelayListenerCheck self.now false member
    unmatched
  have still := ConnectivityState.relayPeerReady_iff.mpr ⟨status, stays, ofPeer, statusReady⟩
  cases still.symm.trans notReady

/-- The listener of some endpoints is gone, and a trigger follows for each of them. -/
theorem attends_listenerGone {addresses : List (Multiaddr PeerId)} {self : RelaySystem PeerId}
    (sound : Sound (RelayPeers.new addresses) self) (rest : List (HandlerStep PeerId))
    (address : Multiaddr PeerId) (error : Option String)
    (pending : ∀ peerId, ∀ step ∈ self.pending, Wakes peerId step → step ∈ rest) :
    Attends (RelayPeers.new addresses) self
      (self.handle (RelayPeers.new addresses) rest (.listenerGone address error)) true where
  lost group _ _ ready notReady := by
    obtain ⟨endpoint, isMatched, ofPeer⟩ := exists_matched sound ready notReady
    refine ⟨.trigger endpoint .listenerMissingReconcile, ?_, ofPeer⟩
    apply List.mem_append_left
    apply List.mem_flatMap.mpr
    exact ⟨endpoint, isMatched, by simp⟩
  pending group _ step isPending wakes _ := by
    refine Or.inl ⟨step, ?_, wakes⟩
    exact List.mem_append_right _ (pending group.peerId step isPending wakes)
  tasks _ task := task

/-- A trigger that finds its peer not ready leads to a spawn, and a spawn to a task. -/
theorem attends_handle {addresses : List (Multiaddr PeerId)} {self : RelaySystem PeerId}
    (sound : Sound (RelayPeers.new addresses) self) {next : HandlerStep PeerId}
    {rest : List (HandlerStep PeerId)} (isPending : self.pending = next :: rest) :
    Attends (RelayPeers.new addresses) self (self.handle (RelayPeers.new addresses) rest next)
      true := by
  -- a step other than a trigger or a spawn wakes nobody
  have others : (∀ peerId, ¬ Wakes peerId next) →
      ∀ peerId, ∀ step ∈ self.pending, Wakes peerId step → step ∈ rest := by
    intro wakesNobody peerId step inPending wakes
    rw [isPending, List.mem_cons] at inPending
    rcases inPending with rfl | inRest
    · exact absurd wakes (wakesNobody peerId)
    · exact inRest
  cases next with
  | listenerGone address error =>
      exact attends_listenerGone sound rest address error (others fun _ wakes => wakes)
  | managementError endpoint text =>
      apply Attends.of_keepsReady
      · exact self.connectivity.keepsReady_recordRelayManagementError _ _
      · exact others fun _ wakes => wakes
      · exact fun _ task => task
  | remove connectionId =>
      apply Attends.of_keepsReady
      · exact ConnectivityState.KeepsReady.refl _
      · exact others fun _ wakes => wakes
      · exact fun _ task => task
  | spawn group =>
      constructor
      · intro other _ _ ready notReady
        have still := (self.keepsReady_spawnRelayReconcileTask group).relayPeerReady ready
        cases still.symm.trans notReady
      · intro other _ step inPending wakes _
        rw [isPending, List.mem_cons] at inPending
        rcases inPending with rfl | inRest
        · exact Or.inr ((self.tasks_spawnRelayReconcileTask group _).mpr (Or.inl wakes.symm))
        · exact Or.inl ⟨step, inRest, wakes⟩
      · exact fun peerId task =>
          (self.tasks_spawnRelayReconcileTask group peerId).mpr (Or.inr task)
  | trigger endpoint action =>
      unfold RelaySystem.handle
      dsimp only
      split
      · next ready =>
          constructor
          · intro other _ _ wasReady notReady
            cases wasReady.symm.trans notReady
          · intro other _ step inPending wakes notReady
            rw [isPending, List.mem_cons] at inPending
            rcases inPending with rfl | inRest
            · rw [show endpoint.peerId = some other.peerId from wakes] at ready
              have still : self.connectivity.relayPeerReady other.peerId = true := ready
              cases still.symm.trans notReady
            · exact Or.inl ⟨step, inRest, wakes⟩
          · exact fun _ task => task
      · constructor
        · intro other _ _ ready notReady
          have still := (self.connectivity.keepsReady_recordRelayManagementAction
            endpoint.addr action).relayPeerReady ready
          cases still.symm.trans notReady
        · intro other member step inPending wakes _
          rw [isPending, List.mem_cons] at inPending
          rcases inPending with rfl | inRest
          · obtain ⟨found, isFound, samePeer⟩ := RelayPeers.exists_groupForPeer member
            have ofPeer : endpoint.peerId = some other.peerId := wakes
            refine Or.inl ⟨.spawn found, ?_, samePeer⟩
            simp [RelayPeers.groupForEndpoint, ofPeer, isFound]
          · exact Or.inl ⟨step, List.mem_append_right _ inRest, wakes⟩
        · exact fun _ task => task

/-- The connection that closes was the current one of an endpoint, or no endpoint notices. -/
theorem attends_connectionClosed {self next : RelaySystem PeerId} {connectionId : ConnectionId}
    {remoteAddr : Multiaddr PeerId} {cause : Option String} (idle : self.pending = [])
    (taken : self.onEvent relayPeers (.connectionClosed connectionId remoteAddr cause) =
      some next) : Attends relayPeers self next true := by
  have unchanged : ∀ pending : List (HandlerStep PeerId),
      Attends relayPeers self { self with pending } true := by
    intro pending
    apply Attends.of_keepsReady
    · exact ConnectivityState.KeepsReady.refl _
    · simp [idle]
    · exact fun _ task => task
  dsimp only [onEvent] at taken
  split at taken
  · cases taken
  · next record found =>
      split at taken
      · cases taken
      · split at taken
        · cases taken
          exact unchanged _
        · split at taken
          · next endpoint isEndpoint =>
              cases taken
              constructor
              · intro group _ _ ready notReady
                obtain ⟨status, member, ofPeer, statusReady⟩ :=
                  ConnectivityState.relayPeerReady_iff.mp ready
                -- a status that loses nothing would still make the peer ready
                have loses : ConnectivityState.Loses record.peerId connectionId remoteAddr
                    status := by
                  by_contra keeps
                  have stays : status ∈ (self.connectivity.recordRelayConnectionClosed self.now
                      record.peerId connectionId remoteAddr).2.relayEndpointStatuses :=
                    List.mem_map.mpr ⟨status, member, if_neg keeps⟩
                  have still := ConnectivityState.relayPeerReady_iff.mpr
                    ⟨status, stays, ofPeer, statusReady⟩
                  cases still.symm.trans notReady
                refine ⟨.trigger endpoint .directConnectionMissingReconcile, ?_, ?_⟩
                · apply List.mem_append_left
                  have active : (self.connectivity.recordRelayConnectionClosed self.now
                      record.peerId connectionId remoteAddr).1 = true :=
                    List.any_eq_true.mpr ⟨status, member, decide_eq_true loses⟩
                  simp [closedSteps, active]
                · have samePeer : some group.peerId = some record.peerId :=
                    ofPeer.symm.trans loses.1
                  exact (RelayPeers.exists_relayTransportKind_of_endpointFor
                    isEndpoint).1.trans samePeer.symm
              · simp [idle]
              · exact fun _ task => task
          · cases taken
            exact unchanged _

theorem attends_event {addresses : List (Multiaddr PeerId)} {self next : RelaySystem PeerId}
    {event : RelayStep PeerId} (sound : Sound (RelayPeers.new addresses) self)
    (idle : self.pending = [])
    (taken : self.onEvent (RelayPeers.new addresses) event = some next) :
    Attends (RelayPeers.new addresses) self next true := by
  have keeping : ∀ {next : RelaySystem PeerId},
      self.connectivity.KeepsReady next.connectivity → next.tasks = self.tasks →
        Attends (RelayPeers.new addresses) self next true := by
    intro next keeps sameTasks
    apply Attends.of_keepsReady keeps
    · simp [idle]
    · intro peerId task
      rw [sameTasks]
      exact task
  cases event with
  | connectionEstablished record =>
      dsimp only [onEvent] at taken
      split at taken
      · cases taken
      · split at taken
        · cases taken
          exact keeping (ConnectivityState.KeepsReady.refl _) rfl
        · split at taken
          · cases taken
            exact keeping (self.connectivity.keepsReady_recordRelayConnectionEstablished _ _ _ _)
              rfl
          · cases taken
            exact keeping (ConnectivityState.KeepsReady.refl _) rfl
  | connectionClosed connectionId remoteAddr cause => exact attends_connectionClosed idle taken
  | reservationAccepted relayPeerId renewal =>
      cases taken
      exact keeping (self.connectivity.keepsReady_recordRelayReservationAccepted _ _ _ _) rfl
  | newListenAddr addr =>
      dsimp only [onEvent] at taken
      split at taken
      · cases taken
        apply keeping
        · apply ConnectivityState.keepsReady_foldl
          exact fun state endpoint => state.keepsReady_recordRelayListenerCheck _ _
        · rfl
      · split at taken
        · split at taken
          · cases taken
            exact keeping (ConnectivityState.KeepsReady.refl _) rfl
          · cases taken
            exact keeping (ConnectivityState.KeepsReady.refl _) rfl
        · cases taken
          exact keeping (ConnectivityState.KeepsReady.refl _) rfl
  | expiredListenAddr addr =>
      cases taken
      exact attends_listenerGone sound [] addr none (by simp [idle])
  | listenerClosed addresses reason =>
      cases taken
      exact keeping (ConnectivityState.KeepsReady.refl _) rfl
  | _ => cases taken

theorem attends_act {addresses : List (Multiaddr PeerId)} {self next : RelaySystem PeerId}
    {action : RelayStep PeerId} (sound : Sound (RelayPeers.new addresses) self)
    (taken : self.act (RelayPeers.new addresses) action = some next)
    (noDrop : ∀ peerId, action ≠ .taskDrop peerId) :
    Attends (RelayPeers.new addresses) self next action.byEvent := by
  have ofEvent : ∀ event, (if self.pending.isEmpty then
      self.onEvent (RelayPeers.new addresses) event else none) = some next →
        Attends (RelayPeers.new addresses) self next true := by
    intro event arrived
    split at arrived
    · next idle => exact attends_event sound (List.isEmpty_iff.mp idle) arrived
    · cases arrived
  cases action with
  | handle =>
      dsimp only [RelaySystem.act] at taken
      split at taken
      · cases taken
      · next isPending =>
          cases taken
          exact attends_handle sound isPending
  | taskCheck peerId endpoint =>
      dsimp only [RelaySystem.act] at taken
      split at taken
      · split at taken
        · cases taken
          exact Attends.of_task rfl (isSome_update peerId)
        · cases taken
      · cases taken
  | taskListenerCheck peerId endpoint registered =>
      dsimp only [RelaySystem.act] at taken
      split at taken
      · cases taken
        exact Attends.of_task rfl fun _ task => task
      · cases taken
  | taskError peerId endpoint error =>
      dsimp only [RelaySystem.act] at taken
      split at taken
      · cases taken
        exact Attends.of_task rfl fun _ task => task
      · cases taken
  | taskClear peerId =>
      dsimp only [RelaySystem.act] at taken
      split at taken
      · cases taken
        exact Attends.of_task rfl (isSome_update peerId)
      · cases taken
  | taskDrop peerId => exact absurd rfl (noDrop peerId)
  | auditListenerCheck endpoint registered =>
      cases registered with
      | ok registered =>
          cases taken
          exact Attends.of_task rfl fun _ task => task
      | error error =>
          cases taken
          exact Attends.of_task rfl fun _ task => task
  | auditReconcile peerId registered =>
      dsimp only [RelaySystem.act] at taken
      split at taken
      · split at taken
        · cases taken
        · cases taken
          apply Attends.of_task
          · simp
          · intro peerId task
            exact (tasks_spawnRelayReconcileTask _ _ peerId).mpr (Or.inr task)
      · cases taken
  | setClock now =>
      cases taken
      exact Attends.of_task rfl fun _ task => task
  | _ => exact ofEvent _ taken

/-! ## Runs -/

/-- A peer counts as lost only as long as it is not ready. -/
structure Accounted (relayPeers : RelayPeers PeerId) (system : RelaySystem PeerId) : Prop where
  sound : Sound relayPeers system
  lost : ∀ peerId, system.lost peerId = true →
    system.connectivity.relayPeerReady peerId = false

theorem accounted_start (addresses : List (Multiaddr PeerId)) (now : SystemTime) :
    Accounted (RelayPeers.new addresses) (start (RelayPeers.new addresses) now) where
  sound := sound_start addresses now
  lost _ lost := by cases lost

theorem Accounted.step {self next : RelaySystem PeerId} {action : RelayStep PeerId}
    (accounted : Accounted relayPeers self) (taken : self.step relayPeers action = some next) :
    Accounted relayPeers next where
  sound := accounted.sound.step taken
  lost peerId lost := by
    obtain ⟨acted, _, rfl⟩ := Option.map_eq_some_iff.mp taken
    simp only [Bool.and_eq_true, Bool.not_eq_true'] at lost
    exact lost.1

theorem covered_drop_iff {self next : RelaySystem PeerId} {peerId : PeerId}
    (accounted : Accounted relayPeers self) (covered : Covered relayPeers self)
    (taken : self.step relayPeers (.taskDrop peerId) = some next) :
    Covered relayPeers next ↔ DropsCovered relayPeers self (.taskDrop peerId) := by
  obtain ⟨acted, isActed, rfl⟩ := Option.map_eq_some_iff.mp taken
  dsimp only [act] at isActed
  split at isActed
  · cases isActed
    have sameLost : ∀ other, (!self.connectivity.relayPeerReady other && (self.lost other ||
        self.connectivity.relayPeerReady other && (RelayStep.taskDrop peerId).byEvent)) =
          self.lost other := by
      intro other
      have notReady := accounted.lost other
      cases isLost : self.lost other <;> simp_all [RelayStep.byEvent]
    constructor
    · intro after group member isDrop lost
      have same : peerId = group.peerId := by simpa [RelayStep.drops] using isDrop
      subst same
      rcases after group member ((sameLost _).trans lost) with wakes | task
      · exact wakes
      · simp at task
    · intro drops group member lost
      have wasLost := (sameLost group.peerId).symm.trans lost
      by_cases same : group.peerId = peerId
      · exact Or.inl (drops group member (by simp [RelayStep.drops, same]) wasLost)
      · simpa [same] using covered group member wasLost
  · cases isActed

theorem Covered.step {addresses : List (Multiaddr PeerId)} {self next : RelaySystem PeerId}
    {action : RelayStep PeerId} (accounted : Accounted (RelayPeers.new addresses) self)
    (covered : Covered (RelayPeers.new addresses) self)
    (noDrop : ∀ peerId, action ≠ .taskDrop peerId)
    (taken : self.step (RelayPeers.new addresses) action = some next) :
    Covered (RelayPeers.new addresses) next := by
  obtain ⟨acted, isActed, rfl⟩ := Option.map_eq_some_iff.mp taken
  have attends := attends_act accounted.sound isActed noDrop
  intro group member lost
  simp only [Bool.and_eq_true, Bool.or_eq_true, Bool.not_eq_true'] at lost
  obtain ⟨notReady, wasLost | ⟨ready, byEvent⟩⟩ := lost
  · rcases covered group member wasLost with ⟨step, isPending, wakes⟩ | task
    · exact attends.pending group member step isPending wakes notReady
    · exact Or.inr (attends.tasks group.peerId task)
  · exact Or.inl (attends.lost group member byEvent ready notReady)

theorem covered_step_iff {addresses : List (Multiaddr PeerId)} {self next : RelaySystem PeerId}
    {action : RelayStep PeerId} (accounted : Accounted (RelayPeers.new addresses) self)
    (covered : Covered (RelayPeers.new addresses) self)
    (taken : self.step (RelayPeers.new addresses) action = some next) :
    Covered (RelayPeers.new addresses) next ↔
      DropsCovered (RelayPeers.new addresses) self action := by
  by_cases drops : ∃ peerId, action = .taskDrop peerId
  · obtain ⟨peerId, rfl⟩ := drops
    exact covered_drop_iff accounted covered taken
  · apply iff_of_true (covered.step accounted (fun peerId same => drops ⟨peerId, same⟩) taken)
    intro group _ isDrop
    unfold RelayStep.drops at isDrop
    split at isDrop
    · next dropped => exact absurd ⟨dropped, rfl⟩ drops
    · cases isDrop

/-- A run leaves no lost peer unattended and unlooked at exactly if no task drops its guard on
one. -/
theorem covered_iff_dropsCovered (addresses : List (Multiaddr PeerId)) (now : SystemTime)
    {actions : List (RelayStep PeerId)} {final : RelaySystem PeerId}
    (reached : run (step (RelayPeers.new addresses)) (start (RelayPeers.new addresses) now)
      actions = some final) :
    EveryState (step (RelayPeers.new addresses)) (Covered (RelayPeers.new addresses))
        (start (RelayPeers.new addresses) now) actions ↔
      EveryStep (step (RelayPeers.new addresses)) (DropsCovered (RelayPeers.new addresses))
        (start (RelayPeers.new addresses) now) actions := by
  have accountedAfter : ∀ state action next, Accounted (RelayPeers.new addresses) state →
      step (RelayPeers.new addresses) state action = some next →
      Accounted (RelayPeers.new addresses) next :=
    fun state action next accounted taken => accounted.step taken
  apply everyState_iff_everyStep accountedAfter
  · exact fun state action next accounted covered taken =>
      covered_step_iff accounted covered taken
  · exact accounted_start addresses now
  · intro group _ lost
    cases lost
  · exact reached

/-- While no task drops its guard on a lost peer, every lost peer has a task whenever no event is
being handled. -/
theorem awake_of_dropsCovered (addresses : List (Multiaddr PeerId)) (now : SystemTime)
    {actions : List (RelayStep PeerId)}
    (met : EveryStep (step (RelayPeers.new addresses)) (DropsCovered (RelayPeers.new addresses))
      (start (RelayPeers.new addresses) now) actions) :
    EveryState (step (RelayPeers.new addresses)) (Awake (RelayPeers.new addresses))
      (start (RelayPeers.new addresses) now) actions := by
  have kept : ∀ state action next,
      (Accounted (RelayPeers.new addresses) state ∧ Covered (RelayPeers.new addresses) state) →
      DropsCovered (RelayPeers.new addresses) state action →
      step (RelayPeers.new addresses) state action = some next →
      Accounted (RelayPeers.new addresses) next ∧ Covered (RelayPeers.new addresses) next := by
    intro state action next before covers taken
    exact ⟨before.1.step taken, (covered_step_iff before.1 before.2 taken).mpr covers⟩
  apply EveryStep.everyState kept
  · exact fun state invariant => invariant.2.awake
  · refine ⟨accounted_start addresses now, ?_⟩
    intro group _ lost
    cases lost
  · exact met

/-- The carrier of one relay comes up, the listener of its reservation is added, and the task
finds it ready. -/
def untilReady : List (RelayStep Nat) :=
  [.newListenAddr [.ip4 0x01010101, .udp 4001], .handle,
    .connectionEstablished (relayRecord 1 (.udp 4001)),
    .newListenAddr (relayAddress (.udp 4001) ++ [.p2pCircuit]),
    .taskCheck 7 (.new (relayAddress (.udp 4001)))]

/-- The connection closes after the last check of the task, and its trigger finds the guard
still held. -/
theorem dropped_trigger_not_awake :
    let relayPeers := RelayPeers.new [relayAddress (.udp 4001)]
    ∃ final,
      run (step relayPeers) (start relayPeers 0)
          (untilReady ++ [.connectionClosed 1 (relayAddress (.udp 4001)) none, .handle, .handle,
            .handle, .taskClear 7, .taskDrop 7]) = some final ∧
        ¬ Awake relayPeers final := by
  intro relayPeers
  have evaluated : ((run (step relayPeers) (start relayPeers 0)
      (untilReady ++ [.connectionClosed 1 (relayAddress (.udp 4001)) none, .handle, .handle,
        .handle, .taskClear 7, .taskDrop 7])).map fun final =>
          final.pending.isEmpty && final.lost 7 && (final.tasks 7).isNone) = some true := by
    decide +kernel
  obtain ⟨final, reached, facts⟩ := Option.map_eq_some_iff.mp evaluated
  simp only [Bool.and_eq_true, List.isEmpty_iff, Option.isNone_iff_eq_none] at facts
  refine ⟨final, reached, ?_⟩
  intro awake
  have configured : (⟨7, [.new (relayAddress (.udp 4001))]⟩ : RelayPeerGroup Nat) ∈
      relayPeers.groups := List.mem_singleton.mpr rfl
  have task := awake facts.1.1 _ configured facts.1.2
  rw [facts.2] at task
  cases task

/-- A connection that closes after the drop has a task again. -/
theorem awake_of_dropsCovered_demo :
    EveryState (step (RelayPeers.new [relayAddress (.udp 4001)]))
      (Awake (RelayPeers.new [relayAddress (.udp 4001)]))
      (start (RelayPeers.new [relayAddress (.udp 4001)]) 0)
      (untilReady ++ [.taskClear 7, .taskDrop 7,
        .connectionClosed 1 (relayAddress (.udp 4001)) none, .handle, .handle, .handle]) := by
  apply awake_of_dropsCovered
  decide +kernel

end RelaySystem

end Fungi.Swarm
