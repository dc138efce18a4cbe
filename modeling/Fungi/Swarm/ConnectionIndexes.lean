import Mathlib.Data.List.Nodup
import Fungi.Lib.Run
import Fungi.Swarm.Address

/-!
# The connection registry

The records of `crates/swarm/src/state/registry.rs`: one for each connection, found by its id
and by its peer.  Records are inserted when a connection is established and removed when it is
closed; in between only their governance changes.
-/

namespace Fungi.Swarm

open Fungi.Lib

variable {PeerId : Type}

/-- The number inside a `ConnectionId`, which is also what it prints as. -/
abbrev ConnectionId := Nat

/-- In nanoseconds since the epoch. -/
abbrev SystemTime := Int

/-- Who has opened a connection. -/
inductive ConnectionDirection where
  | inbound
  | outbound
  deriving DecidableEq

/-- What the governor makes of a connection. -/
inductive ConnectionGovernanceState where
  | unknown
  | recommended
  | deprecated
  | closing
  deriving DecidableEq

/-- The state that the governor gives a connection, with its reason and time. -/
structure ConnectionGovernanceInfo where
  state : ConnectionGovernanceState := .unknown
  reason : Option String := none
  changedAt : Option SystemTime := none
  deriving DecidableEq

/-- A connection that is open. -/
structure ConnectionRecord (PeerId : Type) where
  peerId : PeerId
  connectionId : ConnectionId
  direction : ConnectionDirection
  remoteAddr : Multiaddr PeerId
  establishedAt : SystemTime
  governance : ConnectionGovernanceInfo

/-- Whether a connection leads over a relay. -/
def ConnectionRecord.isRelay (self : ConnectionRecord PeerId) : Bool :=
  isCircuitAddr self.remoteAddr

/-- `peers` are the keys of `byPeer`: a peer without connections has no entry. -/
structure ConnectionIndexes (PeerId : Type) where
  byId : ConnectionId → Option (ConnectionRecord PeerId)
  byPeer : PeerId → List ConnectionId
  peers : List PeerId

namespace ConnectionIndexes

/-- No connection is open. -/
def empty : ConnectionIndexes PeerId :=
  { byId := fun _ => none, byPeer := fun _ => [], peers := [] }

/-- The connections to a peer, in the order they were opened. -/
def recordsForPeer (self : ConnectionIndexes PeerId) (peerId : PeerId) :
    List (ConnectionRecord PeerId) :=
  (self.byPeer peerId).filterMap self.byId

/-- What the governor has made of a connection. -/
def connectionGovernanceInfo (self : ConnectionIndexes PeerId) (connectionId : ConnectionId) :
    Option ConnectionGovernanceInfo :=
  (self.byId connectionId).map fun entry => entry.governance

/-- A state is dated when it or its reason changes. -/
def updateGovernance (governance : ConnectionGovernanceInfo) (now : SystemTime)
    (state : ConnectionGovernanceState) (reason : Option String) : ConnectionGovernanceInfo :=
  { state
    reason
    changedAt :=
      if governance.state ≠ state ∨ governance.reason ≠ reason then some now
      else governance.changedAt }

/-- `now` is the time at which the entry is found. -/
def updateConnectionGovernance (self : ConnectionIndexes PeerId) (now : SystemTime)
    (connectionId : ConnectionId) (state : ConnectionGovernanceState) (reason : Option String) :
    ConnectionIndexes PeerId :=
  match self.byId connectionId with
  | some entry =>
      let governance := updateGovernance entry.governance now state reason
      { self with byId := Function.update self.byId connectionId (some { entry with governance }) }
  | none => self

variable [DecidableEq PeerId]

/-- A connection enters all indexes. -/
def insert (self : ConnectionIndexes PeerId) (record : ConnectionRecord PeerId) :
    ConnectionIndexes PeerId :=
  { byId := Function.update self.byId record.connectionId (some record)
    byPeer := Function.update self.byPeer record.peerId
      (self.byPeer record.peerId ++ [record.connectionId])
    peers := if record.peerId ∈ self.peers then self.peers else self.peers ++ [record.peerId] }

/-- A connection leaves all indexes. -/
def remove (self : ConnectionIndexes PeerId) (connectionId : ConnectionId) :
    ConnectionIndexes PeerId :=
  match self.byId connectionId with
  | some record =>
      let connectionIds := (self.byPeer record.peerId).filter fun id => id ≠ connectionId
      { byId := Function.update self.byId connectionId none
        byPeer := Function.update self.byPeer record.peerId connectionIds
        peers := if connectionIds = [] then self.peers.erase record.peerId else self.peers }
  | none => self

/-! ## The two indexes agree -/

/-- The indexes list the same connections, each of them once; `used` are the ids given out. -/
structure Coherent (indexes : ConnectionIndexes PeerId) (used : ConnectionId → Bool) : Prop where
  byId : ∀ {connectionId record}, indexes.byId connectionId = some record →
    record.connectionId = connectionId ∧ connectionId ∈ indexes.byPeer record.peerId ∧
      used connectionId = true
  byPeer : ∀ {peerId connectionId}, connectionId ∈ indexes.byPeer peerId →
    ∃ record, indexes.byId connectionId = some record ∧ record.peerId = peerId
  nodup : ∀ peerId, (indexes.byPeer peerId).Nodup
  peers : ∀ peerId, peerId ∈ indexes.peers ↔ indexes.byPeer peerId ≠ []
  nodupPeers : indexes.peers.Nodup

/-- The connection is in the registry with this peer, if it is there at all. -/
def OnlyOf (indexes : ConnectionIndexes PeerId) (connectionId : ConnectionId) (peerId : PeerId) :
    Prop :=
  ∀ record, indexes.byId connectionId = some record → record.peerId = peerId

omit [DecidableEq PeerId] in
theorem coherent_empty (used : ConnectionId → Bool) :
    Coherent (empty : ConnectionIndexes PeerId) used where
  byId found := by cases found
  byPeer listed := by cases listed
  nodup _ := List.nodup_nil
  peers _ := by simp [empty]
  nodupPeers := List.nodup_nil

omit [DecidableEq PeerId] in
theorem mem_recordsForPeer {self : ConnectionIndexes PeerId} {used : ConnectionId → Bool}
    (coherent : self.Coherent used) {peerId : PeerId} {record : ConnectionRecord PeerId} :
    record ∈ self.recordsForPeer peerId ↔
      self.byId record.connectionId = some record ∧ record.peerId = peerId := by
  unfold recordsForPeer
  rw [List.mem_filterMap]
  constructor
  · intro listed
    obtain ⟨connectionId, member, found⟩ := listed
    obtain ⟨other, foundAgain, ofPeer⟩ := coherent.byPeer member
    rw [found] at foundAgain
    cases foundAgain
    have same := (coherent.byId found).1
    exact ⟨same ▸ found, ofPeer⟩
  · intro both
    obtain ⟨found, rfl⟩ := both
    exact ⟨record.connectionId, (coherent.byId found).2.1, found⟩

omit [DecidableEq PeerId] in
/-- No connection is listed twice for a peer. -/
theorem nodup_recordsForPeer {self : ConnectionIndexes PeerId} {used : ConnectionId → Bool}
    (coherent : self.Coherent used) (peerId : PeerId) :
    ((self.recordsForPeer peerId).map fun record => record.connectionId).Nodup := by
  have ids : (self.recordsForPeer peerId).map (fun record => record.connectionId) =
      self.byPeer peerId := by
    have each : ∀ connectionIds : List ConnectionId,
        (∀ connectionId ∈ connectionIds, connectionId ∈ self.byPeer peerId) →
          (connectionIds.filterMap self.byId).map (fun record => record.connectionId) =
            connectionIds := by
      intro connectionIds listed
      induction connectionIds with
      | nil => rfl
      | cons connectionId rest inductionHypothesis =>
          obtain ⟨record, found, _⟩ := coherent.byPeer (listed connectionId List.mem_cons_self)
          have same := (coherent.byId found).1
          have others := inductionHypothesis
            fun other member => listed other (List.mem_cons_of_mem _ member)
          simp [found, same, others]
    exact each _ fun _ member => member
  rw [ids]
  exact coherent.nodup peerId

/-! ## Updates -/

section Updates

variable {self : ConnectionIndexes PeerId} {used : ConnectionId → Bool}

omit [DecidableEq PeerId] in
@[simp] theorem byPeer_updateConnectionGovernance (now : SystemTime) (connectionId : ConnectionId)
    (state : ConnectionGovernanceState) (reason : Option String) :
    (self.updateConnectionGovernance now connectionId state reason).byPeer = self.byPeer := by
  unfold updateConnectionGovernance
  split <;> rfl

omit [DecidableEq PeerId] in
@[simp] theorem peers_updateConnectionGovernance (now : SystemTime) (connectionId : ConnectionId)
    (state : ConnectionGovernanceState) (reason : Option String) :
    (self.updateConnectionGovernance now connectionId state reason).peers = self.peers := by
  unfold updateConnectionGovernance
  split <;> rfl

omit [DecidableEq PeerId] in
/-- A record found after an update is one from before it, with the governance updated if it is
that of the connection. -/
theorem byId_updateConnectionGovernance {now : SystemTime} {connectionId found : ConnectionId}
    {state : ConnectionGovernanceState} {reason : Option String} :
    (self.updateConnectionGovernance now connectionId state reason).byId found =
      (self.byId found).map fun entry =>
        if found = connectionId then
          { entry with governance := updateGovernance entry.governance now state reason }
        else entry := by
  unfold updateConnectionGovernance
  by_cases same : found = connectionId
  · subst same
    cases entry : self.byId found <;> simp [entry]
  · cases entry : self.byId connectionId with
    | none => simp [same]
    | some record => simp [same]

omit [DecidableEq PeerId] in
theorem coherent_updateConnectionGovernance (coherent : self.Coherent used) (now : SystemTime)
    (connectionId : ConnectionId) (state : ConnectionGovernanceState) (reason : Option String) :
    (self.updateConnectionGovernance now connectionId state reason).Coherent used where
  byId found := by
    rw [byId_updateConnectionGovernance, Option.map_eq_some_iff] at found
    obtain ⟨entry, before, rfl⟩ := found
    have asBefore := coherent.byId before
    rw [byPeer_updateConnectionGovernance]
    split
    · exact asBefore
    · exact asBefore
  byPeer listed := by
    rw [byPeer_updateConnectionGovernance] at listed
    obtain ⟨entry, before, ofPeer⟩ := coherent.byPeer listed
    simp only [byId_updateConnectionGovernance, before, Option.map_some]
    refine ⟨_, rfl, ?_⟩
    split
    · exact ofPeer
    · exact ofPeer
  nodup peerId := by
    rw [byPeer_updateConnectionGovernance]
    exact coherent.nodup peerId
  peers peerId := by
    rw [byPeer_updateConnectionGovernance, peers_updateConnectionGovernance]
    exact coherent.peers peerId
  nodupPeers := by
    rw [peers_updateConnectionGovernance]
    exact coherent.nodupPeers

omit [DecidableEq PeerId] in
theorem onlyOf_updateConnectionGovernance {connectionId : ConnectionId} {peerId : PeerId}
    (only : self.OnlyOf connectionId peerId) (now : SystemTime) (updated : ConnectionId)
    (state : ConnectionGovernanceState) (reason : Option String) :
    (self.updateConnectionGovernance now updated state reason).OnlyOf connectionId peerId := by
  intro record found
  rw [byId_updateConnectionGovernance, Option.map_eq_some_iff] at found
  obtain ⟨entry, before, rfl⟩ := found
  have ofPeer := only entry before
  split
  · exact ofPeer
  · exact ofPeer

theorem coherent_insert (coherent : self.Coherent used) {record : ConnectionRecord PeerId}
    (fresh : used record.connectionId = false) :
    (self.insert record).Coherent (Function.update used record.connectionId true) := by
  have unlisted : ∀ peerId, record.connectionId ∉ self.byPeer peerId := by
    intro peerId listed
    obtain ⟨other, found, _⟩ := coherent.byPeer listed
    have isUsed := (coherent.byId found).2.2
    rw [fresh] at isUsed
    cases isUsed
  constructor
  · intro connectionId found entry
    rcases of_update entry with new | old
    · obtain ⟨rfl, same⟩ := new
      cases same
      simp [insert]
    · obtain ⟨apart, before⟩ := old
      obtain ⟨same, listed, isUsed⟩ := coherent.byId before
      refine ⟨same, ?_, by simpa [apart] using isUsed⟩
      by_cases samePeer : found.peerId = record.peerId
      · simp only [insert, samePeer, Function.update_self, List.mem_append]
        exact Or.inl (samePeer ▸ listed)
      · simpa [insert, samePeer] using listed
  · intro peerId connectionId listed
    have old : ∀ {peerId}, connectionId ∈ self.byPeer peerId →
        ∃ found, (self.insert record).byId connectionId = some found ∧ found.peerId = peerId := by
      intro peerId before
      obtain ⟨found, entry, ofPeer⟩ := coherent.byPeer before
      have apart : connectionId ≠ record.connectionId := by
        intro same
        exact unlisted peerId (same ▸ before)
      exact ⟨found, by simpa [insert, apart] using entry, ofPeer⟩
    by_cases samePeer : peerId = record.peerId
    · subst samePeer
      simp only [insert, Function.update_self, List.mem_append, List.mem_singleton] at listed
      rcases listed with before | rfl
      · exact old before
      · exact ⟨record, by simp [insert], rfl⟩
    · exact old (by simpa [insert, samePeer] using listed)
  · intro peerId
    by_cases samePeer : peerId = record.peerId
    · subst samePeer
      simp only [insert, Function.update_self, ← List.concat_eq_append]
      exact List.Nodup.concat (unlisted _) (coherent.nodup _)
    · simpa [insert, samePeer] using coherent.nodup peerId
  · intro peerId
    have before := coherent.peers peerId
    by_cases samePeer : peerId = record.peerId
    · subst samePeer
      by_cases member : record.peerId ∈ self.peers <;> simp [insert, member]
    · by_cases member : record.peerId ∈ self.peers <;> simp [insert, member, samePeer, before]
  · unfold insert
    split
    · exact coherent.nodupPeers
    · next notMember =>
        show (self.peers ++ [record.peerId]).Nodup
        rw [← List.concat_eq_append]
        exact List.Nodup.concat notMember coherent.nodupPeers

theorem byId_remove (connectionId found : ConnectionId) :
    (self.remove connectionId).byId found =
      if found = connectionId then none else self.byId found := by
  unfold remove
  cases entry : self.byId connectionId with
  | none =>
      by_cases same : found = connectionId
      · simp [same, entry]
      · simp [same]
  | some record => simp [Function.update_apply]

theorem byPeer_remove (coherent : self.Coherent used) (connectionId : ConnectionId)
    (peerId : PeerId) :
    (self.remove connectionId).byPeer peerId =
      (self.byPeer peerId).filter fun id => id ≠ connectionId := by
  have notListed : ∀ other, (∀ record, self.byId connectionId = some record →
      record.peerId ≠ other) → connectionId ∉ self.byPeer other := by
    intro other apart listed
    obtain ⟨record, found, ofPeer⟩ := coherent.byPeer listed
    exact apart record found ofPeer
  have unchanged : ∀ {other}, connectionId ∉ self.byPeer other →
      self.byPeer other = (self.byPeer other).filter fun id => id ≠ connectionId := by
    intro other unlisted
    symm
    apply List.filter_eq_self.mpr
    intro id listed
    simp only [ne_eq, decide_eq_true_eq]
    rintro rfl
    exact unlisted listed
  unfold remove
  cases entry : self.byId connectionId with
  | none =>
      apply unchanged
      apply notListed
      intro record found
      rw [entry] at found
      cases found
  | some record =>
      by_cases samePeer : peerId = record.peerId
      · simp [samePeer]
      · simp only [Function.update_of_ne samePeer]
        apply unchanged
        apply notListed
        intro other found
        rw [entry] at found
        cases found
        exact Ne.symm samePeer

theorem mem_peers_remove (coherent : self.Coherent used) (connectionId : ConnectionId)
    (peerId : PeerId) :
    peerId ∈ (self.remove connectionId).peers ↔
      ((self.byPeer peerId).filter fun id => id ≠ connectionId) ≠ [] := by
  have listed := coherent.peers peerId
  rw [← byPeer_remove coherent]
  unfold remove
  cases entry : self.byId connectionId with
  | none => exact listed
  | some record =>
      by_cases samePeer : peerId = record.peerId
      · subst samePeer
        simp only [Function.update_self]
        by_cases emptied : ((self.byPeer record.peerId).filter fun id => id ≠ connectionId) = []
        · rw [if_pos emptied, emptied]
          simp [coherent.nodupPeers.mem_erase_iff]
        · rw [if_neg emptied, listed]
          have member := (coherent.byId entry).2.1
          exact iff_of_true (List.ne_nil_of_mem member) emptied
      · simp only [Function.update_of_ne samePeer]
        split
        · rw [← listed]
          simp [coherent.nodupPeers.mem_erase_iff, samePeer]
        · exact listed

theorem coherent_remove (coherent : self.Coherent used) (connectionId : ConnectionId) :
    (self.remove connectionId).Coherent used where
  byId {found record} entry := by
    rw [byId_remove] at entry
    rw [byPeer_remove coherent]
    split at entry
    · cases entry
    · next apart =>
        obtain ⟨same, listed, isUsed⟩ := coherent.byId entry
        exact ⟨same, by simpa [apart] using listed, isUsed⟩
  byPeer {peerId found} listed := by
    rw [byPeer_remove coherent, List.mem_filter] at listed
    obtain ⟨record, entry, ofPeer⟩ := coherent.byPeer listed.1
    have apart : found ≠ connectionId := by simpa using listed.2
    exact ⟨record, by rw [byId_remove, if_neg apart, entry], ofPeer⟩
  nodup peerId := by
    rw [byPeer_remove coherent]
    exact (coherent.nodup peerId).filter _
  peers peerId := by
    rw [byPeer_remove coherent]
    exact mem_peers_remove coherent connectionId peerId
  nodupPeers := by
    unfold remove
    split
    · dsimp only
      split
      · exact coherent.nodupPeers.erase _
      · exact coherent.nodupPeers
    · exact coherent.nodupPeers

end Updates

end ConnectionIndexes

end Fungi.Swarm
