import Fungi.Daemon.DirectAddresses
import Fungi.Lib.Groups

/-!
# Keeping the cache of direct addresses

`spawn_direct_address_cache_sync` of `crates/daemon/src/connectivity.rs`: every tick looks at the
connections that are open, and records the direct addresses that were not open at the tick before.
Texts of peers and of addresses are parameters, and so are the connections each tick finds.
-/

namespace Fungi.Daemon

open Fungi.Lib Fungi.Swarm Std

variable {PeerId : Type}

/-- What a tick finds: the connections, when the addresses of a peer are recorded, and whether
they are saved. -/
structure SyncTick (PeerId : Type) where
  connections : ConnectionIndexes PeerId
  now : String → SystemTime
  save : String → CacheSave

/-- The state of the task, with what the cache file decodes to. -/
structure AddressSync where
  cache : DirectAddressCache
  file : Option DirectAddressCache
  lastSyncedPairs : List (String × String)

/-- The texts of the addresses of each peer. -/
abbrev AddressGroups := ExtTreeMap String (List String) compare

/-- Trimmed, without empty texts, in order and without doubles. -/
def normalizeDirectAddresses (addresses : List String) : List String :=
  (((addresses.filter fun address => trim address ≠ "").map trim).insertionSort (· ≤ ·)).dedup

/-- Each group is normalized on its own. -/
def normalizeDirectAddressGroups (grouped : AddressGroups) : AddressGroups :=
  mapGroups normalizeDirectAddresses grouped

section Texts

variable (peerText : PeerId → String) (text : Multiaddr PeerId → String)

/-- The outbound connections that are not relayed, as pairs of texts. -/
def directConnections (state : ConnectionIndexes PeerId) : List (String × String) :=
  state.peers.flatMap fun peerId =>
    ((state.recordsForPeer peerId).filter fun connection =>
      connection.direction = .outbound ∧ ¬ connection.isRelay).map fun connection =>
        (peerText peerId, text connection.remoteAddr)

/-- The direct addresses of the current connections, by peer. -/
def collectDirectConnectionAddresses (state : ConnectionIndexes PeerId) : AddressGroups :=
  normalizeDirectAddressGroups (groupPairs compare (directConnections peerText text state))

/-- The pairs come out in the order of the set they are collected into. -/
def directAddressPairs (grouped : AddressGroups) : List (String × String) := ungroup grouped

/-- The pairs that are new since the last tick, and the pairs to compare with at the next. -/
def newDirectAddressSuccesses (grouped : AddressGroups) (lastSyncedPairs : List (String × String)) :
    AddressGroups × List (String × String) :=
  let currentPairs := directAddressPairs grouped
  (groupPairs compare (currentPairs.filter (· ∉ lastSyncedPairs)), currentPairs)

namespace AddressSync

/-- The body of the loop over the new addresses of each peer.  A recording that is not saved is
dropped. -/
def recordGroup (tick : SyncTick PeerId) (self : AddressSync) (group : String × List String) :
    AddressSync :=
  match self.cache.recordSuccessfulAddresses (tick.now group.1) group.1 group.2 self.file
      (tick.save group.1) with
  | (some updated, file) => { self with cache := updated, file }
  | (none, file) => { self with file }

/-- A tick records the addresses that were not connected at the last one. -/
def tick (self : AddressSync) (tick : SyncTick PeerId) : AddressSync :=
  let (grouped, lastSyncedPairs) := newDirectAddressSuccesses
    (collectDirectConnectionAddresses peerText text tick.connections) self.lastSyncedPairs
  grouped.toList.foldl (recordGroup tick) { self with lastSyncedPairs }

/-- The task starts with no pair synced. -/
def start (cache : DirectAddressCache) (file : Option DirectAddressCache) : AddressSync :=
  { cache, file, lastSyncedPairs := [] }

/-- Ticks one after the other. -/
def ticks (self : AddressSync) (ticks : List (SyncTick PeerId)) : AddressSync :=
  ticks.foldl (tick peerText text) self

end AddressSync

/-! ## When an address counts -/

/-- The peers and trimmed addresses a tick finds directly connected. -/
def connectedPairs (state : ConnectionIndexes PeerId) : List (String × String) :=
  ((directConnections peerText text state).map fun pair => (pair.1, trim pair.2)).filter
    fun pair => pair.2 ≠ ""

/-- The times at which a pair is recorded: at each tick that finds it connected when the tick
before did not, and that saves it. -/
def recordings (pair : String × String) : Bool → List (SyncTick PeerId) → List SystemTime
  | _, [] => []
  | connectedBefore, tick :: rest =>
      let connected : Bool := pair ∈ connectedPairs peerText text tick.connections
      let later := recordings pair connected rest
      match tick.save pair.1 with
      | .written => if connected && !connectedBefore then tick.now pair.1 :: later else later
      | .failed _ => later

end Texts

/-! ## One tick -/

section Ticks

variable {peerText : PeerId → String} {text : Multiaddr PeerId → String}

theorem mem_normalizeDirectAddresses {addresses : List String} {found : String} :
    found ∈ normalizeDirectAddresses addresses ↔
      ∃ address ∈ addresses, trim address = found ∧ found ≠ "" := by
  rw [normalizeDirectAddresses, List.mem_dedup, List.mem_insertionSort, List.mem_map]
  constructor
  · rintro ⟨address, member, rfl⟩
    obtain ⟨isAddress, visible⟩ := List.mem_filter.mp member
    exact ⟨address, isAddress, rfl, of_decide_eq_true visible⟩
  · rintro ⟨address, isAddress, rfl, visible⟩
    exact ⟨address, List.mem_filter.mpr ⟨isAddress, decide_eq_true visible⟩, rfl⟩

theorem mem_connectedPairs {state : ConnectionIndexes PeerId} {peerId found : String} :
    (peerId, found) ∈ connectedPairs peerText text state ↔
      ∃ address, (peerId, address) ∈ directConnections peerText text state ∧
        trim address = found ∧ found ≠ "" := by
  simp only [connectedPairs, List.mem_filter, List.mem_map, Prod.exists, Prod.mk.injEq,
    decide_eq_true_eq]
  constructor
  · rintro ⟨⟨_, address, member, rfl, rfl⟩, visible⟩
    exact ⟨address, member, rfl, visible⟩
  · rintro ⟨address, member, rfl, visible⟩
    exact ⟨⟨peerId, address, member, rfl, rfl⟩, visible⟩

/-- The grouping keeps exactly the connected pairs. -/
theorem mem_directAddressPairs {state : ConnectionIndexes PeerId} {pair : String × String} :
    pair ∈ directAddressPairs (collectDirectConnectionAddresses peerText text state) ↔
      pair ∈ connectedPairs peerText text state := by
  obtain ⟨peerId, found⟩ := pair
  rw [mem_connectedPairs, directAddressPairs, collectDirectConnectionAddresses,
    normalizeDirectAddressGroups, mem_ungroup_mapGroups]
  constructor
  · rintro ⟨addresses, inGroups, member⟩
    obtain ⟨address, isAddress, trimmed⟩ := mem_normalizeDirectAddresses.mp member
    have connected := (@mem_group_iff _ _ compare _ _ _ _ _ _).mp ⟨addresses, inGroups, isAddress⟩
    exact ⟨address, connected, trimmed⟩
  · rintro ⟨address, connected, trimmed⟩
    obtain ⟨addresses, inGroups, isAddress⟩ :=
      (@mem_group_iff _ _ compare _ _ _ _ _ _).mpr connected
    exact ⟨addresses, inGroups, mem_normalizeDirectAddresses.mpr ⟨address, isAddress, trimmed⟩⟩

/-- Connected addresses are already trimmed. -/
theorem normalize_of_connected {state : ConnectionIndexes PeerId} {peerId address : String}
    (connected : (peerId, address) ∈ connectedPairs peerText text state) :
    trim address = address ∧ address ≠ "" := by
  obtain ⟨raw, -, rfl, visible⟩ := mem_connectedPairs.mp connected
  exact ⟨trim_trim raw, visible⟩

/-- Whether the recordings of a peer are saved. -/
def SyncTick.Saves (self : SyncTick PeerId) (peerId : String) : Bool :=
  match self.save peerId with
  | .written => true
  | .failed _ => false

namespace AddressSync

variable {self : AddressSync} {tick : SyncTick PeerId} {peerId address : String}

theorem find_recordGroup (group : String × List String) :
    (self.recordGroup tick group).cache.find peerId address =
      if peerId = group.1 ∧ tick.Saves group.1 ∧
          address ∈ DirectAddressCache.normalizeAddresses group.2 then
        some (CachedAddressEntry.succeed (tick.now group.1) address
          (self.cache.find peerId address))
      else self.cache.find peerId address := by
  unfold recordGroup DirectAddressCache.recordSuccessfulAddresses SyncTick.Saves
  by_cases nothing : DirectAddressCache.normalizeAddresses group.2 = []
  · simp [nothing]
  · rw [if_neg nothing]
    cases tick.save group.1 with
    | written =>
        dsimp only
        rw [DirectAddressCache.find_recorded]
        simp
    | failed left => simp

/-- The addresses a list of groups records for their peers. -/
def recordedPairs (groups : List (String × List String)) : List (String × String) :=
  groups.flatMap fun group =>
    (DirectAddressCache.normalizeAddresses group.2).map fun address => (group.1, address)

theorem mem_recordedPairs {groups : List (String × List String)} :
    (peerId, address) ∈ recordedPairs groups ↔ ∃ addresses, (peerId, addresses) ∈ groups ∧
      address ∈ DirectAddressCache.normalizeAddresses addresses := by
  simp only [recordedPairs, List.mem_flatMap, List.mem_map, Prod.exists, Prod.mk.injEq]
  constructor
  · rintro ⟨_, addresses, isGroup, _, member, rfl, rfl⟩
    exact ⟨addresses, isGroup, member⟩
  · rintro ⟨addresses, isGroup, member⟩
    exact ⟨peerId, addresses, isGroup, address, member, rfl, rfl⟩

theorem mem_recordedPairs_cons {group : String × List String} {rest : List (String × List String)} :
    (peerId, address) ∈ recordedPairs (group :: rest) ↔
      (peerId = group.1 ∧ address ∈ DirectAddressCache.normalizeAddresses group.2) ∨
        (peerId, address) ∈ recordedPairs rest := by
  rw [recordedPairs, List.flatMap_cons, List.mem_append, List.mem_map]
  simp only [Prod.mk.injEq, recordedPairs]
  constructor
  · rintro (⟨_, member, rfl, rfl⟩ | later)
    · exact Or.inl ⟨rfl, member⟩
    · exact Or.inr later
  · rintro (⟨rfl, member⟩ | later)
    · exact Or.inl ⟨address, member, rfl, rfl⟩
    · exact Or.inr later

theorem find_foldl_recordGroup {groups : List (String × List String)}
    (distinct : (groups.map (·.1)).Nodup) :
    (groups.foldl (recordGroup tick) self).cache.find peerId address =
      if tick.Saves peerId ∧ (peerId, address) ∈ recordedPairs groups then
        some (CachedAddressEntry.succeed (tick.now peerId) address
          (self.cache.find peerId address))
      else self.cache.find peerId address := by
  induction groups generalizing self with
  | nil => simp [recordedPairs]
  | cons group rest inductionHypothesis =>
      obtain ⟨notInRest, distinctRest⟩ := List.nodup_cons.mp distinct
      rw [List.foldl_cons, inductionHypothesis distinctRest, find_recordGroup]
      by_cases same : peerId = group.1
      · subst same
        have absent : (group.1, address) ∉ recordedPairs rest := by
          intro later
          obtain ⟨addresses, member, -⟩ := mem_recordedPairs.mp later
          exact notInRest (List.mem_map.mpr ⟨_, member, rfl⟩)
        simp [mem_recordedPairs_cons, absent]
      · simp [mem_recordedPairs_cons, same]

theorem lastSyncedPairs_foldl_recordGroup (groups : List (String × List String)) :
    (groups.foldl (recordGroup tick) self).lastSyncedPairs = self.lastSyncedPairs := by
  induction groups generalizing self with
  | nil => rfl
  | cons group rest inductionHypothesis =>
      rw [List.foldl_cons, inductionHypothesis]
      unfold recordGroup
      split
      · rfl
      · rfl

theorem mem_lastSyncedPairs_tick {pair : String × String} :
    pair ∈ (self.tick peerText text tick).lastSyncedPairs ↔
      pair ∈ connectedPairs peerText text tick.connections := by
  unfold AddressSync.tick
  rw [lastSyncedPairs_foldl_recordGroup]
  exact mem_directAddressPairs

/-- A tick records the pairs that are connected now and were not at the tick before. -/
theorem mem_recordedPairs_newDirectAddressSuccesses {state : ConnectionIndexes PeerId}
    {lastSyncedPairs : List (String × String)} :
    (peerId, address) ∈ recordedPairs (newDirectAddressSuccesses
        (collectDirectConnectionAddresses peerText text state) lastSyncedPairs).1.toList ↔
      (peerId, address) ∈ connectedPairs peerText text state ∧
        (peerId, address) ∉ lastSyncedPairs := by
  have listed : ∀ found, (∃ addresses, (peerId, addresses) ∈ (newDirectAddressSuccesses
      (collectDirectConnectionAddresses peerText text state)
      lastSyncedPairs).1.toList ∧ found ∈ addresses) ↔
      (peerId, found) ∈ connectedPairs peerText text state ∧
        (peerId, found) ∉ lastSyncedPairs := by
    intro found
    simp only [newDirectAddressSuccesses, mem_toList_iff, mem_group_iff, List.mem_filter,
      mem_directAddressPairs, decide_eq_true_eq]
  rw [mem_recordedPairs]
  constructor
  · rintro ⟨addresses, isGroup, member⟩
    obtain ⟨raw, isAddress, rfl, -⟩ := DirectAddressCache.mem_normalizeAddresses.mp member
    have found := (listed raw).mp ⟨addresses, isGroup, isAddress⟩
    rwa [(normalize_of_connected found.1).1]
  · intro found
    obtain ⟨addresses, isGroup, isAddress⟩ := (listed address).mpr found
    obtain ⟨trimmed, visible⟩ := normalize_of_connected found.1
    exact ⟨addresses, isGroup, DirectAddressCache.mem_normalizeAddresses.mpr
      ⟨address, isAddress, trimmed, visible⟩⟩

/-- A tick counts one more success for each pair that is connected now, was not at the tick before,
and is saved; nothing else changes. -/
theorem find_tick :
    (self.tick peerText text tick).cache.find peerId address =
      if tick.Saves peerId ∧ (peerId, address) ∈ connectedPairs peerText text tick.connections ∧
          (peerId, address) ∉ self.lastSyncedPairs then
        some (CachedAddressEntry.succeed (tick.now peerId) address
          (self.cache.find peerId address))
      else self.cache.find peerId address := by
  unfold AddressSync.tick
  dsimp only
  rw [find_foldl_recordGroup (sortedKeys_toList _).nodup_keys]
  simp only [mem_recordedPairs_newDirectAddressSuccesses]

/-! ## Whole runs of the task -/

/-- The entry of an address is what its recordings make of the entry before. -/
theorem find_ticks (ticks : List (SyncTick PeerId)) :
    (self.ticks peerText text ticks).cache.find peerId address =
      (recordings peerText text (peerId, address) ((peerId, address) ∈ self.lastSyncedPairs)
        ticks).foldl (fun entry now => some (CachedAddressEntry.succeed now address entry))
          (self.cache.find peerId address) := by
  induction ticks generalizing self with
  | nil => rfl
  | cons tick rest inductionHypothesis =>
      have onward := @inductionHypothesis (self.tick peerText text tick)
      rw [find_tick] at onward
      simp only [mem_lastSyncedPairs_tick] at onward
      unfold AddressSync.ticks at onward ⊢
      rw [List.foldl_cons, onward, recordings]
      unfold SyncTick.Saves
      cases tick.save peerId with
      | written =>
          by_cases isNew : (peerId, address) ∈ connectedPairs peerText text tick.connections ∧
              (peerId, address) ∉ self.lastSyncedPairs
          · simp [isNew.1, isNew.2]
          · have notCounted : (decide ((peerId, address) ∈
                connectedPairs peerText text tick.connections) &&
                !decide ((peerId, address) ∈ self.lastSyncedPairs)) = false := by
              simpa using isNew
            simp only [notCounted, isNew, and_false, if_false, Bool.false_eq_true]
      | failed left => simp

end AddressSync

/-- What successes at the given times make of an entry. -/
theorem foldl_succeed (address : String) (before : Option CachedAddressEntry)
    (times : List SystemTime) :
    (times = [] → times.foldl (fun entry now => some (CachedAddressEntry.succeed now address entry))
      before = before) ∧
    ∀ last ∈ times.getLast?, ∃ entry,
      times.foldl (fun entry now => some (CachedAddressEntry.succeed now address entry)) before =
        some entry ∧
      entry.successCount.toNat =
        min (UInt64.size - 1) (before.elim 0 (·.successCount.toNat) + times.length) ∧
      some entry.firstSuccessAt = (before.map (·.firstSuccessAt)).or times.head? ∧
      entry.lastSuccessAt = last := by
  refine ⟨by rintro rfl; rfl, ?_⟩
  induction times using List.reverseRecOn with
  | nil => simp
  | append_singleton earlier now inductionHypothesis =>
      intro last isLast
      rw [List.getLast?_concat, Option.mem_def, Option.some.injEq] at isLast
      subst isLast
      rw [List.foldl_append, List.foldl_cons, List.foldl_nil]
      refine ⟨_, rfl, ?_⟩
      cases shape : earlier.getLast? with
      | none =>
          rw [List.getLast?_eq_none_iff] at shape
          subst shape
          cases before with
          | none => exact ⟨rfl, rfl, rfl⟩
          | some entry => exact ⟨toNat_saturatingSucc _, rfl, rfl⟩
      | some previous =>
          obtain ⟨entry, found, count, first, -⟩ := inductionHypothesis previous shape
          rw [found]
          refine ⟨?_, ?_, rfl⟩
          · have counted := toNat_saturatingSucc entry.successCount
            rw [count] at counted
            rw [List.length_append, List.length_singleton]
            exact counted.trans (by omega)
          · obtain ⟨time, rest, rfl⟩ := List.exists_cons_of_ne_nil
              (List.ne_nil_of_mem (List.mem_of_getLast? shape))
            exact first

/-- Over every run of the task, whatever connections its ticks find and whichever saves fail, an
address counts one success for each tick that finds it newly connected and saves it: its count
grows by that many (up to the largest count), its first success stays, and its last success is
the last of these ticks. -/
theorem cached_successes_of_ticks (peerText : PeerId → String) (text : Multiaddr PeerId → String)
    (cache : DirectAddressCache) (file : Option DirectAddressCache) (ticks : List (SyncTick PeerId))
    (peerId address : String) :
    let times := recordings peerText text (peerId, address) false ticks
    let before := cache.find peerId address
    let after :=
      ((AddressSync.start cache file).ticks peerText text ticks).cache.find peerId address
    (times = [] → after = before) ∧
      ∀ last ∈ times.getLast?, ∃ entry, after = some entry ∧
        entry.successCount.toNat =
          min (UInt64.size - 1) (before.elim 0 (·.successCount.toNat) + times.length) ∧
        some entry.firstSuccessAt = (before.map (·.firstSuccessAt)).or times.head? ∧
        entry.lastSuccessAt = last := by
  intro times before after
  have whole : after = times.foldl
      (fun entry now => some (CachedAddressEntry.succeed now address entry)) before :=
    AddressSync.find_ticks ticks
  rw [whole]
  exact foldl_succeed address before times

end Ticks

end Fungi.Daemon
