import Mathlib.Algebra.Ring.Int.Defs
import Mathlib.Data.List.Induction
import Mathlib.Data.String.Basic
import Fungi.Lib.Sorting
import Fungi.Swarm.PeerAddresses

/-!
# Dial plans

The plan by which `crates/swarm/src/libp2p/dial_plan.rs` dials a peer directly: its recorded
addresses in buckets by transport and freshness, each bucket sorted.
-/

namespace Fungi.Swarm

open Fungi.Lib

variable {PeerId : Type}

/-! ## Freshness -/

/-- How recent an address is. -/
inductive AddressFreshness where
  | fresh
  | aging
  | stale
  | expired
  deriving DecidableEq

/-- `Duration::from_secs`, in nanoseconds. -/
def fromSecs (seconds : Int) : Int := seconds * 10 ^ 9

/-- Until which age an address is fresh, and until which it is aging. -/
def freshnessWindows : AddressTransportKind → Int × Int
  | .udp => (fromSecs 90, fromSecs 300)
  | .tcp => (fromSecs 300, fromSecs 900)
  | .relayed => (fromSecs 600, fromSecs 1800)
  | .other => (fromSecs 300, fromSecs 900)

/-- How recent a record is, unless it has expired. -/
def PeerAddressRecord.freshness (self : PeerAddressRecord PeerId) (now : SystemTime) :
    AddressFreshness :=
  if self.expiredAt.isSome then .expired
  else
    -- an observation in the future has no age
    let age := max (now - self.lastObservedAt) 0
    let windows := freshnessWindows self.transportKind
    if age ≤ windows.1 then .fresh else if age ≤ windows.2 then .aging else .stale

/-! ## Plans -/

/-- The transports that are dialled directly. -/
inductive DialCandidateKind where
  | directTcp
  | directUdp
  deriving DecidableEq

/-- An address that may be dialled. -/
structure DialCandidate (PeerId : Type) where
  addr : Multiaddr PeerId
  kind : DialCandidateKind
  source : PeerAddressSource
  freshness : AddressFreshness
  deriving DecidableEq

/-- The addresses to dial for a peer, and how many were left out. -/
structure DialPlan (PeerId : Type) where
  directCandidates : List (DialCandidate PeerId) := []
  staleDirectCandidates : List (DialCandidate PeerId) := []
  skippedExpired : Nat := 0
  skippedNonDirect : Nat := 0
  deriving DecidableEq

/-- The candidate of a record over TCP or UDP. -/
def candidateFromRecord (record : PeerAddressRecord PeerId) (now : SystemTime) :
    Option (DialCandidate PeerId) :=
  let candidate (kind : DialCandidateKind) : DialCandidate PeerId :=
    { addr := record.address, kind, source := record.source, freshness := record.freshness now }
  match record.transportKind with
  | .tcp => some (candidate .directTcp)
  | .udp => some (candidate .directUdp)
  | .relayed | .other => none

/-- Recent addresses come first. -/
def freshnessRank : AddressFreshness → Nat
  | .fresh => 0
  | .aging => 1
  | .stale => 2
  | .expired => 3

/-- The order of the sources. -/
def sourceRank : PeerAddressSource → Nat
  | .mdns => 0
  | .identify => 1
  | .deviceConfig => 2
  | .directCache => 3
  | .manual => 4
  | .relayDerived => 5
  | .autoNat => 6
  | .other => 7

/-- UDP comes before TCP. -/
def kindRank : DialCandidateKind → Nat
  | .directUdp => 0
  | .directTcp => 1

section Texts

variable (peerText : PeerId → String) (text : Multiaddr PeerId → String)

/-- Candidates are ranked by freshness, source, transport and text. -/
def candidatePriority (left right : DialCandidate PeerId) : Ordering :=
  (compare (freshnessRank left.freshness) (freshnessRank right.freshness)).then <|
  (compare (sourceRank left.source) (sourceRank right.source)).then <|
  (compare (kindRank left.kind) (kindRank right.kind)).then <|
  compare (text left.addr) (text right.addr)

/-- `values` are the records in the order in which the map lists them. -/
def listPeerAddresses (values : List (PeerAddressRecord PeerId)) :
    List (PeerAddressRecord PeerId) :=
  values.insertionSort fun left right =>
    (compare (peerText left.peerId) (peerText right.peerId)).then
      (compare (text left.address) (text right.address)) ≠ .gt

namespace DialPlan

section Loop

variable [DecidableEq PeerId]

/-- The body of the loop of `for_peer`. -/
def addRecord (peerId : PeerId) (now : SystemTime) (plan : DialPlan PeerId)
    (record : PeerAddressRecord PeerId) : DialPlan PeerId :=
  if record.peerId ≠ peerId then plan
  else
    match candidateFromRecord record now with
    | none => { plan with skippedNonDirect := plan.skippedNonDirect + 1 }
    | some candidate =>
        match candidate.freshness with
        | .fresh | .aging =>
            { plan with directCandidates := plan.directCandidates ++ [candidate] }
        | .stale =>
            { plan with staleDirectCandidates := plan.staleDirectCandidates ++ [candidate] }
        | .expired => { plan with skippedExpired := plan.skippedExpired + 1 }

/-- The plan for a peer, with both lists in the order of the ranks. -/
def forPeer (values : List (PeerAddressRecord PeerId)) (peerId : PeerId) (now : SystemTime) :
    DialPlan PeerId :=
  let plan := (listPeerAddresses peerText text values).foldl (addRecord peerId now) {}
  let sortBy (candidates : List (DialCandidate PeerId)) : List (DialCandidate PeerId) :=
    candidates.insertionSort fun left right => candidatePriority text left right ≠ .gt
  { plan with
    directCandidates := sortBy plan.directCandidates
    staleDirectCandidates := sortBy plan.staleDirectCandidates }

end Loop

/-- Stale addresses are used only where there are no better ones. -/
def directAddresses (self : DialPlan PeerId) : List (Multiaddr PeerId) :=
  let candidates :=
    if self.directCandidates.isEmpty then self.staleDirectCandidates else self.directCandidates
  candidates.map fun candidate => candidate.addr

end DialPlan

end Texts

/-! ## Buckets -/

/-- Where a record goes in a plan. -/
inductive DialBucket where
  | direct
  | staleDirect
  | expired
  | nonDirect
  deriving DecidableEq

/-- Where a record goes that can be dialled. -/
def bucketOfFreshness : AddressFreshness → DialBucket
  | .fresh | .aging => .direct
  | .stale => .staleDirect
  | .expired => .expired

/-- Where a record goes. -/
def dialBucket (now : SystemTime) (record : PeerAddressRecord PeerId) : DialBucket :=
  match record.transportKind with
  | .tcp | .udp => bucketOfFreshness (record.freshness now)
  | .relayed | .other => .nonDirect

/-- A record as a candidate, where it can be dialled. -/
def directCandidate (now : SystemTime) (record : PeerAddressRecord PeerId) :
    DialCandidate PeerId where
  addr := record.address
  kind := if record.transportKind = .udp then .directUdp else .directTcp
  source := record.source
  freshness := record.freshness now

/-- A record that cannot be dialled is no candidate, and the others go by their freshness. -/
theorem candidateFromRecord_cases (record : PeerAddressRecord PeerId) (now : SystemTime) :
    candidateFromRecord record now = none ∧ dialBucket now record = .nonDirect ∨
      candidateFromRecord record now = some (directCandidate now record) ∧
        dialBucket now record = bucketOfFreshness (record.freshness now) := by
  unfold candidateFromRecord dialBucket directCandidate
  cases record.transportKind with
  | tcp => exact Or.inr ⟨rfl, rfl⟩
  | udp => exact Or.inr ⟨rfl, rfl⟩
  | relayed => exact Or.inl ⟨rfl, rfl⟩
  | other => exact Or.inl ⟨rfl, rfl⟩

/-- The records of a bucket. -/
def inBucket (now : SystemTime) (bucket : DialBucket)
    (records : List (PeerAddressRecord PeerId)) : List (PeerAddressRecord PeerId) :=
  records.filter fun record => dialBucket now record = bucket

theorem inBucket_snoc (now : SystemTime) (bucket : DialBucket)
    (records : List (PeerAddressRecord PeerId)) (record : PeerAddressRecord PeerId) :
    inBucket now bucket (records ++ [record]) =
      if dialBucket now record = bucket then inBucket now bucket records ++ [record]
      else inBucket now bucket records := by
  rw [inBucket, List.filter_append]
  split
  · next same => simp [same, inBucket]
  · next apart => simp [apart, inBucket]

namespace DialPlan

variable [DecidableEq PeerId]

/-- The records in their buckets. -/
def ofBuckets (now : SystemTime) (records : List (PeerAddressRecord PeerId)) : DialPlan PeerId where
  directCandidates := (inBucket now .direct records).map (directCandidate now)
  staleDirectCandidates := (inBucket now .staleDirect records).map (directCandidate now)
  skippedExpired := (inBucket now .expired records).length
  skippedNonDirect := (inBucket now .nonDirect records).length

theorem addRecord_ofBuckets (peerId : PeerId) (now : SystemTime)
    (records : List (PeerAddressRecord PeerId)) {record : PeerAddressRecord PeerId}
    (ofPeer : record.peerId = peerId) :
    addRecord peerId now (ofBuckets now records) record = ofBuckets now (records ++ [record]) := by
  rw [addRecord, if_neg (not_not_intro ofPeer)]
  simp only [ofBuckets, inBucket_snoc]
  rcases candidateFromRecord_cases record now with ⟨isNone, bucket⟩ | ⟨isSome, bucket⟩
  · simp [isNone, bucket]
  · rw [isSome, bucket]
    cases fresh : record.freshness now <;> simp [directCandidate, fresh, bucketOfFreshness]

theorem foldl_addRecord (peerId : PeerId) (now : SystemTime)
    (records : List (PeerAddressRecord PeerId)) :
    records.foldl (addRecord peerId now) {} =
      ofBuckets now (records.filter fun record => record.peerId = peerId) := by
  induction records using List.reverseRecOn with
  | nil => rfl
  | append_singleton records record inductionHypothesis =>
      rw [List.foldl_append, inductionHypothesis, List.foldl_cons, List.foldl_nil,
        List.filter_append]
      by_cases ofPeer : record.peerId = peerId
      · rw [addRecord_ofBuckets peerId now _ ofPeer]
        simp [ofPeer]
      · simp [addRecord, ofPeer]

end DialPlan

/-! ## Order -/

/-- The rank of a candidate as a key. -/
def candidateKey (text : Multiaddr PeerId → String) (candidate : DialCandidate PeerId) :
    ℕ ×ₗ ℕ ×ₗ ℕ ×ₗ String :=
  toLex (freshnessRank candidate.freshness, toLex (sourceRank candidate.source,
    toLex (kindRank candidate.kind, text candidate.addr)))

theorem comparesBy_candidateKey (text : Multiaddr PeerId → String) :
    ComparesBy (fun left right : DialCandidate PeerId => candidatePriority text left right ≠ .gt)
      (candidateKey text) := by
  intro left right
  simp only [candidatePriority, compare_then_ne_gt_iff, compare_le_iff_le, candidateKey,
    Prod.Lex.toLex_le_toLex]

/-- The values of the map, in any order. -/
structure PeerAddressBook.Lists (book : PeerAddressBook PeerId)
    (values : List (PeerAddressRecord PeerId)) : Prop where
  nodup : values.Nodup
  mem_iff : ∀ record, record ∈ values ↔ ∃ key, book.peerAddressRecords key = some record

section Peer

variable [DecidableEq PeerId]

/-- The records of a peer. -/
def ofPeer (peerId : PeerId) (values : List (PeerAddressRecord PeerId)) :
    List (PeerAddressRecord PeerId) :=
  values.filter fun record => record.peerId = peerId

/-- Every record of the peer is in one bucket, and the fresher of the two buckets that are not empty
is dialled. -/
structure SortedPartition (text : Multiaddr PeerId → String)
    (values : List (PeerAddressRecord PeerId)) (peerId : PeerId) (now : SystemTime)
    (plan : DialPlan PeerId) : Prop where
  direct : plan.directCandidates.Perm
    ((inBucket now .direct (ofPeer peerId values)).map (directCandidate now))
  staleDirect : plan.staleDirectCandidates.Perm
    ((inBucket now .staleDirect (ofPeer peerId values)).map (directCandidate now))
  skippedExpired : plan.skippedExpired = (inBucket now .expired (ofPeer peerId values)).length
  skippedNonDirect : plan.skippedNonDirect =
    (inBucket now .nonDirect (ofPeer peerId values)).length
  eachOnce : plan.directCandidates.length + plan.staleDirectCandidates.length +
    plan.skippedExpired + plan.skippedNonDirect = (ofPeer peerId values).length
  dialled : ∀ addr, addr ∈ plan.directAddresses ↔
    ∃ record ∈ values, record.peerId = peerId ∧ record.address = addr ∧
      (dialBucket now record = .direct ∨ dialBucket now record = .staleDirect ∧
        ∀ other ∈ values, other.peerId = peerId → dialBucket now other ≠ .direct)
  inOrder : ∃ candidates, plan.directAddresses = candidates.map (fun candidate => candidate.addr) ∧
    (candidates = plan.directCandidates ∨ candidates = plan.staleDirectCandidates) ∧
      candidates.Pairwise fun left right => candidateKey text left < candidateKey text right

omit [DecidableEq PeerId] in
theorem length_inBucket (now : SystemTime) (records : List (PeerAddressRecord PeerId)) :
    (inBucket now .direct records).length + (inBucket now .staleDirect records).length +
        (inBucket now .expired records).length + (inBucket now .nonDirect records).length =
      records.length := by
  induction records using List.reverseRecOn with
  | nil => rfl
  | append_singleton records record inductionHypothesis =>
      simp only [inBucket_snoc, List.length_append, List.length_singleton]
      cases dialBucket now record <;> simp <;> omega

/-- The candidates of one peer have different keys. -/
theorem nodup_candidateKeys {text : Multiaddr PeerId → String} {book : PeerAddressBook PeerId}
    (keyed : book.Keyed) {values : List (PeerAddressRecord PeerId)} (listed : book.Lists values)
    {peerId : PeerId}
    (lossless : Set.InjOn text {address | ∃ record,
      book.peerAddressRecords (peerId, address) = some record})
    (now : SystemTime) (bucket : DialBucket) :
    (((inBucket now bucket (ofPeer peerId values)).map (directCandidate now)).map
      (candidateKey text)).Nodup := by
  rw [List.map_map]
  have nodup : (inBucket now bucket (ofPeer peerId values)).Nodup :=
    (listed.nodup.filter _).filter _
  have found : ∀ record ∈ inBucket now bucket (ofPeer peerId values),
      book.peerAddressRecords (peerId, record.address) = some record := by
    intro record member
    simp only [inBucket, ofPeer, List.mem_filter, decide_eq_true_eq] at member
    obtain ⟨key, stored⟩ := (listed.mem_iff record).mp member.1.1
    rwa [← member.1.2, (keyed key record stored).keyed]
  apply nodup.map_on
  intro left leftMember right rightMember sameKey
  have sameText := congrArg (fun key => (ofLex (ofLex (ofLex key).2).2).2) sameKey
  have sameAddress :=
    lossless ⟨left, found left leftMember⟩ ⟨right, found right rightMember⟩ sameText
  have leftFound := found left leftMember
  rw [sameAddress, found right rightMember] at leftFound
  exact (Option.some.inj leftFound).symm

theorem perm_inBucket {records values : List (PeerAddressRecord PeerId)}
    (perm : records.Perm values) (peerId : PeerId) (now : SystemTime) (bucket : DialBucket) :
    (inBucket now bucket (ofPeer peerId records)).Perm
      (inBucket now bucket (ofPeer peerId values)) :=
  (perm.filter _).filter _

theorem mem_inBucket {now : SystemTime} {bucket : DialBucket} {peerId : PeerId}
    {values : List (PeerAddressRecord PeerId)} {record : PeerAddressRecord PeerId} :
    record ∈ inBucket now bucket (ofPeer peerId values) ↔
      record ∈ values ∧ record.peerId = peerId ∧ dialBucket now record = bucket := by
  simp only [inBucket, ofPeer, List.mem_filter, decide_eq_true_eq, and_assoc]

/-- A bucket of candidates as the plan sorts it. -/
def sortedBucket (text : Multiaddr PeerId → String) (peerId : PeerId) (now : SystemTime)
    (bucket : DialBucket) (records : List (PeerAddressRecord PeerId)) :
    List (DialCandidate PeerId) :=
  ((inBucket now bucket (ofPeer peerId records)).map (directCandidate now)).insertionSort
    fun left right => candidatePriority text left right ≠ .gt

theorem mem_sortedBucket {text : Multiaddr PeerId → String} {now : SystemTime}
    {bucket : DialBucket} {peerId : PeerId} {values : List (PeerAddressRecord PeerId)}
    {candidate : DialCandidate PeerId} :
    candidate ∈ sortedBucket text peerId now bucket values ↔
      ∃ record ∈ values, record.peerId = peerId ∧ dialBucket now record = bucket ∧
        directCandidate now record = candidate := by
  simp only [sortedBucket, List.mem_insertionSort, List.mem_map, mem_inBucket, and_assoc]

theorem sortedBucket_eq_nil_iff {text : Multiaddr PeerId → String} {now : SystemTime}
    {bucket : DialBucket} {peerId : PeerId} {values : List (PeerAddressRecord PeerId)} :
    sortedBucket text peerId now bucket values = [] ↔
      ∀ record ∈ values, record.peerId = peerId → dialBucket now record ≠ bucket := by
  rw [List.eq_nil_iff_forall_not_mem]
  simp only [mem_sortedBucket]
  constructor
  · intro none record member ofPeer inThis
    exact none _ ⟨record, member, ofPeer, inThis, rfl⟩
  · rintro none candidate ⟨record, member, ofPeer, inThis, -⟩
    exact none record member ofPeer inThis

theorem sortedBucket_eq_of_perm {text : Multiaddr PeerId → String} {book : PeerAddressBook PeerId}
    (keyed : book.Keyed) {values : List (PeerAddressRecord PeerId)} (listed : book.Lists values)
    {peerId : PeerId}
    (lossless : Set.InjOn text {address | ∃ record,
      book.peerAddressRecords (peerId, address) = some record})
    (now : SystemTime) (bucket : DialBucket) {records : List (PeerAddressRecord PeerId)}
    (perm : records.Perm values) :
    sortedBucket text peerId now bucket records = sortedBucket text peerId now bucket values := by
  apply Eq.symm
  apply (comparesBy_candidateKey text).insertionSort_eq_of_perm
  · exact ((perm_inBucket perm peerId now bucket).map _).symm
  · exact nodup_candidateKeys keyed listed lossless now bucket

/-- The plan is the one of the buckets, whatever the order in which the records are listed. -/
theorem forPeer_eq {text : Multiaddr PeerId → String} {book : PeerAddressBook PeerId}
    (keyed : book.Keyed) {values : List (PeerAddressRecord PeerId)} (listed : book.Lists values)
    {peerId : PeerId}
    (lossless : Set.InjOn text {address | ∃ record,
      book.peerAddressRecords (peerId, address) = some record})
    (peerText : PeerId → String) (now : SystemTime) :
    DialPlan.forPeer peerText text values peerId now =
      { directCandidates := sortedBucket text peerId now .direct values
        staleDirectCandidates := sortedBucket text peerId now .staleDirect values
        skippedExpired := (inBucket now .expired (ofPeer peerId values)).length
        skippedNonDirect := (inBucket now .nonDirect (ofPeer peerId values)).length } := by
  have perm : (listPeerAddresses peerText text values).Perm values := List.perm_insertionSort _ _
  rw [DialPlan.forPeer, DialPlan.foldl_addRecord,
    ← sortedBucket_eq_of_perm keyed listed lossless now .direct perm,
    ← sortedBucket_eq_of_perm keyed listed lossless now .staleDirect perm,
    ← (perm_inBucket perm peerId now .expired).length_eq,
    ← (perm_inBucket perm peerId now .nonDirect).length_eq]
  rfl

omit [DecidableEq PeerId] in
theorem directAddresses_eq (plan : DialPlan PeerId) :
    plan.directAddresses =
      (if plan.directCandidates = [] then plan.staleDirectCandidates
        else plan.directCandidates).map fun candidate => candidate.addr := by
  cases direct : plan.directCandidates <;> simp [DialPlan.directAddresses, direct]

theorem sortedPartition_forPeer {text : Multiaddr PeerId → String} {book : PeerAddressBook PeerId}
    (keyed : book.Keyed) {values : List (PeerAddressRecord PeerId)} (listed : book.Lists values)
    {peerId : PeerId}
    (lossless : Set.InjOn text {address | ∃ record,
      book.peerAddressRecords (peerId, address) = some record})
    (peerText : PeerId → String) (now : SystemTime) :
    SortedPartition text values peerId now (DialPlan.forPeer peerText text values peerId now) := by
  have sorted : ∀ bucket, (sortedBucket text peerId now bucket values).Pairwise
      fun left right => candidateKey text left < candidateKey text right := fun bucket =>
    (comparesBy_candidateKey text).pairwise_lt
      (nodup_candidateKeys keyed listed lossless now bucket)
  rw [forPeer_eq keyed listed lossless]
  constructor
  case direct => exact List.perm_insertionSort _ _
  case staleDirect => exact List.perm_insertionSort _ _
  case skippedExpired => rfl
  case skippedNonDirect => rfl
  case eachOnce =>
    rw [← length_inBucket now (ofPeer peerId values)]
    simp only [sortedBucket, List.length_insertionSort, List.length_map]
  case dialled =>
    intro addr
    rw [directAddresses_eq]
    simp only [sortedBucket_eq_nil_iff, List.mem_map]
    split
    · next noDirect =>
        simp only [mem_sortedBucket]
        constructor
        · rintro ⟨candidate, ⟨record, member, ofPeer, isStale, rfl⟩, rfl⟩
          exact ⟨record, member, ofPeer, rfl, Or.inr ⟨isStale, noDirect⟩⟩
        · rintro ⟨record, member, ofPeer, rfl, isDirect | ⟨isStale, -⟩⟩
          · exact absurd isDirect (noDirect record member ofPeer)
          · exact ⟨_, ⟨record, member, ofPeer, isStale, rfl⟩, rfl⟩
    · next someDirect =>
        simp only [mem_sortedBucket]
        constructor
        · rintro ⟨candidate, ⟨record, member, ofPeer, isDirect, rfl⟩, rfl⟩
          exact ⟨record, member, ofPeer, rfl, Or.inl isDirect⟩
        · rintro ⟨record, member, ofPeer, rfl, isDirect | ⟨-, noDirect⟩⟩
          · exact ⟨_, ⟨record, member, ofPeer, isDirect, rfl⟩, rfl⟩
          · exact absurd noDirect someDirect
  case inOrder =>
    rw [directAddresses_eq]
    split
    · exact ⟨_, rfl, Or.inr rfl, sorted .staleDirect⟩
    · exact ⟨_, rfl, Or.inl rfl, sorted .direct⟩

/-- The plan of a peer is a sorted partition of its records, and another history of the same records
comes to the same plan.  A multiaddress is to be told by its text. -/
theorem dialPlan_sortedPartition (peerText : PeerId → String) (text : Multiaddr PeerId → String)
    {actions : List (AddressStep PeerId)} {state : PeerAddressBook PeerId}
    (reached : run PeerAddressBook.step PeerAddressBook.empty actions = some state)
    {values : List (PeerAddressRecord PeerId)} (listed : state.Lists values) (peerId : PeerId)
    (now : SystemTime)
    (lossless : Set.InjOn text {address | ∃ record,
      state.peerAddressRecords (peerId, address) = some record}) :
    SortedPartition text values peerId now (DialPlan.forPeer peerText text values peerId now) ∧
      ∀ otherActions other otherValues,
        run PeerAddressBook.step PeerAddressBook.empty otherActions = some other →
          other.peerAddressRecords = state.peerAddressRecords → other.Lists otherValues →
            DialPlan.forPeer peerText text otherValues peerId now =
              DialPlan.forPeer peerText text values peerId now := by
  have keyed := PeerAddressBook.keyed_of_run reached
  refine ⟨sortedPartition_forPeer keyed listed lossless peerText now, ?_⟩
  intro otherActions other otherValues _ same otherListed
  have listedAgain : state.Lists otherValues :=
    ⟨otherListed.nodup, fun record => by rw [otherListed.mem_iff, same]⟩
  have perm : otherValues.Perm values := by
    rw [List.perm_ext_iff_of_nodup listedAgain.nodup listed.nodup]
    intro record
    rw [listedAgain.mem_iff, listed.mem_iff]
  rw [forPeer_eq keyed listedAgain lossless, forPeer_eq keyed listed lossless,
    sortedBucket_eq_of_perm keyed listed lossless now .direct perm,
    sortedBucket_eq_of_perm keyed listed lossless now .staleDirect perm,
    (perm_inBucket perm peerId now .expired).length_eq,
    (perm_inBucket perm peerId now .nonDirect).length_eq]

end Peer

/-! ## A peer in the local network -/

/-- An address over TCP. -/
def lanTcp : Multiaddr Nat := [.ip4 0xC0A80107, .tcp 4001]

/-- The same host over QUIC. -/
def lanQuic : Multiaddr Nat := [.ip4 0xC0A80107, .udp 4001, .quicV1]

/-- The addresses as texts. -/
def lanText (address : Multiaddr Nat) : String :=
  if address = lanTcp then "/ip4/192.168.1.7/tcp/4001" else "/ip4/192.168.1.7/udp/4001/quic-v1"

/-- One address comes from the peer, and one from the local network. -/
def seenTwice : List (AddressStep Nat) :=
  [.record 7 lanTcp .identify 0, .record 7 lanQuic .mdns 0]

/-- A record of the peer, observed once. -/
def seenRecord (address : Multiaddr Nat) (transportKind : AddressTransportKind)
    (source : PeerAddressSource) : PeerAddressRecord Nat where
  peerId := 7
  address := address
  transportKind := transportKind
  source := source
  firstObservedAt := 0
  lastObservedAt := 0
  expiredAt := none
  observationCount := 1

/-- Two records of the peer. -/
def seenRecords : List (PeerAddressRecord Nat) :=
  [seenRecord lanTcp .tcp .identify, seenRecord lanQuic .udp .mdns]

/-- A book with the two records. -/
def seenBook : PeerAddressBook Nat where
  peerAddressRecords :=
    Function.update
      (Function.update (fun _ => none) (7, lanTcp) (some (seenRecord lanTcp .tcp .identify)))
      (7, lanQuic) (some (seenRecord lanQuic .udp .mdns))
  peerAddressRevision := 2

theorem seenBook_eq_some {key : Nat × Multiaddr Nat} {record : PeerAddressRecord Nat}
    (found : seenBook.peerAddressRecords key = some record) :
    key = (7, lanTcp) ∧ record = seenRecord lanTcp .tcp .identify ∨
      key = (7, lanQuic) ∧ record = seenRecord lanQuic .udp .mdns := by
  rcases of_update found with ⟨rfl, same⟩ | ⟨-, before⟩
  · exact Or.inr ⟨rfl, (Option.some.inj same).symm⟩
  · rcases of_update before with ⟨rfl, same⟩ | ⟨-, nothing⟩
    · exact Or.inl ⟨rfl, (Option.some.inj same).symm⟩
    · cases nothing

theorem seenBook_lists : seenBook.Lists seenRecords where
  nodup := by decide
  mem_iff := fun record => by
    constructor
    · intro member
      simp only [seenRecords, List.mem_cons, List.not_mem_nil, or_false] at member
      rcases member with rfl | rfl
      · exact ⟨(7, lanTcp), rfl⟩
      · exact ⟨(7, lanQuic), rfl⟩
    · rintro ⟨key, found⟩
      rcases seenBook_eq_some found with ⟨-, rfl⟩ | ⟨-, rfl⟩ <;> simp [seenRecords]

theorem dialPlan_sortedPartition_lan :
    SortedPartition lanText seenRecords 7 (fromSecs 60)
      (DialPlan.forPeer toString lanText seenRecords 7 (fromSecs 60)) := by
  have reached : run PeerAddressBook.step PeerAddressBook.empty seenTwice = some seenBook := rfl
  refine (dialPlan_sortedPartition toString lanText reached seenBook_lists 7 (fromSecs 60) ?_).1
  have apart : lanText lanTcp ≠ lanText lanQuic := by decide
  rintro left ⟨leftRecord, leftFound⟩ right ⟨rightRecord, rightFound⟩ sameText
  rcases seenBook_eq_some leftFound with ⟨isLeft, -⟩ | ⟨isLeft, -⟩ <;>
    rcases seenBook_eq_some rightFound with ⟨isRight, -⟩ | ⟨isRight, -⟩ <;>
      obtain rfl := congrArg Prod.snd isLeft <;> obtain rfl := congrArg Prod.snd isRight
  · rfl
  · exact absurd sameText apart
  · exact absurd sameText.symm apart
  · rfl

/-- What the local network announced is dialled before what the peer said of itself. -/
example : (DialPlan.forPeer toString lanText seenRecords 7 (fromSecs 60)).directAddresses =
    [lanQuic, lanTcp] := by decide +kernel

end Fungi.Swarm
