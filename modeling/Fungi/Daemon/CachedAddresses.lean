import Mathlib.Data.List.Induction
import Mathlib.Order.Bounds.Basic
import Mathlib.Order.MinMax
import Fungi.Swarm.PeerAddresses

/-!
# Cached addresses

The direct addresses that `hydrate_direct_address_cache` of `crates/daemon/src/daemon.rs` restores
from the cache of `crates/config/src/direct_addresses.rs`.  The cache may hold one address in
several spellings, which all go to one record.
-/

namespace Fungi.Daemon

open Fungi.Swarm

variable {PeerId : Type} [DecidableEq PeerId]

/-- An address in the cache, with how often and when it has been reached. -/
structure DirectAddressEntry where
  address : String
  successCount : UInt64
  firstSuccessAt : SystemTime
  lastSuccessAt : SystemTime
  deriving DecidableEq

/-- One entry of the loop.  `parse` reads the text of a multiaddress. -/
def hydrateEntry (parse : String → Option (Multiaddr PeerId)) (peerId : PeerId)
    (state : PeerAddressBook PeerId) (entry : DirectAddressEntry) : PeerAddressBook PeerId :=
  match parse entry.address with
  | some multiaddr =>
      (state.restorePeerAddressRecord peerId multiaddr .directCache entry.firstSuccessAt
        entry.lastSuccessAt entry.successCount).2
  | none => state

/-- The addresses of one device. -/
def hydrateDevice (parse : String → Option (Multiaddr PeerId)) (peerId : PeerId)
    (state : PeerAddressBook PeerId) (addresses : List DirectAddressEntry) :
    PeerAddressBook PeerId :=
  addresses.foldl (hydrateEntry parse peerId) state

/-! ## Observations -/

/-- What an entry tells of its address. -/
structure Observation where
  firstObservedAt : SystemTime
  lastObservedAt : SystemTime
  observationCount : UInt64
  deriving DecidableEq

/-- A first success after the last one counts as the last one, and no success as one. -/
def DirectAddressEntry.observation (self : DirectAddressEntry) : Observation where
  firstObservedAt := min self.firstSuccessAt self.lastSuccessAt
  lastObservedAt := self.lastSuccessAt
  observationCount := max self.successCount 1

namespace Observation

/-- An observation that is not later than the one before is dropped. -/
def mergeInto (observation : Observation) : Option Observation → Observation
  | none => observation
  | some before =>
      if observation.lastObservedAt ≤ before.lastObservedAt then before
      else
        { firstObservedAt := min before.firstObservedAt observation.firstObservedAt
          lastObservedAt := observation.lastObservedAt
          observationCount := max before.observationCount observation.observationCount }

/-- All that has been observed of one address. -/
def merged (observations : List Observation) : Option Observation :=
  observations.foldl (fun before observation => some (observation.mergeInto before)) none

/-- The record of an address that has been observed. -/
def toRecord (self : Observation) (peerId : PeerId) (address : Multiaddr PeerId) :
    PeerAddressRecord PeerId where
  peerId := peerId
  address := address
  transportKind := addressTransportKind address
  source := .directCache
  firstObservedAt := self.firstObservedAt
  lastObservedAt := self.lastObservedAt
  expiredAt := none
  observationCount := self.observationCount

omit [DecidableEq PeerId] in
theorem toRecord_injective (peerId : PeerId) (address : Multiaddr PeerId) :
    Function.Injective fun observation : Observation => observation.toRecord peerId address := by
  intro left right same
  cases left
  cases right
  simpa [toRecord] using same

theorem merged_snoc (observations : List Observation) (last : Observation) :
    merged (observations ++ [last]) = some (last.mergeInto (merged observations)) := by
  rw [merged, List.foldl_append]
  rfl

end Observation

theorem hydrateEntry_of_parsed {parse : String → Option (Multiaddr PeerId)} {peerId : PeerId}
    {state : PeerAddressBook PeerId} {entry : DirectAddressEntry} {multiaddr : Multiaddr PeerId}
    (parsed : parse entry.address = some multiaddr) :
    hydrateEntry parse peerId state entry =
      (state.restorePeerAddressRecord peerId multiaddr .directCache entry.firstSuccessAt
        entry.lastSuccessAt entry.successCount).2 := by
  simp only [hydrateEntry, parsed]

/-- Entries of one address restore the merge of what they tell. -/
theorem hydrateDevice_eq {parse : String → Option (Multiaddr PeerId)} {peerId : PeerId}
    {normalized : Multiaddr PeerId} {entries : List DirectAddressEntry}
    (sameAddress : ∀ entry ∈ entries, ∃ multiaddr, parse entry.address = some multiaddr ∧
      normalizePeerAddressForSource multiaddr peerId .directCache = some normalized) :
    (hydrateDevice parse peerId PeerAddressBook.empty entries).peerAddressRecords
        (peerId, normalized) =
      (Observation.merged (entries.map DirectAddressEntry.observation)).map fun observation =>
        observation.toRecord peerId normalized := by
  induction entries using List.reverseRecOn with
  | nil => rfl
  | append_singleton read entry inductionHypothesis =>
      obtain ⟨multiaddr, parsed, normalizes⟩ := sameAddress entry (by simp)
      have before := inductionHypothesis fun other member =>
        sameAddress other (List.mem_append_left _ member)
      rw [hydrateDevice, List.foldl_append, List.foldl_cons, List.foldl_nil, ← hydrateDevice,
        hydrateEntry_of_parsed parsed, List.map_append, List.map_cons, List.map_nil,
        Observation.merged_snoc]
      cases merges : Observation.merged (read.map DirectAddressEntry.observation) with
      | none =>
          rw [merges, Option.map_none] at before
          rw [PeerAddressBook.restorePeerAddressRecord_of_none normalizes before]
          exact Function.update_self ..
      | some observation =>
          rw [merges, Option.map_some] at before
          rw [PeerAddressBook.restorePeerAddressRecord_of_some normalizes before, Option.map_some,
            Observation.mergeInto]
          by_cases old : entry.observation.lastObservedAt ≤ observation.lastObservedAt
          · have oldRecord : entry.lastSuccessAt ≤
                (observation.toRecord peerId normalized).lastObservedAt := old
            rw [if_pos old, if_pos oldRecord]
            exact before
          · have laterRecord : ¬ entry.lastSuccessAt ≤
                (observation.toRecord peerId normalized).lastObservedAt := old
            rw [if_neg old, if_neg laterRecord]
            exact Function.update_self ..

/-! ## The merge of all observations -/

namespace Observation

/-- The earliest first time, the latest last time and the largest count of the observations. -/
structure MergesAll (observations : List Observation) (result : Observation) : Prop where
  first : IsLeast {time | ∃ observation ∈ observations, observation.firstObservedAt = time}
    result.firstObservedAt
  last : IsGreatest {time | ∃ observation ∈ observations, observation.lastObservedAt = time}
    result.lastObservedAt
  count : IsGreatest
    {count | ∃ observation ∈ observations, observation.observationCount.toNat = count}
    result.observationCount.toNat

theorem MergesAll.unique {observations : List Observation} {left right : Observation}
    (isLeft : MergesAll observations left) (isRight : MergesAll observations right) :
    left = right := by
  have sameCount := UInt64.toNat_inj.mp (isLeft.count.unique isRight.count)
  have sameFirst := isLeft.first.unique isRight.first
  have sameLast := isLeft.last.unique isRight.last
  cases left
  cases right
  simp_all

/-- The latest observations are also the earliest first, and the most counted. -/
def LatestIsWidest (observations : List Observation) : Prop :=
  ∀ latest ∈ observations,
    (∀ other ∈ observations, other.lastObservedAt ≤ latest.lastObservedAt) →
      ∀ other ∈ observations, latest.firstObservedAt ≤ other.firstObservedAt ∧
        other.observationCount.toNat ≤ latest.observationCount.toNat

/-- What has been merged comes from the observations, and is at least as wide as a latest one. -/
structure Merging (observations : List Observation) (result : Observation) : Prop where
  first : ∃ observation ∈ observations, observation.firstObservedAt = result.firstObservedAt
  count : ∃ observation ∈ observations,
    observation.observationCount.toNat = result.observationCount.toNat
  latest : ∃ latest ∈ observations, latest.lastObservedAt = result.lastObservedAt ∧
    result.firstObservedAt ≤ latest.firstObservedAt ∧
      latest.observationCount.toNat ≤ result.observationCount.toNat
  last : ∀ observation ∈ observations, observation.lastObservedAt ≤ result.lastObservedAt

theorem merged_eq_none {observations : List Observation} :
    merged observations = none ↔ observations = [] := by
  cases observations using List.reverseRecOn with
  | nil => simp [merged]
  | append_singleton read last => simp [merged_snoc]

theorem Merging.single (observation : Observation) : Merging [observation] observation where
  first := ⟨observation, by simp, rfl⟩
  count := ⟨observation, by simp, rfl⟩
  latest := ⟨observation, by simp, rfl, le_rfl, le_rfl⟩
  last := by simp

theorem Merging.next {read : List Observation} {before : Observation}
    (merging : Merging read before) (observation : Observation) :
    Merging (read ++ [observation]) (observation.mergeInto (some before)) := by
  obtain ⟨⟨firstOf, firstMember, first⟩, ⟨countOf, countMember, count⟩,
    ⟨latest, latestMember, isLatest, firstBound, countBound⟩, last⟩ := merging
  rw [mergeInto]
  split
  · next old =>
      refine ⟨⟨firstOf, List.mem_append_left _ firstMember, first⟩,
        ⟨countOf, List.mem_append_left _ countMember, count⟩,
        ⟨latest, List.mem_append_left _ latestMember, isLatest, firstBound, countBound⟩, ?_⟩
      intro other member
      rcases List.mem_append.mp member with early | isNew
      · exact last other early
      · rw [List.mem_singleton.mp isNew]
        exact old
  · next later =>
      have isNew : observation ∈ read ++ [observation] := by simp
      refine ⟨?_, ?_, ⟨observation, isNew, rfl, min_le_right _ _, ?_⟩, ?_⟩
      · rcases min_choice before.firstObservedAt observation.firstObservedAt with isOld | isOwn
        · exact ⟨firstOf, List.mem_append_left _ firstMember, first.trans isOld.symm⟩
        · exact ⟨observation, isNew, isOwn.symm⟩
      · rw [PeerAddressBook.toNat_max]
        rcases max_choice before.observationCount.toNat observation.observationCount.toNat
          with isOld | isOwn
        · exact ⟨countOf, List.mem_append_left _ countMember, count.trans isOld.symm⟩
        · exact ⟨observation, isNew, isOwn.symm⟩
      · rw [PeerAddressBook.toNat_max]
        exact le_max_right _ _
      · intro other member
        rcases List.mem_append.mp member with early | isOwn
        · exact (last other early).trans (not_le.mp later).le
        · rw [List.mem_singleton.mp isOwn]

theorem merging_of_merged {observations : List Observation} {result : Observation}
    (merges : merged observations = some result) : Merging observations result := by
  induction observations using List.reverseRecOn generalizing result with
  | nil => cases merges
  | append_singleton read observation inductionHypothesis =>
      rw [merged_snoc, Option.some.injEq] at merges
      subst merges
      cases before : merged read with
      | none =>
          rw [merged_eq_none.mp before]
          exact Merging.single observation
      | some merging => exact (inductionHypothesis before).next observation

/-- Where the latest observations are the widest, any order merges them all. -/
theorem LatestIsWidest.mergesAll {observations : List Observation}
    (widest : LatestIsWidest observations) {order : List Observation}
    (perm : order.Perm observations) {result : Observation}
    (merges : merged order = some result) : MergesAll observations result := by
  obtain ⟨⟨firstOf, firstMember, first⟩, ⟨countOf, countMember, count⟩,
    ⟨latest, latestMember, isLatest, firstBound, countBound⟩, last⟩ := merging_of_merged merges
  have bounds := widest latest (perm.mem_iff.mp latestMember) fun other member => by
    rw [isLatest]
    exact last other (perm.mem_iff.mpr member)
  refine ⟨⟨⟨firstOf, perm.mem_iff.mp firstMember, first⟩, ?_⟩,
    ⟨⟨latest, perm.mem_iff.mp latestMember, isLatest⟩, ?_⟩,
    ⟨⟨countOf, perm.mem_iff.mp countMember, count⟩, ?_⟩⟩
  · rintro time ⟨other, member, rfl⟩
    exact firstBound.trans (bounds other member).1
  · rintro time ⟨other, member, rfl⟩
    exact last other (perm.mem_iff.mpr member)
  · rintro most ⟨other, member, rfl⟩
    exact (bounds other member).2.trans countBound

/-- A latest observation that comes first keeps every other one out. -/
theorem merged_cons_of_latest {latest : Observation} {others : List Observation}
    (isLatest : ∀ other ∈ others, other.lastObservedAt ≤ latest.lastObservedAt) :
    merged (latest :: others) = some latest := by
  induction others using List.reverseRecOn with
  | nil => rfl
  | append_singleton read other inductionHypothesis =>
      rw [← List.cons_append, merged_snoc, inductionHypothesis fun early member =>
        isLatest early (List.mem_append_left _ member), mergeInto,
        if_pos (isLatest other (by simp))]

theorem MergesAll.latestIsWidest {observations : List Observation} {result : Observation}
    (mergesAll : MergesAll observations result)
    (isResult : ∀ latest ∈ observations,
      (∀ other ∈ observations, other.lastObservedAt ≤ latest.lastObservedAt) → latest = result) :
    LatestIsWidest observations := by
  intro latest member isLatest other otherMember
  obtain rfl := isResult latest member isLatest
  exact ⟨mergesAll.first.2 ⟨other, otherMember, rfl⟩, mergesAll.count.2 ⟨other, otherMember, rfl⟩⟩

end Observation

/-- Every order restores the one record that merges all entries exactly if the latest entries are
also the earliest first and the most counted. -/
theorem restore_order_independent_iff {parse : String → Option (Multiaddr PeerId)}
    {peerId : PeerId} {normalized : Multiaddr PeerId} {entries : List DirectAddressEntry}
    (nonempty : entries ≠ [])
    (sameAddress : ∀ entry ∈ entries, ∃ multiaddr, parse entry.address = some multiaddr ∧
      normalizePeerAddressForSource multiaddr peerId .directCache = some normalized) :
    (∃ result : Observation,
        Observation.MergesAll (entries.map DirectAddressEntry.observation) result ∧
          result.firstObservedAt ≤ result.lastObservedAt ∧
            ∀ order : List DirectAddressEntry, order.Perm entries →
              (hydrateDevice parse peerId PeerAddressBook.empty order).peerAddressRecords
                (peerId, normalized) = some (result.toRecord peerId normalized)) ↔
      Observation.LatestIsWidest (entries.map DirectAddressEntry.observation) := by
  have restored : ∀ order : List DirectAddressEntry, order.Perm entries →
      (hydrateDevice parse peerId PeerAddressBook.empty order).peerAddressRecords
          (peerId, normalized) =
        (Observation.merged (order.map DirectAddressEntry.observation)).map fun observation =>
          observation.toRecord peerId normalized := fun order perm =>
    hydrateDevice_eq fun entry member => sameAddress entry (perm.mem_iff.mp member)
  have merges : ∀ order : List DirectAddressEntry, order.Perm entries →
      ∃ result, Observation.merged (order.map DirectAddressEntry.observation) = some result := by
    intro order perm
    apply Option.ne_none_iff_exists'.mp
    rw [ne_eq, Observation.merged_eq_none, List.map_eq_nil_iff]
    rintro rfl
    exact nonempty perm.nil_eq.symm
  constructor
  · rintro ⟨result, mergesAll, -, everyOrder⟩
    apply mergesAll.latestIsWidest
    intro latest member isLatest
    obtain ⟨entry, entryMember, rfl⟩ := List.mem_map.mp member
    obtain ⟨before, after, rfl⟩ := List.append_of_mem entryMember
    have perm : (entry :: (before ++ after)).Perm (before ++ entry :: after) :=
      List.perm_middle.symm
    have isFirst := everyOrder _ perm
    rw [restored _ perm, List.map_cons, Observation.merged_cons_of_latest, Option.map_some,
      Option.some.injEq] at isFirst
    · exact Observation.toRecord_injective peerId normalized isFirst
    · intro other otherMember
      obtain ⟨otherEntry, isEntry, rfl⟩ := List.mem_map.mp otherMember
      exact isLatest _ (List.mem_map_of_mem (perm.mem_iff.mp (List.mem_cons_of_mem _ isEntry)))
  · intro widest
    obtain ⟨result, merged⟩ := merges entries (List.Perm.refl _)
    have mergesAll := widest.mergesAll (List.Perm.refl _) merged
    refine ⟨result, mergesAll, ?_, fun order perm => ?_⟩
    · obtain ⟨latest, member, isLatest⟩ := mergesAll.last.1
      obtain ⟨entry, -, rfl⟩ := List.mem_map.mp member
      rw [← isLatest]
      exact (mergesAll.first.2 ⟨_, member, rfl⟩).trans (min_le_right _ _)
    · obtain ⟨other, otherMerged⟩ := merges order perm
      rw [restored order perm, otherMerged,
        (widest.mergesAll (perm.map _) otherMerged).unique mergesAll]
      rfl

/-! ## An address in two spellings -/

/-- An address without its peer. -/
def plainSpelling : String := "/ip4/192.168.1.7/tcp/4001"

/-- The same address with its peer. -/
def peerSpelling : String := "/ip4/192.168.1.7/tcp/4001/p2p/7"

/-- Both texts are the same address. -/
def parseLan (text : String) : Option (Multiaddr Nat) :=
  if text = plainSpelling then some [.ip4 0xC0A80107, .tcp 4001]
  else if text = peerSpelling then some PeerAddressBook.lanAddress
  else none

/-- What the cache has of the address under one spelling. -/
def olderEntry : DirectAddressEntry :=
  { address := plainSpelling, successCount := 3, firstSuccessAt := 0, lastSuccessAt := 10 }

/-- What the cache has of it under the other spelling. -/
def laterEntry : DirectAddressEntry :=
  { address := peerSpelling, successCount := 1, firstSuccessAt := 5, lastSuccessAt := 20 }

/-- The later entry is as old and as counted as the other one. -/
def widestEntry : DirectAddressEntry := { laterEntry with successCount := 4, firstSuccessAt := 0 }

theorem restore_order_independent_iff_widest : ∃ result : Observation,
    Observation.MergesAll ([olderEntry, widestEntry].map DirectAddressEntry.observation) result ∧
      result.firstObservedAt ≤ result.lastObservedAt ∧
        ∀ order : List DirectAddressEntry, order.Perm [olderEntry, widestEntry] →
          (hydrateDevice parseLan 7 PeerAddressBook.empty order).peerAddressRecords
            (7, [.ip4 0xC0A80107, .tcp 4001]) =
              some (result.toRecord 7 [.ip4 0xC0A80107, .tcp 4001]) := by
  refine (restore_order_independent_iff (by decide) ?_).mpr ?_
  · intro entry member
    rw [List.mem_cons, List.mem_singleton] at member
    rcases member with rfl | rfl
    · exact ⟨_, rfl, by decide⟩
    · exact ⟨_, rfl, by decide⟩
  · unfold Observation.LatestIsWidest
    decide

/-- An entry that is not later is dropped with its earlier first success and its larger count. -/
theorem restore_depends_on_order :
    [laterEntry, olderEntry].Perm [olderEntry, laterEntry] ∧
      (hydrateDevice parseLan 7 PeerAddressBook.empty [laterEntry, olderEntry]).peerAddressRecords
          (7, [.ip4 0xC0A80107, .tcp 4001]) ≠
        (hydrateDevice parseLan 7 PeerAddressBook.empty [olderEntry, laterEntry]).peerAddressRecords
          (7, [.ip4 0xC0A80107, .tcp 4001]) :=
  ⟨List.Perm.swap .., by decide⟩

end Fungi.Daemon
