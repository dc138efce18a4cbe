import Fungi.Lib.Fallible
import Fungi.Lib.Text
import Fungi.Runtime.Model
import Mathlib.Data.List.Sort
import Mathlib.Data.String.Basic

/-!
# Local preferences

`LocalPreferenceCache` of `crates/config/src/local_preferences.rs`: the local address that
each entry of a remote service has been given.  The JSON file is modelled by the records
it decodes to, or by nothing when it does not decode.
-/

namespace Fungi.Config

open Fungi.Lib Fungi.Runtime

/-- Whether the local port was chosen by the daemon or asked for by the user. -/
inductive LocalPortSource where
  | auto
  | user
  deriving DecidableEq

/-- The local address at which one endpoint of a remote service is reached. -/
structure LocalServicePreference where
  remotePeerId : String
  remoteServiceName : String
  remoteServicePortName : String
  localHost : String
  localPort : UInt16
  localPortSource : LocalPortSource
  deriving DecidableEq

/-- Outcome of the `std::fs::write` of one save.  A write that fails after the file was
opened leaves it cut short, and so no JSON document. -/
inductive PreferenceSave where
  | written
  | refused
  | cutShort
  deriving DecidableEq

namespace LocalServicePreference

/-- The entry of a remote service that a record is about. -/
def identity (self : LocalServicePreference) : String × String × String :=
  (self.remotePeerId, self.remoteServiceName, self.remoteServicePortName)

/-- The local address that the record reserves. -/
def address (self : LocalServicePreference) : String × UInt16 :=
  (self.localHost, self.localPort)

/-- A field with nothing but whitespace in it is refused. -/
def validateNonEmpty (field value : String) : Except Error Unit :=
  if value.toList.all isWhitespace then .error (.message s!"{field} must not be empty") else .ok ()

/-- The checks that a record passes before it is saved. -/
def validate (self : LocalServicePreference) : Except Error Unit := do
  validateNonEmpty "remote_peer_id" self.remotePeerId
  validateNonEmpty "remote_service_name" self.remoteServiceName
  validateNonEmpty "remote_service_port_name" self.remoteServicePortName
  validateNonEmpty "local_host" self.localHost
  if self.localPort = 0 then .error (.message "local_port must be greater than 0") else .ok ()

/-- The order of `sort_records`. -/
def compare (left right : LocalServicePreference) : Ordering :=
  (Ord.compare left.remotePeerId right.remotePeerId).then <|
  (Ord.compare left.remoteServiceName right.remoteServiceName).then <|
  (Ord.compare left.remoteServicePortName right.remoteServicePortName).then <|
  (Ord.compare left.localHost right.localHost).then <|
  Ord.compare left.localPort right.localPort

end LocalServicePreference

/-- The records of `LocalPreferenceCache`. -/
abbrev LocalPreferenceCache := List LocalServicePreference

namespace LocalPreferenceCache

/-- The record of an endpoint. -/
def findRecord (self : LocalPreferenceCache) (identity : String × String × String) :
    Option LocalServicePreference :=
  self.find? (·.identity = identity)

/-- Whether the record of another endpoint has reserved the local address. -/
def localPortUsedByOtherRecord (self : LocalPreferenceCache) (record : LocalServicePreference) :
    Bool :=
  self.any fun existing => existing.address = record.address ∧ existing.identity ≠ record.identity

/-- Replace the first record of the same identity, or append a new one. -/
def replaceOrPush (record : LocalServicePreference) : LocalPreferenceCache → LocalPreferenceCache
  | [] => [record]
  | existing :: rest =>
      if existing.identity = record.identity then record :: rest
      else existing :: replaceOrPush record rest

/-- Records are saved in the order of their identities. -/
def sortRecords (self : LocalPreferenceCache) : LocalPreferenceCache :=
  List.insertionSort (fun left right => left.compare right ≠ .gt) self

/-- The records with one added or replaced, unless it is invalid or its address is taken. -/
def withUpsertedRecord (self : LocalPreferenceCache) (record : LocalServicePreference) :
    Except Error LocalPreferenceCache := do
  record.validate
  if self.localPortUsedByOtherRecord record then
    .error
      (.message s!"local port is already reserved by another local address: {record.localPort}")
  else .ok (sortRecords (replaceOrPush record self))

/-- The `retain` of `remove_service_records`. -/
def withoutService (self : LocalPreferenceCache) (remotePeerId remoteServiceName : String) :
    LocalPreferenceCache :=
  self.filter fun record =>
    ¬ (record.remotePeerId = remotePeerId ∧ record.remoteServiceName = remoteServiceName)

/-- The `retain` of `remove_device_records`. -/
def withoutDevice (self : LocalPreferenceCache) (remotePeerId : String) : LocalPreferenceCache :=
  self.filter (·.remotePeerId ≠ remotePeerId)

/-- What a save of the records leaves in the file, and whether it succeeds. -/
def saveToFile (self : LocalPreferenceCache) (file : Option LocalPreferenceCache)
    (outcome : PreferenceSave) : Bool × Option LocalPreferenceCache :=
  match outcome with
  | .written => (true, some self)
  | .refused => (false, file)
  | .cutShort => (false, none)

/-- Records apart: no identity and no local address is saved twice. -/
structure Apart (records : LocalPreferenceCache) : Prop where
  identities : (records.map (·.identity)).Nodup
  addresses : (records.map (·.address)).Nodup

/-- Records that the upsert operation built from none. -/
inductive Built : LocalPreferenceCache → Prop where
  | empty : Built []
  | upserted {records next : LocalPreferenceCache} {record : LocalServicePreference} :
      Built records → withUpsertedRecord records record = .ok next → Built next

/-- Records that pass their check, apart and in order. -/
structure Valid (records : LocalPreferenceCache) : Prop where
  validate : ∀ record ∈ records, record.validate = .ok ()
  apart : Apart records
  sorted : records.Pairwise fun left right => left.compare right ≠ .gt

section Specs

variable {self next : LocalPreferenceCache} {record found : LocalServicePreference}
  {identity : String × String × String}

/-- The new record takes the place of the one of its identity. -/
theorem replaceOrPush_perm (record : LocalServicePreference)
    (identities : (self.map (·.identity)).Nodup) :
    (replaceOrPush record self).Perm (record :: self.filter (·.identity ≠ record.identity)) := by
  induction self with
  | nil => exact List.Perm.refl _
  | cons existing rest inductionHypothesis =>
      rw [List.map_cons, List.nodup_cons] at identities
      unfold replaceOrPush
      split
      · next same =>
          have others : rest.filter (·.identity ≠ record.identity) = rest := by
            rw [List.filter_eq_self]
            intro other member
            apply decide_eq_true
            intro equal
            apply identities.1
            rw [same, ← equal]
            exact List.mem_map_of_mem member
          rw [List.filter_cons_of_neg (by simpa using same), others]
      · next different =>
          rw [List.filter_cons_of_pos (by simpa using different)]
          exact ((inductionHypothesis identities.2).cons existing).trans (.swap _ _ _)

theorem localPortUsedByOtherRecord_eq_false :
    self.localPortUsedByOtherRecord record = false ↔ ∀ existing ∈ self,
      existing.address = record.address → existing.identity = record.identity := by
  unfold localPortUsedByOtherRecord
  rw [List.any_eq_false]
  simp

/-- An upsert succeeds only where the address is free, and then puts the record in. -/
theorem withUpsertedRecord_eq_ok (identities : (self.map (·.identity)).Nodup)
    (upserted : self.withUpsertedRecord record = .ok next) :
    (∀ existing ∈ self, existing.address = record.address →
        existing.identity = record.identity) ∧
      next.Perm (record :: self.filter (·.identity ≠ record.identity)) := by
  unfold withUpsertedRecord at upserted
  obtain ⟨-, -, upserted⟩ := bind_eq_ok.mp upserted
  split at upserted
  · cases upserted
  · next unused =>
      cases upserted
      refine ⟨localPortUsedByOtherRecord_eq_false.mp (eq_false_of_ne_true unused), ?_⟩
      exact (List.perm_insertionSort _ _).trans (replaceOrPush_perm record identities)

theorem Apart.sublist (apart : self.Apart) (fewer : next.Sublist self) : next.Apart :=
  ⟨apart.identities.sublist (fewer.map _), apart.addresses.sublist (fewer.map _)⟩

/-- An upsert keeps the records apart. -/
theorem Apart.withUpsertedRecord (apart : self.Apart)
    (upserted : self.withUpsertedRecord record = .ok next) : next.Apart := by
  obtain ⟨unused, perm⟩ := withUpsertedRecord_eq_ok apart.identities upserted
  have others := apart.sublist (List.filter_sublist (p := (·.identity ≠ record.identity)))
  constructor
  · rw [(perm.map _).nodup_iff, List.map_cons, List.nodup_cons]
    refine ⟨?_, others.identities⟩
    intro member
    obtain ⟨existing, kept, same⟩ := List.mem_map.mp member
    exact of_decide_eq_true (List.mem_filter.mp kept).2 same
  · rw [(perm.map _).nodup_iff, List.map_cons, List.nodup_cons]
    refine ⟨?_, others.addresses⟩
    intro member
    obtain ⟨existing, kept, same⟩ := List.mem_map.mp member
    obtain ⟨old, different⟩ := List.mem_filter.mp kept
    exact of_decide_eq_true different (unused existing old same)

/-! ## What the upsert builds -/

/-- `sort_records` compares one field after the other. -/
instance : Std.TransCmp LocalServicePreference.compare :=
  inferInstanceAs <| Std.TransCmp <|
    compareLex (compareOn LocalServicePreference.remotePeerId) <|
    compareLex (compareOn LocalServicePreference.remoteServiceName) <|
    compareLex (compareOn LocalServicePreference.remoteServicePortName) <|
    compareLex (compareOn LocalServicePreference.localHost) <|
    compareOn LocalServicePreference.localPort

theorem pairwise_sortRecords (records : LocalPreferenceCache) :
    (sortRecords records).Pairwise fun left right => left.compare right ≠ .gt := by
  have total : Std.Total fun left right : LocalServicePreference => left.compare right ≠ .gt := by
    constructor
    intro left right
    rw [← not_and_or]
    rintro ⟨greater, smaller⟩
    rw [Std.OrientedCmp.gt_iff_lt, greater] at smaller
    cases smaller
  have trans : IsTrans LocalServicePreference fun left right => left.compare right ≠ .gt := by
    constructor
    intro left middle right first second
    rw [Ne, Ordering.ne_gt_iff_isLE] at first second ⊢
    exact Std.TransCmp.isLE_trans first second
  exact List.pairwise_insertionSort _ records

theorem replaceOrPush_of_new (new : ∀ existing ∈ self, existing.identity ≠ record.identity) :
    replaceOrPush record self = self ++ [record] := by
  induction self with
  | nil => rfl
  | cons existing rest inductionHypothesis =>
      rw [List.forall_mem_cons] at new
      rw [replaceOrPush, if_neg new.1, inductionHypothesis new.2, List.cons_append]

/-- The upsert builds exactly the valid records. -/
theorem built_iff_valid : Built self ↔ Valid self := by
  constructor
  · intro built
    induction built with
    | empty => exact ⟨nofun, ⟨List.nodup_nil, List.nodup_nil⟩, List.Pairwise.nil⟩
    | @upserted records next record _ upserted valid =>
        obtain ⟨_, validated, _⟩ := bind_eq_ok.mp upserted
        have perm := (withUpsertedRecord_eq_ok valid.apart.identities upserted).2
        refine ⟨?_, valid.apart.withUpsertedRecord upserted, ?_⟩
        · intro found member
          rcases List.mem_cons.mp (perm.mem_iff.mp member) with rfl | other
          · exact validated
          · exact valid.validate found (List.mem_of_mem_filter other)
        · unfold withUpsertedRecord at upserted
          obtain ⟨_, _, upserted⟩ := bind_eq_ok.mp upserted
          split at upserted
          · cases upserted
          · cases upserted
            exact pairwise_sortRecords _
  · intro valid
    induction self using List.reverseRecOn with
    | nil => exact .empty
    | append_singleton records record inductionHypothesis =>
        have fewer := List.sublist_append_left records [record]
        have before : Valid records :=
          ⟨fun found member => valid.validate found (fewer.subset member),
            valid.apart.sublist fewer, valid.sorted.sublist fewer⟩
        have identities := valid.apart.identities
        have addresses := valid.apart.addresses
        rw [List.map_append, List.map_singleton, List.nodup_append_comm, List.singleton_append,
          List.nodup_cons] at identities addresses
        have new : ∀ existing ∈ records, existing.identity ≠ record.identity :=
          fun existing member same => identities.1 (same ▸ List.mem_map_of_mem member)
        have unused : localPortUsedByOtherRecord records record = false := by
          rw [localPortUsedByOtherRecord_eq_false]
          intro existing member same
          exact absurd (same ▸ List.mem_map_of_mem member) addresses.1
        have upserted : withUpsertedRecord records record = .ok (records ++ [record]) := by
          unfold withUpsertedRecord
          rw [valid.validate record (by simp), ok_bind, unused, replaceOrPush_of_new new]
          exact congrArg Except.ok valid.sorted.insertionSort_eq
        exact (inductionHypothesis before).upserted upserted

end Specs

end LocalPreferenceCache

end Fungi.Config
