import Mathlib.Data.List.Sort
import Mathlib.Order.Defs.LinearOrder

/-!
# Trusted devices

`TrustedDevicesConfig` of `crates/config/src/trusted_devices.rs`.  The TOML file
is modelled by the list it decodes to.  A configuration with an empty file path
lives in memory only and is never written.
-/

namespace Fungi.Config

variable {PeerId : Type}

/-- The peers that may open streams to this device, and the file that lists them. -/
structure TrustedDevicesConfig (PeerId : Type) where
  trustedDevices : List PeerId
  configFile : String

/-- Outcome of the `std::fs::write` of one save.  A failed write may leave any
content behind. -/
inductive SaveOutcome (PeerId : Type) where
  | written
  | failed (left : List PeerId)

namespace TrustedDevicesConfig

/-- `new_config.save_to_file()?; Ok(new_config)`: the configuration that
replaces the old one, unless the save fails, and the file content after it. -/
def saveToFile (self : TrustedDevicesConfig PeerId) (file : List PeerId)
    (outcome : SaveOutcome PeerId) : Option (TrustedDevicesConfig PeerId) × List PeerId :=
  if self.configFile = "" then
    (some self, file)
  else
    match outcome with
    | .written => (some self, self.trustedDevices)
    | .failed left => (none, left)

/-- The list a restart would load: the file, or the configuration itself when it
has no file. -/
def persisted (self : TrustedDevicesConfig PeerId) (file : List PeerId) : List PeerId :=
  if self.configFile = "" then self.trustedDevices else file

/-- The file holds what the configuration in memory holds. -/
def Saved (self : TrustedDevicesConfig PeerId) (file : List PeerId) : Prop :=
  self.persisted file = self.trustedDevices

theorem saveToFile_spec {self next : TrustedDevicesConfig PeerId} {file left : List PeerId}
    {outcome : SaveOutcome PeerId}
    (succeeded : self.saveToFile file outcome = (some next, left)) :
    next = self ∧ self.Saved left := by
  unfold saveToFile at succeeded
  unfold Saved persisted
  split at succeeded
  · next memoryOnly =>
      simp only [Prod.mk.injEq, Option.some.injEq] at succeeded
      exact ⟨succeeded.1.symm, if_pos memoryOnly⟩
  · next onDisk =>
      cases outcome with
      | written =>
          simp only [Prod.mk.injEq, Option.some.injEq] at succeeded
          exact ⟨succeeded.1.symm, by rw [if_neg onDisk, succeeded.2]⟩
      | failed left => simp at succeeded

variable [LinearOrder PeerId]

/-- A peer that is already trusted is not written again. -/
def addTrustedDevice (self : TrustedDevicesConfig PeerId) (peerId : PeerId)
    (file : List PeerId) (outcome : SaveOutcome PeerId) :
    Option (TrustedDevicesConfig PeerId) × List PeerId :=
  if peerId ∈ self.trustedDevices then
    (some self, file)
  else
    let newConfig :=
      { self with trustedDevices := (self.trustedDevices ++ [peerId]).insertionSort (· ≤ ·) }
    newConfig.saveToFile file outcome

/-- Take a peer off the list and save it. -/
def removeTrustedDevice (self : TrustedDevicesConfig PeerId) (peerId : PeerId)
    (file : List PeerId) (outcome : SaveOutcome PeerId) :
    Option (TrustedDevicesConfig PeerId) × List PeerId :=
  let newConfig :=
    { self with trustedDevices := self.trustedDevices.filter (· ≠ peerId) }
  newConfig.saveToFile file outcome

/-- A successful addition trusts the peer, changes no other peer and keeps the
file in step with memory. -/
theorem addTrustedDevice_spec {self next : TrustedDevicesConfig PeerId} {peerId : PeerId}
    {file left : List PeerId} {outcome : SaveOutcome PeerId}
    (added : self.addTrustedDevice peerId file outcome = (some next, left)) :
    (self.Saved file → next.Saved left) ∧
      ∀ peer, peer ∈ next.trustedDevices ↔ peer = peerId ∨ peer ∈ self.trustedDevices := by
  unfold addTrustedDevice at added
  split at added
  · next present =>
      simp only [Prod.mk.injEq, Option.some.injEq] at added
      obtain ⟨rfl, rfl⟩ := added
      exact ⟨id, fun peer => ⟨Or.inr, fun either => either.elim (· ▸ present) id⟩⟩
  · obtain ⟨rfl, inStep⟩ := saveToFile_spec added
    refine ⟨fun _ => inStep, fun peer => ?_⟩
    simp [List.mem_insertionSort, or_comm]

/-- A successful removal drops the peer, changes no other peer and leaves the
file in step with memory. -/
theorem removeTrustedDevice_spec {self next : TrustedDevicesConfig PeerId}
    {peerId : PeerId} {file left : List PeerId} {outcome : SaveOutcome PeerId}
    (removed : self.removeTrustedDevice peerId file outcome = (some next, left)) :
    next.Saved left ∧
      ∀ peer, peer ∈ next.trustedDevices ↔ peer ≠ peerId ∧ peer ∈ self.trustedDevices := by
  obtain ⟨rfl, inStep⟩ := saveToFile_spec removed
  exact ⟨inStep, fun peer => by simp [and_comm]⟩

end TrustedDevicesConfig

end Fungi.Config
