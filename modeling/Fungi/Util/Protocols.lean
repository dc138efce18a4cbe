import Fungi.Lib.Text

/-!
# Endpoint protocols

`crates/util/src/protocols.rs`: the stream protocol a service port is published
under.  Both names go through the same lossy normalisation.
-/

namespace Fungi.Util

open Fungi.Lib

/-- What the protocols of service ports begin with. -/
def fungiServicePortProtocolPrefix : String := "/fungi/service-port"

/-- Letters become lowercase, and other characters dashes. -/
def protocolCharacter (character : Char) : Char :=
  if character.isAlphanum ∨ character = '-' ∨ character = '_' ∨ character = '.' then
    character.toLower
  else '-'

/-- A name as a component of a protocol. -/
def protocolComponent (value : String) : String :=
  let normalized := String.ofList ((trim value).toList.map protocolCharacter)
  if normalized = "" then "default" else normalized

/-- The protocol of a port of a service. -/
def servicePortProtocol (serviceId portName : String) : String :=
  fungiServicePortProtocolPrefix ++ "/" ++ protocolComponent serviceId ++ "/" ++
    protocolComponent portName ++ "/0.1.0"

theorem protocolCharacter_ne_slash (character : Char) : protocolCharacter character ≠ '/' := by
  unfold protocolCharacter
  split
  · next kept =>
      intro slash
      unfold Char.toLower at slash
      split at slash
      · next upper =>
          have codes := congrArg (fun lower => lower.val.toNat) slash
          have low := UInt32.le_iff_toNat_le.mp upper.1
          have high := UInt32.le_iff_toNat_le.mp upper.2
          simp only [UInt32.toNat_add] at codes
          simp at codes low high
          omega
      · subst slash
        revert kept
        decide
  · decide

theorem noSlash_protocolComponent (value : String) : '/' ∉ (protocolComponent value).toList := by
  unfold protocolComponent
  dsimp only
  split
  · decide
  · rw [String.toList_ofList, List.mem_map]
    rintro ⟨character, -, slash⟩
    exact protocolCharacter_ne_slash character slash

/-- A separator that neither left part contains splits a text in one way. -/
private theorem append_separator_inj {separator : Char} {left left' right right' : List Char}
    (absent : separator ∉ left) (absent' : separator ∉ left')
    (same : left ++ separator :: right = left' ++ separator :: right') :
    left = left' ∧ right = right' := by
  induction left generalizing left' with
  | nil =>
      cases left' with
      | nil => simpa using same
      | cons head tail =>
          simp only [List.nil_append, List.cons_append, List.cons.injEq] at same
          exact absurd (List.mem_cons.mpr (Or.inl same.1)) absent'
  | cons head tail inductionHypothesis =>
      cases left' with
      | nil =>
          simp only [List.nil_append, List.cons_append, List.cons.injEq] at same
          exact absurd (List.mem_cons.mpr (Or.inl same.1.symm)) absent
      | cons head' tail' =>
          simp only [List.cons_append, List.cons.injEq] at same
          rw [List.mem_cons, not_or] at absent absent'
          obtain ⟨tails, rights⟩ := inductionHypothesis absent.2 absent'.2 same.2
          exact ⟨by rw [same.1, tails], rights⟩

private theorem toList_servicePortProtocol (service port : String) :
    (servicePortProtocol service port).toList =
      fungiServicePortProtocolPrefix.toList ++ '/' :: ((protocolComponent service).toList ++
        '/' :: ((protocolComponent port).toList ++ '/' :: "0.1.0".toList)) := by
  have separator : "/".toList = ['/'] := rfl
  have version : "/0.1.0".toList = '/' :: "0.1.0".toList := rfl
  simp only [servicePortProtocol, String.toList_append, List.append_assoc, separator, version,
    List.cons_append, List.nil_append]

/-- Two endpoints share a protocol exactly when both of their names normalise to
the same components. -/
theorem servicePortProtocol_eq_iff {service service' port port' : String} :
    servicePortProtocol service port = servicePortProtocol service' port' ↔
      protocolComponent service = protocolComponent service' ∧
        protocolComponent port = protocolComponent port' := by
  constructor
  · intro same
    have characters := String.toList_inj.mpr same
    rw [toList_servicePortProtocol, toList_servicePortProtocol, List.append_cancel_left_eq,
      List.cons.injEq] at characters
    obtain ⟨services, rest⟩ := append_separator_inj (noSlash_protocolComponent service)
      (noSlash_protocolComponent service') characters.2
    obtain ⟨ports, -⟩ := append_separator_inj (noSlash_protocolComponent port)
      (noSlash_protocolComponent port') rest
    exact ⟨String.toList_inj.mp services, String.toList_inj.mp ports⟩
  · rintro ⟨services, ports⟩
    rw [servicePortProtocol, servicePortProtocol, services, ports]

end Fungi.Util
