import Fungi.Daemon.ServiceControl
import Mathlib.Algebra.Group.Action.Defs
import Mathlib.Algebra.Order.BigOperators.Group.List
import Std.Data.String.ToNat

/-!
# Service-control frames

When the response to a request fits a frame.  A response repeats the id of the request, and
it carries the name of a service, the text of a failure, the list of the services or a log.
Only a log is cut to the length of a frame.
-/

namespace Fungi.Daemon.ServiceRuns

open Fungi.Lib Fungi.Runtime Fungi.Runtime.RuntimeControl

/-! ## Lengths of the responses -/

/-- The bytes of the id of a request. -/
def requestIdSize (requestId : Option String) : Nat := requestId.elim 4 Json.stringSize

/-- The bytes that the JSON list of the services takes within a string. -/
def servicesSize (services : List ServiceInstance) : Nat :=
  2 + ((services.map fun service => Json.embeddedSize service.encode).sum + (services.length - 1))

theorem serializedFrameLen_eq (response : ServiceControlResponse) :
    serializedFrameLen response = Json.size response.encode :=
  Json.utf8ByteSize_ofList _

theorem deliverable_iff_fits (response : ServiceControlResponse) :
    Deliverable response ↔ fitsFrame response := by
  have limit : maxControlFrameLen < 2 ^ 32 := by decide
  constructor
  · rintro ⟨frame, written⟩
    by_contra large
    rw [fitsFrame, decide_eq_true_eq, Nat.not_le] at large
    rw [writeFrame, if_pos large] at written
    cases written
  · intro fits
    have small := of_decide_eq_true fits
    have short := Nat.lt_of_le_of_lt small limit
    rw [Deliverable, writeFrame, if_neg (Nat.not_lt.mpr small), if_pos short]
    exact ⟨_, rfl⟩

section Lengths

variable (requestId : Option String) (name text : String)

/-- The names of the fields of a response. -/
theorem fieldSizes :
    Json.stringSize "request_id" = 12 ∧ Json.stringSize "ok" = 4 ∧
      Json.stringSize "forgotten_locally" = 19 ∧ Json.stringSize "service" = 9 ∧
      Json.stringSize "name" = 6 ∧ Json.stringSize "services_json" = 15 ∧
      Json.stringSize "logs_text" = 11 ∧ Json.stringSize "error" = 7 ∧
      Json.stringSize "code" = 6 ∧ Json.stringSize "message" = 9 := by
  decide

theorem size_bool (value : Bool) : Json.size (Json.bool value) = if value then 4 else 5 := by
  cases value <;> rfl

attribute [local simp] Json.size_object Json.size_field Json.optionalField Json.size_option_string
  Json.size_string ServiceControlResponse.encode requestIdSize fieldSizes size_bool

theorem serializedFrameLen_success :
    serializedFrameLen (.success requestId name) =
      71 + requestIdSize requestId + Json.stringSize name := by
  rw [serializedFrameLen_eq]
  simp [ServiceControlResponse.success]
  omega

theorem serializedFrameLen_successServices :
    serializedFrameLen (.successServices requestId text) =
      68 + requestIdSize requestId + Json.stringSize text := by
  rw [serializedFrameLen_eq]
  simp [ServiceControlResponse.successServices]
  omega

theorem serializedFrameLen_successLogs :
    serializedFrameLen (.successLogs requestId name text) =
      84 + requestIdSize requestId + Json.stringSize name + Json.stringSize text := by
  rw [serializedFrameLen_eq]
  simp [ServiceControlResponse.successLogs]
  omega

theorem serializedFrameLen_failure :
    serializedFrameLen (.failure requestId name text) =
      81 + requestIdSize requestId + Json.stringSize name + Json.stringSize text := by
  rw [serializedFrameLen_eq]
  simp [ServiceControlResponse.failure]
  omega

end Lengths

/-! ## The search of a log response -/

theorem searchBoundary_spec (fits : Nat → Bool) {low high : Nat} (bounded : low ≤ high) :
    searchBoundary fits low high ≤ high ∧
      (fits high → fits (searchBoundary fits low high)) := by
  induction low, high using searchBoundary.induct fits with
  | case1 low high below middle fitting inductionHypothesis =>
      rw [searchBoundary, if_pos below, if_pos fitting]
      have found := inductionHypothesis (Nat.le_add_right low _)
      have middleBound : middle ≤ high := by
        show low + (high - low) / 2 ≤ high
        omega
      exact ⟨Nat.le_trans found.1 middleBound, fun _ => found.2 fitting⟩
  | case2 low high below middle large inductionHypothesis =>
      rw [searchBoundary, if_pos below, if_neg large]
      exact inductionHypothesis (by omega)
  | case3 low high above =>
      rw [searchBoundary, if_neg above]
      obtain rfl : low = high := by omega
      exact ⟨Nat.le_refl low, id⟩

/-- The text of a log response, before the search shortens it. -/
def logText (logs : BoundedLogText) : String :=
  let limited := limitRemoteLogContent logs.text logs.truncated
  renderRemoteLogText limited.1 limited.2

/-- The log fits as it is, or its notice fits alone. -/
def LogFits (requestId : Option String) (service : String) (logs : BoundedLogText) : Prop :=
  84 + requestIdSize requestId + Json.stringSize service +
      min (Json.stringSize (logText logs)) (Json.stringSize remoteLogTruncationNotice) ≤
    maxControlFrameLen

theorem stringSize_append (left right : String) :
    Json.stringSize (left ++ right) = Json.stringSize left + Json.embeddedSize right.toList := by
  simp only [Json.stringSize, String.toList_append, Json.embeddedSize_append]
  omega

/-- The error for a log response that even without its text is too large. -/
def cannotFit : Error :=
  .message "Service-control log response cannot fit within the frame limit"

theorem boundedServiceLogResponse_of_fits {requestId : Option String} {service : String}
    {logs : BoundedLogText} (fits : LogFits requestId service logs) :
    ∃ response, boundedServiceLogResponse requestId service logs = .ok response ∧
      fitsFrame response := by
  simp only [boundedServiceLogResponse]
  split
  · next whole => exact ⟨_, rfl, whole⟩
  · next large =>
      rw [fitsFrame, decide_eq_true_eq, serializedFrameLen_successLogs] at large
      have noticeFits : fitsFrame (logCandidate requestId service
          (limitRemoteLogContent logs.text logs.truncated).1
          (limitRemoteLogContent logs.text logs.truncated).1.toList.length) := by
        rw [fitsFrame, decide_eq_true_eq, logCandidate, serializedFrameLen_successLogs,
          List.drop_length, renderRemoteLogText, if_pos rfl, stringSize_append]
        simp only [LogFits, logText] at fits
        simp [Json.embeddedSize]
        omega
      have found := (searchBoundary_spec
        (fun middle => fitsFrame (logCandidate requestId service _ middle))
        (Nat.zero_le _)).2 noticeFits
      rw [if_pos found]
      exact ⟨_, rfl, found⟩

theorem boundedServiceLogResponse_of_not_fits {requestId : Option String} {service : String}
    {logs : BoundedLogText} (large : ¬ LogFits requestId service logs) :
    boundedServiceLogResponse requestId service logs = .error cannotFit := by
  simp only [LogFits, logText, Nat.not_le] at large
  simp only [boundedServiceLogResponse]
  rw [if_neg, if_neg]
  · rfl
  · rw [fitsFrame, decide_eq_true_eq, logCandidate, serializedFrameLen_successLogs,
      renderRemoteLogText, if_pos rfl, stringSize_append]
    omega
  · rw [fitsFrame, decide_eq_true_eq, serializedFrameLen_successLogs]
    omega

/-! ## The listed services -/

section Listing

variable (setup : RuntimeSetup) (answers : ProviderAnswers)

theorem listInstances_ok (manifests : List ServiceManifest) (host : Host) :
    ∃ services, (listInstances setup answers manifests host).1 = .ok services ∧
      services.length = manifests.length := by
  induction manifests generalizing host with
  | nil => exact ⟨[], rfl, rfl⟩
  | cons manifest rest inductionHypothesis =>
      obtain ⟨services, listed, length⟩ := inductionHypothesis
        (inspectInstance setup answers manifest.runtime manifest.name host).2
      rw [listInstances, Program.bind_of_ok (Program.attempt_apply _ _),
        Program.bind_of_ok (Prod.ext listed rfl)]
      exact ⟨_, rfl, by simp [length]⟩

/-- A list of the services always succeeds, and it has each of them. -/
theorem listServices_ok (host : Host) :
    ∃ services, (listServices setup answers host).1 = .ok services ∧
      services.length = host.serviceManifests.size := by
  obtain ⟨services, listed, length⟩ := listInstances_ok setup answers
    (host.serviceManifests.toList.map (·.2)) host
  refine ⟨services.mergeSort fun left right => left.name ≤ right.name, ?_, ?_⟩
  · rw [listServices, Program.bind_of_ok (Program.gets_apply _ _),
      Program.bind_of_ok (Prod.ext listed rfl)]
    rfl
  · rw [List.length_mergeSort, length, List.length_map, Std.ExtTreeMap.length_toList]

/-- The services as the runtime lists them. -/
def listedServices (host : Host) : List ServiceInstance :=
  match (listServices setup answers host).1 with
  | .ok services => services
  | .error _ => []

theorem listServices_eq (host : Host) :
    (listServices setup answers host).1 = .ok (listedServices setup answers host) := by
  obtain ⟨services, listed, -⟩ := listServices_ok setup answers host
  rw [listedServices, listed]

theorem length_listedServices (host : Host) :
    (listedServices setup answers host).length = host.serviceManifests.size := by
  obtain ⟨services, listed, length⟩ := listServices_ok setup answers host
  rw [listedServices, listed, length]

end Listing

/-! ## Which responses are delivered -/

section Delivery

variable (setup : RuntimeSetup) (answers : ProviderAnswers)

/-- A response that names the service fits into a frame. -/
def NameFits (requestId : Option String) (service : String) : Prop :=
  71 + requestIdSize requestId + Json.stringSize service ≤ maxControlFrameLen

/-- A response with the text of the error fits into a frame. -/
def ErrorFits (requestId : Option String) (error : Error) : Prop :=
  99 + requestIdSize requestId + Json.stringSize (error.text answers) ≤ maxControlFrameLen

/-- A response with the list of services fits into a frame. -/
def ListFits (requestId : Option String) (services : List ServiceInstance) : Prop :=
  70 + requestIdSize requestId + servicesSize services ≤ maxControlFrameLen

/-- The name that an operation returns fits, or the text of its failure. -/
def OutcomeFits (requestId : Option String) : Except Error String → Prop
  | .ok service => NameFits requestId service
  | .error error => ErrorFits answers requestId error

/-- A log always leaves the error that says that it cannot be sent. -/
def LogsOutcomeFits (requestId : Option String) (service : String) :
    Except Error BoundedLogText → Prop
  | .ok logs => LogFits requestId service logs ∨ ErrorFits answers requestId cannotFit
  | .error error => ErrorFits answers requestId error

/-- What the response to a request has to carry fits a frame. -/
def HasRoomFor (state : LocalServices) : ServiceControlRequest → Prop
  | .pullService requestId manifestYaml =>
      OutcomeFits answers requestId (pullService setup manifestYaml state).1
  | .listServices requestId => ListFits requestId (listedServices setup answers state.host)
  | .getServiceLogs requestId service tail =>
      LogsOutcomeFits answers requestId service
        (logsTextByNameBounded setup answers service (min (max tail 1) maxRemoteServiceLogTail)
          maxRemoteServiceLogBytes state.host).1
  | .startService requestId service =>
      OutcomeFits answers requestId (startService setup service state).1
  | .stopService requestId service =>
      OutcomeFits answers requestId (stopService setup service state).1
  | .removeService requestId service =>
      OutcomeFits answers requestId (removeService setup service state).1

theorem deliverable_executionFailed (requestId : Option String) (error : Error) :
    Deliverable (executionFailed answers requestId error) ↔ ErrorFits answers requestId error := by
  have code : Json.stringSize "execution_failed" = 18 := by decide
  rw [deliverable_iff_fits, fitsFrame, decide_eq_true_eq, executionFailed,
    serializedFrameLen_failure, code, ErrorFits]
  omega

theorem deliverable_nameResponse (requestId : Option String) (outcome : Except Error String) :
    Deliverable (nameResponse answers requestId outcome) ↔
      OutcomeFits answers requestId outcome := by
  cases outcome with
  | ok service =>
      rw [nameResponse, deliverable_iff_fits, fitsFrame, decide_eq_true_eq,
        serializedFrameLen_success]
      rfl
  | error error => exact deliverable_executionFailed answers requestId error

theorem deliverable_listResponse (requestId : Option String) (services : List ServiceInstance) :
    Deliverable (listResponse answers requestId (.ok services)) ↔ ListFits requestId services := by
  rw [listResponse, deliverable_iff_fits, fitsFrame, decide_eq_true_eq,
    serializedFrameLen_successServices, Json.stringSize, String.toList_ofList,
    Json.embeddedSize_array, ListFits, servicesSize, List.map_map, List.length_map]
  simp only [Function.comp_def]
  omega

theorem deliverable_logsResponse (requestId : Option String) (service : String)
    (outcome : Except Error BoundedLogText) :
    Deliverable (logsResponse answers requestId service outcome) ↔
      LogsOutcomeFits answers requestId service outcome := by
  cases outcome with
  | error error => exact deliverable_executionFailed answers requestId error
  | ok logs =>
      rw [LogsOutcomeFits]
      by_cases fits : LogFits requestId service logs
      · obtain ⟨response, bounded, delivered⟩ := boundedServiceLogResponse_of_fits fits
        rw [logsResponse, bounded]
        exact iff_of_true ((deliverable_iff_fits response).mpr delivered) (.inl fits)
      · rw [logsResponse, boundedServiceLogResponse_of_not_fits fits, or_iff_right fits]
        exact deliverable_executionFailed answers requestId cannotFit

/-- The client receives a response exactly when what it has to carry fits a frame. -/
theorem response_deliverable_iff (state : LocalServices) (request : ServiceControlRequest) :
    Deliverable (handleRequest setup answers request state).1 ↔
      HasRoomFor setup answers state request := by
  cases request with
  | pullService requestId manifestYaml => exact deliverable_nameResponse answers requestId _
  | listServices requestId =>
      have listed := listServices_eq setup answers state.host
      rw [handleRequest, answering, onRuntime, listed]
      exact deliverable_listResponse answers requestId _
  | getServiceLogs requestId service tail =>
      exact deliverable_logsResponse answers requestId service _
  | startService requestId service => exact deliverable_nameResponse answers requestId _
  | stopService requestId service => exact deliverable_nameResponse answers requestId _
  | removeService requestId service => exact deliverable_nameResponse answers requestId _

end Delivery

/-! ## Many services -/

theorem instanceFieldSizes :
    Json.embeddedSize (Json.string "id") = 6 ∧ Json.embeddedSize (Json.string "runtime") = 11 ∧
      Json.embeddedSize (Json.string "name") = 8 ∧ Json.embeddedSize (Json.string "source") = 10 ∧
      Json.embeddedSize (Json.string "labels") = 10 ∧
      Json.embeddedSize (Json.string "ports") = 9 ∧
      Json.embeddedSize (Json.string "exposed_endpoints") = 21 ∧
      Json.embeddedSize (Json.string "status") = 10 := by
  decide

/-- The names of its fields alone make every service longer than this. -/
theorem hundred_le_encode (service : ServiceInstance) :
    100 ≤ Json.embeddedSize service.encode := by
  rw [ServiceInstance.encode, Json.embeddedSize_object]
  simp only [ServiceInstance.leadingFields, ServiceInstance.trailingFields, List.map_append,
    List.map_cons, List.map_nil, List.sum_append, List.sum_cons, List.sum_nil, List.length_append,
    List.length_cons, List.length_nil, Json.embeddedSize_field, instanceFieldSizes]
  omega

theorem servicesSize_ge (services : List ServiceInstance) :
    100 * services.length ≤ servicesSize services := by
  have each := List.card_nsmul_le_sum
    (services.map fun service => Json.embeddedSize service.encode) 100 (by
      intro bytes listed
      obtain ⟨service, -, rfl⟩ := List.mem_map.mp listed
      exact hundred_le_encode service)
  rw [List.length_map, smul_eq_mul] at each
  rw [servicesSize]
  omega

/-- From some number of services on, whatever they are, no list of them is delivered. -/
theorem list_not_deliverable {setup : RuntimeSetup} {answers : ProviderAnswers}
    {state : LocalServices} (many : maxControlFrameLen < 100 * state.host.serviceManifests.size)
    (requestId : Option String) :
    ¬ Deliverable (handleRequest setup answers (.listServices requestId) state).1 := by
  rw [response_deliverable_iff, HasRoomFor, ListFits]
  have least := servicesSize_ge (listedServices setup answers state.host)
  rw [length_listedServices] at least
  omega

/-- One of many services. -/
def crowdService (index : Nat) : ServiceManifest :=
  { name := s!"service-{index}"
    definitionId := some s!"service-{index}"
    runtime := .external
    runMode := .command
    source := .existingTcp "127.0.0.1" 80
    expose := none
    env := ∅
    mounts := []
    ports := []
    command := []
    entrypoint := []
    workingDir := none
    labels := ∅ }

/-- A daemon with stopped external services. -/
def crowd (services : Nat) : LocalServices :=
  let manifests := (List.range services).map crowdService
  let localServiceId (manifest : ServiceManifest) := s!"svc_{manifest.name}"
  let record (manifest : ServiceManifest) : PersistedService :=
    { localServiceId := localServiceId manifest, manifest, desiredState := .stopped }
  let empty := withoutServices []
  { empty with
    host :=
      { empty.host with
        serviceIndex := .ofList (manifests.map fun manifest => (manifest.name, manifest.runtime))
        serviceManifests := .ofList (manifests.map fun manifest => (manifest.name, manifest))
        serviceState :=
          { servicesRoot := empty.host.serviceState.servicesRoot
            state := .ofList (manifests.map fun manifest =>
              (localServiceId manifest, record manifest))
            nameIndex := .ofList (manifests.map fun manifest =>
              (manifest.name, localServiceId manifest)) } } }

theorem crowdService_name_injective {left right : Nat}
    (same : (crowdService left).name = (crowdService right).name) : left = right := by
  have texts := congrArg String.toList same
  simp only [crowdService, toString, String.toList_append, List.append_cancel_left_eq] at texts
  exact Nat.repr_injective (String.toList_inj.mp texts)

theorem size_crowd (services : Nat) : (crowd services).host.serviceManifests.size = services := by
  have distinct : ((List.range services).map crowdService).Pairwise
      fun left right => ¬ compare left.name right.name = .eq := by
    rw [List.pairwise_map]
    apply List.Pairwise.imp _ List.nodup_range
    intro left right different same
    exact different (crowdService_name_injective (Std.LawfulEqOrd.eq_of_compare same))
  show (Std.ExtTreeMap.ofList _ compare).size = services
  rw [Std.ExtTreeMap.size_ofList, List.length_map, List.length_map, List.length_range]
  exact List.pairwise_map.mpr distinct

/-- What the providers answer about services that have no provider. -/
def noAnswers : ProviderAnswers :=
  { containerDetails := fun _ _ => { id := "", state := "" }
    logs := fun _ _ _ _ => .ok { text := "", truncated := false }
    statusText := fun status => toString status }

/-- A device asks for the services of a daemon that has too many of them. -/
theorem service_list_not_delivered :
    ¬ Deliverable
      (handleRequest movedSetup noAnswers (.listServices none) (crowd 21000)).1 := by
  apply list_not_deliverable
  rw [size_crowd]
  decide

end Fungi.Daemon.ServiceRuns
