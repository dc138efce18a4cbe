import Fungi.Daemon.LocalServices
import Fungi.Runtime.Instances

/-!
# The service-control protocol

The server of `crates/daemon/src/controls/service_control.rs`: a request of another device is
carried out by the runtime, and the response is written as one JSON frame of bounded length.
Requests are those the server has decoded.
-/

namespace Fungi.Daemon.ServiceRuns

open Fungi.Lib Fungi.Runtime Fungi.Runtime.RuntimeControl

/-! ## Messages -/

/-- The largest payload of a frame, in bytes. -/
def maxControlFrameLen : Nat := 2 * 1024 * 1024

/-- The most lines of a log that a request gets. -/
def maxRemoteServiceLogTail : Nat := 2000

/-- The most bytes of a log that a request gets. -/
def maxRemoteServiceLogBytes : Nat := 512 * 1024

/-- What is put before a log that has been cut. -/
def remoteLogTruncationNotice : String := "[fungi] remote log output truncated\n"

/-- The requests of another device. -/
inductive ServiceControlRequest where
  | pullService (requestId : Option String) (manifestYaml : String)
  | listServices (requestId : Option String)
  | getServiceLogs (requestId : Option String) (service : String) (tail : Nat)
  | startService (requestId : Option String) (service : String)
  | stopService (requestId : Option String) (service : String)
  | removeService (requestId : Option String) (service : String)

/-- The id by which the answer is recognized. -/
def ServiceControlRequest.requestId : ServiceControlRequest → Option String
  | .pullService requestId _ => requestId
  | .listServices requestId => requestId
  | .getServiceLogs requestId _ _ => requestId
  | .startService requestId _ => requestId
  | .stopService requestId _ => requestId
  | .removeService requestId _ => requestId

/-- The service that a response is about. -/
structure ServiceControlServiceRef where
  name : String

/-- An error with its code. -/
structure ServiceControlError where
  code : String
  message : String

/-- The answer to a request. -/
structure ServiceControlResponse where
  requestId : Option String
  ok : Bool
  forgottenLocally : Bool
  service : Option ServiceControlServiceRef
  servicesJson : Option String
  logsText : Option String
  error : Option ServiceControlError

namespace ServiceControlResponse

/-- The answer where a service has been changed. -/
def success (requestId : Option String) (serviceName : String) : ServiceControlResponse :=
  { requestId, ok := true, forgottenLocally := false, service := some { name := serviceName },
    servicesJson := none, logsText := none, error := none }

/-- The answer with the list of services. -/
def successServices (requestId : Option String) (servicesJson : String) :
    ServiceControlResponse :=
  { requestId, ok := true, forgottenLocally := false, service := none,
    servicesJson := some servicesJson, logsText := none, error := none }

/-- The answer with a log. -/
def successLogs (requestId : Option String) (serviceName text : String) :
    ServiceControlResponse :=
  { requestId, ok := true, forgottenLocally := false, service := some { name := serviceName },
    servicesJson := none, logsText := some text, error := none }

/-- The answer with an error. -/
def failure (requestId : Option String) (code message : String) : ServiceControlResponse :=
  { requestId, ok := false, forgottenLocally := false, service := none, servicesJson := none,
    logsText := none, error := some { code, message } }

open Json

/-- A response in JSON; optional fields are left out where there is nothing. -/
def encode (response : ServiceControlResponse) : Encoded :=
  object
    ([field "request_id" (option string response.requestId),
        field "ok" (bool response.ok),
        field "forgotten_locally" (bool response.forgottenLocally)] ++
      optionalField "service" (fun service => object [field "name" (string service.name)])
        response.service ++
      optionalField "services_json" string response.servicesJson ++
      optionalField "logs_text" string response.logsText ++
      optionalField "error" (fun error =>
        object [field "code" (string error.code), field "message" (string error.message)])
        response.error)

end ServiceControlResponse

/-! ## Frames -/

/-- How many bytes a response takes in a frame. -/
def serializedFrameLen (response : ServiceControlResponse) : Nat :=
  (String.ofList response.encode).utf8ByteSize

/-- A frame: its length, and that many bytes. -/
structure ControlFrame where
  length : UInt32
  payload : String

/-- `write_frame` on a stream that takes every write. -/
def writeFrame (response : ServiceControlResponse) : Except String ControlFrame :=
  let payloadLen := serializedFrameLen response
  if maxControlFrameLen < payloadLen then
    .error s!"Service-control frame too large: {payloadLen} bytes (max {maxControlFrameLen})"
  else if payloadLen < 2 ^ 32 then
    .ok { length := .ofNat payloadLen, payload := .ofList response.encode }
  else .error "Service-control frame is too large"

/-- The response is written to the stream. -/
def Deliverable (response : ServiceControlResponse) : Prop :=
  ∃ frame, writeFrame response = .ok frame

/-! ## Log responses -/

/-- A text without its first bytes, cut at the next character boundary. -/
def dropBytes : Nat → List Char → List Char
  | 0, text => text
  | _ + 1, [] => []
  | bytes + 1, character :: rest => dropBytes (bytes + 1 - character.utf8Size) rest

/-- The end of a log, with room for the notice once something is cut. -/
def limitRemoteLogContent (text : String) (truncated : Bool) : String × Bool :=
  let notice := remoteLogTruncationNotice.utf8ByteSize
  let initialBudget := maxRemoteServiceLogBytes - truncated.toNat * notice
  if initialBudget < text.utf8ByteSize then
    let contentBudget := maxRemoteServiceLogBytes - notice
    (String.ofList (dropBytes (text.utf8ByteSize - contentBudget) text.toList), true)
  else (text, truncated)

/-- The notice goes before a log that has been cut. -/
def renderRemoteLogText (content : String) (truncated : Bool) : String :=
  if truncated then remoteLogTruncationNotice ++ content else content

/-- The loop that looks for the first character boundary from which the log fits. -/
def searchBoundary (fits : Nat → Bool) (low high : Nat) : Nat :=
  if low < high then
    let middle := low + (high - low) / 2
    if fits middle then searchBoundary fits low middle
    else searchBoundary fits (middle + 1) high
  else low
  termination_by high - low

/-- The response with the log from one of its character boundaries on. -/
def logCandidate (requestId : Option String) (serviceName content : String) (boundary : Nat) :
    ServiceControlResponse :=
  .successLogs requestId serviceName
    (renderRemoteLogText (.ofList (content.toList.drop boundary)) true)

/-- Whether a response fits into a frame. -/
def fitsFrame (response : ServiceControlResponse) : Bool :=
  serializedFrameLen response ≤ maxControlFrameLen

/-- A log that is too large for a frame is cut until it fits. -/
def boundedServiceLogResponse (requestId : Option String) (serviceName : String)
    (logs : BoundedLogText) : Except Error ServiceControlResponse :=
  let (content, truncated) := limitRemoteLogContent logs.text logs.truncated
  let response := ServiceControlResponse.successLogs requestId serviceName
    (renderRemoteLogText content truncated)
  if fitsFrame response then .ok response
  else
    let candidate := logCandidate requestId serviceName content
    let low := searchBoundary (fun middle => fitsFrame (candidate middle)) 0
      content.toList.length
    if fitsFrame (candidate low) then .ok (candidate low)
    else .error (.message "Service-control log response cannot fit within the frame limit")

/-! ## Requests -/

section Handling

variable (setup : RuntimeSetup) (answers : ProviderAnswers)

/-- The answer where the runtime has failed. -/
def executionFailed (requestId : Option String) (error : Error) : ServiceControlResponse :=
  .failure requestId "execution_failed" (error.text answers)

/-- The response to a request that returns the name of a service. -/
def nameResponse (requestId : Option String) : Except Error String → ServiceControlResponse
  | .ok serviceName => .success requestId serviceName
  | .error error => executionFailed answers requestId error

/-- The answer to a request for the services. -/
def listResponse (requestId : Option String) :
    Except Error (List ServiceInstance) → ServiceControlResponse
  | .ok services =>
      .successServices requestId (.ofList (Json.array (services.map (·.encode))))
  | .error error => executionFailed answers requestId error

/-- The answer to a request for a log. -/
def logsResponse (requestId : Option String) (service : String) :
    Except Error BoundedLogText → ServiceControlResponse
  | .ok logs =>
      match boundedServiceLogResponse requestId service logs with
      | .ok response => response
      | .error error => executionFailed answers requestId error
  | .error error => executionFailed answers requestId error

/-- A pull returns the name of the instance it applied. -/
def pullService (manifestYaml : String) : LocalAction String := do
  let applied ← onRuntime (applyManifestYaml setup manifestYaml setup.fungiHome)
  Program.when (applied.desiredState = .running) do
    syncForManifest applied.previousManifest false
    syncByName applied.name true
  return applied.name

/-- Start a service for another device. -/
def startService (service : String) : LocalAction String := do
  LocalOperation.perform setup (.start service)
  return service

/-- Stop a service for another device. -/
def stopService (service : String) : LocalAction String := do
  LocalOperation.perform setup (.stop service)
  return service

/-- Remove a service for another device. -/
def removeService (service : String) : LocalAction String := do
  LocalOperation.perform setup (.remove service)
  return service

/-- Run the work of a request and answer with its outcome. -/
def answering {Value : Type} (action : LocalAction Value)
    (respond : Except Error Value → ServiceControlResponse) (state : LocalServices) :
    ServiceControlResponse × LocalServices :=
  (respond (action state).1, (action state).2)

/-- What is done for a request, and what is answered. -/
def handleRequest : ServiceControlRequest → LocalServices →
    ServiceControlResponse × LocalServices
  | .pullService requestId manifestYaml =>
      answering (pullService setup manifestYaml) (nameResponse answers requestId)
  | .listServices requestId =>
      answering (onRuntime (listServices setup answers)) (listResponse answers requestId)
  | .getServiceLogs requestId service tail =>
      answering
        (onRuntime (logsTextByNameBounded setup answers service
          (min (max tail 1) maxRemoteServiceLogTail) maxRemoteServiceLogBytes))
        (logsResponse answers requestId service)
  | .startService requestId service =>
      answering (startService setup service) (nameResponse answers requestId)
  | .stopService requestId service =>
      answering (stopService setup service) (nameResponse answers requestId)
  | .removeService requestId service =>
      answering (removeService setup service) (nameResponse answers requestId)

end Handling

end Fungi.Daemon.ServiceRuns
