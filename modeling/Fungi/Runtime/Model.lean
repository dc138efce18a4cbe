import Std.Data.ExtTreeMap
import Mathlib.Order.Compare

/-!
# Service manifests

The data model of `crates/daemon/src/runtime/model.rs`.  Rust's ordered maps are
the extensional tree maps of the standard library; paths are their UTF-8 text.
-/

namespace Fungi.Runtime

/-- A map in the order of its keys. -/
abbrev BTreeMap (Key Value : Type) [Ord Key] := Std.ExtTreeMap Key Value compare

/-- Failures, as the callers of the runtime tell them apart: the message of an
`anyhow` error, or a reply of the Docker engine. -/
inductive Error where
  | message (text : String)
  | dockerApi (status : Nat) (text : String)
  deriving DecidableEq

/-- What runs a service. -/
inductive RuntimeKind where
  | docker
  | wasmtime
  | external
  deriving DecidableEq

/-- Whether a Wasmtime service runs as a command or answers requests. -/
inductive ServiceRunMode where
  | command
  | http
  deriving DecidableEq

/-- Where a service comes from. -/
inductive ServiceSource where
  | docker (image : String)
  | wasmtimeFile (component : String)
  | wasmtimeUrl (url : String)
  | existingTcp (host : String) (port : UInt16)
  deriving DecidableEq

/-- The transport of an exposed service. -/
inductive ServiceExposeTransportKind where
  | tcp
  | raw
  deriving DecidableEq

/-- The use that a service announces. -/
inductive ServiceExposeUsageKind where
  | web
  | ssh
  | raw
  deriving DecidableEq

/-- The use of a service, with the path that it is found under. -/
structure ServiceExposeUsage where
  kind : ServiceExposeUsageKind
  path : Option String
  deriving DecidableEq

/-- What a service shows to other devices. -/
structure ServiceExpose where
  transport : ServiceExposeTransportKind
  usage : Option ServiceExposeUsage
  iconUrl : Option String
  deriving DecidableEq

/-- A host directory that a service mounts, and where it sees it. -/
structure ServiceMount where
  hostPath : String
  runtimePath : String
  deriving DecidableEq

/-- Whether a host port was given or chosen. -/
inductive ServicePortAllocation where
  | auto
  | fixed
  deriving DecidableEq

/-- The transport of a port. -/
inductive ServicePortProtocol where
  | tcp
  | udp
  deriving DecidableEq

/-- A port that a service publishes. -/
structure ServicePort where
  name : Option String
  hostPort : UInt16
  hostPortAllocation : ServicePortAllocation
  servicePort : UInt16
  protocol : ServicePortProtocol
  deriving DecidableEq

/-- Everything that is known of a service before it runs. -/
structure ServiceManifest where
  name : String
  definitionId : Option String
  runtime : RuntimeKind
  runMode : ServiceRunMode
  source : ServiceSource
  expose : Option ServiceExpose
  env : BTreeMap String String
  mounts : List ServiceMount
  ports : List ServicePort
  command : List String
  entrypoint : List String
  workingDir : Option String
  labels : BTreeMap String String
  deriving DecidableEq

/-- An endpoint of a service and the host port behind it. -/
structure ServiceExposeEndpointBinding where
  name : String
  protocol : String
  hostPort : UInt16
  servicePort : UInt16
  deriving DecidableEq

end Fungi.Runtime
