import Fungi.Lib.Run
import Fungi.Lib.Text
import Fungi.Lib.Path
import Fungi.Lib.OrderedMap
import Fungi.Lib.Fallible
import Fungi.Lib.Program
import Fungi.Lib.FileSystem
import Fungi.Lib.FileTree
import Fungi.Util.Protocols
import Fungi.Config.Paths
import Fungi.Config.TrustedDevices
import Fungi.Daemon.InboundAccess
import Fungi.Daemon.DeviceRemoval
import Fungi.Daemon.TcpTunneling
import Fungi.Daemon.ServiceEndpoints
import Fungi.Runtime.Model
import Fungi.Runtime.Manifest
import Fungi.Runtime.ManifestSpec
import Fungi.Runtime.ManifestPaths
import Fungi.Runtime.ManifestReload
import Fungi.Runtime.ManifestRoundTrip
import Fungi.Runtime.Host
import Fungi.Runtime.ServiceState
import Fungi.Runtime.ServiceStateSpec
import Fungi.Runtime.ServiceStateAtomicity
import Fungi.Runtime.Docker
import Fungi.Runtime.Wasmtime
import Fungi.Runtime.Control
import Fungi.Runtime.Apply
import Fungi.Runtime.ProviderSpec
import Fungi.Lib.History
import Fungi.Daemon.ServiceSnapshots
import Fungi.Daemon.ForgottenServices
import Fungi.Stream.Registry
import Fungi.Stream.InboundStreams
import Fungi.Daemon.TunnelTasks
import Fungi.Config.LocalPreferences
import Fungi.Daemon.ForwardingRules
import Fungi.Daemon.ServiceAccesses
import Fungi.Daemon.Detaching
import Fungi.Daemon.DetachRestore
import Fungi.Daemon.Attaching
import Fungi.Daemon.AttachDetach
import Fungi.Daemon.Operations
import Fungi.Daemon.LiveRules
import Fungi.Daemon.RecordedRules
import Fungi.Daemon.AccessConsistency
import Fungi.Daemon.AttachOutcome
import Fungi.DaemonGrpc.AttachServiceAccess
import Fungi.Runtime.Records
import Fungi.Runtime.ControlRuns
import Fungi.Runtime.FailedApply
import Fungi.Daemon.EndpointListeners
import Fungi.Daemon.StartStop
import Fungi.Daemon.LocalServices
import Fungi.Swarm.Behaviours
import Fungi.Swarm.Address
import Fungi.Swarm.ConnectionIndexes
import Fungi.Swarm.Governance
import Fungi.Swarm.GovernanceHistory
import Fungi.Swarm.LiveStreams
import Fungi.Swarm.TwoSided
import Fungi.Swarm.RelayEndpoints
import Fungi.Swarm.RelayReconcile
import Fungi.Swarm.RelayRuns
import Fungi.Swarm.PeerAddresses
import Fungi.Swarm.StreamObservations
import Fungi.ConfigMigrate.Apply
import Fungi.ConfigMigrate.ConfigFiles
import Fungi.ConfigMigrate.LocalPreferences
import Fungi.ConfigMigrate.Services
import Fungi.ConfigMigrate.Idempotence
import Fungi.ConfigMigrate.UserData
import Fungi.Runtime.MountRoots
import Fungi.Cli.ServiceReference
import Fungi.Lib.Json
import Fungi.Runtime.Instances
import Fungi.Daemon.ServiceControl
import Fungi.Daemon.ControlFrames
import Fungi.Runtime.MountArguments
import Fungi.Runtime.CreateBody
import Fungi.Runtime.RejectedPulls
import Fungi.Lib.FirstIndex
import Fungi.Swarm.CircuitAddresses
import Fungi.Lib.Sorting
import Fungi.Swarm.DialPlan
import Fungi.Swarm.AddressExpiry
import Fungi.Daemon.CachedAddresses
import Fungi.Stream.OutboundStreams
import Fungi.Lib.LongestSuffix
import Fungi.Daemon.LogResponses
import Fungi.Lib.Lines
import Fungi.Lib.Utf8
import Fungi.Lib.BigEndian
import Fungi.Lib.ByteStream
import Fungi.Runtime.LogTail
import Fungi.Runtime.LogFrames
import Fungi.Daemon.FrameStream
import Fungi.Config.DeviceNames
import Fungi.Daemon.ListeningRegistry
import Fungi.ConfigMigrate.Versions
import Fungi.Runtime.InstanceNames
import Fungi.Lib.Locks
import Fungi.Config.DaemonInstance
import Fungi.Lib.Upsert
import Fungi.Lib.Groups
import Fungi.Daemon.DirectAddresses
import Fungi.Daemon.AddressSync
import Fungi.Daemon.RememberedAddresses
import Fungi.Swarm.Connect
import Fungi.Swarm.SingleFlight
import Fungi.Lib.Triples
import Fungi.Config.RecipeCache
import Fungi.Daemon.Recipes
import Fungi.Daemon.RecipeRuns
import Fungi.Daemon.RecipeReuse
import Fungi.Lib.Standing
import Fungi.Lib.Propagation
import Fungi.Config.FungiConfig
import Fungi.Daemon.Settings
import Fungi.Daemon.SettingsRuns
import Fungi.Daemon.MountRootRuns
import Fungi.Daemon.PublishedServices
import Fungi.Daemon.RuleSources
import Fungi.Daemon.AccessReach
import Fungi.Runtime.HostPorts
import Fungi.Runtime.ServiceIdentity
