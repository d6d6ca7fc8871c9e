import DistributedHardware.Library.Transition
import DistributedHardware.Library.Store
import DistributedHardware.Library.Writes
import DistributedHardware.Library.Separated
import DistributedHardware.Library.Ledger
import DistributedHardware.Library.ReadThrough
import DistributedHardware.Library.Buffered
import DistributedHardware.Library.DelayQueue
import DistributedHardware.Library.LittleEndian
import DistributedHardware.Library.Ring
import DistributedHardware.Library.BoundedQueue
import DistributedHardware.Common.Ids
import DistributedHardware.Common.Json
import DistributedHardware.Common.DhContext
import DistributedHardware.Resource.CapabilityInfo
import DistributedHardware.Resource.Registry
import DistributedHardware.Task.Model
import DistributedHardware.Task.Step
import DistributedHardware.Task.Effect
import DistributedHardware.Task.Lifecycle
import DistributedHardware.Task.OfflineBarrier
import DistributedHardware.Task.NoLoss
import DistributedHardware.Task.UnInit
import DistributedHardware.Resource.DbAdapter
import DistributedHardware.Resource.ChangeHandlers
import DistributedHardware.Resource.CacheFollows
import DistributedHardware.Resource.CapabilityCache
import DistributedHardware.Resource.Lookup
import DistributedHardware.Resource.PluginListener
import DistributedHardware.Resource.DbRecovery
import DistributedHardware.Resource.LocalHardware
import DistributedHardware.Resource.FailedUpdates
import DistributedHardware.Resource.CloudPath
import DistributedHardware.Task.DisableCover
import DistributedHardware.Task.OnlineTable
import DistributedHardware.Task.TableBijection
import DistributedHardware.Task.LastTask
import DistributedHardware.Task.Release
import DistributedHardware.Task.EnableTasks
import DistributedHardware.Transport.CapsSync
import DistributedHardware.Transport.Crossing
import DistributedHardware.Transport.Messages
import DistributedHardware.Resource.RoundTrip
import DistributedHardware.Resource.WholeRecords
import DistributedHardware.Resource.SkippedWrites
import DistributedHardware.Transport.RemoteCaps
import DistributedHardware.Version.VersionInfo
import DistributedHardware.Version.VersionManager
import DistributedHardware.Version.VersionFresh
import DistributedHardware.Component.EnableAttempt
import DistributedHardware.Component.BusinessState
import DistributedHardware.Component.Recover
import DistributedHardware.Component.PrivacyPage
import DistributedHardware.Resource.PeerLogout
import DistributedHardware.Component.EnableParams
import DistributedHardware.Component.DisableRetry
import DistributedHardware.AvTransport.SyncManager
import DistributedHardware.AvTransport.SyncActive
import DistributedHardware.AvTransport.SyncPairing
import DistributedHardware.AvTransport.SharedMemory
import DistributedHardware.AvTransport.ControlCenter
import DistributedHardware.AvTransport.ChannelTracking
import DistributedHardware.AvTransport.ReleaseCenter
import DistributedHardware.AvTransport.EngineIds
import DistributedHardware.AvTransport.ControlSession
import DistributedHardware.AvTransport.OutputController
import DistributedHardware.AvTransport.SoftbusAdapter
import DistributedHardware.AvTransport.SessionMap
import DistributedHardware.AvTransport.EventDispatch
import DistributedHardware.AvTransport.TransEngine
import DistributedHardware.AvTransport.PeerIsolation
import DistributedHardware.AvTransport.EngineRelease
import DistributedHardware.AvTransport.StreamRegistration
import DistributedHardware.AvTransport.SocketRecords
import DistributedHardware.AvTransport.ChannelServers
import DistributedHardware.AvTransport.AbilityCodec
import DistributedHardware.AvTransport.AbilityTransfer
import DistributedHardware.AvTransport.TransportFilter
import DistributedHardware.AvTransport.TransPlugins
import DistributedHardware.AvTransport.FilterStates
import DistributedHardware.AvTransport.FilterParams
import DistributedHardware.AvTransport.ClockRing
import DistributedHardware.AvTransport.ClockWriter
import DistributedHardware.AvTransport.ClockCorrection
import DistributedHardware.AvTransport.TimeStatistician
import DistributedHardware.AvTransport.DynamicBalance
import DistributedHardware.AvTransport.RereadClock
import DistributedHardware.AvTransport.BufferMeta
import DistributedHardware.AvTransport.MetaRoundTrip
import DistributedHardware.AvTransport.GroupInfo
import DistributedHardware.AvTransport.StreamInput
import DistributedHardware.AvTransport.DecimalText
import DistributedHardware.AvTransport.BufferConversion
import DistributedHardware.AvTransport.AvTransBuffer
import DistributedHardware.InnerKits.SaManager
import DistributedHardware.InnerKits.RestoreResult
import DistributedHardware.InnerKits.PublisherRestore
import DistributedHardware.InnerKits.CenterRestore
import DistributedHardware.Version.RoundTrip
import DistributedHardware.Publisher.PublisherItem
import DistributedHardware.Publisher.LowLatency
