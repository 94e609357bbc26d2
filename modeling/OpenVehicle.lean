import OpenVehicle.Codegen.TypeOrder
import OpenVehicle.Com.Completion
import OpenVehicle.Com.DiscoveryCounts
import OpenVehicle.Com.DiscoveryWatches
import OpenVehicle.Com.EncoderModes
import OpenVehicle.Com.Fingerprint
import OpenVehicle.Com.IceoryxFanOut
import OpenVehicle.Com.IceoryxServer
import OpenVehicle.Com.InprocOrdering
import OpenVehicle.Com.Loans
import OpenVehicle.Com.MappingRoundTrip
import OpenVehicle.Com.MaximumSizes
import OpenVehicle.Com.Quiescence
import OpenVehicle.Com.Rejection
import OpenVehicle.Com.ReusedValues
import OpenVehicle.Com.SizeBounds
import OpenVehicle.Com.VsomeipQuiescence
import OpenVehicle.Crypto.Jobs
import OpenVehicle.Crypto.KeyStore
import OpenVehicle.Crypto.Records
import OpenVehicle.Crypto.RuntimeAead
import OpenVehicle.Exec.ArtifactDigest
import OpenVehicle.Exec.ArtifactIntegrity
import OpenVehicle.Exec.CommitAtomicity
import OpenVehicle.Exec.DependencyClosure
import OpenVehicle.Exec.DependencyCycles
import OpenVehicle.Exec.Dinit
import OpenVehicle.Exec.JournalFailure
import OpenVehicle.Exec.PlanContract
import OpenVehicle.Exec.QueueProgress
import OpenVehicle.Exec.QueueProjection
import OpenVehicle.Exec.RequestErrors
import OpenVehicle.Exec.Restart
import OpenVehicle.Exec.StartEvidence
import OpenVehicle.Exec.StopHandlers
import OpenVehicle.Exec.WaitNotification
import OpenVehicle.Ipc.Client
import OpenVehicle.Ipc.Deadlines
import OpenVehicle.Ipc.DomainStatus
import OpenVehicle.Ipc.Subscription
import OpenVehicle.Log.Accounting
import OpenVehicle.Per.Blobs
import OpenVehicle.Per.CursorScan
import OpenVehicle.Per.MigrationHandles
import OpenVehicle.Per.MigrationResumption
import OpenVehicle.Per.RecordRoundTrip
import OpenVehicle.Per.Rollback
import OpenVehicle.Per.SqliteStores
