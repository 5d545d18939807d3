import ShardingOnCloud.Lib.Program
import ShardingOnCloud.Lib.Assertions
import ShardingOnCloud.Lib.Pool
import ShardingOnCloud.Lib.Schedules
import ShardingOnCloud.Lib.Termination
import ShardingOnCloud.Lib.ShellWords
import ShardingOnCloud.Lib.Lookaround
import ShardingOnCloud.Lib.Directory
import ShardingOnCloud.Lib.Paths
import ShardingOnCloud.Lib.Footprint
import ShardingOnCloud.Lib.Slices
import ShardingOnCloud.Lib.Strconv
import ShardingOnCloud.Lib.Runs
import ShardingOnCloud.Lib.JsonParser
import ShardingOnCloud.Lib.JsonBytes
import ShardingOnCloud.Lib.RustText
import ShardingOnCloud.Lib.JavaNumbers
import ShardingOnCloud.Lib.LinearMemory
import ShardingOnCloud.Lib.JsonPrinter
import ShardingOnCloud.Lib.Base64
import ShardingOnCloud.Lib.Patterns
import ShardingOnCloud.Lib.Lexer
import ShardingOnCloud.Lib.Descent
import ShardingOnCloud.Lib.ReflectedCrc
import ShardingOnCloud.Lib.RustLines
import ShardingOnCloud.Distsql.Tokens
import ShardingOnCloud.Distsql.Shapes
import ShardingOnCloud.Distsql.Lexing
import ShardingOnCloud.Distsql.Ast
import ShardingOnCloud.Distsql.BaseRule
import ShardingOnCloud.Distsql.Reading
import ShardingOnCloud.Distsql.Phrases
import ShardingOnCloud.Distsql.NameLists
import ShardingOnCloud.Distsql.ReadwriteSplitting
import ShardingOnCloud.Distsql.Shadow
import ShardingOnCloud.Distsql.EncryptRule
import ShardingOnCloud.Distsql.EncryptRoundTrip
import ShardingOnCloud.Distsql.Mask
import ShardingOnCloud.Distsql.ShardingRoundTrip
import ShardingOnCloud.Distsql.Printing
import ShardingOnCloud.Distsql.PropertyValues
import ShardingOnCloud.Wasm.Sharding
import ShardingOnCloud.Wasm.ModuloTable
import ShardingOnCloud.Wasm.ModSharding
import ShardingOnCloud.Wasm.ShardSuffixes
import ShardingOnCloud.Wasm.RangeRouting
import ShardingOnCloud.Wasm.Crc32
import ShardingOnCloud.Wasm.Crc32Texts
import ShardingOnCloud.Wasm.JsLoop
import ShardingOnCloud.Wasm.CallbackAccounts
import ShardingOnCloud.Wasm.PollDelivery
import ShardingOnCloud.Wasm.HttpChunks
import ShardingOnCloud.Wasm.HttpResponses
import ShardingOnCloud.Pitr.Model
import ShardingOnCloud.Pitr.Calls
import ShardingOnCloud.Pitr.LocalStorage
import ShardingOnCloud.Pitr.Backup
import ShardingOnCloud.Pitr.BackupSpec
import ShardingOnCloud.Pitr.LockProtocol
import ShardingOnCloud.Pitr.ClusterLock
import ShardingOnCloud.Pitr.LockExclusion
import ShardingOnCloud.Pitr.BackupRuns
import ShardingOnCloud.Pitr.BackupCut
import ShardingOnCloud.Pitr.BackupCleanup
import ShardingOnCloud.Pitr.Restore
import ShardingOnCloud.Pitr.RestoreSpec
import ShardingOnCloud.Pitr.RestoreRuns
import ShardingOnCloud.Pitr.RestoreMetadata
import ShardingOnCloud.Pitr.RecordStore
import ShardingOnCloud.Pitr.RestoreRecord
import ShardingOnCloud.Pitr.StorageSpec
import ShardingOnCloud.Pitr.Delete
import ShardingOnCloud.Pitr.DeleteSpec
import ShardingOnCloud.Pitr.HiddenRecords
import ShardingOnCloud.Pitr.RecordFiles
import ShardingOnCloud.Pitr.BackupFiles
import ShardingOnCloud.Pitr.FailedBackup
import ShardingOnCloud.Pitr.LeftRecord
import ShardingOnCloud.Pitr.BackupIds
import ShardingOnCloud.Pitr.Progress
import ShardingOnCloud.Pitr.LeftGoroutines
import ShardingOnCloud.Pitr.Rendering
import ShardingOnCloud.Pitr.RecordTermination
import ShardingOnCloud.Pitr.BackupTask
import ShardingOnCloud.Pitr.BackupVerdict
import ShardingOnCloud.Pitr.AgentAddresses
import ShardingOnCloud.Pitr.RecordMap
import ShardingOnCloud.Pitr.Encoding
import ShardingOnCloud.Pitr.MetadataText
import ShardingOnCloud.Pitr.ReadSafety
import ShardingOnCloud.Pitr.ExportedNodes
import ShardingOnCloud.Agent.Commands
import ShardingOnCloud.Agent.Restore
import ShardingOnCloud.Agent.RestoreSpec
import ShardingOnCloud.Agent.DataDirectory
import ShardingOnCloud.Agent.HandlerRuns
import ShardingOnCloud.Agent.RestoreOrder
import ShardingOnCloud.Agent.Rollback
import ShardingOnCloud.Agent.RequestSequence
import ShardingOnCloud.Agent.Exec
import ShardingOnCloud.Agent.CommandLine
import ShardingOnCloud.Agent.Show
import ShardingOnCloud.Agent.Handlers
import ShardingOnCloud.Agent.Wire
import ShardingOnCloud.Agent.AsyncExec
import ShardingOnCloud.Agent.AsyncBackup
import ShardingOnCloud.Agent.TempDirectory
import ShardingOnCloud.Operator.StorageNodeTypes
import ShardingOnCloud.Operator.ComputeNodeTypes
import ShardingOnCloud.Operator.Calls
import ShardingOnCloud.Operator.Server
import ShardingOnCloud.Operator.Rds
import ShardingOnCloud.Operator.Usernames
import ShardingOnCloud.Operator.FinalSnapshot
import ShardingOnCloud.Operator.CloudNativePG
import ShardingOnCloud.Operator.StorageNodeController
import ShardingOnCloud.Operator.PGReadiness
import ShardingOnCloud.Operator.StorageNodeSpec
import ShardingOnCloud.Operator.StorageNodeRuns
import ShardingOnCloud.Operator.StorageNodeConditions
import ShardingOnCloud.Operator.RegisterText
import ShardingOnCloud.Operator.Provisioning
import ShardingOnCloud.Operator.PendingFinalizer
import ShardingOnCloud.Operator.ReclaimPolicy
import ShardingOnCloud.Operator.StorageNodeWrites
import ShardingOnCloud.Operator.Finalizer
import ShardingOnCloud.Operator.StorageUnits
import ShardingOnCloud.Operator.UnitStatements
import ShardingOnCloud.Operator.Orphans
import ShardingOnCloud.Operator.FinalizeRetry
import ShardingOnCloud.Operator.Registration
import ShardingOnCloud.Operator.Credentials
import ShardingOnCloud.Operator.RdsRequests
import ShardingOnCloud.Operator.ComputeNodeService
import ShardingOnCloud.Operator.ServiceConvergence
import ShardingOnCloud.Operator.NodePorts
import ShardingOnCloud.Operator.ServicePanics
import ShardingOnCloud.Operator.ComputeNodeStatus
import ShardingOnCloud.Operator.Conditions
import ShardingOnCloud.Operator.ConditionMerge
import ShardingOnCloud.Operator.PodConditions
import ShardingOnCloud.Operator.ProxyTypes
import ShardingOnCloud.Operator.ProxyDeployment
import ShardingOnCloud.Operator.DeploymentUpdate
import ShardingOnCloud.Operator.ComputeNodeDeployment
import ShardingOnCloud.Operator.BuiltPods
import ShardingOnCloud.Operator.PodFeatures
import ShardingOnCloud.Operator.MountedConfig
import ShardingOnCloud.Operator.ComputeNodeController
import ShardingOnCloud.Operator.ComputeNodeRuns
import ShardingOnCloud.Operator.ComputeNodeSettling
import ShardingOnCloud.Operator.ProxyReadiness
import ShardingOnCloud.Operator.ProxyConditions
import ShardingOnCloud.Operator.ProxyService
import ShardingOnCloud.Operator.ChaosTypes
import ShardingOnCloud.Operator.ChaosMesh
import ShardingOnCloud.Operator.BandwidthLimits
import ShardingOnCloud.Operator.PressureRun
import ShardingOnCloud.Operator.PressureAccounting
import ShardingOnCloud.Operator.PressureInterference
import ShardingOnCloud.Operator.ChaosTranslation
import ShardingOnCloud.Operator.ChaosController
import ShardingOnCloud.Operator.ChaosFinalizer
import ShardingOnCloud.Operator.QuiescentWrites
import ShardingOnCloud.Operator.Autoscaling
import ShardingOnCloud.Operator.ProxyHPA
import ShardingOnCloud.Operator.ProxyController
import ShardingOnCloud.Operator.DeploymentIdempotence
import ShardingOnCloud.Operator.ProxyAutoscaler
import ShardingOnCloud.Operator.ProxySuccess
