import ShardingOnCloud.Lib.Footprint
import ShardingOnCloud.Operator.ComputeNodeTypes

namespace ShardingOnCloud.Operator.Calls

open ShardingOnCloud.Lib.Program ShardingOnCloud.Operator.StorageNodeTypes
open ShardingOnCloud.Operator.ComputeNodeTypes (ComputeNode Service)

structure DescInstance where
  dbInstanceStatus : String
  endpoint : Endpoint

structure DescCluster where
  status : String
  primaryEndpoint : String
  readerEndpoint : String
  port : Int

structure CreateInstanceIn where
  engine : String
  engineVersion : String
  dbInstanceClass : String
  dbInstanceIdentifier : String
  masterUsername : String
  masterUserPassword : String
  allocatedStorage : Int
  dbName : Option String

structure CreateClusterIn where
  engine : String
  engineVersion : String
  dbClusterIdentifier : String
  masterUsername : String
  masterUserPassword : String
  allocatedStorage : Int
  dbClusterInstanceClass : String
  iops : Int
  storageType : String
  databaseName : Option String
  publicAccessible : Bool
  vpcSecurityGroupIds : Option (List String)

structure CreateAuroraIn where
  dbInstanceClass : String
  engine : String
  engineVersion : String
  dbClusterIdentifier : String
  masterUsername : String
  masterUserPassword : String
  instanceNumber : Int
  dbName : Option String
  publicAccessible : Bool
  vpcSecurityGroupIds : Option (List String)

structure DeleteInstanceIn where
  dbInstanceIdentifier : String
  deleteAutomateBackups : Bool
  skipFinalSnapshot : Bool

structure DeleteAuroraIn where
  dbClusterIdentifier : String
  deleteAutomateBackups : Bool
  skipFinalSnapshot : Bool

structure DeleteClusterIn where
  dbClusterIdentifier : String
  finalDBSnapshotIdentifier : Option String
  skipFinalSnapshot : Bool

structure ReplicaClusterConfiguration where
  enabled : Bool
  source : String
  deriving DecidableEq

structure CertificatesConfiguration where
  serverCASecret : String
  serverTLSSecret : String
  replicationTLSSecret : String
  clientCASecret : String
  serverAltDNSNames : List String
  deriving DecidableEq

structure BackupConfiguration where
  retentionPolicy : String
  target : String
  deriving DecidableEq

/-- The part of a CloudNativePG cluster that is built from the parameters. What the
type has behind a pointer is an `Option`. -/
structure ClusterSpec where
  description : String := ""
  imageName : String := ""
  imagePullPolicy : String := ""
  postgresUID : Int := 0
  postgresGID : Int := 0
  instances : Int := 3
  minSyncReplicas : Int := 0
  maxSyncReplicas : Int := 0
  replicaCluster : Option ReplicaClusterConfiguration := none
  superuserSecret : Option String := none
  enableSuperuserAccess : Option Bool := none
  certificates : Option CertificatesConfiguration := none
  storageSize : String := "1Gi"
  maxStartDelay : Int := 0
  maxStopDelay : Int := 0
  maxSwitchoverDelay : Int := 0
  failoverDelay : Int := 0
  primaryUpdateStrategy : String := "unsupervised"
  primaryUpdateMethod : String := ""
  backup : Option BackupConfiguration := none
  logLevel : String := ""
  deriving DecidableEq

/-- The status of a CloudNativePG cluster. The instances stand in the order in
which a `range` loop visits the map of them. -/
structure PGStatus where
  phase : String
  writeService : String
  readService : String
  instancesStatus : List (String × List String)

structure PGCluster where
  name : String
  nameSpace : String
  spec : ClusterSpec
  status : PGStatus

/-- The statements that are sent to the proxy. -/
inductive Stmt
  | createDatabase (dbName : String)
  | useDatabase (dbName : String)
  | registerStorageUnit (dsName dsHost : String) (dsPort : ℕ) (dsDBName dsUser dsPassword : String)
  | showRulesUsed (dsName : String)
  | unRegisterStorageUnit (dsName : String)
  | dropRule (ruleType ruleName : String)

structure Rule where
  type : String
  name : String

/-- The rows of a query: each is read or fails to be read, and the iteration over
them may end with an error. -/
structure Rows where
  rows : List (Except Err Rule)
  err : Option Err

/-- Where the code would stop with a run-time error. -/
inductive Panic
  | instances
  | servicePorts
  | clusterSpec

/-- What the controller asks of the API server, of the provider, of the proxy and
of the source of random numbers. -/
inductive Op
  | getNode
  | getStorageProvider (name : String)
  | getComputeNode (name nameSpace : String)
  | getService (name nameSpace : String)
  | update (node : StorageNode)
  | statusUpdate (node : StorageNode)
  | describeInstance (identifier : String)
  | describeInstances (filters : List (String × List String))
  | describeCluster (identifier : String)
  | describeAurora (identifier : String)
  | createInstance (i : CreateInstanceIn)
  | createCluster (i : CreateClusterIn)
  | createAurora (i : CreateAuroraIn)
  | deleteInstance (i : DeleteInstanceIn)
  | deleteCluster (i : DeleteClusterIn)
  | deleteAurora (i : DeleteAuroraIn)
  | getPGCluster (name nameSpace : String)
  | createPGCluster (name nameSpace : String) (spec : ClusterSpec)
  | updatePGCluster (name nameSpace : String) (spec : ClusterSpec)
  | deletePGCluster (name nameSpace : String)
  | sqlOpen (driver dataSourceName : String)
  | dbPing
  | dbExec (s : Stmt)
  | dbQuery (s : Stmt)
  | dbClose
  | rangeMap (keys : List String)
  | randInt (max : ℕ)
  | stringN (n : ℕ)
  | stringCustom (n : ℕ) (chars : String)
  | panic (p : Panic)

/-- The answers. A `range` loop visits the keys of a map in an order that the
language leaves open. -/
@[reducible] def OpR : Op → Type
  | .getNode => Except ApiErr StorageNode
  | .getStorageProvider _ => Except ApiErr StorageProvider
  | .getComputeNode _ _ => Except ApiErr ComputeNode
  | .getService _ _ => Except ApiErr Service
  | .update _ | .statusUpdate _ => Option ApiErr
  | .describeInstance _ => Except Err (Option DescInstance)
  | .describeInstances _ => Except Err (List DescInstance)
  | .describeCluster _ | .describeAurora _ => Except Err (Option DescCluster)
  | .createInstance _ | .createCluster _ | .createAurora _ => Option Err
  | .deleteInstance _ | .deleteCluster _ | .deleteAurora _ => Option Err
  | .getPGCluster _ _ => Except ApiErr PGCluster
  | .createPGCluster _ _ _ | .updatePGCluster _ _ _ | .deletePGCluster _ _ => Option ApiErr
  | .sqlOpen _ _ | .dbPing | .dbExec _ | .dbClose => Option Err
  | .dbQuery _ => Except Err Rows
  | .rangeMap keys => { order : List String // order.Perm keys }
  | .randInt _ => Except Err ℕ
  | .stringN _ | .stringCustom _ _ => String
  | .panic _ => Empty

abbrev Rec := Proc Op OpR

abbrev Ev := Event Op OpR Empty

def op (c : Op) : Rec (OpR c) := .call c .ret

end ShardingOnCloud.Operator.Calls
