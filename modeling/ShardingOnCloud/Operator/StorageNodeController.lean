import ShardingOnCloud.Operator.CloudNativePG
import ShardingOnCloud.Operator.Rds
import ShardingOnCloud.Operator.Server

namespace ShardingOnCloud.Operator.StorageNodeController

open ShardingOnCloud.Lib.Program ShardingOnCloud.Lib.Strconv
open ShardingOnCloud.Operator.StorageNodeTypes ShardingOnCloud.Operator.Calls
open ShardingOnCloud.Operator.Rds ShardingOnCloud.Operator.CloudNativePG

/-- `ctrl.Result`, with the time of `RequeueAfter` in seconds. -/
structure Result where
  requeue : Bool := false
  requeueAfter : ℕ := 0
  deriving DecidableEq, Repr

abbrev Res := Result × Option Err

def defaultRequeueTime : ℕ := 10

/-- The credentials that the operator was started with. -/
structure AwsConfig where
  region : String
  accessKeyID : String
  secretAccessKey : String

def instanceStatus (instance_ : DescInstance) : InstanceStatus :=
  ⟨instance_.dbInstanceStatus, instance_.endpoint⟩

def updateAWSRDSInstanceStatus (node : StorageNode) (instance_ : Option DescInstance) :
    StorageNode :=
  { node with status := { node.status with instances := (instance_.map instanceStatus).toList } }

def clusterStatus : Option DescCluster → ClusterStatus
  | none => {}
  | some cluster =>
    { status := cluster.status
      primaryEndpoint := ⟨cluster.primaryEndpoint, cluster.port⟩
      readerEndpoints := [⟨cluster.readerEndpoint, cluster.port⟩] }

def updateClusterStatus (node : StorageNode) (cluster : Option DescCluster) :
    Rec (Except Err StorageNode) := do
  let node := { node with status := { node.status with cluster := clusterStatus cluster } }
  let identifier := node.annotations.get annotationsClusterIdentifier
  match ← getInstancesByFilters [("db-cluster-id", [identifier])] with
  | .error err => return .error ("GetInstances failed, err:" ++ err)
  | .ok instances =>
    return .ok { node with
      status := { node.status with instances := instances.map instanceStatus } }

abbrev Held := StorageNode × StorageProvider

def reconcileAwsRdsInstance (node : StorageNode) (sp : StorageProvider) :
    Rec (Except Err Held) := do
  match ← getInstance node.annotations with
  | .error err => return .error err
  | .ok instance_ =>
    if instance_.isNone ∧ node.status.phase ≠ .deleting then
      match ← createInstance node.annotations sp.parameters with
      | .error err => return .error err
      | .ok (annotations, params) =>
        let node := { node with annotations := annotations }
        let sp := { sp with parameters := params }
        match ← getInstance node.annotations with
        | .error err => return .error err
        | .ok instance_ => return .ok (updateAWSRDSInstanceStatus node instance_, sp)
    else return .ok (updateAWSRDSInstanceStatus node instance_, sp)

def holdCluster (node : StorageNode) (sp : StorageProvider) (cluster : Option DescCluster) :
    Rec (Except Err Held) := do
  match ← updateClusterStatus node cluster with
  | .error err => return .error ("updateClusterStatus failed: " ++ err)
  | .ok node => return .ok (node, sp)

/-- The two reconciles of a cluster differ in how it is read and created. -/
def reconcileCluster (get : Dict → Rec (Except Err (Option DescCluster)))
    (create : StorageNode → Dict → Rec (Except Err Dict)) (node : StorageNode)
    (sp : StorageProvider) : Rec (Except Err Held) := do
  match ← get node.annotations with
  | .error err => return .error err
  | .ok (some cluster) => holdCluster node sp (some cluster)
  | .ok none =>
    match ← create node sp.parameters with
    | .error err => return .error err
    | .ok params =>
      match ← get node.annotations with
      | .error err => return .error err
      | .ok cluster => holdCluster node { sp with parameters := params } cluster

def reconcileAwsRDSCluster : StorageNode → StorageProvider → Rec (Except Err Held) :=
  reconcileCluster getRDSCluster (fun node => createRDSCluster node.annotations)

def reconcileAwsAurora : StorageNode → StorageProvider → Rec (Except Err Held) :=
  reconcileCluster getAuroraCluster
    (fun node => createAuroraCluster node.annotations node.replicas)

def phaseHealthy : String := "Cluster in healthy state"
def podHealthy : String := "healthy"

def pgInstances (s : String × List String) : List InstanceStatus :=
  s.2.map (fun pg => ⟨if s.1 = podHealthy then "available" else s.1, ⟨pg, 5432⟩⟩)

/-- The function, as opposed to the method of the same name. -/
def updateCloudNativePGClusterStatus (node : StorageNode) :
    Option PGCluster → StorageNode
  | none => node
  | some cluster =>
    { node with
      status := { node.status with
        phase := if cluster.status.phase = phaseHealthy then .ready else .notReady
        cluster :=
          { status := if cluster.status.phase = phaseHealthy then "available" else ""
            primaryEndpoint := ⟨cluster.status.writeService, 5432⟩
            readerEndpoints := [⟨cluster.status.readService, 5432⟩] }
        instances := cluster.status.instancesStatus.flatMap pgInstances } }

/-- The cluster that `CNPG.Build` returns. -/
def buildCluster (sp : StorageProvider) : Rec ClusterSpec :=
  match newCluster sp with
  | some spec => return spec
  | none => do
    let x ← op (.panic .clusterSpec)
    nomatch x

def createCloudNativePGCluster (sn : StorageNode) (sp : StorageProvider) : Rec (Option Err) := do
  let cluster ← buildCluster sp
  match ← op (.createPGCluster sn.name sn.nameSpace cluster) with
  | none | some (.alreadyExists _) => return none
  | some err => return some err.text

def updateCloudNativePGCluster (sp : StorageProvider) (cluster : PGCluster) :
    Rec (Option Err) := do
  let exp ← buildCluster sp
  if cluster.spec ≠ exp then
    match ← op (.updatePGCluster cluster.name cluster.nameSpace exp) with
    | none => return none
    | some err => return some err.text
  else return none

def applyCloudNativePGCluster (sn : StorageNode) (sp : StorageProvider) :
    Option PGCluster → Rec (Option Err)
  | some cluster => updateCloudNativePGCluster sp cluster
  | none => createCloudNativePGCluster sn sp

def reconcileCloudNativePG (sn : StorageNode) (sp : StorageProvider) :
    Rec (Except Err Held) := do
  match ← getClusterByNamespacedName sn.name sn.nameSpace with
  | .error err => return .error err.text
  | .ok cluster =>
    let node := updateCloudNativePGClusterStatus sn cluster
    match ← applyCloudNativePGCluster node sp cluster with
    | some err => return .error err
    | none => return .ok (node, sp)

/-- `strings.ToLower` of the protocols that the proxy knows is `String.toLower`. -/
def protocolType (props : Dict) : String :=
  let driver := props.get "proxy-frontend-database-protocol-type"
  (if driver = "" then "mysql" else driver).toLower

def getShardingsphereServer (node : StorageNode) : Rec (Option Err) := do
  let name := node.annotations.get annotationKeyComputeNodeName
  match ← op (.getComputeNode name node.nameSpace) with
  | .error err => return some ("get compute node failed: " ++ err.text)
  | .ok cn =>
    match cn.serverConfig.users with
    | [] => return some ("no user in compute node " ++ cn.objectMeta.nameSpace ++ "/" ++
        cn.objectMeta.name)
    | user :: _ =>
      match ← op (.getService name node.nameSpace) with
      | .error (.notFound _) => return some "get service failed: %!w(<nil>)"
      | .error err => return some ("get service failed: " ++ err.text)
      | .ok svc =>
        match svc.spec.ports with
        | [] => do
          let x ← op (.panic .servicePorts)
          nomatch x
        | port :: _ =>
          match ← Server.newServer (protocolType cn.serverConfig.props)
            (svc.objectMeta.name ++ "." ++ svc.objectMeta.nameSpace) (uint port.port)
            (before '@' user.user) user.password with
          | some err => return some ("new shardingsphere server failed: " ++ err)
          | none => return none

def requiredAnnos : List String :=
  [annotationKeyLogicDatabaseName, annotationsInstanceDBName, annotationKeyComputeNodeName]

def validateComputeNodeAnnotations (node : StorageNode) : Option Err :=
  (requiredAnnos.find? (fun anno => node.annotations.get anno = "")).map
    (fun anno => "annotation " ++ anno ++ " is required")

def getDSName (node : StorageNode) : String :=
  "ds_" ++ String.ofList (node.name.toList.map (fun c => if c = '-' then '_' else c))

def credential (node : StorageNode) (sp : StorageProvider) (anno param : String) : String :=
  if node.annotations.get anno = "" then sp.parameters.get param else node.annotations.get anno

def getUsername (node : StorageNode) (sp : StorageProvider) : String :=
  credential node sp annotationsMasterUsername "masterUsername"

def getPassword (node : StorageNode) (sp : StorageProvider) : String :=
  credential node sp annotationsMasterUserPassword "masterUserPassword"

def getDatasourceInfoFromInstance (node : StorageNode) : Rec Endpoint :=
  match node.status.instances with
  | [] => do
    let x ← op (.panic .instances)
    nomatch x
  | ins :: _ => return ins.endpoint

def getDatasourceInfoFromCluster (node : StorageNode) : Endpoint :=
  node.status.cluster.primaryEndpoint

def getDatasourceInfo (node : StorageNode) : Rec Endpoint :=
  if node.status.cluster.status = "" then getDatasourceInfoFromInstance node
  else return getDatasourceInfoFromCluster node

/-- The part of `registerStorageUnit` with the server at hand. -/
def registerAt (node : StorageNode) (sp : StorageProvider) : Rec (Except Err StorageNode) := do
  let logicDBName := node.annotations.get annotationKeyLogicDatabaseName
  let dbName := node.annotations.get annotationsInstanceDBName
  match ← Server.createDatabase logicDBName with
  | some err => return .error ("create database failed: " ++ err)
  | none =>
    let endpoint ← getDatasourceInfo node
    match ← Server.registerStorageUnit logicDBName (getDSName node) endpoint.address
      (uint endpoint.port) dbName (getUsername node sp) (getPassword node sp) with
    | some err => return .error ("register storage node failed: " ++ err)
    | none => return .ok { node with status := { node.status with registered := true } }

def registerStorageUnit (node : StorageNode) (sp : StorageProvider) :
    Rec (Except Err StorageNode) := do
  if node.annotations.get annotationKeyRegisterStorageUnitEnabled ≠ "true" then return .ok node
  else
    match validateComputeNodeAnnotations node with
    | some err => return .error err
    | none =>
      if node.status.registered then return .ok node
      else if node.status.phase ≠ .ready then return .ok node
      else
        match ← getShardingsphereServer node with
        | some err => return .error ("getShardingsphereServer failed: " ++ err)
        | none => do
          let r ← registerAt node sp
          let _ ← op .dbClose
          return r

def unregisterStorageUnit (node : StorageNode) : Rec (Except Err StorageNode) := do
  if !node.status.registered then return .ok node
  else
    match validateComputeNodeAnnotations node with
    | some err => return .error err
    | none =>
      match ← getShardingsphereServer node with
      | some err => return .error ("getShardingsphereServer failed: " ++ err)
      | none => do
        let err ← Server.unRegisterStorageUnit
          (node.annotations.get annotationKeyLogicDatabaseName) (getDSName node)
        let _ ← op .dbClose
        match err with
        | some err => return .error ("unregister storage unit failed: " ++ err)
        | none => return .ok { node with status := { node.status with registered := false } }

def deleteAWSRDSInstance (node : StorageNode) (sp : StorageProvider) :
    Rec (Except Err StorageNode) := do
  if node.annotations.get annotationsInstanceIdentifier = "" then return .ok node
  else
    match ← getInstance node.annotations with
    | .error err => return .error err
    | .ok none => return .ok (updateAWSRDSInstanceStatus node none)
    | .ok (some instance_) =>
      if instance_.dbInstanceStatus = statusDeleting then
        return .ok (updateAWSRDSInstanceStatus node (some instance_))
      else
        match ← deleteInstance node.annotations sp.reclaimPolicy with
        | some err => return .error err
        | none => return .ok (updateAWSRDSInstanceStatus node (some instance_))

def noteCluster (node : StorageNode) (cluster : Option DescCluster) :
    Rec (Except Err StorageNode) := do
  match ← updateClusterStatus node cluster with
  | .error err => return .error ("updateClusterStatus failed: " ++ err)
  | .ok node => return .ok node

/-- The two deletions of a cluster differ in how it is read and deleted. -/
def deleteCluster (what : String) (get : Dict → Rec (Except Err (Option DescCluster)))
    (delete : Dict → ReclaimPolicy → Rec (Option Err)) (node : StorageNode)
    (sp : StorageProvider) : Rec (Except Err StorageNode) := do
  if node.annotations.get annotationsClusterIdentifier = "" then return .ok node
  else
    match ← get node.annotations with
    | .error err => return .error ("get " ++ what ++ " failed: " ++ err)
    | .ok none => noteCluster node none
    | .ok (some cluster) =>
      if cluster.status = statusDeleting then noteCluster node (some cluster)
      else
        match ← delete node.annotations sp.reclaimPolicy with
        | some err => return .error err
        | none => noteCluster node (some cluster)

def deleteAWSRDSCluster : StorageNode → StorageProvider → Rec (Except Err StorageNode) :=
  deleteCluster "rds cluster" getRDSCluster deleteRDSCluster

def deleteAWSAurora : StorageNode → StorageProvider → Rec (Except Err StorageNode) :=
  deleteCluster "aurora cluster" getAuroraCluster deleteAuroraCluster

def wrapErr (what : String) : Except Err StorageNode → Except Err StorageNode
  | .error err => .error (what ++ err)
  | .ok node => .ok node

def deleteDatabaseCluster (node : StorageNode) (sp : StorageProvider) :
    Rec (Except Err StorageNode) :=
  match sp.provisioner with
  | .awsRdsInstance => do
    return wrapErr "delete aws rds instance failed: " (← deleteAWSRDSInstance node sp)
  | .awsRdsCluster => do
    return wrapErr "delete aws rds cluster failed: " (← deleteAWSRDSCluster node sp)
  | .awsAurora => do
    return wrapErr "delete aws aurora cluster failed: " (← deleteAWSAurora node sp)
  | .cloudNativePG | .unsupported _ =>
    return .error ("unsupported database provisioner " ++ sp.provisioner.text)

def removeFinalizer (node : StorageNode) (name : String) : StorageNode :=
  { node with finalizers := node.finalizers.filter (· ≠ name) }

/-- The cluster is deleted whatever the reclaim policy is. -/
def deleteCloudNativePGCluster : Option PGCluster → Rec (Option ApiErr)
  | some cluster => op (.deletePGCluster cluster.name cluster.nameSpace)
  | none => return none

def finalizeCloudNativePG (node : StorageNode) : Rec Res := do
  match ← getClusterByNamespacedName node.name node.nameSpace with
  | .error err => return ({ requeue := true }, some err.text)
  | .ok cluster =>
    match ← deleteCloudNativePGCluster cluster with
    | some err => return ({ requeue := true }, some err.text)
    | none =>
      match ← op (.update (removeFinalizer node chaosFinalizerName)) with
      | some err => return ({}, some err.text)
      | none => return ({ requeueAfter := defaultRequeueTime }, none)

/-- The end of a pass. The old status is compared with the new one through a pointer
on one side only, so the two are never equal and the status is always sent. -/
def storeStatus (node : StorageNode) : Rec Res := do
  match ← op (.statusUpdate { node with status := computeDesiredState node.status }) with
  | some err => return ({ requeue := true }, some err.text)
  | none => return ({ requeueAfter := defaultRequeueTime }, none)

/-- `finalize` after the switch over the phase, for the provisioners of AWS. -/
def finalizeDatabase (node : StorageNode) (sp : StorageProvider) : Rec Res := do
  match ← unregisterStorageUnit node with
  | .error err => return ({ requeueAfter := defaultRequeueTime }, some err)
  | .ok node =>
    match ← deleteDatabaseCluster node sp with
    | .error err => return ({ requeueAfter := defaultRequeueTime }, some err)
    | .ok node => storeStatus node

def finalizePhase : Phase → Phase
  | .ready | .notReady | .deleting => .deleting
  | .deleteComplete => .deleteComplete
  | .unset => .unset
  | .other name => .other name

def finalize (node : StorageNode) (sp : StorageProvider) : Rec Res := do
  if node.status.phase = .deleteComplete then
    let _ ← op (.update (removeFinalizer node finalizerName))
    return ({}, none)
  else
    let node := { node with
      status := { node.status with phase := finalizePhase node.status.phase } }
    if sp.provisioner = .cloudNativePG then finalizeCloudNativePG node
    else finalizeDatabase node sp

def reconcileProvisioner (node : StorageNode) (sp : StorageProvider) :
    Option (Rec (Except Err Held)) :=
  match sp.provisioner with
  | .awsRdsInstance => some (reconcileAwsRdsInstance node sp)
  | .awsRdsCluster => some (reconcileAwsRDSCluster node sp)
  | .awsAurora => some (reconcileAwsAurora node sp)
  | .cloudNativePG => some (reconcileCloudNativePG node sp)
  | .unsupported _ => none

def reconcile (sp : StorageProvider) (node : StorageNode) : Rec Res :=
  match reconcileProvisioner node sp with
  | none => return ({ requeueAfter := defaultRequeueTime }, none)
  | some provision => do
    match ← provision with
    | .error err => return ({ requeueAfter := defaultRequeueTime }, some err)
    | .ok (node, sp) =>
      match ← registerStorageUnit node sp with
      | .error err => return ({ requeue := true }, some err)
      | .ok node => storeStatus node

def getStorageProvider (aws : AwsConfig) (node : StorageNode) :
    Rec (Except Err StorageProvider) := do
  if node.storageProviderName = "" then return .error "storageProviderName is nil"
  else
    match ← op (.getStorageProvider node.storageProviderName) with
    | .error err => return .error err.text
    | .ok sp =>
      if sp.provisioner.isAws ∧
          (aws.region = "" ∨ aws.accessKeyID = "" ∨ aws.secretAccessKey = "") then
        return .error "aws credentials not set"
      else return .ok sp

def addFinalizer (node : StorageNode) : StorageNode :=
  { node with finalizers := node.finalizers ++ [finalizerName] }

def adopt (node : StorageNode) (sp : StorageProvider) : Rec Res := do
  match ← op (.update (addFinalizer node)) with
  | some err => return ({}, some err.text)
  | none => reconcile sp (addFinalizer node)

/-- `Reconcile` with the node and the provider at hand. -/
def handle (node : StorageNode) (sp : StorageProvider) : Rec Res :=
  if !node.deletionTimestamp then
    if finalizerName ∈ node.finalizers then reconcile sp node else adopt node sp
  else if finalizerName ∈ node.finalizers then finalize node sp
  else reconcile sp node

/-- `Reconcile`. -/
def reconcileStorageNode (aws : AwsConfig) : Rec Res := do
  match ← op .getNode with
  | .error (.notFound _) => return ({}, none)
  | .error err => return ({}, some err.text)
  | .ok node =>
    match ← getStorageProvider aws node with
    | .error err => return ({ requeue := true }, some err)
    | .ok sp => handle node sp

end ShardingOnCloud.Operator.StorageNodeController
