import Mathlib.Logic.Function.Basic
import Mathlib.Tactic.Common

namespace ShardingOnCloud.Operator.StorageNodeTypes

/-- An error is known by its message, with `none` for `nil`. -/
abbrev Err := String

/-- The errors of the API server, as `apierrors` tells them apart. -/
inductive ApiErr
  | notFound (err : Err)
  | alreadyExists (err : Err)
  | other (err : Err)

def ApiErr.text : ApiErr → Err
  | .notFound err | .alreadyExists err | .other err => err

abbrev Dict := String → Option String

/-- The value of a map at a key, which is empty when there is none. -/
def Dict.get (d : Dict) (k : String) : String := (d k).getD ""

def Dict.set (d : Dict) (k v : String) : Dict := Function.update d k (some v)

inductive Phase
  | unset
  | ready
  | notReady
  | deleting
  | deleteComplete
  | other (name : String)
  deriving DecidableEq, Repr

/-- The types that the controller writes, and any other that a stored status may hold. -/
inductive ConditionType
  | available
  | clusterReady
  | registered
  | other (name : String)
  deriving DecidableEq, Repr

inductive ConditionStatus
  | condTrue
  | condFalse
  | other (name : String)
  deriving DecidableEq, Repr

structure StorageNodeCondition where
  type : ConditionType
  status : ConditionStatus
  reason : String
  message : String := ""
  deriving DecidableEq, Repr

structure Endpoint where
  address : String
  port : Int
  deriving DecidableEq, Repr

structure ClusterStatus where
  status : String := ""
  primaryEndpoint : Endpoint := ⟨"", 0⟩
  readerEndpoints : List Endpoint := []
  deriving DecidableEq, Repr

structure InstanceStatus where
  status : String
  endpoint : Endpoint
  deriving DecidableEq, Repr

structure StorageNodeStatus where
  phase : Phase := .unset
  conditions : List StorageNodeCondition := []
  cluster : ClusterStatus := {}
  instances : List InstanceStatus := []
  registered : Bool := false
  deriving DecidableEq, Repr

structure StorageNode where
  name : String
  nameSpace : String
  annotations : Dict
  finalizers : List String
  deletionTimestamp : Bool
  storageProviderName : String
  replicas : Int
  status : StorageNodeStatus

inductive Provisioner
  | awsRdsInstance
  | awsRdsCluster
  | awsAurora
  | cloudNativePG
  | unsupported (name : String)
  deriving DecidableEq, Repr

inductive ReclaimPolicy
  | deleteWithFinalSnapshot
  | delete
  | retain
  deriving DecidableEq, Repr

structure StorageProvider where
  provisioner : Provisioner
  parameters : Dict
  reclaimPolicy : ReclaimPolicy := .retain

def Provisioner.text : Provisioner → String
  | .awsRdsInstance => "storageproviders.shardingsphere.apache.org/aws-rds-instance"
  | .awsRdsCluster => "storageproviders.shardingsphere.apache.org/aws-rds-cluster"
  | .awsAurora => "storageproviders.shardingsphere.apache.org/aws-aurora"
  | .cloudNativePG => "storageproviders.shardingsphere.apache.org/cloud-native-pg"
  | .unsupported name => name

def Provisioner.isAws : Provisioner → Bool
  | .awsRdsInstance | .awsRdsCluster | .awsAurora => true
  | .cloudNativePG | .unsupported _ => false

def finalizerName : String := "shardingsphere.apache.org/finalizer"

def chaosFinalizerName : String := "shardingsphere.apache.org/finalizer"

def annotationKeyRegisterStorageUnitEnabled : String :=
  "shardingsphere.apache.org/register-storage-unit-enabled"
def annotationKeyComputeNodeName : String := "shardingsphere.apache.org/compute-node-name"
def annotationKeyLogicDatabaseName : String := "shardingsphere.apache.org/logic-database-name"
def annotationsClusterIdentifier : String :=
  "storageproviders.shardingsphere.apache.org/cluster-identifier"
def annotationsInstanceIdentifier : String :=
  "storageproviders.shardingsphere.apache.org/instance-identifier"
def annotationsInstanceDBName : String :=
  "storageproviders.shardingsphere.apache.org/instance-db-name"
def annotationsMasterUsername : String :=
  "storageproviders.shardingsphere.apache.org/master-username"
def annotationsMasterUserPassword : String :=
  "storageproviders.shardingsphere.apache.org/master-user-password"
def annotationsFinalSnapshotIdentifier : String :=
  "storageproviders.shardingsphere.apache.org/final-snapshot-identifier"

/-- The states of instances and clusters that the code looks at. -/
def statusAvailable : String := "available"
def statusDeleting : String := "deleting"

def addCondition (c : List StorageNodeCondition) (condition : StorageNodeCondition) :
    List StorageNodeCondition := c ++ [condition]

def replaceCondition (condition : StorageNodeCondition) :
    List StorageNodeCondition → List StorageNodeCondition
  | [] => []
  | existing :: c =>
    if existing.type = condition.type then condition :: c
    else existing :: replaceCondition condition c

def upsertCondition (c : List StorageNodeCondition) (condition : StorageNodeCondition) :
    List StorageNodeCondition :=
  if c.any (fun existing => existing.type = condition.type) then replaceCondition condition c
  else addCondition c condition

def removeCondition (c : List StorageNodeCondition) (conditionType : ConditionType) :
    List StorageNodeCondition := c.filter (fun existing => existing.type ≠ conditionType)

def allInstancesReady (instances : List InstanceStatus) : Bool :=
  !instances.isEmpty && instances.all (fun i => i.status = statusAvailable)

theorem allInstancesReady_iff {instances : List InstanceStatus} :
    allInstancesReady instances = true ↔
      instances ≠ [] ∧ ∀ i ∈ instances, i.status = statusAvailable := by
  simp [allInstancesReady]

/-- The conditions, without the times of their last updates. -/
def computeNewConditions (desiredState status : StorageNodeStatus) (clusterStatus : String) :
    List StorageNodeCondition :=
  let c := status.conditions
  let c :=
    if clusterStatus ≠ "" then
      if clusterStatus = statusAvailable then
        upsertCondition c ⟨.clusterReady, .condTrue, "Cluster is ready", ""⟩
      else upsertCondition c ⟨.clusterReady, .condFalse, "Cluster is not ready", ""⟩
    else removeCondition c .clusterReady
  let c :=
    if desiredState.phase = .ready then
      upsertCondition c ⟨.available, .condTrue, "All instances are ready", ""⟩
    else upsertCondition c ⟨.available, .condFalse, "One or more instances are not ready", ""⟩
  if status.registered then
    upsertCondition c ⟨.registered, .condTrue, "StorageNode is registered", ""⟩
  else upsertCondition c ⟨.registered, .condFalse, "StorageNode is not registered", ""⟩

def computePhase (status : StorageNodeStatus) : Phase :=
  if status.phase = .deleting then
    if status.cluster.status = "" ∧ status.instances.length = 0 then .deleteComplete
    else status.phase
  else if (status.cluster.status = "" ∨ status.cluster.status = statusAvailable) ∧
      allInstancesReady status.instances then .ready
  else .notReady

def computeDesiredState (status : StorageNodeStatus) : StorageNodeStatus :=
  let desiredState := { status with phase := computePhase status }
  { desiredState with
    conditions := computeNewConditions desiredState status status.cluster.status }

@[simp] theorem computeDesiredState_phase (status : StorageNodeStatus) :
    (computeDesiredState status).phase = computePhase status := rfl

theorem computePhase_eq_ready {status : StorageNodeStatus} :
    computePhase status = .ready ↔ status.phase ≠ .deleting ∧
      (status.cluster.status = "" ∨ status.cluster.status = statusAvailable) ∧
      allInstancesReady status.instances = true := by
  unfold computePhase
  by_cases hd : status.phase = .deleting
  · rw [if_pos hd]
    split <;> simp [hd]
  · rw [if_neg hd]
    split <;> simp_all

theorem computePhase_eq_deleting {status : StorageNodeStatus}
    (h : computePhase status = .deleting) : status.phase = .deleting := by
  unfold computePhase at h
  by_contra hd
  rw [if_neg hd] at h
  split at h <;> cases h

theorem computePhase_eq_deleteComplete {status : StorageNodeStatus} :
    computePhase status = .deleteComplete ↔
      status.phase = .deleting ∧ status.cluster.status = "" ∧ status.instances = [] := by
  unfold computePhase
  by_cases hd : status.phase = .deleting
  · rw [if_pos hd]
    split <;> simp_all
  · rw [if_neg hd]
    split <;> simp [hd]

end ShardingOnCloud.Operator.StorageNodeTypes
