import ShardingOnCloud.Lib.Strconv
import ShardingOnCloud.Operator.Calls

namespace ShardingOnCloud.Operator.Rds

open ShardingOnCloud.Lib.Program ShardingOnCloud.Lib.Strconv
open ShardingOnCloud.Operator.StorageNodeTypes ShardingOnCloud.Operator.Calls

/-- Runs of two or more `c` become one. -/
def squeeze (c : Char) : List Char → List Char
  | [] => []
  | [a] => [a]
  | a :: b :: cs => if a = c ∧ b = c then squeeze c (b :: cs) else a :: squeeze c (b :: cs)

def usernameChar (c : Char) : Bool :=
  ('a' ≤ c && c ≤ 'z') || ('A' ≤ c && c ≤ 'Z') || ('0' ≤ c && c ≤ '9') || c == '_' || c == '-'

def normalize (str : String) : String := String.ofList (squeeze '-' (squeeze '_' str.toList))

def validateusername (str : String) : Except Err String :=
  if str.utf8ByteSize > 16 then .error "username length should be less than 16"
  else if str.toList ≠ [] ∧ str.toList.all usernameChar then .ok (normalize str)
  else .error "username contains invalid characters"

def passwordChars : String :=
  "ABCDEFGHIJKLMNOPQRSTUVWXYZabcdefghijklmnopqrstuvwxyz0123456789!#$%^&*()_+-=\x7b\x7d[]:;?"

def generate (gentype : String) : Rec String := do
  if gentype = "masterUsername" then
    match ← op (.randInt 16) with
    | .error _ => return ""
    | .ok nBig => op (.stringN (nBig + 1))
  else if gentype = "masterUserPassword" then
    match ← op (.randInt 34) with
    | .error _ => return ""
    | .ok nBig => op (.stringCustom (nBig + 8) passwordChars)
  else return ""

def requiredInstanceParams : List (String × String) :=
  [("engine", "engine is empty"),
   ("engineVersion", "engine version is empty"),
   ("instanceClass", "instance class is empty"),
   ("masterUsername", "master username is empty"),
   ("masterUserPassword", "master user password is empty"),
   ("allocatedStorage", "allocated storage is empty")]

def message (table : List (String × String)) (k : String) : String := (table.lookup k).getD ""

/-- The loop over the required parameters of an instance. Missing credentials are
made up and put into the map of the parameters. -/
def requireParams : List String → Dict → Rec (Except Err Dict)
  | [], params => return .ok params
  | k :: ks, params => do
    if params.get k = "" then
      if k = "masterUserPassword" ∨ k = "masterUsername" then
        let generator ← generate k
        requireParams ks (params.set k generator)
      else return .error (message requiredInstanceParams k)
    else requireParams ks params

/-- The checks after the loop, with the annotations that they leave behind. -/
def checkInstanceParams (annotations params : Dict) : Except Err (Dict × Dict) :=
  match validateusername (params.get "masterUsername") with
  | .error err => .error err
  | .ok validatedUsername =>
    let params := params.set "masterUsername" validatedUsername
    if annotations.get annotationsInstanceIdentifier = "" then
      .error "instance identifier is empty"
    else
      let lp := (params.get "masterUserPassword").utf8ByteSize
      if lp < 8 ∨ lp > 41 then .error "master user password length should be greater than 8"
      else .ok (annotations.set annotationsMasterUserPassword (params.get "masterUserPassword"),
        params)

def validCreateInstanceParams (annotations params : Dict) : Rec (Except Err (Dict × Dict)) := do
  let order ← op (.rangeMap (requiredInstanceParams.map Prod.fst))
  match ← requireParams order.1 params with
  | .error err => return .error err
  | .ok params => return checkInstanceParams annotations params

/-- The request, from the annotations and the parameters after they were checked. -/
def createInstanceIn (annotations params : Dict) (storage : Int) : CreateInstanceIn where
  engine := params.get "engine"
  engineVersion := params.get "engineVersion"
  dbInstanceClass := params.get "instanceClass"
  dbInstanceIdentifier := annotations.get annotationsInstanceIdentifier
  masterUsername := params.get "masterUsername"
  masterUserPassword := params.get "masterUserPassword"
  allocatedStorage := int32 storage
  -- the annotation is not the name of the database but the parameter that holds it
  dbName := params (annotations.get annotationsInstanceDBName)

def createInstance (annotations params : Dict) : Rec (Except Err (Dict × Dict)) := do
  match ← validCreateInstanceParams annotations params with
  | .error err => return .error err
  | .ok (annotations, params) =>
    match parseInt 64 (params.get "allocatedStorage") with
    | (_, some e) =>
      return .error ("allocated storage is not a number: " ++
        numError "ParseInt" (params.get "allocatedStorage") e)
    | (storage, none) =>
      match ← op (.createInstance (createInstanceIn annotations params storage)) with
      | some err => return .error err
      | none => return .ok (annotations, params)

def getInstance (annotations : Dict) : Rec (Except Err (Option DescInstance)) :=
  match annotations annotationsInstanceIdentifier with
  | none => return .error "instance identifier is empty"
  | some identifier => op (.describeInstance identifier)

def getInstancesByFilters (filters : List (String × List String)) :
    Rec (Except Err (List DescInstance)) := op (.describeInstances filters)

def deleteInstanceIn (identifier : String) : ReclaimPolicy → DeleteInstanceIn
  | .deleteWithFinalSnapshot => ⟨identifier, true, false⟩
  | .delete => ⟨identifier, true, true⟩
  | .retain => ⟨identifier, false, true⟩

def deleteInstance (annotations : Dict) (policy : ReclaimPolicy) : Rec (Option Err) :=
  match annotations annotationsInstanceIdentifier with
  | none => return some "instance identifier is empty"
  | some identifier => do
    match ← getInstance annotations with
    | .error err => return some err
    | .ok none => return none
    | .ok (some ins) =>
      if ins.dbInstanceStatus = statusDeleting then return none
      else op (.deleteInstance (deleteInstanceIn identifier policy))

def requiredAuroraParams : List (String × String) :=
  [("instanceClass", "instance class is empty"),
   ("engine", "engine is empty"),
   ("engineVersion", "engine version is empty"),
   ("clusterIdentifier", "cluster identifier is empty"),
   ("masterUsername", "master username is empty"),
   ("masterUserPassword", "master user password is empty")]

def requiredClusterParams : List (String × String) :=
  requiredAuroraParams ++
    [("allocatedStorage", "allocated storage is empty"),
     ("iops", "iops is empty"),
     ("storageType", "storage type is empty")]

/-- The checks that Aurora and RDS clusters share: the identifier of the annotations is
put into the map of the parameters, and then nothing of the table may be missing. -/
def validateClusterParams (table : List (String × String)) (annotations params : Dict) :
    Rec (Except Err Dict) := do
  if annotations.get annotationsClusterIdentifier = "" then
    return .error "cluster identifier is empty"
  else
    let params := params.set "clusterIdentifier" (annotations.get annotationsClusterIdentifier)
    if (params.get "clusterIdentifier").utf8ByteSize > 50 then
      return .error "cluster identifier is too long, max length is 50"
    else
      let order ← op (.rangeMap (table.map Prod.fst))
      match order.1.find? (fun k => params.get k = "") with
      | some k => return .error (message table k)
      | none => return .ok params

def validateCreateAuroraParams (annotations params : Dict) : Rec (Except Err Dict) :=
  validateClusterParams requiredAuroraParams annotations params

/-- The part of a string before the first `sep`, which is the whole string without one. -/
def before (sep : Char) (s : String) : String := String.ofList (s.toList.takeWhile (· ≠ sep))

def splitComma (s : String) : List String := (s.splitOn ",")

def publicAccessible (params : Dict) : Bool := params "publicAccessible" ≠ some "false"

def vpcSecurityGroupIds (params : Dict) : Option (List String) :=
  if params.get "vpcSecurityGroupIds" ≠ "" then
    some (splitComma (params.get "vpcSecurityGroupIds"))
  else none

def createAuroraCluster (annotations : Dict) (replicas : Int) (params : Dict) :
    Rec (Except Err Dict) := do
  match ← validateCreateAuroraParams annotations params with
  | .error err => return .error err
  | .ok params =>
    match ← op (.createAurora
      { dbInstanceClass := params.get "instanceClass"
        engine := params.get "engine"
        engineVersion := params.get "engineVersion"
        dbClusterIdentifier := params.get "clusterIdentifier"
        masterUsername := params.get "masterUsername"
        masterUserPassword := params.get "masterUserPassword"
        instanceNumber := replicas
        dbName := annotations annotationsInstanceDBName
        publicAccessible := publicAccessible params
        vpcSecurityGroupIds := vpcSecurityGroupIds params }) with
    | some err => return .error ("create aurora cluster failed, " ++ err)
    | none => return .ok params

def getAuroraCluster (annotations : Dict) : Rec (Except Err (Option DescCluster)) :=
  match annotations annotationsClusterIdentifier with
  | none => return .error "cluster identifier is empty"
  | some identifier => op (.describeAurora identifier)

def deleteAuroraIn (identifier : String) : ReclaimPolicy → DeleteAuroraIn
  | .delete => ⟨identifier, true, true⟩
  | .retain => ⟨identifier, false, true⟩
  | .deleteWithFinalSnapshot => ⟨identifier, true, false⟩

def deleteAuroraCluster (annotations : Dict) (policy : ReclaimPolicy) : Rec (Option Err) :=
  match annotations annotationsClusterIdentifier with
  | none => return some "cluster identifier is empty"
  | some identifier => op (.deleteAurora (deleteAuroraIn identifier policy))

def validateCreateRDSClusterParams (annotations params : Dict) : Rec (Except Err Dict) := do
  match ← validateClusterParams requiredClusterParams annotations params with
  | .error err => return .error err
  | .ok params =>
    if params.get "engine" = "mysql" ∧ before '.' (params.get "engineVersion") ≠ "8" then
      return .error "mysql engine version is not supported, only support 8.x"
    else if params.get "storageType" ≠ "io1" then
      return .error "storage type is not supported, only support io1"
    else return .ok params

def getNumber (what : String) (lo hi : Int) (s : String) : Except Err Int :=
  match atoi s with
  | (_, some e) => .error (what ++ " is not a number, " ++ numError "Atoi" s e)
  | (n, none) =>
    if n < lo ∨ n > hi then
      .error (what ++ " is out of range, min is " ++ toString lo ++ ", max is " ++ toString hi)
    else .ok n

def getAllocatedStorage (s : String) : Except Err Int := getNumber "allocated storage" 100 65536 s

def getIOPS (s : String) : Except Err Int := getNumber "iops" 1000 256000 s

def clusterNumbers (params : Dict) : Except Err (Int × Int) :=
  match getAllocatedStorage (params.get "allocatedStorage") with
  | .error err => .error err
  | .ok allocatedStorage =>
    match getIOPS (params.get "iops") with
    | .error err => .error err
    | .ok iops =>
      if iops > allocatedStorage * 50 ∨ iops * 2 < allocatedStorage then
        .error ("the IOPS to GiB ratio must be between 0.5 and 50, current iops is " ++
          toString iops ++ ", allocated storage is " ++ toString allocatedStorage)
      else .ok (allocatedStorage, iops)

def createRDSCluster (annotations params : Dict) : Rec (Except Err Dict) := do
  match ← validateCreateRDSClusterParams annotations params with
  | .error err => return .error err
  | .ok params =>
    match clusterNumbers params with
    | .error err => return .error err
    | .ok (allocatedStorage, iops) =>
      match ← op (.createCluster
        { engine := params.get "engine"
          engineVersion := params.get "engineVersion"
          dbClusterIdentifier := params.get "clusterIdentifier"
          masterUsername := params.get "masterUsername"
          masterUserPassword := params.get "masterUserPassword"
          allocatedStorage := int32 allocatedStorage
          dbClusterInstanceClass := params.get "instanceClass"
          iops := int32 iops
          storageType := params.get "storageType"
          databaseName := (annotations annotationsInstanceDBName).filter (· ≠ "")
          publicAccessible := publicAccessible params
          vpcSecurityGroupIds := vpcSecurityGroupIds params }) with
      | some err => return .error ("create rds cluster failed, " ++ err)
      | none => return .ok params

def getRDSCluster (annotations : Dict) : Rec (Except Err (Option DescCluster)) :=
  match annotations annotationsClusterIdentifier with
  | none => return .error "cluster identifier is empty"
  | some identifier => op (.describeCluster identifier)

def deleteClusterIn (annotations : Dict) (identifier : String) (cluster : DescCluster) :
    ReclaimPolicy → Except Err DeleteClusterIn
  | .delete => .ok ⟨identifier, none, true⟩
  | .deleteWithFinalSnapshot =>
    if annotations.get annotationsFinalSnapshotIdentifier = "" then
      .error "final snapshot identifier is empty"
    else if cluster.status ≠ statusAvailable then
      .error "rds cluster is not available, can not delete with final snapshot"
    else .ok ⟨identifier, some (annotations.get annotationsFinalSnapshotIdentifier), false⟩
  | .retain => .error "rds cluster does not support retain policy"

def deleteRDSCluster (annotations : Dict) (policy : ReclaimPolicy) : Rec (Option Err) :=
  match annotations annotationsClusterIdentifier with
  | none => return some "cluster identifier is empty"
  | some identifier => do
    match ← op (.describeCluster identifier) with
    | .error err => return some ("describe rds cluster failed, " ++ err)
    | .ok none => return none
    | .ok (some cluster) =>
      if cluster.status = statusDeleting then return none
      else
        match deleteClusterIn annotations identifier cluster policy with
        | .error err => return some err
        | .ok i => op (.deleteCluster i)

end ShardingOnCloud.Operator.Rds
