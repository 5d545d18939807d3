import Mathlib.Data.List.Induction
import Mathlib.Logic.Function.Basic
import Mathlib.Tactic.Common

namespace ShardingOnCloud.Pitr.Model

/-- An error is known by its message. The result of a function that returns only
an `error` is an `Option Err`, with `none` for `nil`. -/
abbrev Err := String

structure BackupStatus where
  text : String
  deriving DecidableEq, Repr

def ssBackupStatusWaiting : BackupStatus := ⟨"Waiting"⟩
def ssBackupStatusRunning : BackupStatus := ⟨"Running"⟩
def ssBackupStatusCompleted : BackupStatus := ⟨"Completed"⟩
def ssBackupStatusFailed : BackupStatus := ⟨"Failed"⟩
def ssBackupStatusCheckError : BackupStatus := ⟨"CheckError"⟩
def ssBackupStatusCanceled : BackupStatus := ⟨"Canceled"⟩

structure DBBackupMode where
  text : String
  deriving DecidableEq, Repr

/-- A map of the source. The entries stand in the order in which a `range` loop
visits them, which the language leaves open. -/
structure StringMap where
  entries : List (String × String)
  nodup_keys : (entries.map Prod.fst).Nodup

def StringMap.keys (m : StringMap) : List String := m.entries.map Prod.fst

structure MetaData where
  databases : StringMap
  props : String
  rules : String

structure SnapshotInfo where
  csn : String
  createTime : String

structure ClusterInfo where
  metaData : MetaData
  snapshotInfo : Option SnapshotInfo

structure StorageNode where
  ip : String
  port : UInt16
  username : String
  password : String
  database : String
  remark : String
  deriving DecidableEq

structure SsBackup where
  status : BackupStatus
  clusterInfo : Option ClusterInfo
  storageNodes : List StorageNode

structure DataNode where
  ip : String
  port : UInt16
  status : BackupStatus
  backupID : String
  startTime : String
  endTime : String
  deriving DecidableEq

structure BackupMetaInfo where
  id : String
  csn : String
  backupMode : DBBackupMode
  startTime : String
  endTime : String
  fileName : String

/-- The local backup record. The pointers that a stored file may leave out are
optional here. -/
structure LsBackup where
  info : Option BackupMetaInfo
  dnList : List DataNode
  ssBackup : Option SsBackup

structure HealthCheckIn where
  dbPort : UInt16
  dbName : String
  username : String
  password : String

structure DiskSpaceIn where
  diskPath : String

structure BackupIn where
  dbPort : UInt16
  dbName : String
  username : String
  password : String
  dnBackupPath : String
  dnThreadsNum : UInt8
  dnBackupMode : DBBackupMode
  instanceName : String

structure DeleteBackupIn where
  dbPort : UInt16
  dbName : String
  username : String
  password : String
  dnBackupPath : String
  backupID : String
  instanceName : String

structure RestoreIn where
  dbPort : UInt16
  dbName : String
  username : String
  password : String
  instanceName : String
  dnBackupPath : String
  dnBackupID : String
  dnThreadsNum : UInt8

structure ShowDetailIn where
  dbPort : UInt16
  dbName : String
  username : String
  password : String
  dnBackupID : String
  dnBackupPath : String
  instanceName : String

structure BackupInfo where
  id : String
  path : String
  mode : String
  instanceName : String
  startTime : String
  endTime : String
  status : BackupStatus

structure RestoreResult where
  ip : String
  port : UInt16
  status : String

structure DeleteBackupResult where
  ip : String
  port : UInt16
  status : BackupStatus
  msg : String

/-- The package variables that the command line sets. -/
structure Flags where
  host : String
  port : UInt16
  username : String
  password : String
  agentPort : UInt16
  backupPath : String
  backupMode : DBBackupMode
  threadsNum : UInt8
  csn : String
  recordID : String
  home : String

def Flags.sample : Flags :=
  { host := "10.0.0.1", port := 3307, username := "root", password := "root", agentPort := 443,
    backupPath := "/home/omm/data", backupMode := ⟨"FULL"⟩, threadsNum := 1, csn := "",
    recordID := "1", home := "/home/omm" }

def defaultInstance : String := "ins-default-ss"
def defaultDBName : String := "postgres"
def defaultShowDetailRetryTimes : ℕ := 3

def defaultRootDir (f : Flags) : String := f.home ++ "/" ++ ".gs_pitr"

def convertLocalhost (f : Flags) (ip : String) : String :=
  if ip = "127.0.0.1" then f.host else ip

/-- The address of the agent server that is asked on behalf of a storage node. -/
def agentAddr (f : Flags) (sn : StorageNode) : String :=
  convertLocalhost f sn.ip ++ ":" ++ toString f.agentPort

/-- The table that the source builds from `DnList`; a later entry of the same IP
replaces an earlier one. -/
def dataNodeMap (dnList : List DataNode) : String → Option DataNode :=
  dnList.foldl (fun m dn => Function.update m dn.ip (some dn)) (fun _ => none)

theorem dataNodeMap_append (xs : List DataNode) (dn : DataNode) :
    dataNodeMap (xs ++ [dn]) = Function.update (dataNodeMap xs) dn.ip (some dn) := by
  simp [dataNodeMap]

theorem dataNodeMap_mem {xs : List DataNode} {ip : String} {dn : DataNode}
    (h : dataNodeMap xs ip = some dn) : dn ∈ xs ∧ dn.ip = ip := by
  induction xs using List.reverseRecOn with
  | nil => cases h
  | append_singleton xs y ih =>
    rw [dataNodeMap_append] at h
    by_cases hy : ip = y.ip
    · subst hy
      rw [Function.update_self, Option.some.injEq] at h
      subst h
      exact ⟨by simp, rfl⟩
    · rw [Function.update_of_ne hy] at h
      obtain ⟨hm, hi⟩ := ih h
      exact ⟨by simp [hm], hi⟩

theorem dataNodeMap_append_of_mem (xs : List DataNode) {ys : List DataNode} {ip : String}
    (h : ∃ dn ∈ ys, dn.ip = ip) : ∃ dn ∈ ys, dn.ip = ip ∧ dataNodeMap (xs ++ ys) ip = some dn := by
  induction ys using List.reverseRecOn with
  | nil => simp at h
  | append_singleton ys y ih =>
    rw [← List.append_assoc, dataNodeMap_append]
    by_cases hy : ip = y.ip
    · subst hy
      exact ⟨y, by simp, rfl, Function.update_self _ _ _⟩
    · rw [Function.update_of_ne hy]
      obtain ⟨dn, hdn, hip⟩ := h
      rcases List.mem_append.mp hdn with hdn | hdn
      · obtain ⟨dn', hdn', hip', hmap⟩ := ih ⟨dn, hdn, hip⟩
        exact ⟨dn', by simp [hdn'], hip', hmap⟩
      · rw [List.mem_singleton.mp hdn] at hip
        exact absurd hip.symm hy

end ShardingOnCloud.Pitr.Model
