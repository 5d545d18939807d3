import ShardingOnCloud.Pitr.Backup

namespace ShardingOnCloud.Pitr.Restore

open ShardingOnCloud.Lib.Program ShardingOnCloud.Pitr.Model ShardingOnCloud.Pitr.Calls
open ShardingOnCloud.Pitr.LocalStorage ShardingOnCloud.Pitr.Backup

def restorePrompt (databaseNamesExist : List String) : String :=
  "Detected That The Database [" ++ ",".intercalate databaseNamesExist ++
    "] Already Exists In ShardingSphere-Proxy Metadata.\n" ++
    "The Logic Database Will Be DROPPED And Then Insert Backup's Metadata Into " ++
    "ShardingSphere-Proxy After Restoring The Backup Data.\n" ++
    "Are you sure to continue? (Y/N)"

/-- The lookup by record ID, after the records that the CSN has selected. -/
def validateByID (f : Flags) (baks : List LsBackup) : Cli (Except Err (List LsBackup)) :=
  if f.recordID ≠ "" then do
    match ← readByID f f.recordID with
    | .error err => return .error ("read backup record by id failed. err: " ++ err)
    | .ok b => return .ok (baks ++ [b])
  else return .ok baks

def validateByCSN (f : Flags) : Cli (Except Err (List LsBackup)) :=
  if f.csn ≠ "" then do
    match ← readAllByCSN f f.csn with
    | .error err => return .error ("read backup record by csn failed. err: " ++ err)
    | .ok baks => return .ok baks
  else return .ok []

/-- The one record that is selected. The message of an empty selection formats a
nil error. -/
def validate (f : Flags) : Cli (Except Err LsBackup) := do
  match ← validateByCSN f with
  | .error err => return .error err
  | .ok baks =>
    match ← validateByID f baks with
    | .error err => return .error err
    | .ok [] => return .error "backup record not found. err: %!s(<nil>)"
    | .ok [bak] => return .ok bak
    | .ok (_ :: _ :: _) =>
      return .error "multiple backup records found. please using ID to submit one specific record."

/-- `restore` up to the record that it works on. -/
def findRecord (f : Flags) : Cli (Except Err LsBackup) := do
  match ← newLocalStorage f with
  | some err => return .error ("new local storage failed. err: " ++ err)
  | none =>
    match ← newShardingSphereProxy f with
    | some err => return .error ("new ss-proxy failed. err: [" ++ err)
    | none => validate f

/-- The names of all databases of the proxy are appended to the package variable;
those of the backup are not looked at. -/
def checkDatabaseExist (databaseNamesExist : List String) : Cli (Except Err (List String)) := do
  match ← act .exportMetaData with
  | .error err => return .error ("get cluster metadata failed. err: " ++ err)
  | .ok clusterNow => return .ok (databaseNamesExist ++ clusterNow.metaData.databases.keys)

/-- `restoretask.checkProgress`, which makes the whole restore of a node. -/
def checkRestoreProgress (f : Flags) (sn : StorageNode) (backupID : String) :
    Go (Unit × Bool × Option Err) := do
  let err ← goAct (.restore (agentAddr f sn)
    { dbPort := sn.port, dbName := sn.database, username := sn.username,
      password := sn.password, instanceName := defaultInstance, dnBackupPath := f.backupPath,
      dnBackupID := backupID, dnThreadsNum := f.threadsNum })
  match err with
  | some err => do
    goAct (.sendRestoreResult { ip := sn.ip, port := sn.port, status := "Failed: " ++ err })
    return ((), false, some err)
  | none => do
    goAct (.sendRestoreResult { ip := sn.ip, port := sn.port, status := "Completed" })
    return ((), true, none)

def restoreTask (f : Flags) (sn : StorageNode) (dn : DataNode) : Go Unit :=
  updateProgress (fun _ : Unit => checkRestoreProgress f sn dn.backupID) ()

/-- The goroutines that the loop of `execRestore` starts, and whether it gets to
its end: a node without a data node makes it dereference a nil pointer. -/
def restoreTasks (f : Flags) (dns : String → Option DataNode) :
    List StorageNode → List (Go Unit) × Bool
  | [] => ([], true)
  | sn :: sns =>
    match dns sn.ip with
    | none => ([], false)
    | some dn =>
      let (tasks, all) := restoreTasks f dns sns
      (restoreTask f sn dn :: tasks, all)

def execRestore (f : Flags) (lsBackup : LsBackup) : Cli (Option Err) := do
  let ss ← deref lsBackup.ssBackup
  let totalNum := ss.storageNodes.length
  if totalNum = 0 then do
    let info ← deref lsBackup.info
    return some ("no storage node found, please check backup record [" ++ info.id ++ "].")
  else
    match restoreTasks f (dataNodeMap lsBackup.dnList) ss.storageNodes with
    | (tasks, false) => .call (.goPanic .restoreResult totalNum tasks) (fun e => nomatch e)
    | (tasks, true) => do
      let dnResult ← .call (.goRender .restoreResult totalNum tasks) .ret
      if dnResult.all (fun r => decide (r.status = "Completed")) then return none
      else return some "restore failed, please check the log for more details."

def dropDatabases : List String → Cli (Option Err)
  | [] => return none
  | name :: names => do
    match ← execStmt (.dropDatabase name) "drop database failure. err: " with
    | some err => return some ("drop database failed. err: " ++ err)
    | none => dropDatabases names

def importMetaData : Option ClusterInfo → Cli (Option Err)
  | none => return some "import meta data is nil"
  | some c => execStmt (.importMetaData c) "import metadata failure. err: "

def importRecord (lsBackup : LsBackup) : Cli (Option Err) := do
  let ss ← deref lsBackup.ssBackup
  match ← importMetaData ss.clusterInfo with
  | some err => return some ("Import metadata to ss-proxy failed. err: " ++ err)
  | none => return none

def restoreDataToSSProxy (databaseNamesExist : List String) (lsBackup : LsBackup) :
    Cli (Option Err) := do
  match ← dropDatabases databaseNamesExist with
  | some err => return some err
  | none => importRecord lsBackup

/-- The part of `restore` that brings back the data: the names of the databases
that are to be dropped after it. -/
def restoreData (f : Flags) (databaseNamesExist : List String) (bak : LsBackup) :
    Cli (Except Err (List String)) := do
  match ← checkDatabaseExist databaseNamesExist with
  | .error err => return .error ("check database exist failed. err: " ++ err)
  | .ok databaseNamesExist =>
    match ← act (.getUserApprove (restorePrompt databaseNamesExist)) with
    | some err => return .error err
    | none => do
      let available ← checkAgentServerStatus f bak
      if available then do
        match ← execRestore f bak with
        | some err => return .error ("exec restore failed. err: " ++ err)
        | none => return .ok databaseNamesExist
      else return .error "one or more agent server are not available."

/-- `databaseNamesExist` is the value of the package variable when the function is
called. -/
def restore (f : Flags) (databaseNamesExist : List String) : Cli (Option Err) := do
  match ← findRecord f with
  | .error err => return some err
  | .ok bak =>
    match ← restoreData f databaseNamesExist bak with
    | .error err => return some err
    | .ok databaseNamesExist => do
      let err ← restoreDataToSSProxy databaseNamesExist bak
      return err.map ("restore metadata to shardingsphere proxy failed. err: " ++ ·)

end ShardingOnCloud.Pitr.Restore
