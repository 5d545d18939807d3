import ShardingOnCloud.Pitr.Restore

namespace ShardingOnCloud.Pitr.Delete

open ShardingOnCloud.Lib.Program ShardingOnCloud.Pitr.Model ShardingOnCloud.Pitr.Calls
open ShardingOnCloud.Pitr.LocalStorage ShardingOnCloud.Pitr.Backup ShardingOnCloud.Pitr.Restore

def deletePrompt (info : BackupMetaInfo) : String :=
  "The backup record(ID: " ++ info.id ++ ", CSN: " ++ info.csn ++ ") will be deleted forever.\n" ++
    "Are you sure to continue? (Y/N)"

/-- `deletetask.checkProgress`, which makes the whole deletion on a node. -/
def checkDeleteProgress (f : Flags) (sn : StorageNode) (backupID : String) :
    Go (Unit × Bool × Option Err) := do
  let err ← goAct (.deleteBackup (agentAddr f sn)
    { dbPort := sn.port, dbName := sn.database, username := sn.username,
      password := sn.password, dnBackupPath := f.backupPath, backupID := backupID,
      instanceName := defaultInstance })
  match err with
  | some err => do
    goAct (.sendDeleteResult
      { ip := sn.ip, port := sn.port, status := ssBackupStatusFailed, msg := err })
    return ((), false, some err)
  | none => do
    goAct (.sendDeleteResult
      { ip := sn.ip, port := sn.port, status := ssBackupStatusCompleted, msg := "" })
    return ((), true, none)

def deleteTask (f : Flags) (sn : StorageNode) (dn : DataNode) : Go Unit :=
  updateProgress (fun _ : Unit => checkDeleteProgress f sn dn.backupID) ()

/-- The goroutines of `_execDelete`: nodes without a data node are skipped. -/
def execDeleteTasks (f : Flags) (dns : String → Option DataNode) (sns : List StorageNode) :
    List (Go Unit) :=
  sns.filterMap (fun sn => (dns sn.ip).map (deleteTask f sn))

def _execDelete (f : Flags) (lsBackup : LsBackup) : Cli (Option Err) := do
  let ss ← deref lsBackup.ssBackup
  let totalNum := ss.storageNodes.length
  if totalNum = 0 then return none
  else do
    let dnResult ← .call (.goRender .deleteResult totalNum
      (execDeleteTasks f (dataNodeMap lsBackup.dnList) ss.storageNodes)) .ret
    if dnResult.all (fun r => decide (r.status = ssBackupStatusCompleted)) then return none
    else return some "delete failed, please check the log for more details."

/-- `deleteRecord` once the record is hidden. -/
def deleteRest (f : Flags) (bak : LsBackup) (fileName : String) : Cli (Option Err) := do
  match ← _execDelete f bak with
  | some err => return some ("exec delete failed. err: " ++ err)
  | none =>
    match ← deleteByHidedName fileName with
    | some err => return some ("exec delete backup record failed. err: " ++ err)
    | none => return none

/-- `deleteRecord` once the user has agreed: the record is hidden first. -/
def deleteHided (f : Flags) (bak : LsBackup) (fileName : String) : Cli (Option Err) := do
  match ← hideByName fileName with
  | some _ => return some "cannot mark backup record."
  | none => deleteRest f bak fileName

/-- `deleteRecord` up to the record that it works on. -/
def findDeleted (f : Flags) : Cli (Except Err LsBackup) := do
  match ← newLocalStorage f with
  | some err => return .error ("new local storage failed. err: " ++ err)
  | none => validate f

def deleteRecord (f : Flags) : Cli (Option Err) := do
  match ← findDeleted f with
  | .error err => return some err
  | .ok bak => do
    let available ← checkAgentServerStatus f bak
    if available then do
      let info ← deref bak.info
      match ← act (.getUserApprove (deletePrompt info)) with
      | some err => return some err
      | none => deleteHided f bak info.fileName
    else return some "one or more agent server are not available."

end ShardingOnCloud.Pitr.Delete
