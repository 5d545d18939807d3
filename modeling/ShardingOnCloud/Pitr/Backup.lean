import ShardingOnCloud.Pitr.LocalStorage

namespace ShardingOnCloud.Pitr.Backup

open ShardingOnCloud.Lib.Program ShardingOnCloud.Pitr.Model ShardingOnCloud.Pitr.Calls
open ShardingOnCloud.Pitr.LocalStorage

def backupPromptFmt : String :=
  "Please Check All Nodes Disk Space, Make Sure Have Enough Space To Backup Or Restore Data.\n" ++
    "Are you sure to continue? (Y/N)"

def newShardingSphereProxy (f : Flags) : Cli (Option Err) :=
  act (.newShardingSphereProxy f.username f.password defaultDBName f.host f.port)

def newLocalStorage (f : Flags) : Cli (Option Err) := act (.newLocalStorage (defaultRootDir f))

/-- A statement without a result: the error of `db.Exec`, wrapped. -/
def execStmt (s : Stmt) (text : String) : Cli (Option Err) := do
  let err ← act (.exec s)
  return err.map (text ++ ·)

def lockForBackup : Cli (Option Err) :=
  execStmt .lockForBackup "shardingsphere lock for backup failure. err: "

def unlock : Cli (Option Err) := execStmt .unlock "shardingsphere unlock failure. err: "

/-- `exportData` sets the package variable `filename`, which is returned first. -/
def exportData (f : Flags) (filename : String) : Cli (String × Except Err LsBackup) := do
  match ← act .exportMetaData with
  | .error err => return (filename, .error ("export meta data failed. err: " ++ err))
  | .ok cluster =>
    match ← act .exportStorageNodes with
    | .error err => return (filename, .error ("export storage nodes failed. err: " ++ err))
    | .ok nodes => do
      let filename ← genFilename
      let csn := (cluster.snapshotInfo.map (·.csn)).getD ""
      let id ← act .newUUID
      let startTime ← act .now
      let contents : LsBackup :=
        { info := some
            { id := id, csn := csn, backupMode := f.backupMode, startTime := startTime,
              endTime := "", fileName := "" }
          dnList := []
          ssBackup := some
            { status := ssBackupStatusWaiting, clusterInfo := some cluster,
              storageNodes := nodes } }
      match ← writeByJSON f filename contents with
      | some err => return (filename, .error ("write backup info by json failed. err: " ++ err))
      | none => return (filename, .ok contents)

/-- The first loop of `checkAgentServerStatus`: whether all agents answered. -/
def checkStatuses (f : Flags) : List StorageNode → Bool → Cli Bool
  | [], available => return available
  | sn :: sns, available => do
    match ← act (.checkStatus (agentAddr f sn)
      { dbPort := sn.port, dbName := sn.database, username := sn.username,
        password := sn.password }) with
    | some _ => checkStatuses f sns false
    | none => checkStatuses f sns available

def checkAgentServerStatus (f : Flags) (lsBackup : LsBackup) : Cli Bool := do
  let ss ← deref lsBackup.ssBackup
  let available ← checkStatuses f ss.storageNodes true
  -- two nodes on one host are refused whatever their agents answered
  if (ss.storageNodes.map (·.ip)).Nodup then return available else return false

def showDiskSpaces (f : Flags) : List StorageNode → Cli Unit
  | [] => return ()
  | sn :: sns => do
    let _ ← act (.showDiskSpace (agentAddr f sn) { diskPath := f.backupPath })
    showDiskSpaces f sns

/-- A failed query of an agent only shows in the printed table. -/
def checkDiskSpace (f : Flags) (lsBackup : LsBackup) : Cli (Option Err) := do
  let ss ← deref lsBackup.ssBackup
  showDiskSpaces f ss.storageNodes
  return none

def _execBackup (f : Flags) (node : StorageNode) : Go (Option Err) := do
  let res ← goAct (.backup (agentAddr f node)
    { dbPort := node.port, dbName := node.database, username := node.username,
      password := node.password, dnBackupPath := f.backupPath, dnThreadsNum := f.threadsNum,
      dnBackupMode := f.backupMode, instanceName := defaultInstance })
  let startTime ← goAct .now
  match res with
  | .error err => do
    goAct (.sendDataNode
      { ip := node.ip, port := node.port, status := ⟨err⟩, backupID := "",
        startTime := startTime, endTime := "" })
    return some ("data node " ++ node.ip ++ ":" ++ toString node.port ++ " backup error: " ++ err)
  | .ok backupID => do
    goAct (.sendDataNode
      { ip := node.ip, port := node.port, status := ssBackupStatusRunning,
        backupID := backupID, startTime := startTime, endTime := "" })
    return none

/-- The record as changed by `execBackup`, and its error. -/
def execBackup (f : Flags) (lsBackup : LsBackup) : Cli (LsBackup × Option Err) := do
  let ss ← deref lsBackup.ssBackup
  let sNodes := ss.storageNodes
  let res ← .call (.goWait sNodes.length (sNodes.map (_execBackup f))) .ret
  match res.2 with
  | some err =>
    return ({ lsBackup with ssBackup := some { ss with status := ssBackupStatusFailed } }, some err)
  | none =>
    return ({ lsBackup with
      dnList := lsBackup.dnList ++ res.1
      ssBackup := some { ss with status := ssBackupStatusRunning } }, none)

/-- The goroutine blocks for ever: nobody else holds the unbuffered channel
`done` that it sends on. -/
def sendDone : Go Unit := .call .sendDone (fun e => nomatch e)

/-- The loop of `UpdateProgress`, for the number of ticks that come. -/
def updateLoop {σ : Type} (updateF : σ → Go (σ × Bool × Option Err)) : ℕ → σ → Go Unit
  | 0, _ => .call .selectForever (fun e => nomatch e)
  | n + 1, s => do
    let (s', finished, err) ← updateF s
    match err with
    | some _ => do
      goAct .markAsErrored
      sendDone
    | none =>
      if finished then do
        goAct .markAsDone
        sendDone
      else updateLoop updateF n s'

def updateProgress {σ : Type} (updateF : σ → Go (σ × Bool × Option Err)) (s : σ) : Go Unit := do
  let ticks ← goAct .newTicker
  updateLoop updateF ticks s

/-- `backuptask.checkProgress` once the agent has answered. -/
def noteDetail (retries : ℕ) (dn : DataNode) (backup : BackupInfo) :
    Go ((ℕ × DataNode) × Bool × Option Err) := do
  let endTime ← goAct .now
  let dn := { dn with status := backup.status, endTime := endTime }
  if backup.status = ssBackupStatusCompleted ∨ backup.status = ssBackupStatusFailed then
    goAct (.sendDataNode dn)
    return ((retries, dn), true, none)
  else return ((retries, dn), false, none)

/-- `backuptask.checkProgress`, with the data node and the retries of the task. -/
def checkBackupProgress (f : Flags) (sn : StorageNode) :
    ℕ → DataNode → Go ((ℕ × DataNode) × Bool × Option Err)
  | retries, dn => do
    let res ← goAct (.showDetail (agentAddr f sn)
      { dbPort := sn.port, dbName := sn.database, username := sn.username,
        password := sn.password, dnBackupID := dn.backupID, dnBackupPath := f.backupPath,
        instanceName := defaultInstance })
    match res with
    | .error err =>
      match retries with
      | 0 => do
        let dn := { dn with status := ssBackupStatusCheckError }
        goAct (.sendDataNode dn)
        return ((0, dn), false, some err)
      | retries + 1 => do
        goAct .sleep
        checkBackupProgress f sn retries dn
    | .ok backup => noteDetail retries dn backup

/-- One of the goroutines of `checkBackupStatus`. Without a data node the first
check dereferences a nil pointer. -/
def backupTask (f : Flags) (dns : String → Option DataNode) (sn : StorageNode) : Go Unit :=
  match dns sn.ip with
  | some dn =>
    updateProgress (fun t : ℕ × DataNode => checkBackupProgress f sn t.1 t.2)
      (defaultShowDetailRetryTimes, dn)
  | none => updateProgress (fun _ : Unit => .call .panic (fun e => nomatch e)) ()

def checkBackupStatus (f : Flags) (lsBackup : LsBackup) : Cli (LsBackup × BackupStatus) := do
  let ss ← deref lsBackup.ssBackup
  if ss.storageNodes = [] then return (lsBackup, ssBackupStatusCanceled)
  else do
    let dns := dataNodeMap lsBackup.dnList
    let dnResult ← .call (.goRender .dataNode lsBackup.dnList.length
      (ss.storageNodes.map (backupTask f dns))) .ret
    let backupFinalStatus :=
      if dnResult.all (fun dn => decide (dn.status = ssBackupStatusCompleted))
      then ssBackupStatusCompleted else ssBackupStatusFailed
    let info ← deref lsBackup.info
    let endTime ← act .now
    return ({ info := some { info with endTime := endTime }
              dnList := dnResult
              ssBackup := some { ss with status := backupFinalStatus } }, backupFinalStatus)

inductive DeleteMode
  | normal
  | quiet
  deriving DecidableEq

def doDelete (f : Flags) (sn : StorageNode) (dn : DataNode) : Go Unit := do
  goAct .appendTracker
  let err ← goAct (.deleteBackup (agentAddr f sn)
    { dbPort := sn.port, dbName := sn.database, username := sn.username,
      password := sn.password, dnBackupPath := f.backupPath, backupID := dn.backupID,
      instanceName := defaultInstance })
  match err with
  | some err => do
    goAct (.sendDeleteResult
      { ip := sn.ip, port := sn.port, status := ssBackupStatusFailed, msg := err })
    goAct .markAsErrored
  | none => do
    goAct .markAsDone
    goAct (.sendDeleteResult
      { ip := sn.ip, port := sn.port, status := ssBackupStatusCompleted, msg := "" })

/-- The goroutines of `deleteBackupFiles`: nodes without a data node are skipped. -/
def deleteTasks (f : Flags) (dns : String → Option DataNode) (sns : List StorageNode) :
    List (Go Unit) :=
  sns.filterMap (fun sn => (dns sn.ip).map (doDelete f sn))

def removeRecord (filename : String) : Go Unit := do
  let _ ← deleteByName filename
  return ()

/-- In quiet mode nobody waits for the goroutines: the record file is removed and
the function returns while they run. -/
def deleteBackupFiles (f : Flags) (filename : String) (lsBackup : LsBackup) (m : DeleteMode) :
    Cli Unit := do
  let ss ← deref lsBackup.ssBackup
  let totalNum := ss.storageNodes.length
  let tasks := deleteTasks f (dataNodeMap lsBackup.dnList) ss.storageNodes
  if totalNum = 0 then return ()
  else match m with
  | .quiet => .call (.goDetach .deleteResult totalNum tasks (removeRecord filename)) .ret
  | .normal => do
    let _ ← .call (.goPoll .deleteResult totalNum tasks) .ret
    let _ ← act (.osRemove filename)
    return ()

/-- The variables that the deferred function of `backup` captures, and the
package variable `filename`. -/
structure Vars where
  err : Option Err
  lsBackup : Option LsBackup
  cancel : Bool
  filename : String

/-- The function that `backup` defers: it looks at the captured `err`, not at the
value that is returned. -/
def deferred (f : Flags) (v : Vars) : Cli Unit :=
  match v.err with
  | none => return ()
  | some _ => do
    let _ ← unlock
    match v.lsBackup with
    | some lsBackup => deleteBackupFiles f v.filename lsBackup .quiet
    | none => return ()

/-- Steps 7 to 9, after the cluster is unlocked. -/
def backupTail (f : Flags) (filename : String) (lsBackup : LsBackup) :
    Cli (Vars × Option Err) := do
  let err ← writeByJSON f filename lsBackup
  match err with
  | some e =>
    return (⟨err, some lsBackup, false, filename⟩, some ("update backup file failed. err: " ++ e))
  | none => do
    let (lsBackup, status) ← checkBackupStatus f lsBackup
    if status ≠ ssBackupStatusCompleted ∧ status ≠ ssBackupStatusCanceled then
      return (⟨some "Backup failed", some lsBackup, false, filename⟩, some "Backup failed")
    else do
      let err ← writeByJSON f filename lsBackup
      match err with
      | some e =>
        return (⟨err, some lsBackup, false, filename⟩,
          some ("update backup file failed. err: " ++ e))
      | none => return (⟨none, some lsBackup, false, filename⟩, none)

/-- Steps 5 and 6: the agents make their backups, then the cluster is unlocked. -/
def backupCut (f : Flags) (filename : String) (lsBackup : LsBackup) :
    Cli (Vars × Option Err) := do
  let (lsBackup, err) ← execBackup f lsBackup
  match err with
  | some e =>
    return (⟨err, some lsBackup, false, filename⟩, some ("exec backup failed. err: " ++ e))
  | none => do
    let err ← unlock
    match err with
    | some e =>
      return (⟨err, some lsBackup, false, filename⟩, some ("unlock cluster failed. err: " ++ e))
    | none => backupTail f filename lsBackup

/-- Steps 3 and 4: the agents are asked, and then the user. -/
def backupChecks (f : Flags) (filename : String) (lsBackup : LsBackup) :
    Cli (Vars × Option Err) := do
  let available ← checkAgentServerStatus f lsBackup
  if available then do
    let err ← checkDiskSpace f lsBackup
    match err with
    | some e =>
      return (⟨err, some lsBackup, false, filename⟩, some ("check disk space failed. err: " ++ e))
    | none => do
      let err ← act (.getUserApprove backupPromptFmt)
      match err with
      | some e => return (⟨err, some lsBackup, true, filename⟩, some e)
      | none => backupCut f filename lsBackup
  else
    return (⟨some "One or more agent server are not available.", some lsBackup, false, filename⟩,
      some "One or more agent server are not available.")

/-- The steps of `backup` after the deferred function is set up: the captured
variables when it returns, and the value returned. -/
def backupSteps (f : Flags) (filename : String) : Cli (Vars × Option Err) := do
  let err ← lockForBackup
  match err with
  | some e => return (⟨err, none, false, filename⟩, some ("Lock for backup failed. err: " ++ e))
  | none => do
    let (filename, res) ← exportData f filename
    match res with
    | .error e =>
      return (⟨some e, none, false, filename⟩, some ("export backup data failed. err: " ++ e))
    | .ok lsBackup => backupChecks f filename lsBackup

/-- `filename` is the value of the package variable when the function is called. -/
def backup (f : Flags) (filename : String) : Cli (Option Err) := do
  match ← newShardingSphereProxy f with
  | some err => return some ("Connect shardingsphere proxy failed, err: " ++ err)
  | none =>
    match ← newLocalStorage f with
    | some err => return some ("Create local storage failed. err: " ++ err)
    | none => do
      let (vars, res) ← backupSteps f filename
      deferred f vars
      return res

end ShardingOnCloud.Pitr.Backup
