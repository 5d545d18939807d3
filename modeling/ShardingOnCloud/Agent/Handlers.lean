import ShardingOnCloud.Agent.Show

namespace ShardingOnCloud.Agent.Handlers

open ShardingOnCloud.Lib ShardingOnCloud.Lib.JsonParser ShardingOnCloud.Lib.JsonPrinter
open ShardingOnCloud.Pitr.Model ShardingOnCloud.Pitr.Encoding
open ShardingOnCloud.Agent.Commands ShardingOnCloud.Agent.CommandLine ShardingOnCloud.Agent.Show

variable {α β : Type}

def bind : Outcome α → (α → Outcome β) → Outcome β
  | .ok a, f => f a
  | .error err, _ => .error err
  | .panic, _ => .panic

instance : Monad Outcome where
  pure := .ok
  bind := bind

@[simp]
theorem ok_bind (a : α) (f : α → Outcome β) : (Outcome.ok a >>= f) = f a := rfl

@[simp]
theorem error_bind (err : Err) (f : α → Outcome β) : (Outcome.error err >>= f) = .error err := rfl

@[simp]
theorem panic_bind (f : α → Outcome β) : (Outcome.panic >>= f) = .panic := rfl

theorem bind_eq_ok {o : Outcome α} {f : α → Outcome β} {b : β} (h : (o >>= f) = .ok b) :
    ∃ a, o = .ok a ∧ f a = .ok b := by
  cases o with
  | ok a => exact ⟨a, rfl, h⟩
  | error err => cases h
  | panic => cases h

/-- `fmt.Errorf` around the error of a call. -/
def wrap (f : Err → Err) : Outcome α → Outcome α
  | .ok a => .ok a
  | .error err => .error (f err)
  | .panic => .panic

def check : Option Err → Outcome Unit
  | none => .ok ()
  | some err => .error err

structure HealthCheckView where
  login : HealthCheckIn
  schema : String

structure ShowListIn where
  dbPort : UInt16
  dbName : String
  username : String
  password : String
  dnBackupPath : String
  instanceName : String

def missingDiskPath : Err := xerror 10029 "Missing disk path."

def validateShowList (i : ShowListIn) : Option Err :=
  firstError (login i.dbPort i.dbName i.username i.password ++
    [(i.dnBackupPath == "", Restore.missingDnBackupPath),
      (i.instanceName == "", Restore.missingInstance)])

def validateDiskSpace (i : DiskSpaceIn) : Option Err :=
  firstError [(i.diskPath == "", missingDiskPath)]

/-- What the methods of `pkg.OG` and the calls of the operating system return while one
request is handled. -/
structure IOpenGauss where
  auth : String → String → String → UInt16 → Outcome Unit
  checkSchema : String → String → String → UInt16 → String → Outcome Unit
  init : String → Outcome Unit
  /-- An error that wraps `InstanceAlreadyExist` is a value here. -/
  addInstance : String → String → Outcome (Option Err)
  asyncBackup : String → String → String → UInt8 → UInt16 → Outcome String
  delBackup : String → String → String → Outcome Unit
  showBackup : String → String → String → Outcome (Option Backup)
  showBackupList : String → String → Outcome (List (Option Backup))
  /-- The handler `Restore` after its body is parsed. -/
  restore : RestoreIn → Outcome Unit
  mkdirAll : String → Outcome Unit
  exec : String → Outcome String

section Handlers

variable (og : IOpenGauss)

/-- The text that the handlers put around an error of `Auth`, with the end that each of
them gives it. -/
def authFailure (ending username password dbName : String) (err : Err) : Err :=
  "pkg.OG.Auth failure[un=" ++ username ++ ",pw.len=" ++ toString password.utf8ByteSize ++ ",db=" ++
    dbName ++ ending ++ err

def healthCheck (i : HealthCheckView) : Outcome Unit := do
  wrap (authFailure "], err wrap: " i.login.username i.login.password i.login.dbName)
    (og.auth i.login.username i.login.password i.login.dbName i.login.dbPort)
  if i.schema ≠ "" then
    wrap (fun err => "pkg.OG.CheckSchema return err: " ++ err ++ ", err wrap: " ++ err)
      (og.checkSchema i.login.username i.login.password i.login.dbName i.login.dbPort i.schema)
  else
    return ()

def backup (i : BackupIn) : Outcome String := do
  wrap ("invalid parameter, err wrap: " ++ ·) (check (validateBackup i))
  wrap (authFailure "], err wrap=" i.username i.password i.dbName)
    (og.auth i.username i.password i.dbName i.dbPort)
  wrap ("init instance failed, err: " ++ ·) (og.init i.dnBackupPath)
  -- an instance that is there already is used as it is
  let _ ← wrap ("add instance failed, err wrap: " ++ ·)
    (og.addInstance i.dnBackupPath i.instanceName)
  wrap (fun err => "pkg.OG.AsyncBackup[path=" ++ i.dnBackupPath ++ ",instance=" ++ i.instanceName ++
      ",mode=" ++ i.dnBackupMode.text ++ "] failure, err wrap: " ++ err)
    (og.asyncBackup i.dnBackupPath i.instanceName i.dnBackupMode.text i.dnThreadsNum i.dbPort)

def deleteBackup (i : DeleteBackupIn) : Outcome Unit := do
  wrap ("invalid parameter, err: " ++ ·) (check (validateDelete i))
  wrap (authFailure "], err: " i.username i.password i.dbName)
    (og.auth i.username i.password i.dbName i.dbPort)
  wrap ("delete backup failure, err: " ++ ·) (og.delBackup i.dnBackupPath i.instanceName i.backupID)

def «show» (i : ShowDetailIn) : Outcome (Option BackupInfo) := do
  wrap ("invalid parameter, err wrap: " ++ ·) (check (validateShow i))
  wrap (authFailure "], err wrap: " i.username i.password i.dbName)
    (og.auth i.username i.password i.dbName i.dbPort)
  let data ← wrap (fun err => "pkg.OG.ShowBackupDetail failure[backupPath=" ++ i.dnBackupPath ++
      ",instance=" ++ i.instanceName ++ ",backupID=" ++ i.dnBackupID ++ "], err wrap: " ++ err)
    (og.showBackup i.dnBackupPath i.instanceName i.dnBackupID)
  return newBackupInfo data i.dnBackupPath i.instanceName

def newBackupInfoList (path instanceName : String) :
    List (Option Backup) → Outcome (List BackupInfo)
  | [] => .ok []
  | none :: _ => .panic
  | some v :: list => do
    let ret ← newBackupInfoList path instanceName list
    return (⟨v.id, path, v.backupMode, instanceName, v.startTime, v.endTime,
      ⟨statusTrans v.status⟩⟩ : BackupInfo) :: ret

def showList (i : ShowListIn) : Outcome (List BackupInfo) := do
  wrap ("invalid parameter, err wrap: " ++ ·) (check (validateShowList i))
  wrap (authFailure "], err wrap: " i.username i.password i.dbName)
    (og.auth i.username i.password i.dbName i.dbPort)
  let list ← wrap (fun err => "pkg.OG.ShowBackupList failure[backupPath=" ++ i.dnBackupPath ++
      ",instance=" ++ i.instanceName ++ "], err wrap: " ++ err)
    (og.showBackupList i.dnBackupPath i.instanceName)
  newBackupInfoList i.dnBackupPath i.instanceName list

def diskSpace (i : DiskSpaceIn) : Outcome String := do
  wrap ("invalid parameter, err wrap: " ++ ·) (check (validateDiskSpace i))
  wrap (fun err => "mkdir [" ++ i.diskPath ++ "] failure, err wrap: " ++ err)
    (og.mkdirAll i.diskPath)
  wrap (fun err => "exec cmd [df -h " ++ i.diskPath ++ "] failure, err wrap: " ++ err)
    (og.exec ("df -h " ++ i.diskPath))

end Handlers

/-- The handler `Show` with the methods that it has there. -/
theorem show_eq_showHandler {og : IOpenGauss} {jsonErr : String → Err}
    {exec : String → Except Err String} {auth : ShowDetailIn → Option Err} {i : ShowDetailIn}
    (hauth : og.auth i.username i.password i.dbName i.dbPort = check (auth i))
    (hshow : og.showBackup i.dnBackupPath i.instanceName i.dnBackupID =
      showBackup jsonErr exec i.dnBackupPath i.instanceName i.dnBackupID) :
    «show» og i = showHandler jsonErr exec (.ok i) auth := by
  unfold «show» showHandler
  rw [hauth, hshow]
  cases hvalid : validateShow i with
  | some err => simp only [hvalid, check, wrap, error_bind]
  | none =>
    cases hlogin : auth i with
    | some err =>
      simp only [hvalid, hlogin, check, wrap, ok_bind]
      rw [error_bind]
      unfold authFailure
      congr
    | none =>
      cases hdata : showBackup jsonErr exec i.dnBackupPath i.instanceName i.dnBackupID with
      | ok data => simp only [hvalid, hlogin, hdata, check, wrap, ok_bind]; rfl
      | error err => simp only [hvalid, hlogin, hdata, check, wrap, ok_bind, error_bind]
      | panic => simp only [hvalid, hlogin, hdata, check, wrap, ok_bind, panic_bind]

end ShardingOnCloud.Agent.Handlers
