import ShardingOnCloud.Agent.Commands

namespace ShardingOnCloud.Agent.Restore

open ShardingOnCloud.Lib.Program ShardingOnCloud.Lib.Pool ShardingOnCloud.Pitr.Model
open ShardingOnCloud.Agent.Commands

def bodyParseFailed : Err := xerror 10020 "Invalid http request body."
def invalidDBPort : Err := xerror 10011 "Invalid db port or missing db port."
def missingDBName : Err := xerror 10021 "Missing db name."
def missingUsername : Err := xerror 10012 "Missing username"
def missingPassword : Err := xerror 10013 "Missing password."
def missingDnBackupPath : Err := xerror 10014 "Missing dn backup path."
def missingDnBackupID : Err := xerror 10019 "Missing dn backup id."
def missingInstance : Err := xerror 10018 "Missing instance."

def validate (i : RestoreIn) : Option Err :=
  if i.dbPort = 0 then some invalidDBPort
  else if i.dbName = "" then some missingDBName
  else if i.username = "" then some missingUsername
  else if i.password = "" then some missingPassword
  else if i.dnBackupPath = "" then some missingDnBackupPath
  else if i.dnBackupID = "" then some missingDnBackupID
  else if i.instanceName = "" then some missingInstance
  else none

abbrev Handler := Proc Op OpR

def op (c : Op) : Handler (OpR c) := .call c .ret

/-- The function that is deferred when the server has been stopped. It may replace the
error that the handler returns. -/
def restart (err : Option Err) : Handler (Option Err) :=
  match err with
  | none => return none
  | some err => do
    match ← op .start with
    | some startErr => return some ("pkg.OG.Start() return err: " ++ startErr ++ ", wrap: " ++ err)
    | none => return some err

/-- An error as `%s` prints it. -/
def errText : Option Err → String
  | none => "%!s(<nil>)"
  | some err => err

/-- The function that is deferred when the data has been moved away. -/
def rollback (status : String) (err : Option Err) : Handler (Option Err) := do
  if status ≠ "restore success" then
    match ← op .mvTempToPgData with
    | some mvErr =>
      return some ("restore failure[err=" ++ errText err ++
        "], pkg.OG.MvTempToPgData return err: " ++ mvErr)
    | none => return some ("restore failure[err=" ++ errText err ++ "]")
  else
    return err

/-- From the restore of the data to the end, with the last value of `status`. -/
def replaceData (i : RestoreIn) : Handler (String × Option Err) := do
  match ← op (.restore i.dnBackupPath i.instanceName i.dnBackupID i.dnThreadsNum) with
  | some err => return ("restore failure", some err)
  | none =>
    match ← op .cleanPgDataTemp with
    | some err =>
      return ("restore success", some ("pkg.OG.CleanPgDataTemp return err wrap: " ++ err))
    | none =>
      match ← op .start with
      | some err => return ("restore success", some ("pkg.OG.Start return err wrap: " ++ err))
      | none => return ("restore success", ← op .success)

def whileStopped (i : RestoreIn) : Handler (Option Err) := do
  match ← op .mvPgDataToTemp with
  | some err => return some ("pkg.OG.MvPgDataToTemp return err wrap: " ++ err)
  | none => do
    let (status, err) ← replaceData i
    rollback status err

def untilStopped : Handler (Except Err RestoreIn) := do
  match ← op .bodyParser with
  | .error err => return .error ("body parse err: " ++ err ++ ", wrap: " ++ bodyParseFailed)
  | .ok i =>
    match validate i with
    | some err => return .error ("invalid parameter, err wrap: " ++ err)
    | none =>
      match ← op (.auth i.username i.password i.dbName i.dbPort) with
      | some err =>
        return .error ("pkg.OG.Auth failure[un=" ++ i.username ++ ",pw.len=" ++
          toString i.password.utf8ByteSize ++ ",db=" ++ i.dbName ++ "], err wrap: " ++ err)
      | none =>
        match ← op .stop with
        | some err => return .error ("stop openGauss failure, err wrap: " ++ err)
        | none => return .ok i

def restore : Handler (Option Err) := do
  match ← untilStopped with
  | .error err => return some err
  | .ok i => do
    let err ← whileStopped i
    restart err

end ShardingOnCloud.Agent.Restore
