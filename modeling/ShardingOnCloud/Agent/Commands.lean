import Mathlib.Data.List.Infix
import ShardingOnCloud.Lib.Pool
import ShardingOnCloud.Pitr.Model

namespace ShardingOnCloud.Agent.Commands

open ShardingOnCloud.Lib.Program ShardingOnCloud.Lib.Pool ShardingOnCloud.Pitr.Model

abbrev FilePath := List String

structure OpenGauss where
  shell : String
  pgData : FilePath
  pgDataTemp : FilePath

def newOpenGauss (shell : String) (pgData : FilePath) : OpenGauss where
  shell := shell
  pgData := pgData
  pgDataTemp := pgData.dropLast ++ ["temp"]

/-- The shell commands of the agent. -/
inductive Cmd
  | startOpenGauss (pgData : FilePath)
  | stopOpenGauss (pgData : FilePath)
  | mv (src dst : FilePath)
  | rmDir (path : FilePath)
  | restore (backupPath instanceName backupID : String) (pgData : FilePath) (threadsNum : UInt8)

/-- How a command ended: with an exit status other than 0, or it could not be
waited for. -/
inductive ExitErr
  | exitError (ee : Err)
  | other (cmd : String) (err : Err)

/-- The lines that a command printed, an error of the scanner that reads them, and
how the command ended. -/
structure Process where
  lines : List String
  scanErr : Option Err
  exitErr : Option ExitErr

/-- What the agent asks of the system, of the database and of the connection. -/
inductive Sys
  | bodyParser
  | sqlOpen (dbPort : UInt16) (user password dbName : String)
  | dbPing
  | dbClose
  | exec (shell : String) (cmd : Cmd)
  | asyncExec (shell : String) (cmd : Cmd)
  | rangeNilChannel
  | sendJSON

/-- The answers. The outputs of an asynchronous command are read until the channel
is closed; reading from a nil channel never ends. -/
@[reducible] def SysR : Sys → Type
  | .bodyParser => Except Err RestoreIn
  | .sqlOpen _ _ _ _ | .dbPing | .dbClose => Option Err
  | .exec _ _ => Except Err String
  | .asyncExec _ _ => Except Err Process
  | .rangeNilChannel => Empty
  | .sendJSON => Option Err

abbrev Sh := Proc Sys SysR

def sys (a : Sys) : Sh (SysR a) := .call a .ret

/-- The message of an `xerror`. -/
def xerror (code : ℕ) (msg : String) : Err := toString code ++ "-" ++ msg

def cmdOperateFailed : Err := xerror 10003 "Command operate failed."
def dbConnectionFailed : Err := xerror 10022 "Database connection failed."
def missingDBInformation : Err := xerror 10031 "Missing db information."

def noSpaceLeft : String := "No space left on device"

def contains (s sub : String) : Bool := decide (sub.toList <:+: s.toList)

def exitText : ExitErr → Err
  | .exitError ee => "exec failure[ee=" ++ ee ++ "], wrap=" ++ cmdOperateFailed
  | .other cmd err => cmd ++ " err: " ++ err

/-- The errors of the outputs of `AsyncExec`, line by line and then at the end. -/
def outputErrors (p : Process) : List (Option Err) :=
  p.lines.map (fun line => if contains line noSpaceLeft then some noSpaceLeft else none) ++
    p.scanErr.toList.map some ++ p.exitErr.toList.map (fun e => some (exitText e))

/-- `strings.Trim(s, " ") == ""` -/
def isBlank (s : String) : Bool := s.toList.all (· == ' ')

def gsutilOpen (user password dbName : String) (dbPort : UInt16) : Sh (Option Err) := do
  if isBlank user then
    return some "user is empty"
  else if isBlank password then
    return some "password is empty"
  else if isBlank dbName then
    return some "db name is empty"
  else do
    let err ← sys (.sqlOpen dbPort user password dbName)
    return err.map (fun err => "sql:open fail[user=" ++ user ++ ",pwLen=" ++
      toString password.utf8ByteSize ++ ",dbName=" ++ dbName ++ "],err=" ++ err ++ ",wrap=" ++
      dbConnectionFailed)

def ping (user password dbName : String) : Sh (Option Err) := do
  match ← sys .dbPing with
  | some err =>
    return some ("db ping fail[user=" ++ user ++ ",pwLen=" ++ toString password.utf8ByteSize ++
      ",dbName=" ++ dbName ++ "],err=" ++ err ++ ",wrap=" ++ dbConnectionFailed)
  | none => sys .dbClose

def OpenGauss.auth (user password dbName : String) (dbPort : UInt16) : Sh (Option Err) := do
  if isBlank user || isBlank password || isBlank dbName || dbPort == 0 then
    return some ("invalid inputs[user=" ++ user ++ ",password=" ++ password ++ ",dbName=" ++
      dbName ++
      ",dbPort=" ++ toString dbPort.toNat ++ "], err wrap: " ++ missingDBInformation)
  else
    match ← gsutilOpen user password dbName dbPort with
    | some err => return some err
    | none => ping user password dbName

def OpenGauss.command (og : OpenGauss) (cmd : Cmd) : Sh (Option Err) := do
  match ← sys (.exec og.shell cmd) with
  | .error err => return some err
  | .ok _ => return none

def OpenGauss.start (og : OpenGauss) : Sh (Option Err) := og.command (.startOpenGauss og.pgData)

def OpenGauss.stop (og : OpenGauss) : Sh (Option Err) := og.command (.stopOpenGauss og.pgData)

def OpenGauss.mvPgDataToTemp (og : OpenGauss) : Sh (Option Err) :=
  og.command (.mv og.pgData og.pgDataTemp)

def OpenGauss.mvTempToPgData (og : OpenGauss) : Sh (Option Err) :=
  og.command (.mv og.pgDataTemp og.pgData)

def OpenGauss.cleanPgDataTemp (og : OpenGauss) : Sh (Option Err) :=
  og.command (.rmDir og.pgDataTemp)

/-- The loop over the outputs returns the first error. When the command could not be
started the channel is nil, and the loop does not come to look at the error. -/
def OpenGauss.restore (og : OpenGauss) (backupPath instanceName backupID : String)
    (threadsNum : UInt8) : Sh (Option Err) := do
  match ← sys (.asyncExec og.shell
      (.restore backupPath instanceName backupID og.pgData threadsNum)) with
  | .error _ => .call .rangeNilChannel (fun e => nomatch e)
  | .ok p => return (outputErrors p).findSome? id

/-- The calls of the handler: the methods of `IOpenGauss` that it uses, and those of
the connection. -/
inductive Op
  | bodyParser
  | auth (username password dbName : String) (dbPort : UInt16)
  | stop
  | start
  | mvPgDataToTemp
  | mvTempToPgData
  | restore (backupPath instanceName backupID : String) (threadsNum : UInt8)
  | cleanPgDataTemp
  | success

@[reducible] def OpR : Op → Type
  | .bodyParser => Except Err RestoreIn
  | _ => Option Err

/-- `openGauss` as an implementation of `IOpenGauss`. -/
def OpenGauss.method (og : OpenGauss) : (c : Op) → Sh (OpR c)
  | .bodyParser => sys .bodyParser
  | .auth username password dbName dbPort => OpenGauss.auth username password dbName dbPort
  | .stop => og.stop
  | .start => og.start
  | .mvPgDataToTemp => og.mvPgDataToTemp
  | .mvTempToPgData => og.mvTempToPgData
  | .restore backupPath instanceName backupID threadsNum =>
    og.restore backupPath instanceName backupID threadsNum
  | .cleanPgDataTemp => og.cleanPgDataTemp
  | .success => sys .sendJSON

abbrev SysEv := Event Sys SysR Empty

abbrev Ev := Event Op OpR SysEv

def sem (og : OpenGauss) : Sem Op OpR SysEv where
  returns c r is := Run alone (og.method c) is r
  during c is := Cut alone (og.method c) is

end ShardingOnCloud.Agent.Commands
