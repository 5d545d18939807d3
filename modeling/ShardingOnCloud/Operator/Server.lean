import ShardingOnCloud.Operator.Calls

namespace ShardingOnCloud.Operator.Server

open ShardingOnCloud.Lib.Program ShardingOnCloud.Lib.Footprint
open ShardingOnCloud.Operator.StorageNodeTypes ShardingOnCloud.Operator.Calls

def ruleTypeMap (ruleType : String) : String :=
  if ruleType = "sharding" then "SHARDING TABLE" else ""

def distSQL : Stmt → String
  | .createDatabase dbName => "CREATE DATABASE IF NOT EXISTS " ++ dbName ++ ";"
  | .useDatabase dbName => "USE " ++ dbName ++ ";"
  | .registerStorageUnit dsName dsHost dsPort dsDBName dsUser dsPassword =>
    "REGISTER STORAGE UNIT IF NOT EXISTS " ++ dsName ++ " (HOST=\"" ++ dsHost ++ "\",PORT=" ++
      toString dsPort ++ ",DB=\"" ++ dsDBName ++ "\",USER=\"" ++ dsUser ++ "\",PASSWORD=\"" ++
      dsPassword ++ "\");"
  | .showRulesUsed dsName => "SHOW RULES USED STORAGE UNIT " ++ dsName ++ ";"
  | .unRegisterStorageUnit dsName => "UNREGISTER STORAGE UNIT " ++ dsName ++ ";"
  | .dropRule ruleType ruleName => "DROP " ++ ruleType ++ " RULE " ++ ruleName ++ ";"

/-- The server is not told apart from the connection of the pass. -/
def newServer (driver host : String) (port : ℕ) (user password : String) : Rec (Option Err) := do
  if driver ≠ "mysql" ∧ driver ≠ "postgres" then
    return some ("unsupported database driver: " ++ driver)
  else if host = "" ∨ port = 0 ∨ user = "" ∨ password = "" then
    return some ("invalid database config, host=" ++ host ++ ", port=" ++ toString port ++
      ", user=" ++ user ++ ", password=" ++ password)
  else
    let dataSourceName :=
      user ++ ":" ++ password ++ "@tcp(" ++ host ++ ":" ++ toString port ++ ")/"
    match ← op (.sqlOpen driver dataSourceName) with
    | some err => return some ("open database=" ++ dataSourceName ++ " error: " ++ err)
    | none =>
      match ← op .dbPing with
      | some err => return some ("ping database=" ++ dataSourceName ++ " error: " ++ err)
      | none => return none

def createDatabase (dbName : String) : Rec (Option Err) := do
  match ← op (.dbExec (.createDatabase dbName)) with
  | some err => return some ("create database error: " ++ err)
  | none => return none

def registerStorageUnit (logicDBName dsName dsHost : String) (dsPort : ℕ)
    (dsDBName dsUser dsPassword : String) : Rec (Option Err) := do
  match ← op (.dbExec (.useDatabase logicDBName)) with
  | some err => return some ("use database error: " ++ err)
  | none =>
    match ← op (.dbExec (.registerStorageUnit dsName dsHost dsPort dsDBName dsUser dsPassword)) with
    | some err => return some ("register database error: " ++ err)
    | none => return none

/-- The rules of the rows that are read, up to a row that cannot be read. -/
def scanRules : List (Except Err Rule) → Except Err (List Rule)
  | [] => .ok []
  | .error err :: _ => .error ("scan rules used error: " ++ err)
  | .ok rule :: rows => (scanRules rows).map (rule :: ·)

def getRulesUsed (dsName : String) : Rec (Except Err (List Rule)) := do
  match ← op (.dbQuery (.showRulesUsed dsName)) with
  | .error err => return .error ("get rules used error: " ++ err)
  | .ok rows =>
    match scanRules rows.rows, rows.err with
    | .error err, _ => return .error err
    | .ok _, some err => return .error ("rows error: " ++ err)
    | .ok rules, none => return .ok rules

def dropRule (ruleType ruleName : String) : Rec (Option Err) := do
  match ← op (.dbExec (.dropRule (ruleTypeMap ruleType) ruleName)) with
  | some err => return some ("drop rule fail, err: " ++ err)
  | none => return none

def dropRules : List Rule → Rec (Option Err)
  | [] => return none
  | rule :: rules => do
    match ← dropRule rule.type rule.name with
    | some err => return some ("drop rule error: " ++ err)
    | none => dropRules rules

def unRegisterStorageUnit (logicDBName dsName : String) : Rec (Option Err) := do
  match ← op (.dbExec (.useDatabase logicDBName)) with
  | some err => return some ("use database error: " ++ err)
  | none =>
    match ← getRulesUsed dsName with
    | .error err => return some ("get rules used error: " ++ err)
    | .ok rules =>
      match ← dropRules rules with
      | some err => return some err
      | none =>
        match ← op (.dbExec (.unRegisterStorageUnit dsName)) with
        | some err => return some ("unregister database error: " ++ err)
        | none => return none

end ShardingOnCloud.Operator.Server
