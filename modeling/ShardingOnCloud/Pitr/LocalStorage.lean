import ShardingOnCloud.Pitr.Calls

namespace ShardingOnCloud.Pitr.LocalStorage

open ShardingOnCloud.Lib.Program ShardingOnCloud.Pitr.Model ShardingOnCloud.Pitr.Calls

def hasSuffix (name suffix : String) : Bool := suffix.toList.isSuffixOf name.toList

def startsWith (name start : String) : Bool := start.toList.isPrefixOf name.toList

def backupDir (f : Flags) : String := defaultRootDir f ++ "/" ++ "backup"

def genFilename : Cli String := do
  let name ← act .genFilename
  return name.1 ++ "_" ++ name.2 ++ ".json"

/-- The file is truncated by `os.Create` before it is written. -/
def writeByJSON (f : Flags) (name : String) (contents : LsBackup) : Cli (Option Err) :=
  if hasSuffix name ".json" then do
    match ← act (.osCreate name) with
    | some _ => return some ("create file failure. file path: " ++ backupDir f ++ "/" ++ name)
    | none =>
      match ← act (.fileWrite name contents) with
      | some (err, data) =>
        return some ("write to file failure. err: " ++ err ++ ", data: " ++ data)
      | none => return none
  else
    return some ("wrong file extension. file name: " ++ name)

def deleteByName (name : String) : Go (Option Err) := do
  match ← goAct (.osRemove name) with
  | some err => return some ("delete file failed. err: " ++ err)
  | none => return none

def hided (name : String) : String := "." ++ name

def deleteByHidedName (name : String) : Cli (Option Err) := inMain (deleteByName (hided name))

def hideByName (name : String) : Cli (Option Err) := do
  match ← act (.osRename name (hided name)) with
  | some err => return some ("hide file failed. err: " ++ err)
  | none => return none

/-- The loop of `ReadAll`, with the records read so far. -/
def readEntries (f : Flags) : List DirEntry → List LsBackup → Cli (Except Err (List LsBackup))
  | [], backups => return .ok backups
  | entry :: entries, backups =>
    if entry.isDir || startsWith entry.name "." then
      readEntries f entries backups
    else match entry.info with
    | some .notExist => return .error "The file does not exist or has changed"
    | some (.other err) => return .error ("Unknown err: get entry info failed. err: " ++ err)
    | none =>
      if hasSuffix entry.name ".json" then
        match entry.file with
        | .error err => return .error ("read file failed. err: " ++ err)
        | .ok (.error err) =>
          return .error ("invalid contents[filePath=" ++ backupDir f ++ "/" ++ entry.name ++
            "]. err: " ++ err)
        | .ok (.ok b) => do
          let info ← deref b.info
          readEntries f entries
            (backups ++ [{ b with info := some { info with fileName := entry.name } }])
      else readEntries f entries backups

def readAll (f : Flags) : Cli (Except Err (List LsBackup)) := do
  match ← act .readDir with
  | .error err =>
    return .error ("read the dir[path:" ++ backupDir f ++ "] failed. err: " ++ err)
  | .ok entries => readEntries f entries []

/-- The records of a list that have the given CSN. The list comes from `ReadAll`,
which only returns records with an `Info`. -/
def readAllByCSN (f : Flags) (csn : String) : Cli (Except Err (List LsBackup)) := do
  match ← readAll f with
  | .error err => return .error err
  | .ok list => return .ok (list.filter (fun v => decide (v.info.map (·.csn) = some csn)))

def readByCSN (f : Flags) (csn : String) : Cli (Except Err LsBackup) := do
  match ← readAll f with
  | .error err => return .error err
  | .ok list =>
    match list.find? (fun v => decide (v.info.map (·.csn) = some csn)) with
    | some v => return .ok v
    | none => return .error "Not found"

def readByID (f : Flags) (id : String) : Cli (Except Err LsBackup) := do
  match ← readAll f with
  | .error err => return .error err
  | .ok list =>
    match list.find? (fun v => decide (v.info.map (·.id) = some id)) with
    | some v => return .ok v
    | none => return .error "Not found"

end ShardingOnCloud.Pitr.LocalStorage
