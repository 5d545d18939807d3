import ShardingOnCloud.Agent.CommandLine
import ShardingOnCloud.Pitr.Encoding

namespace ShardingOnCloud.Agent.Show

open ShardingOnCloud.Lib ShardingOnCloud.Lib.JsonParser ShardingOnCloud.Lib.JsonPrinter
open ShardingOnCloud.Pitr.Model ShardingOnCloud.Pitr.Encoding
open ShardingOnCloud.Agent.Commands ShardingOnCloud.Agent.CommandLine

/-- An entry of the catalogue that `gs_probackup show` prints. -/
structure Backup where
  id : String
  backupMode : String
  wal : String
  compressAlg : String
  compressLevel : Int
  fromReplica : String
  blockSize : Int
  xlogBlockSize : Int
  checksumVersion : Int
  programVersion : String
  serverVersion : String
  currentTli : Int
  parentTli : Int
  startLsn : String
  stopLsn : String
  startTime : String
  endTime : String
  recoveryXid : Int
  recoveryTime : String
  recoveryName : String
  dataBytes : Int
  walBytes : Int
  uncompressedBytes : Int
  pgdataBytes : Int
  status : String
  contentCrc : Int

def Backup.zero : Backup :=
  ⟨"", "", "", "", 0, "", 0, 0, 0, "", "", 0, 0, "", "", "", "", 0, "", "", 0, 0, 0, 0, "", 0⟩

structure BackupList where
  instanceName : String
  list : List (Option Backup)

def decodeInt : Json → Int → Option Int
  | .num l, _ =>
    match Strconv.parseInt 64 l with
    | (n, none) => some n
    | (_, some _) => none
  | .null, n => some n
  | _, _ => none

def intField {S : Type} (name : String) (get : S → Int) (set : Int → S → S) : Pitr.Encoding.Field S :=
  field name get set (fun n => .num (toString n)) decodeInt

def backupFields : List (Pitr.Encoding.Field Backup) :=
  [textField "id" (·.id) (fun x s => { s with id := x }),
    textField "backup-mode" (·.backupMode) (fun x s => { s with backupMode := x }),
    textField "wal" (·.wal) (fun x s => { s with wal := x }),
    textField "compress-alg" (·.compressAlg) (fun x s => { s with compressAlg := x }),
    intField "compress-level" (·.compressLevel) (fun x s => { s with compressLevel := x }),
    textField "from-replica" (·.fromReplica) (fun x s => { s with fromReplica := x }),
    intField "block-size" (·.blockSize) (fun x s => { s with blockSize := x }),
    intField "xlog-block-size" (·.xlogBlockSize) (fun x s => { s with xlogBlockSize := x }),
    intField "checksum-version" (·.checksumVersion) (fun x s => { s with checksumVersion := x }),
    textField "program-version" (·.programVersion) (fun x s => { s with programVersion := x }),
    textField "server-version" (·.serverVersion) (fun x s => { s with serverVersion := x }),
    intField "current-tli" (·.currentTli) (fun x s => { s with currentTli := x }),
    intField "parent-tli" (·.parentTli) (fun x s => { s with parentTli := x }),
    textField "start-lsn" (·.startLsn) (fun x s => { s with startLsn := x }),
    textField "stop-lsn" (·.stopLsn) (fun x s => { s with stopLsn := x }),
    textField "start-time" (·.startTime) (fun x s => { s with startTime := x }),
    textField "end-time" (·.endTime) (fun x s => { s with endTime := x }),
    intField "recovery-xid" (·.recoveryXid) (fun x s => { s with recoveryXid := x }),
    textField "recovery-time" (·.recoveryTime) (fun x s => { s with recoveryTime := x }),
    textField "recovery-name" (·.recoveryName) (fun x s => { s with recoveryName := x }),
    intField "data-bytes" (·.dataBytes) (fun x s => { s with dataBytes := x }),
    intField "wal-bytes" (·.walBytes) (fun x s => { s with walBytes := x }),
    intField "uncompressed-bytes" (·.uncompressedBytes)
      (fun x s => { s with uncompressedBytes := x }),
    intField "pgdata-bytes" (·.pgdataBytes) (fun x s => { s with pgdataBytes := x }),
    textField "status" (·.status) (fun x s => { s with status := x }),
    intField "content-crc" (·.contentCrc) (fun x s => { s with contentCrc := x })]

/-- The elements of a slice of pointers, decoded into those that are there. -/
def decodePointers {α : Type} (zero : α) (decode : Json → α → Option α) :
    List Json → List (Option α) → Option (List (Option α))
  | [], _ => some []
  | j :: js, old => do
    let x ← decodePointer zero decode j old.head?.join
    let xs ← decodePointers zero decode js old.tail
    return x :: xs

def decodePointerSlice {α : Type} (zero : α) (decode : Json → α → Option α) :
    Json → List (Option α) → Option (List (Option α))
  | .null, _ => some []
  | .arr js, old => decodePointers zero decode js old
  | _, _ => none

def encodePointerSlice {α : Type} (encode : α → Json) (xs : List (Option α)) : Json :=
  .arr (xs.map (encodePointer encode))

def backupListFields : List (Pitr.Encoding.Field BackupList) :=
  [textField "instance" (·.instanceName) (fun x s => { s with instanceName := x }),
    field "backups" (·.list) (fun x s => { s with list := x })
      (encodePointerSlice (encodeStruct backupFields))
      (decodePointerSlice Backup.zero (decodeStruct backupFields))]

/-- `json.Unmarshal` of what the command printed. -/
def decodeCatalogue (output : String) : Option (List (Option BackupList)) :=
  (parse output).bind (fun j =>
    decodePointerSlice ⟨"", []⟩ (decodeStruct backupListFields) j [])

/-- A call returns a value or an error, or it panics. -/
inductive Outcome (α : Type)
  | ok (a : α)
  | error (err : Err)
  | panic

/-- The loop of `showbackup`: the backups of the first entry with this name. When
there is none, or it has none, the error that is returned is nil. -/
def backupsOf (instanceName : String) : List (Option BackupList) → Outcome (List (Option Backup))
  | [] => .ok []
  | none :: _ => .panic
  | some ins :: list =>
    if ins.instanceName = instanceName then .ok ins.list else backupsOf instanceName list

section Agent

variable (jsonErr : String → Err) (exec : String → Except Err String)

/-- `exec` is what `cmds.Exec` returns for a command, and `jsonErr` the error of
`json.Unmarshal` for a text. -/
def showbackup (cmd instanceName : String) : Outcome (List (Option Backup)) :=
  match exec cmd with
  | .error err => .error err
  | .ok output =>
    match decodeCatalogue output with
    | none => .error (jsonErr output)
    | some list => backupsOf instanceName list

def showBackup (backupPath instanceName backupID : String) : Outcome (Option Backup) :=
  match showbackup jsonErr exec (showCmd instanceName backupPath backupID) instanceName with
  | .ok (b :: _) => .ok b
  | .ok [] => .ok none
  | .error err => .error err
  | .panic => .panic

def statusTrans (status : String) : String :=
  if status = "OK" then "Completed"
  else if status = "ERROR" then "Failed"
  else if status = "RUNNING" then "Running"
  else "Other"

def newBackupInfo (data : Option Backup) (path instanceName : String) : Option BackupInfo :=
  data.map (fun data =>
    { id := data.id, path := path, mode := data.backupMode, instanceName := instanceName,
      startTime := data.startTime, endTime := data.endTime, status := ⟨statusTrans data.status⟩ })

/-- The handler `Show`: the parsed body of the request, and what `Auth` returns. -/
def showHandler (body : Except Err ShowDetailIn) (auth : ShowDetailIn → Option Err) :
    Outcome (Option BackupInfo) :=
  match body with
  | .error err => .error ("body parse err: " ++ err ++ ", wrap: " ++ Restore.bodyParseFailed)
  | .ok i =>
    match validateShow i with
    | some err => .error ("invalid parameter, err wrap: " ++ err)
    | none =>
      match auth i with
      | some err =>
        .error ("pkg.OG.Auth failure[un=" ++ i.username ++ ",pw.len=" ++
          toString i.password.utf8ByteSize ++ ",db=" ++ i.dbName ++ "], err wrap: " ++ err)
      | none =>
        match showBackup jsonErr exec i.dnBackupPath i.instanceName i.dnBackupID with
        | .ok data => .ok (newBackupInfo data i.dnBackupPath i.instanceName)
        | .error err =>
          .error ("pkg.OG.ShowBackupDetail failure[backupPath=" ++ i.dnBackupPath ++ ",instance=" ++
            i.instanceName ++ ",backupID=" ++ i.dnBackupID ++ "], err wrap: " ++ err)
        | .panic => .panic

end Agent

def backupInfoFields : List (Pitr.Encoding.Field BackupInfo) :=
  [textField "dn_backup_id" (·.id) (fun x s => { s with id := x }),
    textField "dn_backup_path" (·.path) (fun x s => { s with path := x }),
    textField "db_backup_mode" (·.mode) (fun x s => { s with mode := x }),
    textField "instance" (·.instanceName) (fun x s => { s with instanceName := x }),
    textField "start_time" (·.startTime) (fun x s => { s with startTime := x }),
    textField "end_time" (·.endTime) (fun x s => { s with endTime := x }),
    textField "status" (·.status.text) (fun x s => { s with status := ⟨x⟩ })]

/-- The bodies of `responder.Success`, `RawError` and `Error`. -/
def respJSON (code msg : String) (data : Json) : Json :=
  .obj [("code", .num code), ("msg", .str msg), ("data", data)]

/-- What the middlewares make of the outcome of a handler; the status is always 200. -/
def respond : Outcome (Option BackupInfo) → String
  | .ok data => marshal (respJSON "0" "Success"
      (encodePointer (encodeStruct backupInfoFields) data))
  | .error err => marshal (respJSON "-1" err .null)
  | .panic => marshal (respJSON "10000" "Agent server internal error." .null)

structure BackupDetailResp where
  code : Int
  msg : String
  data : BackupInfo

def zeroInfo : BackupInfo := ⟨"", "", "", "", "", "", ⟨""⟩⟩

def backupDetailRespFields : List (Pitr.Encoding.Field BackupDetailResp) :=
  [intField "code" (·.code) (fun x s => { s with code := x }),
    textField "msg" (·.msg) (fun x s => { s with msg := x }),
    field "data" (·.data) (fun x s => { s with data := x }) (encodeStruct backupInfoFields)
      (decodeStruct backupInfoFields)]

def decodeResp (text : String) : Option BackupDetailResp :=
  (parse text).bind (fun j => decodeStruct backupDetailRespFields j ⟨0, "", zeroInfo⟩)

/-- `ShowDetail` of the command line tool, for what comes back of its request: an error
of the transport, or a status and a body. -/
def showDetail (jsonErr : String → Err) (resp : Except Err (ℕ × String)) : Except Err BackupInfo :=
  match resp with
  | .error err => .error ("err=" ++ err)
  | .ok (status, text) =>
    match decodeResp text with
    | none => .error ("err=" ++ jsonErr text)
    | some out =>
      if status ≠ 200 then .error ("err=" ++ Restore.errText none)
      else if out.code ≠ 0 then
        .error ("agent server err[code=" ++ toString out.code ++ ", msg=" ++ out.msg ++ "]")
      else .ok out.data

/-- The catalogue has no entry for the instance, or the entry has no backups. -/
def Missing (instanceName : String) (list : List BackupList) : Prop :=
  ∀ ins, list.find? (fun ins => decide (ins.instanceName = instanceName)) = some ins → ins.list = []

variable {jsonErr : String → Err} {exec : String → Except Err String} {i : ShowDetailIn}
  {auth : ShowDetailIn → Option Err} {output : String} {list : List BackupList}

theorem backupsOf_missing {instanceName : String} (h : Missing instanceName list) :
    backupsOf instanceName (list.map some) = .ok [] := by
  induction list with
  | nil => rfl
  | cons ins list ih =>
    rw [List.map_cons, backupsOf]
    by_cases hname : ins.instanceName = instanceName
    · rw [if_pos hname, h ins (by simp [hname])]
    · rw [if_neg hname]
      refine ih (fun ins' hins' => h ins' ?_)
      rw [List.find?_cons_of_neg (by simpa using hname)]
      exact hins'

theorem showBackup_missing (jsonErr : String → Err)
    (hexec : exec (showCmd i.instanceName i.dnBackupPath i.dnBackupID) = .ok output)
    (hlist : decodeCatalogue output = some (list.map some)) (h : Missing i.instanceName list) :
    showBackup jsonErr exec i.dnBackupPath i.instanceName i.dnBackupID = .ok none := by
  simp only [showBackup, showbackup, hexec, hlist, backupsOf_missing h]

theorem showHandler_missing (jsonErr : String → Err) (hvalid : validateShow i = none)
    (hauth : auth i = none)
    (hexec : exec (showCmd i.instanceName i.dnBackupPath i.dnBackupID) = .ok output)
    (hlist : decodeCatalogue output = some (list.map some)) (h : Missing i.instanceName list) :
    showHandler jsonErr exec (.ok i) auth = .ok none := by
  simp only [showHandler, hvalid, hauth, showBackup_missing jsonErr hexec hlist h, newBackupInfo,
    Option.map_none]

theorem showDetail_null (cliErr : String → Err) :
    showDetail cliErr (.ok (200, respond (.ok none))) = .ok zeroInfo := by
  have hzero : IsNumber "0" := isNumber_repr 0
  have hprint : Printable (respJSON "0" "Success" .null) := by
    refine .obj ?_
    simp [Printable.num hzero, Printable.str, Printable.null]
  have hparse : parse (respond (.ok none)) = some (respJSON "0" "Success" .null) :=
    parse_print hprint .compact
  have hresp : decodeResp (respond (.ok none)) = some ⟨0, "Success", zeroInfo⟩ := by
    rw [decodeResp, hparse]
    rfl
  rw [showDetail]
  simp only [hresp]
  rfl

/-- The missing backup is an error for `ShowBackup`, for the handler, and for the tool
that has sent the request. -/
structure Reported (jsonErr cliErr : String → Err) (exec : String → Except Err String)
    (i : ShowDetailIn) (auth : ShowDetailIn → Option Err) : Prop where
  agent : ∃ err, showBackup jsonErr exec i.dnBackupPath i.instanceName i.dnBackupID = .error err
  handler : ∀ data, showHandler jsonErr exec (.ok i) auth ≠ .ok data
  cli : ∃ err, showDetail cliErr (.ok (200, respond (showHandler jsonErr exec (.ok i) auth))) =
    .error err

theorem not_reported {cliErr : String → Err} {data : Option Backup}
    (h : showBackup jsonErr exec i.dnBackupPath i.instanceName i.dnBackupID = .ok data) :
    ¬ Reported jsonErr cliErr exec i auth := by
  intro hreported
  obtain ⟨err, herr⟩ := hreported.agent
  rw [h] at herr
  cases herr

/-- None of the three reports a missing backup: the agent finds no error, the handler
answers with success, and the tool gets a backup without a status. -/
theorem missing_never_reported (jsonErr cliErr : String → Err) (exec : String → Except Err String)
    (i : ShowDetailIn) (auth : ShowDetailIn → Option Err) (output : String)
    (list : List BackupList) (hvalid : validateShow i = none) (hauth : auth i = none)
    (hexec : exec (showCmd i.instanceName i.dnBackupPath i.dnBackupID) = .ok output)
    (hlist : decodeCatalogue output = some (list.map some))
    (hmissing : Missing i.instanceName list) :
    ¬ Reported jsonErr cliErr exec i auth ∧
      showBackup jsonErr exec i.dnBackupPath i.instanceName i.dnBackupID = .ok none ∧
      showHandler jsonErr exec (.ok i) auth = .ok none ∧
      showDetail cliErr (.ok (200, respond (showHandler jsonErr exec (.ok i) auth))) =
        .ok zeroInfo := by
  have hbackup := showBackup_missing jsonErr hexec hlist hmissing
  have hhandler := showHandler_missing jsonErr hvalid hauth hexec hlist hmissing
  refine ⟨not_reported hbackup, hbackup, hhandler, ?_⟩
  rw [hhandler]
  exact showDetail_null cliErr

def emptyCatalogue : String :=
  "[\x7b\"instance\":\"ins-default-0\",\"backups\":[]\x7d]"

theorem emptyCatalogue_decode :
    decodeCatalogue emptyCatalogue = some ([⟨"ins-default-0", []⟩].map some) := by
  have hparse : parse emptyCatalogue =
      some (.arr [.obj [("instance", .str "ins-default-0"), ("backups", .arr [])]]) := rfl
  rw [decodeCatalogue, hparse]
  rfl

def sampleIn : ShowDetailIn where
  dbPort := 5432
  dbName := "omm"
  username := "gaussdb"
  password := "secret"
  dnBackupID := "RJ2Q"
  dnBackupPath := "/home/omm/data"
  instanceName := "ins-default-0"

def printsEmpty (_ : String) : Except Err String := .ok emptyCatalogue

theorem empty_missing : Missing "ins-default-0" [⟨"ins-default-0", []⟩] := by
  intro ins hins
  obtain rfl := Option.some.inj hins
  rfl

theorem empty_never_reported :
    ¬ Reported (fun _ => "") (fun _ => "") printsEmpty sampleIn (fun _ => none) ∧
      showBackup (fun _ => "") printsEmpty "/home/omm/data" "ins-default-0" "RJ2Q" = .ok none ∧
      showHandler (fun _ => "") printsEmpty (.ok sampleIn) (fun _ => none) = .ok none ∧
      showDetail (fun _ => "")
        (.ok (200, respond (showHandler (fun _ => "") printsEmpty (.ok sampleIn)
          (fun _ => none)))) = .ok zeroInfo :=
  missing_never_reported (fun _ => "") (fun _ => "") printsEmpty sampleIn (fun _ => none)
    emptyCatalogue _ (by decide) rfl rfl emptyCatalogue_decode empty_missing

theorem empty_not_reported : Missing "ins-default-0" [⟨"ins-default-0", []⟩] ∧
    ¬ Reported (fun _ => "") (fun _ => "") printsEmpty sampleIn (fun _ => none) :=
  ⟨empty_missing, not_reported (showBackup_missing (fun _ => "") rfl emptyCatalogue_decode
    empty_missing)⟩

end ShardingOnCloud.Agent.Show
