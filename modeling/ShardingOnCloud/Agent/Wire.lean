import Mathlib.Data.List.Find
import ShardingOnCloud.Agent.Handlers

namespace ShardingOnCloud.Agent.Wire

open ShardingOnCloud.Lib ShardingOnCloud.Lib.JsonParser ShardingOnCloud.Lib.JsonPrinter
open ShardingOnCloud.Pitr.Model ShardingOnCloud.Pitr.Encoding
open ShardingOnCloud.Agent.Commands ShardingOnCloud.Agent.CommandLine ShardingOnCloud.Agent.Show
open ShardingOnCloud.Agent.Handlers

/-- A field of a structure as `encoding/json` sees it. -/
abbrev JsonField (S : Type) : Type := Pitr.Encoding.Field S

inductive Method
  | get
  | post
  | delete
  deriving DecidableEq

/-- A request whose content type is `application/json`, as it is for every request of
the tool. -/
structure HttpRequest where
  method : Method
  path : String
  requestID : String
  body : String

section Fields

variable {S : Type}

def portField (get : S → UInt16) (set : UInt16 → S → S) : JsonField S :=
  field "db_port" get set (fun n => .num (toString n)) decodeUint16

def decodeUint8 : Json → UInt8 → Option UInt8
  | .num l, _ =>
    (Strconv.digits l.toList).bind (fun n => if n < 2 ^ 8 then some (UInt8.ofNat n) else none)
  | .null, n => some n
  | _, _ => none

def threadsField (get : S → UInt8) (set : UInt8 → S → S) : JsonField S :=
  field "dn_threads_num" get set (fun n => .num (toString n)) decodeUint8

end Fields

def healthCheckInFields : List (JsonField HealthCheckIn) :=
  [portField (·.dbPort) (fun x s => { s with dbPort := x }),
    textField "db_name" (·.dbName) (fun x s => { s with dbName := x }),
    textField "username" (·.username) (fun x s => { s with username := x }),
    textField "password" (·.password) (fun x s => { s with password := x })]

def healthCheckViewFields : List (JsonField HealthCheckView) :=
  [portField (·.login.dbPort) (fun x s => { s with login := { s.login with dbPort := x } }),
    textField "db_name" (·.login.dbName) (fun x s => { s with login := { s.login with dbName := x } }),
    textField "username" (·.login.username)
      (fun x s => { s with login := { s.login with username := x } }),
    textField "password" (·.login.password)
      (fun x s => { s with login := { s.login with password := x } }),
    textField "schema" (·.schema) (fun x s => { s with schema := x })]

def backupInFields : List (JsonField BackupIn) :=
  [portField (·.dbPort) (fun x s => { s with dbPort := x }),
    textField "db_name" (·.dbName) (fun x s => { s with dbName := x }),
    textField "username" (·.username) (fun x s => { s with username := x }),
    textField "password" (·.password) (fun x s => { s with password := x }),
    textField "dn_backup_path" (·.dnBackupPath) (fun x s => { s with dnBackupPath := x }),
    threadsField (·.dnThreadsNum) (fun x s => { s with dnThreadsNum := x }),
    textField "dn_backup_mode" (·.dnBackupMode.text) (fun x s => { s with dnBackupMode := ⟨x⟩ }),
    textField "instance" (·.instanceName) (fun x s => { s with instanceName := x })]

def restoreInFields : List (JsonField RestoreIn) :=
  [portField (·.dbPort) (fun x s => { s with dbPort := x }),
    textField "db_name" (·.dbName) (fun x s => { s with dbName := x }),
    textField "username" (·.username) (fun x s => { s with username := x }),
    textField "password" (·.password) (fun x s => { s with password := x }),
    textField "instance" (·.instanceName) (fun x s => { s with instanceName := x }),
    textField "dn_backup_path" (·.dnBackupPath) (fun x s => { s with dnBackupPath := x }),
    textField "dn_backup_id" (·.dnBackupID) (fun x s => { s with dnBackupID := x }),
    threadsField (·.dnThreadsNum) (fun x s => { s with dnThreadsNum := x })]

def showInFields : List (JsonField ShowDetailIn) :=
  [portField (·.dbPort) (fun x s => { s with dbPort := x }),
    textField "db_name" (·.dbName) (fun x s => { s with dbName := x }),
    textField "username" (·.username) (fun x s => { s with username := x }),
    textField "password" (·.password) (fun x s => { s with password := x }),
    textField "dn_backup_id" (·.dnBackupID) (fun x s => { s with dnBackupID := x }),
    textField "dn_backup_path" (·.dnBackupPath) (fun x s => { s with dnBackupPath := x }),
    textField "instance" (·.instanceName) (fun x s => { s with instanceName := x })]

def showListInFields : List (JsonField ShowListIn) :=
  [portField (·.dbPort) (fun x s => { s with dbPort := x }),
    textField "db_name" (·.dbName) (fun x s => { s with dbName := x }),
    textField "username" (·.username) (fun x s => { s with username := x }),
    textField "password" (·.password) (fun x s => { s with password := x }),
    textField "dn_backup_path" (·.dnBackupPath) (fun x s => { s with dnBackupPath := x }),
    textField "instance" (·.instanceName) (fun x s => { s with instanceName := x })]

/-- The tool and the agent have the last two fields in different orders. -/
def deleteBackupInFields : List (JsonField DeleteBackupIn) :=
  [portField (·.dbPort) (fun x s => { s with dbPort := x }),
    textField "db_name" (·.dbName) (fun x s => { s with dbName := x }),
    textField "username" (·.username) (fun x s => { s with username := x }),
    textField "password" (·.password) (fun x s => { s with password := x }),
    textField "dn_backup_path" (·.dnBackupPath) (fun x s => { s with dnBackupPath := x }),
    textField "backup_id" (·.backupID) (fun x s => { s with backupID := x }),
    textField "instance" (·.instanceName) (fun x s => { s with instanceName := x })]

def deleteBackupViewFields : List (JsonField DeleteBackupIn) :=
  [portField (·.dbPort) (fun x s => { s with dbPort := x }),
    textField "db_name" (·.dbName) (fun x s => { s with dbName := x }),
    textField "username" (·.username) (fun x s => { s with username := x }),
    textField "password" (·.password) (fun x s => { s with password := x }),
    textField "dn_backup_path" (·.dnBackupPath) (fun x s => { s with dnBackupPath := x }),
    textField "instance" (·.instanceName) (fun x s => { s with instanceName := x }),
    textField "backup_id" (·.backupID) (fun x s => { s with backupID := x })]

def diskSpaceInFields : List (JsonField DiskSpaceIn) :=
  [textField "diskPath" (·.diskPath) (fun x s => { s with diskPath := x })]

/-- `BackupOut`, which holds nothing but the ID. -/
def backupOutFields : List (JsonField String) := [textField "backup_id" id (fun x _ => x)]

def encodeInfos (infos : List BackupInfo) : Json := .arr (infos.map (encodeStruct backupInfoFields))

section Server

/-- A status and a body. -/
abbrev Answer := ℕ × String

/-- A handler, by what `ctx.Next()` returns in it. An answer that was written stands for the
nil error. -/
abbrev Handler := HttpRequest → Outcome Answer → Outcome Answer

/-- What `Use` and the methods of a router register. -/
inductive Layer
  | use (pre : String) (handler : Handler)
  | route (method : Method) (path : String) (handler : Handler)

/-- The requests that fiber takes to be for a prefix or for a route, and its error for a request
that no layer has answered. -/
structure Router where
  uses : String → HttpRequest → Bool
  routed : Method → String → HttpRequest → Bool
  unmatched : HttpRequest → Err

/-- The layers that a request belongs to, each around the ones that were registered later. -/
def Router.next (R : Router) (r : HttpRequest) : List Layer → Outcome Answer
  | [] => .error (R.unmatched r)
  | .use pre handler :: layers =>
    if R.uses pre r then handler r (R.next r layers) else R.next r layers
  | .route method path handler :: layers =>
    if R.routed method path r then handler r (R.next r layers) else R.next r layers

/-- What the agent uses of fiber. A request that is refused does not get to the application. -/
structure Fiber extends Router where
  refuses : HttpRequest → Bool
  bodyParser : {S : Type} → List (JsonField S) → S → String → Except Err S
  serve : List Layer → HttpRequest → Answer

def plainPath (path : String) : Bool :=
  path.toList.head? == some '/' && path.toList.all (fun c => c.isAlphanum || c == '/')

/-- A path without its case and without slashes at its end. -/
def normalPath (path : String) : List Char :=
  ((path.toList.map Char.toLower).reverse.dropWhile (· == '/')).reverse

/-- The default `BodyLimit`. -/
def bodyLimit : ℕ := 4 * 1024 * 1024

/-- The documented behaviour of fiber with its default configuration, in which a request is
refused for a body above the limit or headers that do not fit into `ReadBufferSize`, and
routes are told apart neither by case nor by a slash at their end. `BodyParser` leaves
`application/json` to `encoding/json`. -/
structure Documented (F : Fiber) : Prop where
  accepts : ∀ r, plainPath r.path = true → r.path.length + r.requestID.length ≤ 256 →
    r.body.utf8ByteSize ≤ bodyLimit → F.refuses r = false
  refused : ∀ app r, F.refuses r = true → (F.serve app r).1 ≠ 200
  handled : ∀ app r a, F.refuses r = false → F.next r app = .ok a → F.serve app r = a
  uses_root : ∀ r, F.uses "/" r = true
  uses_route : ∀ method pre path r, plainPath (pre ++ "/" ++ path) = true →
    F.routed method (pre ++ "/" ++ path) r = true → F.uses pre r = true
  routed_self : ∀ r, plainPath r.path = true → F.routed r.method r.path r = true
  routed_only : ∀ method path r, plainPath path = true → F.routed method path r = true →
    method = r.method ∧ normalPath path = normalPath r.path
  parses : ∀ {S : Type} (fields : List (JsonField S)) (zero i : S) (body : String),
    (parse body).bind (fun j => decodeStruct fields j zero) = some i →
      F.bodyParser fields zero body = .ok i

def success (data : Json) : Answer := (200, marshal (respJSON "0" "Success" data))

def rawError (err : Err) : Answer := (200, marshal (respJSON "-1" err .null))

def internal : Answer := (200, marshal (respJSON "10000" "Agent server internal error." .null))

def invalidHTTPHeader : Answer := (200, marshal (respJSON "10001" "Invalid http header." .null))

def notFound : Answer := (404, marshal (respJSON "0" "API not found" .null))

def recover : Handler
  | _, .panic => .ok internal
  | _, o => o

def uniformRawErrResp : Handler
  | _, .error err => .ok (rawError err)
  | _, o => o

/-- `AccessLog` and `Logger`. -/
def logged : Handler := fun _ next => next

def requestIDChecker : Handler := fun r next =>
  if isBlank r.requestID then .ok invalidHTTPHeader else next

variable (F : Fiber) (og : IOpenGauss)

def parseBody {S : Type} (fields : List (JsonField S)) (zero : S) (body : String) : Outcome S :=
  match F.bodyParser fields zero body with
  | .ok i => .ok i
  | .error err => .error ("body parse err: " ++ err ++ ", wrap: " ++ Restore.bodyParseFailed)

/-- The routes of `/api`, with what each handler does with the body and passes to
`responder.Success`. -/
def routes : List (Method × String × (String → Outcome Json)) :=
  [(.post, "/api/healthz", fun body => do
      healthCheck og (← parseBody F healthCheckViewFields ⟨⟨0, "", "", ""⟩, ""⟩ body)
      return .str ""),
    (.post, "/api/backup", fun body => do
      let id ← backup og (← parseBody F backupInFields ⟨0, "", "", "", "", 0, ⟨""⟩, ""⟩ body)
      return encodeStruct backupOutFields id),
    (.delete, "/api/backup", fun body => do
      deleteBackup og (← parseBody F deleteBackupViewFields ⟨0, "", "", "", "", "", ""⟩ body)
      return .str ""),
    (.post, "/api/restore", fun body => do
      og.restore (← parseBody F restoreInFields ⟨0, "", "", "", "", "", "", 0⟩ body)
      return .null),
    (.post, "/api/show", fun body => do
      let info ← «show» og (← parseBody F showInFields ⟨0, "", "", "", "", "", ""⟩ body)
      return encodePointer (encodeStruct backupInfoFields) info),
    (.post, "/api/show/list", fun body => do
      let infos ← showList og (← parseBody F showListInFields ⟨0, "", "", "", "", ""⟩ body)
      return encodeInfos infos),
    (.post, "/api/diskspace", fun body => do
      let output ← diskSpace og (← parseBody F diskSpaceInFields ⟨""⟩ body)
      return .str output)]

def routeLayer (route : Method × String × (String → Outcome Json)) : Layer :=
  .route route.1 route.2.1 (fun r _ => do return success (← route.2.2 r.body))

/-- The layers that `SetupApp` registers. -/
def setupApp : List Layer :=
  [.use "/" recover, .use "/" uniformRawErrResp,
    .route .get "/ping" (fun _ _ => .ok (success (.str "pong"))),
    .use "/" logged, .use "/" logged, .use "/api" requestIDChecker] ++
  (routes F og).map routeLayer ++ [.use "/" (fun _ _ => .ok notFound)]

def handlerOf (r : HttpRequest) : Option (Outcome Json) :=
  ((routes F og).find? (fun route => F.routed route.1 route.2.1 r)).map (·.2.2 r.body)

end Server

section Chain

/-- `Recover` and `UniformRawErrResp` around a handler. -/
def uniformResp : Outcome Json → Answer
  | .ok data => success data
  | .error err => rawError err
  | .panic => internal

variable {F : Fiber} {og : IOpenGauss}

theorem next_routes (rs : List (Method × String × (String → Outcome Json))) (r : HttpRequest)
    (layers : List Layer) : F.next r (rs.map routeLayer ++ layers) =
      ((rs.find? (fun route => F.routed route.1 route.2.1 r)).map
        (fun route => do return success (← route.2.2 r.body))).getD (F.next r layers) := by
  induction rs with
  | nil => rfl
  | cons route rs ih =>
    rw [List.map_cons, List.cons_append, routeLayer, Router.next, List.find?_cons]
    cases F.routed route.1 route.2.1 r with
    | true => rfl
    | false => exact ih

theorem next_setupApp (hF : Documented F) (r : HttpRequest) :
    F.next r (setupApp F og) = .ok (
      if F.routed .get "/ping" r then success (.str "pong")
      else if F.uses "/api" r && isBlank r.requestID then invalidHTTPHeader
      else ((handlerOf F og r).map uniformResp).getD notFound) := by
  have hroot := hF.uses_root r
  simp only [setupApp, List.cons_append, List.nil_append, Router.next, hroot, if_true, next_routes]
  cases F.routed .get "/ping" r with
  | true => rfl
  | false =>
    cases F.uses "/api" r with
    | true =>
      cases hblank : isBlank r.requestID with
      | true => simp [requestIDChecker, logged, hblank, recover, uniformRawErrResp]
      | false =>
        simp only [logged, requestIDChecker, hblank, handlerOf]
        cases (routes F og).find? _ with
        | none => rfl
        | some route => cases h : route.2.2 r.body <;> simp [h] <;> rfl
    | false =>
      simp only [logged, handlerOf]
      cases (routes F og).find? _ with
      | none => rfl
      | some route => cases h : route.2.2 r.body <;> simp [h] <;> rfl

end Chain

/-- The bytes of a UUID as `String` writes them. -/
def uuidString (bytes : Fin 16 → UInt8) : String :=
  let hex (n : Fin 16) : List Char :=
    [hexChar ((bytes n).toNat / 16), hexChar ((bytes n).toNat % 16)]
  String.ofList (hex 0 ++ hex 1 ++ hex 2 ++ hex 3 ++ '-' :: (hex 4 ++ hex 5 ++ '-' ::
    (hex 6 ++ hex 7 ++ '-' :: (hex 8 ++ hex 9 ++ '-' :: (hex 10 ++ hex 11 ++ hex 12 ++ hex 13 ++
      hex 14 ++ hex 15)))))

structure Resp (α : Type) where
  code : Int
  msg : String
  data : α

section Fields

variable {α : Type}

def respFields (dataFields : List (JsonField (Resp α))) : List (JsonField (Resp α)) :=
  intField "code" (·.code) (fun x s => { s with code := x }) ::
    textField "msg" (·.msg) (fun x s => { s with msg := x }) :: dataFields

def dataField (encode : α → Json) (decode : Json → α → Option α) : JsonField (Resp α) :=
  field "data" (·.data) (fun x s => { s with data := x }) encode decode

/-- The elements of a slice of values, where null leaves a value as it is. -/
def decodeValues (zero : α) (decode : Json → α → Option α) :
    List Json → List α → Option (List α)
  | [], _ => some []
  | j :: js, old => do
    let x ← decode j (old.head?.getD zero)
    let xs ← decodeValues zero decode js old.tail
    return x :: xs

def decodeValueSlice (zero : α) (decode : Json → α → Option α) : Json → List α → Option (List α)
  | .null, _ => some []
  | .arr js, old => decodeValues zero decode js old
  | _, _ => none

end Fields

def commonOutRespFields : List (JsonField (Resp Json)) :=
  respFields [dataField id (fun j _ => some j)]

def backupOutRespFields : List (JsonField (Resp String)) :=
  respFields [dataField (encodeStruct backupOutFields) (decodeStruct backupOutFields)]

def restoreRespFields : List (JsonField (Resp Unit)) := respFields []

def backupListRespFields : List (JsonField (Resp (List BackupInfo))) :=
  respFields [dataField encodeInfos
    (decodeValueSlice zeroInfo (decodeStruct backupInfoFields))]

/-- `DiskSpaceInfo` and `DeleteBackupOut`. -/
def textRespFields : List (JsonField (Resp String)) := respFields [dataField .str decodeString]

section Client

-- The random bytes of the ID of a request, and what comes back of a request.
variable (jsonErr : String → Err) (bytes : Fin 16 → UInt8)
  (http : HttpRequest → Except Err (ℕ × String))

/-- `Send`. The error is the one that `errors.Unwrap` finds in what it returns. -/
def send {S : Type} (r : HttpRequest) (fields : List (JsonField S)) (body : S) :
    Except (Option Err) S :=
  match http r with
  | .error err => .error (some err)
  | .ok (status, all) =>
    match (parse all).bind (fun j => decodeStruct fields j body) with
    | none => .error (some (jsonErr all))
    | some out => if status ≠ 200 then .error none else .ok out

def agentServerErr (code : Int) (msg : String) : Err :=
  "agent server err[code=" ++ toString code ++ ", msg=" ++ msg ++ "]"

def call {α : Type} (r : HttpRequest) (fields : List (JsonField (Resp α))) (zero : α) :
    Except Err (Resp α) :=
  match send jsonErr http r fields ⟨0, "", zero⟩ with
  | .error err => .error ("err=" ++ Restore.errText err)
  | .ok out => if out.code ≠ 0 then .error (agentServerErr out.code out.msg) else .ok out

def newRequest (method : Method) (path : String) (body : Json) : HttpRequest :=
  ⟨method, path, uuidString bytes, marshal body⟩

def checkStatus (i : HealthCheckIn) : Except Err Unit :=
  (call jsonErr http (newRequest bytes .post "/api/healthz" (encodeStruct healthCheckInFields i))
    commonOutRespFields .null).map (fun _ => ())

def cliBackup (i : BackupIn) : Except Err String :=
  (call jsonErr http (newRequest bytes .post "/api/backup" (encodeStruct backupInFields i))
    backupOutRespFields "").map (·.data)

def cliRestore (i : RestoreIn) : Except Err Unit :=
  (call jsonErr http (newRequest bytes .post "/api/restore" (encodeStruct restoreInFields i))
    restoreRespFields ()).map (fun _ => ())

def cliShowDetail (i : ShowDetailIn) : Except Err BackupInfo :=
  Show.showDetail jsonErr
    (http (newRequest bytes .post "/api/show" (encodeStruct showInFields i)))

def cliShowList (i : ShowListIn) : Except Err (List BackupInfo) :=
  (call jsonErr http (newRequest bytes .post "/api/show/list" (encodeStruct showListInFields i))
    backupListRespFields []).map (·.data)

def showDiskSpace (i : DiskSpaceIn) : Except Err (Resp String) :=
  call jsonErr http (newRequest bytes .post "/api/diskspace" (encodeStruct diskSpaceInFields i))
    textRespFields ""

def cliDeleteBackup (i : DeleteBackupIn) : Except Err Unit :=
  (call jsonErr http (newRequest bytes .delete "/api/backup" (encodeStruct deleteBackupInFields i))
    textRespFields "").map (fun _ => ())

end Client

def reported {α : Type} : Outcome α → Except Err α
  | .ok a => .ok a
  | .error err => .error (agentServerErr (-1) err)
  | .panic => .error (agentServerErr 10000 "Agent server internal error.")

section Requests

variable {S : Type} {fs gs : List (JsonField S)}

theorem decodeStruct_sent (h : (gs.map (·.name)).Nodup) (hsub : ∀ f ∈ fs, f ∈ gs) (s zero : S) :
    decodeStruct gs (encodeStruct fs s) zero =
      (fs.filter (fun f => !f.isEmpty s)).foldlM (fun x f => f.decode (f.encode s) x) zero := by
  have hfold : ∀ fs : List (JsonField S), (∀ f ∈ fs, f ∈ gs) → ∀ x : S,
      (fs.map (fun f => (f.name, f.encode s))).foldlM (decodeMember gs) x =
        fs.foldlM (fun x f => f.decode (f.encode s) x) x := by
    intro fs
    induction fs with
    | nil => exact fun _ x => rfl
    | cons f fs ih =>
      intro hfs x
      obtain ⟨hf, hrest⟩ := List.forall_mem_cons.mp hfs
      simp only [List.map_cons, List.foldlM_cons, decodeMember, findField_self h hf]
      exact congrArg _ (funext (ih hrest))
  exact hfold _ (fun f hf => hsub f (List.mem_filter.mp hf).1) zero

theorem parseBody_marshal {F : Fiber} (hF : Documented F) {zero i : S} {body : Json}
    (hprint : Printable body) (h : decodeStruct gs body zero = some i) :
    parseBody F gs zero (marshal body) = .ok i := by
  have hparse : parse (marshal body) = some body := parse_print hprint .compact
  rw [parseBody, hF.parses gs zero i (marshal body) (by rw [hparse, Option.bind_some, h])]

end Requests

theorem decodeUint8_toString (n m : UInt8) : decodeUint8 (.num (toString n)) m = some n := by
  have hlist : (toString n).toList = Nat.toDigits 10 n.toNat := Nat.toList_repr
  have hall : (Nat.toDigits 10 n.toNat).all Char.isDigit = true :=
    List.all_eq_true.mpr (fun c hc => Nat.isDigit_of_mem_toDigits (by decide) (by decide) hc)
  have hdigits : Strconv.digits (toString n).toList = some n.toNat := by
    rw [hlist, Strconv.digits, if_pos ⟨Nat.toDigits_ne_nil, hall⟩]
    exact congrArg some Nat.ofDigitChars_ten_toDigits
  rw [decodeUint8, hdigits, Option.bind_some, if_pos n.toNat_lt, UInt8.ofNat_toNat]

theorem decodeUint16_toString (n m : UInt16) : decodeUint16 (.num (toString n)) m = some n := by
  rw [decodeUint16, parseUint16_toString]

theorem threads_printable (n : UInt8) : Printable (.num (toString n)) :=
  .num (isNumber_repr n.toNat)

section Bodies

variable {F : Fiber} (hF : Documented F)

include hF in
theorem parseBody_healthCheck (i : HealthCheckIn) :
    parseBody F healthCheckViewFields ⟨⟨0, "", "", ""⟩, ""⟩
      (marshal (encodeStruct healthCheckInFields i)) = .ok ⟨i, ""⟩ := by
  -- the tool sends the fields of the view but the schema
  have hsent : encodeStruct healthCheckInFields i =
      encodeStruct (healthCheckViewFields.take 4) ⟨i, ""⟩ := rfl
  apply parseBody_marshal hF
  · apply encodeStruct_printable
    simp [healthCheckInFields, portField, textField, field, Printable.str, toString_printable]
  · rw [hsent, decodeStruct_sent (by decide) (fun f hf => List.mem_of_mem_take hf)]
    simp [healthCheckViewFields, portField, textField, field, decodeString, decodeUint16_toString]

include hF in
theorem parseBody_backup (i : BackupIn) :
    parseBody F backupInFields ⟨0, "", "", "", "", 0, ⟨""⟩, ""⟩
      (marshal (encodeStruct backupInFields i)) = .ok i := by
  apply parseBody_marshal hF
  · apply encodeStruct_printable
    simp [backupInFields, portField, threadsField, textField, field, Printable.str,
      toString_printable, threads_printable]
  · rw [decodeStruct_encodeStruct (by decide)]
    simp [backupInFields, portField, threadsField, textField, field, decodeString,
      decodeUint16_toString, decodeUint8_toString]

include hF in
theorem parseBody_restore (i : RestoreIn) :
    parseBody F restoreInFields ⟨0, "", "", "", "", "", "", 0⟩
      (marshal (encodeStruct restoreInFields i)) = .ok i := by
  apply parseBody_marshal hF
  · apply encodeStruct_printable
    simp [restoreInFields, portField, threadsField, textField, field, Printable.str,
      toString_printable, threads_printable]
  · rw [decodeStruct_encodeStruct (by decide)]
    simp [restoreInFields, portField, threadsField, textField, field, decodeString,
      decodeUint16_toString, decodeUint8_toString]

include hF in
theorem parseBody_show (i : ShowDetailIn) :
    parseBody F showInFields ⟨0, "", "", "", "", "", ""⟩
      (marshal (encodeStruct showInFields i)) = .ok i := by
  apply parseBody_marshal hF
  · apply encodeStruct_printable
    simp [showInFields, portField, textField, field, Printable.str, toString_printable]
  · rw [decodeStruct_encodeStruct (by decide)]
    simp [showInFields, portField, textField, field, decodeString, decodeUint16_toString]

include hF in
theorem parseBody_showList (i : ShowListIn) :
    parseBody F showListInFields ⟨0, "", "", "", "", ""⟩
      (marshal (encodeStruct showListInFields i)) = .ok i := by
  apply parseBody_marshal hF
  · apply encodeStruct_printable
    simp [showListInFields, portField, textField, field, Printable.str, toString_printable]
  · rw [decodeStruct_encodeStruct (by decide)]
    simp [showListInFields, portField, textField, field, decodeString, decodeUint16_toString]

include hF in
theorem parseBody_deleteBackup (i : DeleteBackupIn) :
    parseBody F deleteBackupViewFields ⟨0, "", "", "", "", "", ""⟩
      (marshal (encodeStruct deleteBackupInFields i)) = .ok i := by
  have hsub : ∀ f ∈ deleteBackupInFields, f ∈ deleteBackupViewFields := by
    simp [deleteBackupInFields, deleteBackupViewFields]
  apply parseBody_marshal hF
  · apply encodeStruct_printable
    simp [deleteBackupInFields, portField, textField, field, Printable.str, toString_printable]
  · rw [decodeStruct_sent (by decide) hsub]
    simp [deleteBackupInFields, portField, textField, field, decodeString, decodeUint16_toString]

include hF in
theorem parseBody_diskSpace (i : DiskSpaceIn) :
    parseBody F diskSpaceInFields ⟨""⟩ (marshal (encodeStruct diskSpaceInFields i)) =
      .ok i := by
  apply parseBody_marshal hF
  · apply encodeStruct_printable
    simp [diskSpaceInFields, textField, field, Printable.str]
  · rw [decodeStruct_encodeStruct (by decide)]
    simp [diskSpaceInFields, textField, field, decodeString]

end Bodies

theorem isNumber_neg (n : ℕ) : IsNumber ("-" ++ n.repr) := by
  intro rest hr
  have hpos := isNumber_repr n rest hr
  obtain ⟨c, cs, hcs⟩ := List.exists_cons_of_ne_nil (Nat.toDigits_ne_nil (n := n) (b := 10))
  have hdigit : c.isDigit = true :=
    Nat.isDigit_of_mem_toDigits (by decide) (by decide) (hcs ▸ List.mem_cons_self)
  have hsign : sign (n.repr.toList ++ rest) = ([], n.repr.toList ++ rest) := by
    rw [Nat.toList_repr, hcs]
    refine sign.eq_2 _ (fun cs' heq => ?_)
    cases heq
    cases hdigit
  have hminus : ("-" ++ n.repr).toList ++ rest = '-' :: (n.repr.toList ++ rest) := by simp
  rw [number, hsign] at hpos
  simp only [Option.bind_eq_some_iff, Option.map_eq_some_iff, List.nil_append] at hpos
  obtain ⟨i, hi, f, hf, e, he, heq⟩ := hpos
  obtain ⟨hnum, hrest⟩ := Prod.mk.inj heq
  rw [hminus, number, sign.eq_1, hi, Option.bind_some, hf, Option.bind_some, he, Option.map_some,
    ← Json.num.inj hnum, hrest]
  simp

theorem respJSON_printable {code msg : String} {data : Json} (hcode : IsNumber code)
    (hdata : Printable data) : Printable (respJSON code msg data) := by
  apply Printable.obj
  simp [Printable.num hcode, Printable.str, hdata]

theorem parse_resp {code msg : String} {data : Json} (hcode : IsNumber code)
    (hdata : Printable data) :
    parse (marshal (respJSON code msg data)) = some (respJSON code msg data) :=
  parse_print (respJSON_printable hcode hdata) .compact

section Answers

variable {α β : Type} {fields : List (JsonField (Resp α))} {zero : α}

/-- The type of a response takes this from its data, whatever the code and the message
are. -/
def Reads (fields : List (JsonField (Resp α))) (zero : α) (data : Json) (d : α) : Prop :=
  ∀ (code msg : String) (n : Int), decodeInt (.num code) 0 = some n →
    decodeStruct fields (respJSON code msg data) ⟨0, "", zero⟩ = some ⟨n, msg, d⟩

theorem reads_data {encode : α → Json} {decode : Json → α → Option α} {data : Json} {d : α}
    (h : decode data zero = some d) :
    Reads (respFields [dataField encode decode]) zero data d := by
  intro code msg n hcode
  simp [respFields, dataField, respJSON, decodeStruct, decodeMember, findField, intField, textField,
    field, hcode, decodeString, h]

theorem reads_nothing (data : Json) : Reads (respFields []) () data () := by
  intro code msg n hcode
  have hkey : foldKey "code" ≠ foldKey "data" ∧ foldKey "msg" ≠ foldKey "data" := by decide
  simp [respFields, respJSON, decodeStruct, decodeMember, findField, intField, textField, field,
    hcode, decodeString, hkey.1, hkey.2]

end Answers

theorem isNumber_code : IsNumber "0" ∧ IsNumber "-1" ∧ IsNumber "10000" ∧ IsNumber "10001" := by
  have hneg : "-" ++ Nat.repr 1 = "-1" := by decide
  exact ⟨isNumber_repr 0, hneg ▸ isNumber_neg 1, isNumber_repr 10000, isNumber_repr 10001⟩

section Calls

variable {α β : Type} {fields : List (JsonField (Resp α))} {zero : α} {jsonErr : String → Err}
  {http : HttpRequest → Except Err (ℕ × String)} {r : HttpRequest}

theorem send_resp {status : ℕ} {code msg : String} {data : Json} {d : α} {n : Int}
    (hhttp : http r = .ok (status, marshal (respJSON code msg data))) (hcode : IsNumber code)
    (hn : decodeInt (.num code) 0 = some n) (hdata : Printable data)
    (hread : Reads fields zero data d) :
    send jsonErr http r fields ⟨0, "", zero⟩ =
      if status ≠ 200 then .error none else .ok ⟨n, msg, d⟩ := by
  simp only [send, hhttp, parse_resp hcode hdata, Option.bind_some, hread code msg n hn]

theorem call_success {data : Json} {d : α}
    (hhttp : http r = .ok (200, marshal (respJSON "0" "Success" data))) (hdata : Printable data)
    (hread : Reads fields zero data d) :
    call jsonErr http r fields zero = .ok ⟨0, "Success", d⟩ := by
  rw [call, send_resp hhttp isNumber_code.1 (n := 0) rfl hdata hread, if_neg (by simp)]
  simp

theorem call_failure {code msg : String} {d : α} {n : Int} (hn : n ≠ 0)
    (hhttp : http r = .ok (200, marshal (respJSON code msg .null))) (hcode : IsNumber code)
    (hdecode : decodeInt (.num code) 0 = some n) (hnull : Reads fields zero .null d) :
    call jsonErr http r fields zero = .error (agentServerErr n msg) := by
  rw [call, send_resp hhttp hcode hdecode .null hnull, if_neg (by simp)]
  simp [hn]

theorem call_uniformResp {o : Outcome β} {encode : β → Json} {view : β → α} {d : α}
    (hprint : ∀ b, Printable (encode b)) (hread : ∀ b, Reads fields zero (encode b) (view b))
    (hnull : Reads fields zero .null d)
    (hhttp : http r = .ok (uniformResp (do return encode (← o)))) :
    call jsonErr http r fields zero = (reported o).map (fun b => ⟨0, "Success", view b⟩) := by
  obtain ⟨-, hneg, hinternal, -⟩ := isNumber_code
  cases o with
  | ok b => exact call_success hhttp (hprint b) (hread b)
  | error err => exact call_failure (by decide) hhttp hneg (by decide) hnull
  | panic => exact call_failure (by decide) hhttp hinternal (by decide) hnull

end Calls

theorem uuidString_not_blank (bytes : Fin 16 → UInt8) : isBlank (uuidString bytes) = false := by
  simp [isBlank, uuidString]

theorem length_uuidString (bytes : Fin 16 → UInt8) : (uuidString bytes).length = 36 := by
  rw [uuidString, String.length_ofList]
  rfl

section Routing

variable {F : Fiber} {og : IOpenGauss}

def paths : List String :=
  ["/ping", "/api/healthz", "/api/backup", "/api/restore", "/api/show", "/api/show/list",
    "/api/diskspace"]

theorem paths_plain : ∀ path ∈ paths, plainPath path = true := by decide

theorem paths_normal : ∀ path ∈ paths, ∀ path' ∈ paths, normalPath path = normalPath path' →
    path = path' := by decide

theorem routed_eq (hF : Documented F) {method : Method} {path : String} {r : HttpRequest}
    (hpath : path ∈ paths) (hr : r.path ∈ paths) :
    F.routed method path r = decide (method = r.method ∧ path = r.path) := by
  by_cases h : method = r.method ∧ path = r.path
  · obtain ⟨rfl, rfl⟩ := h
    simp [hF.routed_self r (paths_plain r.path hr)]
  · rw [decide_eq_false h, Bool.eq_false_iff]
    intro hrouted
    obtain ⟨hmethod, hnormal⟩ := hF.routed_only method path r (paths_plain path hpath) hrouted
    exact h ⟨hmethod, paths_normal path hpath r.path hr hnormal⟩

theorem routes_paths {route : Method × String × (String → Outcome Json)}
    (h : route ∈ routes F og) : route.2.1 ∈ paths := by
  simp only [routes, List.mem_cons, List.not_mem_nil, or_false] at h
  obtain rfl | rfl | rfl | rfl | rfl | rfl | rfl := h <;> simp [paths]

theorem handlerOf_eq (hF : Documented F) {r : HttpRequest} (hr : r.path ∈ paths) :
    handlerOf F og r = ((routes F og).find?
      (fun route => decide (route.1 = r.method ∧ route.2.1 = r.path))).map (·.2.2 r.body) := by
  rw [handlerOf, List.find?_congr (fun route h => routed_eq hF (routes_paths h) hr)]

theorem serve_of_handler (hF : Documented F) {bytes : Fin 16 → UInt8} {method : Method}
    {path : String} {body : Json} {outcome : Outcome Json} (hpath : path ∈ paths)
    (hmethod : method ≠ .get) (hbody : (marshal body).utf8ByteSize ≤ bodyLimit)
    (h : handlerOf F og (newRequest bytes method path body) = some outcome) :
    F.serve (setupApp F og) (newRequest bytes method path body) = uniformResp outcome := by
  have hlength : ∀ p ∈ paths, p.length + 36 ≤ 256 := by decide
  have hblank : isBlank (newRequest bytes method path body).requestID = false :=
    uuidString_not_blank bytes
  have hping : F.routed .get "/ping" (newRequest bytes method path body) = false := by
    rw [routed_eq hF (by decide) hpath, decide_eq_false]
    exact fun hget => hmethod hget.1.symm
  refine hF.handled _ _ _ (hF.accepts _ (paths_plain path hpath) ?_ hbody) ?_
  · rw [newRequest, length_uuidString]
    exact hlength path hpath
  · rw [next_setupApp hF, hping, hblank, h]
    simp

end Routing

theorem backupInfo_printable (info : BackupInfo) :
    Printable (encodeStruct backupInfoFields info) := by
  apply encodeStruct_printable
  simp [backupInfoFields, textField, field, Printable.str]

theorem backupInfo_decode (info : BackupInfo) :
    decodeStruct backupInfoFields (encodeStruct backupInfoFields info) zeroInfo = some info := by
  rw [decodeStruct_encodeStruct (by decide)]
  simp [backupInfoFields, textField, field, decodeString]

theorem encodeInfos_printable (infos : List BackupInfo) : Printable (encodeInfos infos) := by
  apply Printable.arr
  intro x hx
  obtain ⟨info, -, rfl⟩ := List.mem_map.mp hx
  exact backupInfo_printable info

theorem encodeInfos_decode (infos : List BackupInfo) :
    decodeValueSlice zeroInfo (decodeStruct backupInfoFields) (encodeInfos infos) [] =
      some infos := by
  rw [encodeInfos, decodeValueSlice]
  induction infos with
  | nil => rfl
  | cons info infos ih => simp [decodeValues, backupInfo_decode, ih]

theorem backupOut_printable (id : String) : Printable (encodeStruct backupOutFields id) := by
  apply encodeStruct_printable
  simp [backupOutFields, textField, field, Printable.str]

theorem backupOut_decode (id : String) :
    decodeStruct backupOutFields (encodeStruct backupOutFields id) "" = some id := by
  rw [decodeStruct_encodeStruct (by decide)]
  simp [backupOutFields, textField, field, decodeString]

/-- `ShowDetail` decodes into a type of its own. -/
theorem showDetail_resp (jsonErr : String → Err) {code msg : String} {n : Int} {data : Json}
    {info : BackupInfo} (hcode : IsNumber code) (hn : decodeInt (.num code) 0 = some n)
    (hdata : Printable data) (hinfo : decodeStruct backupInfoFields data zeroInfo = some info) :
    showDetail jsonErr (.ok (200, marshal (respJSON code msg data))) =
      if n ≠ 0 then .error (agentServerErr n msg) else .ok info := by
  have hresp : decodeResp (marshal (respJSON code msg data)) = some ⟨n, msg, info⟩ := by
    rw [decodeResp, parse_resp hcode hdata, Option.bind_some, respJSON, decodeStruct]
    simp [backupDetailRespFields, decodeMember, findField, intField, textField, field, hn,
      decodeString, hinfo]
  rw [showDetail]
  simp only [hresp]
  rw [if_neg (by simp)]
  rfl

theorem showDetail_uniformResp (jsonErr : String → Err) (o : Outcome (Option BackupInfo)) :
    showDetail jsonErr (.ok (uniformResp (do
      return encodePointer (encodeStruct backupInfoFields) (← o)))) =
      (reported o).map (·.getD zeroInfo) := by
  obtain ⟨hzero, hneg, hinternal, -⟩ := isNumber_code
  cases o with
  | ok info =>
    cases info with
    | none => exact showDetail_null jsonErr
    | some info =>
      exact showDetail_resp jsonErr hzero (n := 0) (by decide) (backupInfo_printable info)
        (backupInfo_decode info)
  | error err => exact showDetail_resp jsonErr hneg (n := -1) (by decide) .null rfl
  | panic => exact showDetail_resp jsonErr hinternal (n := 10000) (by decide) .null rfl

section Plain

def plainRouter : Router where
  uses pre r := pre == "/" || (normalPath pre).isPrefixOf (normalPath r.path)
  routed method path r := method == r.method && normalPath path == normalPath r.path
  unmatched r := "Cannot find " ++ r.path

def tooLarge (r : HttpRequest) : Bool :=
  decide (bodyLimit < r.body.utf8ByteSize) || decide (4096 < r.path.length + r.requestID.length)

/-- A server with the documented behaviour and no more. -/
def plainFiber : Fiber where
  toRouter := plainRouter
  refuses := tooLarge
  bodyParser fields zero body :=
    match (parse body).bind (fun j => decodeStruct fields j zero) with
    | some i => .ok i
    | none => .error "invalid character"
  serve app r :=
    if tooLarge r then (413, "Request Entity Too Large")
    else
      match plainRouter.next r app with
      | .ok a => a
      | .error err => (500, err)
      | .panic => (500, "")

theorem normalPath_append (path rest : String) : normalPath path <+: normalPath (path ++ rest) := by
  have hdrop : ∀ xs ys : List Char,
      ys.dropWhile (· == '/') <:+ (xs ++ ys).dropWhile (· == '/') := by
    intro xs ys
    induction xs with
    | nil => exact List.suffix_rfl
    | cons x xs ih =>
      rw [List.cons_append, List.dropWhile_cons]
      split
      · exact ih
      · exact (List.dropWhile_suffix _).trans (List.suffix_append (x :: xs) ys)
  rw [normalPath, normalPath, List.reverse_prefix, String.toList_append, List.map_append,
    List.reverse_append]
  exact hdrop _ _

theorem plainFiber_documented : Documented plainFiber where
  accepts r _ hlength hbody := by
    have hshort : ¬ 4096 < r.path.length + r.requestID.length := by omega
    simp [plainFiber, tooLarge, hshort, hbody]
  refused app r h := by
    have hserve : plainFiber.serve app r = (413, "Request Entity Too Large") := if_pos h
    simp [hserve]
  handled app r a hrefuses h := by
    have hlarge : tooLarge r = false := hrefuses
    have hnext : plainRouter.next r app = .ok a := h
    simp [plainFiber, hlarge, hnext]
  uses_root r := rfl
  uses_route method pre path r _ h := by
    have hroute : normalPath (pre ++ "/" ++ path) = normalPath r.path := by
      simpa using (Bool.and_eq_true_iff.mp h).2
    have hpre : normalPath pre <+: normalPath r.path := by
      rw [← hroute, String.append_assoc]
      exact normalPath_append pre _
    exact Bool.or_eq_true_iff.mpr (.inr (List.isPrefixOf_iff_prefix.mpr hpre))
  routed_self r _ := by simp [plainFiber, plainRouter]
  routed_only method path r _ h := by simpa [plainFiber, plainRouter] using h
  parses fields zero i body h := by simp [plainFiber, h]

end Plain

section Transparent

variable (F : Fiber) (og : IOpenGauss) (toolErr : String → Err) (bytes : Fin 16 → UInt8)

def asked (r : HttpRequest) : Except Err Answer := .ok (F.serve (setupApp F og) r)

def Fits {S : Type} (fields : List (JsonField S)) (i : S) : Prop :=
  (marshal (encodeStruct fields i)).utf8ByteSize ≤ bodyLimit

/-- Each call of the tool returns what the handler of the agent does for the very same
request. -/
structure Reaches : Prop where
  checkStatus (i : HealthCheckIn) : Fits healthCheckInFields i →
    checkStatus toolErr bytes (asked F og) i =
      reported (wrap (authFailure "], err wrap: " i.username i.password i.dbName)
        (og.auth i.username i.password i.dbName i.dbPort))
  backup (i : BackupIn) : Fits backupInFields i →
    cliBackup toolErr bytes (asked F og) i = reported (backup og i)
  restore (i : RestoreIn) : Fits restoreInFields i →
    cliRestore toolErr bytes (asked F og) i = reported (og.restore i)
  showDetail (i : ShowDetailIn) : Fits showInFields i →
    cliShowDetail toolErr bytes (asked F og) i = (reported («show» og i)).map (·.getD zeroInfo)
  showList (i : ShowListIn) : Fits showListInFields i →
    cliShowList toolErr bytes (asked F og) i = reported (showList og i)
  showDiskSpace (i : DiskSpaceIn) : Fits diskSpaceInFields i →
    showDiskSpace toolErr bytes (asked F og) i =
      (reported (diskSpace og i)).map (⟨0, "Success", ·⟩)
  deleteBackup (i : DeleteBackupIn) : Fits deleteBackupInFields i →
    cliDeleteBackup toolErr bytes (asked F og) i = reported (deleteBackup og i)

variable {F og bytes}

theorem call_reach {α β : Type} (hF : Documented F) {fields : List (JsonField (Resp α))}
    {zero d : α} {method : Method} {path : String} {body : Json} {o : Outcome β}
    {encode : β → Json} {view : β → α} (hpath : path ∈ paths) (hmethod : method ≠ .get)
    (hbody : (marshal body).utf8ByteSize ≤ bodyLimit)
    (hhandler : handlerOf F og (newRequest bytes method path body) =
      some (do return encode (← o)))
    (hprint : ∀ b, Printable (encode b)) (hread : ∀ b, Reads fields zero (encode b) (view b))
    (hnull : Reads fields zero .null d) :
    call toolErr (asked F og) (newRequest bytes method path body) fields zero =
      (reported o).map (fun b => ⟨0, "Success", view b⟩) :=
  call_uniformResp hprint hread hnull
    (congrArg Except.ok (serve_of_handler hF hpath hmethod hbody hhandler))

theorem map_success {α β γ : Type} (x : Except Err α) (f : α → β) (g : Resp β → γ) :
    (x.map (fun a => (⟨0, "Success", f a⟩ : Resp β))).map g =
      x.map (fun a => g ⟨0, "Success", f a⟩) := by
  cases x <;> rfl

theorem map_self {α : Type} (x : Except Err α) : x.map (fun a => a) = x := by
  cases x <;> rfl

/-- Between the tool and the handlers of the agent nothing is lost. -/
theorem calls_reach (hF : Documented F) : Reaches F og toolErr bytes where
  checkStatus i hfits := by
    have hcheck : healthCheck og ⟨i, ""⟩ =
        wrap (authFailure "], err wrap: " i.username i.password i.dbName)
          (og.auth i.username i.password i.dbName i.dbPort) := by
      unfold healthCheck
      cases og.auth i.username i.password i.dbName i.dbPort <;> rfl
    have hhandler : handlerOf F og
        (newRequest bytes .post "/api/healthz" (encodeStruct healthCheckInFields i)) =
        some (do healthCheck og ⟨i, ""⟩; return .str "") := by
      rw [handlerOf_eq hF (by simp [newRequest, paths])]
      simp [newRequest, routes, parseBody_healthCheck hF]
    rw [checkStatus, commonOutRespFields,
      call_reach toolErr hF (by decide) (by decide) hfits hhandler (fun _ => .str _)
        (fun _ => reads_data rfl) (reads_data rfl), map_success, hcheck]
    exact map_self _
  backup i hfits := by
    have hhandler : handlerOf F og
        (newRequest bytes .post "/api/backup" (encodeStruct backupInFields i)) =
        some (do return encodeStruct backupOutFields (← backup og i)) := by
      rw [handlerOf_eq hF (by simp [newRequest, paths])]
      simp [newRequest, routes, parseBody_backup hF]
    rw [cliBackup, backupOutRespFields,
      call_reach toolErr hF (by decide) (by decide) hfits hhandler backupOut_printable
        (fun id => reads_data (backupOut_decode id)) (reads_data rfl), map_success]
    exact map_self _
  restore i hfits := by
    have hhandler : handlerOf F og
        (newRequest bytes .post "/api/restore" (encodeStruct restoreInFields i)) =
        some (do og.restore i; return .null) := by
      rw [handlerOf_eq hF (by simp [newRequest, paths])]
      simp [newRequest, routes, parseBody_restore hF]
    rw [cliRestore, restoreRespFields,
      call_reach toolErr hF (by decide) (by decide) hfits hhandler (fun _ => .null)
        (fun _ => reads_nothing _) (reads_nothing _), map_success]
    exact map_self _
  showDetail i hfits := by
    have hhandler : handlerOf F og
        (newRequest bytes .post "/api/show" (encodeStruct showInFields i)) =
        some (do return encodePointer (encodeStruct backupInfoFields) (← «show» og i)) := by
      rw [handlerOf_eq hF (by simp [newRequest, paths])]
      simp [newRequest, routes, parseBody_show hF]
    rw [cliShowDetail, asked, serve_of_handler hF (by decide) (by decide) hfits hhandler]
    exact showDetail_uniformResp toolErr _
  showList i hfits := by
    have hhandler : handlerOf F og
        (newRequest bytes .post "/api/show/list" (encodeStruct showListInFields i)) =
        some (do return encodeInfos (← showList og i)) := by
      rw [handlerOf_eq hF (by simp [newRequest, paths])]
      simp [newRequest, routes, parseBody_showList hF]
    rw [cliShowList, backupListRespFields,
      call_reach toolErr hF (by decide) (by decide) hfits hhandler encodeInfos_printable
        (fun infos => reads_data (encodeInfos_decode infos)) (reads_data rfl), map_success]
    exact map_self _
  showDiskSpace i hfits := by
    have hhandler : handlerOf F og
        (newRequest bytes .post "/api/diskspace" (encodeStruct diskSpaceInFields i)) =
        some (do return .str (← diskSpace og i)) := by
      rw [handlerOf_eq hF (by simp [newRequest, paths])]
      simp [newRequest, routes, parseBody_diskSpace hF]
    exact call_reach toolErr hF (by decide) (by decide) hfits hhandler .str
      (fun _ => reads_data rfl) (reads_data rfl)
  deleteBackup i hfits := by
    have hhandler : handlerOf F og
        (newRequest bytes .delete "/api/backup" (encodeStruct deleteBackupInFields i)) =
        some (do deleteBackup og i; return .str "") := by
      rw [handlerOf_eq hF (by simp [newRequest, paths])]
      simp [newRequest, routes, parseBody_deleteBackup hF]
    rw [cliDeleteBackup, textRespFields,
      call_reach toolErr hF (by decide) (by decide) hfits hhandler (fun _ => .str _)
        (fun _ => reads_data rfl) (reads_data rfl), map_success]
    exact map_self _

/-- A node with the backup `SC1A2B`, which is still used when it is to be deleted. -/
def sampleGauss : IOpenGauss where
  auth _ password _ _ := if password = "secret" then .ok () else .error "invalid password"
  checkSchema _ _ _ _ _ := .ok ()
  init _ := .ok ()
  addInstance _ _ := .ok (some "instance already exist")
  asyncBackup _ _ _ _ _ := .ok "SC1A2B"
  delBackup _ _ _ := .error "backup in use"
  showBackup _ _ _ := .ok none
  showBackupList _ _ := .ok [none]
  restore _ := .ok ()
  mkdirAll _ := .ok ()
  exec _ := .ok "overlay 59G"

theorem calls_reach_plainFiber :
    cliBackup id (fun _ => 0) (asked plainFiber sampleGauss)
        ⟨5432, "postgres", "gauss", "secret", "/data", 4, ⟨"FULL"⟩, "ins-default"⟩ =
      .ok "SC1A2B" ∧
    cliDeleteBackup id (fun _ => 0) (asked plainFiber sampleGauss)
        ⟨5432, "postgres", "gauss", "secret", "/data", "SC1A2B", "ins-default"⟩ =
      .error (agentServerErr (-1) "delete backup failure, err: backup in use") ∧
    cliShowList id (fun _ => 0) (asked plainFiber sampleGauss)
        ⟨5432, "postgres", "gauss", "secret", "/data", "ins-default"⟩ =
      .error (agentServerErr 10000 "Agent server internal error.") := by
  have h : Reaches plainFiber sampleGauss id (fun _ => 0) := calls_reach id plainFiber_documented
  refine ⟨?_, ?_, ?_⟩
  · rw [h.backup _ (by unfold Fits; decide +kernel)]
    rfl
  · rw [h.deleteBackup _ (by unfold Fits; decide +kernel)]
    rfl
  · rw [h.showList _ (by unfold Fits; decide +kernel)]
    rfl

theorem routes_api {route : Method × String × (String → Outcome Json)}
    (h : route ∈ routes F og) :
    route.1 ≠ .get ∧ ∃ path, route.2.1 = "/api" ++ "/" ++ path := by
  simp only [routes, List.mem_cons, List.not_mem_nil, or_false] at h
  obtain rfl | rfl | rfl | rfl | rfl | rfl | rfl := h
  · exact ⟨by simp, "healthz", (by decide : "/api/healthz" = "/api" ++ "/" ++ "healthz")⟩
  · exact ⟨by simp, "backup", (by decide : "/api/backup" = "/api" ++ "/" ++ "backup")⟩
  · exact ⟨by simp, "backup", (by decide : "/api/backup" = "/api" ++ "/" ++ "backup")⟩
  · exact ⟨by simp, "restore", (by decide : "/api/restore" = "/api" ++ "/" ++ "restore")⟩
  · exact ⟨by simp, "show", (by decide : "/api/show" = "/api" ++ "/" ++ "show")⟩
  · exact ⟨by simp, "show/list", (by decide : "/api/show/list" = "/api" ++ "/" ++ "show/list")⟩
  · exact ⟨by simp, "diskspace", (by decide : "/api/diskspace" = "/api" ++ "/" ++ "diskspace")⟩

theorem routes_printable {route : Method × String × (String → Outcome Json)}
    (h : route ∈ routes F og) {body : String} {data : Json}
    (hdata : route.2.2 body = .ok data) : Printable data := by
  simp only [routes, List.mem_cons, List.not_mem_nil, or_false] at h
  obtain rfl | rfl | rfl | rfl | rfl | rfl | rfl := h
  all_goals
    obtain ⟨i, -, hdata⟩ := bind_eq_ok hdata
    obtain ⟨b, -, hdata⟩ := bind_eq_ok hdata
    cases hdata
  · exact .str _
  · exact backupOut_printable b
  · exact .str _
  · exact .null
  · exact encodePointer_printable backupInfo_printable b
  · exact encodeInfos_printable b
  · exact .str _

theorem handlerOf_cases (hF : Documented F) {r : HttpRequest} {o : Outcome Json}
    (h : handlerOf F og r = some o) :
    F.uses "/api" r = true ∧ r.method ≠ .get ∧ ∀ data, o = .ok data → Printable data := by
  obtain ⟨route, hfind, rfl⟩ := Option.map_eq_some_iff.mp h
  have hmem := List.mem_of_find?_eq_some hfind
  have hrouted := List.find?_some hfind
  obtain ⟨hget, path, hpath⟩ := routes_api hmem
  have hplain := paths_plain _ (routes_paths hmem)
  refine ⟨hF.uses_route route.1 "/api" path r (hpath ▸ hplain) (hpath ▸ hrouted), ?_,
    fun data hdata => routes_printable hmem hdata⟩
  rw [← (hF.routed_only _ _ r hplain hrouted).1]
  exact hget

theorem reads_any (data : Json) : Reads commonOutRespFields .null data data := reads_data rfl

theorem ask_uniformResp {r : HttpRequest} {o : Outcome Json}
    (hserve : F.serve (setupApp F og) r = uniformResp o)
    (hprint : ∀ data, o = .ok data → Printable data) :
    (call toolErr (asked F og) r commonOutRespFields .null).map (·.data) = reported o := by
  have hhttp : asked F og r = .ok (uniformResp o) := congrArg Except.ok hserve
  obtain ⟨-, hneg, hinternal, -⟩ := isNumber_code
  cases o with
  | ok data =>
    rw [call_success hhttp (hprint data rfl) (reads_any data)]
    rfl
  | error err =>
    rw [call_failure (by decide) hhttp hneg (n := -1) (by decide) (reads_any .null)]
    rfl
  | panic =>
    rw [call_failure (by decide) hhttp hinternal (n := 10000) (by decide) (reads_any .null)]
    rfl

/-- An answer with another status is no success, whatever its body is. -/
theorem ask_refused {r : HttpRequest} (h : (F.serve (setupApp F og) r).1 ≠ 200) :
    ∃ err, call toolErr (asked F og) r commonOutRespFields .null = .error err := by
  simp only [call, send, asked]
  cases (parse (F.serve (setupApp F og) r).2).bind
    (fun j => decodeStruct commonOutRespFields j _) with
  | none => exact ⟨_, rfl⟩
  | some out => simp [h]

theorem reported_eq_ok {α : Type} {o : Outcome α} {a : α} : reported o = .ok a ↔ o = .ok a := by
  cases o <;> simp [reported]

theorem ask_ping (hF : Documented F) {r : HttpRequest} (hrefuses : F.refuses r = false)
    (hping : F.routed .get "/ping" r = true) (data : Json) :
    (call toolErr (asked F og) r commonOutRespFields .null).map (·.data) = .ok data ↔
      data = .str "pong" := by
  have hserve := hF.handled (setupApp F og) r _ hrefuses (next_setupApp hF r)
  rw [hping, if_pos rfl] at hserve
  rw [ask_uniformResp toolErr (o := .ok (.str "pong")) hserve
    (fun _ h => Outcome.ok.inj h ▸ .str _), reported_eq_ok]
  exact ⟨fun h => (Outcome.ok.inj h).symm, fun h => h ▸ rfl⟩

theorem ask_handled (hF : Documented F) {r : HttpRequest} (hrefuses : F.refuses r = false)
    (hping : F.routed .get "/ping" r = false) (data : Json) :
    (call toolErr (asked F og) r commonOutRespFields .null).map (·.data) = .ok data ↔
      isBlank r.requestID = false ∧ handlerOf F og r = some (.ok data) := by
  have hserve := hF.handled (setupApp F og) r _ hrefuses (next_setupApp hF r)
  rw [hping, if_neg (by simp)] at hserve
  cases hblank : F.uses "/api" r && isBlank r.requestID with
  | true =>
    rw [hblank, if_pos rfl] at hserve
    obtain ⟨-, hid⟩ := Bool.and_eq_true_iff.mp hblank
    rw [call_failure (by decide) (congrArg Except.ok hserve) isNumber_code.2.2.2 (n := 10001)
      (by decide) (reads_any .null)]
    simp [Except.map, hid]
  | false =>
    rw [hblank, if_neg (by simp)] at hserve
    cases hhandler : handlerOf F og r with
    | none =>
      rw [hhandler] at hserve
      have hstatus : (F.serve (setupApp F og) r).1 ≠ 200 := by
        rw [hserve]
        exact (by decide : (404 : ℕ) ≠ 200)
      obtain ⟨err, herr⟩ := ask_refused toolErr hstatus
      simp [herr, Except.map]
    | some o =>
      obtain ⟨hapi, -, hprint⟩ := handlerOf_cases hF hhandler
      have hid : isBlank r.requestID = false := by
        simpa [hapi] using hblank
      rw [hhandler] at hserve
      rw [ask_uniformResp toolErr (o := o) hserve hprint, reported_eq_ok]
      simp [hid]

/-- The tool takes the answer to a request for success if and only if the handler of
the request has succeeded, with the data of the handler. -/
theorem ask_ok_iff (hF : Documented F) (r : HttpRequest) (data : Json) :
    (call toolErr (asked F og) r commonOutRespFields .null).map (·.data) = .ok data ↔
      F.refuses r = false ∧ ((F.routed .get "/ping" r = true ∧ data = .str "pong") ∨
        (isBlank r.requestID = false ∧ handlerOf F og r = some (.ok data))) := by
  cases hrefuses : F.refuses r with
  | true =>
    obtain ⟨err, herr⟩ := ask_refused toolErr (hF.refused (setupApp F og) r hrefuses)
    simp [herr, Except.map]
  | false =>
    cases hping : F.routed .get "/ping" r with
    | true =>
      have hmethod := (hF.routed_only .get "/ping" r (by decide) hping).1
      have hnone : handlerOf F og r ≠ some (.ok data) := fun ho =>
        (handlerOf_cases hF ho).2.1 hmethod.symm
      rw [ask_ping toolErr hF hrefuses hping]
      exact ⟨fun h => ⟨rfl, .inl ⟨rfl, h⟩⟩, fun h => h.2.elim (·.2) (fun hx => absurd hx.2 hnone)⟩
    | false =>
      rw [ask_handled toolErr hF hrefuses hping]
      simp

/-- The path is the one of `/api/diskspace`, and the second request has no ID. -/
theorem ask_ok_iff_diskSpace :
    let ask := fun id' => (call id (asked plainFiber sampleGauss)
      ⟨.post, "/API/DiskSpace/", id', marshal (encodeStruct diskSpaceInFields ⟨"/data"⟩)⟩
      commonOutRespFields .null).map (·.data)
    ask "r-1" = .ok (.str "overlay 59G") ∧ ∀ data, ask " " ≠ .ok data := by
  have hbody := parseBody_diskSpace plainFiber_documented ⟨"/data"⟩
  refine ⟨(ask_ok_iff id plainFiber_documented _ _).mpr
    ⟨by decide +kernel, .inr ⟨by decide, ?_⟩⟩, ?_⟩
  · change some (do
      let output ← diskSpace sampleGauss (← parseBody plainFiber diskSpaceInFields ⟨""⟩
        (marshal (encodeStruct diskSpaceInFields ⟨"/data"⟩)))
      return Json.str output) = _
    rw [hbody]
    rfl
  · intro data h
    obtain ⟨-, ⟨hping, -⟩ | ⟨hblank, -⟩⟩ := (ask_ok_iff id plainFiber_documented _ _).mp h
    · exact absurd hping (by decide)
    · exact absurd hblank (by decide)

end Transparent

end ShardingOnCloud.Agent.Wire
