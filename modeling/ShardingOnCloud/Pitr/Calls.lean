import ShardingOnCloud.Lib.Pool
import ShardingOnCloud.Pitr.Model

namespace ShardingOnCloud.Pitr.Calls

open ShardingOnCloud.Lib.Program ShardingOnCloud.Lib.Pool ShardingOnCloud.Pitr.Model

/-- The statements that are sent to the proxy with `db.Exec`. -/
inductive Stmt
  | lockForBackup
  | lockForRestore
  | unlock
  | importMetaData (c : ClusterInfo)
  | dropDatabase (name : String)

/-- The errors of `entry.Info`, told apart as `errors.Is` does. -/
inductive InfoErr
  | notExist
  | other (err : Err)

/-- A file of the backup directory as `ReadAll` meets it: the error of
`entry.Info`, the outcome of reading the file, and that of decoding it. -/
structure DirEntry where
  name : String
  isDir : Bool
  info : Option InfoErr
  file : Except Err (Except Err LsBackup)

/-- The channels that goroutines report on. -/
inductive Chan
  | dataNode
  | restoreResult
  | deleteResult
  deriving DecidableEq

@[reducible] def Chan.Elem : Chan → Type
  | .dataNode => DataNode
  | .restoreResult => RestoreResult
  | .deleteResult => DeleteBackupResult

/-- What a single goroutine does to its surroundings. -/
inductive Act
  | newShardingSphereProxy (user password dbName host : String) (port : UInt16)
  | newLocalStorage (root : String)
  | exec (s : Stmt)
  | exportMetaData
  | exportStorageNodes
  | genFilename
  | newUUID
  | now
  | osCreate (name : String)
  | fileWrite (name : String) (contents : LsBackup)
  | osRemove (name : String)
  | osRename (name newName : String)
  | readDir
  | getUserApprove (prompt : String)
  | checkStatus (addr : String) (i : HealthCheckIn)
  | showDiskSpace (addr : String) (i : DiskSpaceIn)
  | backup (addr : String) (i : BackupIn)
  | showDetail (addr : String) (i : ShowDetailIn)
  | restore (addr : String) (i : RestoreIn)
  | deleteBackup (addr : String) (i : DeleteBackupIn)
  | sendDataNode (dn : DataNode)
  | sendRestoreResult (r : RestoreResult)
  | sendDeleteResult (r : DeleteBackupResult)
  | appendTracker
  | markAsDone
  | markAsErrored
  | newTicker
  | sendDone
  | selectForever
  | sleep
  | panic

/-- The answers. A ticker is answered with the number of times that it fires
before the run ends, and a failed write with its error and the text that was to
be written; what never comes back has no answer. -/
@[reducible] def ActR : Act → Type
  | .newShardingSphereProxy _ _ _ _ _ | .newLocalStorage _ | .exec _ => Option Err
  | .exportMetaData => Except Err ClusterInfo
  | .exportStorageNodes => Except Err (List StorageNode)
  | .genFilename => String × String
  | .newUUID | .now => String
  | .osCreate _ | .osRemove _ | .osRename _ _ => Option Err
  | .fileWrite _ _ => Option (Err × String)
  | .readDir => Except Err (List DirEntry)
  | .getUserApprove _ | .checkStatus _ _ => Option Err
  | .showDiskSpace _ _ => Except Err String
  | .backup _ _ => Except Err String
  | .showDetail _ _ => Except Err BackupInfo
  | .restore _ _ | .deleteBackup _ _ => Option Err
  | .sendDataNode _ | .sendRestoreResult _ | .sendDeleteResult _ => Unit
  | .appendTracker | .markAsDone | .markAsErrored | .sleep => Unit
  | .newTicker => ℕ
  | .sendDone | .selectForever | .panic => Empty

abbrev Go := Proc Act ActR

abbrev Log := List (ℕ × Label Act ActR)

/-- What the main goroutine does: an act of its own, or goroutines that it
starts, together with the way in which it waits for them. The capacity is that
of the channel they report on. -/
inductive Call
  /-- an act of the main goroutine itself -/
  | act (a : Act)
  /-- an `errgroup.Group`: `Go` for each of the functions, then `Wait` -/
  | goWait (cap : ℕ) (ws : List (Go (Option Err)))
  /-- goroutines with a tracker each, then `BlockedRendered` -/
  | goRender (κ : Chan) (cap : ℕ) (ws : List (Go Unit))
  /-- goroutines that append their tracker themselves, then polling the renderer -/
  | goPoll (κ : Chan) (cap : ℕ) (ws : List (Go Unit))
  /-- goroutines that nobody waits for, and the rest of the main goroutine -/
  | goDetach (κ : Chan) (cap : ℕ) (ws : List (Go Unit)) (rest : Go Unit)
  /-- goroutines, then a panic of the main goroutine -/
  | goPanic (κ : Chan) (cap : ℕ) (ws : List (Go Unit))

@[reducible] def Reply : Call → Type
  | .act a => ActR a
  | .goWait _ _ => List DataNode × Option Err
  | .goRender κ _ _ | .goPoll κ _ _ => List κ.Elem
  | .goDetach _ _ _ _ => Unit
  | .goPanic _ _ _ => Empty

abbrev Cli := Proc Call Reply

abbrev Ev := Event Call Reply (ℕ × Label Act ActR)

def act (a : Act) : Cli (ActR a) := .call (.act a) .ret

def goAct (a : Act) : Go (ActR a) := .call a .ret

/-- A run-time panic: the program does not go on. -/
def panic {α : Type} : Cli α := .call (.act .panic) (fun e => nomatch e)

/-- What a goroutine may run, run by the main goroutine. -/
def inMain {α : Type} : Go α → Cli α
  | .ret a => .ret a
  | .call a k => .call (.act a) (fun r => inMain (k r))

def deref {α : Type} : Option α → Cli α
  | some a => .ret a
  | none => panic

/-- The value that arrives on channel `κ` with an event. -/
def received : (κ : Chan) → Label Act ActR → Option κ.Elem
  | .dataNode, .reply (.sendDataNode dn) _ => some dn
  | .restoreResult, .reply (.sendRestoreResult r) _ => some r
  | .deleteResult, .reply (.sendDeleteResult r) _ => some r
  | _, _ => none

/-- The contents of a buffered channel that nothing has been taken from. -/
def contents (κ : Chan) (log : Log) : List κ.Elem := log.filterMap (fun x => received κ x.2)

/-- A send on a buffered channel completes only while there is room, and a panic
of one goroutine ends all of them. -/
def Room (κ : Chan) (cap : ℕ) (log : Log) (x : ℕ × Label Act ActR) : Prop :=
  ((received κ x.2).isSome → (contents κ log).length < cap) ∧
    ∀ i, (i, Label.issue Act.panic) ∉ log

def marks : Label Act ActR → Bool
  | .reply .markAsDone _ | .reply .markAsErrored _ => true
  | _ => false

def appends : Label Act ActR → Bool
  | .reply .appendTracker _ => true
  | _ => false

/-- Whether the trackers of `n` goroutines are done or errored. -/
def trackers (n : ℕ) (log : Log) : List Bool :=
  (List.range n).map (fun i => (own i log).any marks)

def appended (n : ℕ) (log : Log) : List Bool :=
  ((List.range n).filter (fun i => (own i log).any appends)).map
    (fun i => (own i log).any marks)

/-- `golang.org/x/sync/errgroup`: `Wait` blocks until all functions passed to `Go`
have returned, then returns the first of their errors that is not nil, if any.
The list has `none` for a function that has not returned. -/
structure ErrGroup where
  Returns : List (Option (Option Err)) → Option Err → Prop
  all_returned : ∀ rs e, Returns rs e → ∀ r ∈ rs, r ≠ none
  nil_iff : ∀ rs e, Returns rs e → (e = none ↔ ∀ r ∈ rs, r = some none)

/-- `go-pretty`: the renderer that `BlockedRendered` waits for stops only after
every appended tracker is done or errored. -/
structure Renderer where
  Stopped : List Bool → Prop
  all_done : ∀ ts, Stopped ts → ∀ b ∈ ts, b = true

structure Packages where
  group : ErrGroup
  renderer : Renderer

theorem findSome_eq_none (rs : List (Option (Option Err))) (h : ∀ r ∈ rs, r ≠ none) :
    rs.findSome? Option.join = none ↔ ∀ r ∈ rs, r = some none := by
  rw [List.findSome?_eq_none_iff]
  refine forall₂_congr (fun r hr => ?_)
  rcases r with _ | _ | e
  · exact absurd rfl (h _ hr)
  · simp
  · simp

def Packages.documented : Packages where
  group :=
    { Returns := fun rs e => (∀ r ∈ rs, r ≠ none) ∧ e = rs.findSome? Option.join
      all_returned := fun _ _ h => h.1
      nil_iff := fun rs _ h => h.2 ▸ findSome_eq_none rs h.1 }
  renderer :=
    { Stopped := fun ts => ∀ b ∈ ts, b = true
      all_done := fun _ h => h }

def start {α : Type} (ws : List (Go α)) : List (Thread Act ActR α) := ws.map .run

/-- The meaning of the calls of the main goroutine. The replies of acts are
arbitrary: every outcome of an external call is possible. -/
def sem (pk : Packages) : Sem Call Reply (ℕ × Label Act ActR) where
  returns
    | .act _, _, log => log = []
    | .goWait cap ws, r, log => ∃ us, Path (Room .dataNode cap) (start ws) log us ∧
        pk.group.Returns (us.map Thread.result) r.2 ∧ r.1 = contents .dataNode log
    | .goRender κ cap ws, r, log => ∃ us, Path (Room κ cap) (start ws) log us ∧
        pk.renderer.Stopped (trackers ws.length log) ∧ r = contents κ log
    | .goPoll κ cap ws, r, log => ∃ us, Path (Room κ cap) (start ws) log us ∧
        pk.renderer.Stopped (appended ws.length log) ∧ r = contents κ log
    | .goDetach κ cap ws rest, _, log => ∃ us, Path (Room κ cap) (start (rest :: ws)) log us ∧
        (us.head?.bind Thread.result).isSome
    | .goPanic _ _ _, _, _ => False
  during
    | .act _, log => log = []
    | .goWait cap ws, log => ∃ us, Path (Room .dataNode cap) (start ws) log us
    | .goRender κ cap ws, log => ∃ us, Path (Room κ cap) (start ws) log us
    | .goPoll κ cap ws, log => ∃ us, Path (Room κ cap) (start ws) log us
    | .goDetach κ cap ws rest, log => ∃ us, Path (Room κ cap) (start (rest :: ws)) log us
    | .goPanic κ cap ws, log => ∃ us, Path (Room κ cap) (start ws) log us

def did (a : Act) (r : ActR a) : List Ev := whole (.act a) r []

theorem run_act {pk : Packages} {α : Type} {a : Act} {k : ActR a → Cli α} {r : ActR a}
    {tr : List Ev} {x : α} (h : Run (sem pk) (k r) tr x) :
    Run (sem pk) (.call (.act a) k) (did a r ++ tr) x := Run.call rfl h

theorem run_act_inv {pk : Packages} {α : Type} {a : Act} {k : ActR a → Cli α} {tr : List Ev} {x : α}
    (h : Run (sem pk) (.call (.act a) k) tr x) :
    ∃ r tr', Run (sem pk) (k r) tr' x ∧ tr = did a r ++ tr' := by
  obtain ⟨r, is, tr', rfl, htr, rfl⟩ := run_call.mp h
  exact ⟨r, tr', htr, rfl⟩

theorem cut_act {pk : Packages} {α : Type} {a : Act} {k : ActR a → Cli α} {r : ActR a}
    {tr : List Ev} (h : Cut (sem pk) (k r) tr) :
    Cut (sem pk) (.call (.act a) k) (did a r ++ tr) := Cut.call rfl h

theorem run_deref {pk : Packages} {α : Type} {o : Option α} {tr : List Ev} {a : α}
    (h : Run (sem pk) (deref o) tr a) : tr = [] ∧ o = some a := by
  cases o with
  | some b =>
    obtain ⟨rfl, rfl⟩ := run_ret.mp h
    exact ⟨rfl, rfl⟩
  | none =>
    obtain ⟨r, -⟩ := run_call.mp h
    cases r

theorem mem_contents {κ : Chan} {log : Log} {v : κ.Elem} :
    v ∈ contents κ log ↔ ∃ i l, (i, l) ∈ log ∧ received κ l = some v := by
  simp [contents, List.mem_filterMap]

theorem path_room {κ : Chan} {cap : ℕ} {α : Type} {ts us : List (Thread Act ActR α)} {log : Log}
    (h : Path (Room κ cap) ts log us) {i : ℕ} {t u : Thread Act ActR α} (hi : us[i]? = some t)
    {ls : List (Label Act ActR)} (ht : Thread.Path t ls u)
    (hcap : (contents κ (log ++ ls.map (Prod.mk i))).length ≤ cap)
    (hpanic : ∀ j, (j, .issue .panic) ∉ log ++ ls.map (Prod.mk i)) :
    Path (Room κ cap) ts (log ++ ls.map (Prod.mk i)) (us.set i u) := by
  refine path_alone h hi ht ?_
  rintro a l b rfl
  refine ⟨fun hl => ?_, fun j hj => hpanic j ?_⟩
  · obtain ⟨v, hv⟩ := Option.isSome_iff_exists.mp hl
    simp only [contents, List.map_append, List.map_cons, List.filterMap_append,
      List.filterMap_cons, hv, List.length_append, List.length_cons] at hcap ⊢
    omega
  · simp only [List.map_append, List.mem_append] at hj ⊢
    tauto

end ShardingOnCloud.Pitr.Calls
