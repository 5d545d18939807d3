import ShardingOnCloud.Lib.Program

namespace ShardingOnCloud.Operator.PressureRun

open ShardingOnCloud.Lib.Program

section Machines

variable {S E : Type}

def machine (f : S → E → Option S) : World S E where
  step s e t := f s e = some t

def after (f : S → E → Option S) : S → List E → Option S
  | s, [] => some s
  | s, e :: es => (f s e).bind (after f · es)

theorem after_path {f : S → E → Option S} {s t : S} {es : List E} (h : after f s es = some t) :
    (machine f).Path s es t := by
  induction es generalizing s with
  | nil =>
    cases h
    rfl
  | cons e es ih =>
    obtain ⟨u, hu, hrest⟩ := Option.bind_eq_some_iff.mp h
    exact ⟨u, hu, ih hrest⟩

end Machines

abbrev Err := String

structure DistSQL where
  sql : String
  args : List String
  deriving DecidableEq

/-- The timings are those of the ticker and of the contexts, which fire at any time. Only that
the interval is positive matters to the code itself. -/
structure PressureCfg where
  ssHost : String
  reqTime : Int
  concurrentNum : Int
  reqNum : Int

/-- What `sql.Open` returns, by the host that it was called with. -/
structure Conn where
  host : String
  id : ℕ
  deriving DecidableEq

/-- The arguments of a statement, each with the time at which it was made. -/
def randomArgs (args : List String) (times : List Int) : List String :=
  List.zipWith (fun arg t => arg ++ "-" ++ toString t) args times

/-- A goroutine of `exec`: at the head of its loop, in the loop over the tasks, waiting for the
database, and about to send a result. -/
inductive Worker
  | head (rounds : ℕ)
  | body (rounds : ℕ) (todo : List DistSQL)
  | executing (rounds : ℕ) (todo : List DistSQL) (conn : Conn) (sql : String) (args : List String)
  | sending (rounds : ℕ) (todo : List DistSQL) (ok : Bool)
  | finished
  deriving DecidableEq

/-- The goroutine of `handleResponse`. -/
inductive Collector
  | idle
  | ranging
  | signalling
  | ended
  deriving DecidableEq

/-- Where `Run` is. It fails when the database does not open. -/
inductive Pc
  | ready
  | opening
  | pinging
  | tuning
  | deferring
  | preparing
  | failed
  | selecting
  | spawning (left : ℕ)
  | waiting
  | closing
  | receiving
  | leaving
  | returned
  deriving DecidableEq

/-- A `Pressure` with the variables of its run. -/
structure Pressure where
  tasks : List DistSQL
  active : Bool := false
  err : Option Err := none
  total : ℕ := 0
  success : ℕ := 0
  wg : ℕ := 0
  pc : Pc := .ready
  deferred : Option Conn := none
  ctxDone : Bool := false
  pressureCtxDone : Bool := false
  workers : List Worker := []
  resCh : List Bool := []
  closed : Bool := false
  collector : Collector := .idle

def newPressure (tasks : List DistSQL) : Pressure := { tasks := tasks }

/-- How a run would bring the whole process down. -/
inductive Crash
  | nilDB
  | ticker
  | sendOnClosed
  deriving DecidableEq

/-- The variable of the package, and what all runs share otherwise. -/
structure Shared where
  db : Option Conn := none
  opened : ℕ := 0
  crash : Option Crash := none

inductive DriverAct
  | start
  | open_ (err : Option Err)
  | ping (err : Option Err)
  | setConnMaxLifetime
  | deferClose
  | prepare
  | tick
  | spawn
  | leave
  | wait
  | close
  | receive
  | closeDB (conn : Option Conn)
  deriving DecidableEq

inductive WorkerAct
  | iterate
  | exec (conn : Option Conn) (times : List Int)
  | executed (ok : Bool)
  | send
  deriving DecidableEq

/-- The steps of a run: those of its goroutines, and that a context is done. -/
inductive Act
  | driver (a : DriverAct)
  | worker (i : ℕ) (a : WorkerAct)
  | handle
  | drained
  | ctxDone
  | pressureCtxDone
  deriving DecidableEq

def Shared.crashed (sh : Shared) (c : Crash) : Shared := { sh with crash := some c }

/-- The error of `sql.Open` leaves nil in the variable. -/
def initDB (cfg : PressureCfg) (sh : Shared) : Option Err → Shared
  | none => { sh with db := some ⟨cfg.ssHost, sh.opened⟩, opened := sh.opened + 1 }
  | some _ => { sh with db := none }

def Pressure.fail (p : Pressure) (err : Err) : Pressure :=
  { p with err := some err, active := false, pc := .failed }

/-- A use of the variable `db` by the driver. -/
def usingDB (sh : Shared) (p p' : Pressure) : Pressure × Shared :=
  match sh.db with
  | none => (p, sh.crashed .nilDB)
  | some _ => (p', sh)

def driverStep (cfg : PressureCfg) (p : Pressure) (sh : Shared) :
    DriverAct → Option (Pressure × Shared)
  | .start => if p.pc = .ready then some ({ p with active := true, pc := .opening }, sh) else none
  | .open_ none =>
    if p.pc = .opening then some ({ p with pc := .pinging }, initDB cfg sh none) else none
  | .open_ (some err) =>
    if p.pc = .opening then some (p.fail err, initDB cfg sh (some err)) else none
  | .ping none => if p.pc = .pinging then some (usingDB sh p { p with pc := .tuning }) else none
  | .ping (some err) => if p.pc = .pinging then some (usingDB sh p (p.fail err)) else none
  | .setConnMaxLifetime =>
    if p.pc = .tuning then some (usingDB sh p { p with pc := .deferring }) else none
  -- the receiver of the deferred call is evaluated here
  | .deferClose =>
    if p.pc = .deferring then some ({ p with deferred := sh.db, pc := .preparing }, sh) else none
  | .prepare =>
    if p.pc = .preparing then
      if cfg.reqTime ≤ 0 then some (p, sh.crashed .ticker)
      else some ({ p with collector := .ranging, pc := .selecting }, sh)
    else none
  | .tick =>
    if p.pc = .selecting then some ({ p with pc := .spawning cfg.concurrentNum.toNat }, sh)
    else none
  | .spawn =>
    match p.pc with
    | .spawning 0 => some ({ p with pc := .selecting }, sh)
    | .spawning (left + 1) =>
      some ({ p with
        wg := p.wg + 1
        workers := p.workers ++ [Worker.head cfg.reqNum.toNat]
        pc := .spawning left }, sh)
    | _ => none
  | .leave =>
    if p.pc = .selecting ∧ (p.ctxDone = true ∨ p.pressureCtxDone = true) then
      some ({ p with pc := .waiting }, sh)
    else none
  | .wait => if p.pc = .waiting ∧ p.wg = 0 then some ({ p with pc := .closing }, sh) else none
  | .close =>
    if p.pc = .closing then some ({ p with closed := true, pc := .receiving }, sh) else none
  | .receive =>
    if p.pc = .receiving ∧ p.collector = .signalling then
      some ({ p with collector := .ended, pc := .leaving }, sh)
    else none
  | .closeDB conn =>
    if p.pc = .leaving ∧ conn = p.deferred then
      match conn with
      | none => some (p, sh.crashed .nilDB)
      | some _ => some ({ p with active := false, pc := .returned }, sh)
    else none

def Pressure.setWorker (p : Pressure) (i : ℕ) (w : Worker) : Pressure :=
  { p with workers := p.workers.set i w }

/-- The deferred `wg.Done` of a worker. -/
def Pressure.finish (p : Pressure) (i : ℕ) : Pressure :=
  { p.setWorker i .finished with wg := p.wg - 1 }

def resChSize : ℕ := 1000

def workerStep (p : Pressure) (sh : Shared) (i : ℕ) : Worker → WorkerAct →
    Option (Pressure × Shared)
  | .head 0, .iterate => some (p.finish i, sh)
  | .head (rounds + 1), .iterate =>
    if p.pressureCtxDone = true ∨ p.tasks = [] then some (p.finish i, sh)
    else some (p.setWorker i (.body rounds p.tasks), sh)
  | .body rounds [], .iterate => some (p.setWorker i (.head rounds), sh)
  | .body rounds (task :: todo), .exec conn times =>
    if conn = sh.db ∧ times.length = task.args.length then
      match conn with
      | none => some (p, sh.crashed .nilDB)
      | some c =>
        some (p.setWorker i (.executing rounds todo c task.sql (randomArgs task.args times)), sh)
    else none
  | .executing rounds todo _ _ _, .executed ok => some (p.setWorker i (.sending rounds todo ok), sh)
  | .sending rounds todo ok, .send =>
    if p.closed = true then some (p, sh.crashed .sendOnClosed)
    else if p.resCh.length < resChSize then
      some ({ p.setWorker i (.body rounds todo) with resCh := p.resCh ++ [ok] }, sh)
    else none
  | _, _ => none

def handle (ret : Bool) (p : Pressure) : Pressure :=
  { p with success := if ret then p.success + 1 else p.success, total := p.total + 1 }

def advance (cfg : PressureCfg) (p : Pressure) (sh : Shared) : Act → Option (Pressure × Shared)
  | .driver a => driverStep cfg p sh a
  | .worker i a => (p.workers[i]?).bind (workerStep p sh i · a)
  | .handle =>
    match p.collector, p.resCh with
    | .ranging, ret :: rest => some (handle ret { p with resCh := rest }, sh)
    | _, _ => none
  | .drained =>
    if p.collector = .ranging ∧ p.resCh = [] ∧ p.closed = true then
      some ({ p with collector := .signalling }, sh)
    else none
  | .ctxDone => some ({ p with ctxDone := true }, sh)
  | .pressureCtxDone => some ({ p with pressureCtxDone := true }, sh)

/-- One step of a run. After a crash nothing happens any more. -/
def step (cfg : PressureCfg) (p : Pressure) (sh : Shared) (a : Act) :
    Option (Pressure × Shared) :=
  if sh.crash = none then advance cfg p sh a else none

/-- `Run` is over. -/
def Pressure.Returned (p : Pressure) : Prop := p.pc = .returned ∨ p.pc = .failed

end ShardingOnCloud.Operator.PressureRun
