import Mathlib.Algebra.GroupWithZero.Nat
import ShardingOnCloud.Operator.PressureRun

namespace ShardingOnCloud.Operator.PressureAccounting

open ShardingOnCloud.Lib.Program ShardingOnCloud.Operator.PressureRun

section Workers

theorem sum_map_set {α : Type} (f : α → ℕ) {l : List α} {i : ℕ} {a : α} (b : α)
    (h : l[i]? = some a) : ((l.set i b).map f).sum + f a = (l.map f).sum + f b := by
  induction l generalizing i with
  | nil => cases h
  | cons x l ih =>
    cases i with
    | zero =>
      cases h
      simp only [List.set_cons_zero, List.map_cons, List.sum_cons]
      omega
    | succ i =>
      have hrest := ih h
      simp only [List.set_cons_succ, List.map_cons, List.sum_cons]
      omega

/-- Whether the worker has still to call `wg.Done`. -/
def pending : Worker → ℕ
  | .finished => 0
  | _ => 1

/-- The executions of the worker whose result is not in the channel yet. -/
def owed : Worker → ℕ
  | .executing _ _ _ _ _ | .sending _ _ _ => 1
  | _ => 0

def owedSuccess : Worker → ℕ
  | .sending _ _ true => 1
  | _ => 0

/-- Whether the worker would read `db` again, were it not stopped. -/
def mayExec (tasks : List DistSQL) : Worker → Prop
  | .head rounds => 0 < rounds ∧ tasks ≠ []
  | .body rounds todo | .executing rounds todo _ _ _ | .sending rounds todo _ =>
    todo ≠ [] ∨ (0 < rounds ∧ tasks ≠ [])
  | .finished => False

def connOf : Worker → Option Conn
  | .executing _ _ conn _ _ => some conn
  | _ => none

def executions : WorkerAct → ℕ
  | .exec (some _) _ => 1
  | _ => 0

def successes : WorkerAct → ℕ
  | .executed true => 1
  | _ => 0

def Quiet (a : WorkerAct) : Prop := executions a = 0 ∧ successes a = 0

/-- A step of a worker that does not crash: what it becomes, and what it puts into the channel. -/
structure Move (p : Pressure) (sh : Shared) (w : Worker) (a : WorkerAct) (w' : Worker)
    (out : List Bool) : Prop where
  pending : pending w = 1
  owed : owed w' + out.length = owed w + executions a
  success : owedSuccess w' + out.count true = owedSuccess w + successes a
  reads : mayExec p.tasks w' → mayExec p.tasks w
  conn : ∀ c, connOf w' = some c →
    connOf w = some c ∨ (sh.db = some c ∧ mayExec p.tasks w)

def moved (p : Pressure) (i : ℕ) (w' : Worker) (out : List Bool) : Pressure :=
  { p with
    workers := p.workers.set i w'
    wg := p.wg + pending w' - 1
    resCh := p.resCh ++ out }

theorem moved_setWorker (p : Pressure) (i : ℕ) {w' : Worker} (h : pending w' = 1) :
    p.setWorker i w' = moved p i w' [] := by
  rw [moved, h, List.append_nil]
  rfl

theorem moved_finish (p : Pressure) (i : ℕ) : p.finish i = moved p i .finished [] := by
  rw [moved, List.append_nil]
  rfl

theorem workerStep_cases {p p' : Pressure} {sh sh' : Shared} {i : ℕ} {w : Worker} {a : WorkerAct}
    (h : workerStep p sh i w a = some (p', sh')) :
    (p' = p ∧ sh' = sh.crashed .nilDB ∧ Quiet a ∧ sh.db = none ∧ pending w = 1) ∨
    (p' = p ∧ sh' = sh.crashed .sendOnClosed ∧ Quiet a ∧ p.closed = true ∧ pending w = 1) ∨
    ∃ w' out, Move p sh w a w' out ∧ p' = moved p i w' out ∧ sh' = sh := by
  unfold workerStep at h
  split at h
  · cases h
    exact Or.inr (Or.inr ⟨_, _, ⟨rfl, rfl, rfl, False.elim, by simp [connOf]⟩,
      moved_finish p i, rfl⟩)
  · split at h
    · cases h
      exact Or.inr (Or.inr ⟨_, _, ⟨rfl, rfl, rfl, False.elim, by simp [connOf]⟩,
        moved_finish p i, rfl⟩)
    · rename_i rounds hgo
      cases h
      refine Or.inr (Or.inr ⟨_, _, ⟨rfl, rfl, rfl, fun _ => ?_, by simp [connOf]⟩,
        moved_setWorker p i rfl, rfl⟩)
      exact ⟨Nat.succ_pos _, fun hx => hgo (Or.inr hx)⟩
  · rename_i rounds
    cases h
    refine Or.inr (Or.inr ⟨.head rounds, [], ⟨rfl, rfl, rfl, fun hx => Or.inr hx, ?_⟩,
      moved_setWorker p i rfl, rfl⟩)
    simp [connOf]
  · rename_i rounds task todo conn times
    split at h
    · rename_i hguard
      obtain ⟨hconn, -⟩ := hguard
      split at h
      · cases h
        exact Or.inl ⟨rfl, rfl, ⟨rfl, rfl⟩, hconn.symm, rfl⟩
      · rename_i c
        cases h
        refine Or.inr (Or.inr ⟨_, _, ⟨rfl, rfl, rfl, fun _ => Or.inl (List.cons_ne_nil _ _), ?_⟩,
          moved_setWorker p i rfl, rfl⟩)
        intro c' hc'
        cases hc'
        exact Or.inr ⟨hconn.symm, Or.inl (List.cons_ne_nil _ _)⟩
    · cases h
  · rename_i rounds todo c sql args ok
    cases h
    refine Or.inr (Or.inr ⟨.sending rounds todo ok, [], ⟨rfl, rfl, ?_, id, by simp [connOf]⟩,
      moved_setWorker p i rfl, rfl⟩)
    cases ok <;> rfl
  · split at h
    · rename_i hclosed
      cases h
      exact Or.inr (Or.inl ⟨rfl, rfl, ⟨rfl, rfl⟩, hclosed, rfl⟩)
    split at h
    · cases h
      rename_i rounds todo ok _ _
      refine Or.inr (Or.inr ⟨.body rounds todo, [ok], ⟨rfl, rfl, ?_, id, by simp [connOf]⟩,
        rfl, rfl⟩)
      cases ok <;> rfl
    · cases h
  · cases h

end Workers

section Steps

inductive Drives (cfg : PressureCfg) (p : Pressure) (sh : Shared) :
    DriverAct → Pressure → Shared → Prop
  | start (hpc : p.pc = .ready) :
    Drives cfg p sh .start { p with active := true, pc := .opening } sh
  | opens (hpc : p.pc = .opening) :
    Drives cfg p sh (.open_ none) { p with pc := .pinging } (initDB cfg sh none)
  | openFails (hpc : p.pc = .opening) (err : Err) :
    Drives cfg p sh (.open_ (some err)) (p.fail err) (initDB cfg sh (some err))
  | pings (hpc : p.pc = .pinging) : Drives cfg p sh (.ping none) { p with pc := .tuning } sh
  | pingFails (hpc : p.pc = .pinging) (err : Err) :
    Drives cfg p sh (.ping (some err)) (p.fail err) sh
  | tunes (hpc : p.pc = .tuning) :
    Drives cfg p sh .setConnMaxLifetime { p with pc := .deferring } sh
  | noDB {a : DriverAct} (ha : ∀ err, a ≠ .open_ err) (hpc : p.pc = .pinging ∨ p.pc = .tuning)
    (hdb : sh.db = none) : Drives cfg p sh a p (sh.crashed .nilDB)
  | defers (hpc : p.pc = .deferring) :
    Drives cfg p sh .deferClose { p with deferred := sh.db, pc := .preparing } sh
  | prepares (hpc : p.pc = .preparing) :
    Drives cfg p sh .prepare { p with collector := .ranging, pc := .selecting } sh
  | noTicker (hreq : cfg.reqTime ≤ 0) : Drives cfg p sh .prepare p (sh.crashed .ticker)
  | ticks (hpc : p.pc = .selecting) :
    Drives cfg p sh .tick { p with pc := .spawning cfg.concurrentNum.toNat } sh
  | spawned (hpc : p.pc = .spawning 0) : Drives cfg p sh .spawn { p with pc := .selecting } sh
  | spawns {left : ℕ} (hpc : p.pc = .spawning (left + 1)) :
    Drives cfg p sh .spawn
      { p with
        wg := p.wg + 1
        workers := p.workers ++ [Worker.head cfg.reqNum.toNat]
        pc := .spawning left } sh
  | leaves (hpc : p.pc = .selecting) : Drives cfg p sh .leave { p with pc := .waiting } sh
  | waits (hpc : p.pc = .waiting) (hwg : p.wg = 0) :
    Drives cfg p sh .wait { p with pc := .closing } sh
  | closes (hpc : p.pc = .closing) :
    Drives cfg p sh .close { p with closed := true, pc := .receiving } sh
  | receives (hpc : p.pc = .receiving) (hsig : p.collector = .signalling) :
    Drives cfg p sh .receive { p with collector := .ended, pc := .leaving } sh
  | returns {c : Conn} (hpc : p.pc = .leaving) (hconn : p.deferred = some c) :
    Drives cfg p sh (.closeDB (some c)) { p with active := false, pc := .returned } sh
  | nothingDeferred (hpc : p.pc = .leaving) (hconn : p.deferred = none) :
    Drives cfg p sh (.closeDB none) p (sh.crashed .nilDB)

theorem drives_usingDB {cfg : PressureCfg} {p p' p₁ : Pressure} {sh sh' : Shared} {a : DriverAct}
    (h : usingDB sh p p₁ = (p', sh')) (ha : ∀ err, a ≠ .open_ err)
    (hpc : p.pc = .pinging ∨ p.pc = .tuning) (hd : Drives cfg p sh a p₁ sh) :
    Drives cfg p sh a p' sh' := by
  unfold usingDB at h
  split at h
  · rename_i hdb
    cases h
    exact Drives.noDB ha hpc hdb
  · cases h
    exact hd

theorem driverStep_cases {cfg : PressureCfg} {p p' : Pressure} {sh sh' : Shared} {a : DriverAct}
    (h : driverStep cfg p sh a = some (p', sh')) : Drives cfg p sh a p' sh' := by
  unfold driverStep at h
  split at h
  · obtain ⟨hpc, hx⟩ := Option.ite_none_right_eq_some.mp h
    cases hx
    exact Drives.start hpc
  · obtain ⟨hpc, hx⟩ := Option.ite_none_right_eq_some.mp h
    cases hx
    exact Drives.opens hpc
  · obtain ⟨hpc, hx⟩ := Option.ite_none_right_eq_some.mp h
    cases hx
    exact Drives.openFails hpc _
  · obtain ⟨hpc, hx⟩ := Option.ite_none_right_eq_some.mp h
    exact drives_usingDB (Option.some.inj hx) (by simp) (Or.inl hpc) (Drives.pings hpc)
  · obtain ⟨hpc, hx⟩ := Option.ite_none_right_eq_some.mp h
    exact drives_usingDB (Option.some.inj hx) (by simp) (Or.inl hpc) (Drives.pingFails hpc _)
  · obtain ⟨hpc, hx⟩ := Option.ite_none_right_eq_some.mp h
    exact drives_usingDB (Option.some.inj hx) (by simp) (Or.inr hpc) (Drives.tunes hpc)
  · obtain ⟨hpc, hx⟩ := Option.ite_none_right_eq_some.mp h
    cases hx
    exact Drives.defers hpc
  · obtain ⟨hpc, hx⟩ := Option.ite_none_right_eq_some.mp h
    split at hx
    · rename_i hreq
      cases hx
      exact Drives.noTicker hreq
    · cases hx
      exact Drives.prepares hpc
  · obtain ⟨hpc, hx⟩ := Option.ite_none_right_eq_some.mp h
    cases hx
    exact Drives.ticks hpc
  · split at h
    · rename_i hpc
      cases h
      exact Drives.spawned hpc
    · rename_i left hpc
      cases h
      exact Drives.spawns hpc
    · cases h
  · obtain ⟨⟨hpc, -⟩, hx⟩ := Option.ite_none_right_eq_some.mp h
    cases hx
    exact Drives.leaves hpc
  · obtain ⟨⟨hpc, hwg⟩, hx⟩ := Option.ite_none_right_eq_some.mp h
    cases hx
    exact Drives.waits hpc hwg
  · obtain ⟨hpc, hx⟩ := Option.ite_none_right_eq_some.mp h
    cases hx
    exact Drives.closes hpc
  · obtain ⟨⟨hpc, hsig⟩, hx⟩ := Option.ite_none_right_eq_some.mp h
    cases hx
    exact Drives.receives hpc hsig
  · obtain ⟨⟨hpc, hconn⟩, hx⟩ := Option.ite_none_right_eq_some.mp h
    split at hx
    · cases hx
      exact Drives.nothingDeferred hpc hconn.symm
    · cases hx
      exact Drives.returns hpc hconn.symm

inductive Steps (cfg : PressureCfg) (p : Pressure) (sh : Shared) :
    Act → Pressure → Shared → Prop
  | driver {a : DriverAct} {p' : Pressure} {sh' : Shared} (hd : Drives cfg p sh a p' sh') :
    Steps cfg p sh (.driver a) p' sh'
  | noDB {i : ℕ} {w : Worker} {a : WorkerAct} (hi : p.workers[i]? = some w) (hquiet : Quiet a)
    (hdb : sh.db = none) (hw : pending w = 1) :
    Steps cfg p sh (.worker i a) p (sh.crashed .nilDB)
  | sendsLate {i : ℕ} {w : Worker} {a : WorkerAct} (hi : p.workers[i]? = some w) (hquiet : Quiet a)
    (hclosed : p.closed = true) (hw : pending w = 1) :
    Steps cfg p sh (.worker i a) p (sh.crashed .sendOnClosed)
  | moves {i : ℕ} {w w' : Worker} {a : WorkerAct} {out : List Bool}
    (hi : p.workers[i]? = some w) (hm : Move p sh w a w' out) :
    Steps cfg p sh (.worker i a) (moved p i w' out) sh
  | handles {ret : Bool} {rest : List Bool} (hranging : p.collector = .ranging)
    (hres : p.resCh = ret :: rest) : Steps cfg p sh .handle (handle ret { p with resCh := rest }) sh
  | drained (hranging : p.collector = .ranging) (hres : p.resCh = []) (hclosed : p.closed = true) :
    Steps cfg p sh .drained { p with collector := .signalling } sh
  | ctxDone : Steps cfg p sh .ctxDone { p with ctxDone := true } sh
  | pressureCtxDone : Steps cfg p sh .pressureCtxDone { p with pressureCtxDone := true } sh

theorem step_cases {cfg : PressureCfg} {p p' : Pressure} {sh sh' : Shared} {a : Act}
    (h : step cfg p sh a = some (p', sh')) : Steps cfg p sh a p' sh' := by
  obtain ⟨-, h⟩ := Option.ite_none_right_eq_some.mp h
  unfold advance at h
  split at h
  · exact Steps.driver (driverStep_cases h)
  · obtain ⟨w, hi, hw⟩ := Option.bind_eq_some_iff.mp h
    obtain ⟨rfl, rfl, hquiet, hdb, hpending⟩ | ⟨rfl, rfl, hquiet, hclosed, hpending⟩ |
      ⟨w', out, hm, rfl, rfl⟩ := workerStep_cases hw
    · exact Steps.noDB hi hquiet hdb hpending
    · exact Steps.sendsLate hi hquiet hclosed hpending
    · exact Steps.moves hi hm
  · split at h
    · rename_i ret rest hranging hres
      cases h
      exact Steps.handles hranging hres
    · cases h
  · obtain ⟨⟨hranging, hres, hclosed⟩, hx⟩ := Option.ite_none_right_eq_some.mp h
    cases hx
    exact Steps.drained hranging hres hclosed
  · cases h
    exact Steps.ctxDone
  · cases h
    exact Steps.pressureCtxDone

end Steps

section Invariant

/-- How far `Run` has come: it has workers, it has waited for them, it has closed the channel, and
the results are all counted. -/
def stage : Pc → ℕ
  | .ready | .opening | .pinging | .tuning | .deferring | .preparing | .failed => 0
  | .selecting | .spawning _ | .waiting => 1
  | .closing => 2
  | .receiving => 3
  | .leaving | .returned => 4

/-- What holds of a run under every schedule. -/
structure Sound (p : Pressure) : Prop where
  counter : p.wg = (p.workers.map pending).sum
  fresh : stage p.pc = 0 → p.workers = [] ∧ p.resCh = [] ∧ p.collector = .idle
  waited : 2 ≤ stage p.pc → p.wg = 0
  closed : p.closed = true ↔ 3 ≤ stage p.pc
  drained : p.collector = .signalling ∨ p.collector = .ended → p.closed = true ∧ p.resCh = []
  ended : 4 ≤ stage p.pc → p.collector = .ended

theorem newPressure_sound (tasks : List DistSQL) : Sound (newPressure tasks) := by
  refine ⟨rfl, fun _ => ⟨rfl, rfl, rfl⟩, ?_, ?_, ?_, ?_⟩ <;> simp [newPressure, stage]

/-- A worker that is not finished keeps `Run` from closing the channel. -/
theorem Sound.running {p : Pressure} (hp : Sound p) {i : ℕ} {w : Worker}
    (hi : p.workers[i]? = some w) (hw : pending w = 1) :
    stage p.pc = 1 ∧ p.closed = false ∧ p.collector ≠ .signalling ∧ p.collector ≠ .ended := by
  have hsum := sum_map_set pending .finished hi
  have hfinished : pending .finished = 0 := rfl
  have hcounter := hp.counter
  have hwait : stage p.pc < 2 := by
    by_contra hx
    have hzero := hp.waited (by omega)
    omega
  have hstage : stage p.pc = 1 := by
    by_contra hx
    have hnone := (hp.fresh (by omega)).1
    rw [hnone] at hi
    cases hi
  have hclosed : p.closed = false := by
    rw [← Bool.not_eq_true, hp.closed]
    omega
  refine ⟨hstage, hclosed, fun hx => ?_, fun hx => ?_⟩
  · exact absurd (hp.drained (Or.inl hx)).1 (by simp [hclosed])
  · exact absurd (hp.drained (Or.inr hx)).1 (by simp [hclosed])

theorem Sound.moved {p : Pressure} (hp : Sound p) {sh : Shared} {i : ℕ} {w w' : Worker}
    {a : WorkerAct} {out : List Bool} (hi : p.workers[i]? = some w) (hm : Move p sh w a w' out) :
    Sound (moved p i w' out) := by
  obtain ⟨hstage, hclosed, hsig, hend⟩ := hp.running hi hm.pending
  have hsum := sum_map_set pending w' hi
  have hcounter := hp.counter
  have hw := hm.pending
  refine ⟨?_, fun hx => ?_, fun hx => ?_, ?_, ?_, fun hx => ?_⟩
  · simp only [PressureAccounting.moved]
    omega
  · have hx : stage p.pc = 0 := hx
    omega
  · have hx : 2 ≤ stage p.pc := hx
    omega
  · exact hp.closed
  · rintro (hx | hx)
    · exact absurd hx hsig
    · exact absurd hx hend
  · have hx : 4 ≤ stage p.pc := hx
    omega

theorem Sound.goto {p p' : Pressure} (hp : Sound p) (hstage : stage p'.pc = stage p.pc)
    (hworkers : p'.workers = p.workers) (hwg : p'.wg = p.wg) (hres : p'.resCh = p.resCh)
    (hclosed : p'.closed = p.closed) (hcollector : p'.collector = p.collector) : Sound p' := by
  refine ⟨?_, ?_, ?_, ?_, ?_, ?_⟩
  · rw [hworkers, hwg]
    exact hp.counter
  · rw [hstage, hworkers, hres, hcollector]
    exact hp.fresh
  · rw [hstage, hwg]
    exact hp.waited
  · rw [hstage, hclosed]
    exact hp.closed
  · rw [hcollector, hclosed, hres]
    exact hp.drained
  · rw [hstage, hcollector]
    exact hp.ended

theorem Drives.sound {cfg : PressureCfg} {p p' : Pressure} {sh sh' : Shared} {a : DriverAct}
    (h : Drives cfg p sh a p' sh') (hp : Sound p) : Sound p' := by
  have hclosed := hp.closed
  cases h with
  | noDB | noTicker | nothingDeferred => exact hp
  | prepares hpc =>
    rw [hpc] at hclosed
    refine ⟨hp.counter, ?_, ?_, ?_, ?_, ?_⟩
    · simp [stage]
    · simp [stage]
    · simpa [stage] using hclosed
    · simp
    · simp [stage]
  | spawns hpc =>
    rw [hpc] at hclosed
    refine ⟨?_, ?_, ?_, ?_, hp.drained, ?_⟩
    · simp [hp.counter, pending]
    · simp [stage]
    · simp [stage]
    · simpa [stage] using hclosed
    · simp [stage]
  | waits hpc hwg =>
    rw [hpc] at hclosed
    refine ⟨hp.counter, ?_, fun _ => hwg, ?_, hp.drained, ?_⟩
    · simp [stage]
    · simpa [stage] using hclosed
    · simp [stage]
  | closes hpc =>
    have hstage : stage p.pc = 2 := by rw [hpc]; rfl
    refine ⟨hp.counter, ?_, fun _ => hp.waited (by omega), ?_, ?_, ?_⟩
    · simp [stage]
    · simp [stage]
    · intro hx
      have hlate := hclosed.mp (hp.drained hx).1
      omega
    · simp [stage]
  | receives hpc hsig =>
    have hstage : stage p.pc = 3 := by rw [hpc]; rfl
    rw [hstage] at hclosed
    refine ⟨hp.counter, ?_, fun _ => hp.waited (by omega), ?_, ?_, fun _ => rfl⟩
    · simp [stage]
    · simpa [stage] using hclosed
    · exact fun _ => hp.drained (Or.inl hsig)
  | _ hpc => exact hp.goto (by rw [hpc]; rfl) rfl rfl rfl rfl rfl

theorem Steps.sound {cfg : PressureCfg} {p p' : Pressure} {sh sh' : Shared} {a : Act}
    (h : Steps cfg p sh a p' sh') (hp : Sound p) : Sound p' := by
  cases h with
  | driver hd => exact hd.sound hp
  | noDB | sendsLate => exact hp
  | moves hi hm => exact hp.moved hi hm
  | handles hranging hres =>
    refine ⟨hp.counter, fun hx => ?_, hp.waited, hp.closed, ?_, hp.ended⟩
    · have hnil := (hp.fresh hx).2.1
      rw [hres] at hnil
      cases hnil
    · intro hx
      have hnil := (hp.drained hx).2
      rw [hres] at hnil
      cases hnil
  | drained hranging hres hclosed =>
    refine ⟨hp.counter, fun hx => ?_, hp.waited, hp.closed, fun _ => ⟨hclosed, hres⟩, fun hx => ?_⟩
    · have hidle := (hp.fresh hx).2.2
      rw [hranging] at hidle
      cases hidle
    · have hended := hp.ended hx
      rw [hranging] at hended
      cases hended
  | ctxDone | pressureCtxDone => exact hp.goto rfl rfl rfl rfl rfl rfl

end Invariant

section Alone

/-- The driver is past `sql.Open`, and past the statement that defers the closing. -/
def opened : Pc → Bool
  | .ready | .opening | .failed => false
  | _ => true

def captured : Pc → Bool
  | .ready | .opening | .pinging | .tuning | .deferring | .failed => false
  | _ => true

/-- What holds besides when nobody else assigns the variable of the package. -/
structure Connected (p : Pressure) (sh : Shared) : Prop where
  live : sh.crash = none
  db : opened p.pc = true → sh.db ≠ none
  kept : captured p.pc = true → p.deferred ≠ none

theorem Connected.goto {p p' : Pressure} {sh : Shared} (hc : Connected p sh)
    (hopened : opened p'.pc = true → opened p.pc = true)
    (hcaptured : captured p'.pc = true → captured p.pc = true)
    (hdeferred : p'.deferred = p.deferred) : Connected p' sh := by
  refine ⟨hc.live, fun hx => hc.db (hopened hx), fun hx => ?_⟩
  rw [hdeferred]
  exact hc.kept (hcaptured hx)

theorem Drives.connected {cfg : PressureCfg} (hreq : 0 < cfg.reqTime) {p p' : Pressure}
    {sh sh' : Shared} {a : DriverAct} (h : Drives cfg p sh a p' sh') (hc : Connected p sh) :
    Connected p' sh' := by
  cases h with
  | start | openFails => exact ⟨hc.live, by simp [Pressure.fail, opened],
      by simp [Pressure.fail, captured]⟩
  | opens hpc => exact ⟨hc.live, fun _ => by simp [initDB], by simp [captured]⟩
  | pings hpc | pingFails hpc | tunes hpc =>
    exact hc.goto (fun _ => by rw [hpc]; rfl) (by simp [Pressure.fail, captured]) rfl
  | noDB ha hpc hdb =>
    refine absurd hdb (hc.db ?_)
    obtain hpc | hpc := hpc <;> simp [hpc, opened]
  | defers hpc =>
    have hdb := hc.db (by rw [hpc]; rfl)
    exact ⟨hc.live, fun _ => hdb, fun _ => hdb⟩
  | noTicker hle => omega
  | nothingDeferred hpc hconn => exact absurd hconn (hc.kept (by rw [hpc]; rfl))
  | _ hpc => exact hc.goto (fun _ => by rw [hpc]; rfl) (fun _ => by rw [hpc]; rfl) rfl

theorem Steps.connected {cfg : PressureCfg} (hreq : 0 < cfg.reqTime) {p p' : Pressure}
    {sh sh' : Shared} {a : Act} (h : Steps cfg p sh a p' sh') (hp : Sound p)
    (hc : Connected p sh) : Connected p' sh' := by
  cases h with
  | driver hd => exact hd.connected hreq hc
  | noDB hi hquiet hdb hw =>
    obtain ⟨hstage, -⟩ := hp.running hi hw
    refine absurd hdb (hc.db ?_)
    cases hpc : p.pc <;> simp_all [stage, opened]
  | sendsLate hi hquiet hclosed hw =>
    obtain ⟨-, hopen, -⟩ := hp.running hi hw
    rw [hopen] at hclosed
    cases hclosed
  | _ => exact hc.goto id id rfl

end Alone

section Balance

/-- The executions that are counted, in the channel, or still with a worker. -/
def held (p : Pressure) : ℕ := p.total + p.resCh.length + (p.workers.map owed).sum

def gained (p : Pressure) : ℕ := p.success + p.resCh.count true + (p.workers.map owedSuccess).sum

/-- The executions that a step begins, and the successes that it learns of. -/
def executionsOf : Act → ℕ
  | .worker _ a => executions a
  | _ => 0

def successesOf : Act → ℕ
  | .worker _ a => successes a
  | _ => 0

def executionsIn (es : List Act) : ℕ := (es.map executionsOf).sum

def successesIn (es : List Act) : ℕ := (es.map successesOf).sum

theorem held_congr {p p' : Pressure} (htotal : p'.total = p.total) (hres : p'.resCh = p.resCh)
    (hsuccess : p'.success = p.success) (hworkers : p'.workers = p.workers) :
    held p' = held p ∧ gained p' = gained p := by
  rw [held, held, gained, gained, htotal, hres, hsuccess, hworkers]
  exact ⟨rfl, rfl⟩

theorem Drives.balance {cfg : PressureCfg} {p p' : Pressure} {sh sh' : Shared} {a : DriverAct}
    (h : Drives cfg p sh a p' sh') : held p' = held p ∧ gained p' = gained p := by
  cases h with
  | spawns hpc => simp [held, gained, owed, owedSuccess]
  | _ => exact held_congr rfl rfl rfl rfl

theorem moved_balance {p : Pressure} {sh : Shared} {i : ℕ} {w w' : Worker} {a : WorkerAct}
    {out : List Bool} (hi : p.workers[i]? = some w) (hm : Move p sh w a w' out) :
    held (moved p i w' out) = held p + executions a ∧
      gained (moved p i w' out) = gained p + successes a := by
  have hsum := sum_map_set owed w' hi
  have hsuccess := sum_map_set owedSuccess w' hi
  have howed := hm.owed
  have hgood := hm.success
  simp only [held, gained, moved, List.length_append, List.count_append]
  omega

theorem Steps.balance {cfg : PressureCfg} {p p' : Pressure} {sh sh' : Shared} {a : Act}
    (h : Steps cfg p sh a p' sh') :
    held p' = held p + executionsOf a ∧ gained p' = gained p + successesOf a := by
  cases h with
  | driver hd => exact hd.balance
  | noDB hi hquiet | sendsLate hi hquiet =>
    simp [executionsOf, successesOf, hquiet.1, hquiet.2]
  | moves hi hm => exact moved_balance hi hm
  | @handles ret rest hranging hres =>
    cases ret <;> simp [held, gained, handle, hres, executionsOf, successesOf] <;> omega
  | _ => exact held_congr rfl rfl rfl rfl

end Balance

section Runs

/-- A run that nobody else interferes with. -/
def solo (cfg : PressureCfg) : World (Pressure × Shared) Act :=
  machine (fun s a => step cfg s.1 s.2 a)

variable {cfg : PressureCfg} {s t : Pressure × Shared} {es : List Act}

theorem solo_balance (h : (solo cfg).Path s es t) :
    held t.1 = held s.1 + executionsIn es ∧ gained t.1 = gained s.1 + successesIn es := by
  induction es generalizing s with
  | nil =>
    cases h
    exact ⟨rfl, rfl⟩
  | cons e es ih =>
    obtain ⟨u, hu, hpath⟩ := h
    obtain ⟨hheld, hgained⟩ := (step_cases hu).balance
    obtain ⟨hheld', hgained'⟩ := ih hpath
    simp only [executionsIn, successesIn, List.map_cons, List.sum_cons] at hheld' hgained' ⊢
    omega

theorem solo_keeps (hreq : 0 < cfg.reqTime) (h : (solo cfg).Path s es t)
    (hs : Sound s.1 ∧ Connected s.1 s.2) : Sound t.1 ∧ Connected t.1 t.2 := by
  refine World.path_keeps (K := fun s => Sound s.1 ∧ Connected s.1 s.2) h ?_ hs
  rintro e - u v hstep ⟨hp, hc⟩
  have hsteps := step_cases hstep
  exact ⟨hsteps.sound hp, hsteps.connected hreq hp hc⟩

/-- When `Run` is over, all workers are finished and every result is counted. -/
theorem Sound.returned {p : Pressure} (hp : Sound p) (h : p.Returned) :
    (∀ w ∈ p.workers, w = .finished) ∧ held p = p.total ∧ gained p = p.success := by
  obtain hpc | hpc := h
  · have hstage : stage p.pc = 4 := by rw [hpc]; rfl
    have hzero : (p.workers.map pending).sum = 0 := by
      rw [← hp.counter]
      exact hp.waited (by omega)
    have hfinished : ∀ w ∈ p.workers, w = .finished := by
      intro w hw
      have hw := List.sum_eq_zero_iff_forall_eq_nat.mp hzero (pending w) (List.mem_map_of_mem hw)
      cases w with
      | finished => rfl
      | _ => cases hw
    have hres := (hp.drained (Or.inr (hp.ended (by omega)))).2
    have hsum : ∀ f : Worker → ℕ, f .finished = 0 → (p.workers.map f).sum = 0 := by
      intro f hf
      refine List.sum_eq_zero_iff_forall_eq_nat.mpr ?_
      intro n hn
      obtain ⟨w, hw, rfl⟩ := List.mem_map.mp hn
      rw [hfinished w hw, hf]
    refine ⟨hfinished, ?_, ?_⟩
    · simp [held, hres, hsum owed rfl]
    · simp [gained, hres, hsum owedSuccess rfl]
  · obtain ⟨hworkers, hres, -⟩ := hp.fresh (by rw [hpc]; rfl)
    simp [held, gained, hworkers, hres]

end Runs

/-- The accounts of a run are exact, whatever the schedule and the outcomes of the statements. -/
theorem accounting_exact {cfg : PressureCfg} {tasks : List DistSQL} {sh₀ sh : Shared}
    {es : List Act} {p : Pressure} (hreq : 0 < cfg.reqTime) (hlive : sh₀.crash = none)
    (h : (solo cfg).Path (newPressure tasks, sh₀) es (p, sh)) :
    sh.crash = none ∧
      (p.Returned → (∀ w ∈ p.workers, w = .finished) ∧ p.total = executionsIn es ∧
        p.success = successesIn es) := by
  have hstart : Connected (newPressure tasks) sh₀ :=
    ⟨hlive, by simp [newPressure, opened], by simp [newPressure, captured]⟩
  have hkept : Sound p ∧ Connected p sh :=
    solo_keeps hreq h ⟨newPressure_sound tasks, hstart⟩
  obtain ⟨hp, hc⟩ := hkept
  refine ⟨hc.live, fun hret => ?_⟩
  obtain ⟨hfinished, htotal, hsuccess⟩ := hp.returned hret
  obtain ⟨hheld, hgained⟩ := solo_balance h
  have hzero : held (newPressure tasks) = 0 ∧ gained (newPressure tasks) = 0 := ⟨rfl, rfl⟩
  dsimp only at hheld hgained
  exact ⟨hfinished, by omega, by omega⟩

/-- A run with two workers and one statement, which fails once. -/
def sampleCfg : PressureCfg := ⟨"ss", 1, 2, 1⟩

def sampleTasks : List DistSQL := [⟨"INSERT INTO t VALUES (?)", ["a"]⟩]

def sampleActs : List Act :=
  let conn : Option Conn := some ⟨"ss", 0⟩
  [.driver .start, .driver (.open_ none), .driver (.ping none), .driver .setConnMaxLifetime,
   .driver .deferClose, .driver .prepare, .driver .tick, .driver .spawn, .driver .spawn,
   .worker 1 .iterate, .worker 1 (.exec conn [7]), .driver .spawn, .worker 0 .iterate,
   .worker 0 (.exec conn [8]), .pressureCtxDone, .driver .leave, .worker 1 (.executed false),
   .worker 0 (.executed true), .worker 1 .send, .handle, .worker 0 .send, .worker 0 .iterate,
   .worker 1 .iterate, .worker 1 .iterate, .worker 0 .iterate, .driver .wait, .driver .close,
   .handle, .drained, .driver .receive, .driver (.closeDB conn)]

theorem sample_accounts :
    ∃ p sh, (solo sampleCfg).Path (newPressure sampleTasks, {}) sampleActs (p, sh) ∧
      p.Returned ∧ p.total = 2 ∧ p.success = 1 := by
  have hends : (after (fun s a => step sampleCfg s.1 s.2 a) (newPressure sampleTasks, {})
      sampleActs).any (fun s => s.1.pc = .returned) = true := by decide +kernel
  obtain ⟨⟨p, sh⟩, hs, hpc⟩ := (Option.any_eq_true _ _).mp hends
  have hpath := after_path hs
  have hret : p.Returned := Or.inl (of_decide_eq_true hpc)
  obtain ⟨-, htotal, hsuccess⟩ := (accounting_exact (by decide) rfl hpath).2 hret
  exact ⟨p, sh, hpath, hret, htotal, hsuccess⟩

end ShardingOnCloud.Operator.PressureAccounting
