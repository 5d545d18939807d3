import ShardingOnCloud.Operator.PressureAccounting

namespace ShardingOnCloud.Operator.PressureInterference

open ShardingOnCloud.Lib.Program ShardingOnCloud.Operator.PressureRun
open ShardingOnCloud.Operator.PressureAccounting

section Readers

/-- Workers that a tick would start, or that are about to be started, read `db`. -/
def Starts (cfg : PressureCfg) (p : Pressure) (left : ℕ) : Prop :=
  (0 < left ∨ 0 < cfg.concurrentNum) ∧ 0 < cfg.reqNum ∧ p.tasks ≠ []

def SomeExec (p : Pressure) : Prop := ∃ w ∈ p.workers, mayExec p.tasks w

/-- The run has assigned `db` and may read it again. -/
def mayRead (cfg : PressureCfg) (p : Pressure) : Prop :=
  match p.pc with
  | .pinging | .tuning | .deferring => True
  | .preparing | .selecting => Starts cfg p 0 ∨ SomeExec p
  | .spawning left => Starts cfg p left ∨ SomeExec p
  | .waiting => SomeExec p
  | _ => False

/-- The step assigns `db`. -/
def Assigns (a : Act) : Prop := ∃ err, a = .driver (.open_ err)

variable {cfg : PressureCfg} {p p' : Pressure} {sh sh' : Shared}

theorem mayRead_of_exec {w : Worker} (hstage : stage p.pc = 1) (hw : w ∈ p.workers)
    (hexec : mayExec p.tasks w) : mayRead cfg p := by
  have hsome : SomeExec p := ⟨w, hw, hexec⟩
  unfold mayRead
  cases hpc : p.pc with
  | selecting => exact Or.inr hsome
  | spawning left => exact Or.inr hsome
  | waiting => exact hsome
  | _ =>
    rw [hpc] at hstage
    cases hstage

theorem mayRead_stay (hpc : p'.pc = p.pc) (htasks : p'.tasks = p.tasks)
    (hsome : SomeExec p' → SomeExec p) (h : mayRead cfg p') : mayRead cfg p := by
  unfold mayRead Starts at h ⊢
  rw [hpc, htasks] at h
  split at h
  · trivial
  · trivial
  · trivial
  · exact h.imp_right hsome
  · exact h.imp_right hsome
  · exact h.imp_right hsome
  · exact hsome h
  · exact h

/-- What a step of the driver that does not assign `db` does to the readers. -/
structure Keeps (cfg : PressureCfg) (p p' : Pressure) (sh sh' : Shared) : Prop where
  db : sh'.db = sh.db
  reads : mayRead cfg p' → mayRead cfg p
  deferred : p'.deferred = p.deferred ∨ (p'.deferred = sh.db ∧ mayRead cfg p)
  conns : ∀ w' ∈ p'.workers, ∀ c, connOf w' = some c →
    (∃ w ∈ p.workers, connOf w = some c) ∨ (sh.db = some c ∧ mayRead cfg p)

theorem keeps_goto (hreads : mayRead cfg p' → mayRead cfg p) (hdeferred : p'.deferred = p.deferred)
    (hworkers : p'.workers = p.workers) : Keeps cfg p p' sh sh := by
  refine ⟨rfl, hreads, Or.inl hdeferred, ?_⟩
  intro w hw c hc
  rw [hworkers] at hw
  exact Or.inl ⟨w, hw, hc⟩

theorem keeps_crash (c : Crash) : Keeps cfg p p sh (sh.crashed c) :=
  ⟨rfl, id, Or.inl rfl, fun w hw _ hc => Or.inl ⟨w, hw, hc⟩⟩

theorem drives_keeps {a : DriverAct} (h : Drives cfg p sh a p' sh')
    (ha : ∀ err, a ≠ .open_ err) : Keeps cfg p p' sh sh' := by
  cases h with
  | opens => exact absurd rfl (ha _)
  | openFails => exact absurd rfl (ha _)
  | noDB | noTicker | nothingDeferred => exact keeps_crash _
  | pings hpc | pingFails hpc | tunes hpc => exact keeps_goto (by simp [mayRead, hpc]) rfl rfl
  | defers hpc =>
    have hread : mayRead cfg p := by simp [mayRead, hpc]
    exact ⟨rfl, fun _ => hread, Or.inr ⟨rfl, hread⟩, fun w hw c hc => Or.inl ⟨w, hw, hc⟩⟩
  | prepares hpc | spawned hpc =>
    exact keeps_goto (by simp [mayRead, hpc, Starts, SomeExec]) rfl rfl
  | ticks hpc =>
    refine keeps_goto ?_ rfl rfl
    simp only [mayRead, hpc]
    rintro (⟨hcount, hrest⟩ | hsome)
    · exact Or.inl ⟨Or.inr (by omega), hrest⟩
    · exact Or.inr hsome
  | spawns hpc =>
    refine ⟨rfl, ?_, Or.inl rfl, ?_⟩
    · simp only [mayRead, hpc]
      rintro (⟨-, hrest⟩ | ⟨w, hw, hexec⟩)
      · exact Or.inl ⟨Or.inl (Nat.succ_pos _), hrest⟩
      · obtain hw | hw := List.mem_append.mp hw
        · exact Or.inr ⟨w, hw, hexec⟩
        · obtain rfl := List.mem_singleton.mp hw
          exact Or.inl ⟨Or.inl (Nat.succ_pos _), by have := hexec.1; omega, hexec.2⟩
    · intro w hw c hc
      obtain hw | hw := List.mem_append.mp hw
      · exact Or.inl ⟨w, hw, hc⟩
      · obtain rfl := List.mem_singleton.mp hw
        cases hc
  | leaves hpc =>
    refine keeps_goto ?_ rfl rfl
    simp only [mayRead, hpc]
    exact Or.inr
  | _ => exact keeps_goto (by simp [mayRead]) rfl rfl

theorem moved_keeps {i : ℕ} {w w' : Worker} {a : WorkerAct} {out : List Bool} (hp : Sound p)
    (hi : p.workers[i]? = some w) (hm : Move p sh w a w' out) :
    Keeps cfg p (moved p i w' out) sh sh := by
  obtain ⟨hstage, -⟩ := hp.running hi hm.pending
  have hw : w ∈ p.workers := List.mem_of_getElem? hi
  refine ⟨rfl, mayRead_stay rfl rfl ?_, Or.inl rfl, ?_⟩
  · rintro ⟨v, hv, hexec⟩
    obtain hv | rfl := List.mem_or_eq_of_mem_set hv
    · exact ⟨v, hv, hexec⟩
    · exact ⟨w, hw, hm.reads hexec⟩
  · intro v hv c hc
    obtain hv | rfl := List.mem_or_eq_of_mem_set hv
    · exact Or.inl ⟨v, hv, hc⟩
    · obtain hc | ⟨hdb, hexec⟩ := hm.conn c hc
      · exact Or.inl ⟨w, hw, hc⟩
      · exact Or.inr ⟨hdb, mayRead_of_exec hstage hw hexec⟩

theorem step_keeps {a : Act} (h : step cfg p sh a = some (p', sh')) (hp : Sound p)
    (ha : ¬Assigns a) : Keeps cfg p p' sh sh' := by
  cases step_cases h with
  | driver hd => exact drives_keeps hd (fun err hx => ha ⟨err, by rw [hx]⟩)
  | noDB | sendsLate => exact keeps_crash _
  | moves hi hm => exact moved_keeps hp hi hm
  | _ => exact keeps_goto (mayRead_stay rfl rfl id) rfl rfl

/-- After the assignment `db` is what was opened for the host of the run, or the run is over. -/
theorem step_assigns {a : Act} (h : step cfg p sh a = some (p', sh')) (ha : Assigns a) :
    (mayRead cfg p' → ∃ c, sh'.db = some c ∧ c.host = cfg.ssHost) ∧
      p'.deferred = p.deferred ∧ p'.workers = p.workers := by
  obtain ⟨err, rfl⟩ := ha
  obtain ⟨hd⟩ := step_cases h
  cases hd with
  | opens hpc => exact ⟨fun _ => ⟨_, rfl, rfl⟩, rfl, rfl⟩
  | openFails hpc err => exact ⟨fun hx => by simp [mayRead, Pressure.fail] at hx, rfl, rfl⟩
  | noDB ha => exact absurd rfl (ha _)

end Readers

section System

variable {ι : Type} [DecidableEq ι]

structure State (ι : Type) where
  runs : ι → Pressure
  shared : Shared

def State.put (s : State ι) (i : ι) (r : Pressure × Shared) : State ι :=
  ⟨Function.update s.runs i r.1, r.2⟩

def systemStep (cfg : ι → PressureCfg) (s : State ι) (e : ι × Act) : Option (State ι) :=
  (step (cfg e.1) (s.runs e.1) s.shared e.2).map (s.put e.1)

def system (cfg : ι → PressureCfg) : World (State ι) (ι × Act) := machine (systemStep cfg)

def launch (tasks : ι → List DistSQL) (sh : Shared) : State ι :=
  ⟨fun i => newPressure (tasks i), sh⟩

/-- Run `j` still goes through this connection: a worker is waiting for it, or the run will read
`db` and was given it. -/
def Uses (cfg : ι → PressureCfg) (s : State ι) (j : ι) (c : Conn) : Prop :=
  (∃ w ∈ (s.runs j).workers, connOf w = some c) ∨
    (mayRead (cfg j) (s.runs j) ∧ (c.host = (cfg j).ssHost ∨ s.shared.db = some c))

/-- A statement goes through a connection to the host of its own run, and a connection is closed
that no other run uses. -/
def Proper (cfg : ι → PressureCfg) (s : State ι) : ι × Act → Prop
  | (i, .worker _ (.exec conn _)) => ∃ c, conn = some c ∧ c.host = (cfg i).ssHost
  | (i, .driver (.closeDB conn)) => ∀ c, conn = some c → ∀ j, j ≠ i → ¬Uses cfg s j c
  | _ => True

/-- The variable of the package is not assigned while another run may still read it. -/
def Exclusive (cfg : ι → PressureCfg) (s : State ι) (e : ι × Act) : Prop :=
  Assigns e.2 → ∀ j, j ≠ e.1 → ¬mayRead (cfg j) (s.runs j)

def exclusive (cfg : ι → PressureCfg) : World (State ι) (ι × Act) where
  step s e t := (system cfg).step s e t ∧ Exclusive cfg s e

structure Apart (cfg : ι → PressureCfg) (s : State ι) : Prop where
  sound : ∀ i, Sound (s.runs i)
  db : ∀ i, mayRead (cfg i) (s.runs i) → ∃ c, s.shared.db = some c ∧ c.host = (cfg i).ssHost
  deferred : ∀ i c, (s.runs i).deferred = some c → c.host = (cfg i).ssHost
  conns : ∀ i, ∀ w ∈ (s.runs i).workers, ∀ c, connOf w = some c → c.host = (cfg i).ssHost

variable {cfg : ι → PressureCfg} {s t : State ι} {e : ι × Act}

omit [DecidableEq ι] in
theorem launch_apart (tasks : ι → List DistSQL) (sh : Shared) : Apart cfg (launch tasks sh) := by
  refine ⟨fun i => newPressure_sound _, ?_, ?_, ?_⟩
  · intro i hx
    simp [launch, newPressure, mayRead] at hx
  · intro i c hx
    cases hx
  · intro i w hw
    cases hw

theorem systemStep_cases (h : (system cfg).step s e t) :
    ∃ p sh, step (cfg e.1) (s.runs e.1) s.shared e.2 = some (p, sh) ∧ t = s.put e.1 (p, sh) := by
  obtain ⟨⟨p, sh⟩, hstep, rfl⟩ := Option.map_eq_some_iff.mp h
  exact ⟨p, sh, hstep, rfl⟩

/-- What a step of one run keeps of it and leaves alone of the others holds of all of them. -/
theorem put_forall {P : ι → Pressure → Prop} {i : ι} {p : Pressure} {sh : Shared} (hi : P i p)
    (hj : ∀ j, j ≠ i → P j (s.runs j)) : ∀ j, P j ((s.put i (p, sh)).runs j) := by
  intro j
  by_cases hji : j = i
  · subst hji
    simpa [State.put] using hi
  · simpa [State.put, Function.update_of_ne hji] using hj j hji

theorem apart_assigns {p : Pressure} {sh : Shared} (hs : Apart cfg s)
    (h : step (cfg e.1) (s.runs e.1) s.shared e.2 = some (p, sh)) (ha : Assigns e.2)
    (hex : Exclusive cfg s e) : Apart cfg (s.put e.1 (p, sh)) := by
  obtain ⟨hdb, hdeferred, hworkers⟩ := step_assigns h ha
  refine ⟨?_, ?_, ?_, ?_⟩
  · exact put_forall (P := fun _ p => Sound p) ((step_cases h).sound (hs.sound e.1))
      (fun j _ => hs.sound j)
  · refine put_forall (P := fun j p => mayRead (cfg j) p →
      ∃ c, sh.db = some c ∧ c.host = (cfg j).ssHost) hdb ?_
    intro j hj hread
    exact absurd hread (hex ha j hj)
  · refine put_forall (P := fun j p => ∀ c, p.deferred = some c → c.host = (cfg j).ssHost) ?_
      (fun j _ => hs.deferred j)
    rw [hdeferred]
    exact hs.deferred e.1
  · refine put_forall (P := fun j p => ∀ w ∈ p.workers, ∀ c, connOf w = some c →
      c.host = (cfg j).ssHost) ?_ (fun j _ => hs.conns j)
    rw [hworkers]
    exact hs.conns e.1

theorem apart_keeps {p : Pressure} {sh : Shared} (hs : Apart cfg s)
    (h : step (cfg e.1) (s.runs e.1) s.shared e.2 = some (p, sh)) (ha : ¬Assigns e.2) :
    Apart cfg (s.put e.1 (p, sh)) := by
  have hk := step_keeps h (hs.sound e.1) ha
  -- a connection that comes from the variable leads to the host of the run that reads it
  have hown : ∀ c, s.shared.db = some c → mayRead (cfg e.1) (s.runs e.1) →
      c.host = (cfg e.1).ssHost := by
    intro c hc hread
    obtain ⟨c', hc', hhost⟩ := hs.db e.1 hread
    rw [hc] at hc'
    cases hc'
    exact hhost
  refine ⟨?_, ?_, ?_, ?_⟩
  · exact put_forall (P := fun _ p => Sound p) ((step_cases h).sound (hs.sound e.1))
      (fun j _ => hs.sound j)
  · refine put_forall (P := fun j p => mayRead (cfg j) p →
      ∃ c, sh.db = some c ∧ c.host = (cfg j).ssHost) ?_ ?_
    · rw [hk.db]
      exact fun hread => hs.db e.1 (hk.reads hread)
    · rw [hk.db]
      exact fun j _ => hs.db j
  · refine put_forall (P := fun j p => ∀ c, p.deferred = some c → c.host = (cfg j).ssHost) ?_
      (fun j _ => hs.deferred j)
    intro c hc
    obtain hsame | ⟨hdb, hread⟩ := hk.deferred
    · exact hs.deferred e.1 c (hsame ▸ hc)
    · exact hown c (hdb ▸ hc) hread
  · refine put_forall (P := fun j p => ∀ w ∈ p.workers, ∀ c, connOf w = some c →
      c.host = (cfg j).ssHost) ?_ (fun j _ => hs.conns j)
    intro w hw c hc
    obtain ⟨v, hv, hc⟩ | ⟨hdb, hread⟩ := hk.conns w hw c hc
    · exact hs.conns e.1 v hv c hc
    · exact hown c hdb hread

theorem apart_step (hs : Apart cfg s) (h : (exclusive cfg).step s e t) : Apart cfg t := by
  obtain ⟨hsystem, hex⟩ := h
  obtain ⟨p, sh, hstep, rfl⟩ := systemStep_cases hsystem
  by_cases ha : Assigns e.2
  · exact apart_assigns hs hstep ha hex
  · exact apart_keeps hs hstep ha

theorem exec_reads {cfg : PressureCfg} {p p' : Pressure} {sh sh' : Shared} {i : ℕ}
    {conn : Option Conn} {times : List Int} (hp : Sound p)
    (h : step cfg p sh (.worker i (.exec conn times)) = some (p', sh')) :
    conn = sh.db ∧ mayRead cfg p := by
  obtain ⟨-, h⟩ := Option.ite_none_right_eq_some.mp h
  obtain ⟨w, hi, hw⟩ := Option.bind_eq_some_iff.mp h
  cases w with
  | body rounds todo =>
    cases todo with
    | nil => cases hw
    | cons task todo =>
      obtain ⟨⟨hconn, -⟩, -⟩ := Option.ite_none_right_eq_some.mp hw
      refine ⟨hconn, mayRead_of_exec (hp.running hi rfl).1 (List.mem_of_getElem? hi) ?_⟩
      exact Or.inl (List.cons_ne_nil _ _)
  | head rounds => cases rounds <;> cases hw
  | executing _ _ _ _ _ => cases hw
  | sending _ _ _ => cases hw
  | finished => cases hw

theorem close_deferred {cfg : PressureCfg} {p p' : Pressure} {sh sh' : Shared} {c : Conn}
    (h : step cfg p sh (.driver (.closeDB (some c))) = some (p', sh')) : p.deferred = some c := by
  obtain ⟨-, h⟩ := Option.ite_none_right_eq_some.mp h
  exact (Option.ite_none_right_eq_some.mp h).1.2.symm

theorem proper_of_apart (hosts : ∀ i j, i ≠ j → (cfg i).ssHost ≠ (cfg j).ssHost)
    (hs : Apart cfg s) (h : (system cfg).step s e t) : Proper cfg s e := by
  obtain ⟨i, a⟩ := e
  obtain ⟨p, sh, hstep, -⟩ := systemStep_cases h
  unfold Proper
  split
  · rename_i heq
    cases heq
    obtain ⟨hconn, hread⟩ := exec_reads (hs.sound i) hstep
    obtain ⟨c, hc, hhost⟩ := hs.db i hread
    exact ⟨c, hconn.trans hc, hhost⟩
  · rename_i conn heq
    cases heq
    rintro c rfl j hj (⟨w, hw, hc⟩ | ⟨hread, hc⟩)
    · have hown := hs.deferred i c (close_deferred hstep)
      exact hosts j i hj ((hs.conns j w hw c hc).symm.trans hown)
    · have hown := hs.deferred i c (close_deferred hstep)
      obtain hc | hc := hc
      · exact hosts j i hj (hc.symm.trans hown)
      · obtain ⟨c', hc', hhost⟩ := hs.db j hread
        rw [hc] at hc'
        cases hc'
        exact hosts j i hj (hhost.symm.trans hown)
  · trivial

end System

/-- Runs with different hosts stay apart in every interleaving in which none of them assigns the
variable of the package while another one may still read it. -/
theorem runs_apart {ι : Type} [DecidableEq ι] {cfg : ι → PressureCfg} {tasks : ι → List DistSQL}
    {sh : Shared} {es : List (ι × Act)} {e : ι × Act} {s t : State ι}
    (hosts : ∀ i j, i ≠ j → (cfg i).ssHost ≠ (cfg j).ssHost)
    (h : (exclusive cfg).Path (launch tasks sh) es s) (he : (exclusive cfg).step s e t) :
    Proper cfg s e := by
  have hs : Apart cfg s := World.path_keeps h
    (fun _ _ _ _ hstep hs => apart_step hs hstep) (launch_apart tasks sh)
  exact proper_of_apart hosts hs he.1

section Sequential

variable {ι : Type} [DecidableEq ι] {cfg : ι → PressureCfg}

/-- A run by itself does not assign the variable while another one may read it, as long as the
others do not move. -/
theorem alone_exclusive {s t : State ι} {i : ι} {acts : List Act}
    (hj : ∀ j, j ≠ i → ¬mayRead (cfg j) (s.runs j))
    (h : (system cfg).Path s (acts.map (i, ·)) t) :
    (exclusive cfg).Path s (acts.map (i, ·)) t ∧ ∀ j, j ≠ i → t.runs j = s.runs j := by
  induction acts generalizing s with
  | nil =>
    cases h
    exact ⟨rfl, fun _ _ => rfl⟩
  | cons a acts ih =>
    obtain ⟨u, hu, hpath⟩ := h
    obtain ⟨p, sh, -, rfl⟩ := systemStep_cases hu
    have hothers : ∀ j, j ≠ i → (s.put i (p, sh)).runs j = s.runs j :=
      fun j hji => Function.update_of_ne hji _ _
    obtain ⟨hrest, hsame⟩ := ih (fun j hji => by rw [hothers j hji]; exact hj j hji) hpath
    refine ⟨⟨_, ⟨hu, fun _ => hj⟩, hrest⟩, fun j hji => ?_⟩
    rw [hsame j hji, hothers j hji]

end Sequential

section Samples

def sampleCfgs (i : Bool) : PressureCfg := ⟨if i then "a" else "b", 1, 1, 1⟩

def sampleStart : State Bool := launch (fun _ => sampleTasks) {}

/-- A run up to the moment when its only worker executes the statement. -/
def untilExec : List Act :=
  [.driver .start, .driver (.open_ none), .driver (.ping none), .driver .setConnMaxLifetime,
   .driver .deferClose, .driver .prepare, .driver .tick, .driver .spawn, .worker 0 .iterate]

def sinceExec (conn : Option Conn) : List Act :=
  [.worker 0 (.exec conn [7]), .worker 0 (.executed true), .worker 0 .send, .worker 0 .iterate,
   .worker 0 .iterate, .driver .spawn, .ctxDone, .driver .leave, .driver .wait, .handle,
   .driver .close, .drained, .driver .receive, .driver (.closeDB conn)]

/-- One run after the other. -/
theorem sequential_proper :
    ∃ es s t, (exclusive sampleCfgs).Path sampleStart es s ∧
      (exclusive sampleCfgs).step s (false, .worker 0 (.exec (some ⟨"b", 1⟩) [7])) t ∧
      Proper sampleCfgs s (false, .worker 0 (.exec (some ⟨"b", 1⟩) [7])) := by
  have hfirst : (after (systemStep sampleCfgs) sampleStart
      ((untilExec ++ sinceExec (some ⟨"a", 0⟩)).map (true, ·))).any
      (fun s => (s.runs true).pc = .returned ∧
        (after (systemStep sampleCfgs) s (untilExec.map (false, ·))).any (fun t =>
          (systemStep sampleCfgs t
            (false, .worker 0 (.exec (some ⟨"b", 1⟩) [7]))).isSome)) = true := by
    decide +kernel
  obtain ⟨s₁, hs₁, hcheck⟩ := (Option.any_eq_true _ _).mp hfirst
  obtain ⟨hpc, hsecond⟩ := of_decide_eq_true hcheck
  obtain ⟨s₂, hs₂, hexec⟩ := (Option.any_eq_true _ _).mp hsecond
  obtain ⟨t, ht⟩ := Option.isSome_iff_exists.mp hexec
  have hready : ∀ j, j ≠ true → ¬mayRead (sampleCfgs j) (sampleStart.runs j) :=
    fun _ _ hx => by simp [sampleStart, launch, newPressure, mayRead] at hx
  have hover : ∀ j, j ≠ false → ¬mayRead (sampleCfgs j) (s₁.runs j) := by
    intro j hj hx
    rw [Bool.of_not_eq_false hj] at hx
    simp [mayRead, hpc] at hx
  obtain ⟨hpath₁, -⟩ := alone_exclusive hready (after_path hs₁)
  obtain ⟨hpath₂, -⟩ := alone_exclusive hover (after_path hs₂)
  have hpath := World.path_append.mpr ⟨s₁, hpath₁, hpath₂⟩
  have hstep : (exclusive sampleCfgs).step s₂
      (false, .worker 0 (.exec (some ⟨"b", 1⟩) [7])) t := by
    refine ⟨ht, ?_⟩
    rintro ⟨err, herr⟩
    cases herr
  exact ⟨_, s₂, t, hpath, hstep, runs_apart (by decide) hpath hstep⟩

/-- The second run opens its database before the first one has begun to execute statements. -/
def overlapping : List (Bool × Act) :=
  (untilExec.take 2).map (true, ·) ++ ((untilExec.take 2).map (false, ·) ++
    (untilExec.drop 2).map (true, ·))

/-- The first run executes its statements on the host of the second one. -/
theorem not_all_proper :
    ¬∀ (cfg : Bool → PressureCfg) (tasks : Bool → List DistSQL) (sh : Shared)
      (es : List (Bool × Act)) (e : Bool × Act) (s t : State Bool),
      (∀ i j, i ≠ j → (cfg i).ssHost ≠ (cfg j).ssHost) →
      (system cfg).Path (launch tasks sh) es s → (system cfg).step s e t → Proper cfg s e := by
  intro h
  have hrun : (after (systemStep sampleCfgs) sampleStart overlapping).any (fun s =>
      (systemStep sampleCfgs s
        (true, .worker 0 (.exec (some ⟨"b", 1⟩) [7]))).isSome) = true := by decide +kernel
  obtain ⟨s, hs, hexec⟩ := (Option.any_eq_true _ _).mp hrun
  obtain ⟨t, ht⟩ := Option.isSome_iff_exists.mp hexec
  obtain ⟨c, hc, hhost⟩ := h sampleCfgs _ _ _ _ s t (by decide) (after_path hs) ht
  cases hc
  exact absurd hhost (by decide)

end Samples

end ShardingOnCloud.Operator.PressureInterference
