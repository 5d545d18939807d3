import ShardingOnCloud.Agent.Restore
import ShardingOnCloud.Lib.Assertions

namespace ShardingOnCloud.Agent.RestoreSpec

open ShardingOnCloud.Lib.Program ShardingOnCloud.Lib.Assertions ShardingOnCloud.Pitr.Model
open ShardingOnCloud.Agent.Commands ShardingOnCloud.Agent.Restore

variable {I : Type} {M : Sem Op OpR I}

/-- `pkg.OG.Restore` with the arguments of a request. -/
@[reducible] def restoreOp (i : RestoreIn) : Op :=
  .restore i.dnBackupPath i.instanceName i.dnBackupID i.dnThreadsNum

/-- A run of the handler from the moment when the data has been restored. -/
inductive Finished (M : Sem Op OpR I) : List (Event Op OpR I) → Option Err → Prop
  | clean {is : List I} {e : Err} : M.returns .cleanPgDataTemp (some e) is →
      Finished M (whole Op.cleanPgDataTemp (some e) is)
        (some ("pkg.OG.CleanPgDataTemp return err wrap: " ++ e))
  | start {is₁ is₂ : List I} {e : Err} : M.returns .cleanPgDataTemp none is₁ →
      M.returns .start (some e) is₂ →
      Finished M (whole Op.cleanPgDataTemp none is₁ ++ whole Op.start (some e) is₂)
        (some ("pkg.OG.Start return err wrap: " ++ e))
  | success {is₁ is₂ is₃ : List I} {err : Option Err} : M.returns .cleanPgDataTemp none is₁ →
      M.returns .start none is₂ → M.returns .success err is₃ →
      Finished M (whole Op.cleanPgDataTemp none is₁ ++ (whole Op.start none is₂ ++
        whole Op.success err is₃)) err

inductive Stopped (M : Sem Op OpR I) (i : RestoreIn) : List (Event Op OpR I) → Option Err → Prop
  | notMoved {is : List I} {e : Err} : M.returns .mvPgDataToTemp (some e) is →
      Stopped M i (whole Op.mvPgDataToTemp (some e) is)
        (some ("pkg.OG.MvPgDataToTemp return err wrap: " ++ e))
  | rolledBack {is₁ is₂ is₃ : List I} {e e' : Err} {mvErr : Option Err} :
      M.returns .mvPgDataToTemp none is₁ → M.returns (restoreOp i) (some e) is₂ →
      M.returns .mvTempToPgData mvErr is₃ →
      Stopped M i (whole Op.mvPgDataToTemp none is₁ ++ (whole (restoreOp i) (some e) is₂ ++
        whole Op.mvTempToPgData mvErr is₃)) (some e')
  | replaced {is₁ is₂ : List I} {tr : List (Event Op OpR I)} {err : Option Err} :
      M.returns .mvPgDataToTemp none is₁ → M.returns (restoreOp i) none is₂ →
      Finished M tr err →
      Stopped M i (whole Op.mvPgDataToTemp none is₁ ++ (whole (restoreOp i) none is₂ ++ tr)) err

/-- The calls before the server is stopped, and the one that stops it. -/
def early : Op → Bool
  | .bodyParser | .auth _ _ _ _ | .stop => true
  | _ => false

def late : Op → Bool
  | .cleanPgDataTemp | .start | .success => true
  | _ => false

def isStart : Op → Bool
  | .start => true
  | _ => false

/-- An event of one of these calls, or one inside of a call. -/
def Among (P : Op → Bool) : Event Op OpR I → Prop
  | .main (.issue c) | .main (.reply c _) => P c = true
  | .sub _ => True

inductive Calls (M : Sem Op OpR I) (P : Op → Bool) : List (Event Op OpR I) → Prop
  | none : Calls M P []
  | call {c : Op} {r : OpR c} {is : List I} {tr : List (Event Op OpR I)} : P c = true →
      M.returns c r is → Calls M P tr → Calls M P (whole c r is ++ tr)

/-- A run of the deferred function that starts the server again. -/
inductive Restarted (M : Sem Op OpR I) :
    Option Err → List (Event Op OpR I) → Option Err → Prop
  | quiet : Restarted M none [] none
  | start {is : List I} {e e' : Err} {startErr : Option Err} : M.returns .start startErr is →
      Restarted M (some e) (whole Op.start startErr is) (some e')

inductive Handled (M : Sem Op OpR I) : List (Event Op OpR I) → Option Err → Prop
  | refused {tr : List (Event Op OpR I)} {e : Err} : Calls M early tr →
      .main (.reply .stop none) ∉ tr → Handled M tr (some e)
  | stopped {i : RestoreIn} {tr₁ tr₂ tr₃ : List (Event Op OpR I)} {err res : Option Err} :
      Calls M early tr₁ → Stopped M i tr₂ err → Restarted M err tr₃ res →
      Handled M (tr₁ ++ (tr₂ ++ tr₃)) res

theorem replaceData_run {i : RestoreIn} {tr : List (Event Op OpR I)} {status : String}
    {err : Option Err} (h : Run M (replaceData i) tr (status, err)) :
    (∃ e is, status = "restore failure" ∧ err = some e ∧ M.returns (restoreOp i) (some e) is ∧
      tr = whole (restoreOp i) (some e) is) ∨
    ∃ is tr', status = "restore success" ∧ M.returns (restoreOp i) none is ∧ Finished M tr' err ∧
      tr = whole (restoreOp i) none is ++ tr' := by
  obtain ⟨r, is, tr', hr, h₁, rfl⟩ := run_call.mp h
  cases r with
  | some e =>
    obtain ⟨rfl, hres⟩ := run_ret.mp h₁
    cases hres
    exact Or.inl ⟨e, is, rfl, rfl, hr, List.append_nil _⟩
  | none =>
    refine Or.inr ⟨is, tr', ?_⟩
    obtain ⟨r, is₁, tr₁, hr₁, h₂, rfl⟩ := run_call.mp h₁
    cases r with
    | some e =>
      obtain ⟨rfl, hres⟩ := run_ret.mp h₂
      cases hres
      rw [List.append_nil]
      exact ⟨rfl, hr, .clean hr₁, rfl⟩
    | none =>
      obtain ⟨r, is₂, tr₂, hr₂, h₃, rfl⟩ := run_call.mp h₂
      cases r with
      | some e =>
        obtain ⟨rfl, hres⟩ := run_ret.mp h₃
        cases hres
        rw [List.append_nil]
        exact ⟨rfl, hr, .start hr₁ hr₂, rfl⟩
      | none =>
        obtain ⟨r, is₃, tr₃, hr₃, h₄, rfl⟩ := run_call.mp h₃
        obtain ⟨rfl, hres⟩ := run_ret.mp h₄
        cases hres
        rw [List.append_nil]
        exact ⟨rfl, hr, .success hr₁ hr₂ hr₃, rfl⟩

theorem whileStopped_run {i : RestoreIn} {tr : List (Event Op OpR I)} {err : Option Err}
    (h : Run M (whileStopped i) tr err) : Stopped M i tr err := by
  obtain ⟨r, is, tr', hr, h₁, rfl⟩ := run_call.mp h
  cases r with
  | some e =>
    obtain ⟨rfl, rfl⟩ := run_ret.mp h₁
    rw [List.append_nil]
    exact .notMoved hr
  | none =>
    change Run M (replaceData i >>= _) _ _ at h₁
    obtain ⟨tr₁, ⟨status, err'⟩, tr₂, hdata, h₂, rfl⟩ := run_bind.mp h₁
    obtain ⟨e, is', rfl, rfl, hrestore, rfl⟩ | ⟨is', tr₃, rfl, hrestore, hfin, rfl⟩ :=
      replaceData_run hdata
    · obtain ⟨mvErr, is₃, tr₄, hmv, h₃, rfl⟩ := run_call.mp h₂
      cases mvErr with
      | some e' =>
        obtain ⟨rfl, rfl⟩ := run_ret.mp h₃
        rw [List.append_nil]
        exact .rolledBack hr hrestore hmv
      | none =>
        obtain ⟨rfl, rfl⟩ := run_ret.mp h₃
        rw [List.append_nil]
        exact .rolledBack hr hrestore hmv
    · obtain ⟨rfl, rfl⟩ := run_ret.mp h₂
      rw [List.append_nil]
      exact .replaced hr hrestore hfin

theorem restart_run {err res : Option Err} {tr : List (Event Op OpR I)}
    (h : Run M (restart err) tr res) : Restarted M err tr res := by
  cases err with
  | none =>
    obtain ⟨rfl, rfl⟩ := run_ret.mp h
    exact .quiet
  | some e =>
    obtain ⟨startErr, is, tr', hstart, h₁, rfl⟩ := run_call.mp h
    cases startErr with
    | some e' =>
      obtain ⟨rfl, rfl⟩ := run_ret.mp h₁
      rw [List.append_nil]
      exact .start hstart
    | none =>
      obtain ⟨rfl, rfl⟩ := run_ret.mp h₁
      rw [List.append_nil]
      exact .start hstart

theorem main_mem_whole {c : Op} {r : OpR c} {is : List I} {l : Label Op OpR} :
    .main l ∈ whole c r is ↔ l = .issue c ∨ l = .reply c r := by
  rw [mem_whole]
  constructor
  · rintro (h | ⟨x, -, h⟩ | h)
    · cases h
      exact Or.inl rfl
    · cases h
    · cases h
      exact Or.inr rfl
  · rintro (rfl | rfl)
    · exact Or.inl rfl
    · exact Or.inr (Or.inr rfl)

section Among

variable {P : Op → Bool} {tr as bs : List (Event Op OpR I)} {c : Op} {r : OpR c} {is : List I}

theorem among_whole (h : P c = true) : ∀ x ∈ whole c r is, Among P x := by
  intro x hx
  obtain rfl | ⟨y, -, rfl⟩ | rfl := mem_whole.mp hx
  · exact h
  · trivial
  · exact h

theorem among_append (ha : ∀ x ∈ as, Among P x) (hb : ∀ x ∈ bs, Among P x) :
    ∀ x ∈ as ++ bs, Among P x := by
  intro x hx
  rcases List.mem_append.mp hx with hx | hx
  · exact ha x hx
  · exact hb x hx

theorem among_issue (h : ∀ x ∈ tr, Among P x) (hc : P c = false) : .main (.issue c) ∉ tr := by
  intro hm
  have hP : P c = true := h _ hm
  rw [hc] at hP
  cases hP

theorem among_reply (h : ∀ x ∈ tr, Among P x) (hc : P c = false) : .main (.reply c r) ∉ tr := by
  intro hm
  have hP : P c = true := h _ hm
  rw [hc] at hP
  cases hP

end Among

theorem finished_among {tr : List (Event Op OpR I)} {err : Option Err} (h : Finished M tr err) :
    ∀ x ∈ tr, Among late x := by
  cases h with
  | clean _ => exact among_whole rfl
  | start _ _ => exact among_append (among_whole rfl) (among_whole rfl)
  | success _ _ _ =>
    exact among_append (among_whole rfl) (among_append (among_whole rfl) (among_whole rfl))

theorem restarted_among {err res : Option Err} {tr : List (Event Op OpR I)}
    (h : Restarted M err tr res) : ∀ x ∈ tr, Among isStart x := by
  cases h with
  | quiet => simp
  | start _ => exact among_whole rfl

theorem calls_among {P : Op → Bool} {tr : List (Event Op OpR I)} (h : Calls M P tr) :
    ∀ x ∈ tr, Among P x := by
  induction h with
  | none => simp
  | call hc _ _ ih => exact among_append (among_whole hc) ih

theorem calls_append {P : Op → Bool} {as bs : List (Event Op OpR I)} (ha : Calls M P as)
    (hb : Calls M P bs) : Calls M P (as ++ bs) := by
  induction ha with
  | none => exact hb
  | call hc hr _ ih =>
    rw [List.append_assoc]
    exact .call hc hr ih

theorem untilStopped_run {tr : List (Event Op OpR I)} {res : Except Err RestoreIn}
    (h : Run M untilStopped tr res) :
    Calls M early tr ∧ ∀ e, res = .error e → .main (.reply .stop none) ∉ tr := by
  obtain ⟨parsed, is₁, tr₁, hr₁, h₁, rfl⟩ := run_call.mp h
  cases parsed with
  | error err =>
    obtain ⟨rfl, rfl⟩ := run_ret.mp h₁
    exact ⟨.call rfl hr₁ .none, by simp [main_mem_whole]⟩
  | ok i =>
    cases hvalid : validate i with
    | some err =>
      simp only [Proc.bind, hvalid] at h₁
      obtain ⟨rfl, rfl⟩ := run_ret.mp h₁
      exact ⟨.call rfl hr₁ .none, by simp [main_mem_whole]⟩
    | none =>
      simp only [Proc.bind, hvalid] at h₁
      obtain ⟨authErr, is₂, tr₂, hr₂, h₂, rfl⟩ := run_call.mp h₁
      cases authErr with
      | some err =>
        obtain ⟨rfl, rfl⟩ := run_ret.mp h₂
        exact ⟨.call rfl hr₁ (.call rfl hr₂ .none), by simp [main_mem_whole]⟩
      | none =>
        obtain ⟨stopErr, is₃, tr₃, hr₃, h₃, rfl⟩ := run_call.mp h₂
        cases stopErr with
        | some err =>
          obtain ⟨rfl, rfl⟩ := run_ret.mp h₃
          exact ⟨.call rfl hr₁ (.call rfl hr₂ (.call rfl hr₃ .none)), by simp [main_mem_whole]⟩
        | none =>
          obtain ⟨rfl, rfl⟩ := run_ret.mp h₃
          exact ⟨.call rfl hr₁ (.call rfl hr₂ (.call rfl hr₃ .none)), nofun⟩

theorem op_among {P : Op → Bool} {α : Type} {c : Op} {k : OpR c → Handler α} (hc : P c = true)
    (hk : ∀ r, Emits M (Among P) (k r) (fun _ => True)) :
    Emits M (Among P) (.call c k) (fun _ => True) :=
  ⟨hc, fun _ _ _ _ => trivial, fun r _ _ => ⟨hc, fun _ _ => trivial, hk r⟩⟩

theorem untilStopped_among : Emits M (Among early) untilStopped (fun _ => True) := by
  refine op_among rfl (fun parsed => ?_)
  cases parsed with
  | error err => trivial
  | ok i =>
    cases hvalid : validate i with
    | some err =>
      simp only [Proc.bind, hvalid]
      trivial
    | none =>
      simp only [Proc.bind, hvalid]
      refine op_among rfl (fun authErr => ?_)
      cases authErr with
      | some err => trivial
      | none =>
        refine op_among rfl (fun stopErr => ?_)
        cases stopErr <;> trivial

theorem cut_before_move {evs : List (Event Op OpR I)}
    (h : Cut M restore (evs ++ [Event.main (.issue Op.mvPgDataToTemp)]))
    (hfirst : .main (.issue .mvPgDataToTemp) ∉ evs) : Calls M early evs := by
  obtain hcut | ⟨tr₁, r, tr₂, huntil, hrest, hevs⟩ := cut_bind h
  · exact absurd (by simp) (among_issue (untilStopped_among.cut hcut) (c := .mvPgDataToTemp) rfl)
  have hcalls := (untilStopped_run huntil).1
  obtain ⟨k, rfl, hk⟩ := split_after hevs.symm (among_issue (calls_among hcalls) rfl)
  have hnil : k = [] := by
    cases k with
    | nil => rfl
    | cons e k =>
      -- the first event of what comes next would be the same
      exfalso
      apply hfirst
      cases r with
      | error err =>
        cases hrest with
        | here => cases hk
      | ok i =>
        rw [hk, List.cons_append] at hrest
        rw [cut_call_head hrest]
        simp
  rwa [hnil, List.append_nil]

theorem restore_handled {tr : List (Event Op OpR I)} {res : Option Err} (h : Run M restore tr res) :
    Handled M tr res := by
  obtain ⟨tr₁, r, tr₂, huntil, h₁, rfl⟩ := run_bind.mp h
  obtain ⟨hcalls, hnot⟩ := untilStopped_run huntil
  cases r with
  | error err =>
    obtain ⟨rfl, rfl⟩ := run_ret.mp h₁
    rw [List.append_nil]
    exact .refused hcalls (hnot err rfl)
  | ok i =>
    obtain ⟨tr₃, err, tr₄, hrun, hdefer, rfl⟩ := run_bind.mp h₁
    exact .stopped hcalls (whileStopped_run hrun) (restart_run hdefer)

end ShardingOnCloud.Agent.RestoreSpec
