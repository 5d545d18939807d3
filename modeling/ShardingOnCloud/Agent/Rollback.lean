import ShardingOnCloud.Agent.HandlerRuns

namespace ShardingOnCloud.Agent.Rollback

open ShardingOnCloud.Lib.Program ShardingOnCloud.Lib.Assertions ShardingOnCloud.Lib.Pool
open ShardingOnCloud.Lib.Directory ShardingOnCloud.Pitr.Model ShardingOnCloud.Agent.Commands
open ShardingOnCloud.Agent.Restore ShardingOnCloud.Agent.RestoreSpec
open ShardingOnCloud.Agent.DataDirectory ShardingOnCloud.Agent.HandlerRuns

theorem between_moves {I : Type} {M : Sem Op OpR I} {before between after : List (Event Op OpR I)}
    {is₁ is₂ : List I} {res : Option Err}
    (h : Run M restore (before ++ (whole Op.mvPgDataToTemp none is₁ ++
      (between ++ (whole Op.mvTempToPgData none is₂ ++ after)))) res) :
    ∃ i e is, Calls M early before ∧ M.returns .mvPgDataToTemp none is₁ ∧
      M.returns (restoreOp i) (some e) is ∧ M.returns .mvTempToPgData none is₂ ∧
      between = whole (restoreOp i) (some e) is := by
  generalize hevs : before ++ (whole Op.mvPgDataToTemp none is₁ ++
      (between ++ (whole Op.mvTempToPgData none is₂ ++ after))) = evs at h
  have hback : .main (.issue .mvTempToPgData) ∈ evs := by simp [← hevs, main_mem_whole]
  cases restore_handled h with
  | refused hcalls _ => exact absurd hback (among_issue (calls_among hcalls) rfl)
  | @stopped i tr₁ tr₂ tr₃ _ _ hcalls hstopped hrestart =>
    have hfirst : ∀ c, early c = false → .main (.issue c) ∉ tr₁ :=
      fun c hc => among_issue (calls_among hcalls) hc
    have hlast : ∀ c, isStart c = false → .main (.issue c) ∉ tr₃ :=
      fun c hc => among_issue (restarted_among hrestart) hc
    cases hstopped with
    | notMoved _ =>
      simp [main_mem_whole, hfirst .mvTempToPgData rfl, hlast .mvTempToPgData rfl] at hback
    | replaced _ _ hfin =>
      have hlate := among_issue (finished_among hfin) (c := .mvTempToPgData) rfl
      simp [main_mem_whole, hfirst .mvTempToPgData rfl, hlast .mvTempToPgData rfl, hlate] at hback
    | @rolledBack a b c e _ mvErr hmv hrestore hmvBack =>
      rw [List.append_assoc, List.append_assoc] at hevs
      obtain ⟨rfl, -, rfl, hrest⟩ := whole_unique hevs.symm (hfirst _ rfl)
        (by simp [main_mem_whole, hlast .mvPgDataToTemp rfl])
      obtain ⟨rfl, rfl, rfl, -⟩ := whole_unique hrest (by simp [main_mem_whole]) (hlast _ rfl)
      exact ⟨i, e, b, hcalls, hmv, hrestore, hmvBack, rfl⟩

/-- The data is moved back to where it was if and only if the failed restore has not
left anything there. -/
theorem rollback_restores_iff {shell : String} {pgData : FilePath} {isData : Entries → Prop}
    {before between after : List Ev} {is₁ is₂ : List SysEv} {res : Option Err}
    {d u v w x : Entries}
    (h : Run (sem (newOpenGauss shell pgData)) restore (before ++
      (whole Op.mvPgDataToTemp none is₁ ++ (between ++
        (whole Op.mvTempToPgData none is₂ ++ after)))) res)
    (htemp : d "temp" = none) (h₁ : (files isData).Path d before u)
    (h₂ : (files isData).Path u (whole Op.mvPgDataToTemp none is₁) v)
    (h₃ : (files isData).Path v between w)
    (h₄ : (files isData).Path w (whole Op.mvTempToPgData none is₂) x) :
    x (base pgData) = u (base pgData) ↔ w (base pgData) = none := by
  obtain ⟨i, e, is, hcalls, hmv, hrestore, hback, rfl⟩ := between_moves h
  have haway : Mv (base pgData) "temp" u v := by
    simpa only [Effect, newOpenGauss_temp, newOpenGauss_data] using method_effect hmv h₂
  obtain ⟨left, rfl⟩ : ∃ left, w = Function.update v (base pgData) left := by
    obtain ⟨left, hw⟩ := method_effect hrestore h₃
    exact ⟨_, hw⟩
  have hagain : Mv "temp" (base pgData) (Function.update v (base pgData) left) x := by
    simpa only [Effect, newOpenGauss_temp, newOpenGauss_data] using method_effect hback h₄
  have hfree : u "temp" = none := by
    rw [(calls_harmless early_harmless hcalls h₁).1 "temp" haway.ne.symm, htemp]
  have hmoved : v "temp" = u (base pgData) := haway.dst_eq_iff.mpr hfree
  rw [← hmoved, ← hagain.dst_eq_iff, Function.update_of_ne haway.ne.symm]

/-- The directory before the data is moved back, when the restore has left this. -/
def leftBehind (x : Option Entries) : Entries := Function.update away "data" (x.map .dir)

def backInPlace : Entries :=
  Function.update (Function.update (leftBehind none) "temp" none) "data" (some (.dir versionDir))

theorem backInPlace_data : backInPlace "data" = atRest "data" := by
  have hleft : leftBehind none "temp" = some (.dir versionDir) := by simp [leftBehind, away_temp]
  have hfree : leftBehind none "data" = none := by simp [leftBehind]
  have hback : (files hasVersion).Path (leftBehind none) (movedBack sampleAgent) backInPlace :=
    (ended_path _ _).mpr (mv_of_absent hleft (by decide) hfree)
  exact (rollback_restores_iff (rolledBack_run sampleAgent) atRest_temp (admitted_path _ _ atRest)
    movedAway_path (restoreFailed_path away none) hback).mpr hfree

/-- A restore that fails after it has created the directory. -/
def nested : Entries :=
  Function.update (Function.update (leftBehind (some fun _ => none)) "temp" none) "data"
    (some (.dir (Function.update (fun _ => none) "temp" (some (.dir versionDir)))))

theorem not_all_rollbacks_restore :
    ¬∀ (shell : String) (pgData : FilePath) (isData : Entries → Prop)
      (before between after : List Ev) (is₁ is₂ : List SysEv) (res : Option Err)
      (d u v w x : Entries),
      Run (sem (newOpenGauss shell pgData)) restore (before ++ (whole Op.mvPgDataToTemp none is₁ ++
        (between ++ (whole Op.mvTempToPgData none is₂ ++ after)))) res →
      Holds isData (base pgData) d → d "temp" = none → (files isData).Path d before u →
      (files isData).Path u (whole Op.mvPgDataToTemp none is₁) v →
      (files isData).Path v between w →
      (files isData).Path w (whole Op.mvTempToPgData none is₂) x →
      x (base pgData) = u (base pgData) := by
  intro h
  have hleft : leftBehind (some fun _ => none) "temp" = some (.dir versionDir) := by
    simp [leftBehind, away_temp]
  have hmv : Mv "temp" "data" (leftBehind (some fun _ => none)) nested := by
    refine ⟨versionDir, hleft, by decide, ?_⟩
    have hdata : leftBehind (some fun _ => none) "data" = some (.dir fun _ => none) := by
      simp [leftBehind]
    rw [hdata]
    exact ⟨trivial, rfl⟩
  have hback : (files hasVersion).Path (leftBehind (some fun _ => none)) (movedBack sampleAgent)
      nested := (ended_path _ _).mpr hmv
  have heq : nested "data" = atRest "data" := h _ _ _ _ _ _ _ _ _ _ _ _ _ _
    (rolledBack_run sampleAgent) atRest_holds atRest_temp (admitted_path _ _ atRest) movedAway_path
    (restoreFailed_path away (some fun _ => none)) hback
  rw [atRest_data, nested, Function.update_self] at heq
  exact update_ne _ _ _ (Option.some.inj heq)

end ShardingOnCloud.Agent.Rollback
