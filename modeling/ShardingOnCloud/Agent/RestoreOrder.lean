import ShardingOnCloud.Agent.HandlerRuns

namespace ShardingOnCloud.Agent.RestoreOrder

open ShardingOnCloud.Lib.Program ShardingOnCloud.Lib.Assertions ShardingOnCloud.Pitr.Model
open ShardingOnCloud.Agent.Commands ShardingOnCloud.Agent.Restore ShardingOnCloud.Agent.RestoreSpec
open ShardingOnCloud.Agent.HandlerRuns

variable {I : Type} {M : Sem Op OpR I}

/-- `pkg.OG.Restore` has returned this. -/
def RestoreReturned (err : Option Err) (evs : List (Event Op OpR I)) : Prop :=
  ∃ backupPath instanceName backupID threadsNum,
    .main (.reply (.restore backupPath instanceName backupID threadsNum) err) ∈ evs

/-- The temporary directory is only removed in the last part of the run, and the
restore has succeeded before that. -/
theorem stopped_clean {i : RestoreIn} {tr : List (Event Op OpR I)} {err : Option Err}
    (h : Stopped M i tr err) (hclean : .main (.issue .cleanPgDataTemp) ∈ tr) :
    ∃ tr₁ tr₂, tr = tr₁ ++ tr₂ ∧ .main (.issue .cleanPgDataTemp) ∉ tr₁ ∧
      RestoreReturned none tr₁ := by
  cases h with
  | notMoved _ => simp [main_mem_whole] at hclean
  | rolledBack _ _ _ => simp [main_mem_whole] at hclean
  | @replaced is₁ is₂ tr' =>
    refine ⟨whole Op.mvPgDataToTemp none is₁ ++ whole (restoreOp i) none is₂, tr', by simp, ?_, ?_⟩
    · simp [main_mem_whole]
    · exact ⟨i.dnBackupPath, i.instanceName, i.dnBackupID, i.dnThreadsNum, by simp [main_mem_whole]⟩

theorem handled_clean {tr : List (Event Op OpR I)} {res : Option Err} (h : Handled M tr res)
    (hclean : .main (.issue .cleanPgDataTemp) ∈ tr) :
    ∃ tr₁ tr₂, tr = tr₁ ++ tr₂ ∧ .main (.issue .cleanPgDataTemp) ∉ tr₁ ∧
      RestoreReturned none tr₁ := by
  cases h with
  | refused hcalls _ => exact absurd hclean (among_issue (calls_among hcalls) rfl)
  | @stopped i as bs cs _ _ hcalls hstopped hrestart =>
    have hearly := calls_among hcalls
    have has : .main (.issue .cleanPgDataTemp) ∉ as := among_issue hearly rfl
    have hcs : .main (.issue .cleanPgDataTemp) ∉ cs := among_issue (restarted_among hrestart) rfl
    obtain ⟨tr₁, tr₂, rfl, hnot, x, y, z, n, hret⟩ :=
      stopped_clean hstopped (by simpa [has, hcs] using hclean)
    exact ⟨as ++ tr₁, tr₂ ++ cs, by simp, by simp [has, hnot], x, y, z, n, by simp [hret]⟩

def RestoreFailed (evs : List (Event Op OpR I)) : Prop :=
  .main (.reply .mvPgDataToTemp none) ∈ evs ∧ ∃ e, RestoreReturned (some e) evs

theorem stopped_rollback {i : RestoreIn} {tr : List (Event Op OpR I)} {err : Option Err}
    (h : Stopped M i tr err) : .main (.issue .mvTempToPgData) ∈ tr ↔ RestoreFailed tr := by
  cases h with
  | notMoved _ => simp [RestoreFailed, main_mem_whole]
  | rolledBack _ _ _ =>
    simp only [RestoreFailed, RestoreReturned, List.mem_append, main_mem_whole]
    simp
  | @replaced is₁ is₂ tr' _ _ _ hfin =>
    have hmv : .main (.issue .mvTempToPgData) ∉ tr' := among_issue (finished_among hfin) rfl
    have hret : ∀ x y z n e, .main (.reply (.restore x y z n) (some e)) ∉ tr' :=
      fun x y z n e => among_reply (finished_among hfin) rfl
    simp [RestoreFailed, RestoreReturned, main_mem_whole, hmv, hret]

theorem handled_rollback {tr : List (Event Op OpR I)} {res : Option Err} (h : Handled M tr res) :
    .main (.issue .mvTempToPgData) ∈ tr ↔ RestoreFailed tr := by
  cases h with
  | refused hcalls _ =>
    have hearly := calls_among hcalls
    have hmv : .main (.reply .mvPgDataToTemp none) ∉ tr := among_reply hearly rfl
    have hissue : .main (.issue .mvTempToPgData) ∉ tr := among_issue hearly rfl
    simp [RestoreFailed, hmv, hissue]
  | @stopped i as bs cs _ _ hcalls hstopped hrestart =>
    -- the calls in question are all made while the server is stopped
    have hearly := calls_among hcalls
    have hlast := restarted_among hrestart
    have hissue : .main (.issue .mvTempToPgData) ∈ as ++ (bs ++ cs) ↔
        .main (.issue .mvTempToPgData) ∈ bs := by
      simp [among_issue hearly (c := .mvTempToPgData) rfl,
        among_issue hlast (c := .mvTempToPgData) rfl]
    have hmoved : .main (.reply .mvPgDataToTemp none) ∈ as ++ (bs ++ cs) ↔
        .main (.reply .mvPgDataToTemp none) ∈ bs := by
      simp [among_reply hearly (c := .mvPgDataToTemp) rfl,
        among_reply hlast (c := .mvPgDataToTemp) rfl]
    have hret : ∀ e, RestoreReturned (some e) (as ++ (bs ++ cs)) ↔ RestoreReturned (some e) bs := by
      intro e
      have has : ∀ x y z n, .main (.reply (.restore x y z n) (some e)) ∉ as :=
        fun x y z n => among_reply hearly rfl
      have hcs : ∀ x y z n, .main (.reply (.restore x y z n) (some e)) ∉ cs :=
        fun x y z n => among_reply hlast rfl
      simp [RestoreReturned, has, hcs]
    rw [hissue, stopped_rollback hstopped, RestoreFailed, RestoreFailed, hmoved]
    simp only [hret]

def rearranges : Op → Bool
  | .mvPgDataToTemp | .mvTempToPgData | .cleanPgDataTemp => true
  | _ => false

/-- The server is started and after that no directory is moved or removed. -/
def StartsLast (evs : List (Event Op OpR I)) : Prop :=
  ∃ a b, evs = a ++ Event.main (.issue .start) :: b ∧ ∀ x ∈ b, Among (fun c => !rearranges c) x

theorem StartsLast.prepend {evs : List (Event Op OpR I)} (h : StartsLast evs)
    (as : List (Event Op OpR I)) : StartsLast (as ++ evs) := by
  obtain ⟨a, b, rfl, hb⟩ := h
  exact ⟨as ++ a, b, by simp, hb⟩

theorem startsLast_whole (startErr : Option Err) (is : List I) (evs : List (Event Op OpR I))
    (h : ∀ x ∈ evs, Among (fun c => !rearranges c) x) :
    StartsLast (whole Op.start startErr is ++ evs) := by
  refine ⟨[], is.map Event.sub ++ [Event.main (.reply Op.start startErr)] ++ evs,
    by simp [whole], ?_⟩
  have hstart : ∀ x ∈ whole Op.start startErr is, Among (fun c => !rearranges c) x :=
    among_whole rfl
  exact among_append (fun x hx => hstart x (List.mem_cons_of_mem _ hx)) h

theorem handled_starts {tr : List (Event Op OpR I)} {res : Option Err} (h : Handled M tr res)
    (hstop : .main (.reply .stop none) ∈ tr) : StartsLast tr := by
  cases h with
  | refused _ hnot => exact absurd hstop hnot
  | stopped _ hstopped hrestart =>
    apply StartsLast.prepend
    cases hrestart with
    | start _ =>
      apply StartsLast.prepend
      simpa using startsLast_whole _ _ [] (by simp)
    | quiet =>
      -- without an error the handler itself has started the server
      rw [List.append_nil]
      cases hstopped with
      | replaced _ _ hfin =>
        apply StartsLast.prepend
        apply StartsLast.prepend
        cases hfin with
        | success _ _ _ =>
          apply StartsLast.prepend
          exact startsLast_whole _ _ _ (among_whole rfl)

/-- The temporary directory is removed only after the restore has succeeded, the data is
moved back if and only if it was moved away and the restore has failed, and
a server that was stopped is started after all that. -/
theorem restore_order {I : Type} {M : Sem Op OpR I} {evs : List (Event Op OpR I)} {res : Option Err}
    (h : Run M restore evs res) :
    (∀ a b, evs = a ++ Event.main (.issue .cleanPgDataTemp) :: b → RestoreReturned none a) ∧
    (.main (.issue .mvTempToPgData) ∈ evs ↔
      .main (.reply .mvPgDataToTemp none) ∈ evs ∧ ∃ e, RestoreReturned (some e) evs) ∧
    (.main (.reply .stop none) ∈ evs → StartsLast evs) := by
  have hrun := restore_handled h
  refine ⟨?_, handled_rollback hrun, handled_starts hrun⟩
  intro a b hevs
  obtain ⟨tr₁, tr₂, htr, hnot, x, y, z, n, hret⟩ := handled_clean hrun (by simp [hevs])
  obtain ⟨c, rfl, -⟩ := split_after (htr.symm.trans hevs) hnot
  exact ⟨x, y, z, n, by simp [hret]⟩

theorem rolledBack_order : .main (.issue .mvTempToPgData) ∈ rolledBack sampleAgent ∧
    StartsLast (rolledBack sampleAgent) := by
  obtain ⟨-, hback, hstart⟩ := restore_order (rolledBack_run sampleAgent)
  have hmoved : .main (.reply .mvPgDataToTemp none) ∈ rolledBack sampleAgent := by
    simp [rolledBack, movedAway, main_mem_whole]
  have hfailed : RestoreReturned (some exitFailure) (rolledBack sampleAgent) :=
    ⟨sampleIn.dnBackupPath, sampleIn.instanceName, sampleIn.dnBackupID, sampleIn.dnThreadsNum,
      by simp [rolledBack, restoreFailed, main_mem_whole]⟩
  have hstopped : .main (.reply .stop none) ∈ rolledBack sampleAgent := by
    simp [rolledBack, admitted, main_mem_whole]
  exact ⟨hback.mpr ⟨hmoved, _, hfailed⟩, hstart hstopped⟩

end ShardingOnCloud.Agent.RestoreOrder
