import ShardingOnCloud.Pitr.DeleteSpec
import ShardingOnCloud.Pitr.Progress
import ShardingOnCloud.Pitr.RestoreRuns

namespace ShardingOnCloud.Pitr.LeftGoroutines

open ShardingOnCloud.Lib.Program ShardingOnCloud.Lib.Assertions ShardingOnCloud.Lib.Pool
open ShardingOnCloud.Pitr.Model ShardingOnCloud.Pitr.Calls ShardingOnCloud.Pitr.Backup
open ShardingOnCloud.Pitr.BackupSpec ShardingOnCloud.Pitr.Restore ShardingOnCloud.Pitr.RestoreSpec
open ShardingOnCloud.Pitr.Delete ShardingOnCloud.Pitr.DeleteSpec ShardingOnCloud.Pitr.Progress
open ShardingOnCloud.Pitr.BackupRuns (nodeA nodeB)
open ShardingOnCloud.Pitr.RestoreRuns

/-- The program of a goroutine that is in `UpdateProgress`. -/
def IsUpdater (p : Go Unit) : Prop :=
  ∃ (σ : Type) (updateF : σ → Go (σ × Bool × Option Err)) (s : σ),
    p = updateProgress updateF s ∧ ∀ s, Markless (updateF s)

theorem backupTask_isUpdater (f : Flags) (dns : String → Option DataNode) (sn : StorageNode) :
    IsUpdater (backupTask f dns sn) := by
  unfold backupTask
  split
  · next dn _ =>
    refine ⟨ℕ × DataNode, _, _, rfl, fun t => ?_⟩
    have hsame : Same t.2 t.2 := ⟨rfl, rfl⟩
    exact (checkBackupProgress_emits (L := fun l => marks l = false) ⟨rfl, fun _ => rfl⟩
      ⟨rfl, fun _ => rfl⟩ (fun _ _ => ⟨rfl, fun _ => rfl⟩) f sn (fun _ _ => ⟨rfl, fun _ => rfl⟩)
      hsame t.1).mono (fun _ h => h) (fun _ _ => trivial)
  · refine ⟨Unit, _, (), rfl, fun _ => ?_⟩
    exact emits_goCall ⟨rfl, fun e => Empty.elim e⟩ (fun e => Empty.elim e)

theorem deleteTask_isUpdater (f : Flags) (sn : StorageNode) (dn : DataNode) :
    IsUpdater (deleteTask f sn dn) := by
  refine ⟨Unit, _, (), rfl, fun _ => emits_goAct ⟨rfl, fun _ => rfl⟩ (fun err => ?_)⟩
  cases err with
  | some err => exact emits_goAct ⟨rfl, fun _ => rfl⟩ (fun _ => trivial)
  | none => exact emits_goAct ⟨rfl, fun _ => rfl⟩ (fun _ => trivial)

theorem restoreTask_isUpdater (f : Flags) (sn : StorageNode) (dn : DataNode) :
    IsUpdater (restoreTask f sn dn) :=
  ⟨Unit, _, (), rfl, fun _ => checkRestoreProgress_emits f sn dn.backupID
    (fun _ _ => ⟨rfl, fun _ => rfl⟩) (fun _ => ⟨rfl, fun _ => rfl⟩)⟩

theorem restoreTasks_isUpdater (f : Flags) (dns : String → Option DataNode) (sns : List StorageNode) :
    ∀ p ∈ (restoreTasks f dns sns).1, IsUpdater p := by
  induction sns with
  | nil => simp [restoreTasks]
  | cons sn sns ih =>
    intro p hp
    rw [restoreTasks] at hp
    cases hdn : dns sn.ip with
    | none => simp [hdn] at hp
    | some dn =>
      rw [hdn] at hp
      rcases List.mem_cons.mp hp with rfl | hp
      · exact restoreTask_isUpdater f sn dn
      · exact ih p hp

def subs (tr : List Ev) : Log :=
  tr.filterMap (fun
    | .sub x => some x
    | .main _ => none)

/-- Where the goroutines are that a run has started beside a renderer. -/
def Behind (tr : List Ev) (us : List (Thread Act ActR Unit)) : Prop :=
  ∃ κ cap ws, .main (.issue (.goRender κ cap ws)) ∈ tr ∧ Path (Room κ cap) (start ws) (subs tr) us

def NoneLeft (tr : List Ev) : Prop := ∀ us, Behind tr us → ∀ u ∈ us, u.result ≠ none

def Single : Ev → Prop
  | .main (.issue (.act _)) | .main (.reply (.act _) _) => True
  | _ => False

/-- A run that waits once, for the goroutines `ws`. -/
def WaitsFor (pk : Packages) (ws : List (Go Unit)) (tr : List Ev) : Prop :=
  ∃ κ cap res log tail, (sem pk).returns (.goRender κ cap ws) res log ∧ (∀ e ∈ tail, Single e) ∧
    tr = whole (.goRender κ cap ws) res log ++ tail

variable {pk : Packages} {ws : List (Go Unit)} {tr : List Ev} {f : Flags} {r : LsBackup}
  {ss : SsBackup}

theorem subs_whole (c : Call) (res : Reply c) (log : Log) {tail : List Ev}
    (htail : ∀ e ∈ tail, Single e) : subs (whole c res log ++ tail) = log := by
  have hnil : subs tail = [] := by
    refine List.filterMap_eq_nil_iff.mpr (fun e he => ?_)
    cases e with
    | sub x => exact (htail _ he).elim
    | main l => rfl
  have hlog : subs (log.map .sub) = log := by
    induction log with
    | nil => rfl
    | cons x log ih => exact congrArg (x :: ·) ih
  have happend : ∀ as bs, subs (as ++ bs) = subs as ++ subs bs := fun _ _ => List.filterMap_append
  have hissue : subs [.main (.issue c)] = [] := rfl
  have hreply : subs [.main (.reply c res)] = [] := rfl
  have hsplit : whole c res log =
      [Event.main (.issue c)] ++ log.map Event.sub ++ [Event.main (.reply c res)] := rfl
  rw [happend, hnil, hsplit, happend, happend, hissue, hreply, hlog, List.nil_append,
    List.append_nil, List.append_nil]

theorem behind_iff {κ : Chan} {cap : ℕ} {res : List κ.Elem} {log : Log} {tail : List Ev}
    (htail : ∀ e ∈ tail, Single e) (us : List (Thread Act ActR Unit)) :
    Behind (whole (Call.goRender κ cap ws) res log ++ tail) us ↔
      Path (Room κ cap) (start ws) log us := by
  constructor
  · rintro ⟨κ', cap', ws', hmem, hpath⟩
    rw [subs_whole _ _ _ htail] at hpath
    rcases List.mem_append.mp hmem with hmem | hmem
    · obtain heq | ⟨x, -, heq⟩ | heq := mem_whole.mp hmem
      · cases heq
        exact hpath
      · cases heq
      · cases heq
    · exact (htail _ hmem).elim
  · intro hpath
    refine ⟨κ, cap, ws, by simp [whole], ?_⟩
    rwa [subs_whole _ _ _ htail]

/-- The renderer has waited for all trackers, so every goroutine is at a send on `done`. -/
theorem rendered_stranded {κ : Chan} {cap : ℕ} {log : Log} {us : List (Thread Act ActR Unit)}
    (hws : ∀ p ∈ ws, IsUpdater p) (hpath : Path (Room κ cap) (start ws) log us)
    (hstop : pk.renderer.Stopped (trackers ws.length log)) : ∀ u ∈ us, Stranded u := by
  intro u hu
  obtain ⟨i, hi⟩ := List.getElem?_of_mem hu
  have hlt : i < ws.length := by
    have hlen := (List.getElem?_eq_some_iff.mp hi).1
    rwa [path_length hpath, start, List.length_map] at hlen
  have hget := List.getElem?_eq_getElem hlt
  obtain ⟨v, hv, hown⟩ := path_program hpath hget
  cases hi.symm.trans hv
  obtain ⟨σ, updateF, s, hp, hF⟩ := hws _ (List.mem_of_getElem? hget)
  rw [hp] at hown
  refine updateProgress_marked hF hown ?_
  exact pk.renderer.all_done _ hstop _ (List.mem_map.mpr ⟨i, List.mem_range.mpr hlt, rfl⟩)

theorem noneLeft_nil : NoneLeft [] := by
  rintro us ⟨κ, cap, ws, hmem, -⟩
  cases hmem

theorem noneLeft_iff (h : WaitsFor pk ws tr) (hws : ∀ p ∈ ws, IsUpdater p) :
    NoneLeft tr ↔ ws = [] := by
  obtain ⟨κ, cap, res, log, tail, ⟨us, hpath, hstop, -⟩, htail, rfl⟩ := h
  constructor
  · intro hnone
    have hall := hnone us ((behind_iff htail us).mpr hpath)
    cases us with
    | nil =>
      have hlen := path_length hpath
      rw [start, List.length_map, List.length_nil] at hlen
      exact List.length_eq_zero_iff.mp hlen.symm
    | cons u us =>
      have hu := rendered_stranded hws hpath hstop u (by simp)
      exact absurd hu.result (hall u (by simp))
  · rintro rfl vs hvs v hv
    have hlen := path_length ((behind_iff htail vs).mp hvs)
    rw [start, List.map_nil, List.length_nil] at hlen
    rw [List.length_eq_zero_iff.mp hlen] at hv
    cases hv

section Functions

theorem checkBackupStatus_inv {x : LsBackup × BackupStatus} (hss : r.ssBackup = some ss)
    (hne : ss.storageNodes ≠ []) (h : Run (sem pk) (checkBackupStatus f r) tr x) :
    ∃ info dnResult log endTime,
      (sem pk).returns (.goRender .dataNode r.dnList.length
        (ss.storageNodes.map (backupTask f (dataNodeMap r.dnList)))) dnResult log ∧
      tr = whole (Call.goRender .dataNode r.dnList.length
        (ss.storageNodes.map (backupTask f (dataNodeMap r.dnList)))) dnResult log ++
          did .now endTime ∧
      x = (⟨some info, dnResult, some { ss with status := finalStatus dnResult }⟩,
        finalStatus dnResult) := by
  obtain ⟨tr₁, ss', tr₂, hderef, h₁, rfl⟩ := run_bind.mp h
  obtain ⟨rfl, hss'⟩ := run_deref hderef
  cases hss.symm.trans hss'
  change Run (sem pk) (if _ then _ else _) _ _ at h₁
  rw [if_neg hne] at h₁
  obtain ⟨res, log, tr₃, hret, h₂, rfl⟩ := run_call.mp h₁
  change Run (sem pk) (deref r.info >>= _) _ _ at h₂
  obtain ⟨tr₄, info, tr₅, hinfo, h₃, rfl⟩ := run_bind.mp h₂
  obtain ⟨rfl, -⟩ := run_deref hinfo
  obtain ⟨endTime, tr₆, h₄, rfl⟩ := run_act_inv h₃
  obtain ⟨rfl, rfl⟩ := run_ret.mp h₄
  exact ⟨_, res, log, endTime, hret, by simp, rfl⟩

theorem single_did (a : Act) (res : ActR a) : ∀ e ∈ did a res, Single e := by
  intro e he
  obtain rfl | ⟨x, hx, rfl⟩ | rfl := mem_whole.mp he
  · trivial
  · cases hx
  · trivial

theorem checkBackupStatus_waits {x : LsBackup × BackupStatus} (hss : r.ssBackup = some ss)
    (h : Run (sem pk) (checkBackupStatus f r) tr x) :
    (ss.storageNodes = [] ∧ tr = []) ∨ (ss.storageNodes ≠ [] ∧
      WaitsFor pk (ss.storageNodes.map (backupTask f (dataNodeMap r.dnList))) tr) := by
  by_cases hnil : ss.storageNodes = []
  · obtain ⟨tr₁, ss', tr₂, hderef, h₁, rfl⟩ := run_bind.mp h
    obtain ⟨rfl, hss'⟩ := run_deref hderef
    cases hss.symm.trans hss'
    change Run (sem pk) (if _ then _ else _) _ _ at h₁
    rw [if_pos hnil] at h₁
    exact Or.inl ⟨hnil, (run_ret.mp h₁).1⟩
  · obtain ⟨info, res, log, endTime, hret, rfl, -⟩ := checkBackupStatus_inv hss hnil h
    exact Or.inr ⟨hnil, _, _, res, log, did .now endTime, hret, single_did .now endTime, rfl⟩

theorem execRestore_waits {err : Option Err} (hss : r.ssBackup = some ss)
    (h : Run (sem pk) (execRestore f r) tr err) :
    (ss.storageNodes = [] ∧ tr = []) ∨ (ss.storageNodes ≠ [] ∧
      ∃ tasks, restoreTasks f (dataNodeMap r.dnList) ss.storageNodes = (tasks, true) ∧
        WaitsFor pk tasks tr) := by
  obtain ⟨tr₁, ss', tr₂, hderef, h₁, rfl⟩ := run_bind.mp h
  obtain ⟨rfl, hss'⟩ := run_deref hderef
  cases hss.symm.trans hss'
  change Run (sem pk) (if _ then _ else _) _ _ at h₁
  split at h₁
  · next hzero =>
    obtain ⟨tr₃, info, tr₄, hinfo, h₂, rfl⟩ := run_bind.mp h₁
    obtain ⟨rfl, -⟩ := run_deref hinfo
    exact Or.inl ⟨List.length_eq_zero_iff.mp hzero, (run_ret.mp h₂).1⟩
  · next hne =>
    split at h₁
    · obtain ⟨res, -⟩ := run_call.mp h₁
      cases res
    · next tasks htasks =>
      obtain ⟨res, log, tr₃, hret, h₂, rfl⟩ := run_call.mp h₁
      have hnil : tr₃ = [] := by
        change Run (sem pk) (if _ then _ else _) _ _ at h₂
        split at h₂
        · exact (run_ret.mp h₂).1
        · exact (run_ret.mp h₂).1
      refine Or.inr ⟨fun h => hne (by simp [h]), tasks, htasks, _, _, res, log, [], hret, ?_, ?_⟩
      · simp
      · simp [hnil]

theorem _execDelete_waits {err : Option Err} (hss : r.ssBackup = some ss)
    (h : Run (sem pk) (_execDelete f r) tr err) :
    (ss.storageNodes = [] ∧ tr = []) ∨ (ss.storageNodes ≠ [] ∧
      WaitsFor pk (execDeleteTasks f (dataNodeMap r.dnList) ss.storageNodes) tr) := by
  obtain ⟨tr₁, ss', tr₂, hderef, h₁, rfl⟩ := run_bind.mp h
  obtain ⟨rfl, hss'⟩ := run_deref hderef
  cases hss.symm.trans hss'
  change Run (sem pk) (if _ then _ else _) _ _ at h₁
  split at h₁
  · next hzero => exact Or.inl ⟨List.length_eq_zero_iff.mp hzero, (run_ret.mp h₁).1⟩
  · next hne =>
    obtain ⟨res, log, tr₃, hret, h₂, rfl⟩ := run_call.mp h₁
    have hnil : tr₃ = [] := by
      change Run (sem pk) (if _ then _ else _) _ _ at h₂
      split at h₂
      · exact (run_ret.mp h₂).1
      · exact (run_ret.mp h₂).1
    refine Or.inr ⟨fun h => hne (by simp [h]), _, _, res, log, [], hret, ?_, ?_⟩
    · simp
    · simp [hnil]

theorem checkBackupStatus_left {x : LsBackup × BackupStatus} (hss : r.ssBackup = some ss)
    (h : Run (sem pk) (checkBackupStatus f r) tr x) : NoneLeft tr ↔ ss.storageNodes = [] := by
  obtain ⟨hnil, rfl⟩ | ⟨hne, hwaits⟩ := checkBackupStatus_waits hss h
  · exact iff_of_true noneLeft_nil hnil
  · rw [noneLeft_iff hwaits, List.map_eq_nil_iff]
    intro p hp
    obtain ⟨sn, -, rfl⟩ := List.mem_map.mp hp
    exact backupTask_isUpdater f _ sn

theorem execRestore_left {err : Option Err} (hss : r.ssBackup = some ss)
    (h : Run (sem pk) (execRestore f r) tr err) : NoneLeft tr ↔ ss.storageNodes = [] := by
  obtain ⟨hnil, rfl⟩ | ⟨hne, tasks, htasks, hwaits⟩ := execRestore_waits hss h
  · exact iff_of_true noneLeft_nil hnil
  · have hupdaters := restoreTasks_isUpdater f (dataNodeMap r.dnList) ss.storageNodes
    rw [htasks] at hupdaters
    rw [noneLeft_iff hwaits hupdaters]
    refine iff_of_false ?_ hne
    rintro rfl
    cases hnodes : ss.storageNodes with
    | nil => exact hne hnodes
    | cons sn sns =>
      rw [hnodes, restoreTasks] at htasks
      cases hdn : dataNodeMap r.dnList sn.ip with
      | none => simp [hdn] at htasks
      | some dn => simp [hdn] at htasks

theorem _execDelete_left {err : Option Err} (hss : r.ssBackup = some ss)
    (h : Run (sem pk) (_execDelete f r) tr err) :
    NoneLeft tr ↔ ∀ sn ∈ ss.storageNodes, dataNodeMap r.dnList sn.ip = none := by
  obtain ⟨hnil, rfl⟩ | ⟨hne, hwaits⟩ := _execDelete_waits hss h
  · exact iff_of_true noneLeft_nil (by simp [hnil])
  · rw [noneLeft_iff hwaits, execDeleteTasks, List.filterMap_eq_nil_iff]
    · simp only [Option.map_eq_none_iff]
    · intro p hp
      obtain ⟨sn, -, hsn⟩ := List.mem_filterMap.mp hp
      obtain ⟨dn, -, rfl⟩ := Option.map_eq_some_iff.mp hsn
      exact deleteTask_isUpdater f sn dn

end Functions

/-- An updater can return after its update function has reported only if no update function
ever does, and the functions that wait for updaters leave none of them behind only if they
start none. -/
theorem updaters_finish_iff (pk : Packages) :
    (∀ (ι : Type) [DecidableEq ι] (σ : ι → Type) (updateF : ∀ i, σ i → Go (σ i × Bool × Option Err))
      (s₀ : ∀ i, σ i), UpdatersFinish updateF s₀ ↔ ∀ i, ¬Reports (updateF i) (s₀ i)) ∧
    ∀ (f : Flags) (r : LsBackup) (ss : SsBackup), r.ssBackup = some ss →
      (∀ tr x, Run (sem pk) (checkBackupStatus f r) tr x → (NoneLeft tr ↔ ss.storageNodes = [])) ∧
      (∀ tr err, Run (sem pk) (execRestore f r) tr err → (NoneLeft tr ↔ ss.storageNodes = [])) ∧
      ∀ tr err, Run (sem pk) (_execDelete f r) tr err →
        (NoneLeft tr ↔ ∀ sn ∈ ss.storageNodes, dataNodeMap r.dnList sn.ip = none) :=
  ⟨fun _ _ _ _ _ => updatersFinish_iff, fun _ _ _ hss => ⟨fun _ _ h => checkBackupStatus_left hss h,
    fun _ _ h => execRestore_left hss h, fun _ _ h => _execDelete_left hss h⟩⟩

/-- A restore of two nodes leaves both goroutines behind. -/
theorem restored_left_behind :
    ¬NoneLeft (whole (Call.goRender .restoreResult 2 restoredTasks)
      [restoreResult nodeA none, restoreResult nodeB none] restoredLog ++ []) := by
  have hrun : Run (sem .documented) (execRestore .sample runningRead)
      (whole (Call.goRender .restoreResult 2 restoredTasks)
        [restoreResult nodeA none, restoreResult nodeB none] restoredLog ++ []) none :=
    Run.call restored_returns (.ret _)
  have hiff := ((updaters_finish_iff .documented).2 .sample runningRead _ rfl).2.1 _ _ hrun
  intro h
  cases hiff.mp h

theorem delete_reports :
    Reports (fun _ : Unit => checkDeleteProgress .sample nodeA "B1") () := by
  have hrun : ∃ tr, Run alone (checkDeleteProgress .sample nodeA "B1") tr ((), true, none) :=
    ⟨_, run_call.mpr ⟨none, [], _, rfl, run_call.mpr ⟨(), [], [], rfl, .ret _, rfl⟩, rfl⟩⟩
  obtain ⟨tr, hrun⟩ := hrun
  exact .now hrun (Or.inl rfl)

theorem not_all_updaters_finish :
    ¬∀ (ι : Type) [DecidableEq ι] (σ : ι → Type) (updateF : ∀ i, σ i → Go (σ i × Bool × Option Err))
      (s₀ : ∀ i, σ i), UpdatersFinish updateF s₀ := by
  intro h
  exact updatersFinish_iff.mp (h Unit (fun _ => Unit)
    (fun _ _ => checkDeleteProgress .sample nodeA "B1") (fun _ => ())) () delete_reports

end ShardingOnCloud.Pitr.LeftGoroutines
