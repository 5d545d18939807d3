import ShardingOnCloud.Pitr.BackupRuns

namespace ShardingOnCloud.Pitr.BackupCleanup

open ShardingOnCloud.Lib.Program ShardingOnCloud.Lib.Assertions ShardingOnCloud.Lib.Pool
open ShardingOnCloud.Pitr.Model ShardingOnCloud.Pitr.Calls ShardingOnCloud.Pitr.Backup
open ShardingOnCloud.Pitr.BackupSpec ShardingOnCloud.Pitr.BackupRuns

/-- The agent at `addr` has answered the `Backup` call with success. -/
def Accepted (evs : List Ev) (addr backupID : String) : Prop :=
  ∃ i x, .sub (i, .reply (.backup addr x) (.ok backupID)) ∈ evs

/-- A `DeleteBackup` request for the backup has been sent to the agent at `addr`. -/
def Deleted (evs : List Ev) (addr backupID : String) : Prop :=
  ∃ i x, .sub (i, .issue (.deleteBackup addr x)) ∈ evs ∧ x.backupID = backupID

def CleanedUp (evs : List Ev) : Prop :=
  ∀ addr backupID, Accepted evs addr backupID → Deleted evs addr backupID

def DistinctNodes (evs : List Ev) : Prop :=
  ∀ nodes, .main (.reply (.act .exportStorageNodes) (.ok nodes)) ∈ evs → (nodes.map (·.ip)).Nodup

/-- Two runs that only differ in how far the goroutines of the cleanup have come
by the time `backup` returns. -/
inductive Rescheduled : List Ev → List Ev → Prop
  | same (evs : List Ev) : Rescheduled evs evs
  | cleanup (pre : List Ev) (cap : ℕ) (ws : List (Go Unit)) (rest : Go Unit) {log log' : Log}
      (h : own 0 log' = own 0 log) :
      Rescheduled (pre ++ whole (Call.goDetach .deleteResult cap ws rest) () log)
        (pre ++ whole (Call.goDetach .deleteResult cap ws rest) () log')

theorem Rescheduled.append {evs evs' : List Ev} (h : Rescheduled evs evs') (pre : List Ev) :
    Rescheduled (pre ++ evs) (pre ++ evs') := by
  cases h with
  | same => exact .same _
  | cleanup pre' cap ws rest h =>
    rw [← List.append_assoc, ← List.append_assoc]
    exact .cleanup _ cap ws rest h

def NoDelete : Ev → Prop
  | .sub (_, .issue (.deleteBackup _ _)) => False
  | _ => True

/-- The events other than the answer of an agent that has accepted a backup. -/
def NoAnswer : Ev → Prop
  | .sub (_, .reply (.backup _ _) _) => False
  | _ => True

def NoAnswerGo (l : Label Act ActR) : Prop := ∀ i, NoAnswer (.sub (i, l))

def NoDeleteGo (l : Label Act ActR) : Prop := ∀ i, NoDelete (.sub (i, l))

variable {pk : Packages}

theorem asking_noDelete (a : Act) (ha : asking a = true) : AllowsGo NoDeleteGo a := by
  cases a <;> first | exact ⟨fun _ => trivial, fun _ _ => trivial⟩ | cases ha

theorem checking_noDelete (a : Act) (ha : checking a = true) : AllowsGo NoDeleteGo a := by
  cases a <;> first | exact ⟨fun _ => trivial, fun _ _ => trivial⟩ | cases ha

theorem deleting_noAnswer (a : Act) (ha : deleting a = true) : AllowsGo NoAnswerGo a := by
  cases a <;> first | exact ⟨fun _ => trivial, fun _ _ => trivial⟩ | cases ha

theorem backupSteps_noDelete (f : Flags) (filename : String) :
    Emits (sem pk) NoDelete (backupSteps f filename) (fun _ => True) :=
  backupSteps_emits (fun _ => trivial) (fun i _ h => h i) asking_noDelete checking_noDelete f
    filename

theorem room_only {κ : Chan} {cap i : ℕ} (log : Log) (l : Label Act ActR)
    (h : Room κ cap log (i, l)) : Room κ cap (log.filter (fun x => decide (x.1 = i))) (i, l) := by
  obtain ⟨hcap, hpanic⟩ := h
  constructor
  · intro hl
    have hsub : (contents κ (log.filter (fun x => decide (x.1 = i)))).Sublist (contents κ log) :=
      List.filter_sublist.filterMap _
    exact Nat.lt_of_le_of_lt hsub.length_le (hcap hl)
  · intro j hj
    exact hpanic j (List.mem_filter.mp hj).1

theorem own_filter (i : ℕ) (log : Log) :
    own i (log.filter (fun x => decide (x.1 = i))) = own i log := by
  simp only [own, List.filterMap_filter]
  apply List.filterMap_congr
  intro x hx
  by_cases hi : x.1 = i <;> simp [hi]

theorem goDetach_alone {cap : ℕ} {ws : List (Go Unit)} {filename : String} {log : Log}
    (h : (sem pk).returns (.goDetach .deleteResult cap ws (removeRecord filename)) () log) :
    ∃ log', (sem pk).returns (.goDetach .deleteResult cap ws (removeRecord filename)) () log' ∧
      own 0 log' = own 0 log ∧ ∀ x ∈ log', NoDelete (.sub x) := by
  obtain ⟨us, hpath, hdone⟩ := h
  obtain ⟨vs, hvs, h₀⟩ := path_only (i := 0) hpath room_only
  refine ⟨_, ⟨vs, hvs, ?_⟩, own_filter 0 log, ?_⟩
  · rwa [List.head?_eq_getElem?, h₀, ← List.head?_eq_getElem?]
  · rintro ⟨i, l⟩ hx
    have hi : i = 0 := by simpa using (List.mem_filter.mp hx).2
    subst hi
    obtain ⟨p, u, hp, -, hown, hl⟩ := path_thread hvs hx
    cases hp
    have hremove : Emits alone (onMain NoDeleteGo) (removeRecord filename) (fun _ => True) := by
      apply emits_goAct ⟨fun _ => trivial, fun _ _ => trivial⟩
      intro r
      cases r <;> trivial
    exact hremove.cut (cut_of_path hown) (.main l) (List.mem_map_of_mem hl) 0

/-- What can be said of a part of a run and its rescheduled version. -/
structure Idle (p : Cli Unit) (pk : Packages) (evs evs' : List Ev) : Prop where
  run : Run (sem pk) p evs' ()
  rescheduled : Rescheduled evs evs'
  noDelete : ∀ e ∈ evs', NoDelete e
  noAnswer : ∀ e ∈ evs, NoAnswer e

theorem idle_nil {p : Cli Unit} (h : Run (sem pk) p [] ()) : Idle p pk [] [] where
  run := h
  rescheduled := .same _
  noDelete := by simp
  noAnswer := by simp

theorem deleteBackupFiles_quiet (f : Flags) (filename : String) {lsBackup : LsBackup}
    {ss : SsBackup} (hss : lsBackup.ssBackup = some ss) (hne : ss.storageNodes.length ≠ 0) :
    deleteBackupFiles f filename lsBackup .quiet =
      .call (.goDetach .deleteResult ss.storageNodes.length
        (deleteTasks f (dataNodeMap lsBackup.dnList) ss.storageNodes) (removeRecord filename))
      .ret := by
  rw [deleteBackupFiles, hss, deref, Proc.ret_bind]
  dsimp only
  rw [if_neg hne]

theorem deleteBackupFiles_idle {f : Flags} {filename : String} {lsBackup : LsBackup}
    {evs : List Ev} (h : Run (sem pk) (deleteBackupFiles f filename lsBackup .quiet) evs ()) :
    ∃ evs', Idle (deleteBackupFiles f filename lsBackup .quiet) pk evs evs' := by
  have hother : Emits (sem pk) NoAnswer (deleteBackupFiles f filename lsBackup .quiet)
      (fun _ => True) :=
    deleteBackupFiles_emits (L := NoAnswerGo) f filename lsBackup ⟨trivial, fun _ => trivial⟩
      (fun _ _ _ => ⟨trivial, fun _ => trivial⟩) (fun i _ hl => hl i) deleting_noAnswer
  have hanswer := hother.cut h.cut
  obtain ⟨tr₁, ss, tr₂, hderef, hrest, rfl⟩ := run_bind.mp h
  obtain ⟨rfl, hss⟩ := run_deref hderef
  rw [List.nil_append] at h hanswer ⊢
  by_cases hzero : ss.storageNodes.length = 0
  · dsimp only at hrest
    rw [if_pos hzero] at hrest
    obtain ⟨rfl, -⟩ := run_ret.mp hrest
    exact ⟨[], idle_nil h⟩
  · rw [deleteBackupFiles_quiet f filename hss hzero] at h ⊢
    obtain ⟨_, log, tr, hret, htr, rfl⟩ := run_call.mp h
    obtain ⟨rfl, -⟩ := run_ret.mp htr
    obtain ⟨log', hret', hown, hlog⟩ := goDetach_alone hret
    have hrun := Run.call (k := Proc.ret) hret' (.ret ())
    rw [List.append_nil] at hrun hanswer ⊢
    refine ⟨_, hrun, .cleanup [] _ _ _ hown, ?_, hanswer⟩
    intro e he
    obtain rfl | ⟨x, hx, rfl⟩ | rfl := mem_whole.mp he
    · trivial
    · exact hlog x hx
    · trivial

theorem unlock_main {tr : List Ev} {r : Option Err} (h : Run (sem pk) unlock tr r) :
    ∀ e ∈ tr, NoDelete e ∧ NoAnswer e := by
  have hmain : Emits (sem pk) (fun e => NoDelete e ∧ NoAnswer e) unlock (fun _ => True) :=
    emits_act ⟨⟨trivial, trivial⟩, fun _ => ⟨trivial, trivial⟩⟩ (fun _ => trivial)
  exact hmain.cut h.cut

theorem unlock_idle {k : Option Err → Cli Unit} {tr evs evs' : List Ev} {r : Option Err}
    (hunlock : Run (sem pk) unlock tr r) (hi : Idle (k r) pk evs evs') :
    Idle (unlock >>= k) pk (tr ++ evs) (tr ++ evs') where
  run := run_bind.mpr ⟨tr, r, evs', hunlock, hi.run, rfl⟩
  rescheduled := hi.rescheduled.append tr
  noDelete := by
    intro e he
    rcases List.mem_append.mp he with he | he
    · exact (unlock_main hunlock e he).1
    · exact hi.noDelete e he
  noAnswer := by
    intro e he
    rcases List.mem_append.mp he with he | he
    · exact (unlock_main hunlock e he).2
    · exact hi.noAnswer e he

theorem deferred_idle {f : Flags} {v : Vars} {evs : List Ev}
    (h : Run (sem pk) (deferred f v) evs ()) : ∃ evs', Idle (deferred f v) pk evs evs' := by
  cases herr : v.err with
  | none =>
    rw [deferred, herr] at h ⊢
    obtain ⟨rfl, -⟩ := run_ret.mp h
    exact ⟨[], idle_nil h⟩
  | some e =>
    rw [deferred, herr] at h ⊢
    obtain ⟨tr₁, r, tr₂, hunlock, hrest, rfl⟩ := run_bind.mp h
    cases hv : v.lsBackup with
    | none =>
      rw [hv] at hrest
      obtain ⟨rfl, -⟩ := run_ret.mp hrest
      exact ⟨_, unlock_idle hunlock (idle_nil hrest)⟩
    | some lsBackup =>
      rw [hv] at hrest
      obtain ⟨tr', hi⟩ := deleteBackupFiles_idle hrest
      exact ⟨_, unlock_idle hunlock hi⟩

theorem did_main {a : Act} {r : ActR a} : ∀ e ∈ did a r, NoDelete e ∧ NoAnswer e := by
  intro e he
  obtain rfl | ⟨x, hx, rfl⟩ | rfl := mem_whole.mp he
  · exact ⟨trivial, trivial⟩
  · cases hx
  · exact ⟨trivial, trivial⟩

structure Spared (p : Cli (Option Err)) (pk : Packages) (evs evs' : List Ev) (res : Option Err) :
    Prop where
  run : Run (sem pk) p evs' res
  rescheduled : Rescheduled evs evs'
  noDelete : ∀ e ∈ evs', NoDelete e
  accepted : ∀ addr backupID, Accepted evs addr backupID → Accepted evs' addr backupID

theorem spared_of_noDelete {p : Cli (Option Err)} {evs : List Ev} {res : Option Err}
    (h : Run (sem pk) p evs res) (hd : ∀ e ∈ evs, NoDelete e) : Spared p pk evs evs res :=
  ⟨h, .same _, hd, fun _ _ h => h⟩

theorem Spared.act {a : Act} {k : ActR a → Cli (Option Err)} {r : ActR a} {evs evs' : List Ev}
    {res : Option Err} (h : Spared (k r) pk evs evs' res) :
    Spared (.call (.act a) k) pk (did a r ++ evs) (did a r ++ evs') res where
  run := run_act h.run
  rescheduled := h.rescheduled.append _
  noDelete := by
    intro e he
    rcases List.mem_append.mp he with he | he
    · exact (did_main e he).1
    · exact h.noDelete e he
  accepted := by
    rintro addr backupID ⟨i, x, hx⟩
    rcases List.mem_append.mp hx with hx | hx
    · exact ((did_main _ hx).2).elim
    · obtain ⟨j, y, hy⟩ := h.accepted addr backupID ⟨i, x, hx⟩
      exact ⟨j, y, List.mem_append_right _ hy⟩

theorem steps_spared {f : Flags} {filename : String} {evs : List Ev} {res : Option Err}
    (h : Run (sem pk) (backupSteps f filename >>= fun x => deferred f x.1 >>= fun _ => .ret x.2)
      evs res) :
    ∃ evs', Spared (backupSteps f filename >>= fun x => deferred f x.1 >>= fun _ => .ret x.2)
      pk evs evs' res := by
  obtain ⟨tr₁, ⟨v, res'⟩, tr₂, hsteps, hrest, rfl⟩ := run_bind.mp h
  obtain ⟨tr₃, _, tr₄, hdeferred, hret, rfl⟩ := run_bind.mp hrest
  obtain ⟨rfl, rfl⟩ := run_ret.mp hret
  obtain ⟨tr', hi⟩ := deferred_idle hdeferred
  have hsilent := (backupSteps_noDelete f filename).cut hsteps.cut
  rw [List.append_nil]
  refine ⟨tr₁ ++ tr', ?_, hi.rescheduled.append tr₁, ?_, ?_⟩
  · refine run_bind.mpr ⟨tr₁, (v, res), tr', hsteps, ?_, rfl⟩
    exact run_bind.mpr ⟨tr', (), [], hi.run, .ret _, (List.append_nil _).symm⟩
  · intro e he
    rcases List.mem_append.mp he with he | he
    · exact hsilent e he
    · exact hi.noDelete e he
  · rintro addr backupID ⟨i, x, hx⟩
    rcases List.mem_append.mp hx with hx | hx
    · exact ⟨i, x, List.mem_append_left _ hx⟩
    · exact (hi.noAnswer _ hx).elim

/-- Every run of `backup` could have been scheduled such that no agent is asked
to delete anything. -/
theorem backup_spared {f : Flags} {filename : String} {evs : List Ev} {res : Option Err}
    (h : Run (sem pk) (backup f filename) evs res) :
    ∃ evs', Spared (backup f filename) pk evs evs' res := by
  obtain ⟨r₁, tr₁, h₁, rfl⟩ := run_act_inv h
  cases r₁ with
  | some err =>
    obtain ⟨rfl, -⟩ := run_ret.mp h₁
    exact ⟨_, (spared_of_noDelete h₁ (by simp)).act⟩
  | none =>
    obtain ⟨r₂, tr₂, h₂, rfl⟩ := run_act_inv h₁
    cases r₂ with
    | some err =>
      obtain ⟨rfl, -⟩ := run_ret.mp h₂
      exact ⟨_, (spared_of_noDelete h₂ (by simp)).act.act⟩
    | none =>
      obtain ⟨tr', hspared⟩ := steps_spared h₂
      exact ⟨_, hspared.act.act⟩

/-- Whenever `backup` fails after an agent has accepted the backup, there is a
schedule under which nothing of it is cleaned up. -/
theorem failed_backup_not_cleaned_up {pk : Packages} {f : Flags} {filename : String}
    {evs : List Ev} {e : Err} (h : Run (sem pk) (backup f filename) evs (some e))
    {addr backupID : String} (ha : Accepted evs addr backupID) :
    ¬∀ evs', Run (sem pk) (backup f filename) evs' (some e) → Rescheduled evs evs' →
      CleanedUp evs' := by
  intro hclean
  obtain ⟨evs', hspared⟩ := backup_spared h
  obtain ⟨i, x, hx, -⟩ :=
    hclean evs' hspared.run hspared.rescheduled addr backupID (hspared.accepted addr backupID ha)
  exact (hspared.noDelete _ hx).elim

/-- The run in which one of two agents refuses the backup. -/
def refused : List Ev :=
  approving .sample sampleCluster [nodeA, nodeB] (oneRefuses ++ refusedCleanup)

theorem refused_accepted : Accepted refused (agentAddr .sample nodeA) "B1" := by
  have h : .sub (0, .reply (request .sample nodeA) (.ok "B1")) ∈ refused := by
    simp [refused, approving, ClusterLock.connecting, approved, oneRefuses, whole, fanOut, asked]
  exact ⟨0, _, h⟩

theorem refused_distinct : DistinctNodes refused := by
  intro nodes h
  have heq : nodes = [nodeA, nodeB] := by
    simpa [refused, approving, ClusterLock.connecting, exported, written, approved, checked, shown,
      oneRefuses, refusedCleanup, did, whole, fanOut, asked] using h
  rw [heq]
  exact nodes_nodup

theorem refused_not_cleaned_up :
    ¬∀ evs', Run (sem .documented) (backup .sample "") evs'
        (some ("exec backup failed. err: " ++ refusal)) → Rescheduled refused evs' →
      CleanedUp evs' :=
  failed_backup_not_cleaned_up (refused_run "") refused_accepted

/-- No schedule helps when one of the agents refuses: the list of data nodes that
the cleanup works on is still empty. -/
theorem not_all_failed_backups_cleaned_up :
    ¬∀ (pk : Packages) (f : Flags) (filename : String) (evs : List Ev) (e : Err),
      Run (sem pk) (backup f filename) evs (some e) → DistinctNodes evs → CleanedUp evs := by
  intro h
  have hclean := h _ _ _ _ _ (refused_run "") refused_distinct
  obtain ⟨i, x, hx, -⟩ := hclean _ _ refused_accepted
  simp [approving, ClusterLock.connecting, exported, written, approved, checked, shown,
    oneRefuses, refusedCleanup, did, whole, fanOut, asked] at hx

end ShardingOnCloud.Pitr.BackupCleanup
