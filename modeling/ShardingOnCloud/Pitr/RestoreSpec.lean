import ShardingOnCloud.Pitr.BackupSpec
import ShardingOnCloud.Pitr.Restore

namespace ShardingOnCloud.Pitr.RestoreSpec

open ShardingOnCloud.Lib.Program ShardingOnCloud.Lib.Assertions ShardingOnCloud.Lib.Pool
open ShardingOnCloud.Pitr.Model ShardingOnCloud.Pitr.Calls ShardingOnCloud.Pitr.LocalStorage
open ShardingOnCloud.Pitr.Backup ShardingOnCloud.Pitr.BackupSpec ShardingOnCloud.Pitr.Restore

variable {pk : Packages} {P : Ev → Prop} {L : Label Act ActR → Prop}

/-- The acts of the main goroutine of `restore` before it changes the proxy. -/
def looking : Act → Bool
  | .newLocalStorage _ | .newShardingSphereProxy _ _ _ _ _ | .readDir | .getUserApprove _
  | .checkStatus _ _ | .panic => true
  | _ => false

def FromFile (entries : List DirEntry) (b : LsBackup) : Prop :=
  ∃ entry ∈ entries, ∃ r info, entry.file = .ok (.ok r) ∧ b = { r with info := some info }

theorem readEntries_emits (f : Flags) (hpanic : Allows P .panic) (entries : List DirEntry)
    (backups : List LsBackup) :
    Emits (sem pk) P (readEntries f entries backups) (fun _ => True) := by
  induction entries generalizing backups with
  | nil => trivial
  | cons entry entries ih =>
    rw [readEntries]
    split
    · exact ih backups
    · split
      · trivial
      · trivial
      · split
        · split
          · trivial
          · trivial
          · exact emits_bind (deref_emits hpanic _) (fun _ _ => ih _)
        · exact ih backups

theorem readAll_emits (f : Flags) (hP : ∀ a, looking a = true → Allows P a) :
    Emits (sem pk) P (readAll f) (fun _ => True) := by
  refine emits_act (hP _ rfl) (fun r => ?_)
  cases r with
  | error err => trivial
  | ok entries =>
    exact readEntries_emits f (hP _ rfl) entries []

theorem validate_emits (f : Flags) (hP : ∀ a, looking a = true → Allows P a) :
    Emits (sem pk) P (validate f) (fun _ => True) := by
  have hcsn : Emits (sem pk) P (validateByCSN f) (fun _ => True) := by
    unfold validateByCSN
    split
    · refine emits_bind (emits_bind (readAll_emits f hP) (fun r _ => ?_) (Q := fun _ => True)) ?_
      · cases r <;> trivial
      · intro r _
        cases r <;> trivial
    · trivial
  have hid : ∀ baks, Emits (sem pk) P (validateByID f baks) (fun _ => True) := by
    intro baks
    unfold validateByID
    split
    · refine emits_bind (emits_bind (readAll_emits f hP) (fun r _ => ?_) (Q := fun _ => True)) ?_
      · cases r with
        | error err => trivial
        | ok list =>
          dsimp only
          split <;> trivial
      · intro r _
        cases r <;> trivial
    · trivial
  refine emits_bind hcsn (fun r _ => ?_)
  cases r with
  | error err => trivial
  | ok baks =>
    refine emits_bind (hid baks) (fun r _ => ?_)
    rcases r with err | (_ | ⟨b, _ | ⟨b', bs⟩⟩) <;> trivial

theorem findRecord_emits (f : Flags) (hP : ∀ a, looking a = true → Allows P a) :
    Emits (sem pk) P (findRecord f) (fun _ => True) := by
  refine emits_call (hP _ rfl) (fun r => ?_)
  cases r with
  | some err => trivial
  | none =>
    refine emits_call (hP _ rfl) (fun r => ?_)
    cases r with
    | some err => trivial
    | none => exact validate_emits f hP

def restoring : Act → Bool
  | .newTicker | .restore _ _ | .sendRestoreResult _ | .markAsDone | .markAsErrored | .sendDone
  | .selectForever => true
  | _ => false

theorem checkRestoreProgress_emits (f : Flags) (sn : StorageNode) (backupID : String)
    (hreq : ∀ x : RestoreIn, x.dnBackupID = backupID → AllowsGo L (.restore (agentAddr f sn) x))
    (hsend : ∀ r, AllowsGo L (.sendRestoreResult r)) :
    Emits alone (onMain L) (checkRestoreProgress f sn backupID) (fun _ => True) := by
  refine emits_goAct (hreq _ rfl) (fun err => ?_)
  cases err with
  | some err => exact emits_goAct (hsend _) (fun _ => trivial)
  | none => exact emits_goAct (hsend _) (fun _ => trivial)

theorem restoring_of_looping {a : Act} (ha : looping a = true) : restoring a = true := by
  cases a <;> first | rfl | cases ha

theorem restoreTask_emits (f : Flags) (sn : StorageNode) (dn : DataNode)
    (hL : ∀ a, restoring a = true → AllowsGo L a) :
    Emits alone (onMain L) (restoreTask f sn dn) (fun _ => True) := by
  refine updateProgress_emits (I := fun _ => True) (fun a ha => hL a (restoring_of_looping ha))
    (fun _ _ => ?_) trivial
  exact checkRestoreProgress_emits f sn dn.backupID (fun _ _ => hL _ rfl) (fun _ => hL _ rfl)

theorem restoreTasks_emits (f : Flags) (dns : String → Option DataNode)
    (hL : ∀ a, restoring a = true → AllowsGo L a) (sns : List StorageNode) :
    ∀ p ∈ (restoreTasks f dns sns).1, Emits alone (onMain L) p (fun _ => True) := by
  induction sns with
  | nil => simp [restoreTasks]
  | cons sn sns ih =>
    intro p hp
    rw [restoreTasks] at hp
    cases hdn : dns sn.ip with
    | none => simp [hdn] at hp
    | some dn =>
      rw [hdn] at hp
      rcases List.mem_cons.mp hp with rfl | hp
      · exact restoreTask_emits f sn dn hL
      · exact ih p hp

section Data

variable (hP : ∀ a, looking a = true → Allows P a)
  (hrender : ∀ cap ws, P (.main (.issue (.goRender .restoreResult cap ws))) ∧
    ∀ r, P (.main (.reply (.goRender .restoreResult cap ws) r)))
  (hpanics : ∀ cap ws, P (.main (.issue (.goPanic .restoreResult cap ws))))
  (hsub : ∀ i l, L l → P (.sub (i, l))) (hL : ∀ a, restoring a = true → AllowsGo L a)

include hP hrender hpanics hsub hL in
theorem execRestore_emits (f : Flags) (lsBackup : LsBackup) :
    Emits (sem pk) P (execRestore f lsBackup) (fun _ => True) := by
  refine emits_bind (deref_emits (hP _ rfl) lsBackup.ssBackup) (fun ss _ => ?_)
  dsimp only
  split
  · exact emits_bind (deref_emits (hP _ rfl) lsBackup.info) (fun _ _ => trivial)
  · have htasks := restoreTasks_emits f (dataNodeMap lsBackup.dnList) hL ss.storageNodes
    split
    · next tasks hts =>
      rw [hts] at htasks
      refine ⟨hpanics _ _, ?_, ?_⟩
      · rintro is ⟨us, hp⟩ x hx
        exact hsub _ _ (path_emits hp htasks x hx)
      · intro r is hr
        exact hr.elim
    · next tasks hts =>
      rw [hts] at htasks
      refine ⟨(hrender _ _).1, ?_, ?_⟩
      · rintro is ⟨us, hp⟩ x hx
        exact hsub _ _ (path_emits hp htasks x hx)
      · rintro r is ⟨us, hp, -⟩
        refine ⟨(hrender _ _).2 r, fun x hx => hsub _ _ (path_emits hp htasks x hx), ?_⟩
        change Emits (sem pk) P (if _ then _ else _) _
        split <;> trivial

end Data

theorem restoreData_emits (hP : ∀ a, looking a = true → Allows P a)
    (hexport : Allows P .exportMetaData) (f : Flags) (names : List String) {bak : LsBackup}
    (hexec : Emits (sem pk) P (execRestore f bak) (fun _ => True)) :
    Emits (sem pk) P (restoreData f names bak) (fun _ => True) := by
  have hexist : Emits (sem pk) P (checkDatabaseExist names) (fun _ => True) := by
    refine emits_act hexport (fun r => ?_)
    cases r <;> trivial
  refine emits_bind hexist (fun r _ => ?_)
  cases r with
  | error err => trivial
  | ok names =>
    refine emits_act (hP _ rfl) (fun err => ?_)
    cases err with
    | some err => trivial
    | none =>
      refine emits_bind (checkAgentServerStatus_emits f (hP _ rfl) (fun _ _ => hP _ rfl) bak)
        (fun available _ => ?_)
      cases available with
      | false => trivial
      | true =>
        refine emits_bind hexec (fun err _ => ?_)
        cases err <;> trivial

theorem dropDatabases_emits (hdrop : ∀ name, Allows P (.exec (.dropDatabase name)))
    (names : List String) : Emits (sem pk) P (dropDatabases names) (fun _ => True) := by
  induction names with
  | nil => trivial
  | cons name names ih =>
    refine emits_act (hdrop name) (fun err => ?_)
    cases err with
    | some err => trivial
    | none => exact ih

theorem restoreDataToSSProxy_emits (hpanic : Allows P .panic) (hexec : ∀ s, Allows P (.exec s))
    (names : List String) (bak : LsBackup) :
    Emits (sem pk) P (restoreDataToSSProxy names bak) (fun _ => True) := by
  refine emits_bind (dropDatabases_emits (fun _ => hexec _) names) (fun err _ => ?_)
  cases err with
  | some err => trivial
  | none =>
    refine emits_bind (deref_emits hpanic bak.ssBackup) (fun ss _ => ?_)
    cases hc : ss.clusterInfo with
    | none => trivial
    | some c =>
      refine emits_act (hexec _) (fun err => ?_)
      cases err <;> trivial

theorem restore_emits (hP : ∀ a, looking a = true → Allows P a) (hexec : ∀ s, Allows P (.exec s))
    (f : Flags) (names : List String)
    (hdata : ∀ bak, Emits (sem pk) P (restoreData f names bak) (fun _ => True)) :
    Emits (sem pk) P (restore f names) (fun _ => True) := by
  refine emits_bind (findRecord_emits f hP) (fun r _ => ?_)
  cases r with
  | error err => trivial
  | ok bak =>
    refine emits_bind (hdata bak) (fun r _ => ?_)
    cases r with
    | error err => trivial
    | ok names =>
      exact emits_bind (restoreDataToSSProxy_emits (hP _ rfl) hexec names bak) (fun _ _ => trivial)

/-- The request of `restoretask.checkProgress`. -/
@[reducible] def restoreCall (f : Flags) (sn : StorageNode) (backupID : String) : Act :=
  .restore (agentAddr f sn)
    { dbPort := sn.port, dbName := sn.database, username := sn.username, password := sn.password,
      instanceName := defaultInstance, dnBackupPath := f.backupPath, dnBackupID := backupID,
      dnThreadsNum := f.threadsNum }

def restoreResult (sn : StorageNode) (err : Option Err) : RestoreResult where
  ip := sn.ip
  port := sn.port
  status := match err with
    | some err => "Failed: " ++ err
    | none => "Completed"

theorem restoreResult_completed {sn : StorageNode} {err : Option Err}
    (h : (restoreResult sn err).status = "Completed") : err = none := by
  cases err with
  | none => rfl
  | some err =>
    have hlist := congrArg String.toList h
    simp [restoreResult] at hlist

/-- What a goroutine has done by the time its tracker is done or errored. -/
structure Finished (f : Flags) (sn : StorageNode) (backupID : String) (err : Option Err)
    (ls : List (Label Act ActR)) : Prop where
  asked : .issue (restoreCall f sn backupID) ∈ ls
  answer : .reply (restoreCall f sn backupID) err ∈ ls
  sent : .reply (.sendRestoreResult (restoreResult sn err)) () ∈ ls
  once : ∀ addr x, .issue (.restore addr x) ∈ ls →
    Act.restore addr x = restoreCall f sn backupID
  only : ∀ addr x r, .reply (.restore addr x) r ∈ ls → r = err

theorem marked_call {c : Act} {k : ActR c → Go Unit} {ls : List (Label Act ActR)}
    {u : Thread Act ActR Unit} (hc : ∀ r, marks (.reply c r) = false)
    (h : Thread.Path (.run (.call c k)) ls u) (hm : ls.any marks = true) :
    ∃ r ls', ls = .issue c :: .reply c r :: ls' ∧ Thread.Path (.run (k r)) ls' u ∧
      ls'.any marks = true := by
  obtain ⟨rfl, -⟩ | ⟨rfl, -⟩ | ⟨r, ls', rfl, h'⟩ := Thread.path_run_call.mp h
  · cases hm
  · cases hm
  · refine ⟨r, ls', rfl, h', ?_⟩
    have hissue : marks (.issue c : Label Act ActR) = false := rfl
    rwa [List.any_cons, List.any_cons, hissue, hc r, Bool.false_or, Bool.false_or] at hm

/-- The calls other than that of `restoretask.checkProgress`. -/
def NoRestore : Label Act ActR → Prop
  | .issue (.restore _ _) | .reply (.restore _ _) _ => False
  | _ => True

/-- Once the tracker is marked, the goroutine only wants to say that it is done. -/
theorem mark_only {c : Act} (hc : AllowsGo L c) (hdone : AllowsGo L .sendDone)
    {k : ActR c → Go Unit} (hk : ∀ r, k r = sendDone) {ls : List (Label Act ActR)}
    {u : Thread Act ActR Unit} (h : Thread.Path (.run (.call c k)) ls u) : ∀ l ∈ ls, L l := by
  have hemits : Emits alone (onMain L) (.call c k) (fun _ => True) := by
    refine emits_goCall hc (fun r => ?_)
    rw [hk r]
    exact emits_goCall hdone (fun e => nomatch e)
  intro l hl
  exact hemits.cut (cut_of_path h) (.main l) (List.mem_map_of_mem hl)

/-- The goroutine asks its agent once, and sends the result before it marks its
tracker. -/
theorem restoreTask_finished {f : Flags} {sn : StorageNode} {dn : DataNode}
    {ls : List (Label Act ActR)} {u : Thread Act ActR Unit}
    (h : Thread.Path (.run (restoreTask f sn dn)) ls u) (hm : ls.any marks = true) :
    ∃ err, Finished f sn dn.backupID err ls := by
  obtain ⟨n, ls₁, rfl, h₁, hm₁⟩ := marked_call (fun _ => rfl) h hm
  cases n with
  | zero =>
    obtain ⟨r, -⟩ := marked_call (fun _ => rfl) h₁ hm₁
    cases r
  | succ n =>
    obtain ⟨err, ls₂, rfl, h₂, hm₂⟩ := marked_call (fun _ => rfl) h₁ hm₁
    have hrest : ∃ ls₃, ls₂ = .issue (.sendRestoreResult (restoreResult sn err)) ::
        .reply (.sendRestoreResult (restoreResult sn err)) () :: ls₃ ∧ ∀ l ∈ ls₃, NoRestore l := by
      cases err with
      | some err =>
        obtain ⟨_, ls₃, rfl, h₃, -⟩ := marked_call (fun _ => rfl) h₂ hm₂
        exact ⟨ls₃, rfl, mark_only (c := .markAsErrored) ⟨trivial, fun _ => trivial⟩
          ⟨trivial, fun _ => trivial⟩ (fun _ => rfl) h₃⟩
      | none =>
        obtain ⟨_, ls₃, rfl, h₃, -⟩ := marked_call (fun _ => rfl) h₂ hm₂
        exact ⟨ls₃, rfl, mark_only (c := .markAsDone) ⟨trivial, fun _ => trivial⟩
          ⟨trivial, fun _ => trivial⟩ (fun _ => rfl) h₃⟩
    obtain ⟨ls₃, rfl, hls₃⟩ := hrest
    have hissue : ∀ addr x, .issue (.restore addr x) ∉ ls₃ := fun addr x hl => hls₃ _ hl
    have hreply : ∀ addr x r, .reply (.restore addr x) r ∉ ls₃ := fun addr x r hl => hls₃ _ hl
    refine ⟨err, by simp, by simp, by simp, ?_, ?_⟩
    · intro addr x hx
      simpa [hissue] using hx
    · intro addr x r hx
      simp only [List.mem_cons] at hx
      rcases hx with hx | hx | hx | hx | hx | hx | hx
      · cases hx
      · cases hx
      · cases hx
      · cases hx
        rfl
      · cases hx
      · cases hx
      · exact absurd hx (hreply addr x r)

end ShardingOnCloud.Pitr.RestoreSpec
