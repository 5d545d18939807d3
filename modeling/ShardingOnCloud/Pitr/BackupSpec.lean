import ShardingOnCloud.Pitr.Backup

namespace ShardingOnCloud.Pitr.BackupSpec

open ShardingOnCloud.Lib.Program ShardingOnCloud.Lib.Assertions ShardingOnCloud.Lib.Pool
open ShardingOnCloud.Pitr.Model ShardingOnCloud.Pitr.Calls ShardingOnCloud.Pitr.LocalStorage
open ShardingOnCloud.Pitr.Backup

variable {pk : Packages} {P : Ev → Prop} {L : Label Act ActR → Prop}

/-- `P` allows the act `a` to the main goroutine. -/
def Allows (P : Ev → Prop) (a : Act) : Prop :=
  P (.main (.issue (.act a))) ∧ ∀ r, P (.main (.reply (.act a) r))

/-- `L` allows the act `a` to a goroutine. -/
def AllowsGo (L : Label Act ActR → Prop) (a : Act) : Prop := L (.issue a) ∧ ∀ r, L (.reply a r)

/-- The acts of the main goroutine that neither send a statement to the proxy
nor write a record. -/
def plain : Act → Bool
  | .exec _ | .fileWrite _ _ => false
  | _ => true

theorem emits_call {α : Type} {a : Act} {k : ActR a → Cli α} {Q : α → Prop} (ha : Allows P a)
    (hk : ∀ r, Emits (sem pk) P (k r) Q) : Emits (sem pk) P (.call (.act a) k) Q := by
  refine ⟨ha.1, ?_, ?_⟩
  · rintro is rfl x hx
    cases hx
  · rintro r is rfl
    refine ⟨ha.2 r, ?_, hk r⟩
    intro x hx
    cases hx

theorem emits_act {α : Type} {a : Act} {k : ActR a → Cli α} {Q : α → Prop} (ha : Allows P a)
    (hk : ∀ r, Emits (sem pk) P (k r) Q) : Emits (sem pk) P (act a >>= k) Q :=
  emits_call ha hk

theorem emits_goCall {α : Type} {a : Act} {k : ActR a → Go α} {Q : α → Prop} (ha : AllowsGo L a)
    (hk : ∀ r, Emits alone (onMain L) (k r) Q) : Emits alone (onMain L) (.call a k) Q :=
  emits_alone ha.1 ha.2 hk

theorem emits_goAct {α : Type} {a : Act} {k : ActR a → Go α} {Q : α → Prop} (ha : AllowsGo L a)
    (hk : ∀ r, Emits alone (onMain L) (k r) Q) : Emits alone (onMain L) (goAct a >>= k) Q :=
  emits_goCall ha hk

theorem deref_emits {α : Type} (hp : Allows P .panic) (o : Option α) :
    Emits (sem pk) P (deref o) (fun a => o = some a) := by
  cases o with
  | some a => exact rfl
  | none => exact emits_call hp (fun r => nomatch r)

theorem writeByJSON_emits (f : Flags) (name : String) (contents : LsBackup)
    (hc : Allows P (.osCreate name)) (hw : Allows P (.fileWrite name contents)) :
    Emits (sem pk) P (writeByJSON f name contents) (fun _ => True) := by
  unfold writeByJSON
  split
  · refine emits_act hc (fun r => ?_)
    cases r with
    | some err => trivial
    | none =>
      refine emits_act hw (fun r => ?_)
      rcases r with _ | ⟨err, data⟩
      · trivial
      · trivial
  · trivial

/-- A record as `exportData` makes it. -/
def Fresh (r : LsBackup) : Prop :=
  r.info ≠ none ∧ r.dnList = [] ∧ ∃ ss, r.ssBackup = some ss ∧ ss.status = ssBackupStatusWaiting

theorem hasSuffix_append (name suffix : String) : hasSuffix (name ++ suffix) suffix = true := by
  simp [hasSuffix]

theorem exportData_emits (f : Flags) (filename : String) (hP : ∀ a, plain a = true → Allows P a)
    (hw : ∀ name r, Fresh r → Allows P (.fileWrite name r)) :
    Emits (sem pk) P (exportData f filename)
      (fun x => ∀ r, x.2 = .ok r → Fresh r ∧ hasSuffix x.1 ".json" = true) := by
  unfold exportData
  refine emits_act (hP _ rfl) (fun r => ?_)
  cases r with
  | error err =>
    intro r h
    cases h
  | ok cluster =>
    refine emits_act (hP _ rfl) (fun r => ?_)
    cases r with
    | error err =>
      intro r h
      cases h
    | ok nodes =>
      refine emits_act (hP _ rfl) (fun name => ?_)
      refine emits_act (hP _ rfl) (fun id => ?_)
      refine emits_act (hP _ rfl) (fun startTime => ?_)
      have hfresh : ∀ i s, Fresh ⟨some i, [], some ⟨ssBackupStatusWaiting, s, nodes⟩⟩ :=
        fun i s => ⟨by simp, rfl, _, rfl, rfl⟩
      refine emits_bind (writeByJSON_emits f _ _ (hP _ rfl) (hw _ _ (hfresh _ _))) ?_
      rintro (_ | err) -
      · intro r h
        cases h
        exact ⟨hfresh _ _, hasSuffix_append _ _⟩
      · intro r h
        cases h

theorem checkStatuses_emits (f : Flags) (hP : ∀ addr i, Allows P (.checkStatus addr i))
    (sns : List StorageNode) (available : Bool) :
    Emits (sem pk) P (checkStatuses f sns available) (fun _ => True) := by
  induction sns generalizing available with
  | nil => trivial
  | cons sn sns ih =>
    refine emits_act (hP _ _) (fun r => ?_)
    cases r with
    | some err => exact ih false
    | none => exact ih available

theorem checkAgentServerStatus_emits (f : Flags) (hpanic : Allows P .panic)
    (hstatus : ∀ addr i, Allows P (.checkStatus addr i)) (lsBackup : LsBackup) :
    Emits (sem pk) P (checkAgentServerStatus f lsBackup)
      (fun b => b = true → ∃ ss, lsBackup.ssBackup = some ss ∧
        (ss.storageNodes.map (·.ip)).Nodup) := by
  refine emits_bind (deref_emits hpanic lsBackup.ssBackup) (fun ss hss => ?_)
  refine emits_bind (checkStatuses_emits f hstatus _ _) (fun available _ => ?_)
  split
  · next hnd => exact fun _ => ⟨ss, hss, hnd⟩
  · intro h
    cases h

theorem showDiskSpaces_emits (f : Flags) (hP : ∀ addr i, Allows P (.showDiskSpace addr i))
    (sns : List StorageNode) : Emits (sem pk) P (showDiskSpaces f sns) (fun _ => True) := by
  induction sns with
  | nil => trivial
  | cons sn sns ih => exact emits_act (hP _ _) (fun _ => ih)

theorem checkDiskSpace_emits (f : Flags) (hpanic : Allows P .panic)
    (hshow : ∀ addr i, Allows P (.showDiskSpace addr i)) (lsBackup : LsBackup) :
    Emits (sem pk) P (checkDiskSpace f lsBackup) (fun err => err = none) := by
  refine emits_bind (deref_emits hpanic lsBackup.ssBackup) (fun ss _ => ?_)
  exact emits_bind (showDiskSpaces_emits f hshow _) (fun _ _ => rfl)

def asking : Act → Bool
  | .backup _ _ | .now | .sendDataNode _ => true
  | _ => false

theorem _execBackup_emits (f : Flags) (node : StorageNode)
    (hL : ∀ a, asking a = true → AllowsGo L a) :
    Emits alone (onMain L) (_execBackup f node) (fun _ => True) := by
  apply emits_goAct (hL _ rfl)
  intro res
  apply emits_goAct (hL _ rfl)
  intro startTime
  cases res with
  | error err => exact emits_goAct (hL _ rfl) (fun _ => trivial)
  | ok backupID => exact emits_goAct (hL _ rfl) (fun _ => trivial)

/-- The record after `execBackup` has succeeded. -/
def Asked (pk : Packages) (f : Flags) (lsBackup asked : LsBackup) : Prop :=
  ∃ ss dns log, lsBackup.ssBackup = some ss ∧
    (sem pk).returns (.goWait ss.storageNodes.length (ss.storageNodes.map (_execBackup f)))
      (dns, none) log ∧
    asked = { lsBackup with
      dnList := lsBackup.dnList ++ dns
      ssBackup := some { ss with status := ssBackupStatusRunning } }

theorem execBackup_emits (f : Flags) (lsBackup : LsBackup) (hpanic : Allows P .panic)
    (hmain : ∀ cap ws, P (.main (.issue (.goWait cap ws))) ∧
      ∀ r, P (.main (.reply (.goWait cap ws) r)))
    (hsub : ∀ i l, L l → P (.sub (i, l))) (hL : ∀ a, asking a = true → AllowsGo L a) :
    Emits (sem pk) P (execBackup f lsBackup) (fun x => x.2 = none → Asked pk f lsBackup x.1) := by
  refine emits_bind (deref_emits hpanic lsBackup.ssBackup) (fun ss hss => ?_)
  have hnodes : ∀ p ∈ ss.storageNodes.map (_execBackup f),
      Emits alone (onMain L) p (fun _ => True) := by
    intro p hp
    obtain ⟨sn, -, rfl⟩ := List.mem_map.mp hp
    exact _execBackup_emits f sn hL
  refine ⟨(hmain _ _).1, ?_, ?_⟩
  · rintro is ⟨us, hp⟩ x hx
    exact hsub _ _ (path_emits hp hnodes x hx)
  · rintro ⟨dns, err⟩ is hret
    have hpath := hret.choose_spec.1
    refine ⟨(hmain _ _).2 _, fun x hx => hsub _ _ (path_emits hpath hnodes x hx), ?_⟩
    cases err with
    | some err =>
      intro h
      cases h
    | none => exact fun _ => ⟨ss, dns, is, hss, hret, rfl⟩

/-- The acts of the goroutines that ask for the state of a backup. -/
def checking : Act → Bool
  | .newTicker | .showDetail _ _ | .now | .sendDataNode _ | .sleep | .markAsDone
  | .markAsErrored | .sendDone | .selectForever | .panic => true
  | _ => false

/-- The acts of `UpdateProgress` itself. -/
def looping : Act → Bool
  | .newTicker | .markAsDone | .markAsErrored | .sendDone | .selectForever => true
  | _ => false

theorem updateLoop_emits {σ : Type} {updateF : σ → Go (σ × Bool × Option Err)} {I : σ → Prop}
    (hL : ∀ a, looping a = true → AllowsGo L a)
    (hu : ∀ s, I s → Emits alone (onMain L) (updateF s) (fun x => I x.1)) (n : ℕ) {s : σ}
    (hs : I s) : Emits alone (onMain L) (updateLoop updateF n s) (fun _ => True) := by
  induction n generalizing s with
  | zero => exact emits_goCall (hL _ rfl) (fun e => nomatch e)
  | succ n ih =>
    refine emits_bind (hu s hs) ?_
    rintro ⟨s', finished, err⟩ hs'
    have hdone : Emits alone (onMain L) sendDone (fun _ => True) :=
      emits_goCall (hL _ rfl) (fun e => nomatch e)
    cases err with
    | some err => exact emits_goAct (hL _ rfl) (fun _ => hdone)
    | none =>
      cases finished with
      | true => exact emits_goAct (hL _ rfl) (fun _ => hdone)
      | false => exact ih hs'

/-- What every look keeps of the state of the task, and allows, `UpdateProgress` allows. -/
theorem updateProgress_emits {σ : Type} {updateF : σ → Go (σ × Bool × Option Err)} {I : σ → Prop}
    (hL : ∀ a, looping a = true → AllowsGo L a)
    (hu : ∀ s, I s → Emits alone (onMain L) (updateF s) (fun x => I x.1)) {s : σ} (hs : I s) :
    Emits alone (onMain L) (updateProgress updateF s) (fun _ => True) :=
  emits_goAct (hL _ rfl) (fun ticks => updateLoop_emits hL hu ticks hs)

theorem checking_of_looping {a : Act} (ha : looping a = true) : checking a = true := by
  cases a <;> first | rfl | cases ha

def Same (dn dn' : DataNode) : Prop := dn'.ip = dn.ip ∧ dn'.backupID = dn.backupID

section Task

variable {dn : DataNode} (hnow : AllowsGo L .now) (hsleep : AllowsGo L .sleep)
  (hsend : ∀ dn', Same dn dn' → AllowsGo L (.sendDataNode dn'))

include hnow hsend in
theorem noteDetail_emits {dn' : DataNode} (hdn : Same dn dn') (retries : ℕ) (backup : BackupInfo) :
    Emits alone (onMain L) (noteDetail retries dn' backup) (fun x => Same dn x.1.2) := by
  refine emits_goAct hnow (fun endTime => ?_)
  dsimp only
  split
  · exact emits_goAct (hsend _ hdn) (fun _ => hdn)
  · exact hdn

include hnow hsleep hsend in
/-- A look asks the agent of the node about its backup, and keeps the data node
the same. -/
theorem checkBackupProgress_emits (f : Flags) (sn : StorageNode)
    (hreq : ∀ x : ShowDetailIn, x.dnBackupID = dn.backupID →
      AllowsGo L (.showDetail (agentAddr f sn) x))
    {dn' : DataNode} (hdn : Same dn dn') (retries : ℕ) :
    Emits alone (onMain L) (checkBackupProgress f sn retries dn') (fun x => Same dn x.1.2) := by
  induction retries with
  | zero =>
    rw [checkBackupProgress]
    refine emits_goAct (hreq _ hdn.2) (fun r => ?_)
    cases r with
    | error err => exact emits_goAct (hsend _ hdn) (fun _ => hdn)
    | ok backup => exact noteDetail_emits hnow hsend hdn 0 backup
  | succ retries ih =>
    rw [checkBackupProgress]
    refine emits_goAct (hreq _ hdn.2) (fun r => ?_)
    cases r with
    | error err => exact emits_goAct hsleep (fun _ => ih)
    | ok backup => exact noteDetail_emits hnow hsend hdn (retries + 1) backup

include hnow hsleep hsend in
theorem backupTask_found_emits (f : Flags) {dns : String → Option DataNode} (sn : StorageNode)
    (hloop : ∀ a, looping a = true → AllowsGo L a)
    (hreq : ∀ x : ShowDetailIn, x.dnBackupID = dn.backupID →
      AllowsGo L (.showDetail (agentAddr f sn) x)) (hdn : dns sn.ip = some dn) :
    Emits alone (onMain L) (backupTask f dns sn) (fun _ => True) := by
  simp only [backupTask, hdn]
  refine updateProgress_emits (I := fun t : ℕ × DataNode => Same dn t.2) hloop
    (fun t ht => ?_) ⟨rfl, rfl⟩
  exact checkBackupProgress_emits hnow hsleep hsend f sn hreq ht t.1

end Task

theorem backupTask_emits (f : Flags) (dns : String → Option DataNode) (sn : StorageNode)
    (hL : ∀ a, checking a = true → AllowsGo L a) :
    Emits alone (onMain L) (backupTask f dns sn) (fun _ => True) := by
  have hloop : ∀ a, looping a = true → AllowsGo L a := fun a ha => hL a (checking_of_looping ha)
  cases hdn : dns sn.ip with
  | some dn =>
    exact backupTask_found_emits (hL _ rfl) (hL _ rfl) (fun _ _ => hL _ rfl) f sn hloop
      (fun _ _ => hL _ rfl) hdn
  | none =>
    simp only [backupTask, hdn]
    refine updateProgress_emits (I := fun _ => True) hloop (fun _ _ => ?_) trivial
    exact emits_goCall (hL _ rfl) (fun e => nomatch e)

def finalStatus (dnResult : List DataNode) : BackupStatus :=
  if dnResult.all (fun dn => decide (dn.status = ssBackupStatusCompleted))
  then ssBackupStatusCompleted else ssBackupStatusFailed

/-- The record and the status that `checkBackupStatus` returns. -/
def StatusChecked (pk : Packages) (f : Flags) (lsBackup : LsBackup) (x : LsBackup × BackupStatus) :
    Prop :=
  (∃ ss, lsBackup.ssBackup = some ss ∧ ss.storageNodes = [] ∧
      x = (lsBackup, ssBackupStatusCanceled)) ∨
    ∃ ss info dnResult log, lsBackup.ssBackup = some ss ∧
      (sem pk).returns (.goRender .dataNode lsBackup.dnList.length
        (ss.storageNodes.map (backupTask f (dataNodeMap lsBackup.dnList)))) dnResult log ∧
      x = (⟨some info, dnResult, some { ss with status := finalStatus dnResult }⟩,
        finalStatus dnResult)

theorem checkBackupStatus_emits (f : Flags) (lsBackup : LsBackup)
    (hpanic : Allows P .panic) (hnow : Allows P .now)
    (hmain : ∀ cap ws, P (.main (.issue (.goRender .dataNode cap ws))) ∧
      ∀ r, P (.main (.reply (.goRender .dataNode cap ws) r)))
    (hsub : ∀ i l, L l → P (.sub (i, l))) (hL : ∀ a, checking a = true → AllowsGo L a) :
    Emits (sem pk) P (checkBackupStatus f lsBackup) (StatusChecked pk f lsBackup) := by
  refine emits_bind (deref_emits hpanic lsBackup.ssBackup) (fun ss hss => ?_)
  dsimp only
  split
  · next hnil => exact Or.inl ⟨ss, hss, hnil, rfl⟩
  · have htasks : ∀ p ∈ ss.storageNodes.map (backupTask f (dataNodeMap lsBackup.dnList)),
        Emits alone (onMain L) p (fun _ => True) := by
      intro p hp
      obtain ⟨sn, -, rfl⟩ := List.mem_map.mp hp
      exact backupTask_emits f _ sn hL
    refine ⟨(hmain _ _).1, ?_, ?_⟩
    · rintro is ⟨us, hp⟩ x hx
      exact hsub _ _ (path_emits hp htasks x hx)
    · intro dnResult is hret
      have hpath := hret.choose_spec.1
      refine ⟨(hmain _ _).2 dnResult, fun x hx => hsub _ _ (path_emits hpath htasks x hx), ?_⟩
      change Emits (sem pk) P (deref lsBackup.info >>= _) _
      refine emits_bind (deref_emits hpanic lsBackup.info) (fun info _ => ?_)
      exact emits_act hnow (fun _ => Or.inr ⟨ss, _, dnResult, is, hss, hret, rfl⟩)

/-- The acts of the goroutines that delete the files of a failed backup, and of
the main goroutine beside them. -/
def deleting : Act → Bool
  | .appendTracker | .deleteBackup _ _ | .sendDeleteResult _ | .markAsDone | .markAsErrored
  | .osRemove _ => true
  | _ => false

theorem doDelete_emits (f : Flags) (sn : StorageNode) (dn : DataNode)
    (hL : ∀ a, deleting a = true → (∀ name, a ≠ .osRemove name) → AllowsGo L a) :
    Emits alone (onMain L) (doDelete f sn dn) (fun _ => True) := by
  refine emits_goAct (hL _ rfl nofun) (fun _ => emits_goAct (hL _ rfl nofun) (fun err => ?_))
  cases err with
  | some err =>
    exact emits_goAct (hL _ rfl nofun) (fun _ => emits_goCall (hL _ rfl nofun) (fun _ => trivial))
  | none =>
    exact emits_goAct (hL _ rfl nofun) (fun _ => emits_goCall (hL _ rfl nofun) (fun _ => trivial))

theorem removeRecord_emits {filename : String} (hremove : AllowsGo L (.osRemove filename)) :
    Emits alone (onMain L) (removeRecord filename) (fun _ => True) := by
  refine emits_goAct hremove (fun r => ?_)
  cases r <;> trivial

theorem deleteTasks_emits (f : Flags) (dns : String → Option DataNode) (sns : List StorageNode)
    {filename : String} (hremove : AllowsGo L (.osRemove filename))
    (hL : ∀ a, deleting a = true → (∀ name, a ≠ .osRemove name) → AllowsGo L a) :
    ∀ p ∈ removeRecord filename :: deleteTasks f dns sns,
      Emits alone (onMain L) p (fun _ => True) := by
  intro p hp
  rcases List.mem_cons.mp hp with rfl | hp
  · exact removeRecord_emits hremove
  · obtain ⟨sn, -, hsn⟩ := List.mem_filterMap.mp hp
    obtain ⟨dn, -, rfl⟩ := Option.map_eq_some_iff.mp hsn
    exact doDelete_emits f sn dn hL

/-- The cleanup of a failed backup in terms of what `P` and `L` allow. -/
theorem deleteBackupFiles_emits (f : Flags) (filename : String) (lsBackup : LsBackup)
    (hpanic : Allows P .panic)
    (hmain : ∀ cap ws rest, P (.main (.issue (.goDetach .deleteResult cap ws rest))) ∧
      ∀ r, P (.main (.reply (.goDetach .deleteResult cap ws rest) r)))
    (hsub : ∀ i l, L l → P (.sub (i, l))) (hL : ∀ a, deleting a = true → AllowsGo L a) :
    Emits (sem pk) P (deleteBackupFiles f filename lsBackup .quiet) (fun _ => True) := by
  refine emits_bind (deref_emits hpanic lsBackup.ssBackup) (fun ss _ => ?_)
  have htasks := deleteTasks_emits f (dataNodeMap lsBackup.dnList) ss.storageNodes
    (hL (.osRemove filename) rfl) (fun a ha _ => hL a ha)
  dsimp only
  split
  · trivial
  · refine ⟨(hmain _ _ _).1, ?_, ?_⟩
    · rintro is ⟨us, hp⟩ x hx
      exact hsub _ _ (path_emits hp htasks x hx)
    · rintro r is ⟨us, hp, -⟩
      exact ⟨(hmain _ _ _).2 r, fun x hx => hsub _ _ (path_emits hp htasks x hx), trivial⟩

section Steps

variable (hmain : ∀ l, P (.main l)) (hsub : ∀ i l, L l → P (.sub (i, l)))
  (hask : ∀ a, asking a = true → AllowsGo L a) (hcheck : ∀ a, checking a = true → AllowsGo L a)

include hmain in
theorem allows_main (a : Act) : Allows P a := ⟨hmain _, fun _ => hmain _⟩

include hmain hsub hcheck in
theorem backupTail_emits (f : Flags) (filename : String) (lsBackup : LsBackup) :
    Emits (sem pk) P (backupTail f filename lsBackup) (fun _ => True) := by
  have hP := allows_main hmain
  refine emits_bind (writeByJSON_emits f filename lsBackup (hP _) (hP _)) (fun err _ => ?_)
  cases err with
  | some e => trivial
  | none =>
    refine emits_bind (checkBackupStatus_emits f lsBackup (hP _) (hP _)
      (fun _ _ => ⟨hmain _, fun _ => hmain _⟩) hsub hcheck) (fun x _ => ?_)
    dsimp only
    split
    · trivial
    · refine emits_bind (writeByJSON_emits f filename x.1 (hP _) (hP _)) (fun err _ => ?_)
      cases err <;> trivial

include hmain hsub hask hcheck in
/-- `backup` up to its deferred function in terms of what its goroutines do. -/
theorem backupSteps_emits (f : Flags) (filename : String) :
    Emits (sem pk) P (backupSteps f filename) (fun _ => True) := by
  have hP := allows_main hmain
  refine emits_act (hP _) (fun err => ?_)
  cases err with
  | some e => trivial
  | none =>
    refine emits_bind (exportData_emits f filename (fun _ _ => hP _) (fun _ _ _ => hP _)) ?_
    rintro ⟨filename, err | lsBackup⟩ -
    · trivial
    · refine emits_bind (checkAgentServerStatus_emits f (hP _) (fun _ _ => hP _) lsBackup) ?_
      rintro (_ | _) -
      · trivial
      · refine emits_bind (checkDiskSpace_emits f (hP _) (fun _ _ => hP _) lsBackup) ?_
        rintro _ rfl
        refine emits_act (hP _) (fun err => ?_)
        cases err with
        | some e => trivial
        | none =>
          refine emits_bind (execBackup_emits f lsBackup (hP _)
            (fun _ _ => ⟨hmain _, fun _ => hmain _⟩) hsub hask) ?_
          rintro ⟨lsBackup, _ | e⟩ -
          · refine emits_act (hP _) (fun err => ?_)
            cases err with
            | some e => trivial
            | none => exact backupTail_emits hmain hsub hcheck f filename lsBackup
          · trivial

end Steps

end ShardingOnCloud.Pitr.BackupSpec
