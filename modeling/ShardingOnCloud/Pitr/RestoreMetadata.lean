import ShardingOnCloud.Pitr.RestoreRuns

namespace ShardingOnCloud.Pitr.RestoreMetadata

open ShardingOnCloud.Lib.Program ShardingOnCloud.Lib.Assertions ShardingOnCloud.Lib.Pool
open ShardingOnCloud.Pitr.Model ShardingOnCloud.Pitr.Calls ShardingOnCloud.Pitr.Backup
open ShardingOnCloud.Pitr.BackupSpec ShardingOnCloud.Pitr.BackupRuns ShardingOnCloud.Pitr.Restore
open ShardingOnCloud.Pitr.RestoreSpec ShardingOnCloud.Pitr.RestoreRuns

/-- The run has found `bak` as the record to restore. -/
def Selected (pk : Packages) (f : Flags) (evs : List Ev) (bak : LsBackup) : Prop :=
  ∃ a b, evs = a ++ b ∧ Run (sem pk) (findRecord f) a (.ok bak)

theorem selected_unique {pk : Packages} {f : Flags} {evs : List Ev} {bak bak' : LsBackup}
    (h : Selected pk f evs bak) (h' : Selected pk f evs bak') : bak = bak' := by
  obtain ⟨a, b, rfl, hrun⟩ := h
  obtain ⟨a', b', heq, hrun'⟩ := h'
  have hres := hrun.unique hrun' heq
  cases hres
  rfl

/-- A statement is issued that changes the metadata of the proxy. -/
def Changes : Ev → Prop
  | .main (.issue (.act (.exec (.dropDatabase _)))) => True
  | .main (.issue (.act (.exec (.importMetaData _)))) => True
  | _ => False

/-- The agent of the node was sent a `Restore` request, which succeeded. -/
def Restored (f : Flags) (evs : List Ev) (sn : StorageNode) : Prop :=
  ∃ i x, .sub (i, .issue (.restore (agentAddr f sn) x)) ∈ evs ∧
    .sub (i, .reply (.restore (agentAddr f sn) x) none) ∈ evs

/-- No `Restore` request is pending and none has failed. -/
def AllSucceeded (evs : List Ev) : Prop :=
  (∀ i addr x, .sub (i, .issue (.restore addr x)) ∈ evs →
      .sub (i, .reply (.restore addr x) none) ∈ evs) ∧
    ∀ i addr x r, .sub (i, .reply (.restore addr x) r) ∈ evs → r = none

variable {pk : Packages}

theorem restoreTasks_length {f : Flags} {dns : String → Option DataNode} {sns : List StorageNode}
    {tasks : List (Go Unit)} (h : restoreTasks f dns sns = (tasks, true)) :
    tasks.length = sns.length := by
  induction sns generalizing tasks with
  | nil =>
    cases h
    rfl
  | cons sn sns ih =>
    rw [restoreTasks] at h
    cases hdn : dns sn.ip with
    | none => simp [hdn] at h
    | some dn =>
      rw [hdn, Prod.mk.injEq] at h
      obtain ⟨rfl, hall⟩ := h
      simpa using ih (Prod.ext rfl hall)

theorem restoreTasks_get {f : Flags} {dns : String → Option DataNode} {sns : List StorageNode}
    {tasks : List (Go Unit)} (h : restoreTasks f dns sns = (tasks, true)) {i : ℕ}
    {sn : StorageNode} (hi : sns[i]? = some sn) :
    ∃ dn, dns sn.ip = some dn ∧ tasks[i]? = some (restoreTask f sn dn) := by
  induction sns generalizing tasks i with
  | nil => cases hi
  | cons sn' sns ih =>
    rw [restoreTasks] at h
    cases hdn : dns sn'.ip with
    | none => simp [hdn] at h
    | some dn =>
      rw [hdn, Prod.mk.injEq] at h
      obtain ⟨rfl, hall⟩ := h
      cases i with
      | zero =>
        cases hi
        exact ⟨dn, hdn, rfl⟩
      | succ i => exact ih (Prod.ext rfl hall) hi

/-- `execRestore` succeeds only after its fan-out over all storage nodes. -/
theorem execRestore_run {f : Flags} {bak : LsBackup} {tr : List Ev}
    (h : Run (sem pk) (execRestore f bak) tr none) :
    ∃ ss tasks rs log, bak.ssBackup = some ss ∧
      restoreTasks f (dataNodeMap bak.dnList) ss.storageNodes = (tasks, true) ∧
      (sem pk).returns (.goRender .restoreResult ss.storageNodes.length tasks) rs log ∧
      (∀ r ∈ rs, r.status = "Completed") ∧
      tr = whole (Call.goRender .restoreResult ss.storageNodes.length tasks) rs log := by
  obtain ⟨tr₁, ss, tr₂, hderef, hrest, rfl⟩ := run_bind.mp h
  obtain ⟨rfl, hss⟩ := run_deref hderef
  dsimp only at hrest
  split at hrest
  · obtain ⟨tr₃, info, tr₄, -, hret, -⟩ := run_bind.mp hrest
    cases (run_ret.mp hret).2
  · split at hrest
    · obtain ⟨r, -⟩ := run_call.mp hrest
      cases r
    · next tasks htasks =>
      obtain ⟨rs, log, tr₃, hret, hif, rfl⟩ := run_call.mp hrest
      change Run (sem pk) (if _ then _ else _) _ _ at hif
      split at hif
      · next hall =>
        obtain ⟨rfl, -⟩ := run_ret.mp hif
        refine ⟨ss, tasks, rs, log, hss, htasks, hret, ?_, by simp⟩
        simpa using hall
      · cases (run_ret.mp hif).2

/-- Each goroutine of a fan-out that the renderer has let pass has finished
without an error. -/
theorem fanOut_finished {f : Flags} {dns : String → Option DataNode} {sns : List StorageNode}
    {tasks : List (Go Unit)} (ht : restoreTasks f dns sns = (tasks, true))
    {rs : List RestoreResult} {log : Log}
    (hret : (sem pk).returns (.goRender .restoreResult sns.length tasks) rs log)
    (hrs : ∀ r ∈ rs, r.status = "Completed") {i : ℕ} {sn : StorageNode}
    (hi : sns[i]? = some sn) : ∃ backupID, Finished f sn backupID none (own i log) := by
  obtain ⟨us, hpath, hstop, rfl⟩ := hret
  obtain ⟨dn, hdn, htask⟩ := restoreTasks_get ht hi
  have hlt : i < tasks.length := (List.getElem?_eq_some_iff.mp htask).1
  have hmarked : (own i log).any marks = true := by
    refine pk.renderer.all_done _ hstop _ ?_
    exact List.mem_map.mpr ⟨i, List.mem_range.mpr hlt, rfl⟩
  obtain ⟨u, -, hown⟩ := path_program hpath htask
  obtain ⟨err, hfin⟩ := restoreTask_finished hown hmarked
  have hsent : restoreResult sn err ∈ contents .restoreResult log :=
    mem_contents.mpr ⟨i, _, mem_own.mp hfin.sent, rfl⟩
  obtain rfl := restoreResult_completed (hrs _ hsent)
  exact ⟨dn.backupID, hfin⟩

theorem sub_mem_whole {c : Call} {r : Reply c} {log : Log} {i : ℕ} {l : Label Act ActR} :
    Event.sub (i, l) ∈ whole c r log ↔ l ∈ own i log := by
  rw [mem_own]
  constructor
  · intro h
    obtain h | ⟨x, hx, h⟩ | h := mem_whole.mp h
    · cases h
    · cases h
      exact hx
    · cases h
  · intro h
    exact mem_whole.mpr (Or.inr (Or.inl ⟨_, h, rfl⟩))

theorem execRestore_complete {f : Flags} {bak : LsBackup} {tr : List Ev}
    (h : Run (sem pk) (execRestore f bak) tr none) :
    ∃ ss, bak.ssBackup = some ss ∧ (∀ sn ∈ ss.storageNodes, Restored f tr sn) ∧
      AllSucceeded tr := by
  obtain ⟨ss, tasks, rs, log, hss, htasks, hret, hrs, rfl⟩ := execRestore_run h
  -- the goroutine behind an event of the fan-out
  have hthread : ∀ i l, l ∈ own i log →
      ∃ sn backupID, Finished f sn backupID none (own i log) := by
    intro i l hl
    have hlt := path_index hret.choose_spec.1 (mem_own.mp hl)
    rw [start, List.length_map, restoreTasks_length htasks] at hlt
    exact ⟨_, fanOut_finished htasks hret hrs (List.getElem?_eq_getElem hlt)⟩
  refine ⟨ss, hss, ?_, ?_, ?_⟩
  · intro sn hsn
    obtain ⟨i, hi⟩ := List.getElem?_of_mem hsn
    obtain ⟨backupID, hfin⟩ := fanOut_finished htasks hret hrs hi
    exact ⟨i, _, sub_mem_whole.mpr hfin.asked, sub_mem_whole.mpr hfin.answer⟩
  · intro i addr x hx
    have hx' := sub_mem_whole.mp hx
    obtain ⟨sn, backupID, hfin⟩ := hthread i _ hx'
    cases hfin.once addr x hx'
    exact sub_mem_whole.mpr hfin.answer
  · intro i addr x r hx
    have hx' := sub_mem_whole.mp hx
    obtain ⟨sn, backupID, hfin⟩ := hthread i _ hx'
    exact hfin.only addr x r hx'

theorem looking_unchanged (a : Act) (ha : looking a = true) : Allows (fun e => ¬Changes e) a := by
  refine ⟨?_, fun r => id⟩
  cases a <;> first | exact id | cases ha

theorem findRecord_unchanged (f : Flags) :
    Emits (sem pk) (fun e => ¬Changes e) (findRecord f) (fun _ => True) :=
  findRecord_emits f looking_unchanged

theorem restoreData_unchanged (f : Flags) (names : List String) (bak : LsBackup) :
    Emits (sem pk) (fun e => ¬Changes e) (restoreData f names bak) (fun _ => True) :=
  restoreData_emits looking_unchanged ⟨id, fun _ => id⟩ f names
    (execRestore_emits (L := fun _ => True) looking_unchanged (fun _ _ => ⟨id, fun _ => id⟩)
      (fun _ _ => id) (fun _ _ _ => id) (fun _ _ => ⟨trivial, fun _ => trivial⟩) f bak)

/-- The events of the main goroutine other than the answer to `ExportMetaData`. -/
def Aside : Ev → Prop
  | .main (.reply (.act .exportMetaData) _) => False
  | .main _ => True
  | .sub _ => False

theorem allows_aside {a : Act} (ha : a ≠ .exportMetaData) : Allows Aside a := by
  refine ⟨trivial, fun r => ?_⟩
  cases a <;> trivial

theorem looking_aside (a : Act) (ha : looking a = true) : Allows Aside a := by
  refine allows_aside ?_
  rintro rfl
  cases ha

theorem findRecord_aside (f : Flags) :
    Emits (sem pk) Aside (findRecord f) (fun _ => True) := findRecord_emits f looking_aside

theorem restoreDataToSSProxy_aside (names : List String) (bak : LsBackup) :
    Emits (sem pk) Aside (restoreDataToSSProxy names bak) (fun _ => True) :=
  restoreDataToSSProxy_emits (allows_aside nofun) (fun _ => allows_aside nofun) names bak

/-- `restoreData` hands on the names that it was given and those of the proxy, after
`execRestore` has succeeded. -/
theorem restoreData_run {f : Flags} {names names' : List String} {bak : LsBackup} {tr : List Ev}
    (h : Run (sem pk) (restoreData f names bak) tr (.ok names')) :
    ∃ cluster tr₁ tr₂, names' = names ++ cluster.metaData.databases.keys ∧
      (∀ e ∈ tr₁, Aside e) ∧ Run (sem pk) (execRestore f bak) tr₂ none ∧
      tr = did .exportMetaData (.ok cluster) ++ (tr₁ ++ tr₂) := by
  obtain ⟨tr₁, r, tr₂, hexist, h₁, rfl⟩ := run_bind.mp h
  obtain ⟨res, tr₃, hret, rfl⟩ := run_act_inv hexist
  cases res with
  | error err =>
    obtain ⟨rfl, rfl⟩ := run_ret.mp hret
    cases (run_ret.mp h₁).2
  | ok cluster =>
    obtain ⟨rfl, rfl⟩ := run_ret.mp hret
    obtain ⟨err, tr₄, h₂, rfl⟩ := run_act_inv h₁
    cases err with
    | some err => cases (run_ret.mp h₂).2
    | none =>
      change Run (sem pk) (checkAgentServerStatus f bak >>= _) _ _ at h₂
      obtain ⟨tr₅, available, tr₆, hstatus, h₃, rfl⟩ := run_bind.mp h₂
      cases available with
      | false => cases (run_ret.mp h₃).2
      | true =>
        obtain ⟨tr₇, err, tr₈, hexec, h₄, rfl⟩ := run_bind.mp h₃
        cases err with
        | some err => cases (run_ret.mp h₄).2
        | none =>
          obtain ⟨rfl, hnames⟩ := run_ret.mp h₄
          cases hnames
          have hquiet := (checkAgentServerStatus_emits f (looking_aside _ rfl)
            (fun _ _ => looking_aside _ rfl) bak).cut hstatus.cut
          refine ⟨cluster,
            did (.getUserApprove (restorePrompt (names ++ cluster.metaData.databases.keys))) none ++
              tr₅, tr₇, rfl, ?_, hexec, by simp⟩
          intro e he
          rcases List.mem_append.mp he with he | he
          · obtain rfl | ⟨x, hx, rfl⟩ | rfl := mem_whole.mp he
            · trivial
            · cases hx
            · trivial
          · exact hquiet e he

def NoSub (evs : List Ev) : Prop := ∀ x, Event.sub x ∉ evs

theorem noSub_of_aside {evs : List Ev} (h : ∀ e ∈ evs, Aside e) : NoSub evs := fun _ hm => h _ hm

theorem noSub_did (a : Act) (r : ActR a) : NoSub (did a r) := by
  intro x hx
  simp [did, whole] at hx

theorem NoSub.append {as bs : List Ev} (ha : NoSub as) (hb : NoSub bs) : NoSub (as ++ bs) := by
  intro x hx
  rcases List.mem_append.mp hx with hx | hx
  · exact ha x hx
  · exact hb x hx

theorem sub_mem_between {as bs cs : List Ev} (ha : NoSub as) (hc : NoSub cs)
    {x : ℕ × Label Act ActR} : Event.sub x ∈ as ++ bs ++ cs ↔ Event.sub x ∈ bs := by
  simp [ha x, hc x]

theorem allSucceeded_between {as bs cs : List Ev} (ha : NoSub as) (hc : NoSub cs)
    (h : AllSucceeded bs) : AllSucceeded (as ++ bs ++ cs) := by
  constructor
  · intro i addr x hx
    rw [sub_mem_between ha hc] at hx ⊢
    exact h.1 i addr x hx
  · intro i addr x r hx
    rw [sub_mem_between ha hc] at hx
    exact h.2 i addr x r hx

theorem Restored.mono {f : Flags} {evs evs' : List Ev} {sn : StorageNode} (h : Restored f evs sn)
    (hsub : ∀ e ∈ evs, e ∈ evs') : Restored f evs' sn := by
  obtain ⟨i, x, h₁, h₂⟩ := h
  exact ⟨i, x, hsub _ h₁, hsub _ h₂⟩

/-- A run of `restore` that changes the metadata has found a record and restored
its data before. -/
theorem restore_changes {f : Flags} {names : List String} {evs : List Ev} {e : Ev}
    (h : Cut (sem pk) (restore f names) evs) (hm : e ∈ evs) (he : Changes e) :
    ∃ tr₁ tr₂ tr₃ bak names', evs = tr₁ ++ tr₂ ++ tr₃ ∧ (∀ e ∈ tr₁ ++ tr₂, ¬Changes e) ∧
      Run (sem pk) (findRecord f) tr₁ (.ok bak) ∧
      Run (sem pk) (restoreData f names bak) tr₂ (.ok names') ∧
      Cut (sem pk) (restoreDataToSSProxy names' bak) tr₃ := by
  obtain hcut | ⟨tr₁, r, tr', hfind, hrest, rfl⟩ := cut_bind h
  · exact absurd he ((findRecord_unchanged f).cut hcut e hm)
  have h₁ := (findRecord_unchanged f).cut hfind.cut
  have hm' : e ∈ tr' := (List.mem_append.mp hm).resolve_left (fun hm => h₁ e hm he)
  cases r with
  | error err =>
    cases hrest with
    | here => cases hm'
  | ok bak =>
    obtain hcut | ⟨tr₂, r, tr'', hdata, hrest, rfl⟩ := cut_bind hrest
    · exact absurd he ((restoreData_unchanged f names bak).cut hcut e hm')
    have h₂ := (restoreData_unchanged f names bak).cut hdata.cut
    have hm'' : e ∈ tr'' := (List.mem_append.mp hm').resolve_left (fun hm => h₂ e hm he)
    cases r with
    | error err =>
      cases hrest with
      | here => cases hm''
    | ok names' =>
      have hbefore : ∀ e ∈ tr₁ ++ tr₂, ¬Changes e := by
        intro e he
        rcases List.mem_append.mp he with he | he
        · exact h₁ e he
        · exact h₂ e he
      obtain hcut | ⟨tr₃, err, tr₄, hproxy, hret, rfl⟩ := cut_bind hrest
      · exact ⟨tr₁, tr₂, tr'', bak, names', by simp, hbefore, hfind, hdata, hcut⟩
      · cases hret with
        | here => exact ⟨tr₁, tr₂, tr₃, bak, names', by simp, hbefore, hfind, hdata, hproxy.cut⟩

/-- `restore` changes the metadata of the proxy only after every storage node of
the record was sent a `Restore` request and all of these have succeeded. -/
theorem restore_changes_metadata_last {pk : Packages} {f : Flags} {names : List String}
    {evs pre post : List Ev} {e : Ev} (h : Cut (sem pk) (restore f names) evs)
    (hevs : evs = pre ++ e :: post) (he : Changes e) :
    ∃ bak ss, Selected pk f pre bak ∧ bak.ssBackup = some ss ∧
      (∀ sn ∈ ss.storageNodes, Restored f pre sn) ∧ AllSucceeded pre := by
  obtain ⟨tr₁, tr₂, tr₃, bak, names', rfl, hbefore, hfind, hdata, hproxy⟩ :=
    restore_changes h (by simp [hevs]) he
  obtain ⟨c, rfl, rfl⟩ := split_after hevs (fun hm => hbefore e hm he)
  obtain ⟨cluster, tr₄, tr₅, -, haside, hexec, rfl⟩ := restoreData_run hdata
  obtain ⟨ss, hss, hall, hsucc⟩ := execRestore_complete hexec
  have hfirst : NoSub (tr₁ ++ (did .exportMetaData (.ok cluster) ++ tr₄)) :=
    (noSub_of_aside ((findRecord_aside f).cut hfind.cut)).append
      ((noSub_did _ _).append (noSub_of_aside haside))
  have hlast : NoSub c := by
    intro x hx
    have hproxy' := (restoreDataToSSProxy_aside names' bak).cut hproxy
    exact hproxy' _ (List.mem_append_left _ hx)
  have heq : tr₁ ++ (did .exportMetaData (.ok cluster) ++ (tr₄ ++ tr₅)) ++ c =
      tr₁ ++ (did .exportMetaData (.ok cluster) ++ tr₄) ++ tr₅ ++ c := by
    simp only [List.append_assoc]
  have hsel : Selected pk f (tr₁ ++ (did .exportMetaData (.ok cluster) ++ (tr₄ ++ tr₅)) ++ c) bak :=
    ⟨tr₁, _, List.append_assoc _ _ _, hfind⟩
  rw [heq] at hsel ⊢
  refine ⟨bak, ss, hsel, hss, ?_, ?_⟩
  · intro sn hsn
    exact (hall sn hsn).mono (fun e he => by simp [he])
  · exact allSucceeded_between hfirst hlast hsucc

theorem restored_changes_metadata_last :
    ∃ bak ss, Selected .documented .sample (looked ++ restoredData sampleCluster) bak ∧
      bak.ssBackup = some ss ∧
      (∀ sn ∈ ss.storageNodes, Restored .sample (looked ++ restoredData sampleCluster) sn) ∧
      AllSucceeded (looked ++ restoredData sampleCluster) := by
  have hsplit : restored sampleCluster = looked ++ restoredData sampleCluster ++
      .main (.issue (.act (.exec (.dropDatabase "sharding_db")))) ::
        (restored sampleCluster).drop ((looked ++ restoredData sampleCluster).length + 1) := rfl
  exact restore_changes_metadata_last (restored_run sampleCluster).cut hsplit trivial

/-- The database that a `DropDatabase` is issued for. -/
def dropped : Ev → Option String
  | .main (.issue (.act (.exec (.dropDatabase name)))) => some name
  | _ => none

def drops (evs : List Ev) : List String := evs.filterMap dropped

/-- The databases dropped are those that are both in the proxy and in the record,
each once. -/
def DropsExactly (evs : List Ev) (clusterNow record : ClusterInfo) : Prop :=
  (drops evs).Nodup ∧ ∀ name, name ∈ drops evs ↔
    name ∈ clusterNow.metaData.databases.keys ∧ name ∈ record.metaData.databases.keys

theorem drops_append (as bs : List Ev) : drops (as ++ bs) = drops as ++ drops bs :=
  List.filterMap_append

theorem drops_unchanged {evs : List Ev} (h : ∀ e ∈ evs, ¬Changes e) : drops evs = [] := by
  rw [drops, List.filterMap_eq_nil_iff]
  intro e he
  unfold dropped
  split
  · exact absurd trivial (h _ he)
  · rfl

theorem dropDatabases_run {names : List String} {tr : List Ev}
    (h : Run (sem pk) (dropDatabases names) tr none) : drops tr = names := by
  induction names generalizing tr with
  | nil =>
    obtain ⟨rfl, -⟩ := run_ret.mp h
    rfl
  | cons name names ih =>
    obtain ⟨err, tr', h', rfl⟩ := run_act_inv h
    cases err with
    | some err => cases (run_ret.mp h').2
    | none =>
      rw [drops_append, ih h']
      rfl

def imports : Ev → Prop
  | .main (.issue (.act (.exec (.importMetaData _)))) => True
  | _ => False

theorem dropDatabases_imports (names : List String) :
    Emits (sem pk) (fun e => ¬imports e) (dropDatabases names) (fun _ => True) :=
  dropDatabases_emits (fun _ => ⟨id, fun _ => id⟩) names

theorem importRecord_emits (bak : LsBackup) :
    Emits (sem pk) (fun e => dropped e = none ∧
      ∀ c, e = .main (.issue (.act (.exec (.importMetaData c)))) →
        ∃ ss, bak.ssBackup = some ss ∧ ss.clusterInfo = some c) (importRecord bak)
      (fun _ => True) := by
  refine emits_bind (deref_emits ⟨⟨rfl, nofun⟩, fun e => nomatch e⟩ _) (fun ss hss => ?_)
  cases hc : ss.clusterInfo with
  | none => trivial
  | some c =>
    refine emits_act ⟨⟨rfl, fun c' h => ?_⟩, fun r => ⟨rfl, nofun⟩⟩ (fun err => ?_)
    · cases h
      exact ⟨ss, hss, hc⟩
    · cases err <;> trivial

/-- When the metadata is imported, all the databases have been dropped, and it is
the metadata of the record. -/
theorem restoreDataToSSProxy_imports {names : List String} {bak : LsBackup} {tr : List Ev}
    {c : ClusterInfo} (h : Cut (sem pk) (restoreDataToSSProxy names bak) tr)
    (hc : .main (.issue (.act (.exec (.importMetaData c)))) ∈ tr) :
    drops tr = names ∧ ∃ ss, bak.ssBackup = some ss ∧ ss.clusterInfo = some c := by
  obtain hcut | ⟨tr₁, err, tr₂, hdrops, hrest, rfl⟩ := cut_bind h
  · exact absurd trivial ((dropDatabases_imports names).cut hcut _ hc)
  have hc' := (List.mem_append.mp hc).resolve_left
    (fun hm => (dropDatabases_imports names).cut hdrops.cut _ hm trivial)
  cases err with
  | some err =>
    cases hrest with
    | here => cases hc'
  | none =>
    have hevents := (importRecord_emits bak).cut hrest
    have hnone : drops tr₂ = [] := List.filterMap_eq_nil_iff.mpr (fun e he => (hevents e he).1)
    rw [drops_append, dropDatabases_run hdrops, hnone, List.append_nil]
    exact ⟨rfl, (hevents _ hc').2 c rfl⟩

/-- The answer to `ExportMetaData` in a run that restores the data. -/
theorem restoreData_export {f : Flags} {names names' : List String} {bak : LsBackup}
    {tr : List Ev} (h : Run (sem pk) (restoreData f names bak) tr (.ok names'))
    {clusterNow : ClusterInfo}
    (hnow : .main (.reply (.act .exportMetaData) (.ok clusterNow)) ∈ tr) :
    names' = names ++ clusterNow.metaData.databases.keys := by
  obtain ⟨cluster, tr₁, tr₂, rfl, haside, hexec, rfl⟩ := restoreData_run h
  obtain ⟨ss, tasks, rs, log, -, -, -, -, rfl⟩ := execRestore_run hexec
  simp only [List.mem_append] at hnow
  rcases hnow with hnow | hnow | hnow
  · have heq : clusterNow = cluster := by simpa [did, whole] using hnow
    rw [heq]
  · exact (haside _ hnow).elim
  · simp [whole] at hnow

/-- When `restore` comes to import the metadata of the record, it has dropped all the
databases of the proxy, so exactly the ones that are replaced if and only if
every database of the proxy is also in the record. -/
theorem restore_drops_exactly_iff {pk : Packages} {f : Flags} {evs : List Ev}
    {clusterNow record : ClusterInfo} (h : Cut (sem pk) (restore f []) evs)
    (hnow : .main (.reply (.act .exportMetaData) (.ok clusterNow)) ∈ evs)
    (himport : .main (.issue (.act (.exec (.importMetaData record)))) ∈ evs) :
    (∃ bak ss, Selected pk f evs bak ∧ bak.ssBackup = some ss ∧ ss.clusterInfo = some record) ∧
      (DropsExactly evs clusterNow record ↔ ∀ name ∈ clusterNow.metaData.databases.keys,
        name ∈ record.metaData.databases.keys) := by
  obtain ⟨tr₁, tr₂, tr₃, bak, names', rfl, hbefore, hfind, hdata, hproxy⟩ :=
    restore_changes h himport trivial
  have himport' := (List.mem_append.mp himport).resolve_left (fun hm => hbefore _ hm trivial)
  obtain ⟨hdrops, ss, hss, hcluster⟩ := restoreDataToSSProxy_imports hproxy himport'
  have hnow' : .main (.reply (.act .exportMetaData) (.ok clusterNow)) ∈ tr₂ := by
    rw [List.mem_append, List.mem_append] at hnow
    rcases hnow with (hnow | hnow) | hnow
    · exact ((findRecord_aside f).cut hfind.cut _ hnow).elim
    · exact hnow
    · exact ((restoreDataToSSProxy_aside names' bak).cut hproxy _ hnow).elim
  obtain rfl := restoreData_export hdata hnow'
  have hall : drops (tr₁ ++ tr₂ ++ tr₃) = clusterNow.metaData.databases.keys := by
    rw [drops_append, drops_unchanged hbefore, hdrops, List.nil_append, List.nil_append]
  refine ⟨⟨bak, ss, ⟨tr₁, _, List.append_assoc _ _ _, hfind⟩, hss, hcluster⟩, ?_⟩
  rw [DropsExactly, hall]
  constructor
  · rintro ⟨-, hiff⟩ name hname
    exact ((hiff name).mp hname).2
  · intro hsub
    refine ⟨clusterNow.metaData.databases.nodup_keys, fun name => ⟨fun hname => ?_, And.left⟩⟩
    exact ⟨hname, hsub name hname⟩

theorem restored_export (now : ClusterInfo) :
    .main (.reply (.act .exportMetaData) (.ok now)) ∈ restored now := by
  simp [restored, restoredData, did, whole]

theorem restored_imports (now : ClusterInfo) :
    .main (.issue (.act (.exec (.importMetaData sampleCluster)))) ∈ restored now := by
  simp [restored, did, whole]

theorem restored_drops_exactly :
    DropsExactly (restored sampleCluster) sampleCluster sampleCluster :=
  (restore_drops_exactly_iff (restored_run sampleCluster).cut (restored_export _)
    (restored_imports _)).2.mpr (fun _ h => h)

/-- The other database of the proxy is dropped although the record does not have it. -/
theorem not_all_restores_drop_exactly :
    ¬∀ (pk : Packages) (f : Flags) (evs : List Ev) (clusterNow record : ClusterInfo),
      Cut (sem pk) (restore f []) evs →
      .main (.reply (.act .exportMetaData) (.ok clusterNow)) ∈ evs →
      .main (.issue (.act (.exec (.importMetaData record)))) ∈ evs →
      DropsExactly evs clusterNow record := by
  intro h
  have hexactly := h _ _ _ _ _ (restored_run crowdedCluster).cut (restored_export _)
    (restored_imports _)
  have hdropped : "other_db" ∈ drops (restored crowdedCluster) := by
    simp [drops, dropped, restored, droppedAll, crowdedCluster, StringMap.keys, did, whole]
  have hrecord := ((hexactly.2 "other_db").mp hdropped).2
  simp [sampleCluster, StringMap.keys] at hrecord

end ShardingOnCloud.Pitr.RestoreMetadata
