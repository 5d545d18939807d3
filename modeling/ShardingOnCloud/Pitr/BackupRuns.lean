import ShardingOnCloud.Pitr.ClusterLock

namespace ShardingOnCloud.Pitr.BackupRuns

open ShardingOnCloud.Lib.Program ShardingOnCloud.Lib.Pool ShardingOnCloud.Pitr.Model
open ShardingOnCloud.Pitr.Calls ShardingOnCloud.Pitr.LocalStorage ShardingOnCloud.Pitr.Backup
open ShardingOnCloud.Pitr.BackupSpec ShardingOnCloud.Pitr.ClusterLock

variable {pk : Packages}

/-- The record that `exportData` makes of a cluster. -/
def waiting (f : Flags) (cluster : ClusterInfo) (nodes : List StorageNode) : LsBackup where
  info := some
    { id := "1", csn := (cluster.snapshotInfo.map (·.csn)).getD "", backupMode := f.backupMode,
      startTime := "", endTime := "", fileName := "" }
  dnList := []
  ssBackup := some
    { status := ssBackupStatusWaiting, clusterInfo := some cluster, storageNodes := nodes }

def recordName : String := "" ++ "_" ++ "" ++ ".json"

theorem recordName_json : hasSuffix recordName ".json" = true := hasSuffix_append _ _

def written (name : String) (contents : LsBackup) : List Ev :=
  did (.osCreate name) none ++ (did (.fileWrite name contents) none ++ [])

theorem writeByJSON_run (f : Flags) {name : String} (hname : hasSuffix name ".json" = true)
    (contents : LsBackup) :
    Run (sem pk) (writeByJSON f name contents) (written name contents) none := by
  rw [writeByJSON, if_pos hname]
  exact run_act (run_act (.ret _))

def exported (f : Flags) (cluster : ClusterInfo) (nodes : List StorageNode) : List Ev :=
  did .exportMetaData (.ok cluster) ++ (did .exportStorageNodes (.ok nodes) ++
    (did .genFilename ("", "") ++ (did .newUUID "1" ++ (did .now "" ++
      (written recordName (waiting f cluster nodes) ++ [])))))

theorem exportData_run (f : Flags) (filename : String) (cluster : ClusterInfo)
    (nodes : List StorageNode) :
    Run (sem pk) (exportData f filename) (exported f cluster nodes)
      (recordName, .ok (waiting f cluster nodes)) := by
  refine run_act (run_act (run_act (run_act (run_act ?_))))
  change Run (sem pk) (writeByJSON f recordName (waiting f cluster nodes) >>= _) _ _
  exact run_bind.mpr ⟨_, _, _, writeByJSON_run f recordName_json (waiting f cluster nodes),
    .ret _, rfl⟩

/-- The steps of `backup` once the data is exported, -/
theorem exporting_run {f : Flags} {filename name : String} {r : LsBackup} {tr₁ tr₂ : List Ev}
    {x : Vars × Option Err} (h₁ : Run (sem pk) (exportData f filename) tr₁ (name, .ok r))
    (h₂ : Run (sem pk) (backupChecks f name r) tr₂ x) :
    Run (sem pk) (backupSteps f filename) (did (.exec .lockForBackup) none ++ (tr₁ ++ tr₂)) x := by
  refine run_act (a := .exec _) (r := none) ?_
  change Run (sem pk) (exportData f filename >>= _) _ _
  exact run_bind.mpr ⟨_, _, _, h₁, h₂, rfl⟩

theorem connecting_run {f : Flags} {filename : String} {rest cleanup : List Ev} {v : Vars}
    {res : Option Err}
    (h : Run (sem pk) (backupSteps f filename) (did (.exec .lockForBackup) none ++ rest) (v, res))
    (hd : Run (sem pk) (deferred f v) cleanup ()) :
    Run (sem pk) (backup f filename) (connecting f none (rest ++ cleanup)) res := by
  have hall : Run (sem pk)
      (backupSteps f filename >>= fun x => deferred f x.1 >>= fun _ => .ret x.2)
      (did (.exec .lockForBackup) none ++ (rest ++ cleanup)) res :=
    run_bind.mpr ⟨_, _, _, h,
      run_bind.mpr ⟨cleanup, (), [], hd, .ret _, (List.append_nil _).symm⟩, by simp⟩
  exact run_act (run_act hall)

/-- Every agent answers the health check, and then the query of its disk space. -/
def checked (f : Flags) : List StorageNode → List Ev
  | [] => []
  | sn :: sns =>
    did (.checkStatus (agentAddr f sn)
      { dbPort := sn.port, dbName := sn.database, username := sn.username,
        password := sn.password }) none ++ checked f sns

def shown (f : Flags) : List StorageNode → List Ev
  | [] => []
  | sn :: sns =>
    did (.showDiskSpace (agentAddr f sn) { diskPath := f.backupPath }) (.ok "") ++ shown f sns

theorem checkStatuses_run (f : Flags) (nodes : List StorageNode) (available : Bool) :
    Run (sem pk) (checkStatuses f nodes available) (checked f nodes) available := by
  induction nodes with
  | nil => exact .ret _
  | cons sn sns ih => exact run_act ih

theorem showDiskSpaces_run (f : Flags) (nodes : List StorageNode) :
    Run (sem pk) (showDiskSpaces f nodes) (shown f nodes) () := by
  induction nodes with
  | nil => exact .ret _
  | cons sn sns ih => exact run_act ih

theorem checkAgentServerStatus_run (f : Flags) (cluster : ClusterInfo) {nodes : List StorageNode}
    (hnodup : (nodes.map (·.ip)).Nodup) :
    Run (sem pk) (checkAgentServerStatus f (waiting f cluster nodes)) (checked f nodes) true := by
  refine run_bind.mpr ⟨[], _, _, .ret _, ?_, rfl⟩
  refine run_bind.mpr ⟨_, true, [], checkStatuses_run f nodes true, ?_, by simp⟩
  rw [if_pos hnodup]
  exact .ret _

theorem checkDiskSpace_run (f : Flags) (cluster : ClusterInfo) (nodes : List StorageNode) :
    Run (sem pk) (checkDiskSpace f (waiting f cluster nodes)) (shown f nodes) none := by
  refine run_bind.mpr ⟨[], _, _, .ret _, ?_, rfl⟩
  exact run_bind.mpr ⟨_, _, [], showDiskSpaces_run f nodes, .ret _, by simp⟩

section Approved

variable {f : Flags} {filename : String} {cluster : ClusterInfo} {nodes : List StorageNode}
  {rest : List Ev}

def approved (f : Flags) (nodes : List StorageNode) (rest : List Ev) : List Ev :=
  checked f nodes ++ (shown f nodes ++ (did (.getUserApprove backupPromptFmt) none ++ rest))

theorem backupChecks_run {x : Vars × Option Err} (hnodup : (nodes.map (·.ip)).Nodup)
    (h : Run (sem pk) (backupCut f recordName (waiting f cluster nodes)) rest x) :
    Run (sem pk) (backupChecks f recordName (waiting f cluster nodes)) (approved f nodes rest)
      x := by
  refine run_bind.mpr ⟨_, true, _, checkAgentServerStatus_run f cluster hnodup, ?_, rfl⟩
  refine run_bind.mpr ⟨_, none, _, checkDiskSpace_run f cluster nodes, ?_, rfl⟩
  exact run_act (a := .getUserApprove _) (r := none) h

theorem backupChecks_cut (hnodup : (nodes.map (·.ip)).Nodup)
    (h : Cut (sem pk) (backupCut f recordName (waiting f cluster nodes)) rest) :
    Cut (sem pk) (backupChecks f recordName (waiting f cluster nodes)) (approved f nodes rest) := by
  refine Run.bind_cut (a := true) (checkAgentServerStatus_run f cluster hnodup) ?_
  refine Run.bind_cut (a := none) (checkDiskSpace_run f cluster nodes) ?_
  exact cut_act (a := .getUserApprove _) (r := none) h

theorem approved_append (cleanup : List Ev) :
    approved f nodes rest ++ cleanup = approved f nodes (rest ++ cleanup) := by
  simp only [approved, List.append_assoc]

/-- The events of a run that comes to Step 5. -/
def approving (f : Flags) (cluster : ClusterInfo) (nodes : List StorageNode) (rest : List Ev) :
    List Ev :=
  connecting f none (exported f cluster nodes ++ approved f nodes rest)

/-- For every list of nodes on different hosts there are runs that come to Step 5, -/
theorem approving_cut (hnodup : (nodes.map (·.ip)).Nodup)
    (h : Cut (sem pk) (backupCut f recordName (waiting f cluster nodes)) rest) :
    Cut (sem pk) (backup f filename) (approving f cluster nodes rest) := by
  have hsteps : Cut (sem pk) (backupSteps f filename)
      (did (.exec .lockForBackup) none ++ (exported f cluster nodes ++ approved f nodes rest)) := by
    refine cut_act (a := .exec _) (r := none) ?_
    change Cut (sem pk) (exportData f filename >>= _) _
    exact (exportData_run f filename cluster nodes).bind_cut (backupChecks_cut hnodup h)
  exact cut_act (cut_act (hsteps.bind _))

theorem approving_run {v : Vars} {res : Option Err} {cleanup : List Ev}
    (hnodup : (nodes.map (·.ip)).Nodup)
    (h : Run (sem pk) (backupCut f recordName (waiting f cluster nodes)) rest (v, res))
    (hd : Run (sem pk) (deferred f v) cleanup ()) :
    Run (sem pk) (backup f filename) (approving f cluster nodes (rest ++ cleanup)) res := by
  have hsteps := exporting_run (exportData_run f filename cluster nodes) (backupChecks_run hnodup h)
  have hall := connecting_run hsteps hd
  rwa [List.append_assoc, approved_append] at hall

end Approved

/-- The request of `_execBackup`. -/
@[reducible] def request (f : Flags) (sn : StorageNode) : Act :=
  .backup (agentAddr f sn)
    { dbPort := sn.port, dbName := sn.database, username := sn.username, password := sn.password,
      dnBackupPath := f.backupPath, dnThreadsNum := f.threadsNum, dnBackupMode := f.backupMode,
      instanceName := defaultInstance }

/-- The data node that `_execBackup` sends for an answer of the agent. -/
def reported (sn : StorageNode) (r : Except Err String) : DataNode where
  ip := sn.ip
  port := sn.port
  status := match r with
    | .error err => ⟨err⟩
    | .ok _ => ssBackupStatusRunning
  backupID := match r with
    | .error _ => ""
    | .ok backupID => backupID
  startTime := ""
  endTime := ""

def verdict (sn : StorageNode) : Except Err String → Option Err
  | .error err =>
    some ("data node " ++ sn.ip ++ ":" ++ toString sn.port ++ " backup error: " ++ err)
  | .ok _ => none

def asked (f : Flags) (sn : StorageNode) (r : Except Err String) : List (Label Act ActR) :=
  [.issue (request f sn), .reply (request f sn) r, .issue .now, .reply .now "",
    .issue (.sendDataNode (reported sn r)), .reply (.sendDataNode (reported sn r)) ()]

theorem execBackup_path (f : Flags) (sn : StorageNode) (r : Except Err String) :
    Thread.Path (.run (_execBackup f sn)) (asked f sn r) (.run (.ret (verdict sn r))) := by
  cases r with
  | error err =>
    exact ⟨_, .issue _ _, _, .reply _ _ _, _, .issue _ _, _, .reply _ _ _, _, .issue _ _, _,
      .reply _ _ _, rfl⟩
  | ok backupID =>
    exact ⟨_, .issue _ _, _, .reply _ _ _, _, .issue _ _, _, .reply _ _ _, _, .issue _ _, _,
      .reply _ _ _, rfl⟩

def fanOut (f : Flags) (a b : StorageNode) (ra rb : Except Err String) : Log :=
  (asked f a ra).map (Prod.mk 0) ++ (asked f b rb).map (Prod.mk 1)

theorem fanOut_path (f : Flags) (a b : StorageNode) (ra rb : Except Err String) :
    Path (Room .dataNode 2) (start [_execBackup f a, _execBackup f b]) (fanOut f a b ra rb)
      [.run (.ret (verdict a ra)), .run (.ret (verdict b rb))] := by
  have h₁ : Path (Room .dataNode 2) (start [_execBackup f a, _execBackup f b])
      ([] ++ (asked f a ra).map (Prod.mk 0)) _ :=
    path_room (i := 0) .nil rfl (execBackup_path f a ra) (by simp [asked, contents, received])
      (by simp [asked])
  have h₂ := path_room (i := 1) h₁ rfl (execBackup_path f b rb)
    (by simp [asked, contents, received]) (by simp [asked])
  exact h₂

theorem fanOut_contents (f : Flags) (a b : StorageNode) (ra rb : Except Err String) :
    contents .dataNode (fanOut f a b ra rb) = [reported a ra, reported b rb] := by
  simp [fanOut, asked, contents, received]

theorem fanOut_returns (f : Flags) (a b : StorageNode) (ra rb : Except Err String) :
    (sem .documented).returns (.goWait 2 [_execBackup f a, _execBackup f b])
      ([reported a ra, reported b rb], [verdict a ra, verdict b rb].findSome? id)
      (fanOut f a b ra rb) := by
  refine ⟨_, fanOut_path f a b ra rb, ⟨?_, ?_⟩, (fanOut_contents f a b ra rb).symm⟩
  · simp [Thread.result]
  · simp [Thread.result, List.findSome?]

def nodeA : StorageNode := ⟨"10.0.0.2", 5432, "omm", "omm", "postgres", ""⟩

def nodeB : StorageNode := ⟨"10.0.0.3", 5432, "omm", "omm", "postgres", ""⟩

theorem nodes_nodup : ([nodeA, nodeB].map (·.ip)).Nodup := by decide

def sampleCluster : ClusterInfo := ⟨⟨⟨[("sharding_db", "")], by decide⟩, "", ""⟩, none⟩

def refusal : Err := "data node 10.0.0.3:5432 backup error: no space left"

/-- The first agent accepts the backup and the second one does not. -/
def oneRefuses : List Ev :=
  whole (Call.goWait 2 ([nodeA, nodeB].map (_execBackup .sample)))
    ([reported nodeA (.ok "B1"), reported nodeB (.error "no space left")], some refusal)
    (fanOut .sample nodeA nodeB (.ok "B1") (.error "no space left")) ++ []

def refusedVars : Vars where
  err := some refusal
  lsBackup := some { waiting .sample sampleCluster [nodeA, nodeB] with
    ssBackup := some
      { status := ssBackupStatusFailed, clusterInfo := some sampleCluster,
        storageNodes := [nodeA, nodeB] } }
  cancel := false
  filename := recordName

theorem oneRefuses_run :
    Run (sem .documented)
      (backupCut .sample recordName (waiting .sample sampleCluster [nodeA, nodeB])) oneRefuses
      (refusedVars, some ("exec backup failed. err: " ++ refusal)) := by
  refine Run.call ?_ (.ret _)
  exact fanOut_returns .sample nodeA nodeB (.ok "B1") (.error "no space left")

theorem removeRecord_returns (cap : ℕ) (name : String) :
    (sem pk).returns (.goDetach .deleteResult cap [] (removeRecord name)) ()
      [(0, .issue (.osRemove name)), (0, .reply (.osRemove name) none)] := by
  have hpath : Thread.Path (.run (removeRecord name))
      [.issue (.osRemove name), .reply (.osRemove name) none] (.run (.ret ())) :=
    ⟨_, .issue _ _, _, .reply _ _ _, rfl⟩
  have h : Path (Room .deleteResult cap) (start [removeRecord name]) _ _ :=
    path_room (i := 0) .nil rfl hpath (by simp [contents, received]) (by simp)
  exact ⟨_, h, rfl⟩

def refusedCleanup : List Ev :=
  did (.exec .unlock) none ++ (whole (Call.goDetach .deleteResult 2 [] (removeRecord recordName)) ()
    [(0, .issue (.osRemove recordName)), (0, .reply (.osRemove recordName) none)] ++ [])

theorem refusedCleanup_run :
    Run (sem .documented) (deferred .sample refusedVars) refusedCleanup () := by
  exact run_act (a := .exec _) (r := none) (Run.call (removeRecord_returns 2 recordName) (.ret _))

theorem refused_run (filename : String) :
    Run (sem .documented) (backup .sample filename)
      (approving .sample sampleCluster [nodeA, nodeB] (oneRefuses ++ refusedCleanup))
      (some ("exec backup failed. err: " ++ refusal)) :=
  approving_run nodes_nodup oneRefuses_run refusedCleanup_run

end ShardingOnCloud.Pitr.BackupRuns
