import ShardingOnCloud.Pitr.BackupRuns
import ShardingOnCloud.Pitr.RestoreSpec

namespace ShardingOnCloud.Pitr.RestoreRuns

open ShardingOnCloud.Lib.Program ShardingOnCloud.Lib.Assertions ShardingOnCloud.Lib.Pool
open ShardingOnCloud.Pitr.Model ShardingOnCloud.Pitr.Calls ShardingOnCloud.Pitr.LocalStorage
open ShardingOnCloud.Pitr.Backup ShardingOnCloud.Pitr.BackupRuns ShardingOnCloud.Pitr.Restore
open ShardingOnCloud.Pitr.RestoreSpec

variable {pk : Packages}

/-- The record of a backup that both agents have accepted, as Step 7 writes it. -/
def running : LsBackup :=
  { waiting .sample sampleCluster [nodeA, nodeB] with
    dnList := [reported nodeA (.ok "B1"), reported nodeB (.ok "B2")]
    ssBackup := some
      { status := ssBackupStatusRunning, clusterInfo := some sampleCluster,
        storageNodes := [nodeA, nodeB] } }

/-- The record as `ReadAll` returns it. -/
def runningRead : LsBackup :=
  { running with info := running.info.map (fun info => { info with fileName := recordName }) }

def listed : DirEntry := ⟨recordName, false, none, .ok (.ok running)⟩

theorem recordName_visible : startsWith recordName "." = false := by
  simp only [startsWith, recordName, String.toList_append]
  rfl

/-- The only record in the backup directory is found by its ID. -/
def looked : List Ev :=
  did (.newLocalStorage (defaultRootDir .sample)) none ++
    (did (.newShardingSphereProxy Flags.sample.username Flags.sample.password defaultDBName
      Flags.sample.host Flags.sample.port) none ++ (did .readDir (.ok [listed]) ++ []))

theorem readEntries_run :
    Run (sem pk) (readEntries .sample [listed] []) [] (.ok [runningRead]) := by
  have hvisible : (listed.isDir || startsWith listed.name ".") = false := recordName_visible
  rw [readEntries, hvisible, if_neg Bool.false_ne_true]
  have hjson : hasSuffix listed.name ".json" = true := recordName_json
  change Run (sem pk) (if hasSuffix listed.name ".json" then _ else _) _ _
  rw [if_pos hjson]
  exact .ret _

theorem validate_run : Run (sem pk) (validate .sample) (did .readDir (.ok [listed]) ++ [])
    (.ok runningRead) := by
  have hall : Run (sem pk) (readAll .sample) (did .readDir (.ok [listed]) ++ [])
      (.ok [runningRead]) := run_act readEntries_run
  have hid : Run (sem pk) (readByID .sample "1") (did .readDir (.ok [listed]) ++ [])
      (.ok runningRead) := run_bind.mpr ⟨_, _, [], hall, .ret _, (List.append_nil _).symm⟩
  refine run_bind.mpr ⟨[], .ok [], _, .ret _, ?_, rfl⟩
  refine run_bind.mpr ⟨_, .ok [runningRead], [], ?_, .ret _, (List.append_nil _).symm⟩
  exact run_bind.mpr ⟨_, _, [], hid, .ret _, (List.append_nil _).symm⟩

theorem findRecord_run : Run (sem pk) (findRecord .sample) looked (.ok runningRead) :=
  run_act (a := .newLocalStorage _) (r := none)
    (run_act (a := .newShardingSphereProxy _ _ _ _ _) (r := none) validate_run)

def restoredBy (f : Flags) (sn : StorageNode) (backupID : String) : List (Label Act ActR) :=
  [.issue .newTicker, .reply .newTicker 1, .issue (restoreCall f sn backupID),
    .reply (restoreCall f sn backupID) none,
    .issue (.sendRestoreResult (restoreResult sn none)),
    .reply (.sendRestoreResult (restoreResult sn none)) (), .issue .markAsDone,
    .reply .markAsDone ()]

theorem restoreTask_path (f : Flags) (sn : StorageNode) (dn : DataNode) :
    Thread.Path (.run (restoreTask f sn dn)) (restoredBy f sn dn.backupID) (.run sendDone) :=
  ⟨_, .issue _ _, _, .reply _ _ _, _, .issue _ _, _, .reply _ _ _, _, .issue _ _, _, .reply _ _ _,
    _, .issue _ _, _, .reply _ _ _, rfl⟩

def restoredLog : Log :=
  (restoredBy .sample nodeA "B1").map (Prod.mk 0) ++ (restoredBy .sample nodeB "B2").map (Prod.mk 1)

def restoredTasks : List (Go Unit) :=
  [restoreTask .sample nodeA (reported nodeA (.ok "B1")),
    restoreTask .sample nodeB (reported nodeB (.ok "B2"))]

theorem restored_returns :
    (sem .documented).returns (.goRender .restoreResult 2 restoredTasks)
      [restoreResult nodeA none, restoreResult nodeB none] restoredLog := by
  have h₁ : Path (Room .restoreResult 2) (start restoredTasks)
      ([] ++ (restoredBy .sample nodeA "B1").map (Prod.mk 0)) _ :=
    path_room (i := 0) .nil rfl (restoreTask_path .sample nodeA (reported nodeA (.ok "B1")))
      (by simp [restoredBy, contents, received]) (by simp [restoredBy])
  have h₂ := path_room (i := 1) h₁ rfl
    (restoreTask_path .sample nodeB (reported nodeB (.ok "B2")))
    (by simp [restoredBy, reported, contents, received]) (by simp [restoredBy])
  have htrackers : trackers 2 restoredLog = [true, true] := rfl
  refine ⟨_, h₂, ?_, rfl⟩
  intro b hb
  change b ∈ trackers 2 restoredLog at hb
  simpa [htrackers] using hb

/-- A restore of the record into a proxy with the metadata `now`, up to the moment
when the metadata of the proxy is about to change. -/
def restoredData (now : ClusterInfo) : List Ev :=
  did .exportMetaData (.ok now) ++
    (did (.getUserApprove (restorePrompt ([] ++ now.metaData.databases.keys))) none ++
      (checked .sample [nodeA, nodeB] ++
        (whole (Call.goRender .restoreResult 2 restoredTasks)
          [restoreResult nodeA none, restoreResult nodeB none] restoredLog ++ [])))

theorem restoreData_sample_run (now : ClusterInfo) :
    Run (sem .documented) (restoreData .sample [] runningRead) (restoredData now)
      (.ok ([] ++ now.metaData.databases.keys)) := by
  have hexec : Run (sem .documented) (execRestore .sample runningRead)
      (whole (Call.goRender .restoreResult 2 restoredTasks)
        [restoreResult nodeA none, restoreResult nodeB none] restoredLog ++ []) none :=
    Run.call restored_returns (.ret _)
  have hstatus : Run (sem .documented) (checkAgentServerStatus .sample runningRead)
      (checked .sample [nodeA, nodeB]) true :=
    checkAgentServerStatus_run .sample sampleCluster nodes_nodup
  refine run_bind.mpr ⟨did .exportMetaData (.ok now), _, _, run_act (.ret _), ?_, rfl⟩
  refine run_act (a := .getUserApprove _) (r := none) ?_
  change Run (sem .documented) (checkAgentServerStatus .sample runningRead >>= _) _ _
  refine run_bind.mpr ⟨_, _, _, hstatus, ?_, rfl⟩
  exact run_bind.mpr ⟨_, _, [], hexec, .ret _, (List.append_nil _).symm⟩

def droppedAll : List String → List Ev
  | [] => []
  | name :: names => did (.exec (.dropDatabase name)) none ++ droppedAll names

theorem dropDatabases_all_run (names : List String) :
    Run (sem pk) (dropDatabases names) (droppedAll names) none := by
  induction names with
  | nil => exact .ret _
  | cons name names ih => exact run_act (a := .exec _) (r := none) ih

/-- A restore of the record without any failure. -/
def restored (now : ClusterInfo) : List Ev :=
  looked ++ (restoredData now ++ (droppedAll ([] ++ now.metaData.databases.keys) ++
    (did (.exec (.importMetaData sampleCluster)) none ++ [])))

theorem restored_run (now : ClusterInfo) :
    Run (sem .documented) (restore .sample []) (restored now) none := by
  have himport : Run (sem .documented) (importRecord runningRead)
      (did (.exec (.importMetaData sampleCluster)) none ++ []) none :=
    run_act (a := .exec _) (r := none) (.ret _)
  have hproxy : Run (sem .documented)
      (restoreDataToSSProxy ([] ++ now.metaData.databases.keys) runningRead) _ none :=
    run_bind.mpr ⟨_, none, _, dropDatabases_all_run _, himport, rfl⟩
  refine run_bind.mpr ⟨_, _, _, findRecord_run, ?_, rfl⟩
  refine run_bind.mpr ⟨_, _, _, restoreData_sample_run now, ?_, rfl⟩
  exact run_bind.mpr ⟨_, none, [], hproxy, .ret _, (List.append_nil _).symm⟩

/-- A proxy with a database that the record does not have. -/
def crowdedCluster : ClusterInfo :=
  ⟨⟨⟨[("sharding_db", ""), ("other_db", "")], by decide⟩, "", ""⟩, none⟩

end ShardingOnCloud.Pitr.RestoreRuns
