import ShardingOnCloud.Operator.Rds

namespace ShardingOnCloud.Operator.FinalSnapshot

open ShardingOnCloud.Lib.Program ShardingOnCloud.Lib.Pool
open ShardingOnCloud.Operator.StorageNodeTypes ShardingOnCloud.Operator.Calls
open ShardingOnCloud.Operator.Rds

structure DeleteRequest where
  skipFinalSnapshot : Bool
  finalDBSnapshotIdentifier : Option String
  deriving DecidableEq

def deleteRequest : Op → Option DeleteRequest
  | .deleteInstance i => some ⟨i.skipFinalSnapshot, none⟩
  | .deleteCluster i => some ⟨i.skipFinalSnapshot, i.finalDBSnapshotIdentifier⟩
  | .deleteAurora i => some ⟨i.skipFinalSnapshot, none⟩
  | _ => none

def requestOf : Ev → Option DeleteRequest
  | .main (.issue c) => deleteRequest c
  | _ => none

def requests (tr : List Ev) : List DeleteRequest := tr.filterMap requestOf

def describedIn : Ev → Option (Option String)
  | .main (.reply (.describeInstance _) (.ok ins)) => some (ins.map (·.dbInstanceStatus))
  | .main (.reply (.describeCluster _) (.ok cluster)) => some (cluster.map (·.status))
  | _ => none

/-- The states that the provider shows of the database, each with `none` for no database. -/
def described (tr : List Ev) : List (Option String) := tr.filterMap describedIn

/-- A database that is not there, or that is being deleted. -/
def Going (s : Option String) : Prop := s = none ∨ s = some statusDeleting

structure Snapshotted (annotations : Dict) (tr : List Ev) (res : Option Err) : Prop where
  requested : ∀ r ∈ requests tr, r.skipFinalSnapshot = false ∧
    ∃ v, v ≠ "" ∧ r.finalDBSnapshotIdentifier = some v ∧
      annotations annotationsFinalSnapshotIdentifier = some v
  missing : annotations annotationsFinalSnapshotIdentifier = none → requests tr = [] ∧ res ≠ none

inductive Database
  | rdsInstance
  | rdsCluster
  | aurora
  deriving DecidableEq

def delete (annotations : Dict) : Database → Rec (Option Err)
  | .rdsInstance => deleteInstance annotations .deleteWithFinalSnapshot
  | .rdsCluster => deleteRDSCluster annotations .deleteWithFinalSnapshot
  | .aurora => deleteAuroraCluster annotations .deleteWithFinalSnapshot

section Runs

variable {annotations : Dict} {tr : List Ev} {res : Option Err}

theorem snapshotted_refused {err : Err} (h : requests tr = []) :
    Snapshotted annotations tr (some err) :=
  ⟨by simp [h], fun _ => ⟨h, by simp⟩⟩

theorem snapshotted_silent (h : requests tr = []) :
    Snapshotted annotations tr none ↔ annotations annotationsFinalSnapshotIdentifier ≠ none := by
  constructor
  · intro hs hnone
    exact (hs.missing hnone).2 rfl
  · intro hsome
    exact ⟨by simp [h], fun hnone => absurd hnone hsome⟩

theorem not_snapshotted {b : Bool} (h : ⟨b, none⟩ ∈ requests tr) :
    ¬ Snapshotted annotations tr res := by
  intro hs
  obtain ⟨-, v, -, hv, -⟩ := hs.requested _ h
  cases hv

theorem requests_whole (c : Op) (r : OpR c) :
    requests (whole c r [] ++ tr) = (deleteRequest c).toList ++ requests tr := by
  cases h : deleteRequest c <;> simp [requests, whole, List.filterMap_cons, requestOf, h]

theorem described_whole (c : Op) (r : OpR c) :
    described (whole c r [] ++ tr) =
      (describedIn (.main (.reply c r))).toList ++ described tr := by
  have hissue : describedIn (.main (.issue c)) = none := rfl
  cases h : describedIn (.main (.reply c r)) <;> simp [described, whole, hissue, h]

theorem deleteInstance_snapshotted
    (h : Run alone (deleteInstance annotations .deleteWithFinalSnapshot) tr res) :
    Snapshotted annotations tr res ↔
      ∀ s ∈ described tr, Going s ∧ annotations annotationsFinalSnapshotIdentifier ≠ none := by
  unfold deleteInstance getInstance at h
  cases hid : annotations annotationsInstanceIdentifier with
  | none =>
    simp only [hid] at h
    obtain ⟨rfl, rfl⟩ := run_ret.mp h
    exact iff_of_true (snapshotted_refused rfl) (by simp [described])
  | some identifier =>
    simp only [hid] at h
    obtain ⟨r, tr₁, h₁, rfl⟩ := run_alone h
    rw [described_whole]
    cases r with
    | error err =>
      obtain ⟨rfl, rfl⟩ := run_ret.mp h₁
      exact iff_of_true (snapshotted_refused rfl) (by simp [described, describedIn])
    | ok ins =>
      cases ins with
      | none =>
        obtain ⟨rfl, rfl⟩ := run_ret.mp h₁
        rw [snapshotted_silent rfl]
        simp [described, describedIn, Going]
      | some ins =>
        change Run alone (if _ then _ else _) tr₁ res at h₁
        split at h₁
        · rename_i hdeleting
          obtain ⟨rfl, rfl⟩ := run_ret.mp h₁
          rw [snapshotted_silent rfl]
          simp [described, describedIn, Going, hdeleting]
        · rename_i hdeleting
          obtain ⟨err, tr₂, h₂, rfl⟩ := run_alone h₁
          refine iff_of_false (not_snapshotted (b := false) ?_) ?_
          · rw [requests_whole, requests_whole]
            simp [deleteRequest, deleteInstanceIn]
          · simp [describedIn, Going, hdeleting]

/-- An RDS cluster that is there is deleted with the snapshot of the annotation, or not at all. -/
theorem deleteClusterIn_snapshotted {identifier : String} {cluster : DescCluster}
    {i : DeleteClusterIn}
    (h : deleteClusterIn annotations identifier cluster .deleteWithFinalSnapshot = .ok i) :
    ∃ v, v ≠ "" ∧ annotations annotationsFinalSnapshotIdentifier = some v ∧
      deleteRequest (.deleteCluster i) = some ⟨false, some v⟩ := by
  simp only [deleteClusterIn] at h
  split at h
  · cases h
  split at h
  · cases h
  rename_i hne _
  cases h
  cases hv : annotations annotationsFinalSnapshotIdentifier with
  | none => simp [Dict.get, hv] at hne
  | some v =>
    simp only [Dict.get, hv, Option.getD_some] at hne
    exact ⟨v, hne, rfl, by simp [deleteRequest, Dict.get, hv]⟩

theorem deleteRDSCluster_snapshotted
    (h : Run alone (deleteRDSCluster annotations .deleteWithFinalSnapshot) tr res) :
    Snapshotted annotations tr res ↔
      (annotations annotationsFinalSnapshotIdentifier = none → ∀ s ∈ described tr, ¬ Going s) := by
  unfold deleteRDSCluster at h
  cases hid : annotations annotationsClusterIdentifier with
  | none =>
    simp only [hid] at h
    obtain ⟨rfl, rfl⟩ := run_ret.mp h
    exact iff_of_true (snapshotted_refused rfl) (by simp [described])
  | some identifier =>
    simp only [hid] at h
    obtain ⟨r, tr₁, h₁, rfl⟩ := run_alone h
    rw [described_whole]
    cases r with
    | error err =>
      obtain ⟨rfl, rfl⟩ := run_ret.mp h₁
      exact iff_of_true (snapshotted_refused rfl) (by simp [described, describedIn])
    | ok cluster =>
      cases cluster with
      | none =>
        obtain ⟨rfl, rfl⟩ := run_ret.mp h₁
        rw [snapshotted_silent rfl]
        simp [described, describedIn, Going]
      | some cluster =>
        change Run alone (if _ then _ else _) tr₁ res at h₁
        split at h₁
        · rename_i hdeleting
          obtain ⟨rfl, rfl⟩ := run_ret.mp h₁
          rw [snapshotted_silent rfl]
          simp [described, describedIn, Going, hdeleting]
        · rename_i hdeleting
          have hthere : ¬ Going (some cluster.status) := by simp [Going, hdeleting]
          cases hin : deleteClusterIn annotations identifier cluster .deleteWithFinalSnapshot with
          | error err =>
            simp only [hin] at h₁
            obtain ⟨rfl, rfl⟩ := run_ret.mp h₁
            exact iff_of_true (snapshotted_refused rfl) (by simp [described, describedIn, hthere])
          | ok i =>
            simp only [hin] at h₁
            obtain ⟨err, tr₂, h₂, rfl⟩ := run_alone h₁
            obtain ⟨rfl, rfl⟩ := run_ret.mp h₂
            obtain ⟨v, hv, hkey, hrequest⟩ := deleteClusterIn_snapshotted hin
            refine iff_of_true ⟨?_, by simp [hkey]⟩ ?_
            · rw [requests_whole, requests_whole, hrequest]
              simp [deleteRequest, requests, hv, hkey]
            · rw [described_whole]
              simp [described, describedIn, hthere]

theorem deleteAuroraCluster_snapshotted
    (h : Run alone (deleteAuroraCluster annotations .deleteWithFinalSnapshot) tr res) :
    Snapshotted annotations tr res ↔ annotations annotationsClusterIdentifier = none := by
  unfold deleteAuroraCluster at h
  cases hid : annotations annotationsClusterIdentifier with
  | none =>
    simp only [hid] at h
    obtain ⟨rfl, rfl⟩ := run_ret.mp h
    exact iff_of_true (snapshotted_refused rfl) rfl
  | some identifier =>
    simp only [hid] at h
    obtain ⟨err, tr₁, h₁, rfl⟩ := run_alone h
    refine iff_of_false (not_snapshotted (b := false) ?_) (by simp)
    rw [requests_whole]
    simp [deleteRequest, deleteAuroraIn]

end Runs

/-- The databases and observed states for which a final snapshot is asked for as it should be.
Neither an instance nor an Aurora cluster may be there to be deleted. -/
def Covered (annotations : Dict) (tr : List Ev) : Database → Prop
  | .rdsInstance =>
    ∀ s ∈ described tr, Going s ∧ annotations annotationsFinalSnapshotIdentifier ≠ none
  | .rdsCluster =>
    annotations annotationsFinalSnapshotIdentifier = none → ∀ s ∈ described tr, ¬ Going s
  | .aurora => annotations annotationsClusterIdentifier = none

theorem final_snapshot_requested_iff {db : Database} {annotations : Dict} {tr : List Ev}
    {res : Option Err} (h : Run alone (delete annotations db) tr res) :
    Snapshotted annotations tr res ↔ Covered annotations tr db := by
  cases db with
  | rdsInstance => exact deleteInstance_snapshotted h
  | rdsCluster => exact deleteRDSCluster_snapshotted h
  | aurora => exact deleteAuroraCluster_snapshotted h

section Samples

def snapshotAnnotations : Dict := fun k =>
  if k = annotationsInstanceIdentifier ∨ k = annotationsClusterIdentifier then some "db-1"
  else if k = annotationsFinalSnapshotIdentifier then some "db-1-final"
  else none

def availableCluster : DescCluster := ⟨statusAvailable, "db-1.rds", "db-1-ro.rds", 3306⟩

def availableInstance : DescInstance := ⟨statusAvailable, ⟨"db-1.rds", 3306⟩⟩

def clusterDeletion : List Ev :=
  whole (Op.describeCluster "db-1") (Except.ok (some availableCluster)) [] ++
    whole (Op.deleteCluster ⟨"db-1", some "db-1-final", false⟩) none []

def instanceDeletion : List Ev :=
  whole (Op.describeInstance "db-1") (Except.ok (some availableInstance)) [] ++
    whole (Op.deleteInstance ⟨"db-1", true, false⟩) none []

theorem clusterDeletion_run :
    Run alone (delete snapshotAnnotations .rdsCluster) clusterDeletion none := by
  rw [clusterDeletion, ← List.append_nil (whole (Op.deleteCluster _) _ _)]
  exact Run.call rfl (Run.call rfl (Run.ret _))

theorem instanceDeletion_run :
    Run alone (delete snapshotAnnotations .rdsInstance) instanceDeletion none := by
  rw [instanceDeletion, ← List.append_nil (whole (Op.deleteInstance _) _ _)]
  exact Run.call rfl (Run.call rfl (Run.ret _))

end Samples

theorem clusterDeletion_requested :
    Snapshotted snapshotAnnotations clusterDeletion none ↔
      Covered snapshotAnnotations clusterDeletion .rdsCluster :=
  final_snapshot_requested_iff clusterDeletion_run

/-- An instance is deleted with a final snapshot that has no name, although the node names it. -/
theorem not_all_snapshots_requested :
    ¬ ∀ (db : Database) (annotations : Dict) (tr : List Ev) (res : Option Err),
      Run alone (delete annotations db) tr res → Snapshotted annotations tr res := by
  intro h
  refine not_snapshotted (b := false) ?_ (h _ _ _ _ instanceDeletion_run)
  decide

end ShardingOnCloud.Operator.FinalSnapshot
