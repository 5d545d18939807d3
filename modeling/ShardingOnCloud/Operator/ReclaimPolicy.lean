import ShardingOnCloud.Operator.Provisioning

namespace ShardingOnCloud.Operator.ReclaimPolicy

open ShardingOnCloud.Lib.Program ShardingOnCloud.Lib.Pool ShardingOnCloud.Lib.Footprint
open ShardingOnCloud.Operator.StorageNodeTypes ShardingOnCloud.Operator.Calls
open ShardingOnCloud.Operator.Rds
open ShardingOnCloud.Operator.StorageNodeController ShardingOnCloud.Operator.StorageNodeSpec
open ShardingOnCloud.Operator.StorageNodeRuns ShardingOnCloud.Operator.Provisioning

/-- The node has a database of AWS that is deleted whatever the reclaim policy is. -/
def Deletable (n : StorageNode) (sp : StorageProvider) : Prop :=
  (sp.provisioner = .awsRdsInstance ∧ n.annotations.get annotationsInstanceIdentifier ≠ "") ∨
  (sp.provisioner = .awsAurora ∧ n.annotations.get annotationsClusterIdentifier ≠ "")

/-- A node that is being deleted, and that a pass goes on to delete the database of. -/
structure LosesDatabase (n : StorageNode) (sp : StorageProvider) : Prop where
  deletionTimestamp : n.deletionTimestamp = true
  finalizer : finalizerName ∈ n.finalizers
  phase : n.status.phase ≠ .deleteComplete
  database : sp.provisioner = .cloudNativePG ∨
    (Deletable n sp ∧ (n.status.registered = true → validateComputeNodeAnnotations n = none))

abbrev NoDelete (c : Op) : Prop := kind c ≠ .delete

theorem deleteDatabaseCluster_retains {n : StorageNode} {sp : StorageProvider}
    (hr : sp.reclaimPolicy = .retain) (hn : ¬Deletable n sp) :
    Only NoDelete (deleteDatabaseCluster n sp) := by
  unfold deleteDatabaseCluster
  split
  · rename_i hp
    have hid : n.annotations.get annotationsInstanceIdentifier = "" := by
      by_contra hid
      exact hn (Or.inl ⟨hp, hid⟩)
    rw [deleteAWSRDSInstance, if_pos hid]
    trivial
  · have hdelete : Only (Of [.describe]) (deleteAWSRDSCluster n sp) := by
      refine deleteCluster_only n sp (by decide) getRDSCluster_only ?_
      rw [hr]
      exact deleteRDSCluster_retain n.annotations
    exact only_bind (only_avoids hdelete (by decide)) (fun _ => trivial)
  · rename_i hp
    have hid : n.annotations.get annotationsClusterIdentifier = "" := by
      by_contra hid
      exact hn (Or.inr ⟨hp, hid⟩)
    rw [deleteAWSAurora, deleteCluster, if_pos hid]
    trivial
  · trivial
  · trivial

theorem finalizeDatabase_retains {n : StorageNode} {sp : StorageProvider}
    (hr : sp.reclaimPolicy = .retain)
    (hn : ¬(Deletable n sp ∧ (n.status.registered = true → validateComputeNodeAnnotations n = none))) :
    Only NoDelete (finalizeDatabase n sp) := by
  have hunregister : Only NoDelete _ := only_avoids (unregisterStorageUnit_only n) (by decide)
  refine only_bind_run hunregister (fun tr r hrun => ?_)
  cases r with
  | error err => trivial
  | ok m =>
    obtain ⟨rfl, hvalid⟩ := unregisterStorageUnit_run hrun
    have hm := deleteDatabaseCluster_retains (n := unregistered n) hr
      (fun hd => hn ⟨hd, hvalid⟩)
    refine only_bind hm (fun r => ?_)
    cases r with
    | error err => trivial
    | ok m => exact only_avoids (storeStatus_only m) (by decide)

theorem handle_retains {n : StorageNode} {sp : StorageProvider}
    (hr : sp.reclaimPolicy = .retain) (hn : ¬LosesDatabase n sp) :
    Only NoDelete (handle n sp) := by
  unfold handle
  split
  · split
    · exact only_avoids (reconcile_only sp n) (by decide)
    · exact only_avoids (adopt_only n sp) (by decide)
  rename_i hd
  split
  · rename_i hf
    unfold finalize
    split
    · exact only_op (by simp [kind]) (fun _ => trivial)
    rename_i hphase
    have hdb := fun hdb => hn ⟨by simpa using hd, hf, hphase, hdb⟩
    dsimp only
    split
    · rename_i hp
      exact absurd (Or.inl hp) hdb
    · exact finalizeDatabase_retains hr (fun hd => hdb (Or.inr hd))
  · exact only_avoids (reconcile_only sp n) (by decide)

theorem retained_database_kept {aws : AwsConfig} {trs : List (List Ev)} {s : Option StorageNode}
    (h : Runs aws trs s)
    (hretain : ∀ tr ∈ trs, ∀ n sp, Reads tr n sp → sp.reclaimPolicy = .retain)
    (hsafe : ∀ tr ∈ trs, ∀ n sp, Reads tr n sp → ¬LosesDatabase n sp) :
    ∀ tr ∈ trs, ∀ e ∈ tr, kind (about e) ≠ .delete := by
  intro tr htr e he hk
  obtain ⟨n, sp, tr', rfl, hcut, he'⟩ := runs_event h htr he (by simp [hk])
  have hread : Reads (readEvents n sp ++ tr') n sp := ⟨tr', rfl⟩
  exact (handle_retains (hretain _ htr n sp hread) (hsafe _ htr n sp hread)).events hcut e he' hk

def sampleCluster : DescCluster := ⟨"available", "db-1.cluster.rds", "db-1.cluster-ro.rds", 3306⟩

/-- A node with an RDS cluster is created, reconciled, deleted and reconciled again. -/
def retainedCloud : Cloud :=
  { emptyCloud with
    provider := { sampleProvider with provisioner := .awsRdsCluster }
    cluster := some sampleCluster
    members := [sampleInstance] }

def firstPass (w : Cloud) : List Ev × Option StorageNode :=
  pass sampleAws w.answer (some sampleNode)

def secondPass (w : Cloud) : List Ev × Option StorageNode :=
  pass sampleAws w.answer (delete (firstPass w).2)

theorem deleted_runs (w : Cloud) :
    Runs sampleAws [(firstPass w).1, (secondPass w).1] (secondPass w).2 :=
  runs_pass (runs_delete (runs_pass (.created sampleNode_created) w.answer)) w.answer

theorem deleted_reads {w : Cloud} {tr : List Ev} {n : StorageNode} {sp : StorageProvider}
    (htr : tr ∈ [(firstPass w).1, (secondPass w).1]) (h : Reads tr n sp) : sp = w.provider := by
  simp only [List.mem_cons, List.not_mem_nil, or_false] at htr
  obtain rfl | rfl := htr
  · exact (pass_reads h).2
  · exact (pass_reads h).2

theorem retainedCloud_kept :
    Runs sampleAws [(firstPass retainedCloud).1, (secondPass retainedCloud).1]
      (secondPass retainedCloud).2 ∧
    ∀ tr ∈ [(firstPass retainedCloud).1, (secondPass retainedCloud).1],
      ∀ e ∈ tr, kind (about e) ≠ .delete := by
  refine ⟨deleted_runs retainedCloud, retained_database_kept (deleted_runs retainedCloud) ?_ ?_⟩
  · intro tr htr n sp h
    rw [deleted_reads htr h]
    rfl
  · intro tr htr n sp h hloses
    rw [deleted_reads htr h] at hloses
    obtain hp | ⟨⟨hp, -⟩ | ⟨hp, -⟩, -⟩ := hloses.database <;> cases hp

/-- The instance is deleted although it is to be retained. -/
theorem not_all_retained_kept :
    ¬∀ (aws : AwsConfig) (trs : List (List Ev)) (s : Option StorageNode), Runs aws trs s →
      (∀ tr ∈ trs, ∀ n sp, Reads tr n sp → sp.reclaimPolicy = .retain) →
      ∀ tr ∈ trs, ∀ e ∈ tr, kind (about e) ≠ .delete := by
  intro h
  have hkept := h _ _ _ (deleted_runs availableCloud) (fun tr htr n sp hread => by
    rw [deleted_reads htr hread]
    rfl) (secondPass availableCloud).1 (by simp)
  have hlost : (secondPass availableCloud).1.any (fun e => kind (about e) = .delete) = true := by
    decide +kernel
  obtain ⟨e, he, hk⟩ := List.any_eq_true.mp hlost
  exact hkept e he (of_decide_eq_true hk)

end ShardingOnCloud.Operator.ReclaimPolicy
