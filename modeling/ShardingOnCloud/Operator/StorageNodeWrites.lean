import ShardingOnCloud.Operator.StorageNodeRuns

namespace ShardingOnCloud.Operator.StorageNodeWrites

open ShardingOnCloud.Lib.Program ShardingOnCloud.Lib.Pool ShardingOnCloud.Lib.Footprint
open ShardingOnCloud.Operator.StorageNodeTypes ShardingOnCloud.Operator.Calls
open ShardingOnCloud.Operator.Rds ShardingOnCloud.Operator.CloudNativePG
open ShardingOnCloud.Operator.StorageNodeController ShardingOnCloud.Operator.StorageNodeSpec
open ShardingOnCloud.Operator.StorageNodeRuns

def OnOk {α : Type} (Q : α → Prop) : Except Err α → Prop
  | .ok a => Q a
  | .error _ => True

section Provision

structure Provisioned (n m : StorageNode) : Prop where
  name_eq : m.name = n.name
  nameSpace_eq : m.nameSpace = n.nameSpace
  annotations_eq : ∀ k, k ≠ annotationsMasterUserPassword → m.annotations k = n.annotations k
  registered_eq : m.status.registered = n.status.registered
  phase_eq : m.status.phase = n.status.phase

theorem Provisioned.get_eq {n m : StorageNode} (h : Provisioned n m)
    {k : String} (hk : k ≠ annotationsMasterUserPassword) :
    m.annotations.get k = n.annotations.get k := by
  rw [Dict.get, Dict.get, h.annotations_eq k hk]

theorem createInstance_yields (annotations params : Dict) :
    Yields (OnOk (fun r => ∀ k, k ≠ annotationsMasterUserPassword → r.1 k = annotations k))
      (createInstance annotations params) := by
  have hvalid : Yields
      (OnOk (fun r => ∀ k, k ≠ annotationsMasterUserPassword → r.1 k = annotations k))
      (validCreateInstanceParams annotations params) := by
    refine yields_bind yields_true (fun order _ => ?_)
    refine yields_bind yields_true (fun r _ => ?_)
    cases r with
    | error err => trivial
    | ok params =>
      change OnOk _ (checkInstanceParams annotations params)
      unfold checkInstanceParams
      split
      · trivial
      dsimp only
      split
      · trivial
      split
      · trivial
      · intro k hk
        exact Function.update_of_ne hk _ _
  refine yields_bind hvalid (fun r hr => ?_)
  cases r with
  | error err => trivial
  | ok r =>
    dsimp only
    split
    · trivial
    · intro err
      cases err with
      | some err => trivial
      | none => exact hr

theorem reconcileAwsRdsInstance_yields (n : StorageNode) (sp : StorageProvider) :
    Yields (OnOk (fun h => Provisioned n h.1)) (reconcileAwsRdsInstance n sp) := by
  have hnote : ∀ (a : Dict) ins, (∀ k, k ≠ annotationsMasterUserPassword → a k = n.annotations k) →
      Provisioned n (updateAWSRDSInstanceStatus { n with annotations := a } ins) :=
    fun a ins ha => ⟨rfl, rfl, ha, rfl, rfl⟩
  refine yields_bind yields_true (fun r _ => ?_)
  cases r with
  | error err => trivial
  | ok ins =>
    dsimp only
    split
    · refine yields_bind (createInstance_yields _ _) (fun r hr => ?_)
      cases r with
      | error err => trivial
      | ok r =>
        refine yields_bind yields_true (fun r' _ => ?_)
        cases r' with
        | error err => trivial
        | ok ins => exact hnote r.1 ins hr
    · exact hnote n.annotations ins (fun _ _ => rfl)

theorem holdCluster_yields {n : StorageNode} {sp : StorageProvider}
    (cluster : Option DescCluster) :
    Yields (OnOk (fun h => Provisioned n h.1)) (holdCluster n sp cluster) := by
  intro r
  cases r with
  | error err => trivial
  | ok instances => exact ⟨rfl, rfl, fun _ _ => rfl, rfl, rfl⟩

theorem reconcileCluster_yields {get : Dict → Rec (Except Err (Option DescCluster))}
    {create : StorageNode → Dict → Rec (Except Err Dict)} (n : StorageNode)
    (sp : StorageProvider) :
    Yields (OnOk (fun h => Provisioned n h.1)) (reconcileCluster get create n sp) := by
  refine yields_bind yields_true (fun r _ => ?_)
  cases r with
  | error err => trivial
  | ok cluster =>
    cases cluster with
    | some cluster => exact holdCluster_yields _
    | none =>
      refine yields_bind yields_true (fun r _ => ?_)
      cases r with
      | error err => trivial
      | ok params =>
        refine yields_bind yields_true (fun r _ => ?_)
        cases r with
        | error err => trivial
        | ok cluster => exact holdCluster_yields cluster

theorem reconcileProvisioner_yields {n : StorageNode} {sp : StorageProvider}
    {p : Rec (Except Err Held)} (h : reconcileProvisioner n sp = some p) :
    Yields (OnOk (fun h => Provisioned n h.1)) p := by
  unfold reconcileProvisioner at h
  split at h
  · cases h
    exact reconcileAwsRdsInstance_yields n sp
  · cases h
    exact reconcileCluster_yields n sp
  · cases h
    exact reconcileCluster_yields n sp
  · cases h
    exact (reconcileCloudNativePG_fails n sp).mono (by rintro _ ⟨err, rfl⟩; trivial)
  · cases h

end Provision

section Store

/-- A part of a pass that writes nothing but a status. -/
def Stores (Q : StorageNode → Prop) : Op → Prop
  | .update _ => False
  | .statusUpdate m => Q m
  | _ => True

theorem Stores.mono {Q Q' : StorageNode → Prop} {c : Op} (h : Stores Q c)
    (hQ : ∀ m, Q m → Q' m) : Stores Q' c := by
  cases c with
  | update m => exact h
  | statusUpdate m => exact hQ m h
  | _ => trivial

theorem only_stores {α : Type} {ks : List Kind} {p : Rec α} {Q : StorageNode → Prop}
    (h : Only (Of ks) p) (hks : .write ∉ ks) : Only (Stores Q) p := by
  refine (only_avoids h hks).mono (fun c hc => ?_)
  cases c with
  | update m => exact absurd rfl hc
  | statusUpdate m => exact absurd rfl hc
  | _ => trivial

theorem storeStatus_stores {n : StorageNode} {Q : StorageNode → Prop}
    (h : Q { n with status := computeDesiredState n.status }) :
    Only (Stores Q) (storeStatus n) := by
  refine only_op h (fun err => ?_)
  cases err <;> trivial

theorem registerStorageUnit_yields (n : StorageNode) (sp : StorageProvider) :
    Yields (OnOk (fun m => m = n ∨ m = { n with status := { n.status with registered := true } }))
      (registerStorageUnit n sp) := by
  unfold registerStorageUnit
  split
  · exact Or.inl rfl
  split
  · trivial
  split
  · exact Or.inl rfl
  split
  · exact Or.inl rfl
  refine yields_bind yields_true (fun err _ => ?_)
  cases err with
  | some err => trivial
  | none =>
    have hat : Yields (OnOk (fun m => m = { n with status := { n.status with registered := true } }))
        (registerAt n sp) := by
      refine yields_bind yields_true (fun err _ => ?_)
      cases err with
      | some err => trivial
      | none =>
        refine yields_bind yields_true (fun endpoint _ => ?_)
        refine yields_bind yields_true (fun err _ => ?_)
        cases err with
        | some err => trivial
        | none => rfl
    refine yields_bind hat (fun r hr => ?_)
    intro _
    cases r with
    | error err => trivial
    | ok m => exact Or.inr hr

/-- What a reconcile stores, in terms of the node that it has read. -/
structure Stored (n m : StorageNode) : Prop where
  deletion : m.status.phase = .deleting ∨ m.status.phase = .deleteComplete →
    n.status.phase = .deleting
  registered : n.status.registered = true → m.status.registered = true

theorem stored_of {n m m' : StorageNode} (h : Provisioned n m)
    (hm : m' = m ∨ m' = { m with status := { m.status with registered := true } }) :
    Stored n { m' with status := computeDesiredState m'.status } := by
  have hphase : m'.status.phase = m.status.phase := by
    obtain rfl | rfl := hm <;> rfl
  constructor
  · intro hd
    rw [← h.phase_eq, ← hphase]
    obtain hd | hd := hd
    · exact computePhase_eq_deleting hd
    · exact (computePhase_eq_deleteComplete.mp hd).1
  · intro hr
    rw [← h.registered_eq] at hr
    obtain rfl | rfl := hm
    · exact hr
    · rfl

theorem reconcile_stores (sp : StorageProvider) (n : StorageNode) :
    Only (Stores (Stored n)) (reconcile sp n) := by
  unfold reconcile
  cases hp : reconcileProvisioner n sp with
  | none => trivial
  | some p =>
    have hprov := only_stores (Q := Stored n) (reconcileProvisioner_only hp) (by decide)
    refine only_bind_yields hprov (reconcileProvisioner_yields hp) (fun r hr => ?_)
    cases r with
    | error err => trivial
    | ok held =>
      have hreg := only_stores (Q := Stored n) (registerStorageUnit_only held.1 held.2) (by decide)
      refine only_bind_yields hreg (registerStorageUnit_yields _ _) (fun r hm => ?_)
      cases r with
      | error err => trivial
      | ok m => exact storeStatus_stores (stored_of hr hm)

theorem adopt_stores (n : StorageNode) (sp : StorageProvider) :
    Only (fun c => c = .update (addFinalizer n) ∨ Stores (Stored n) c) (adopt n sp) := by
  refine only_op (Or.inl rfl) (fun err => ?_)
  cases err with
  | some err => trivial
  | none =>
    refine (reconcile_stores sp (addFinalizer n)).mono (fun c hc => Or.inr ?_)
    exact hc.mono (fun m hm => ⟨hm.deletion, hm.registered⟩)

end Store

section Delete

theorem run_op {c : Op} {tr : List Ev} {r : OpR c} (h : Run alone (op c) tr r) :
    tr = whole c r [] := by
  obtain ⟨r', tr', hret, rfl⟩ := run_alone h
  obtain ⟨rfl, rfl⟩ := run_ret.mp hret
  exact List.append_nil _

theorem run_op_reply {c : Op} {tr : List Ev} {r : OpR c} (h : Run alone (op c) tr r) :
    .main (.reply c r) ∈ tr := by
  rw [run_op h]
  simp [whole]

theorem getInstance_run {a : Dict} {tr : List Ev} {ins : Option DescInstance}
    (h : Run alone (getInstance a) tr (.ok ins)) :
    .main (.reply (.describeInstance (a.get annotationsInstanceIdentifier)) (.ok ins)) ∈ tr := by
  unfold getInstance at h
  split at h
  · cases (run_ret.mp h).2
  · rename_i id hid
    rw [Dict.get, hid]
    exact run_op_reply h

theorem getRDSCluster_run {a : Dict} {tr : List Ev} {cluster : Option DescCluster}
    (h : Run alone (getRDSCluster a) tr (.ok cluster)) :
    .main (.reply (.describeCluster (a.get annotationsClusterIdentifier)) (.ok cluster)) ∈ tr := by
  unfold getRDSCluster at h
  split at h
  · cases (run_ret.mp h).2
  · rename_i id hid
    rw [Dict.get, hid]
    exact run_op_reply h

theorem getAuroraCluster_run {a : Dict} {tr : List Ev} {cluster : Option DescCluster}
    (h : Run alone (getAuroraCluster a) tr (.ok cluster)) :
    .main (.reply (.describeAurora (a.get annotationsClusterIdentifier)) (.ok cluster)) ∈ tr := by
  unfold getAuroraCluster at h
  split at h
  · cases (run_ret.mp h).2
  · rename_i id hid
    rw [Dict.get, hid]
    exact run_op_reply h

def members (n : StorageNode) : Op :=
  .describeInstances [("db-cluster-id", [n.annotations.get annotationsClusterIdentifier])]

def withDatabase (n : StorageNode) (cluster : ClusterStatus) (instances : List InstanceStatus) :
    StorageNode :=
  { n with status := { n.status with cluster := cluster, instances := instances } }

theorem updateClusterStatus_run {n m : StorageNode} {cluster : Option DescCluster}
    {tr : List Ev} (h : Run alone (updateClusterStatus n cluster) tr (.ok m)) :
    ∃ ins : List DescInstance, .main (.reply (members n) (Except.ok ins)) ∈ tr ∧
      m = withDatabase n (clusterStatus cluster) (ins.map instanceStatus) := by
  obtain ⟨tr₁, r, tr₂, h₁, h₂, rfl⟩ := run_bind.mp h
  cases r with
  | error err => cases (run_ret.mp h₂).2
  | ok ins =>
    obtain ⟨-, hm⟩ := run_ret.mp h₂
    cases hm
    exact ⟨ins, List.mem_append_left _ (run_op_reply h₁), rfl⟩

theorem noteCluster_run {n m : StorageNode} {cluster : Option DescCluster} {tr : List Ev}
    (h : Run alone (noteCluster n cluster) tr (.ok m)) :
    ∃ ins : List DescInstance, .main (.reply (members n) (Except.ok ins)) ∈ tr ∧
      m = withDatabase n (clusterStatus cluster) (ins.map instanceStatus) := by
  obtain ⟨tr₁, r, tr₂, h₁, h₂, rfl⟩ := run_bind.mp h
  cases r with
  | error err => cases (run_ret.mp h₂).2
  | ok m' =>
    obtain ⟨rfl, hm⟩ := run_ret.mp h₂
    cases hm
    rw [List.append_nil]
    exact updateClusterStatus_run h₁

end Delete

end ShardingOnCloud.Operator.StorageNodeWrites
