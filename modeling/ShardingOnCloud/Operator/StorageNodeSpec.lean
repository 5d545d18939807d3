import ShardingOnCloud.Operator.StorageNodeController

namespace ShardingOnCloud.Operator.StorageNodeSpec

open ShardingOnCloud.Lib.Program ShardingOnCloud.Lib.Pool ShardingOnCloud.Lib.Footprint
open ShardingOnCloud.Operator.StorageNodeTypes ShardingOnCloud.Operator.Calls
open ShardingOnCloud.Operator.Rds ShardingOnCloud.Operator.CloudNativePG
open ShardingOnCloud.Operator.StorageNodeController

/-- What a call is for. -/
inductive Kind
  | read
  | write
  | describe
  | create
  | amend
  | delete
  | proxy
  | register
  | random
  | stop
  deriving DecidableEq

def kind : Op → Kind
  | .getNode | .getStorageProvider _ => .read
  | .update _ | .statusUpdate _ => .write
  | .describeInstance _ | .describeInstances _ | .describeCluster _ | .describeAurora _
  | .getPGCluster _ _ => .describe
  | .createInstance _ | .createCluster _ | .createAurora _ | .createPGCluster _ _ _ => .create
  | .updatePGCluster _ _ _ => .amend
  | .deleteInstance _ | .deleteCluster _ | .deleteAurora _ | .deletePGCluster _ _ => .delete
  | .dbExec (.registerStorageUnit _ _ _ _ _ _) => .register
  | .getComputeNode _ _ | .getService _ _ | .sqlOpen _ _ | .dbPing | .dbExec _ | .dbQuery _
  | .dbClose | .panic .instances | .panic .servicePorts => .proxy
  | .rangeMap _ | .randInt _ | .stringN _ | .stringCustom _ _ => .random
  | .panic .clusterSpec => .stop

def Of (ks : List Kind) (c : Op) : Prop := ks.contains (kind c) = true

theorem only_op {α : Type} {P : Op → Prop} {c : Op} {f : OpR c → Rec α} (hc : P c)
    (hf : ∀ r, Only P (f r)) : Only P (op c >>= f) := ⟨hc, hf⟩

theorem only_last {P : Op → Prop} {c : Op} (hc : P c) : Only P (op c) := ⟨hc, fun _ => trivial⟩

theorem only_widen {α : Type} {ks ks' : List Kind} {p : Rec α} (h : Only (Of ks) p)
    (hks : ks ⊆ ks') : Only (Of ks') p := by
  refine h.mono (fun c hc => ?_)
  rw [Of, List.contains_iff_mem] at hc ⊢
  exact hks hc

theorem only_avoids {α : Type} {ks : List Kind} {k : Kind} {p : Rec α} (h : Only (Of ks) p)
    (hks : k ∉ ks) : Only (fun c => kind c ≠ k) p := by
  refine h.mono (fun c hc hk => hks ?_)
  rw [Of, hk, List.contains_iff_mem] at hc
  exact hc

section Proxy

/-- The calls to the proxy that neither open a connection nor change what is registered. -/
def Passive : Op → Prop
  | .getService _ _ | .sqlOpen _ _ | .dbPing | .dbQuery _ | .dbClose | .panic .servicePorts
  | .dbExec (.createDatabase _) | .dbExec (.dropRule _ _) => True
  | _ => False

theorem passive_proxy {c : Op} (h : Passive c) : Of [.proxy] c := by
  cases c with
  | dbExec s =>
    cases s with
    | createDatabase dbName => rfl
    | dropRule ruleType ruleName => rfl
    | _ => exact h.elim
  | getService name nameSpace => rfl
  | sqlOpen driver dataSourceName => rfl
  | dbPing => rfl
  | dbQuery s => rfl
  | dbClose => rfl
  | panic p =>
    cases p with
    | servicePorts => rfl
    | _ => exact h.elim
  | _ => exact h.elim

theorem only_passive {α : Type} {p : Rec α} (h : Only Passive p) : Only (Of [.proxy]) p :=
  h.mono (fun _ => passive_proxy)

theorem newServer_only (driver host : String) (port : ℕ) (user password : String) :
    Only Passive (Server.newServer driver host port user password) := by
  unfold Server.newServer
  split
  · trivial
  split
  · trivial
  refine only_op trivial (fun err => ?_)
  cases err with
  | some err => trivial
  | none =>
    refine only_op trivial (fun err => ?_)
    cases err <;> trivial

theorem getShardingsphereServer_passive (node : StorageNode) :
    ∃ k, getShardingsphereServer node =
        (op (.getComputeNode (node.annotations.get annotationKeyComputeNodeName)
          node.nameSpace) >>= k) ∧ ∀ r, Only Passive (k r) := by
  refine ⟨_, rfl, fun cn => ?_⟩
  cases cn with
  | error err => trivial
  | ok cn =>
    cases hu : cn.serverConfig.users with
    | nil =>
      simp only [hu]
      trivial
    | cons user users =>
      simp only [hu]
      refine only_op trivial (fun svc => ?_)
      cases svc with
      | error err => cases err <;> trivial
      | ok svc =>
        cases hp : svc.spec.ports with
        | nil =>
          simp only [hp]
          exact only_op trivial (fun x => nomatch x)
        | cons port ports =>
          simp only [hp]
          refine only_bind (newServer_only _ _ _ _ _) (fun err => ?_)
          cases err <;> trivial

theorem getShardingsphereServer_only (node : StorageNode) :
    Only (Of [.proxy]) (getShardingsphereServer node) := by
  obtain ⟨k, hk, hpassive⟩ := getShardingsphereServer_passive node
  rw [hk]
  exact only_op rfl (fun r => only_passive (hpassive r))

theorem createDatabase_only (dbName : String) : Only Passive (Server.createDatabase dbName) := by
  refine only_op trivial (fun err => ?_)
  cases err <;> trivial

theorem serverRegister_only (logicDBName dsName dsHost : String) (dsPort : ℕ)
    (dsDBName dsUser dsPassword : String) :
    Only (Of [.proxy, .register]) (Server.registerStorageUnit logicDBName dsName dsHost dsPort dsDBName dsUser
      dsPassword) := by
  refine only_op rfl (fun err => ?_)
  cases err with
  | some err => trivial
  | none =>
    refine only_op rfl (fun err => ?_)
    cases err <;> trivial

theorem getRulesUsed_only (dsName : String) : Only Passive (Server.getRulesUsed dsName) := by
  refine only_op trivial (fun rows => ?_)
  cases rows with
  | error err => trivial
  | ok rows =>
    dsimp only
    split <;> trivial

theorem dropRules_only (rules : List Rule) : Only Passive (Server.dropRules rules) := by
  induction rules with
  | nil => trivial
  | cons rule rules ih =>
    have hdrop : Only Passive (Server.dropRule rule.type rule.name) := by
      refine only_op trivial (fun err => ?_)
      cases err <;> trivial
    refine only_bind hdrop (fun err => ?_)
    cases err with
    | some err => trivial
    | none => exact ih

def Unregistering : Op → Prop
  | .getComputeNode _ _ | .dbExec (.useDatabase _) | .dbExec (.unRegisterStorageUnit _) => True
  | c => Passive c

theorem passive_unregistering {c : Op} (h : Passive c) : Unregistering c := by
  unfold Unregistering
  split
  · trivial
  · trivial
  · trivial
  · exact h

theorem serverUnRegister_only (logicDBName dsName : String) :
    Only Unregistering (Server.unRegisterStorageUnit logicDBName dsName) := by
  refine only_op trivial (fun err => ?_)
  cases err with
  | some err => trivial
  | none =>
    refine only_bind ((getRulesUsed_only dsName).mono fun _ => passive_unregistering) (fun rules => ?_)
    cases rules with
    | error err => trivial
    | ok rules =>
      refine only_bind ((dropRules_only rules).mono fun _ => passive_unregistering) (fun err => ?_)
      cases err with
      | some err => trivial
      | none =>
        refine only_op trivial (fun err => ?_)
        cases err <;> trivial

theorem datasource_only (node : StorageNode) :
    Only (Of [.proxy]) (getDatasourceInfo node) := by
  unfold getDatasourceInfo getDatasourceInfoFromInstance
  split
  · split
    · exact only_op rfl (fun x => nomatch x)
    · trivial
  · trivial

theorem registerAt_only (node : StorageNode) (sp : StorageProvider) :
    Only (Of [.proxy, .register]) (registerAt node sp) := by
  refine only_bind (only_widen (only_passive (createDatabase_only _)) (by decide)) (fun err => ?_)
  cases err with
  | some err => trivial
  | none =>
    refine only_bind (only_widen (datasource_only node) (by decide)) (fun endpoint => ?_)
    refine only_bind (serverRegister_only _ _ _ _ _ _ _) (fun err => ?_)
    cases err <;> trivial

theorem registerStorageUnit_only (node : StorageNode) (sp : StorageProvider) :
    Only (Of [.proxy, .register]) (registerStorageUnit node sp) := by
  unfold registerStorageUnit
  split
  · trivial
  split
  · trivial
  split
  · trivial
  split
  · trivial
  refine only_bind (only_widen (getShardingsphereServer_only node) (by decide)) (fun err => ?_)
  cases err with
  | some err => trivial
  | none => exact only_bind (registerAt_only node sp) (fun _ => only_op rfl (fun _ => trivial))

theorem unregisterStorageUnit_unregistering (node : StorageNode) :
    Only Unregistering (unregisterStorageUnit node) := by
  unfold unregisterStorageUnit
  split
  · trivial
  split
  · trivial
  have hserver : Only Unregistering (getShardingsphereServer node) := by
    obtain ⟨k, hk, hpassive⟩ := getShardingsphereServer_passive node
    rw [hk]
    exact only_op trivial (fun r => (hpassive r).mono fun _ => passive_unregistering)
  refine only_bind hserver (fun err => ?_)
  cases err with
  | some err => trivial
  | none =>
    refine only_bind (serverUnRegister_only _ _) (fun err => only_op trivial (fun _ => ?_))
    cases err <;> trivial

theorem unregisterStorageUnit_only (node : StorageNode) :
    Only (Of [.proxy]) (unregisterStorageUnit node) := by
  refine (unregisterStorageUnit_unregistering node).mono (fun c hc => ?_)
  unfold Unregistering at hc
  split at hc
  · rfl
  · rfl
  · rfl
  · exact passive_proxy hc

def unregistered (n : StorageNode) : StorageNode :=
  { n with status := { n.status with registered := false } }

theorem unregisterStorageUnit_run {n m : StorageNode} {tr : List Ev}
    (h : Run alone (unregisterStorageUnit n) tr (.ok m)) :
    m = unregistered n ∧
      (n.status.registered = true → validateComputeNodeAnnotations n = none) := by
  unfold unregisterStorageUnit at h
  split at h
  · rename_i hreg
    obtain ⟨-, hm⟩ := run_ret.mp h
    cases hm
    have hreg' : n.status.registered = false := by simpa using hreg
    refine ⟨?_, fun ht => by simp [hreg'] at ht⟩
    rw [unregistered, ← hreg']
  split at h
  · cases (run_ret.mp h).2
  rename_i hvalid
  obtain ⟨tr₁, err, tr₂, -, h₂, rfl⟩ := run_bind.mp h
  cases err with
  | some err => cases (run_ret.mp h₂).2
  | none =>
    obtain ⟨tr₃, err, tr₄, -, h₄, rfl⟩ := run_bind.mp h₂
    obtain ⟨_, _, tr₅, -, h₅, rfl⟩ := run_call.mp h₄
    cases err with
    | some err => cases (run_ret.mp h₅).2
    | none =>
      cases (run_ret.mp h₅).2
      exact ⟨rfl, fun _ => hvalid⟩

end Proxy

section Provider

theorem getInstance_only (annotations : Dict) : Only (Of [.describe]) (getInstance annotations) := by
  unfold getInstance
  split
  · trivial
  · exact only_last rfl

theorem getRDSCluster_only (annotations : Dict) :
    Only (Of [.describe]) (getRDSCluster annotations) := by
  unfold getRDSCluster
  split
  · trivial
  · exact only_last rfl

theorem getAuroraCluster_only (annotations : Dict) :
    Only (Of [.describe]) (getAuroraCluster annotations) := by
  unfold getAuroraCluster
  split
  · trivial
  · exact only_last rfl

theorem generate_only (gentype : String) : Only (Of [.random]) (generate gentype) := by
  unfold generate
  split
  · refine only_op rfl (fun nBig => ?_)
    cases nBig with
    | error err => trivial
    | ok nBig => exact only_last rfl
  split
  · refine only_op rfl (fun nBig => ?_)
    cases nBig with
    | error err => trivial
    | ok nBig => exact only_last rfl
  · trivial

theorem requireParams_only (ks : List String) (params : Dict) :
    Only (Of [.random]) (requireParams ks params) := by
  induction ks generalizing params with
  | nil => trivial
  | cons k ks ih =>
    unfold requireParams
    split
    · split
      · exact only_bind (generate_only k) (fun g => ih _)
      · trivial
    · exact ih params

theorem validCreateInstanceParams_only (annotations params : Dict) :
    Only (Of [.random]) (validCreateInstanceParams annotations params) := by
  refine only_op rfl (fun order => only_bind (requireParams_only _ _) (fun params => ?_))
  cases params <;> trivial

theorem createInstance_only (annotations params : Dict) :
    Only (Of [.random, .create]) (createInstance annotations params) := by
  refine only_bind (only_widen (validCreateInstanceParams_only _ _) (by decide)) (fun r => ?_)
  cases r with
  | error err => trivial
  | ok r =>
    dsimp only
    split
    · trivial
    · refine only_op rfl (fun err => ?_)
      cases err <;> trivial

theorem validateClusterParams_only (table : List (String × String)) (annotations params : Dict) :
    Only (Of [.random]) (validateClusterParams table annotations params) := by
  unfold validateClusterParams
  split
  · trivial
  dsimp only
  split
  · trivial
  refine only_op rfl (fun order => ?_)
  split <;> trivial

theorem createAuroraCluster_only (annotations : Dict) (replicas : Int) (params : Dict) :
    Only (Of [.random, .create]) (createAuroraCluster annotations replicas params) := by
  refine only_bind (only_widen (validateClusterParams_only _ _ _) (by decide)) (fun r => ?_)
  cases r with
  | error err => trivial
  | ok params =>
    refine only_op rfl (fun err => ?_)
    cases err <;> trivial

theorem validateCreateRDSClusterParams_only (annotations params : Dict) :
    Only (Of [.random]) (validateCreateRDSClusterParams annotations params) := by
  refine only_bind (validateClusterParams_only _ _ _) (fun r => ?_)
  cases r with
  | error err => trivial
  | ok params =>
    dsimp only
    split
    · trivial
    split <;> trivial

theorem createRDSCluster_only (annotations params : Dict) :
    Only (Of [.random, .create]) (createRDSCluster annotations params) := by
  refine only_bind (only_widen (validateCreateRDSClusterParams_only _ _) (by decide)) (fun r => ?_)
  cases r with
  | error err => trivial
  | ok params =>
    dsimp only
    split
    · trivial
    · refine only_op rfl (fun err => ?_)
      cases err <;> trivial

theorem deleteInstance_only (annotations : Dict) (policy : ReclaimPolicy) :
    Only (Of [.describe, .delete]) (deleteInstance annotations policy) := by
  unfold deleteInstance
  split
  · trivial
  refine only_bind (only_widen (getInstance_only _) (by decide)) (fun ins => ?_)
  cases ins with
  | error err => trivial
  | ok ins =>
    cases ins with
    | none => trivial
    | some ins =>
      dsimp only
      split
      · trivial
      · exact only_last rfl

theorem deleteAuroraCluster_only (annotations : Dict) (policy : ReclaimPolicy) :
    Only (Of [.describe, .delete]) (deleteAuroraCluster annotations policy) := by
  unfold deleteAuroraCluster
  split
  · trivial
  · exact only_last rfl

theorem deleteRDSCluster_only (annotations : Dict) (policy : ReclaimPolicy) :
    Only (Of [.describe, .delete]) (deleteRDSCluster annotations policy) := by
  unfold deleteRDSCluster
  split
  · trivial
  refine only_op rfl (fun cluster => ?_)
  cases cluster with
  | error err => trivial
  | ok cluster =>
    cases cluster with
    | none => trivial
    | some cluster =>
      dsimp only
      split
      · trivial
      split
      · trivial
      · exact only_last rfl

theorem deleteRDSCluster_retain (annotations : Dict) :
    Only (Of [.describe]) (deleteRDSCluster annotations .retain) := by
  unfold deleteRDSCluster
  split
  · trivial
  refine only_op rfl (fun cluster => ?_)
  cases cluster with
  | error err => trivial
  | ok cluster =>
    cases cluster with
    | none => trivial
    | some cluster =>
      dsimp only [deleteClusterIn]
      split <;> trivial

theorem updateClusterStatus_only (node : StorageNode) (cluster : Option DescCluster) :
    Only (Of [.describe]) (updateClusterStatus node cluster) := by
  refine only_op rfl (fun instances => ?_)
  cases instances <;> trivial

theorem noteCluster_only (node : StorageNode) (cluster : Option DescCluster) :
    Only (Of [.describe]) (noteCluster node cluster) := by
  refine only_bind (updateClusterStatus_only node cluster) (fun r => ?_)
  cases r <;> trivial

theorem holdCluster_only (node : StorageNode) (sp : StorageProvider)
    (cluster : Option DescCluster) : Only (Of [.describe]) (holdCluster node sp cluster) := by
  refine only_bind (updateClusterStatus_only node cluster) (fun r => ?_)
  cases r <;> trivial

theorem getClusterByNamespacedName_only (name nameSpace : String) :
    Only (Of [.describe]) (getClusterByNamespacedName name nameSpace) := by
  refine only_op rfl (fun c => ?_)
  cases c with
  | error err => cases err <;> trivial
  | ok c => trivial

end Provider

section Reconcile

def provisioning : List Kind := [.describe, .random, .create, .stop]

theorem reconcileAwsRdsInstance_only (node : StorageNode) (sp : StorageProvider) :
    Only (Of provisioning) (reconcileAwsRdsInstance node sp) := by
  refine only_bind (only_widen (getInstance_only _) (by decide)) (fun r => ?_)
  cases r with
  | error err => trivial
  | ok ins =>
    dsimp only
    split
    · refine only_bind (only_widen (createInstance_only _ _) (by decide)) (fun r => ?_)
      cases r with
      | error err => trivial
      | ok r =>
        refine only_bind (only_widen (getInstance_only _) (by decide)) (fun r => ?_)
        cases r <;> trivial
    · trivial

theorem reconcileCluster_only {P : Op → Prop}
    {get : Dict → Rec (Except Err (Option DescCluster))}
    {create : StorageNode → Dict → Rec (Except Err Dict)} (hP : ∀ c, Of [.describe] c → P c)
    (hget : ∀ a, Only (Of [.describe]) (get a)) (hcreate : ∀ n d, Only P (create n d))
    (node : StorageNode) (sp : StorageProvider) : Only P (reconcileCluster get create node sp) := by
  refine only_bind ((hget _).mono hP) (fun r => ?_)
  cases r with
  | error err => trivial
  | ok cluster =>
    cases cluster with
    | some cluster => exact (holdCluster_only _ _ _).mono hP
    | none =>
      refine only_bind (hcreate _ _) (fun r => ?_)
      cases r with
      | error err => trivial
      | ok params =>
        refine only_bind ((hget _).mono hP) (fun r => ?_)
        cases r with
        | error err => trivial
        | ok cluster => exact (holdCluster_only _ _ _).mono hP

theorem applyCloudNativePGCluster_eq (sn : StorageNode) (sp : StorageProvider)
    (cluster : Option PGCluster) :
    applyCloudNativePGCluster sn sp cluster =
      (op (.panic .clusterSpec) >>= fun x => nomatch x) := by
  have hstop : ∀ f : ClusterSpec → Rec (Option Err), (buildCluster sp >>= f) =
      (op (.panic .clusterSpec) >>= fun x => nomatch x) := by
    intro f
    rw [buildCluster, newCluster_panics]
    exact congrArg (Proc.call (Op.panic .clusterSpec)) (funext (fun x : Empty => nomatch x))
  cases cluster with
  | some cluster => exact hstop _
  | none => exact hstop _

theorem applyCloudNativePGCluster_only (sn : StorageNode) (sp : StorageProvider)
    (cluster : Option PGCluster) : Only (Of [.stop]) (applyCloudNativePGCluster sn sp cluster) := by
  rw [applyCloudNativePGCluster_eq]
  exact only_op rfl (fun x => nomatch x)

theorem reconcileCloudNativePG_only (sn : StorageNode) (sp : StorageProvider) :
    Only (Of [.describe, .stop]) (reconcileCloudNativePG sn sp) := by
  refine only_bind (only_widen (getClusterByNamespacedName_only _ _) (by decide)) (fun r => ?_)
  cases r with
  | error err => trivial
  | ok cluster =>
    refine only_bind (only_widen (applyCloudNativePGCluster_only _ _ _) (by decide)) (fun r => ?_)
    cases r <;> trivial

theorem reconcileCloudNativePG_fails (sn : StorageNode) (sp : StorageProvider) :
    Yields (fun r => ∃ err, r = .error err) (reconcileCloudNativePG sn sp) := by
  refine yields_bind yields_true (fun r _ => ?_)
  cases r with
  | error err => exact ⟨_, rfl⟩
  | ok cluster =>
    dsimp only
    rw [applyCloudNativePGCluster_eq]
    exact fun x => nomatch x

theorem reconcileProvisioner_only {node : StorageNode} {sp : StorageProvider}
    {p : Rec (Except Err Held)} (h : reconcileProvisioner node sp = some p) :
    Only (Of provisioning) p := by
  have hdescribe : ∀ c, Of [.describe] c → Of provisioning c := by
    intro c hc
    have hk : kind c = .describe := by simpa [Of] using hc
    rw [Of, hk]
    rfl
  unfold reconcileProvisioner at h
  split at h
  · cases h
    exact reconcileAwsRdsInstance_only _ _
  · cases h
    exact reconcileCluster_only hdescribe getRDSCluster_only
      (fun _ _ => only_widen (createRDSCluster_only _ _) (by decide)) _ _
  · cases h
    exact reconcileCluster_only hdescribe getAuroraCluster_only
      (fun _ _ => only_widen (createAuroraCluster_only _ _ _) (by decide)) _ _
  · cases h
    exact only_widen (reconcileCloudNativePG_only _ _) (by decide)
  · cases h

def reconciling : List Kind := [.describe, .random, .create, .stop, .proxy, .register, .write]

theorem storeStatus_only (node : StorageNode) : Only (Of [.write]) (storeStatus node) := by
  refine only_op rfl (fun err => ?_)
  cases err <;> trivial

theorem reconcile_only (sp : StorageProvider) (node : StorageNode) :
    Only (Of reconciling) (reconcile sp node) := by
  unfold reconcile
  cases hp : reconcileProvisioner node sp with
  | none => trivial
  | some p =>
    refine only_bind (only_widen (reconcileProvisioner_only hp) (by decide)) (fun r => ?_)
    cases r with
    | error err => trivial
    | ok held =>
      refine only_bind (only_widen (registerStorageUnit_only _ _) (by decide)) (fun r => ?_)
      cases r with
      | error err => trivial
      | ok node => exact only_widen (storeStatus_only node) (by decide)

theorem adopt_only (node : StorageNode) (sp : StorageProvider) :
    Only (Of reconciling) (adopt node sp) := by
  refine only_op rfl (fun err => ?_)
  cases err with
  | some err => trivial
  | none => exact reconcile_only sp _

end Reconcile

section Finalize

def deletion : List Kind := [.describe, .delete]

theorem deleteAWSRDSInstance_only (node : StorageNode) (sp : StorageProvider) :
    Only (Of deletion) (deleteAWSRDSInstance node sp) := by
  unfold deleteAWSRDSInstance
  split
  · trivial
  refine only_bind (only_widen (getInstance_only _) (by decide)) (fun r => ?_)
  cases r with
  | error err => trivial
  | ok ins =>
    cases ins with
    | none => trivial
    | some ins =>
      dsimp only
      split
      · trivial
      · refine only_bind (deleteInstance_only _ _) (fun r => ?_)
        cases r <;> trivial

theorem deleteCluster_only {ks : List Kind} {what : String}
    {get : Dict → Rec (Except Err (Option DescCluster))}
    {delete : Dict → ReclaimPolicy → Rec (Option Err)} (node : StorageNode) (sp : StorageProvider)
    (hks : [.describe] ⊆ ks) (hget : ∀ a, Only (Of [.describe]) (get a))
    (hdelete : Only (Of ks) (delete node.annotations sp.reclaimPolicy)) :
    Only (Of ks) (deleteCluster what get delete node sp) := by
  unfold deleteCluster
  split
  · trivial
  refine only_bind (only_widen (hget _) hks) (fun r => ?_)
  cases r with
  | error err => trivial
  | ok cluster =>
    cases cluster with
    | none => exact only_widen (noteCluster_only _ _) hks
    | some cluster =>
      dsimp only
      split
      · exact only_widen (noteCluster_only _ _) hks
      · refine only_bind hdelete (fun r => ?_)
        cases r with
        | some err => trivial
        | none => exact only_widen (noteCluster_only _ _) hks

theorem deleteDatabaseCluster_only (node : StorageNode) (sp : StorageProvider) :
    Only (Of deletion) (deleteDatabaseCluster node sp) := by
  unfold deleteDatabaseCluster
  split
  · exact only_bind (deleteAWSRDSInstance_only _ _) (fun _ => trivial)
  · exact only_bind (deleteCluster_only _ _ (by decide) getRDSCluster_only
      (deleteRDSCluster_only _ _)) (fun _ => trivial)
  · exact only_bind (deleteCluster_only _ _ (by decide) getAuroraCluster_only
      (deleteAuroraCluster_only _ _)) (fun _ => trivial)
  · trivial
  · trivial

theorem finalizeCloudNativePG_only (node : StorageNode) :
    Only (Of [.describe, .delete, .write]) (finalizeCloudNativePG node) := by
  refine only_bind (only_widen (getClusterByNamespacedName_only _ _) (by decide)) (fun r => ?_)
  cases r with
  | error err => trivial
  | ok cluster =>
    have hdelete : Only (Of [.describe, .delete, .write]) (deleteCloudNativePGCluster cluster) := by
      cases cluster with
      | none => trivial
      | some cluster => exact only_last rfl
    refine only_bind hdelete (fun r => ?_)
    cases r with
    | some err => trivial
    | none =>
      refine only_op rfl (fun err => ?_)
      cases err <;> trivial

/-- What a pass over a node that is being deleted may do. -/
def finalizing : List Kind := [.describe, .delete, .proxy, .write]

theorem finalizeDatabase_only (node : StorageNode) (sp : StorageProvider) :
    Only (Of finalizing) (finalizeDatabase node sp) := by
  refine only_bind (only_widen (unregisterStorageUnit_only node) (by decide)) (fun r => ?_)
  cases r with
  | error err => trivial
  | ok node =>
    refine only_bind (only_widen (deleteDatabaseCluster_only node sp) (by decide)) (fun r => ?_)
    cases r with
    | error err => trivial
    | ok node => exact only_widen (storeStatus_only node) (by decide)

theorem finalize_only (node : StorageNode) (sp : StorageProvider) :
    Only (Of finalizing) (finalize node sp) := by
  unfold finalize
  split
  · exact only_op rfl (fun _ => trivial)
  dsimp only
  split
  · exact only_widen (finalizeCloudNativePG_only _) (by decide)
  · exact finalizeDatabase_only _ sp

end Finalize

theorem getStorageProvider_only (aws : AwsConfig) (node : StorageNode) :
    Only (Of [.read]) (getStorageProvider aws node) := by
  unfold getStorageProvider
  split
  · trivial
  refine only_op rfl (fun r => ?_)
  cases r with
  | error err => trivial
  | ok sp =>
    dsimp only
    split <;> trivial

end ShardingOnCloud.Operator.StorageNodeSpec
