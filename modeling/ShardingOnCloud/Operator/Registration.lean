import ShardingOnCloud.Operator.Provisioning
import ShardingOnCloud.Operator.StorageNodeWrites

namespace ShardingOnCloud.Operator.Registration

open ShardingOnCloud.Lib.Program ShardingOnCloud.Lib.Pool ShardingOnCloud.Lib.Footprint
open ShardingOnCloud.Lib.Strconv ShardingOnCloud.Operator.Rds
open ShardingOnCloud.Operator.StorageNodeTypes ShardingOnCloud.Operator.Calls
open ShardingOnCloud.Operator.CloudNativePG
open ShardingOnCloud.Operator.StorageNodeController ShardingOnCloud.Operator.StorageNodeSpec
open ShardingOnCloud.Operator.StorageNodeRuns ShardingOnCloud.Operator.Provisioning
open ShardingOnCloud.Operator.StorageNodeWrites

section Register

/-- The calls of `registerStorageUnit` that need an endpoint. -/
def Registering (c : Op) : Prop := kind c = .register ∨ c = .panic .instances

theorem passive_registering {c : Op} (h : Passive c) : ¬Registering c := by
  rintro (hk | rfl)
  · cases c with
    | dbExec s =>
      cases s with
      | registerStorageUnit dsName dsHost dsPort dsDBName dsUser dsPassword => exact h
      | _ => cases hk
    | panic p => cases p <;> cases hk
    | _ => cases hk
  · exact h

theorem unregistering_registering {c : Op} (h : Unregistering c) : ¬Registering c := by
  unfold Unregistering at h
  split at h
  · rintro (hk | hk) <;> cases hk
  · rintro (hk | hk) <;> cases hk
  · rintro (hk | hk) <;> cases hk
  · exact passive_registering h

def Datasource (n : StorageNode) (endpoint : Endpoint) : Prop :=
  (n.status.cluster.status = "" ∧ ∃ ins rest, n.status.instances = ins :: rest ∧
    endpoint = ins.endpoint) ∨
  (n.status.cluster.status ≠ "" ∧ endpoint = n.status.cluster.primaryEndpoint)

def registration (n : StorageNode) (sp : StorageProvider) (endpoint : Endpoint) : Op :=
  .dbExec (.registerStorageUnit (getDSName n) endpoint.address (uint endpoint.port)
    (n.annotations.get annotationsInstanceDBName) (getUsername n sp) (getPassword n sp))

theorem getDatasourceInfo_run {n : StorageNode} {tr : List Ev} {endpoint : Endpoint}
    (h : Run alone (getDatasourceInfo n) tr endpoint) : Datasource n endpoint := by
  unfold getDatasourceInfo at h
  split at h
  · rename_i hc
    unfold getDatasourceInfoFromInstance at h
    split at h
    · obtain ⟨x, -⟩ := run_call.mp h
      exact x.elim
    · rename_i ins rest hins
      exact Or.inl ⟨hc, ins, rest, hins, (run_ret.mp h).2⟩
  · rename_i hc
    exact Or.inr ⟨hc, (run_ret.mp h).2⟩

theorem getDatasourceInfo_panic {n : StorageNode} {tr : List Ev} {e : Ev}
    (h : Cut alone (getDatasourceInfo n) tr) (he : e ∈ tr) :
    about e = .panic .instances ∧ n.status.cluster.status = "" ∧ n.status.instances = [] := by
  unfold getDatasourceInfo at h
  split at h
  · rename_i hc
    unfold getDatasourceInfoFromInstance at h
    split at h
    · rename_i hins
      refine ⟨?_, hc, hins⟩
      cases h with
      | here => cases he
      | inside hd =>
        cases hd
        rw [List.mem_singleton.mp he]
        rfl
      | @call _ _ r _ _ _ _ => exact r.elim
    · cases h
      cases he
  · cases h
    cases he

/-- What may be asked for with an endpoint at hand, or without one. -/
def Issued (n : StorageNode) (sp : StorageProvider) (c : Op) : Prop :=
  (c = .panic .instances ∧ n.status.cluster.status = "" ∧ n.status.instances = []) ∨
  ∃ endpoint, Datasource n endpoint ∧ c = registration n sp endpoint

theorem not_registering {α : Type} {p : Rec α} (h : Only Passive p) :
    Only (fun c => ¬Registering c) p := h.mono (fun _ => passive_registering)

theorem registerAt_issues {n : StorageNode} {sp : StorageProvider} {tr : List Ev} {e : Ev}
    (h : Cut alone (registerAt n sp) tr) (he : e ∈ tr) (hr : Registering (about e)) :
    Issued n sp (about e) := by
  obtain ⟨tr₁, err, tr₂, -, h₂, rfl, he₂⟩ :=
    cut_past h (not_registering (createDatabase_only _)) he (not_not.mpr hr)
  cases err with
  | some err =>
    cases h₂
    cases he₂
  | none =>
    obtain hcut | ⟨tr₃, endpoint, tr₄, h₃, h₄, rfl⟩ := cut_bind h₂
    · exact Or.inl (getDatasourceInfo_panic hcut he₂)
    · rcases List.mem_append.mp he₂ with he₃ | he₄
      · exact Or.inl (getDatasourceInfo_panic h₃.cut he₃)
      · refine Or.inr ⟨endpoint, getDatasourceInfo_run h₃, ?_⟩
        have hserver : Only (fun c => Registering c → c = registration n sp endpoint)
            (Server.registerStorageUnit (n.annotations.get annotationKeyLogicDatabaseName)
              (getDSName n) endpoint.address (uint endpoint.port)
              (n.annotations.get annotationsInstanceDBName) (getUsername n sp)
              (getPassword n sp)) := by
          refine only_op (fun hx => ?_) (fun err => ?_)
          · obtain hx | hx := hx <;> cases hx
          · cases err with
            | some err => trivial
            | none =>
              refine only_op (fun _ => rfl) (fun err => ?_)
              cases err <;> trivial
        refine (only_bind hserver (fun err => ?_)).events h₄ e he₄ hr
        cases err <;> trivial

theorem registerStorageUnit_issues {n : StorageNode} {sp : StorageProvider} {tr : List Ev} {e : Ev}
    (h : Cut alone (registerStorageUnit n sp) tr) (he : e ∈ tr) (hr : Registering (about e)) :
    n.annotations.get annotationKeyRegisterStorageUnitEnabled = "true" ∧
    validateComputeNodeAnnotations n = none ∧ n.status.registered = false ∧
    n.status.phase = .ready ∧ Issued n sp (about e) := by
  have hnil : ∀ {r : Except Err StorageNode}, Cut alone (.ret r : Rec _) tr → False := by
    intro r hret
    cases hret
    cases he
  unfold registerStorageUnit at h
  split at h
  · exact (hnil h).elim
  rename_i henabled
  split at h
  · exact (hnil h).elim
  rename_i hvalid
  split at h
  · exact (hnil h).elim
  rename_i hreg
  split at h
  · exact (hnil h).elim
  rename_i hphase
  refine ⟨not_not.mp henabled, hvalid, by simpa using hreg, not_not.mp hphase, ?_⟩
  have hserver : Only (fun c => ¬Registering c) (getShardingsphereServer n) := by
    obtain ⟨k, hk, hpassive⟩ := getShardingsphereServer_passive n
    rw [hk]
    refine only_op (fun hx => ?_) (fun r => not_registering (hpassive r))
    obtain hx | hx := hx <;> cases hx
  obtain ⟨tr₁, err, tr₂, -, h₂, rfl, he₂⟩ := cut_past h hserver he (not_not.mpr hr)
  cases err with
  | some err =>
    cases h₂
    cases he₂
  | none =>
    obtain hcut | ⟨tr₃, r, tr₄, h₃, h₄, rfl⟩ := cut_bind h₂
    · exact registerAt_issues hcut he₂ hr
    · rcases List.mem_append.mp he₂ with he₃ | he₄
      · exact registerAt_issues h₃.cut he₃ hr
      · have hclose : Only Passive (op .dbClose >>= fun _ => (pure r : Rec _)) :=
          only_op trivial (fun _ => trivial)
        exact absurd hr (passive_registering (hclose.events h₄ e he₄))

end Register

section Observation

def latest {α : Type} (f : Ev → Option α) (tr : List Ev) : Option α := (tr.filterMap f).getLast?

@[simp] theorem latest_append {α : Type} (f : Ev → Option α) (tr tr' : List Ev) :
    latest f (tr ++ tr') = (latest f tr').or (latest f tr) := by
  rw [latest, List.filterMap_append, List.getLast?_append]
  rfl

theorem latest_none {α : Type} {f : Ev → Option α} {tr : List Ev} (h : ∀ e ∈ tr, f e = none) :
    latest f tr = none := by
  rw [latest, List.filterMap_eq_nil_iff.mpr h]
  rfl

/-- What the provider tells of an instance, a cluster and its members. -/
def toldInstance : Ev → Option (Option DescInstance)
  | .main (.reply (.describeInstance _) (.ok d)) => some d
  | _ => none

def toldCluster : Ev → Option (Option DescCluster)
  | .main (.reply (.describeCluster _) (.ok d)) => some d
  | .main (.reply (.describeAurora _) (.ok d)) => some d
  | _ => none

def toldMembers : Ev → Option (List DescInstance)
  | .main (.reply (.describeInstances _) (.ok ds)) => some ds
  | _ => none

def toldPGCluster : Ev → Option (Option PGCluster)
  | .main (.reply (.getPGCluster _ _) (.ok c)) => some (some c)
  | .main (.reply (.getPGCluster _ _) (.error (.notFound _))) => some none
  | _ => none

def lastInstance (tr : List Ev) : Option DescInstance := (latest toldInstance tr).join

def lastCluster (tr : List Ev) : Option DescCluster := (latest toldCluster tr).join

def lastMembers (tr : List Ev) : List DescInstance := (latest toldMembers tr).getD []

def lastPGCluster (tr : List Ev) : Option PGCluster := (latest toldPGCluster tr).join

/-- The status that is built from what the provider tells in a pass. -/
def observed (n : StorageNode) (tr : List Ev) : Provisioner → StorageNodeStatus
  | .awsRdsInstance => (updateAWSRDSInstanceStatus n (lastInstance tr)).status
  | .awsRdsCluster | .awsAurora =>
    { n.status with
      cluster := clusterStatus (lastCluster tr)
      instances := (lastMembers tr).map instanceStatus }
  | .cloudNativePG => (updateCloudNativePGClusterStatus n (lastPGCluster tr)).status
  | .unsupported _ => n.status

def endpoints (tr : List Ev) : Provisioner → List Endpoint
  | .awsRdsInstance => (lastInstance tr).toList.map DescInstance.endpoint
  | .awsRdsCluster | .awsAurora =>
    (lastCluster tr).toList.flatMap
        (fun c => [⟨c.primaryEndpoint, c.port⟩, ⟨c.readerEndpoint, c.port⟩]) ++
      (lastMembers tr).map DescInstance.endpoint
  | .cloudNativePG =>
    (lastPGCluster tr).toList.flatMap
      (fun c => [⟨c.status.writeService, 5432⟩, ⟨c.status.readService, 5432⟩] ++
        (c.status.instancesStatus.flatMap pgInstances).map InstanceStatus.endpoint)
  | .unsupported _ => []

abbrev Silent (tr : List Ev) : Prop := ∀ e ∈ tr, kind (about e) ≠ .describe

theorem silent_of {ks : List Kind} {α : Type} {p : Rec α} {tr : List Ev} (h : Only (Of ks) p)
    (hc : Cut alone p tr) (hks : .describe ∉ ks) : Silent tr := (only_avoids h hks).events hc

def Tells {α : Type} (f : Ev → Option α) : Prop := ∀ e, kind (about e) ≠ .describe → f e = none

theorem toldInstance_tells : Tells toldInstance := by
  intro e hk
  unfold toldInstance
  split
  · exact absurd rfl hk
  · rfl

theorem toldCluster_tells : Tells toldCluster := by
  intro e hk
  unfold toldCluster
  split
  · exact absurd rfl hk
  · exact absurd rfl hk
  · rfl

theorem toldMembers_tells : Tells toldMembers := by
  intro e hk
  unfold toldMembers
  split
  · exact absurd rfl hk
  · rfl

theorem toldPGCluster_tells : Tells toldPGCluster := by
  intro e hk
  unfold toldPGCluster
  split
  · exact absurd rfl hk
  · exact absurd rfl hk
  · rfl

theorem latest_silent {α : Type} {f : Ev → Option α} {tr : List Ev} (hf : Tells f)
    (h : Silent tr) : latest f tr = none := latest_none (fun e he => hf e (h e he))

theorem latest_around {α : Type} {f : Ev → Option α} {as tr bs : List Ev} (hf : Tells f)
    (ha : Silent as) (hb : Silent bs) : latest f (as ++ (tr ++ bs)) = latest f tr := by
  rw [latest_append, latest_append, latest_silent hf ha, latest_silent hf hb, Option.none_or,
    Option.or_none]

theorem observed_around {n : StorageNode} {as tr bs : List Ev} {p : Provisioner}
    (ha : Silent as) (hb : Silent bs) : observed n (as ++ (tr ++ bs)) p = observed n tr p := by
  cases p <;> simp only [observed, lastInstance, lastCluster, lastMembers, lastPGCluster,
    latest_around toldInstance_tells ha hb, latest_around toldCluster_tells ha hb,
    latest_around toldMembers_tells ha hb, latest_around toldPGCluster_tells ha hb]

theorem getInstance_told {a : Dict} {tr : List Ev} {ins : Option DescInstance}
    (h : Run alone (getInstance a) tr (.ok ins)) : latest toldInstance tr = some ins := by
  unfold getInstance at h
  split at h
  · cases (run_ret.mp h).2
  · rw [run_op h]
    rfl

theorem getRDSCluster_told {a : Dict} {tr : List Ev} {cluster : Option DescCluster}
    (h : Run alone (getRDSCluster a) tr (.ok cluster)) : latest toldCluster tr = some cluster := by
  unfold getRDSCluster at h
  split at h
  · cases (run_ret.mp h).2
  · rw [run_op h]
    rfl

theorem getAuroraCluster_told {a : Dict} {tr : List Ev} {cluster : Option DescCluster}
    (h : Run alone (getAuroraCluster a) tr (.ok cluster)) :
    latest toldCluster tr = some cluster := by
  unfold getAuroraCluster at h
  split at h
  · cases (run_ret.mp h).2
  · rw [run_op h]
    rfl

theorem reconcileAwsRdsInstance_observed {n : StorageNode} {sp : StorageProvider} {tr : List Ev}
    {held : Held} (h : Run alone (reconcileAwsRdsInstance n sp) tr (.ok held)) :
    held.1.status = observed n tr .awsRdsInstance := by
  obtain ⟨tr₁, r, tr₂, h₁, h₂, rfl⟩ := run_bind.mp h
  cases r with
  | error err => cases (run_ret.mp h₂).2
  | ok ins =>
    have hfirst := getInstance_told h₁
    dsimp only at h₂
    split at h₂
    · obtain ⟨tr₃, r, tr₄, h₃, h₄, rfl⟩ := run_bind.mp h₂
      cases r with
      | error err => cases (run_ret.mp h₄).2
      | ok created =>
        obtain ⟨tr₅, r, tr₆, h₅, h₆, rfl⟩ := run_bind.mp h₄
        cases r with
        | error err => cases (run_ret.mp h₆).2
        | ok ins' =>
          obtain ⟨rfl, hheld⟩ := run_ret.mp h₆
          cases hheld
          have hlast : lastInstance (tr₁ ++ (tr₃ ++ (tr₅ ++ []))) = ins' := by
            simp [lastInstance, getInstance_told h₅]
          rw [observed, hlast]
          rfl
    · obtain ⟨rfl, hheld⟩ := run_ret.mp h₂
      cases hheld
      have hlast : lastInstance (tr₁ ++ []) = ins := by simp [lastInstance, hfirst]
      rw [observed, hlast]

theorem holdCluster_observed {n : StorageNode} {sp : StorageProvider} {tr tr' : List Ev}
    {cluster : Option DescCluster} {held : Held}
    (h : Run alone (holdCluster n sp cluster) tr' (.ok held))
    (hc : latest toldCluster tr = some cluster) :
    held.1.status = { n.status with
      cluster := clusterStatus (lastCluster (tr ++ tr'))
      instances := (lastMembers (tr ++ tr')).map instanceStatus } := by
  obtain ⟨tr₁, r, tr₂, h₁, h₂, rfl⟩ := run_bind.mp h
  cases r with
  | error err => cases (run_ret.mp h₂).2
  | ok m =>
    obtain ⟨rfl, hheld⟩ := run_ret.mp h₂
    cases hheld
    obtain ⟨tr₃, r, tr₄, h₃, h₄, rfl⟩ := run_bind.mp h₁
    cases r with
    | error err => cases (run_ret.mp h₄).2
    | ok ins =>
      obtain ⟨rfl, hm⟩ := run_ret.mp h₄
      cases hm
      have hmembers : latest toldMembers tr₃ = some ins := by
        rw [run_op h₃]
        rfl
      have hother : latest toldCluster tr₃ = none := by
        rw [run_op h₃]
        rfl
      simp [lastCluster, lastMembers, hmembers, hother, hc]

theorem reconcileCluster_observed {get : Dict → Rec (Except Err (Option DescCluster))}
    {create : StorageNode → Dict → Rec (Except Err Dict)} {n : StorageNode}
    {sp : StorageProvider} {tr : List Ev} {held : Held}
    (hget : ∀ {a tr c}, Run alone (get a) tr (.ok c) → latest toldCluster tr = some c)
    (h : Run alone (reconcileCluster get create n sp) tr (.ok held)) :
    held.1.status = { n.status with
      cluster := clusterStatus (lastCluster tr)
      instances := (lastMembers tr).map instanceStatus } := by
  obtain ⟨tr₁, r, tr₂, h₁, h₂, rfl⟩ := run_bind.mp h
  cases r with
  | error err => cases (run_ret.mp h₂).2
  | ok cluster =>
    cases cluster with
    | some cluster => exact holdCluster_observed h₂ (hget h₁)
    | none =>
      obtain ⟨tr₃, r, tr₄, h₃, h₄, rfl⟩ := run_bind.mp h₂
      cases r with
      | error err => cases (run_ret.mp h₄).2
      | ok params =>
        obtain ⟨tr₅, r, tr₆, h₅, h₆, rfl⟩ := run_bind.mp h₄
        cases r with
        | error err => cases (run_ret.mp h₆).2
        | ok cluster =>
          have hc : latest toldCluster (tr₁ ++ (tr₃ ++ tr₅)) = some cluster := by
            simp [hget h₅]
          have := holdCluster_observed h₆ hc
          simpa [List.append_assoc] using this

theorem reconcileProvisioner_observed {n : StorageNode} {sp : StorageProvider}
    {p : Rec (Except Err Held)} {tr : List Ev} {held : Held}
    (hp : reconcileProvisioner n sp = some p) (h : Run alone p tr (.ok held)) :
    held.1.status = observed n tr sp.provisioner := by
  unfold reconcileProvisioner at hp
  split at hp
  · rename_i hsp
    cases hp
    rw [hsp]
    exact reconcileAwsRdsInstance_observed h
  · rename_i hsp
    cases hp
    rw [hsp]
    exact reconcileCluster_observed getRDSCluster_told h
  · rename_i hsp
    cases hp
    rw [hsp]
    exact reconcileCluster_observed getAuroraCluster_told h
  · cases hp
    obtain ⟨err, hx⟩ := (reconcileCloudNativePG_fails n sp).run h
    cases hx
  · cases hp

def Creates (tr : List Ev) : Prop := ∃ e ∈ tr, kind (about e) = .create

theorem Creates.left {tr tr' : List Ev} (h : Creates tr) : Creates (tr ++ tr') := by
  obtain ⟨e, he, hk⟩ := h
  exact ⟨e, List.mem_append_left _ he, hk⟩

theorem Creates.right {tr tr' : List Ev} (h : Creates tr') : Creates (tr ++ tr') := by
  obtain ⟨e, he, hk⟩ := h
  exact ⟨e, List.mem_append_right _ he, hk⟩

theorem run_op_creates {c : Op} {tr : List Ev} {r : OpR c} (h : Run alone (op c) tr r)
    (hc : kind c = .create) : Creates tr := ⟨_, run_op_reply h, hc⟩

theorem createInstance_creates {a d : Dict} {tr : List Ev} {r : Dict × Dict}
    (h : Run alone (createInstance a d) tr (.ok r)) : Creates tr := by
  obtain ⟨tr₁, r₁, tr₂, -, h₂, rfl⟩ := run_bind.mp h
  cases r₁ with
  | error err => cases (run_ret.mp h₂).2
  | ok r₁ =>
    dsimp only at h₂
    split at h₂
    · cases (run_ret.mp h₂).2
    · obtain ⟨tr₃, err, tr₄, h₃, -, rfl⟩ := run_bind.mp h₂
      exact (run_op_creates h₃ rfl).left.right

theorem createRDSCluster_creates {a d d' : Dict} {tr : List Ev}
    (h : Run alone (createRDSCluster a d) tr (.ok d')) : Creates tr := by
  obtain ⟨tr₁, r₁, tr₂, -, h₂, rfl⟩ := run_bind.mp h
  cases r₁ with
  | error err => cases (run_ret.mp h₂).2
  | ok params =>
    dsimp only at h₂
    split at h₂
    · cases (run_ret.mp h₂).2
    · obtain ⟨tr₃, err, tr₄, h₃, -, rfl⟩ := run_bind.mp h₂
      exact (run_op_creates h₃ rfl).left.right

theorem createAuroraCluster_creates {a d d' : Dict} {replicas : Int} {tr : List Ev}
    (h : Run alone (createAuroraCluster a replicas d) tr (.ok d')) : Creates tr := by
  obtain ⟨tr₁, r₁, tr₂, -, h₂, rfl⟩ := run_bind.mp h
  cases r₁ with
  | error err => cases (run_ret.mp h₂).2
  | ok params =>
    obtain ⟨tr₃, err, tr₄, h₃, -, rfl⟩ := run_bind.mp h₂
    exact (run_op_creates h₃ rfl).left.right

def Unchanged (n : StorageNode) (sp : StorageProvider) (held : Held) : Prop :=
  held.1.annotations = n.annotations ∧ held.2 = sp

theorem reconcileAwsRdsInstance_held {n : StorageNode} {sp : StorageProvider} {tr : List Ev}
    {held : Held} (h : Run alone (reconcileAwsRdsInstance n sp) tr (.ok held)) :
    Creates tr ∨ Unchanged n sp held := by
  obtain ⟨tr₁, r, tr₂, -, h₂, rfl⟩ := run_bind.mp h
  cases r with
  | error err => cases (run_ret.mp h₂).2
  | ok ins =>
    dsimp only at h₂
    split at h₂
    · obtain ⟨tr₃, r, tr₄, h₃, h₄, rfl⟩ := run_bind.mp h₂
      cases r with
      | error err => cases (run_ret.mp h₄).2
      | ok created => exact Or.inl (createInstance_creates h₃).left.right
    · cases (run_ret.mp h₂).2
      exact Or.inr ⟨rfl, rfl⟩

theorem holdCluster_held {n : StorageNode} {sp : StorageProvider} {cluster : Option DescCluster}
    {tr : List Ev} {held : Held} (h : Run alone (holdCluster n sp cluster) tr (.ok held)) :
    Unchanged n sp held := by
  obtain ⟨tr₁, r, tr₂, h₁, h₂, rfl⟩ := run_bind.mp h
  cases r with
  | error err => cases (run_ret.mp h₂).2
  | ok m =>
    cases (run_ret.mp h₂).2
    obtain ⟨ins, -, rfl⟩ := updateClusterStatus_run h₁
    exact ⟨rfl, rfl⟩

theorem reconcileCluster_held {get : Dict → Rec (Except Err (Option DescCluster))}
    {create : StorageNode → Dict → Rec (Except Err Dict)} {n : StorageNode}
    {sp : StorageProvider} {tr : List Ev} {held : Held}
    (hcreate : ∀ {n d tr d'}, Run alone (create n d) tr (.ok d') → Creates tr)
    (h : Run alone (reconcileCluster get create n sp) tr (.ok held)) :
    Creates tr ∨ Unchanged n sp held := by
  obtain ⟨tr₁, r, tr₂, -, h₂, rfl⟩ := run_bind.mp h
  cases r with
  | error err => cases (run_ret.mp h₂).2
  | ok cluster =>
    cases cluster with
    | some cluster => exact Or.inr (holdCluster_held h₂)
    | none =>
      obtain ⟨tr₃, r, tr₄, h₃, h₄, rfl⟩ := run_bind.mp h₂
      cases r with
      | error err => cases (run_ret.mp h₄).2
      | ok params => exact Or.inl (hcreate h₃).left.right

theorem reconcileProvisioner_held {n : StorageNode} {sp : StorageProvider}
    {p : Rec (Except Err Held)} {tr : List Ev} {held : Held}
    (hp : reconcileProvisioner n sp = some p) (h : Run alone p tr (.ok held)) :
    Creates tr ∨ Unchanged n sp held := by
  unfold reconcileProvisioner at hp
  split at hp
  · cases hp
    exact reconcileAwsRdsInstance_held h
  · cases hp
    exact reconcileCluster_held createRDSCluster_creates h
  · cases hp
    exact reconcileCluster_held createAuroraCluster_creates h
  · cases hp
    obtain ⟨err, hx⟩ := (reconcileCloudNativePG_fails n sp).run h
    cases hx
  · cases hp

/-- A registration, with the database as this very pass has found it. -/
structure Registered (tr : List Ev) (n : StorageNode) (sp : StorageProvider) (c : Op)
    (m : StorageNode) (sp' : StorageProvider) : Prop where
  supported : ∀ name, sp.provisioner ≠ .unsupported name
  built : sp.provisioner ≠ .cloudNativePG
  provisioned : Provisioned n m
  status_eq : m.status = observed n tr sp.provisioner
  held : Creates tr ∨ Unchanged n sp (m, sp')
  enabled : n.annotations.get annotationKeyRegisterStorageUnitEnabled = "true"
  valid : validateComputeNodeAnnotations n = none
  unregistered : n.status.registered = false
  ready : m.status.phase = .ready
  issued : Issued m sp' c

theorem validate_eq {n m : StorageNode} (h : Provisioned n m) :
    validateComputeNodeAnnotations m = validateComputeNodeAnnotations n := by
  have hkeys : ∀ k ∈ requiredAnnos, m.annotations.get k = n.annotations.get k := by
    intro k hk
    refine h.get_eq ?_
    rintro rfl
    revert hk
    decide
  unfold validateComputeNodeAnnotations
  congr 1
  simp only [requiredAnnos, List.mem_cons, List.not_mem_nil, or_false, forall_eq_or_imp,
    forall_eq] at hkeys
  simp only [requiredAnnos, List.find?_cons, List.find?_nil, hkeys.1, hkeys.2.1, hkeys.2.2]

theorem provisioner_supported {n : StorageNode} {sp : StorageProvider} {p : Rec (Except Err Held)}
    (hp : reconcileProvisioner n sp = some p) (name : String) :
    sp.provisioner ≠ .unsupported name := by
  intro hx
  simp [reconcileProvisioner, hx] at hp

/-- A pass in which `NewCluster` is called does not go on to the registration. -/
theorem provisioner_built {n : StorageNode} {sp : StorageProvider} {p : Rec (Except Err Held)}
    {tr : List Ev} {held : Held}
    (hp : reconcileProvisioner n sp = some p) (h : Run alone p tr (.ok held)) :
    sp.provisioner ≠ .cloudNativePG := by
  intro hx
  simp only [reconcileProvisioner, hx, Option.some.injEq] at hp
  subst hp
  obtain ⟨err, hx⟩ := (reconcileCloudNativePG_fails n sp).run h
  cases hx

theorem reconcile_registers {n : StorageNode} {sp : StorageProvider} {tr : List Ev} {e : Ev}
    (h : Cut alone (reconcile sp n) tr) (he : e ∈ tr) (hr : Registering (about e)) :
    ∃ m sp', Registered tr n sp (about e) m sp' := by
  unfold reconcile at h
  cases hp : reconcileProvisioner n sp with
  | none =>
    rw [hp] at h
    cases h
    cases he
  | some p =>
    rw [hp] at h
    have hkind : kind (about e) = .register ∨ kind (about e) = .proxy := by
      obtain hk | hk := hr
      · exact Or.inl hk
      · exact Or.inr (by rw [hk]; rfl)
    obtain ⟨tr₁, r, tr₂, h₁, h₂, rfl, he₂⟩ := cut_past h (reconcileProvisioner_only hp) he
      (by obtain hk | hk := hkind <;> simp [Of, hk, provisioning])
    cases r with
    | error err =>
      cases h₂
      cases he₂
    | ok held =>
      have hprov : Provisioned n held.1 := (reconcileProvisioner_yields hp).run h₁
      have hsilent : Silent tr₂ := by
        refine @silent_of [.proxy, .register, .write] _ _ _ ?_ h₂ (by decide)
        refine only_bind (only_widen (registerStorageUnit_only _ _) (by decide)) (fun r => ?_)
        cases r with
        | error err => trivial
        | ok m => exact only_widen (storeStatus_only m) (by decide)
      obtain ⟨tr₃, tr₄, hcut, -, he₃, -⟩ := cut_prior h₂ (P := Of [.write]) (fun r => by
        cases r with
        | error err => trivial
        | ok m => exact storeStatus_only m) he₂ (by obtain hk | hk := hkind <;> simp [Of, hk])
      obtain ⟨hen, hvalid, hunreg, hphase, hissued⟩ := registerStorageUnit_issues hcut he₃ hr
      refine ⟨held.1, held.2, provisioner_supported hp, provisioner_built hp h₁, hprov, ?_,
        (reconcileProvisioner_held hp h₁).imp_left Creates.left, ?_, ?_, ?_, hphase, hissued⟩
      · rw [reconcileProvisioner_observed hp h₁]
        have hnil : Silent ([] : List Ev) := fun _ he => by cases he
        exact (observed_around hnil hsilent).symm
      · rw [← hprov.get_eq (by decide)]
        exact hen
      · rw [← validate_eq hprov]
        exact hvalid
      · rw [← hprov.registered_eq]
        exact hunreg

theorem readEvents_silent {n : StorageNode} {sp : StorageProvider} : Silent (readEvents n sp) :=
  fun _ he => readEvents_kind he (by decide)

theorem Registered.after {n : StorageNode} {sp sp' : StorageProvider} {as tr : List Ev} {c : Op}
    {m : StorageNode} (h : Registered tr n sp c m sp') (ha : Silent as) :
    Registered (as ++ tr) n sp c m sp' := by
  refine { h with status_eq := ?_, held := h.held.imp_left Creates.right }
  have hnil : Silent ([] : List Ev) := fun _ he => by cases he
  have hobs : observed n (as ++ (tr ++ [])) sp.provisioner = observed n tr sp.provisioner :=
    observed_around ha hnil
  rw [List.append_nil] at hobs
  rw [h.status_eq, hobs]

theorem finalize_registers {n : StorageNode} {sp : StorageProvider} {tr : List Ev} {e : Ev}
    (h : Cut alone (finalize n sp) tr) (he : e ∈ tr) : ¬Registering (about e) := by
  have hother : ∀ {c : Op}, Of [.describe, .delete, .write] c → ¬Registering c := by
    intro c hc hr
    obtain hk | rfl := hr
    · simp [Of, hk] at hc
    · cases hc
  obtain ⟨-, hupd⟩ | ⟨-, -, hpg⟩ | ⟨-, -, hdb⟩ := finalize_cases h
  · rw [hupd e he]
    exact hother rfl
  · exact hother ((finalizeCloudNativePG_only _).events hpg e he)
  · have hunregister := (unregisterStorageUnit_unregistering (ending n)).mono
      (fun _ => unregistering_registering)
    refine (only_bind hunregister (fun r => ?_)).events hdb e he
    cases r with
    | error err => trivial
    | ok m =>
      refine only_bind ((only_widen (deleteDatabaseCluster_only m sp) (by decide)).mono
        fun _ => hother) (fun r => ?_)
      cases r with
      | error err => trivial
      | ok m => exact (only_widen (storeStatus_only m) (by decide)).mono fun _ => hother

theorem pass_registers {n : StorageNode} {sp : StorageProvider} {tr : List Ev} {e : Ev}
    (h : Cut alone (handle n sp) tr) (he : e ∈ tr) (hr : Registering (about e)) :
    ∃ m sp', Registered (readEvents n sp ++ tr) n sp (about e) m sp' := by
  obtain ⟨-, -, hfin⟩ | ⟨-, hrec⟩ | ⟨-, -, had⟩ := handle_cases h
  · exact absurd hr (finalize_registers hfin he)
  · obtain ⟨m, sp', hm⟩ := reconcile_registers hrec he hr
    exact ⟨m, sp', hm.after readEvents_silent⟩
  · have hother : about e ≠ .update (addFinalizer n) := by
      intro hx
      rw [hx] at hr
      obtain hx | hx := hr <;> cases hx
    obtain ⟨err, tr', hcut, rfl, he'⟩ := cut_past_call had he hother
    cases err with
    | some err =>
      cases hcut
      cases he'
    | none =>
      obtain ⟨m, sp', hm⟩ := reconcile_registers hcut he' hr
      have hfirst : Silent (whole (Op.update (addFinalizer n)) none []) := by
        intro e he
        simp only [whole, List.map_nil, List.cons_append, List.nil_append, List.mem_cons,
          List.not_mem_nil, or_false] at he
        obtain rfl | rfl := he <;> simp [about, kind]
      have hm' : Registered tr' n sp (about e) m sp' := by
        refine ⟨hm.supported, hm.built, ⟨hm.provisioned.1, hm.provisioned.2, hm.provisioned.3,
          hm.provisioned.4, hm.provisioned.5⟩, ?_, hm.held, hm.enabled, hm.valid,
          hm.unregistered, hm.ready, hm.issued⟩
        rw [hm.status_eq]
        cases hp : sp.provisioner with
        | cloudNativePG => exact absurd hp hm.built
        | _ => rfl
      exact ⟨m, sp', (hm'.after hfirst).after readEvents_silent⟩

end Observation

section Fresh

/-- Registration is asked for, and was not done yet. -/
structure Due (n : StorageNode) : Prop where
  enabled : n.annotations.get annotationKeyRegisterStorageUnitEnabled = "true"
  valid : validateComputeNodeAnnotations n = none
  unregistered : n.status.registered = false

/-- What the provider tells in a pass that is to register the unit of a node which was
ready at the end of an earlier one. -/
def Fresh (n : StorageNode) (tr : List Ev) : Provisioner → Prop
  | .awsRdsInstance => n.status.phase = .ready → n.status.cluster.status = "" ∧
      ∃ d, lastInstance tr = some d ∧ d.dbInstanceStatus = statusAvailable
  | .awsRdsCluster | .awsAurora => n.status.phase = .ready →
      (lastCluster tr = none ∨ ∃ c, lastCluster tr = some c ∧
        (c.status = "" ∨ c.status = statusAvailable)) ∧
      lastMembers tr ≠ [] ∧ ∀ d ∈ lastMembers tr, d.dbInstanceStatus = statusAvailable
  | .cloudNativePG => (lastPGCluster tr = none ∧ n.status.phase ≠ .ready) ∨
      ∃ c, lastPGCluster tr = some c ∧ (c.status.phase = phaseHealthy →
        allInstancesReady (c.status.instancesStatus.flatMap pgInstances) = true)
  | .unsupported _ => True

/-- What a registration has to do with the pass it is made in. -/
structure RegistersFresh (tr : List Ev) (n : StorageNode) (p : Provisioner) (c : Op) : Prop where
  phase : computePhase (observed n tr p) = .ready
  endpoint : ∀ dsName dsHost dsPort dsDBName dsUser dsPassword,
    c = .dbExec (.registerStorageUnit dsName dsHost dsPort dsDBName dsUser dsPassword) →
    ∃ endpoint ∈ endpoints tr p, dsHost = endpoint.address ∧ dsPort = uint endpoint.port
  indexes : c ≠ .panic .instances

theorem issued_fresh {tr : List Ev} {n m : StorageNode} {sp' : StorageProvider} {p : Provisioner}
    {c : Op} (hphase : computePhase (observed n tr p) = .ready)
    (hissued : Issued m sp' c)
    (hinstances : m.status.cluster.status = "" → m.status.instances ≠ [] ∧
      ∀ ins ∈ m.status.instances, ins.endpoint ∈ endpoints tr p)
    (hcluster : m.status.cluster.status ≠ "" →
      m.status.cluster.primaryEndpoint ∈ endpoints tr p) :
    RegistersFresh tr n p c := by
  refine ⟨hphase, ?_, ?_⟩
  · intro dsName dsHost dsPort dsDBName dsUser dsPassword hc
    obtain ⟨hx, -⟩ | ⟨endpoint, hsource, hreg⟩ := hissued
    · rw [hx] at hc
      cases hc
    · rw [hreg] at hc
      cases hc
      refine ⟨endpoint, ?_, rfl, rfl⟩
      obtain ⟨hs, ins, rest, hins, rfl⟩ | ⟨hs, rfl⟩ := hsource
      · exact (hinstances hs).2 ins (by simp [hins])
      · exact hcluster hs
  · rintro rfl
    obtain ⟨-, hs, hnil⟩ | ⟨endpoint, -, hreg⟩ := hissued
    · exact (hinstances hs).1 hnil
    · cases hreg

theorem instance_fresh {tr : List Ev} {n m : StorageNode} {sp sp' : StorageProvider} {c : Op}
    (h : Registered tr n sp c m sp') (hp : sp.provisioner = .awsRdsInstance)
    (hf : Fresh n tr .awsRdsInstance) : RegistersFresh tr n .awsRdsInstance c := by
  have hm := h.status_eq
  rw [hp] at hm
  have hphase : n.status.phase = .ready := by
    have hready := h.ready
    rw [hm] at hready
    exact hready
  obtain ⟨hc, d, hd, hav⟩ := hf hphase
  have hobs : observed n tr .awsRdsInstance =
      { n.status with instances := [instanceStatus d] } := by
    rw [observed, hd]
    rfl
  refine issued_fresh ?_ h.issued ?_ ?_
  · rw [hobs, computePhase_eq_ready]
    exact ⟨by simp [hphase], Or.inl hc, by simp [allInstancesReady, instanceStatus, hav]⟩
  · intro _
    rw [hm, hobs]
    refine ⟨by simp, ?_⟩
    simp [endpoints, hd, instanceStatus]
  · intro hx
    rw [hm, hobs] at hx
    exact absurd hc hx

theorem cluster_fresh {tr : List Ev} {n m : StorageNode} {sp sp' : StorageProvider} {c : Op}
    {p : Provisioner} (h : Registered tr n sp c m sp') (hp : sp.provisioner = p)
    (hcase : p = .awsRdsCluster ∨ p = .awsAurora) (hf : Fresh n tr p) :
    RegistersFresh tr n p c := by
  have hobs : observed n tr p = { n.status with
      cluster := clusterStatus (lastCluster tr)
      instances := (lastMembers tr).map instanceStatus } := by
    obtain rfl | rfl := hcase <;> rfl
  have hends : endpoints tr p = (lastCluster tr).toList.flatMap
        (fun c => [⟨c.primaryEndpoint, c.port⟩, ⟨c.readerEndpoint, c.port⟩]) ++
      (lastMembers tr).map DescInstance.endpoint := by
    obtain rfl | rfl := hcase <;> rfl
  have hm := h.status_eq
  rw [hp, hobs] at hm
  have hphase : n.status.phase = .ready := by
    have hready := h.ready
    rw [hm] at hready
    exact hready
  obtain ⟨hcl, hne, hall⟩ : (lastCluster tr = none ∨ ∃ c, lastCluster tr = some c ∧
        (c.status = "" ∨ c.status = statusAvailable)) ∧
      lastMembers tr ≠ [] ∧ ∀ d ∈ lastMembers tr, d.dbInstanceStatus = statusAvailable := by
    obtain rfl | rfl := hcase <;> exact hf hphase
  have hready : allInstancesReady ((lastMembers tr).map instanceStatus) = true := by
    rw [allInstancesReady_iff, List.forall_mem_map]
    exact ⟨by simpa using hne, hall⟩
  refine issued_fresh ?_ h.issued ?_ ?_
  · rw [hobs, computePhase_eq_ready]
    refine ⟨by simp [hphase], ?_, hready⟩
    obtain hn | ⟨c, hc, hs⟩ := hcl
    · simp [hn, clusterStatus]
    · simpa [hc, clusterStatus] using hs
  · intro _
    rw [hm, hends]
    refine ⟨by simpa using hne, fun ins hins => ?_⟩
    obtain ⟨d, hd, rfl⟩ := List.mem_map.mp hins
    exact List.mem_append_right _ (List.mem_map.mpr ⟨d, hd, rfl⟩)
  · intro hx
    rw [hm] at hx ⊢
    rw [hends]
    cases hc : lastCluster tr with
    | none => simp [hc, clusterStatus] at hx
    | some c => simp [clusterStatus]

end Fresh

/-- Whatever a pass registers is what it has just found, as long as the database is ready
when a registration is due. -/
theorem registration_fresh {aws : AwsConfig} {trs : List (List Ev)} {s : Option StorageNode}
    (h : Runs aws trs s)
    (hfresh : ∀ tr ∈ trs, ∀ n sp, Reads tr n sp → Due n → Fresh n tr sp.provisioner)
    {tr : List Ev} (htr : tr ∈ trs) {e : Ev} (he : e ∈ tr) (hr : Registering (about e)) :
    ∃ n sp, Reads tr n sp ∧ RegistersFresh tr n sp.provisioner (about e) := by
  have hkind : kind (about e) ≠ .read := by
    obtain hk | hk := hr
    · simp [hk]
    · simp [hk, kind]
  obtain ⟨n, sp, tr', rfl, hcut, he'⟩ := runs_event h htr he hkind
  have hread : Reads (readEvents n sp ++ tr') n sp := ⟨tr', rfl⟩
  refine ⟨n, sp, hread, ?_⟩
  obtain ⟨m, sp', hm⟩ := pass_registers hcut he' hr
  have hf := hfresh _ htr n sp hread ⟨hm.enabled, hm.valid, hm.unregistered⟩
  cases hp : sp.provisioner with
  | awsRdsInstance => exact instance_fresh hm hp (hp ▸ hf)
  | awsRdsCluster => exact cluster_fresh hm hp (Or.inl rfl) (hp ▸ hf)
  | awsAurora => exact cluster_fresh hm hp (Or.inr rfl) (hp ▸ hf)
  | cloudNativePG => exact absurd hp hm.built
  | unsupported name => exact absurd hp (hm.supported name)

/-- A node that is ready in one pass, and registered in the next one. -/
theorem sampleNode_registered :
    ∃ tr ∈ (passes sampleAws (some sampleNode) [availableCloud, availableCloud]).1, ∃ e ∈ tr,
      kind (about e) = .register ∧
      ∃ n sp, Reads tr n sp ∧ RegistersFresh tr n sp.provisioner (about e) := by
  have hruns : Runs sampleAws _ _ :=
    runs_passes (.created sampleNode_created) [availableCloud, availableCloud]
  have hreads : everyRead sampleAws (fun n sp => sp.provisioner = .awsRdsInstance ∧
      n.status.cluster.status = "") (some sampleNode) [availableCloud, availableCloud] = true := by
    decide +kernel
  have htold : (passes sampleAws (some sampleNode) [availableCloud, availableCloud]).1.all
      (fun tr => (lastInstance tr).any (·.dbInstanceStatus = statusAvailable)) = true := by
    decide +kernel
  have hreg : (passes sampleAws (some sampleNode) [availableCloud, availableCloud]).1.any
      (fun tr => tr.any (fun e => kind (about e) = .register)) = true := by decide +kernel
  have hfresh : ∀ tr ∈ (passes sampleAws (some sampleNode) [availableCloud, availableCloud]).1,
      ∀ n sp, Reads tr n sp → Due n → Fresh n tr sp.provisioner := by
    intro tr htr n sp h _
    obtain ⟨hp, hc⟩ := of_decide_eq_true (everyRead_reads hreads htr h)
    obtain ⟨d, hd, hav⟩ := (Option.any_eq_true _ _).mp (List.all_eq_true.mp htold tr htr)
    rw [hp]
    exact fun _ => ⟨hc, d, hd, of_decide_eq_true hav⟩
  obtain ⟨tr, htr, hany⟩ := List.any_eq_true.mp hreg
  obtain ⟨e, he, hk⟩ := List.any_eq_true.mp hany
  have hk' := of_decide_eq_true hk
  exact ⟨tr, htr, e, he, hk', registration_fresh hruns hfresh htr he (Or.inl hk')⟩

def modifyingCloud : Cloud :=
  { emptyCloud with instance_ := some { sampleInstance with dbInstanceStatus := "modifying" } }

/-- An instance that is no longer available when it is registered. -/
theorem not_all_fresh :
    ¬∀ (aws : AwsConfig) (trs : List (List Ev)) (s : Option StorageNode), Runs aws trs s →
      ∀ tr ∈ trs, ∀ e ∈ tr, Registering (about e) →
        ∃ n sp, Reads tr n sp ∧ RegistersFresh tr n sp.provisioner (about e) := by
  intro h
  have hruns : Runs sampleAws _ _ :=
    runs_pass (runs_passes (.created sampleNode_created) [availableCloud]) modifyingCloud.answer
  have hreg : (pass sampleAws modifyingCloud.answer
      (passes sampleAws (some sampleNode) [availableCloud]).2).1.any
        (fun e => kind (about e) = .register) = true := by decide +kernel
  have hobs : (passes sampleAws (some sampleNode) [availableCloud]).2.all (fun n =>
      computePhase (observed n (pass sampleAws modifyingCloud.answer (some n)).1 .awsRdsInstance) ≠
        .ready) = true := by decide +kernel
  obtain ⟨e, he, hk⟩ := List.any_eq_true.mp hreg
  obtain ⟨n, sp, hn, hf⟩ := h _ _ _ hruns _ (by simp) e he (Or.inl (of_decide_eq_true hk))
  obtain ⟨hs, rfl⟩ := pass_reads hn
  have hphase := hf.phase
  rw [hs] at hobs hphase
  exact of_decide_eq_true hobs hphase

end ShardingOnCloud.Operator.Registration
