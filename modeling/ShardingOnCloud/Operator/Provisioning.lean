import ShardingOnCloud.Operator.StorageNodeRuns

namespace ShardingOnCloud.Operator.Provisioning

open ShardingOnCloud.Lib.Program ShardingOnCloud.Lib.Pool ShardingOnCloud.Lib.Footprint
open ShardingOnCloud.Operator.StorageNodeTypes ShardingOnCloud.Operator.Calls
open ShardingOnCloud.Operator.StorageNodeController ShardingOnCloud.Operator.StorageNodeSpec
open ShardingOnCloud.Operator.ComputeNodeTypes (ComputeNode Service ServicePort)
open ShardingOnCloud.Operator.StorageNodeRuns

/-- A node that is being deleted is handed to the code for the others: it no longer has the
finalizer of this controller, and neither the provisioner nor the guard of the RDS
instance stops the creation. -/
structure Recreates (n : StorageNode) (sp : StorageProvider) : Prop where
  deletionTimestamp : n.deletionTimestamp = true
  finalizer : finalizerName ∉ n.finalizers
  provisioner : reconcileProvisioner n sp ≠ none
  unguarded : sp.provisioner = .awsRdsInstance → n.status.phase ≠ .deleting

abbrev NoCreate (c : Op) : Prop := kind c ≠ .create

theorem reconcileAwsRdsInstance_deleting {n : StorageNode} {sp : StorageProvider}
    (h : n.status.phase = .deleting) : Only (Of [.describe]) (reconcileAwsRdsInstance n sp) := by
  refine only_bind (getInstance_only _) (fun r => ?_)
  cases r with
  | error err => trivial
  | ok ins =>
    dsimp only
    rw [if_neg (fun hx => hx.2 h)]
    trivial

theorem reconcile_spares {n : StorageNode} {sp : StorageProvider}
    (h : reconcileProvisioner n sp = none ∨
      (sp.provisioner = .awsRdsInstance ∧ n.status.phase = .deleting)) :
    Only NoCreate (reconcile sp n) := by
  unfold reconcile
  obtain hp | ⟨hp, hphase⟩ := h
  · rw [hp]
    trivial
  · have hsome : reconcileProvisioner n sp = some (reconcileAwsRdsInstance n sp) := by
      rw [reconcileProvisioner, hp]
    rw [hsome]
    refine only_bind (only_avoids (reconcileAwsRdsInstance_deleting hphase) (by decide))
      (fun r => ?_)
    cases r with
    | error err => trivial
    | ok held =>
      refine only_bind (only_avoids (registerStorageUnit_only _ _) (by decide)) (fun r => ?_)
      cases r with
      | error err => trivial
      | ok m => exact only_avoids (storeStatus_only m) (by decide)

theorem handle_spares {n : StorageNode} {sp : StorageProvider}
    (hd : n.deletionTimestamp = true) (hn : ¬Recreates n sp) : Only NoCreate (handle n sp) := by
  unfold handle
  rw [if_neg (by simp [hd])]
  split
  · exact only_avoids (finalize_only n sp) (by decide)
  · rename_i hf
    refine reconcile_spares ?_
    by_contra hx
    refine hn ⟨hd, hf, fun hp => hx (Or.inl hp), fun hp hphase => hx (Or.inr ⟨hp, hphase⟩)⟩

/-- A deletion is never taken back. -/
theorem deletion_path {s t : Option StorageNode} {tr : List Ev} (h : api.Path s tr t)
    (hs : ∀ m, s = some m → m.deletionTimestamp = true) :
    ∀ m, t = some m → m.deletionTimestamp = true := by
  exact api_path_keeps (P := fun _ => True) (fun _ _ h _ => h) (fun _ _ h _ => h)
    (fun _ _ => trivial) h hs

theorem deletion_stays {aws : AwsConfig} {trs : List (List Ev)} {s : Option StorageNode}
    (h : Runs aws trs s) {tr : List Ev} {n : StorageNode} (htr : tr ∈ trs) (hn : Observes tr n)
    (hd : n.deletionTimestamp = true) : ∀ m, s = some m → m.deletionTimestamp = true := by
  induction h with
  | created _ => cases htr
  | @pass trs s t tr' hr hc hp ih =>
    refine deletion_path hp ?_
    rcases List.mem_append.mp htr with htr | htr
    · exact ih htr
    · cases List.mem_singleton.mp htr
      rw [hn.stored hp]
      rintro m ⟨⟩
      exact hd
  | edit hr he ih =>
    intro m hm
    rw [settle_eq_some hm]
    exact he.deletion (ih htr _ rfl)

theorem nothing_created_after_deletion {aws : AwsConfig} {pre post : List (List Ev)}
    {first : List Ev} {s : Option StorageNode} {n₀ : StorageNode}
    (h : Runs aws (pre ++ first :: post) s) (hfirst : Observes first n₀)
    (hd : n₀.deletionTimestamp = true)
    (hsafe : ∀ tr ∈ first :: post, ∀ n sp, Reads tr n sp → ¬Recreates n sp) :
    ∀ tr ∈ first :: post, ∀ e ∈ tr, kind (about e) ≠ .create := by
  have hdeleted : ∀ tr ∈ first :: post, ∀ n, Observes tr n → n.deletionTimestamp = true := by
    intro tr htr n hn
    rcases List.mem_cons.mp htr with rfl | htr
    · rw [hn.unique hfirst]
      exact hd
    · obtain ⟨a, b, rfl⟩ := List.mem_iff_append.mp htr
      rw [← List.cons_append, ← List.append_assoc] at h
      obtain ⟨s₁, t₁, hr, -, hp⟩ := runs_split h
      exact deletion_stays hr (by simp) hfirst hd n (hn.stored hp)
  intro tr htr e he hk
  obtain ⟨a, b, hab⟩ := List.mem_iff_append.mp (List.mem_append_right pre htr)
  rw [hab] at h
  obtain ⟨-, -, -, hc, -⟩ := runs_split h
  obtain hread | ⟨n, sp, tr', rfl, hcut⟩ := pass_cases hc
  · rw [hread e he] at hk
    cases hk
  · have hreads : Reads (readEvents n sp ++ tr') n sp := ⟨tr', rfl⟩
    have honly := handle_spares (hdeleted _ htr n hreads.observes) (hsafe _ htr n sp hreads)
    rcases List.mem_append.mp he with he | he
    · exact absurd hk (readEvents_kind he (by decide))
    · exact honly.events hcut e he hk

def dict (entries : List (String × String)) : Dict := fun k => entries.lookup k

def sampleAws : AwsConfig := ⟨"us-east-1", "key", "secret"⟩

def sampleComputeNode : ComputeNode where
  objectMeta := ⟨"proxy", "default", ∅, fun _ => none⟩
  selector := some ∅
  portBindings := none
  serviceType := .clusterIP
  serverConfig := ⟨[⟨"root@%", "root"⟩], fun _ => none⟩
  agentPlugins := none

def sampleService : Service where
  objectMeta := ⟨"proxy", "default", ∅, fun _ => none⟩
  spec :=
    { type := .clusterIP
      selector := ∅
      ports := [⟨"", "TCP", none, 3307, .int 3307, 0⟩] }

def sampleAnnotations : Dict := dict
  [(annotationsInstanceIdentifier, "db-1"), (annotationsClusterIdentifier, "db-1"),
   (annotationsInstanceDBName, "app"),
   (annotationKeyRegisterStorageUnitEnabled, "true"), (annotationKeyLogicDatabaseName, "sharding"),
   (annotationKeyComputeNodeName, "proxy")]

def sampleNode : StorageNode where
  name := "node-1"
  nameSpace := "default"
  annotations := sampleAnnotations
  finalizers := []
  deletionTimestamp := false
  storageProviderName := "rds"
  replicas := 1
  status := {}

theorem sampleNode_created : Created sampleNode := ⟨rfl, rfl⟩

def sampleParameters : Dict := dict
  [("engine", "mysql"), ("engineVersion", "8.0"), ("instanceClass", "db.t3.small"),
   ("masterUsername", "admin"), ("masterUserPassword", "password1"), ("allocatedStorage", "20")]

def sampleProvider : StorageProvider := ⟨.awsRdsInstance, sampleParameters, .retain⟩

def sampleInstance : DescInstance := ⟨"available", ⟨"db-1.rds", 3306⟩⟩

def emptyCloud : Cloud :=
  { computeNode := sampleComputeNode, service := sampleService, provider := sampleProvider }

def availableCloud : Cloud := { emptyCloud with instance_ := some sampleInstance }

def deletedAfter (n : StorageNode) : Option StorageNode :=
  delete (passes sampleAws (some n) [availableCloud]).2

theorem deletedAfter_runs {n : StorageNode} (hn : Created n) (ws : List Cloud) :
    Runs sampleAws
      ((passes sampleAws (some n) [availableCloud]).1 ++ (passes sampleAws (deletedAfter n) ws).1)
      (passes sampleAws (deletedAfter n) ws).2 :=
  runs_passes (runs_delete (runs_passes (.created hn) [availableCloud])) ws

theorem observes_deleted {s : Option StorageNode} {w : Cloud}
    (h : s.any (·.deletionTimestamp) = true) :
    ∃ n, Observes (pass sampleAws w.answer s).1 n ∧ n.deletionTimestamp = true := by
  cases s with
  | none => cases h
  | some n => exact ⟨n, pass_observes, h⟩

theorem sampleNode_spared :
    (deletedAfter sampleNode).any (·.deletionTimestamp) = true ∧
    ∀ tr ∈ (passes sampleAws (deletedAfter sampleNode) [availableCloud, emptyCloud, emptyCloud]).1,
      ∀ e ∈ tr, kind (about e) ≠ .create := by
  have hd : (deletedAfter sampleNode).any (·.deletionTimestamp) = true := by decide +kernel
  have hreads : everyRead sampleAws (fun n _ => finalizerName ∈ n.finalizers)
      (deletedAfter sampleNode) [availableCloud, emptyCloud, emptyCloud] = true := by decide +kernel
  obtain ⟨n₀, hn₀, hdel⟩ := observes_deleted (w := availableCloud) hd
  refine ⟨hd, nothing_created_after_deletion (deletedAfter_runs sampleNode_created (_ :: _)) hn₀
    hdel ?_⟩
  intro tr htr n sp h hrec
  exact hrec.finalizer (of_decide_eq_true (everyRead_reads hreads htr h))

def heldNode : StorageNode := { sampleNode with finalizers := ["foregroundDeletion"] }

/-- The database is deleted, and made anew once the finalizer is gone. -/
theorem not_all_spared :
    ¬∀ (aws : AwsConfig) (pre : List (List Ev)) (first : List Ev) (post : List (List Ev))
      (s : Option StorageNode) (n₀ : StorageNode), Runs aws (pre ++ first :: post) s →
      Observes first n₀ → n₀.deletionTimestamp = true →
      ∀ tr ∈ first :: post, ∀ e ∈ tr, kind (about e) ≠ .create := by
  intro h
  have hd : (deletedAfter heldNode).any (·.deletionTimestamp) = true := by decide +kernel
  have hmade : ((passes sampleAws (deletedAfter heldNode)
      [availableCloud, emptyCloud, emptyCloud, emptyCloud]).1.any
        (fun tr => tr.any (fun e => kind (about e) = .create))) = true := by decide +kernel
  obtain ⟨n₀, hn₀, hdel⟩ := observes_deleted (w := availableCloud) hd
  obtain ⟨tr, htr, hany⟩ := List.any_eq_true.mp hmade
  obtain ⟨e, he, hk⟩ := List.any_eq_true.mp hany
  exact h _ _ _ _ _ _ (deletedAfter_runs ⟨rfl, rfl⟩ (_ :: _)) hn₀ hdel tr htr e he (of_decide_eq_true hk)

end ShardingOnCloud.Operator.Provisioning
