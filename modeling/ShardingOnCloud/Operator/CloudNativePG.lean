import ShardingOnCloud.Lib.Strconv
import ShardingOnCloud.Operator.Calls

namespace ShardingOnCloud.Operator.CloudNativePG

open ShardingOnCloud.Lib.Program ShardingOnCloud.Lib.Strconv
open ShardingOnCloud.Operator.StorageNodeTypes ShardingOnCloud.Operator.Calls

/-- What a setter of the builder makes of the cluster: it panics where it writes
through a pointer that is nil. -/
abbrev Setter := String → ClusterSpec → Option ClusterSpec

def put (set : String → ClusterSpec → ClusterSpec) : Setter := fun v s => some (set v s)

def setReplicaClusterEnabled (e : Bool) (s : ClusterSpec) : Option ClusterSpec :=
  s.replicaCluster.map (fun c => { s with replicaCluster := some { c with enabled := e } })

def setReplicaClusterSource : Setter := fun v s =>
  s.replicaCluster.map (fun c => { s with replicaCluster := some { c with source := v } })

def setSuperuserSecret : Setter := fun v s =>
  s.superuserSecret.map (fun _ => { s with superuserSecret := some v })

def setCertificates (c : CertificatesConfiguration) (s : ClusterSpec) : Option ClusterSpec :=
  s.certificates.map (fun _ => { s with certificates := some c })

def setBackupRetentionPolicy : Setter := fun v s =>
  s.backup.map (fun b => { s with backup := some { b with retentionPolicy := v } })

def setBackupTarget : Setter := fun v s =>
  s.backup.map (fun b => { s with backup := some { b with target := v } })

/-- The setters before the certificates, each with the parameter it is called for.
Numbers that cannot be read are taken as `strconv` leaves them. -/
def settersBefore : List (String × Setter) :=
  [("description", put (fun v s => { s with description := v })),
   ("imageName", put (fun v s => { s with imageName := v })),
   ("imagePullPolicy", put (fun v s => { s with imagePullPolicy := v })),
   ("postgresUID", put (fun v s => { s with postgresUID := (parseInt 64 v).1 })),
   ("postgresGID", put (fun v s => { s with postgresGID := (parseInt 64 v).1 })),
   ("minSyncReplicas", put (fun v s => { s with minSyncReplicas := (atoi v).1 })),
   ("maxSyncReplicas", put (fun v s => { s with maxSyncReplicas := (atoi v).1 })),
   ("replicaCluster.enabled", fun v => setReplicaClusterEnabled (parseBool v).1),
   ("replicaCluster.source", setReplicaClusterSource),
   ("enableSuperuserAccess",
     put (fun v s => { s with enableSuperuserAccess := some (parseBool v).1 })),
   ("superuserSecret", setSuperuserSecret)]

def settersAfter : List (String × Setter) :=
  [("maxStartDelay", put (fun v s => { s with maxStartDelay := (parseInt 32 v).1 })),
   ("maxStopDelay", put (fun v s => { s with maxStopDelay := (parseInt 32 v).1 })),
   ("maxSwitchoverDelay", put (fun v s => { s with maxSwitchoverDelay := (parseInt 32 v).1 })),
   ("failoverDelay", put (fun v s => { s with failoverDelay := (parseInt 32 v).1 })),
   ("primaryUpdateStrategy", put (fun v s => { s with primaryUpdateStrategy := v })),
   ("primaryUpdateMethod", put (fun v s => { s with primaryUpdateMethod := v })),
   ("backup.retentionPolicy", setBackupRetentionPolicy),
   ("backup.target", setBackupTarget),
   ("instances", put (fun v s => { s with instances := (atoi v).1 })),
   ("storage.size", put (fun v s => { s with storageSize := v })),
   ("logLevel", put (fun v s => { s with logLevel := v }))]

def given (params : Dict) (spec : ClusterSpec) (f : String × Setter) : Option ClusterSpec :=
  if params.get f.1 = "" then some spec else f.2 (params.get f.1) spec

/-- `NewCluster`, from what `DefaultCluster` fills in. There is no cluster where it
panics. -/
def newCluster (sp : StorageProvider) : Option ClusterSpec := do
  let params := sp.parameters
  let spec ← settersBefore.foldlM (given params) {}
  let spec ← setCertificates
    { serverCASecret := params.get "certificates.serverCASecret"
      serverTLSSecret := params.get "certificates.serverTLSSecret"
      replicationTLSSecret := params.get "certificates.replicationTLSSecret"
      clientCASecret := params.get "certificates.clientCASecret"
      serverAltDNSNames := [params.get "certificates.ServerAltDNSNames"] } spec
  settersAfter.foldlM (given params) spec

theorem settersBefore_certificates : ∀ f ∈ settersBefore, ∀ {v : String} {s s' : ClusterSpec},
    f.2 v s = some s' → s'.certificates = s.certificates := by
  intro f hf v s s' h
  simp only [settersBefore, List.mem_cons, List.not_mem_nil, or_false] at hf
  obtain rfl | rfl | rfl | rfl | rfl | rfl | rfl | rfl | rfl | rfl | rfl := hf
  case inr.inr.inr.inr.inr.inr.inr.inl | inr.inr.inr.inr.inr.inr.inr.inr.inl |
      inr.inr.inr.inr.inr.inr.inr.inr.inr.inr =>
    obtain ⟨c, -, rfl⟩ := Option.map_eq_some_iff.mp h
    rfl
  all_goals
    cases h
    rfl

theorem given_certificates {params : Dict} : ∀ {fs : List (String × Setter)},
    fs ⊆ settersBefore → ∀ {s s' : ClusterSpec}, fs.foldlM (given params) s = some s' →
      s'.certificates = s.certificates := by
  intro fs
  induction fs with
  | nil =>
    intro _ s s' h
    cases h
    rfl
  | cons f fs ih =>
    intro hfs s s' h
    rw [List.foldlM_cons] at h
    obtain ⟨t, ht, hrest⟩ := Option.bind_eq_some_iff.mp h
    rw [ih (fun g hg => hfs (List.mem_cons_of_mem f hg)) hrest]
    unfold given at ht
    split at ht
    · cases ht
      rfl
    · exact settersBefore_certificates f (hfs List.mem_cons_self) ht

/-- `SetCertificates` writes through a pointer that `DefaultCluster` leaves nil. -/
theorem newCluster_panics (sp : StorageProvider) : newCluster sp = none := by
  refine Option.bind_eq_none_iff.mpr (fun spec hspec => ?_)
  have hnil : spec.certificates = none := given_certificates (List.Subset.refl _) hspec
  rw [setCertificates, hnil]
  rfl

def getClusterByNamespacedName (name nameSpace : String) :
    Rec (Except ApiErr (Option PGCluster)) := do
  match ← op (.getPGCluster name nameSpace) with
  | .error (.notFound _) => return .ok none
  | .error err => return .error err
  | .ok c => return .ok (some c)

end ShardingOnCloud.Operator.CloudNativePG
