import ShardingOnCloud.Operator.StorageNodeController

namespace ShardingOnCloud.Operator.PGReadiness

open ShardingOnCloud.Operator.StorageNodeTypes ShardingOnCloud.Operator.Calls
open ShardingOnCloud.Operator.StorageNodeController

def observed (node : StorageNode) (cluster : PGCluster) : StorageNodeStatus :=
  computeDesiredState (updateCloudNativePGClusterStatus node (some cluster)).status

def Ailing (s : String × List String) : Prop :=
  s.2 ≠ [] ∧ s.1 ≠ podHealthy ∧ s.1 ≠ statusAvailable

variable {node : StorageNode} {cluster : PGCluster}

theorem updated_phase :
    (updateCloudNativePGClusterStatus node (some cluster)).status.phase ≠ .deleting := by
  change (if _ then Phase.ready else Phase.notReady) ≠ _
  split <;> simp

/-- A cluster that is not healthy has the status of one that is not there. -/
theorem updated_cluster :
    (updateCloudNativePGClusterStatus node (some cluster)).status.cluster.status = "" ∨
      (updateCloudNativePGClusterStatus node (some cluster)).status.cluster.status =
        statusAvailable := by
  change (if _ then "available" else "") = _ ∨ (if _ then "available" else "") = _
  split
  · exact Or.inr rfl
  · exact Or.inl rfl

theorem pgInstances_ready {s : String × List String} :
    (∀ i ∈ pgInstances s, i.status = statusAvailable) ↔ ¬ Ailing s := by
  obtain ⟨state, pods⟩ := s
  simp only [pgInstances, List.forall_mem_map, Ailing]
  by_cases hs : state = podHealthy
  · simp [hs, statusAvailable]
  · simp only [if_neg hs]
    constructor
    · rintro h ⟨hne, -, hav⟩
      obtain ⟨pod, hpod⟩ := List.exists_mem_of_ne_nil pods hne
      exact hav (h pod hpod)
    · intro h pod hpod
      by_contra hav
      exact h ⟨List.ne_nil_of_mem hpod, hs, hav⟩

theorem instances_ready :
    allInstancesReady (cluster.status.instancesStatus.flatMap pgInstances) = true ↔
      (∃ s ∈ cluster.status.instancesStatus, s.2 ≠ []) ∧
        ∀ s ∈ cluster.status.instancesStatus, ¬ Ailing s := by
  have hsome : cluster.status.instancesStatus.flatMap pgInstances ≠ [] ↔
      ∃ s ∈ cluster.status.instancesStatus, s.2 ≠ [] := by
    simp [List.flatMap_eq_nil_iff, pgInstances]
  have hall : (∀ i ∈ cluster.status.instancesStatus.flatMap pgInstances,
      i.status = statusAvailable) ↔ ∀ s ∈ cluster.status.instancesStatus, ¬ Ailing s := by
    simp only [List.forall_mem_flatMap, pgInstances_ready]
  rw [allInstancesReady_iff, hsome, hall]

theorem observed_ready : (observed node cluster).phase = .ready ↔
    (∃ s ∈ cluster.status.instancesStatus, s.2 ≠ []) ∧
      ∀ s ∈ cluster.status.instancesStatus, ¬ Ailing s := by
  rw [observed, computeDesiredState_phase, computePhase_eq_ready, ← instances_ready]
  exact ⟨fun h => h.2.2, fun h => ⟨updated_phase, updated_cluster, h⟩⟩

/-- The phase of the cluster does not count: a node is only kept from being ready by its pods. -/
theorem pg_ready_only_healthy_iff (node : StorageNode) (cluster : PGCluster) :
    ((observed node cluster).phase = .ready → cluster.status.phase = phaseHealthy) ↔
      cluster.status.phase = phaseHealthy ∨
        (∀ s ∈ cluster.status.instancesStatus, s.2 = []) ∨
        ∃ s ∈ cluster.status.instancesStatus, Ailing s := by
  rw [observed_ready]
  constructor
  · intro h
    by_contra hnot
    simp only [not_or, not_forall, not_exists, not_and, exists_prop] at hnot
    exact hnot.1 (h ⟨hnot.2.1, hnot.2.2⟩)
  · rintro (h | h | ⟨s, hs, hail⟩) ⟨⟨s', hs', hne⟩, hall⟩
    · exact h
    · exact absurd (h s' hs') hne
    · exact absurd hail (hall s hs)

def readyNode : StorageNode where
  name := "pg"
  nameSpace := "default"
  annotations := fun _ => none
  finalizers := [finalizerName]
  deletionTimestamp := false
  storageProviderName := "cloud-native-pg"
  replicas := 1
  status := { phase := .ready }

def failingOver : PGCluster where
  name := "pg"
  nameSpace := "default"
  spec := {}
  status := ⟨"Failing over", "pg-rw", "pg-ro", [(podHealthy, ["pg-2"])]⟩

theorem not_all_ready_clusters_healthy : readyNode.status.phase ≠ .deleting ∧
    (observed readyNode failingOver).phase = .ready ∧
    failingOver.status.phase ≠ phaseHealthy := by
  decide

end ShardingOnCloud.Operator.PGReadiness
