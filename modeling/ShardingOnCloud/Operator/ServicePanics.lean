import ShardingOnCloud.Operator.ComputeNodeService

namespace ShardingOnCloud.Operator.ServicePanics

open ShardingOnCloud.Lib.Program ShardingOnCloud.Lib.Footprint
open ShardingOnCloud.Operator.StorageNodeTypes ShardingOnCloud.Operator.ComputeNodeTypes
open ShardingOnCloud.Operator.ComputeNodeService

variable {cn : ComputeNode}

def ExporterSet (cn : ComputeNode) : Prop :=
  ∃ plugins metrics, cn.agentPlugins = some plugins ∧ plugins.metrics = some metrics

theorem prometheusPort_isSome (cn : ComputeNode) : (prometheusPort cn).isSome ↔ ExporterSet cn := by
  unfold prometheusPort ExporterSet
  cases cn.agentPlugins with
  | none => simp
  | some plugins => cases hm : plugins.metrics <;> simp [hm]

/-- The loop over the ports reads the port of the exporter, and so does the port that is added
where there is none to change. -/
theorem newService_isSome (hselector : cn.selector.isSome) :
    (newService cn).isSome ↔ (agentEnabled cn = true → ExporterSet cn) := by
  obtain ⟨selector, hs⟩ := Option.isSome_iff_exists.mp hselector
  rw [← prometheusPort_isSome]
  unfold newService
  rw [hs]
  cases agentEnabled cn with
  | false => simp
  | true => cases prometheusPort cn <;> simp

section Paths

theorem buildService_safe (h : (newService cn).isSome) : Only (· ≠ .panic) (buildService cn) := by
  obtain ⟨svc, hsvc⟩ := Option.isSome_iff_exists.mp h
  rw [buildService, hsvc]
  trivial

theorem op_safe {c : Op} (h : c ≠ .panic) : Only (· ≠ .panic) (op c) := ⟨h, fun _ => trivial⟩

theorem createService_safe (h : (newService cn).isSome) :
    Only (· ≠ .panic) (createService cn) := by
  refine only_bind (buildService_safe h) (fun svc => ?_)
  refine only_bind (op_safe (by simp)) (fun err => ?_)
  split <;> trivial

theorem syncService_safe (h : (newService cn).isSome) (s : Service) :
    Only (· ≠ .panic) (syncService cn s) := by
  refine only_bind (buildService_safe h) (fun svc => ?_)
  refine only_ite (only_bind (op_safe (by simp)) (fun err => ?_)) trivial
  split <;> trivial

theorem updateComputeNodePortBindings_safe (cn : ComputeNode) :
    Only (· ≠ .panic) (updateComputeNodePortBindings cn) := by
  refine only_bind (op_safe (by simp)) (fun rt => ?_)
  split
  · trivial
  · refine only_bind (op_safe (by simp)) (fun err => ?_)
    split <;> trivial

/-- The port bindings are changed before the Service is built, and it does not depend on them
whether there is a panic. -/
theorem adjusted_isSome {cn' : ComputeNode} {s : Service} (hselector : cn.selector.isSome)
    (h : adjustPortBindings cn s = some cn') :
    (newService cn').isSome ↔ (newService cn).isSome := by
  have hother : cn'.selector = cn.selector ∧ cn'.objectMeta = cn.objectMeta ∧
      cn'.agentPlugins = cn.agentPlugins := by
    unfold adjustPortBindings at h
    split at h <;> cases h <;> exact ⟨rfl, rfl, rfl⟩
  obtain ⟨hs, hmeta, hplugins⟩ := hother
  rw [newService_isSome (hs ▸ hselector), newService_isSome hselector]
  unfold agentEnabled ExporterSet
  rw [hmeta, hplugins]

theorem updateService_safe (hselector : cn.selector.isSome) (h : (newService cn).isSome)
    (s : Service) : Only (· ≠ .panic) (updateService cn s) := by
  unfold updateService
  dsimp only
  split
  · exact syncService_safe h s
  · rename_i cn' hadjust
    split
    · exact updateComputeNodePortBindings_safe cn'
    · exact syncService_safe ((adjusted_isSome hselector hadjust).mpr h) s

end Paths

/-- A Service is built on every path, unless the agent is enabled and the plugin for its metrics
is left out. -/
theorem service_built_iff (cn : ComputeNode) (hselector : cn.selector.isSome) :
    ((newService cn).isSome ∧ Only (· ≠ .panic) (createService cn) ∧
      ∀ s, Only (· ≠ .panic) (updateService cn s)) ↔
    (agentEnabled cn = true →
      ∃ plugins metrics, cn.agentPlugins = some plugins ∧ plugins.metrics = some metrics) := by
  constructor
  · rintro ⟨h, -, -⟩
    exact (newService_isSome hselector).mp h
  · intro hset
    have h := (newService_isSome hselector).mpr hset
    exact ⟨h, createService_safe h, updateService_safe hselector h⟩

section Samples

def enabledAnnotations : Dict :=
  Dict.set (fun _ => none) defaultAnnotationJavaAgentEnabled "true"

def agentNode (plugins : Option AgentPlugin) : ComputeNode where
  objectMeta := ⟨"proxy", "default", ∅, enabledAnnotations⟩
  selector := some ∅
  portBindings := none
  serviceType := .clusterIP
  serverConfig := ⟨[], fun _ => none⟩
  agentPlugins := plugins

theorem agentNode_built :
    (newService (agentNode (some { metrics := some { prometheusPort := 9090 } }))).isSome :=
  ((service_built_iff (agentNode (some { metrics := some { prometheusPort := 9090 } })) rfl).mpr
    (fun _ => ⟨_, _, rfl, rfl⟩)).1

/-- The metrics are not configured. -/
theorem not_all_services_built :
    ¬∀ cn : ComputeNode, cn.selector.isSome → (newService cn).isSome ∧
      Only (· ≠ .panic) (createService cn) ∧ ∀ s, Only (· ≠ .panic) (updateService cn s) := by
  intro h
  have hsome := (h (agentNode (some { metrics := none })) rfl).1
  rw [newService_isSome rfl] at hsome
  obtain ⟨plugins, metrics, hplugins, hmetrics⟩ := hsome (by decide)
  cases hplugins
  cases hmetrics

end Samples

end ShardingOnCloud.Operator.ServicePanics
