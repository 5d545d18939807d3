import ShardingOnCloud.Operator.PodFeatures

namespace ShardingOnCloud.Operator.MountedConfig

open ShardingOnCloud.Operator.StorageNodeTypes ShardingOnCloud.Operator.ComputeNodeTypes
open ShardingOnCloud.Operator.ComputeNodeService ShardingOnCloud.Operator.ComputeNodeDeployment
open ShardingOnCloud.Operator.BuiltPods ShardingOnCloud.Operator.PodFeatures

section ConfigMaps

def configDataKeyForLogback : String := "logback.xml"
def configDataKeyForServer : String := "server.yaml"
def annoLogbackConfig : String := "computenode.shardingsphere.org/logback"
def defaultServerConfig : String := "# Empty file is needed"

def defaultLogback : String :=
  "<?xml version=\"1.0\"?>\n" ++
  "<configuration>\n" ++
  "    <appender name=\"console\" class=\"ch.qos.logback.core.ConsoleAppender\">\n" ++
  "        <encoder>\n" ++
  "            <pattern>[%-5level] %d\x7byyyy-MM-dd HH:mm:ss.SSS\x7d [%thread]" ++
    " %logger\x7b36\x7d - %msg%n</pattern>\n" ++
  "        </encoder>\n" ++
  "    </appender>\n" ++
  "    <appender name=\"sqlConsole\" class=\"ch.qos.logback.core.ConsoleAppender\">\n" ++
  "        <encoder>\n" ++
  "            <pattern>[%-5level] %d\x7byyyy-MM-dd HH:mm:ss.SSS\x7d [%thread]" ++
    " [%X\x7bdatabase\x7d] [%X\x7buser\x7d] [%X\x7bhost\x7d] %logger\x7b36\x7d - %msg%n</pattern>\n" ++
  "        </encoder>\n" ++
  "    </appender>\n" ++
  "    \n" ++
  "    <logger name=\"ShardingSphere-SQL\" level=\"info\" additivity=\"false\">\n" ++
  "        <appender-ref ref=\"sqlConsole\" />\n" ++
  "    </logger>\n" ++
  "    <logger name=\"org.apache.shardingsphere\" level=\"info\" additivity=\"false\">\n" ++
  "        <appender-ref ref=\"console\" />\n" ++
  "    </logger>\n" ++
  "    \n" ++
  "    <logger name=\"com.zaxxer.hikari\" level=\"error\" />\n" ++
  "    \n" ++
  "    <logger name=\"com.atomikos\" level=\"error\" />\n" ++
  "    \n" ++
  "    <logger name=\"io.netty\" level=\"error\" />\n" ++
  "    \n" ++
  "    <root>\n" ++
  "        <level value=\"info\" />\n" ++
  "        <appender-ref ref=\"console\" />\n" ++
  "    </root>\n" ++
  "</configuration> \n"

structure GroupVersionKind where
  group : String
  version : String
  kind : String
  deriving DecidableEq, Repr

structure ConfigMap where
  objectMeta : ObjectMeta
  data : Dict

/-- How configurations are written out: whether the one of the server is the zero value, and what
`yaml.Marshal` makes of them. -/
structure Rendering where
  zeroServerConfig : ServerConfig → Bool
  marshalServerConfig : ServerConfig → Option String
  marshalAgentConfig : AgentPlugin → Option String

def defaultConfigMap : ConfigMap where
  objectMeta := ⟨"shardingsphere-proxy", "default", ∅, fun _ => none⟩
  data := fun _ => none

def setKey (data : Dict) (k : String) (v : Option String) : Dict :=
  match v with
  | some v => data.set k v
  | none => data

/-- `SetData` of the builder for ComputeNodes, which takes the keys that it knows. -/
def setData (current data : Dict) : Dict :=
  setKey (setKey (setKey current configDataKeyForServer (data configDataKeyForServer))
    configDataKeyForLogback (data configDataKeyForLogback))
    configDataKeyForAgent (data configDataKeyForAgent)

variable (r : Rendering) (gvk : GroupVersionKind) (cn : ComputeNode)

/-- What `Build` collects. The agent is configured when it has plugins. -/
def computeNodeData : Dict :=
  let logback := cn.objectMeta.annotations.get annoLogbackConfig
  let data : Dict := Dict.set (fun _ => none) configDataKeyForLogback
    (if 0 < logback.length then logback else defaultLogback)
  let data := setKey data configDataKeyForServer
    (if r.zeroServerConfig cn.serverConfig then some defaultServerConfig
     else r.marshalServerConfig cn.serverConfig)
  setKey data configDataKeyForAgent (cn.agentPlugins.bind r.marshalAgentConfig)

def computeNodeKind : GroupVersionKind := ⟨"shardingsphere.apache.org", "v1alpha1", "ComputeNode"⟩

def chaosKind : GroupVersionKind :=
  ⟨"shardingsphere.apache.org", "v1alpha1", "ShardingSphereChaos"⟩

/-- `NewConfigMap` for a ComputeNode, by the kind that it says it is of. The builder for Chaos
returns nothing for an object of another type. -/
def newConfigMap : Option ConfigMap :=
  if gvk = computeNodeKind then
    some ⟨cn.objectMeta, setData defaultConfigMap.data (computeNodeData r cn)⟩
  else if gvk = chaosKind then none
  else some defaultConfigMap

end ConfigMaps

section Keys

variable (r : Rendering) (cn : ComputeNode)

theorem setKey_self (data : Dict) (k : String) (v : Option String) :
    setKey data k v k = v.or (data k) := by
  cases v with
  | none => rfl
  | some v => exact Function.update_self k (some v) data

theorem setKey_ne (data : Dict) {k k' : String} (v : Option String) (h : k' ≠ k) :
    setKey data k v k' = data k' := by
  cases v with
  | none => rfl
  | some v => exact Function.update_of_ne h (some v) data

theorem agent_ne_server : configDataKeyForAgent ≠ configDataKeyForServer := by decide

theorem agent_ne_logback : configDataKeyForAgent ≠ configDataKeyForLogback := by decide

theorem agentKey_eq :
    setData defaultConfigMap.data (computeNodeData r cn) configDataKeyForAgent =
      cn.agentPlugins.bind r.marshalAgentConfig := by
  have hdata : computeNodeData r cn configDataKeyForAgent =
      cn.agentPlugins.bind r.marshalAgentConfig := by
    unfold computeNodeData
    rw [setKey_self, setKey_ne _ _ agent_ne_server, Dict.set,
      Function.update_of_ne agent_ne_logback, Option.or_none]
  unfold setData
  rw [setKey_self, hdata, setKey_ne _ _ agent_ne_logback, setKey_ne _ _ agent_ne_server]
  exact Option.or_none

end Keys

section Mounts

variable (room : ℕ → Bool) (semver : Semver) (r : Rendering) (gvk : GroupVersionKind)
  (cn : ComputeNode)

/-- The ConfigMaps that the pods of a Deployment mount are this one, and it has the keys that are
mounted. -/
def Mounted (cm : ConfigMap) (d : Deployment) : Prop :=
  ∀ v ∈ d.template.spec.volumes, ∀ source, v.configMap = some source →
    (source.name = cm.objectMeta.name ∧ d.objectMeta.nameSpace = cm.objectMeta.nameSpace) ∧
      ∀ item ∈ source.items, (cm.data item.key).isSome

def configSource : ConfigMapVolumeSource := ⟨cn.objectMeta.name, []⟩

def agentSource : ConfigMapVolumeSource :=
  ⟨cn.objectMeta.name, [⟨configDataKeyForAgent, configDataKeyForAgent⟩]⟩

def sources (f : Feature) : List ConfigMapVolumeSource := f.volumes.filterMap (·.configMap)

theorem agentFeatures_sources :
    (agentFeatures semver cn).flatMap sources =
      if agentEnabled cn then [agentSource cn] else [] := by
  unfold agentFeatures
  by_cases hagent : agentEnabled cn = true
  · rw [if_pos hagent, if_pos hagent]
    split <;> rfl
  · rw [if_neg hagent, if_neg hagent]
    rfl

theorem jarFeatures_sources : (jarFeatures cn).flatMap sources = [] := by
  unfold jarFeatures
  split
  · split <;> rfl
  · rfl

/-- The ConfigMap of the ComputeNode is mounted, and once more with the key of the agent. -/
theorem mem_features_sources (source : ConfigMapVolumeSource) :
    (∃ v ∈ (features semver cn).flatMap (·.volumes), v.configMap = some source) ↔
      source = configSource cn ∨ agentEnabled cn = true ∧ source = agentSource cn := by
  have hall : (features semver cn).flatMap sources =
      configSource cn :: if agentEnabled cn then [agentSource cn] else [] := by
    rw [features, List.flatMap_append, List.flatMap_append, agentFeatures_sources,
      jarFeatures_sources, List.append_nil]
    rfl
  have hmem : (∃ v ∈ (features semver cn).flatMap (·.volumes), v.configMap = some source) ↔
      source ∈ (features semver cn).flatMap sources := by
    unfold sources
    rw [← List.filterMap_flatMap]
    exact List.mem_filterMap.symm
  rw [hmem, hall, List.mem_cons]
  split <;> simp_all

def ConfigWritten : Prop :=
  if gvk = computeNodeKind then
    agentEnabled cn = true →
      ∃ plugins, cn.agentPlugins = some plugins ∧ (r.marshalAgentConfig plugins).isSome
  else
    gvk ≠ chaosKind ∧ cn.objectMeta.name = "shardingsphere-proxy" ∧
      cn.objectMeta.nameSpace = "default" ∧ agentEnabled cn = false

theorem agentRendered_iff :
    (cn.agentPlugins.bind r.marshalAgentConfig).isSome ↔
      ∃ plugins, cn.agentPlugins = some plugins ∧ (r.marshalAgentConfig plugins).isSome := by
  cases cn.agentPlugins with
  | none => simp
  | some plugins => simp

theorem mounted_iff {d : Deployment} (cm : ConfigMap)
    (hd : buildDeployment room semver cn = some d) :
    Mounted cm d ↔
      (cn.objectMeta.name = cm.objectMeta.name ∧
        cn.objectMeta.nameSpace = cm.objectMeta.nameSpace) ∧
      (agentEnabled cn = true → (cm.data configDataKeyForAgent).isSome) := by
  obtain ⟨d', c, hd', hmeta, -, hpod, -⟩ := buildDeployment_spec room semver cn
  rw [hd] at hd'
  rw [← Option.some.inj hd'] at hmeta hpod
  have hsources := mem_features_sources semver cn
  unfold Mounted
  rw [hmeta, hpod]
  refine ⟨?_, ?_⟩
  · intro h
    obtain ⟨v, hv, hsource⟩ := (hsources (configSource cn)).mpr (.inl rfl)
    refine ⟨(h v hv _ hsource).1, ?_⟩
    intro hagent
    obtain ⟨w, hw, hsource'⟩ := (hsources (agentSource cn)).mpr (.inr ⟨hagent, rfl⟩)
    exact (h w hw _ hsource').2 _ (.head _)
  · rintro ⟨hname, hkey⟩ v hv source hsource
    rcases (hsources source).mp ⟨v, hv, hsource⟩ with rfl | ⟨hagent, rfl⟩
    · exact ⟨hname, fun item hitem => absurd hitem List.not_mem_nil⟩
    · refine ⟨hname, ?_⟩
      intro item hitem
      rw [List.mem_singleton.mp hitem]
      exact hkey hagent

theorem config_mounted_iff :
    (∃ d cm, buildDeployment room semver cn = some d ∧ newConfigMap r gvk cn = some cm ∧
      Mounted cm d) ↔ ConfigWritten r gvk cn := by
  obtain ⟨d, -, hd, -⟩ := buildDeployment_spec room semver cn
  have hmounted := fun cm => mounted_iff room semver cn cm hd
  have hbuilt : (∃ d cm, buildDeployment room semver cn = some d ∧
      newConfigMap r gvk cn = some cm ∧ Mounted cm d) ↔
      ∃ cm, newConfigMap r gvk cn = some cm ∧ Mounted cm d := by
    refine ⟨?_, ?_⟩
    · rintro ⟨d', cm, hd', hcm, h⟩
      rw [hd] at hd'
      exact ⟨cm, hcm, Option.some.inj hd' ▸ h⟩
    · rintro ⟨cm, hcm, h⟩
      exact ⟨d, cm, hd, hcm, h⟩
  rw [hbuilt]
  unfold ConfigWritten newConfigMap
  by_cases hnode : gvk = computeNodeKind
  · simp only [if_pos hnode, Option.some.injEq, exists_eq_left', hmounted, agentKey_eq,
      ← agentRendered_iff, and_self, true_and]
  · by_cases hchaos : gvk = chaosKind
    · rw [if_neg hnode, if_neg hnode, if_pos hchaos]
      simp [hchaos]
    · simp only [if_neg hnode, if_neg hchaos, Option.some.injEq, exists_eq_left', hmounted]
      simp [defaultConfigMap, hchaos, and_assoc]

/-- The agent is switched on and has no configuration, so that the key is not there however
configurations are written out. -/
theorem not_all_configs_mounted :
    ¬∃ (room : ℕ → Bool) (semver : Semver) (r : Rendering) (d : Deployment) (cm : ConfigMap),
      buildDeployment room semver scrapedNode = some d ∧
        newConfigMap r computeNodeKind scrapedNode = some cm ∧ Mounted cm d := by
  rintro ⟨room, semver, r, d, cm, hd, hcm, hmounted⟩
  have hkey := ((mounted_iff room semver scrapedNode cm hd).mp hmounted).2 scrapedNode_agentEnabled
  rw [newConfigMap, if_pos rfl] at hcm
  rw [← Option.some.inj hcm] at hkey
  have hnone := agentKey_eq r scrapedNode
  dsimp only at hkey
  rw [hnone] at hkey
  cases hkey

end Mounts

end ShardingOnCloud.Operator.MountedConfig
