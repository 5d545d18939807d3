import Mathlib.Data.List.Flatten
import ShardingOnCloud.Operator.BuiltPods

namespace ShardingOnCloud.Operator.PodFeatures

open ShardingOnCloud.Lib.Slices
open ShardingOnCloud.Operator.ComputeNodeTypes ShardingOnCloud.Operator.ComputeNodeService
open ShardingOnCloud.Operator.ComputeNodeDeployment ShardingOnCloud.Operator.BuiltPods

section Features

/-- What a part of the pods brings with it: mounts of the proxy, init containers and volumes. -/
structure Feature where
  mounts : List VolumeMount
  inits : List Container
  volumes : List Volume

def configFeature (cn : ComputeNode) : Feature := ⟨[configMount], [], [(configVolume cn).volume]⟩

def agentFeature (cn : ComputeNode) : Feature :=
  ⟨[agentConfigMount, agentMount], [agentInit cn],
    [(agentConfigVolume cn).volume, agentVolume.volume]⟩

def scriptFeature : Feature :=
  ⟨[scriptMount "/opt/shardingsphere-proxy/bin"],
    [mounted [scriptMount "/opt/shardingsphere-proxy/tmpbin"] startScriptsContainer],
    [scriptVolume.volume]⟩

def jarFeature (version : String) : Feature :=
  ⟨[jarMount version], [jarInit version], [(mysqlVolume version).volume]⟩

def assembled (c : Container) (fs : List Feature) : PodSpec where
  containers := [c]
  initContainers := fs.flatMap (·.inits)
  volumes := fs.flatMap (·.volumes)

structure Carries (fs : List Feature) (c : Container) : Prop where
  name_eq : c.name = "shardingsphere-proxy"
  mounts_eq : c.volumeMounts = fs.flatMap (·.mounts)

variable (semver : Semver) (cn : ComputeNode)

def agentFeatures : List Feature :=
  if agentEnabled cn then
    agentFeature cn :: if replacesScript semver cn then [scriptFeature] else []
  else []

def jarFeatures : List Feature :=
  match cn.storageNodeConnector with
  | some connector => if connector.type = .mySQL then [jarFeature connector.version] else []
  | none => []

def features : List Feature := [configFeature cn] ++ agentFeatures semver cn ++ jarFeatures cn

end Features

section Build

variable (room : ℕ → Bool) (semver : Semver) (cn : ComputeNode) {d : Builder} {a : ℕ}
  {c : Container} {fs : List Feature}

theorem Carries.mounted (h : Carries fs c) (c' : Container) (gs : List Feature)
    (hname : c'.name = c.name)
    (hmounts : c'.volumeMounts = c.volumeMounts ++ gs.flatMap (·.mounts)) :
    Carries (fs ++ gs) c' := by
  refine ⟨hname.trans h.name_eq, ?_⟩
  rw [hmounts, h.mounts_eq, List.flatMap_append]

theorem agent_holds (h : Holds d a (assembled c fs)) (hc : Carries fs c)
    (hbin : Free (fs.flatMap (·.inits)) "download-agent-bin-jar")
    (hscript : Free (fs.flatMap (·.inits)) "replace-start-script") :
    ∃ d' c', (if agentEnabled cn then setAgentBin room semver cn d else some d) = some d' ∧
      Holds d' a (assembled c' (fs ++ agentFeatures semver cn)) ∧
      Carries (fs ++ agentFeatures semver cn) c' := by
  unfold agentFeatures
  by_cases hagent : agentEnabled cn = true
  · obtain ⟨d', e, h'⟩ := setAgentBin_holds room semver cn h hc.name_eq hbin hscript
    simp only [if_pos hagent]
    refine ⟨d', agentContainer semver cn c, e, ?_, hc.mounted _ _ ?_ ?_⟩
    · convert h' using 1
      unfold assembled withAgent scriptInits scriptVolumes
      split <;> simp [agentFeature, scriptFeature]
    · exact (started_same semver cn c).1
    · unfold agentContainer BuiltPods.mounted scriptMounts
      rw [(started_same semver cn c).2]
      split <;> simp [agentFeature, scriptFeature]
  · simp only [if_neg hagent, List.append_nil]
    exact ⟨d, c, rfl, h, hc⟩

theorem connector_holds (h : Holds d a (assembled c fs)) (hc : Carries fs c)
    (hfree : Free (fs.flatMap (·.inits)) "download-mysql-jar") :
    ∃ d' c', setConnector room cn d = some d' ∧
      Holds d' a (assembled c' (fs ++ jarFeatures cn)) ∧ Carries (fs ++ jarFeatures cn) c' := by
  have same : ∃ d' c', some d = some d' ∧ Holds d' a (assembled c' (fs ++ [])) ∧
      Carries (fs ++ []) c' := ⟨d, c, rfl, by rwa [List.append_nil], by rwa [List.append_nil]⟩
  unfold setConnector jarFeatures
  cases cn.storageNodeConnector with
  | none => exact same
  | some connector =>
    by_cases htype : connector.type = .mySQL
    · obtain ⟨d', e, h'⟩ := setMySQLConnector_holds room h hc.name_eq connector.version hfree
      simp only [if_pos htype]
      refine ⟨d', jarContainer connector.version c, e, ?_, hc.mounted _ _ rfl rfl⟩
      convert h' using 1
      simp [assembled, withJar, jarFeature]
    · simp only [if_neg htype]
      exact same

theorem agentFeatures_free :
    Free (([configFeature cn] ++ agentFeatures semver cn).flatMap (·.inits))
      "download-mysql-jar" := by
  have hagent : "download-agent-bin-jar" ≠ "download-mysql-jar" := by decide
  have hscript : "replace-start-script" ≠ "download-mysql-jar" := by decide
  intro c hc
  unfold agentFeatures at hc
  split at hc
  · split at hc
    · have hmem : c = agentInit cn ∨ c ∈ scriptFeature.inits := by
        simpa [configFeature, agentFeature] using hc
      rcases hmem with rfl | hmem
      · exact hagent
      · rw [List.mem_singleton.mp hmem]
        exact hscript
    · have hmem : c = agentInit cn := by simpa [configFeature, agentFeature] using hc
      exact hmem ▸ hagent
  · simp [configFeature] at hc

theorem init_holds (dp : Deployment) : Holds { deployment := dp } 0 {} :=
  ⟨rfl, Nat.zero_ne_one, Nat.zero_lt_two, Nat.one_lt_two, rfl⟩

theorem proxyContainer_carries :
    Carries [configFeature cn] (mounted [configMount] (proxyContainer cn)) := by
  unfold proxyContainer buildProbes
  refine ⟨?_, ?_⟩
  · split <;> rfl
  · split <;> rfl

/-- The Deployment has the pods of the features, and labels are all that their metadata has. -/
theorem buildDeployment_spec :
    ∃ d c, buildDeployment room semver cn = some d ∧ d.objectMeta = cn.objectMeta ∧
      d.template.objectMeta = { noMeta with labels := cn.objectMeta.labels } ∧
      d.template.spec = assembled c (features semver cn) ∧ Carries (features semver cn) c := by
  let dp : Deployment := {
    selector := cn.selector
    replicas := some cn.replicas
    rollingUpdate := some { maxUnavailable := some (.int 0), maxSurge := some (.int 3) } }
  obtain ⟨h₁, ho₁⟩ := (init_holds dp).newContainer (proxyContainer cn)
  have h₂ := h₁.appendVolumes [(configVolume cn).volume]
  have ho₂ := ho₁.appendVolumes [(configVolume cn).volume]
  have h₃ := h₂.modify_own ho₂ (mounted [configMount])
  have ho₃ := ho₂.modify (mounted [configMount])
  obtain ⟨a, h₄⟩ := h₃.appendContainers room [mounted [configMount] (proxyContainer cn)]
  have hnone : ∀ name, Free ([configFeature cn].flatMap (·.inits)) name := by
    intro name c hc
    simp [configFeature] at hc
  obtain ⟨b₅, c₅, e₅, h₅, hc₅⟩ := agent_holds room semver cn h₄ (proxyContainer_carries cn)
    (hnone _) (hnone _)
  obtain ⟨b₆, c₆, e₆, h₆, hc₆⟩ := connector_holds room cn h₅ hc₅ (agentFeatures_free semver cn)
  let tpl : PodTemplateSpec :=
    { objectMeta := { noMeta with labels := cn.objectMeta.labels }, spec := b₆.buildPodSpec }
  have hspec : buildSpec room semver cn {} = some (b₆.setPodTemplateSpec tpl) := by
    unfold buildSpec
    refine Option.bind_eq_some_iff.mpr ⟨_, rfl, ?_⟩
    refine Option.bind_eq_some_iff.mpr ⟨_, ho₃.load_eq, ?_⟩
    refine Option.bind_eq_some_iff.mpr ⟨b₅, e₅, ?_⟩
    exact Option.bind_eq_some_iff.mpr ⟨b₆, e₆, rfl⟩
  exact ⟨_, c₆, Option.bind_eq_some_iff.mpr ⟨_, hspec, rfl⟩, rfl, rfl, h₆.pod_eq, hc₆⟩

end Build

section WellFormed

def allContainers (pod : PodSpec) : List Container := pod.containers ++ pod.initContainers

structure WellFormed (pod : PodSpec) : Prop where
  declared : ∀ c ∈ allContainers pod, ∀ m ∈ c.volumeMounts, ∃ v ∈ pod.volumes, v.name = m.name
  volumes_nodup : (pod.volumes.map (·.name)).Nodup
  names_nodup : ((allContainers pod).map (·.name)).Nodup
  paths_nodup : ∀ c ∈ allContainers pod, (c.volumeMounts.map (·.mountPath)).Nodup
  one_proxy : (pod.containers.filter (·.name = "shardingsphere-proxy")).length = 1

def volumeNames (f : Feature) : List String := f.volumes.map (·.name)

def initNames (f : Feature) : List String := f.inits.map (·.name)

def mountPaths (f : Feature) : List String := f.mounts.map (·.mountPath)

structure Sound (f : Feature) : Prop where
  mounts : f.mounts.map (·.name) ⊆ volumeNames f
  init_mounts : ∀ c ∈ f.inits, c.volumeMounts.map (·.name) ⊆ volumeNames f
  init_paths : ∀ c ∈ f.inits, (c.volumeMounts.map (·.mountPath)).Nodup

theorem declared_of_feature {fs : List Feature} {f : Feature} (hf : f ∈ fs)
    {ms : List VolumeMount} (h : ms.map (·.name) ⊆ volumeNames f) {m : VolumeMount}
    (hm : m ∈ ms) : ∃ v ∈ fs.flatMap (·.volumes), v.name = m.name := by
  obtain ⟨v, hv, hname⟩ := List.mem_map.mp (h (List.mem_map_of_mem hm))
  exact ⟨v, List.mem_flatMap.mpr ⟨f, hf, hv⟩, hname⟩

theorem assembled_wellFormed {fs : List Feature} {c : Container} (hc : Carries fs c)
    (hsound : ∀ f ∈ fs, Sound f) (hvolumes : (fs.flatMap volumeNames).Nodup)
    (hnames : ("shardingsphere-proxy" :: fs.flatMap initNames).Nodup)
    (hpaths : (fs.flatMap mountPaths).Nodup) : WellFormed (assembled c fs) := by
  refine ⟨?_, ?_, ?_, ?_, ?_⟩
  · intro c' hc' m hm
    rcases List.mem_cons.mp hc' with rfl | hc'
    · rw [hc.mounts_eq] at hm
      obtain ⟨f, hf, hm⟩ := List.mem_flatMap.mp hm
      exact declared_of_feature hf (hsound f hf).mounts hm
    · obtain ⟨f, hf, hc'⟩ := List.mem_flatMap.mp hc'
      exact declared_of_feature hf ((hsound f hf).init_mounts c' hc') hm
  · rw [assembled, List.map_flatMap]
    exact hvolumes
  · rw [allContainers, assembled, List.map_append, List.map_flatMap, List.map_singleton,
      hc.name_eq]
    exact hnames
  · intro c' hc'
    rcases List.mem_cons.mp hc' with rfl | hc'
    · rw [hc.mounts_eq, List.map_flatMap]
      exact hpaths
    · obtain ⟨f, hf, hc'⟩ := List.mem_flatMap.mp hc'
      exact (hsound f hf).init_paths c' hc'
  · simp [assembled, hc.name_eq]

variable (semver : Semver) (cn : ComputeNode)

def everyFeature (version : String) : List Feature :=
  [configFeature cn, agentFeature cn, scriptFeature, jarFeature version]

theorem features_sublist : ∃ version, (features semver cn).Sublist (everyFeature cn version) := by
  have hagent : (agentFeatures semver cn).Sublist [agentFeature cn, scriptFeature] := by
    unfold agentFeatures
    split
    · refine List.Sublist.cons_cons _ ?_
      split
      · exact List.Sublist.refl _
      · exact List.nil_sublist _
    · exact List.nil_sublist _
  have hjar : ∃ version, (jarFeatures cn).Sublist [jarFeature version] := by
    unfold jarFeatures
    split
    · split
      · exact ⟨_, List.Sublist.refl _⟩
      · exact ⟨"", List.nil_sublist _⟩
    · exact ⟨"", List.nil_sublist _⟩
  obtain ⟨version, hjar⟩ := hjar
  exact ⟨version, ((List.Sublist.refl [configFeature cn]).append hagent).append hjar⟩

theorem sound_of_init {ms : List VolumeMount} {c : Container} {m : VolumeMount} {vs : List Volume}
    (hc : c.volumeMounts = [m]) (hms : ms.map (·.name) ⊆ vs.map (·.name))
    (hm : m.name ∈ vs.map (·.name)) : Sound ⟨ms, [c], vs⟩ := by
  refine ⟨hms, ?_, ?_⟩
  · intro c' hc'
    rw [List.mem_singleton.mp hc', hc]
    exact List.cons_subset.mpr ⟨hm, List.nil_subset _⟩
  · intro c' hc'
    rw [List.mem_singleton.mp hc', hc]
    exact List.nodup_singleton _

theorem everyFeature_sound (version : String) : ∀ f ∈ everyFeature cn version, Sound f := by
  have hconfig : Sound (configFeature cn) :=
    ⟨List.Subset.refl _, fun c hc => absurd hc List.not_mem_nil,
      fun c hc => absurd hc List.not_mem_nil⟩
  have hagent : Sound (agentFeature cn) :=
    sound_of_init (m := agentMount) rfl (List.Subset.refl _) (.tail _ (.head _))
  have hscript : Sound scriptFeature := sound_of_init rfl (List.Subset.refl _) (.head _)
  have hjar : Sound (jarFeature version) := sound_of_init rfl (List.Subset.refl _) (.head _)
  intro f hf
  simp only [everyFeature, List.mem_cons, List.not_mem_nil, or_false] at hf
  rcases hf with rfl | rfl | rfl | rfl
  · exact hconfig
  · exact hagent
  · exact hscript
  · exact hjar

theorem jarPath_ne (version : String) {path : String}
    (h : ¬ defaultExtlibPath.toList <+: path.toList) :
    path ≠ absoluteMySQLDriverMountName defaultExtlibPath version := by
  rintro rfl
  apply h
  rw [absoluteMySQLDriverMountName, String.toList_append, String.toList_append, List.append_assoc]
  exact List.prefix_append _ _

theorem everyFeature_paths (version : String) :
    ((everyFeature cn version).flatMap mountPaths).Nodup := by
  let fixed := [defaultConfigVolumeMountPath, defaultJavaAgentConfigVolumeMountPath,
    defaultJavaAgentVolumeMountPath, "/opt/shardingsphere-proxy/bin"]
  have hfixed : fixed.Nodup := by decide
  have houtside : ∀ path ∈ fixed, ¬ defaultExtlibPath.toList <+: path.toList := by decide
  show (fixed ++ [absoluteMySQLDriverMountName defaultExtlibPath version]).Nodup
  refine List.nodup_append'.mpr ⟨hfixed, List.nodup_singleton _, ?_⟩
  intro path hpath hjar
  exact jarPath_ne version (houtside path hpath) (List.mem_singleton.mp hjar)

theorem buildDeployment_wellFormed (room : ℕ → Bool) :
    ∃ d, buildDeployment room semver cn = some d ∧ WellFormed d.template.spec := by
  obtain ⟨d, c, hd, -, -, hpod, hc⟩ := buildDeployment_spec room semver cn
  obtain ⟨version, hsub⟩ := features_sublist semver cn
  refine ⟨d, hd, ?_⟩
  rw [hpod]
  apply assembled_wellFormed hc
  · exact fun f hf => everyFeature_sound cn version f (hsub.subset hf)
  · have hall : ((everyFeature cn version).flatMap volumeNames).Nodup := by
      show ([defaultConfigVolumeName, defaultJavaAgentConfigVolumeName,
        defaultJavaAgentVolumeName, "replace-start-script",
        defaultMySQLDriverVolumeName] : List String).Nodup
      decide
    exact hall.sublist (hsub.flatMap _)
  · have hall : ("shardingsphere-proxy" :: (everyFeature cn version).flatMap initNames).Nodup := by
      show ["shardingsphere-proxy", "download-agent-bin-jar", "replace-start-script",
        "download-mysql-jar"].Nodup
      decide
    exact hall.sublist ((hsub.flatMap _).cons_cons _)
  · exact (everyFeature_paths cn version).sublist (hsub.flatMap _)

end WellFormed

section Annotations

variable (room : ℕ → Bool) (semver : Semver) (cn : ComputeNode)

def metricsKeys : List String :=
  [commonAnnotationPrometheusMetricsPath, commonAnnotationPrometheusMetricsPort,
   commonAnnotationPrometheusMetricsScrape, commonAnnotationPrometheusMetricsScheme]

def MetricsReach (tpl : PodTemplateSpec) : Prop :=
  tpl.objectMeta.labels = cn.objectMeta.labels ∧
    ∀ k ∈ metricsKeys, tpl.objectMeta.annotations k = some (cn.objectMeta.annotations.get k)

/-- The template that the annotations were written to is replaced by one that has none. -/
theorem template_annotations :
    ∃ d, buildDeployment room semver cn = some d ∧
      d.template.objectMeta.labels = cn.objectMeta.labels ∧
      ∀ k, d.template.objectMeta.annotations k = none := by
  obtain ⟨d, -, hd, -, hmeta, -⟩ := buildDeployment_spec room semver cn
  refine ⟨d, hd, ?_, ?_⟩
  · rw [hmeta]
  · intro k
    rw [hmeta]
    rfl

theorem not_metricsReach {d : Deployment} (hd : buildDeployment room semver cn = some d) :
    ¬MetricsReach cn d.template := by
  rintro ⟨-, hcarried⟩
  obtain ⟨d', hd', -, hnone⟩ := template_annotations room semver cn
  have hpath := hcarried commonAnnotationPrometheusMetricsPath (.head _)
  rw [hd] at hd'
  rw [Option.some.inj hd', hnone] at hpath
  simp only [reduceCtorEq] at hpath

/-- The annotations for the metrics do not reach the pods of any ComputeNode with the agent. -/
theorem metrics_never_reach (_hagent : agentEnabled cn = true) :
    (∃ d, buildDeployment room semver cn = some d ∧
      d.template.objectMeta.labels = cn.objectMeta.labels ∧
      ∀ k, d.template.objectMeta.annotations k = none) ∧
    ¬∃ d, buildDeployment room semver cn = some d ∧ MetricsReach cn d.template := by
  refine ⟨template_annotations room semver cn, ?_⟩
  rintro ⟨d, hd, hreach⟩
  exact not_metricsReach room semver cn hd hreach

/-- The numbers of a version like `v5.3.2`. -/
def versionNumbers (v : String) : Option (List ℕ) :=
  match v.toList with
  | 'v' :: cs =>
    if cs.all (fun ch => ch.isDigit || ch = '.') then
      some ((cs.splitOn '.').map (fun ds => ds.foldl (fun n ch => 10 * n + (ch.toNat - 48)) 0))
    else none
  | _ => none

def plainSemver : Semver where
  isValid v := (versionNumbers v).any (·.length = 3)
  compare v w :=
    let ns := (versionNumbers v).getD []
    let ms := (versionNumbers w).getD []
    if ns < ms then -1 else if ms < ns then 1 else 0

def scrapedNode : ComputeNode where
  objectMeta := ⟨"proxy", "default", ∅, fun k =>
    [(defaultAnnotationJavaAgentEnabled, "true"),
     (commonAnnotationPrometheusMetricsPath, "/metrics"),
     (commonAnnotationPrometheusMetricsPort, "9090"),
     (commonAnnotationPrometheusMetricsScrape, "true"),
     (commonAnnotationPrometheusMetricsScheme, "http")].lookup k⟩
  selector := some ∅
  portBindings := none
  serviceType := .clusterIP
  serverConfig := ⟨[], fun _ => none⟩
  agentPlugins := none
  serverVersion := "5.3.2"

theorem scrapedNode_agentEnabled : agentEnabled scrapedNode = true := by decide

theorem scrapedNode_unscraped :
    agentEnabled scrapedNode = true ∧
      ¬∃ d, buildDeployment (fun _ => false) plainSemver scrapedNode = some d ∧
        MetricsReach scrapedNode d.template :=
  ⟨scrapedNode_agentEnabled,
    (metrics_never_reach (fun _ => false) plainSemver scrapedNode scrapedNode_agentEnabled).2⟩

theorem not_all_metrics_reach :
    ¬∀ (room : ℕ → Bool) (semver : Semver) (cn : ComputeNode), agentEnabled cn = true →
      ∃ d, buildDeployment room semver cn = some d ∧ MetricsReach cn d.template := by
  intro h
  obtain ⟨d, hd, hreach⟩ := h (fun _ => false) plainSemver scrapedNode scrapedNode_agentEnabled
  exact not_metricsReach _ _ _ hd hreach

end Annotations

end ShardingOnCloud.Operator.PodFeatures
